import TlsHandshake.Der
import TlsHandshake.Signature.EcdsaP256

set_option autoImplicit false

/-! # P-256 keys in PKCS#8 (RFC 5208, RFC 5958, RFC 5915)

A private key is a version, the algorithm (elliptic-curve key on P-256) and an octet string around
an elliptic-curve private key: version one, the scalar, optionally the curve and the public key. The
outer structure has a public key exactly in version one; the inner one is checked against the scalar
if it is there. -/

namespace TlsHandshake.Pkcs8

/-- The object identifier of elliptic-curve keys, `1.2.840.10045.2.1`. -/
def ecPublicKey : Bytes := [0x2a, 0x86, 0x48, 0xce, 0x3d, 0x02, 0x01]

/-- The object identifier of P-256, `1.2.840.10045.3.1.7`. -/
def prime256v1 : Bytes := [0x2a, 0x86, 0x48, 0xce, 0x3d, 0x03, 0x01, 0x07]

/-- The outer structure, down to the octets of the inner one. -/
def outer : Der Bytes := Der.sequence do
  let version ← Der.natural 1
  if 1 < version then failure
  let (algorithm, curve) ← Der.sequence (do return (← Der.objectId, ← Der.objectId))
  if algorithm != ecPublicKey || curve != prime256v1 then failure
  let key ← Der.octetString
  let publicKey ← Der.optionalField 1 (do Der.wholeBits (← Der.tagged 0x81))
  if (version = 1) != publicKey.isSome then failure
  Der.skipFields ((← get).length + 1)
  return key

/-- The inner structure: the scalar's bytes and the public key's, if there is one. -/
def inner : Der (Bytes × Option Bytes) := Der.sequence do
  if (← Der.natural 1) != 1 then failure
  let scalar ← Der.octetString
  let _ ← Der.optionalField 0 (do Der.inside (← Der.tagged 0xa0) Der.objectId)
  let publicKey ← Der.optionalField 1 do
    let bits ← Der.inside (← Der.tagged 0xa1) (Der.tagged 0x03)
    Der.wholeBits bits
  return (scalar, publicKey)

/-- Whether `encoding` is the uncompressed or the compressed form of `P`. -/
def encodes (encoding : Bytes) (P : P256.Point) : Bool :=
  match encoding with
  | 4 :: _ => encoding == P.encode
  | tag :: x => tag == (if P.y % 2 = 0 then 2 else 3) && x == Bytes.ofNat 32 P.x
  | [] => false

/-- The 32 bytes of the secret scalar in a PKCS#8 structure. -/
def scalar? (der : Bytes) : Option Bytes := do
  let key ← Der.inside der outer
  let (bytes, publicKey) ← Der.inside key inner
  let d ← EcdsaP256.secretScalar? bytes
  let P ← EcdsaP256.publicPoint d
  match publicKey with
  | some encoding => if encodes encoding P then return Bytes.ofNat 32 d else none
  | none => return Bytes.ofNat 32 d

end TlsHandshake.Pkcs8
