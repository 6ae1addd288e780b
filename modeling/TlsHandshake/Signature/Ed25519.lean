import TlsHandshake.Curve.Edwards25519
import TlsHandshake.Hash.Sha2

set_option autoImplicit false

/-! # Ed25519 signatures (RFC 8032 §5.1)

Verification compares the signature's point as bytes with the recomputed one, without multiplying by
the cofactor, and hashes the public key as it was given. -/

namespace TlsHandshake.Ed25519

open Edwards25519

/-- A number from bytes, least significant first. -/
private def number (bytes : Bytes) : Nat := Bytes.toNat bytes.reverse

/-- The 32 bytes of a number, least significant first. -/
private def bytes32 (n : Nat) : Bytes := (Bytes.ofNat 32 n).reverse

/-- The secret scalar of a seed: the lower half of its hash with the three lowest bits and the top
    bit cleared and the bit below the top set. -/
def secretScalar (seed : Bytes) : Nat :=
  let n := number ((sha512 seed).take 32)
  n % (1 <<< 254) / 8 * 8 + (1 <<< 254)

/-- The public key of a seed. -/
def publicKey (seed : Bytes) : Bytes := (Point.base.scale (secretScalar seed)).compress

/-- The scalar that binds a signature's point, the key and the message. -/
private def challenge (point key message : Bytes) : Nat :=
  number (sha512 (point ++ key ++ message)) % order

/-- The 64-byte signature of a message. -/
def sign (seed message : Bytes) : Bytes :=
  let key := publicKey seed
  let nonce := number (sha512 ((sha512 seed).drop 32 ++ message)) % order
  let point := (Point.base.scale nonce).compress
  let s := (nonce + challenge point key message * secretScalar seed) % order
  point ++ bytes32 s

theorem length_sign (seed message : Bytes) : (sign seed message).length = 64 := by
  simp only [sign, bytes32, List.length_append, Point.length_compress, List.length_reverse,
    Bytes.length_ofNat]

/-- Whether `signature` is one of `message` under `key`; nothing when the key is not a point. -/
def verify? (key message signature : Bytes) : Option Bool := do
  let P ← Point.decompress? key
  if signature.length != 64 then return false
  let point := signature.take 32
  let s := number (signature.drop 32)
  if order ≤ s then return false
  let k := challenge point key message
  return ((Point.base.scale s).add (P.neg.scale k)).compress == point

end TlsHandshake.Ed25519
