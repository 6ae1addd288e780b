import TlsHandshake.Error
import TlsHandshake.Signature.Ed25519
import TlsHandshake.Signature.EcdsaP256
import TlsHandshake.X509.Certificate

set_option autoImplicit false

/-! # Public keys of peers

The key in the peer's leaf certificate, and whether it verifies a signature. A key of a type that is
not supported is kept as its bits; nothing verifies under it. -/

namespace TlsHandshake

/-- The public key of a leaf certificate. -/
inductive PublicKey where
  /-- The 32 bytes of an Ed25519 key. -/
  | ed25519 (bytes : Bytes)
  /-- An encoded point of P-256. -/
  | ecdsaP256 (point : Bytes)
  | other (bits : Bytes)
  deriving DecidableEq, Repr

namespace PublicKey

/-! ## Certificates -/

/-- The object identifier of Ed25519 keys, `1.3.101.112`. -/
def ed25519Id : Bytes := [0x2b, 0x65, 0x70]

/-- The object identifier of elliptic-curve keys, `1.2.840.10045.2.1`. -/
def ecId : Bytes := [0x2a, 0x86, 0x48, 0xce, 0x3d, 0x02, 0x01]

/-- The key of a certificate. An elliptic-curve key of 65 bytes is one of P-256 whatever
    curve its parameters name. -/
def ofCertificate (c : X509.Certificate) : Except CertificateFault PublicKey :=
  if c.keyAlgorithm = ed25519Id then
    if c.keyBits.length = 32 then .ok (.ed25519 c.keyBits) else .error .ed25519KeyLength
  else if c.keyAlgorithm = ecId && c.keyBits.length = 65 then
    if (P256.Point.decode? c.keyBits).isSome then .ok (.ecdsaP256 c.keyBits)
    else .error .invalidP256Point
  else if c.keyBits.isEmpty then .error .emptyPublicKey
  else .ok (.other c.keyBits)

/-- The certificate that `der` starts with. -/
def readCertificate (der : Bytes) : Except CertificateFault X509.Certificate :=
  match X509.Certificate.parse? der with
  | none => .error .malformed
  | some (c, _) => .ok c

/-! ## Verification -/

private def orInvalidKey (answer : Option Bool) : Except CryptoError Bool :=
  match answer with
  | some b => .ok b
  | none => .error .invalidKey

/-- Whether `signature` is one of `message` under a scheme. A scheme of another key type verifies
    nothing; one that no key type verifies is an error. -/
def verify (key : PublicKey) (scheme : SignatureScheme) (message signature : Bytes) :
    Except CryptoError Bool :=
  match key with
  | .ed25519 bytes =>
      if scheme = .ed25519 then orInvalidKey (Ed25519.verify? bytes message signature)
      else mismatch scheme
  | .ecdsaP256 point =>
      if scheme = .ecdsaP256Sha256 then orInvalidKey (EcdsaP256.verify? point message signature)
      else mismatch scheme
  | .other _ => mismatch scheme
where
  /-- The answer for a scheme that is not the key's. -/
  mismatch (scheme : SignatureScheme) : Except CryptoError Bool :=
    if SignatureScheme.verifiable.contains scheme then .ok false
    else .error (.unsupportedScheme scheme)

end PublicKey

end TlsHandshake
