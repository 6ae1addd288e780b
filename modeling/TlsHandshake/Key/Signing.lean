import TlsHandshake.Key.Pkcs8
import TlsHandshake.Key.Public

set_option autoImplicit false

/-! # Signing keys

A private key held in memory, and what a signer answers to the handshake. -/

namespace TlsHandshake

/-- A private key held in memory. -/
inductive SigningKey where
  /-- An Ed25519 seed; only one of 32 bytes is usable. -/
  | ed25519 (seed : Bytes)
  /-- A scalar of P-256, most significant byte first. -/
  | ecdsaP256 (scalar : Bytes)
  deriving DecidableEq, Repr

/-- A signer's answer. -/
inductive SignResult where
  | success (signature : Bytes)
  /-- The signature is not ready yet. -/
  | retry
  | failure
  deriving DecidableEq, Repr

namespace SigningKey

/-- The P-256 key of a PKCS#8 structure. -/
def ofPkcs8 (der : Bytes) : Except CryptoError SigningKey :=
  match Pkcs8.scalar? der with
  | some scalar => .ok (.ecdsaP256 scalar)
  | none => .error .invalidKey

/-- The public half of a key. -/
def publicKey : SigningKey → Except CryptoError PublicKey
  | ed25519 seed =>
      if seed.length = 32 then .ok (.ed25519 (Ed25519.publicKey seed)) else .error .invalidKey
  | ecdsaP256 scalar =>
      match (EcdsaP256.secretScalar? scalar).bind EcdsaP256.publicPoint with
      | some P => .ok (.ecdsaP256 P.encode)
      | none => .error .invalidKey

/-- The schemes the key signs with. -/
def schemes : SigningKey → List SignatureScheme
  | ed25519 _ => [.ed25519]
  | ecdsaP256 _ => [.ecdsaP256Sha256]

/-- The length of the longest signature. -/
def maxSignatureLength : SigningKey → Nat
  | ed25519 _ => 64
  | ecdsaP256 _ => 72

/-- The signature of a message under a scheme. -/
def signMessage (key : SigningKey) (scheme : SignatureScheme) (message : Bytes) :
    Except CryptoError Bytes :=
  if !key.schemes.contains scheme then .error (.unsupportedScheme scheme)
  else match key with
    | ed25519 seed =>
        if seed.length = 32 then .ok (Ed25519.sign seed message) else .error .invalidKey
    | ecdsaP256 scalar =>
        match (EcdsaP256.secretScalar? scalar).bind (EcdsaP256.sign? · message) with
        | some signature => .ok signature
        | none => .error .invalidKey

/-- What the key answers when asked to sign within `maxLength` bytes. -/
def sign (key : SigningKey) (scheme : SignatureScheme) (message : Bytes) (maxLength : Nat) :
    SignResult :=
  match key.signMessage scheme message with
  | .ok signature => if signature.length ≤ maxLength then .success signature else .failure
  | .error _ => .failure

end SigningKey

end TlsHandshake
