set_option autoImplicit false

/-! # Signature schemes (RFC 8446 §4.2.3)

A scheme is its 16-bit code. Two of them can be verified here. -/

namespace TlsHandshake

/-- A signature scheme, known or not. -/
structure SignatureScheme where
  code : UInt16
  deriving DecidableEq, Repr

namespace SignatureScheme

def ed25519 : SignatureScheme := ⟨0x0807⟩

def ecdsaP256Sha256 : SignatureScheme := ⟨0x0403⟩

/-- The schemes that can be verified, the preferred one first. -/
def verifiable : List SignatureScheme := [ed25519, ecdsaP256Sha256]

/-- The code as `0x` and four hexadecimal digits. -/
def hexCode (s : SignatureScheme) : String :=
  let n := s.code.toNat
  "0x" ++ String.ofList ([n / 4096, n / 256 % 16, n / 16 % 16, n % 16].map Nat.digitChar)

end SignatureScheme

end TlsHandshake
