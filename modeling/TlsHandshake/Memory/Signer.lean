import TlsHandshake.Environment

set_option autoImplicit false

/-! # Signers with delays

A signer around a signing key that may say that it has other schemes or another bound than its key,
may put off its answer a number of times, may always fail, or may answer with a given signature.
With nothing set it answers as its key does, at once. -/

namespace TlsHandshake

/-- A signer around a key. -/
structure Signer where
  key : SigningKey
  schemes : List SignatureScheme := key.schemes
  maxLength : Nat := key.maxSignatureLength
  alwaysFails : Bool := false
  /-- How many times an answer is put off. -/
  delays : Nat := 0
  /-- The signature to answer with in place of the key's. -/
  fixed : Option Bytes := none
  /-- What is being signed, and how many times its answer is still put off. -/
  underWay : Option (SignatureScheme × Bytes × Nat) := none
  deriving DecidableEq, Repr

namespace Signer

def info (s : Signer) : SignerInfo := ⟨s.schemes, s.maxLength⟩

/-- The answer that is not put off. -/
def answer (s : Signer) (scheme : SignatureScheme) (input : Bytes) (maxLength : Nat) : SignResult :=
  match s.fixed with
  | some signature => .success signature
  | none => s.key.sign scheme input maxLength

/-- Starts to sign. -/
def sign (scheme : SignatureScheme) (input : Bytes) (maxLength : Nat) (s : Signer) :
    SignResult × Signer :=
  if s.alwaysFails then (.failure, s)
  else if s.delays = 0 then (s.answer scheme input maxLength, s)
  else (.retry, { s with underWay := some (scheme, input, s.delays) })

/-- Asks for the outcome of what is being signed. -/
def complete (maxLength : Nat) (s : Signer) : SignResult × Signer :=
  match s.underWay with
  | none => (.failure, s)
  | some (scheme, input, left) =>
      if left ≤ 1 then (s.answer scheme input maxLength, { s with underWay := none })
      else (.retry, { s with underWay := some (scheme, input, left - 1) })

end Signer

end TlsHandshake
