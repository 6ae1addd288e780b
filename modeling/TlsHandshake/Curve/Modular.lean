set_option autoImplicit false

/-! # Arithmetic modulo a number

Powers and inverses of residues. A residue is a natural number below the modulus. -/

namespace TlsHandshake.Modular

/-- `base ^ exponent` modulo `m`, by squaring along the bits of the exponent. -/
def pow (m base exponent : Nat) : Nat :=
  (List.range (exponent.log2 + 1)).foldr
    (fun i acc =>
      let square := acc * acc % m
      if exponent.testBit i then square * base % m else square)
    (1 % m)

/-- The inverse of `a` modulo the prime `m`, by Fermat's little theorem; zero for zero. -/
def inverse (m a : Nat) : Nat := pow m a (m - 2)

/-- The difference of two residues. -/
def sub (m a b : Nat) : Nat := (a + m - b) % m

end TlsHandshake.Modular
