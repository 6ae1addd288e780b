import TlsHandshake.Bytes
import TlsHandshake.Curve.Modular

set_option autoImplicit false

/-! # The curve edwards25519 (RFC 7748 §4.1, RFC 8032 §5.1)

Points of `-x² + y² = 1 + d x² y²` over the field of `2^255 - 19` elements, in extended
coordinates: `(x, y, z, t)` stands for `(x/z, y/z)` with `t = xy/z`. One addition law serves for all
pairs of points, equal ones included. -/

namespace TlsHandshake.Edwards25519

/-- The field's characteristic, `2^255 - 19`. -/
def prime : Nat := 0x7fffffffffffffffffffffffffffffffffffffffffffffffffffffffffffffed

/-- The order of the base point. -/
def order : Nat := 0x1000000000000000000000000000000014def9dea2f79cd65812631a5cf5d3ed

/-- The curve's coefficient, `-121665/121666`. -/
def coefficient : Nat :=
  0x52036cee2b6ffe738cc740797779e89800700a4d4141d8ab75eb4dca135978a3

/-- A square root of `-1`. -/
def rootOfMinusOne : Nat :=
  0x2b8324804fc1df0b2b4d00993dfbd7a72f431806ad2fe478c4ee1b274a0ea0b0

private def mul (a b : Nat) : Nat := a * b % prime

private def sub (a b : Nat) : Nat := Modular.sub prime a b

/-- A point in extended coordinates. -/
structure Point where
  x : Nat
  y : Nat
  z : Nat
  t : Nat

namespace Point

/-- The neutral element. -/
def zero : Point := ⟨0, 1, 1, 0⟩

/-- The base point. -/
def base : Point :=
  let x := 0x216936d3cd6e53fec0a4e231fdd6dc5c692cc7609525a7b2c9562d608f25d51a
  let y := 0x6666666666666666666666666666666666666666666666666666666666666658
  ⟨x, y, 1, x * y % prime⟩

/-- The sum of two points. -/
def add (P Q : Point) : Point :=
  let a := mul (sub P.y P.x) (sub Q.y Q.x)
  let b := mul (P.y + P.x) (Q.y + Q.x)
  let c := mul (mul (2 * P.t) Q.t) coefficient
  let d := mul (2 * P.z) Q.z
  let e := sub b a
  let f := sub d c
  let g := d + c
  let h := b + a
  ⟨mul e f, mul g h, mul f g, mul e h⟩

/-- The opposite point. -/
def neg (P : Point) : Point := ⟨sub 0 P.x, P.y, P.z, sub 0 P.t⟩

/-- The multiple `n P`, for `n < 2 ^ 256`. -/
def scale (n : Nat) (P : Point) : Point :=
  (List.range 256).foldr
    (fun i acc =>
      let double := acc.add acc
      if n.testBit i then double.add P else double)
    zero

/-- The 32 bytes of a point: `y`, least significant byte first, with the parity of `x` in the top
    bit. -/
def compress (P : Point) : Bytes :=
  let w := Modular.inverse prime P.z
  let x := mul P.x w
  let y := mul P.y w
  (Bytes.ofNat 32 (y + (x % 2) <<< 255)).reverse

@[simp] theorem length_compress (P : Point) : P.compress.length = 32 := by
  simp only [compress, List.length_reverse, Bytes.length_ofNat]

/-- The even square root of `u/v`, if there is one. -/
def sqrtRatio? (u v : Nat) : Option Nat :=
  let v3 := mul (mul v v) v
  let v7 := mul (mul v3 v3) v
  let r := mul (mul u v3) (Modular.pow prime (mul u v7) ((prime - 5) / 8))
  let check := mul v (mul r r)
  let root? :=
    if check = u % prime then some r
    else if check = sub 0 (u % prime) then some (mul r rootOfMinusOne)
    else none
  root?.map fun r => if r % 2 = 0 then r else sub 0 r

/-- The point of 32 bytes. The bytes of `y` need not be reduced, and `x = 0` goes with either
    parity bit. -/
def decompress? (bytes : Bytes) : Option Point := do
  let n := Bytes.toNat bytes.reverse
  let y := n % (1 <<< 255) % prime
  let yy := mul y y
  let root ← sqrtRatio? (sub yy 1) (mul coefficient yy + 1)
  let x := if n.testBit 255 then sub 0 root else root
  return ⟨x, y, 1, mul x y⟩

end Point

end TlsHandshake.Edwards25519
