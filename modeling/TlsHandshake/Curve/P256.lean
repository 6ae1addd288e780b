import TlsHandshake.Bytes
import TlsHandshake.Curve.Modular

set_option autoImplicit false

/-! # The curve P-256 (SEC 2 §2.4.2)

Points of `y² = x³ - 3x + b` over a prime field, in Jacobian coordinates for the arithmetic and in
affine coordinates at its ends, and their SEC 1 encodings. -/

namespace TlsHandshake.P256

/-- The field's characteristic. -/
def prime : Nat := 0xffffffff00000001000000000000000000000000ffffffffffffffffffffffff

/-- The number of points. -/
def order : Nat := 0xffffffff00000000ffffffffffffffffbce6faada7179e84f3b9cac2fc632551

/-- The curve's constant term. -/
def constantTerm : Nat := 0x5ac635d8aa3a93e7b3ebbd55769886bc651d06b0cc53b0f63bce3c3e27d2604b

private def mul (a b : Nat) : Nat := a * b % prime

private def sub (a b : Nat) : Nat := Modular.sub prime a b

/-! ## Affine points -/

/-- A point other than the neutral one. -/
structure Point where
  x : Nat
  y : Nat
  deriving DecidableEq, Repr

namespace Point

/-- The base point. -/
def base : Point where
  x := 0x6b17d1f2e12c4247f8bce6e563a440f277037d812deb33a0f4a13945d898c296
  y := 0x4fe342e2fe1a7f9b8ee7eb4a7c0f9e162bce33576b315ececbb6406837bf51f5

/-- The right-hand side of the curve's equation. -/
def cubic (x : Nat) : Nat :=
  (mul (mul x x) x + (prime - 3) * x + constantTerm) % prime

/-- Whether the coordinates are residues that satisfy the curve's equation. -/
def onCurve (P : Point) : Bool :=
  P.x < prime && P.y < prime && mul P.y P.y == cubic P.x

/-- The points with the coordinate `x`: the lesser of the two ordinates, if `x` is a residue that
    belongs to a point. -/
def ordinate? (x : Nat) : Option Nat :=
  if x < prime then
    let square := cubic x
    let root := Modular.pow prime square ((prime + 1) / 4)
    if mul root root = square then some (min root (sub 0 root)) else none
  else none

/-! ## SEC 1 encodings -/

/-- The 65 bytes of a point: the tag 4 and both coordinates. -/
def encode (P : Point) : Bytes := 4 :: Bytes.ofNat 32 P.x ++ Bytes.ofNat 32 P.y

/-- The point of an encoding: uncompressed (tag 4), compressed with the parity of the ordinate
    (tags 2 and 3), or compact with the lesser ordinate (tag 5). It must be on the curve. -/
def decode? (bytes : Bytes) : Option Point :=
  match bytes with
  | [] => none
  | tag :: rest =>
      if tag = 4 && rest.length = 64 then
        let P : Point := ⟨Bytes.toNat (rest.take 32), Bytes.toNat (rest.drop 32)⟩
        if P.onCurve then some P else none
      else if (tag = 2 || tag = 3 || tag = 5) && rest.length = 32 then do
        let x := Bytes.toNat rest
        let y ← ordinate? x
        if tag = 5 || y % 2 = tag.toNat % 2 then return ⟨x, y⟩ else return ⟨x, sub 0 y⟩
      else none

end Point

/-! ## Arithmetic -/

/-- A point in Jacobian coordinates: `(x/z², y/z³)`, or the neutral element when `z` is zero. -/
structure Jacobian where
  x : Nat
  y : Nat
  z : Nat

namespace Jacobian

/-- The neutral element. -/
def zero : Jacobian := ⟨1, 1, 0⟩

def ofPoint (P : Point) : Jacobian := ⟨P.x, P.y, 1⟩

/-- The affine point, unless it is the neutral element. -/
def toPoint? (P : Jacobian) : Option Point :=
  if P.z = 0 then none
  else
    let w := Modular.inverse prime P.z
    let ww := mul w w
    some ⟨mul P.x ww, mul P.y (mul ww w)⟩

/-- Twice a point. -/
def double (P : Jacobian) : Jacobian :=
  let zz := mul P.z P.z
  let yy := mul P.y P.y
  let s := mul (4 * P.x) yy
  let m := mul (3 * sub P.x zz) (P.x + zz)
  let x := sub (mul m m) (2 * s % prime)
  ⟨x, sub (mul m (sub s x)) (mul 8 (mul yy yy)), mul (2 * P.y) P.z⟩

/-- The sum of two points. -/
def add (P Q : Jacobian) : Jacobian :=
  if P.z = 0 then Q
  else if Q.z = 0 then P
  else
    let zz1 := mul P.z P.z
    let zz2 := mul Q.z Q.z
    let u1 := mul P.x zz2
    let u2 := mul Q.x zz1
    let s1 := mul P.y (mul zz2 Q.z)
    let s2 := mul Q.y (mul zz1 P.z)
    if u1 = u2 then if s1 = s2 then double P else zero
    else
      let h := sub u2 u1
      let r := sub s2 s1
      let hh := mul h h
      let hhh := mul hh h
      let v := mul u1 hh
      let x := sub (sub (mul r r) hhh) (2 * v % prime)
      ⟨x, sub (mul r (sub v x)) (mul s1 hhh), mul (mul P.z Q.z) h⟩

/-- The multiple `n P`, for `n < 2 ^ 256`. -/
def scale (n : Nat) (P : Jacobian) : Jacobian :=
  (List.range 256).foldr
    (fun i acc =>
      let twice := acc.double
      if n.testBit i then twice.add P else twice)
    zero

end Jacobian

end TlsHandshake.P256
