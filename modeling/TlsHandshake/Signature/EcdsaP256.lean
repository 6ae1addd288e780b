import TlsHandshake.Curve.P256
import TlsHandshake.Der
import TlsHandshake.Hash.Algorithm

set_option autoImplicit false

/-! # ECDSA over P-256 with SHA-256

Signatures are DER pairs `(r, s)` of numbers between one and the group order. The nonce is derived
from the key and the message (RFC 6979), so signing is a function. Neither signing nor verification
asks for the lesser of the two values that `s` can have. -/

namespace TlsHandshake.EcdsaP256

open P256

/-! ## Keys -/

/-- The secret scalar of 24 to 32 bytes, which must be between one and the group order. -/
def secretScalar? (bytes : Bytes) : Option Nat :=
  if Bytes.spans 24 bytes && !Bytes.spans 33 bytes then
    let d := Bytes.toNat bytes
    if 0 < d && d < order then some d else none
  else none

/-- The public point of a secret scalar. -/
def publicPoint (d : Nat) : Option Point := ((Jacobian.ofPoint .base).scale d).toPoint?

/-! ## Signature values -/

/-- A signature's pair of numbers. -/
structure Pair where
  r : Nat
  s : Nat
  deriving DecidableEq, Repr

/-- The fewest bytes of a number, with a zero byte before a high top bit. -/
def integerBytes (n : Nat) : Bytes := Bytes.ofNat (n.log2 / 8 + (if n.log2 % 8 = 7 then 2 else 1)) n

/-- An element of a type whose content is shorter than 128 bytes. -/
private def shortElement (tag : UInt8) (content : Bytes) : Bytes :=
  tag :: UInt8.ofNat content.length :: content

/-- The DER form of a pair. -/
def Pair.encode (p : Pair) : Bytes :=
  shortElement 0x30 (shortElement 0x02 (integerBytes p.r) ++ shortElement 0x02 (integerBytes p.s))

/-- Reads a DER pair; both numbers must be between one and the group order. -/
def Pair.decode? (bytes : Bytes) : Option Pair := do
  let p ← Der.inside bytes (Der.sequence (do return ⟨← Der.natural 32, ← Der.natural 32⟩))
  if 0 < p.r && p.r < order && 0 < p.s && p.s < order then return p else none

/-! ## Nonces (RFC 6979 §3.2) -/

/-- The state of the nonce generator. -/
structure Generator where
  key : Bytes
  value : Bytes

private def mac (key message : Bytes) : Bytes := HashAlgorithm.sha256.hmac key message

/-- Mixes `data` into the state. -/
def Generator.mix (g : Generator) (mark : UInt8) (data : Bytes) : Generator :=
  let key := mac g.key (g.value ++ mark :: data)
  ⟨key, mac key g.value⟩

/-- The first output between one and the group order; the fuel bounds how many are tried. -/
def Generator.next? : (fuel : Nat) → Generator → Option Nat
  | 0, _ => none
  | fuel + 1, g =>
      let value := mac g.key g.value
      let k := Bytes.toNat value
      if 0 < k && k < order then some k
      else Generator.next? fuel (Generator.mix ⟨g.key, value⟩ 0 [])

/-- The nonce for a key and a hashed message. The generator is seeded with the hash as it is, also
    where that exceeds the group order. An output out of range has probability `2 ^ -32`, so
    sixty-four tries never run out. -/
def nonce? (d : Nat) (hash : Bytes) : Option Nat :=
  let seed := Bytes.ofNat 32 d ++ hash
  let g : Generator := ⟨List.replicate 32 0, List.replicate 32 1⟩
  Generator.next? 64 ((g.mix 0 seed).mix 1 seed)

/-! ## Signing and verifying -/

/-- The signature of a message under a secret scalar. -/
def sign? (d : Nat) (message : Bytes) : Option Bytes := do
  let hash := sha256 message
  let z := Bytes.toNat hash
  let k ← nonce? d hash
  let R ← ((Jacobian.ofPoint .base).scale k).toPoint?
  let r := R.x % order
  let s := Modular.inverse order k * (z + r * d) % order
  if 0 < r && 0 < s then return Pair.encode ⟨r, s⟩ else none

/-- Whether a pair signs a message under a public point. -/
def Pair.signs (p : Pair) (key : Point) (message : Bytes) : Bool :=
  let z := Bytes.toNat (sha256 message)
  let w := Modular.inverse order p.s
  let u1 := z * w % order
  let u2 := p.r * w % order
  let R := ((Jacobian.ofPoint .base).scale u1).add ((Jacobian.ofPoint key).scale u2)
  match R.toPoint? with
  | some R => R.x % order == p.r
  | none => false

/-- Whether `signature` is one of `message` under the encoded point `key`; nothing when the key is
    not a point. -/
def verify? (key message signature : Bytes) : Option Bool := do
  let P ← Point.decode? key
  match Pair.decode? signature with
  | some p => return p.signs P message
  | none => return false

end TlsHandshake.EcdsaP256
