import TlsHandshake.Bytes

set_option autoImplicit false

/-! # Elements of a certificate (X.690 §8)

Certificates in use bend the rules of DER, so the reader here is tolerant where the strict one is
not: a length may be written with more bytes than it needs, a tag number may take several bytes, and
what an element is called is decided by its tag number alone unless its class is asked for. -/

namespace TlsHandshake.X509

/-- A tag-length-value element. -/
structure Element where
  /-- Zero for universal, two for context-specific. -/
  tagClass : UInt8
  constructed : Bool
  number : Nat
  content : Bytes
  deriving DecidableEq, Repr

/-- A reader of elements, which are tag, length and value: fails, or answers with a value and what
    follows it. -/
abbrev Tlv (α : Type) := StateT Bytes Option α

namespace Tlv

def byte : Tlv UInt8
  | [] => none
  | b :: rest => some (b, rest)

def take (n : Nat) : Tlv Bytes := Bytes.cut? n

/-- The further bytes of a tag number, at most `count` of them: seven bits each, the top bit set in
    all but the last. -/
def tagNumber : (count : Nat) → (high : Nat) → Tlv Nat
  | 0, _ => failure
  | count + 1, high => do
      let b ← byte
      let number := (high * 128 + b.toNat % 128) % (1 <<< 32)
      if b < 0x80 then return number else tagNumber count number

/-- A length: one byte below 128, or a count of bytes and the length in that many; a count of zero
    leaves the length open, which is answered with `none`. -/
def length : Tlv (Option Nat) := do
  let first ← byte
  if first < 0x80 then return some first.toNat
  let count := first.toNat - 0x80
  if count = 0 then return none
  if count = 0x7f then failure
  let n := Bytes.toNat (← take count)
  if Bytes.capacity 8 ≤ n then failure
  return some n

/-- The tag of an element whose length and content are still to be read. -/
def tag : Tlv Element := do
  let first ← byte
  let low := first.toNat % 32
  let number ← if low = 31 then tagNumber 5 0 else pure low
  return ⟨first >>> 6, first &&& 0x20 != 0, number, []⟩

/-- The tag and the definite length of an element whose content is still to be read. -/
def header : Tlv (Nat × Element) := do
  let e ← tag
  match ← length with
  | some n => return (n, e)
  | none => failure

/-- The next element. -/
def element : Tlv Element := do
  let (length, e) ← header
  return { e with content := ← take length }

/-! ## Open lengths (X.690 §8.1.3.6)

A constructed element of open length holds elements up to one of tag number zero without content.
Inside, lengths may be open again. -/

/-- Runs `last` until it answers that it read the last element; the fuel bounds how often. -/
def untilLast (last : Tlv Bool) : (fuel : Nat) → Tlv Unit
  | 0 => failure
  | fuel + 1 => do
      if ← last then return ()
      untilLast last fuel

/-- Passes over an element whose length may be open, with at most `depth` levels of elements, and
    answers whether it ends the contents of an open one. The fuel bounds the elements of a level. -/
def skip (fuel : Nat) : (depth : Nat) → Tlv Bool
  | 0 => failure
  | depth + 1 => do
      let e ← tag
      match ← length with
      | some n =>
          let _ ← take n
          return e.number = 0 && n = 0
      | none =>
          if !e.constructed then failure
          untilLast (skip fuel depth) fuel
          return false

/-- Passes over the next element, which must have the given tag number. Its length may be open, down
    to fifty levels. -/
def skipNumbered (number : Nat) : Tlv Unit := fun bytes => do
  let (e, _) ← tag bytes
  if e.number != number then none
  let (_, rest) ← skip bytes.length 50 bytes
  return ((), rest)

/-! ## Definite lengths -/

/-- The next element, which must have the given tag number. -/
def numbered (number : Nat) : Tlv Element := do
  let e ← element
  if e.number != number then failure
  return e

/-- The next element, which must have the given tag number and not be constructed. -/
def primitive (number : Nat) : Tlv Element := do
  let e ← numbered number
  if e.constructed then failure
  return e

/-- Reads the start of a content; what follows in it is not looked at. -/
def within {α : Type} (content : Bytes) (read : Tlv α) : Option α :=
  (read content).map Prod.fst

/-- The start of a SEQUENCE's content. -/
def sequence {α : Type} (read : Tlv α) : Tlv α := do
  let e ← numbered 16
  within e.content read

/-! ## Values -/

/-- An OBJECT IDENTIFIER, as its bytes. Any primitive element is read as one. -/
def objectId : Tlv Bytes := do
  let e ← element
  if e.constructed then failure
  return e.content

/-- A BIT STRING's bytes: the unused bits of the last byte must be zero. -/
def bitsOf (e : Element) : Option Bytes :=
  if e.constructed then none
  else match e.content with
    | [] => none
    | [unused] => if unused = 0 then some [] else none
    | unused :: b :: bytes =>
        let last := ((b :: bytes).getLast?.getD 0).toNat
        if unused ≤ 8 && last % (1 <<< unused.toNat) = 0 then some (b :: bytes) else none

/-- The bytes of a BIT STRING of named flags, of which there may be none: at most seven bits of the
    last byte are unused, and they are zero. -/
def flagsOf (e : Element) : Option Bytes :=
  if e.constructed then none
  else match e.content with
    | [] => none
    | unused :: bytes =>
        let last := (bytes.getLast?.getD 0).toNat
        if unused ≤ 7 && last % (1 <<< unused.toNat) = 0 then some bytes else none

/-- A BIT STRING. -/
def bitString : Tlv Bytes := do bitsOf (← numbered 3)

/-- A BIT STRING of named flags. -/
def flags : Tlv Bytes := do flagsOf (← numbered 3)

/-- A number of at most 32 bits, as a non-negative INTEGER in its shortest form. -/
def small : Tlv Nat := do
  let e ← primitive 2
  match e.content with
  | [] => failure
  | [b] => if b < 0x80 then return b.toNat else failure
  | b :: c :: rest =>
      if 0x80 ≤ b || (b = 0 && c < 0x80) then failure
      let digits := if b = 0 then c :: rest else b :: c :: rest
      if Bytes.spans 5 digits then failure
      return Bytes.toNat digits

end Tlv

end TlsHandshake.X509
