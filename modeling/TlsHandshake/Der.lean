import TlsHandshake.Bytes

set_option autoImplicit false

/-! # Strict DER (X.690 §8, §10)

Reading tag-length-value elements in the one encoding DER allows: tags of one byte, definite lengths
in their shortest form, integers without needless leading bytes. A `Der` reader fails or answers
with a value and what follows; `Der.inside` reads the whole of a content. -/

namespace TlsHandshake

/-- A reader of DER elements. -/
abbrev Der (α : Type) := StateT Bytes Option α

namespace Der

/-! ## Elements -/

/-- The universal types that are known, by tag byte. -/
def universalTags : List UInt8 :=
  [0x01, 0x02, 0x03, 0x04, 0x05, 0x06, 0x09, 0x0a, 0x0c, 0x12, 0x13, 0x14, 0x15, 0x16, 0x17, 0x18,
    0x1a, 0x1e, 0x30, 0x31]

/-- Whether a byte is a tag: a known universal type, or a number below 31 in another class. -/
def isTag (b : UInt8) : Bool :=
  if b < 0x40 then universalTags.contains b else b &&& 0x1f != 0x1f

/-- The next `n` bytes. -/
def take (n : Nat) : Der Bytes := Bytes.cut? n

/-- The next byte. -/
def byte : Der UInt8
  | [] => none
  | b :: rest => some (b, rest)

/-- A length: below 128 in one byte, else in the fewest of up to four bytes. -/
def length : Der Nat := do
  let first ← byte
  if first < 0x80 then
    return first.toNat
  else
    let count := first.toNat - 0x80
    if count = 0 || 4 < count then failure
    let n := Bytes.toNat (← take count)
    if n < 0x80 || n < Bytes.capacity (count - 1) then failure
    return n

/-- The next element: its tag and its content. -/
def element : Der (UInt8 × Bytes) := do
  let tag ← byte
  if !isTag tag then failure
  return (tag, ← take (← length))

/-- The content of the next element, which must have the given tag. -/
def tagged (tag : UInt8) : Der Bytes := do
  let (found, content) ← element
  if found != tag then failure
  return content

/-- Reads a content that must be used up. -/
def inside {α : Type} (content : Bytes) (read : Der α) : Option α :=
  match read content with
  | some (a, []) => some a
  | _ => none

/-! ## Values -/

/-- The content of a SEQUENCE, read to its end. -/
def sequence {α : Type} (read : Der α) : Der α := do
  let content ← tagged 0x30
  inside content read

/-- A non-negative INTEGER of at most `width` bytes, not counting the leading zero byte that a high
    top bit needs. There are no other leading zero bytes. -/
def natural (width : Nat) : Der Nat := do
  let digits ← match ← tagged 0x02 with
    | [] => failure
    | [b] => if b < 0x80 then pure [b] else failure
    | b :: c :: rest =>
        if 0x80 ≤ b || (b = 0 && c < 0x80) then failure
        pure (if b = 0 then c :: rest else b :: c :: rest)
  if Bytes.spans (width + 1) digits then failure
  return Bytes.toNat digits

/-- Whether the bytes are arcs of an object identifier: seven bits each, the top bit set in all but
    an arc's last, and at most 32 bits in five bytes. `filled` counts the bytes of an arc begun. -/
def areArcs : (filled : Nat) → Bytes → Bool
  | filled, [] => filled = 0
  | filled, b :: rest =>
      if filled = 4 && 0x10 ≤ b then false
      else areArcs (if b < 0x80 then 0 else filled + 1) rest

/-- The content of an OBJECT IDENTIFIER: three to thirty-nine bytes, of which the first holds two
    arcs, the root's being at most two and the next below forty. -/
def objectId : Der Bytes := do
  let arcs ← tagged 0x06
  match arcs with
  | roots :: rest =>
      if arcs.length < 3 || 39 < arcs.length || 119 < roots.toNat || !areArcs 0 rest then failure
      return arcs
  | [] => failure

def octetString : Der Bytes := tagged 0x04

/-- The bytes in the content of a BIT STRING that is a whole number of bytes. -/
def wholeBits (content : Bytes) : Option Bytes :=
  match content with
  | 0 :: bytes => some bytes
  | _ => none

/-- The next byte, unread. -/
def peek : Der (Option UInt8) := fun bytes => some (bytes.head?, bytes)

/-- Whether a tag byte is of the context-specific class, and which number it has. -/
def contextNumber? (b : UInt8) : Option UInt8 :=
  if 0x80 ≤ b && b < 0xc0 then some (b &&& 0x1f) else none

/-- The optional field `[number]`, read by `read`; fields of lower numbers before it are skipped.
    The fuel bounds how many. -/
def contextField {α : Type} (number : UInt8) (read : Der α) : (fuel : Nat) → Der (Option α)
  | 0 => failure
  | fuel + 1 => do
      match ← peek with
      | none => return none
      | some b =>
          if !isTag b then failure
          match contextNumber? b with
          | none => return none
          | some found =>
              if number < found then return none
              else if found = number then return some (← read)
              else
                let _ ← element
                contextField number read fuel

/-- The optional field `[number]` among fields of lower numbers. -/
def optionalField {α : Type} (number : UInt8) (read : Der α) : Der (Option α) := fun bytes =>
  contextField number read (bytes.length + 1) bytes

/-- Elements until nothing is left, each of them an explicit context-specific field around one
    element. The fuel bounds how many. -/
def skipFields : (fuel : Nat) → Der Unit
  | 0 => failure
  | fuel + 1 => do
      match ← peek with
      | none => return ()
      | some _ =>
          let (tag, content) ← element
          if (contextNumber? tag).isNone || tag &&& 0x20 = 0 then failure
          let _ ← (inside content element : Option (UInt8 × Bytes))
          skipFields fuel

end Der

end TlsHandshake
