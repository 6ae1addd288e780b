import TlsHandshake.Bytes.Queue
import TlsHandshake.Bytes.Reader
import TlsHandshake.Error

set_option autoImplicit false

/-! # Handshake framing (RFC 8446 §4)

A handshake message is its type, the length of its body in three bytes, and the body. `frame` writes
a message and fails on a body that is too long for the length; `unframe?` looks for a complete
message at the start of a byte string, and `Message.take?` takes one off a stream. -/

namespace TlsHandshake

/-! ## Vectors -/

/-- A body preceded by its length in `width` bytes; a body too long for that is a fault of the
    caller. -/
def writeVector (width : Nat) (body : Bytes) : Except Error Bytes :=
  let length := body.length
  if length < Bytes.capacity width then
    .ok (Bytes.ofNat width length ++ body)
  else
    .error (.internal (.fieldOverflow (8 * width) length))

/-! ## Messages -/

/-- A handshake message as it was received. -/
structure Message where
  type : MessageType
  body : Bytes
  /-- Header and body, for the transcript. -/
  raw : Bytes
  deriving DecidableEq, Repr

/-- A body with its header. -/
def frame (type : MessageType) (body : Bytes) : Except Error Bytes := do
  return type.code :: (← writeVector 3 body)

/-- The type and the length of the body in the header that `stream` starts with, or nothing when the
    header is not there as a whole yet. The type is judged as soon as it is. -/
def readHeader? (stream : Bytes) : Except Error (Option (MessageType × Nat)) :=
  match stream with
  | code :: l2 :: l1 :: l0 :: _ =>
      match MessageType.ofCode? code with
      | none => .error (.unexpectedMessage (.unknownType code))
      | some type => .ok (some (type, Bytes.toNat [l2, l1, l0]))
  | _ => .ok none

/-- Bytes in a header. -/
def headerLength : Nat := 4

/-- A complete message at the start of a stream, and how many bytes it takes. -/
structure Framed where
  type : MessageType
  body : Bytes
  size : Nat
  deriving DecidableEq, Repr

/-- The message at the start of `stream`, or nothing when it is not there as a whole yet. -/
def unframe? (stream : Bytes) : Except Error (Option Framed) := do
  match ← readHeader? stream with
  | none => return none
  | some (type, length) =>
      let rest := stream.drop headerLength
      return if Bytes.spans length rest then
        some ⟨type, rest.take length, headerLength + length⟩
      else none

/-- Takes the message off the front of a stream, or leaves it when it is not there as a whole
    yet. -/
def Message.take? : EStateM Error ByteQueue (Option Message) := fun stream =>
  let stream := stream.gather headerLength
  match readHeader? stream.front with
  | .error e => .error e stream
  | .ok none => .ok none stream
  | .ok (some (type, length)) =>
      match stream.take? (headerLength + length) with
      | none => .ok none stream
      | some (raw, rest) => .ok (some ⟨type, raw.drop headerLength, raw⟩) rest

end TlsHandshake
