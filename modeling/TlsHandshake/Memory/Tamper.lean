import TlsHandshake.Memory.Socket

set_option autoImplicit false

/-! # Tampering with a stream

What somebody between the two ends can do to the messages on their way: take them off the stream,
change bytes in them, leave some out, repeat or reorder them. -/

namespace TlsHandshake

/-- A change of one byte of one message. -/
structure ByteEdit where
  message : Nat
  offset : Nat
  mask : UInt8
  deriving DecidableEq, Repr

/-- Changes the byte that an edit names in an array of messages. -/
def ByteEdit.apply (messages : Array (Array UInt8)) (e : ByteEdit) : Array (Array UInt8) :=
  messages.modify e.message fun m => m.modify e.offset (· ^^^ e.mask)

namespace Socket

/-- Reads up to `count` messages after those in `before`, the last one first; stops where none is
    complete or known. -/
def readMessages : (count : Nat) → (before : List Message) → Socket → List Message × Socket
  | 0, before, s => (before.reverse, s)
  | count + 1, before, s =>
      match readMessage s with
      | .ok (.ready m) s => readMessages count (m :: before) s
      | .ok .pending s => (before.reverse, s)
      | .error _ s => (before.reverse, s)

/-- Reads all messages there are; none is shorter than its header. -/
def drain (s : Socket) : List Message × Socket :=
  readMessages (s.incoming.stream.size / headerLength) [] s

/-- Takes the messages off the incoming stream, edits them, and puts those at the places in `order`
    back at the end of the stream, by default all of them in order. Answers with the messages as
    they were. -/
def tamper (edits : List ByteEdit) (order : Option (List Nat)) (s : Socket) :
    List Message × Socket :=
  let (messages, s) := s.drain
  let edited := edits.foldl ByteEdit.apply (messages.map (·.raw.toArray)).toArray
  let chosen := (order.getD (List.range edited.size)).filterMap (edited[·]?)
  (messages, s.receive (chosen.map Array.toList).flatten)

end Socket

end TlsHandshake
