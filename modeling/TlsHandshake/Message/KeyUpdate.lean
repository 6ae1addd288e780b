import TlsHandshake.Message.Framing

set_option autoImplicit false

/-! # KeyUpdate (RFC 8446 §4.6.3)

The body is one byte that says whether the receiver shall update its own sending key too. -/

namespace TlsHandshake

/-- Whether a KeyUpdate asks for one in return. -/
inductive KeyUpdateRequest where
  | notRequested
  | requested
  deriving DecidableEq, Repr

namespace KeyUpdateRequest

/-- The byte of a request. -/
def code : KeyUpdateRequest → UInt8
  | notRequested => 0
  | requested => 1

/-- Reads a body: exactly one byte with a defined value. -/
def decode : Bytes → Except Error KeyUpdateRequest
  | [0] => .ok notRequested
  | [1] => .ok requested
  | [value] => .error (.decode (.keyUpdateRequest value))
  | body => .error (.decode (.keyUpdateLength body.length))

/-- The whole message, header included. -/
def encode (request : KeyUpdateRequest) : Bytes :=
  [MessageType.keyUpdate.code, 0, 0, 1, request.code]

theorem frame_keyUpdate (request : KeyUpdateRequest) :
    frame .keyUpdate [request.code] = .ok request.encode := by
  cases request <;> rfl

end KeyUpdateRequest

end TlsHandshake
