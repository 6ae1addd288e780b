import TlsHandshake.Message.Framing

set_option autoImplicit false

/-! # Finished (RFC 8446 §4.4.4)

The body of a Finished message is the MAC over the transcript and nothing else. -/

namespace TlsHandshake.Finished

/-- The whole message, header included. -/
def encode (mac : Bytes) : Except Error Bytes := frame .finished mac

/-- Whether a received body is the expected MAC; one of another length never is. -/
def accepts (expected received : Bytes) : Bool := expected == received

end TlsHandshake.Finished
