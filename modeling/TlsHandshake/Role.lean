set_option autoImplicit false

/-! # The two ends of a connection -/

namespace TlsHandshake

/-- Which end of the connection an endpoint is. -/
inductive Role where
  | client
  | server
  deriving DecidableEq, Repr

namespace Role

/-- Whether this is the server's end. -/
def isServer : Role → Bool
  | client => false
  | server => true

/-- The other end. -/
def peer : Role → Role
  | client => server
  | server => client

@[simp] theorem peer_peer (r : Role) : r.peer.peer = r := by cases r <;> rfl

theorem peer_ne (r : Role) : r.peer ≠ r := by cases r <;> decide

end Role

end TlsHandshake
