import TlsHandshake.Connection
import TlsHandshake.Memory.Desk

set_option autoImplicit false

/-! # Two connections over one link

A server and a client that are joined in memory. Whatever one of them does, it does on its own view
of the link; the other one sees the effect the next time it acts. -/

namespace TlsHandshake

/-- A server and a client over a link, each in surroundings of its own; the server is at end `a`. -/
structure Pair (ε : Type := Desk) where
  server : Connection ε
  client : Connection ε
  link : Link := {}

namespace Pair

variable {ε α : Type} [OnLink ε]

/-- The end of the link that a role is at. -/
def endOf : Role → End
  | .server => .a
  | .client => .b

/-- One side with its present view of the link. -/
def side (pair : Pair ε) (role : Role) : Connection ε :=
  let c := match role with
    | .server => pair.server
    | .client => pair.client
  c.onEnvironment (OnLink.withSocket (pair.link.socket (endOf role)))

/-- The pair once one side has changed. -/
def setSide (pair : Pair ε) (role : Role) (c : Connection ε) : Pair ε :=
  let link := pair.link.setSocket (endOf role) (OnLink.socket c.endpoint.environment)
  match role with
  | .server => { pair with server := c, link := link }
  | .client => { pair with client := c, link := link }

/-- A side sees at once what it has done. -/
@[simp] theorem side_setSide (pair : Pair ε) (role : Role) (c : Connection ε) :
    (pair.setSide role c).side role = c := by
  cases role <;> simp [setSide, side, Connection.onEnvironment]

/-- Lets one side act. -/
def act (pair : Pair ε) (role : Role) (action : Connection ε → α × Connection ε) :
    α × Pair ε :=
  let (a, c) := action (pair.side role)
  (a, pair.setSide role c)

end Pair

end TlsHandshake
