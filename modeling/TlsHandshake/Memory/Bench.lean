import TlsHandshake.Handshake.AuthFlow
import TlsHandshake.Memory.Desk
import TlsHandshake.Memory.Script

set_option autoImplicit false

/-! # One endpoint on a bench

An endpoint with a flight to run and a script to follow, at one end of a link that has no endpoint
at its other end. Everything the other end does is done by hand. -/

namespace TlsHandshake

/-- An endpoint on a bench. -/
structure Bench where
  endpoint : Endpoint Desk
  flow : AuthFlow
  script : Script := {}
  /-- What belongs to the other end alone. -/
  peerOutbox : Outbox := {}

namespace Bench

/-- An endpoint with nothing done yet. -/
def new (config : Config) (desk : Desk) : Bench :=
  { endpoint := ⟨.new config, desk⟩, flow := .new config.role }

/-- Lets the endpoint act. -/
def act {α : Type} (action : Engine Desk α) (b : Bench) : Except Error α × Bench :=
  match action b.endpoint with
  | .ok a p => (.ok a, { b with endpoint := p })
  | .error e p => (.error e, { b with endpoint := p })

/-- Changes the endpoint's context by hand. -/
def onContext (f : Context → Context) (b : Bench) : Bench :=
  { b with endpoint := { b.endpoint with context := f b.endpoint.context } }

/-- Changes the endpoint's surroundings by hand. -/
def onDesk (f : Desk → Desk) (b : Bench) : Bench :=
  { b with endpoint := { b.endpoint with environment := f b.endpoint.environment } }

/-- Lets the other end act. -/
def peer {α : Type} (action : Socket → α × Socket) (b : Bench) : α × Bench :=
  let socket := b.endpoint.environment.socket
  let (a, q) := action ⟨b.peerOutbox, socket.outgoing, socket.incoming⟩
  (a, { b.onDesk fun d => { d with socket := ⟨socket.outbox, q.outgoing, q.incoming⟩ } with
    peerOutbox := q.outbox })

/-- Drives the endpoint through its flight. -/
def runFlow (b : Bench) : Outcome × Bench :=
  let (outcome, flow, p) := b.endpoint.drive AuthFlow.stage b.flow
  (outcome, { b with endpoint := p, flow := flow })

/-- Drives the endpoint along its script with further lines; what it saw before is forgotten. -/
def runScript (lines : List ScriptLine) (b : Bench) : Outcome × Bench :=
  let (outcome, script, p) := b.endpoint.drive Script.stage ⟨b.script.lines ++ lines, []⟩
  (outcome, { b with endpoint := p, script := script })

end Bench

end TlsHandshake
