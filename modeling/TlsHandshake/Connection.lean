import TlsHandshake.Handshake.AuthFlow
import TlsHandshake.Handshake.PostHandshake

set_option autoImplicit false

/-! # Connections

A connection is an endpoint with its authentication flight. It is driven until the handshake is
complete; from then on it takes post-handshake messages and starts key updates. -/

namespace TlsHandshake

/-- One end of a connection. -/
structure Connection (ε : Type) where
  endpoint : Endpoint ε
  flow : AuthFlow
  /-- The handshake has succeeded. -/
  complete : Bool := false

namespace Connection

variable {ε α : Type}

/-- A connection that has not begun. -/
def new (config : Config) (environment : ε) : Connection ε where
  endpoint := ⟨.new config, environment⟩
  flow := .new config.role

/-- The connection with another context. -/
def setContext (c : Connection ε) (f : Context → Context) : Connection ε :=
  { c with endpoint := { c.endpoint with context := f c.endpoint.context } }

/-- The connection in other surroundings. -/
def onEnvironment (c : Connection ε) (f : ε → ε) : Connection ε :=
  { c with endpoint := { c.endpoint with environment := f c.endpoint.environment } }

/-- Performs an action on the endpoint. -/
def act (action : Engine ε α) : EStateM Error (Connection ε) α := fun c =>
  match action c.endpoint with
  | .ok a p => .ok a { c with endpoint := p }
  | .error e p => .error e { c with endpoint := p }

/-- Performs an action; if it fails, the context has failed too. -/
def actFinally (action : Engine ε α) : EStateM Error (Connection ε) α := fun c =>
  match act action c with
  | .ok a c => .ok a c
  | .error e c => .error e (c.setContext ({ · with wait := .error }))

/-- Goes on without early data after it was rejected. -/
def resetEarlyDataReject : EStateM Error (Connection ε) Unit := fun c =>
  match c.endpoint.context.resetEarlyDataReject with
  | .ok context => .ok () (c.setContext fun _ => context)
  | .error e => .error e c

variable [Environment ε]

/-- Goes on with the handshake. -/
def handshake (c : Connection ε) : Outcome × Connection ε :=
  let (outcome, flow, endpoint) := c.endpoint.drive AuthFlow.stage c.flow
  (outcome, ⟨endpoint, flow, c.complete || outcome = .success⟩)

/-- Reads the next message for post-handshake processing; an error is reported to the peer. -/
def readPostHandshake : Engine ε (Awaited Message) := fun p =>
  match Engine.perform Environment.readMessage p with
  | .ok a p => .ok a p
  | .error e p => (do Engine.reportTransport e; throw e) p

/-- Deals with a message that was read after the handshake. -/
def dispatch (m : Message) : Engine ε Unit := fun p =>
  let clear := fun (p : Endpoint ε) => { p with context := { p.context with message := none } }
  match Engine.postHandshake { p with context := { p.context with message := some m } } with
  | .ok () p => .ok () (clear p)
  | .error e p => .error e (clear p)

/-- Reads and deals with one message after the handshake. Any error ends the connection. -/
def processPostHandshake : EStateM Error (Connection ε) (Awaited Unit) := fun c =>
  if !c.complete || c.endpoint.context.wait = .error then
    .error (.internal .postHandshakeTooEarly) c
  else
    c |> actFinally do
      match ← readPostHandshake with
      | .pending => return .pending
      | .ready m =>
          dispatch m
          return .ready ()

/-- Hands queued output to the record layer. -/
def flush : EStateM Error (Connection ε) (Awaited Unit) := act do
  let answer ← Engine.perform Environment.flushFlight
  if answer = .ready () then
    Engine.modifyContext Context.noteFlushed
  return answer

/-- Queues a KeyUpdate and moves the sending key on, unless one is still to be flushed. -/
def keyUpdate (request : KeyUpdateRequest) : EStateM Error (Connection ε) Unit := fun c =>
  if !c.complete then .error (.internal .keyUpdateTooEarly) c
  else act (Engine.sendKeyUpdate request) c

end Connection

end TlsHandshake
