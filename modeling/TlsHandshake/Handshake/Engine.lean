import TlsHandshake.Environment
import TlsHandshake.Handshake.Context

set_option autoImplicit false

/-! # Acting on an endpoint

An `Engine` action changes an endpoint, which is a context and its surroundings, and answers with a
value or an error; what it has changed stays changed when it fails. `fatal` is the one way to fail
with an alert. -/

namespace TlsHandshake

/-- A handshake with its surroundings. -/
structure Endpoint (ε : Type) where
  context : Context
  environment : ε

/-- An action on an endpoint. -/
abbrev Engine (ε α : Type) := EStateM Error (Endpoint ε) α

namespace Engine

variable {ε α : Type}

/-! ## The context -/

/-- The context as it is. -/
def context : Engine ε Context := fun p => .ok p.context p

/-- Changes the context. -/
def modifyContext (f : Context → Context) : Engine ε Unit := fun p =>
  .ok () { p with context := f p.context }

/-- Changes the session. -/
def modifySession (f : Session → Session) : Engine ε Unit :=
  modifyContext fun c => { c with session := f c.session }

/-! ## The surroundings -/

/-- Performs an operation of the surroundings. -/
def perform (act : EStateM Error ε α) : Engine ε α := fun p =>
  match act p.environment with
  | .ok a e => .ok a { p with environment := e }
  | .error err e => .error err { p with environment := e }

/-- Performs an operation of the surroundings that cannot fail. -/
def performPure (act : ε → α × ε) : Engine ε α := fun p =>
  let (a, e) := act p.environment
  .ok a { p with environment := e }

variable [Environment ε]

/-- Sends the fatal alert of a description. -/
def alert (description : AlertDescription) : Engine ε Unit := fun p =>
  .ok () { p with environment := Environment.sendAlert (.fatal description) p.environment }

/-! ## Failing -/

/-- Sends a fatal alert and fails. -/
def fatal (description : AlertDescription) (e : Error) : Engine ε α := do
  alert description
  throw e

/-- Performs an action; if it fails, sends the fatal alert for its error first. -/
def orAlert (descriptionOf : Error → AlertDescription) (act : Engine ε α) : Engine ε α := fun p =>
  match act p with
  | .ok a p => .ok a p
  | .error e p => fatal (descriptionOf e) e p

/-- A computed result; if it is an error, its fatal alert is sent. -/
def orFatal (descriptionOf : Error → AlertDescription) (result : Except Error α) : Engine ε α :=
  match result with
  | .ok a => pure a
  | .error e => fatal (descriptionOf e) e

/-- The alert for an error of the record layer: none if the connection is broken. -/
def transportAlert? : Error → Option AlertDescription
  | .io _ => none
  | .unexpectedMessage _ => some .unexpectedMessage
  | .decode _ => some .decodeError
  | _ => some .internalError

/-- Sends the alert for an error of the record layer, if it has one. -/
def reportTransport (e : Error) : Engine ε Unit :=
  match transportAlert? e with
  | some description => alert description
  | none => pure ()

/-! ## Sending -/

/-- Puts a message into the transcript and queues it. -/
def queue (message : Bytes) : Engine ε Unit := do
  modifyContext (·.record message)
  orAlert (fun _ => .internalError) (perform (Environment.addMessage message))

end Engine

end TlsHandshake
