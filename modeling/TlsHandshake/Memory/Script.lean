import TlsHandshake.Handshake.Drive

set_option autoImplicit false

/-! # Scripted stages

A stage that follows a script instead of a protocol, to rehearse how a handshake is driven. It notes
the type of the message it finds, takes the message, and answers with the next line of its script;
at the end of the script it is complete. -/

namespace TlsHandshake

/-- A line of a script. -/
inductive ScriptLine where
  /-- To wait for something; an error is reported as a stage reports it. -/
  | wait (wait : Wait)
  /-- To fail without an alert and without leaving an error. -/
  | silentError
  deriving DecidableEq, Repr

/-- A script and what has been seen while it ran. -/
structure Script where
  lines : List ScriptLine := []
  /-- The types of the messages found, the last one first. -/
  found : List (Option MessageType) := []
  deriving DecidableEq, Repr

namespace Script

/-- The types of the messages found, in order. -/
def seen (s : Script) : List (Option MessageType) := s.found.reverse

variable {ε : Type} [Environment ε]

/-- Takes the pending message. -/
def takeMessage (p : Endpoint ε) : Option MessageType × Endpoint ε :=
  (p.context.message.map Message.type, { p with context := { p.context with message := none } })

/-- Fails as a stage does: with an alert, and the error left in the context. -/
def failLoudly (p : Endpoint ε) : Endpoint ε :=
  { context := p.context.fail (.illegalParameter (.reported "scripted"))
    environment := Environment.sendAlert (.fatal .handshakeFailure) p.environment }

/-- Follows one line. -/
def step (s : Script) (p : Endpoint ε) : Wait × Script × Endpoint ε :=
  let (type, p) := takeMessage p
  let found := type :: s.found
  match s.lines with
  | [] => (.ok, ⟨[], found⟩, p)
  | .silentError :: lines => (.error, ⟨lines, found⟩, p)
  | .wait .error :: lines => (.error, ⟨lines, found⟩, failLoudly p)
  | .wait wait :: lines => (wait, ⟨lines, found⟩, p)

/-- A script as a stage: each round but the last takes a line. -/
def stage : Stage ε Script where
  step := step
  budget s := s.lines.length + 1

end Script

end TlsHandshake
