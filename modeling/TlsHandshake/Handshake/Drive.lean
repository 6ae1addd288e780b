import TlsHandshake.Handshake.Engine

set_option autoImplicit false

/-! # Driving a handshake

A handshake alternates between waiting and running a stage. `drive` settles what the context waits
for, runs the stage, and goes on until the stage has nothing left to wait for, something fails, or
the wait cannot be settled yet. A suspended handshake is resumed by calling `drive` again: the
context tells what it waits for.

How often `drive` may run the stage is bounded by a budget that the stage names for its state. -/

namespace TlsHandshake

/-- What the record layer is to be ready for. -/
inductive IoWait where
  | flush
  | read
  | changeCipherSpec
  deriving DecidableEq, Repr

/-- How a call of `drive` ends. -/
inductive Outcome where
  | success
  | needsIo (wait : IoWait)
  | needsExternal (work : ExternalWork)
  /-- Early data may be read before the handshake ends. -/
  | earlyReturn
  /-- No more early data may be written. -/
  | earlyDataRejected
  | fatal (e : Error)
  deriving DecidableEq, Repr

/-- The part of a handshake that runs between waits, with a state of its own. -/
structure Stage (ε σ : Type) where
  /-- Goes as far as possible and tells what to wait for next. A stage that fails has sent its alert
      and left its error in the context. -/
  step : σ → Endpoint ε → Wait × σ × Endpoint ε
  /-- How many rounds of waiting and running are enough from a state. -/
  budget : σ → Nat

namespace Endpoint

variable {ε σ α : Type}

/-- The endpoint with another wait. -/
def waitFor (p : Endpoint ε) (wait : Wait) : Endpoint ε :=
  { p with context := { p.context with wait := wait } }

variable [Environment ε]

/-! ## Settling a wait -/

/-- Polls the record layer: suspends if it is not ready, fails if it fails. -/
def poll (wait : IoWait) (act : EStateM Error ε (Awaited α)) (onReady : α → Context → Context)
    (p : Endpoint ε) : Option Outcome × Endpoint ε :=
  match Engine.perform act p with
  | .ok (.ready a) p => (none, { p with context := onReady a p.context })
  | .ok .pending p => (some (.needsIo wait), p)
  | .error e p =>
      match Engine.reportTransport e p with
      | .ok () p | .error _ p => (some (.fatal e), p.waitFor .error)

/-- Flushes the queued messages. -/
def flush (p : Endpoint ε) : Option Outcome × Endpoint ε :=
  poll .flush Environment.flushFlight (fun _ c => c.noteFlushed) p

/-- Reads the next message. -/
def read (p : Endpoint ε) : Option Outcome × Endpoint ε :=
  poll .read Environment.readMessage (fun m c => { c with message := some m }) p

/-- Settles what the context waits for, or tells how the call ends instead. -/
def settle (p : Endpoint ε) : Option Outcome × Endpoint ε :=
  match p.context.wait with
  | .error => (some (.fatal .handshakeFailure), p)
  | .flush => p.flush
  | .flushAndReadMessage =>
      match p.flush with
      | (none, p) =>
          read { (p.waitFor .readMessage) with
                 environment := Environment.expectFlight p.environment }
      | suspended => suspended
  | .readMessage => p.read
  | .readChangeCipherSpec =>
      p.poll .changeCipherSpec Environment.readChangeCipherSpec (fun _ c => c)
  | .readEndOfEarlyData =>
      if p.context.canReadEarly then (some .earlyReturn, p) else (none, p.waitFor .ok)
  | .external work => (some (.needsExternal work), p.waitFor .ok)
  | .earlyDataRejected =>
      (some .earlyDataRejected, { p with context := { p.context with canWriteEarly := false } })
  | .ok => (none, p)

/-- Takes the error that the stage has left. -/
def takeError (p : Endpoint ε) : Error × Endpoint ε :=
  (p.context.lastError.getD .handshakeFailure,
    { p with context := { p.context with lastError := none } })

/-! ## Rounds -/

/-- At most `rounds` rounds of settling and running; no outcome if they do not suffice. -/
def driveFor (stage : Stage ε σ) : (rounds : Nat) → σ → Endpoint ε →
    Option Outcome × σ × Endpoint ε
  | 0, s, p => (none, s, p)
  | rounds + 1, s, p =>
      match p.settle with
      | (some outcome, p) => (some outcome, s, p)
      | (none, p) =>
          let (wait, s, p) := stage.step s p
          let p := p.waitFor wait
          match wait with
          | .error =>
              let (e, p) := p.takeError
              (some (.fatal e), s, p)
          | .ok => (some .success, s, p)
          | _ => driveFor stage rounds s p

/-- Runs a handshake until it is complete, fails, or has to wait. -/
def drive (stage : Stage ε σ) (s : σ) (p : Endpoint ε) : Outcome × σ × Endpoint ε :=
  let (outcome, s, p) := driveFor stage (stage.budget s) s p
  (outcome.getD (.fatal .handshakeFailure), s, p)

end Endpoint

end TlsHandshake
