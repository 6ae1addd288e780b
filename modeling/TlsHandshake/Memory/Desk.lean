import TlsHandshake.KeySchedule
import TlsHandshake.Memory.Signer
import TlsHandshake.Memory.Station

set_option autoImplicit false

/-! # An endpoint's surroundings in memory

A station with derived finished keys, and perhaps a signer and a ticket store. For rehearsing
failures, any operation that can fail has a queue of faults: as long as its queue is not empty, the
operation takes the first fault off it and fails with that, and does nothing else. -/

namespace TlsHandshake

instance : KeySchedule FinishedKeys where
  finishedMac sender transcriptHash := fun keys => .ok (keys.mac sender transcriptHash) keys
  rotate direction := fun keys => .ok () (keys.rotate direction)

instance : SigningDevice Signer where
  info := Signer.info
  sign := Signer.sign
  complete := Signer.complete

instance : TicketHandler TicketStore where
  store body _ := TicketStore.store body

/-- An operation that can be made to fail. -/
inductive Operation where
  | flush
  | readMessage
  | readChangeCipherSpec
  | addMessage
  | finishedMac
  | rotate (direction : Direction)
  | storeTicket
  deriving DecidableEq, Repr

/-- The surroundings of an endpoint, all in memory. -/
structure Desk extends Station FinishedKeys Signer TicketStore where
  /-- The faults to come, in the order in which they were planned. -/
  faults : List (Operation × Error) := []

namespace Desk

variable {α : Type}

/-- Plans one more fault. -/
def planFault (operation : Operation) (e : Error) (d : Desk) : Desk :=
  { d with faults := d.faults ++ [(operation, e)] }

/-- Performs an operation of the station, unless a fault is planned for it. -/
def attempt (operation : Operation)
    (act : EStateM Error (Station FinishedKeys Signer TicketStore) α) :
    EStateM Error Desk α := fun d =>
  match d.faults.find? (·.1 = operation) with
  | some (_, e) => .error e { d with faults := d.faults.eraseP (·.1 = operation) }
  | none =>
      match act d.toStation with
      | .ok a s => .ok a { d with toStation := s }
      | .error e s => .error e { d with toStation := s }

/-- Performs an operation of the station that cannot fail. -/
def always (act : Station FinishedKeys Signer TicketStore →
    α × Station FinishedKeys Signer TicketStore) (d : Desk) : α × Desk :=
  let (a, s) := act d.toStation
  (a, { d with toStation := s })

instance : Environment Desk where
  flushFlight := attempt .flush Environment.flushFlight
  expectFlight d := { d with toStation := Environment.expectFlight d.toStation }
  readMessage := attempt .readMessage Environment.readMessage
  readChangeCipherSpec := attempt .readChangeCipherSpec Environment.readChangeCipherSpec
  addMessage m := attempt .addMessage (Environment.addMessage m)
  sendAlert a d := { d with toStation := Environment.sendAlert a d.toStation }
  finishedMac sender transcriptHash :=
    attempt .finishedMac (Environment.finishedMac sender transcriptHash)
  rotateTrafficKey direction :=
    attempt (.rotate direction) (Environment.rotateTrafficKey direction)
  signer? d := Environment.signer? d.toStation
  sign scheme input maxLength := always (Environment.sign scheme input maxLength)
  completeSignature maxLength := always (Environment.completeSignature maxLength)
  handlesTickets d := Environment.handlesTickets d.toStation
  storeTicket body session := attempt .storeTicket (Environment.storeTicket body session)

instance : OnLink Desk where
  socket d := d.socket
  withSocket socket d := { d with socket := socket }
  socket_withSocket _ _ := rfl
  withSocket_socket _ := rfl
  withSocket_withSocket _ _ _ := rfl

end Desk

end TlsHandshake
