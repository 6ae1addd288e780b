import TlsHandshake.Handshake.Engine
import TlsHandshake.Message.KeyUpdate

set_option autoImplicit false

/-! # After the handshake (RFC 8446 §4.6)

A KeyUpdate moves the peer's sending key on, and ours too if the peer asks for it; while a KeyUpdate
of ours is not yet flushed, no other is queued. How many may come in a row is bounded. Session
tickets go to the client's handler; every other message is out of place. -/

namespace TlsHandshake.Engine

variable {ε : Type} [Environment ε]

/-- The most KeyUpdates in a row. -/
def maxKeyUpdates : Nat := 32

/-- Queues a KeyUpdate and moves our sending key on. -/
def queueKeyUpdate (request : KeyUpdateRequest) : Engine ε Unit := do
  orAlert (fun _ => .internalError) (perform (Environment.addMessage request.encode))
  orAlert (fun _ => .internalError) (perform (Environment.rotateTrafficKey .write))
  modifyContext fun c => { c with keyUpdatePending := true }

/-- Starts a key update of our own, unless one is still to be flushed. -/
def sendKeyUpdate (request : KeyUpdateRequest) : Engine ε Unit := do
  if !(← context).keyUpdatePending then
    queueKeyUpdate request

/-- Deals with the pending KeyUpdate message. -/
def receiveKeyUpdate : Engine ε Unit := do
  let c ← context
  let request ← orFatal (fun _ => .decodeError) (KeyUpdateRequest.decode c.messageBody)
  orAlert (fun _ => .internalError) (perform (Environment.rotateTrafficKey .read))
  if request = .requested && !c.keyUpdatePending then
    queueKeyUpdate .notRequested

/-- The alert for an error of the ticket handler. -/
def ticketAlert : Error → AlertDescription
  | .decode _ => .decodeError
  | _ => .internalError

/-- Hands the pending session ticket to the handler; without one it is dropped. -/
def receiveTicket : Engine ε Unit := fun p =>
  if Environment.handlesTickets p.environment then
    orAlert ticketAlert
      (perform (Environment.storeTicket p.context.messageBody p.context.session)) p
  else .ok () p

/-- Deals with the pending message. -/
def postHandshake : Engine ε Unit := do
  let c ← context
  match c.message.map Message.type with
  | none => fatal .internalError (.internal .noPostHandshakeMessage)
  | some .keyUpdate =>
      let count := min 255 (c.keyUpdateCount + 1)
      modifyContext fun c => { c with keyUpdateCount := count }
      if maxKeyUpdates < count then
        fatal .unexpectedMessage .tooManyKeyUpdates
      receiveKeyUpdate
  | some type =>
      modifyContext fun c => { c with keyUpdateCount := 0 }
      if type = .newSessionTicket && !c.isServer then
        receiveTicket
      else
        fatal .unexpectedMessage (.unexpectedMessage (.afterHandshake type))

end TlsHandshake.Engine
