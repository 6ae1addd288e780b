import TlsHandshake.Handshake.Engine
import TlsHandshake.Message.Finished

set_option autoImplicit false

/-! # Finishing the handshake (RFC 8446 §4.4.4)

Each end proves that it has seen the same transcript. A server that asks for no chain knows what the
client's Finished will be before it sends its own flight on, and may compute it ahead. -/

namespace TlsHandshake.Engine

variable {ε : Type} [Environment ε]

/-- The MAC of one end's Finished over the transcript as it is. -/
def finishedMac (sender : Role) : Engine ε Bytes := fun p =>
  perform (Environment.finishedMac sender p.context.transcript.hash) p

/-- The MAC computed ahead, which only a server has; it is used up. -/
def takeSavedFinished : Engine ε Bytes := do
  let c ← context
  modifyContext fun c => { c with expectedClientFinished := none }
  match c.isServer, c.expectedClientFinished with
  | true, some mac => return mac
  | _, _ => fatal .internalError (.internal .noSavedFinished)

/-- Deals with the pending Finished message, judging it by the MAC computed ahead or by a new
    one. -/
def processFinished (useSaved : Bool) : Engine ε Unit := do
  let c ← context
  let expected ←
    if useSaved then takeSavedFinished
    else orAlert (fun _ => .internalError) (finishedMac c.role.peer)
  if !Finished.accepts expected c.messageBody && !c.config.insecureFuzzing then
    fatal .decryptError .finishedMismatch

/-- The own MAC; a key schedule that cannot compute it fails the handshake as a mismatch. -/
def ownFinishedMac : Engine ε Bytes := fun p =>
  match finishedMac p.context.role p with
  | .ok mac p => .ok mac p
  | .error _ p => fatal .internalError .finishedMismatch p

/-- Sends the own Finished. -/
def addFinished : Engine ε Unit := do
  let mac ← ownFinishedMac
  let message ← orFatal (fun _ => .internalError) (Finished.encode mac)
  queue message

/-- Computes the client's Finished ahead, over the transcript as it is. -/
def saveClientFinished : Engine ε Unit := do
  let mac ← orAlert (fun _ => .internalError) (finishedMac .client)
  modifyContext fun c => { c with expectedClientFinished := some mac }

end TlsHandshake.Engine
