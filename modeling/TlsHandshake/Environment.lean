import TlsHandshake.Alert
import TlsHandshake.Key.Signing
import TlsHandshake.KeySchedule
import TlsHandshake.Message.Framing
import TlsHandshake.Session

set_option autoImplicit false

/-! # The surroundings of an endpoint

An endpoint acts on a record layer, a key schedule, an optional signer and an optional ticket
handler. `Environment ε` says how: the state of all of them together is one value of type `ε`, and
every operation takes it and gives the next one, also when it fails. Nothing is assumed about the
answers. -/

namespace TlsHandshake

/-- The answer of an operation that may have to be repeated later. -/
inductive Awaited (α : Type) where
  | ready (value : α)
  | pending
  deriving DecidableEq, Repr

/-- What an endpoint has to know about its signer. -/
structure SignerInfo where
  schemes : List SignatureScheme
  maxLength : Nat
  deriving DecidableEq, Repr

/-- The operations an endpoint relies on. -/
class Environment (ε : Type) where
  /-- Writes all queued messages to the peer. -/
  flushFlight : EStateM Error ε (Awaited Unit)
  /-- Takes note that the next read starts a flight of the peer. -/
  expectFlight : ε → ε
  /-- Reads the next complete message. -/
  readMessage : EStateM Error ε (Awaited Message)
  /-- Consumes a ChangeCipherSpec record. -/
  readChangeCipherSpec : EStateM Error ε (Awaited Unit)
  /-- Queues a message, header included, for the next flush. -/
  addMessage : Bytes → EStateM Error ε Unit
  /-- Sends an alert at once. -/
  sendAlert : Alert → ε → ε
  /-- The MAC of one end's Finished over a transcript hash. -/
  finishedMac : (sender : Role) → (transcriptHash : Bytes) → EStateM Error ε Bytes
  /-- Installs the next traffic key of a direction. -/
  rotateTrafficKey : Direction → EStateM Error ε Unit
  /-- The signer, if there is one. -/
  signer? : ε → Option SignerInfo
  /-- Starts to sign. -/
  sign : SignatureScheme → (input : Bytes) → (maxLength : Nat) → ε → SignResult × ε
  /-- Asks for the outcome of a signature that was started. -/
  completeSignature : (maxLength : Nat) → ε → SignResult × ε
  /-- Whether there is a ticket handler. -/
  handlesTickets : ε → Bool
  /-- Hands the body of a session ticket to the handler. -/
  storeTicket : (body : Bytes) → Session → EStateM Error ε Unit

end TlsHandshake
