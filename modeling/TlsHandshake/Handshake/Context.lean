import TlsHandshake.Config
import TlsHandshake.Message.Framing
import TlsHandshake.Transcript

set_option autoImplicit false

/-! # The state of a handshake

Everything needed to go on with a suspended handshake is in its `Context`; nothing is held back
between calls. -/

namespace TlsHandshake

/-! ## Waiting -/

/-- Work outside the handshake that it may wait for. -/
inductive ExternalWork where
  | x509Lookup
  | channelIdLookup
  | privateKeyOperation
  | pendingTicket
  | certificateVerify
  deriving DecidableEq, Repr

/-- What a handshake waits for. -/
inductive Wait where
  /-- It has failed, for good. -/
  | error
  | flush
  | flushAndReadMessage
  | readMessage
  | readChangeCipherSpec
  | readEndOfEarlyData
  | external (work : ExternalWork)
  | earlyDataRejected
  /-- Nothing. -/
  | ok
  deriving DecidableEq, Repr

/-! ## Contexts -/

/-- The state of one endpoint's handshake. -/
structure Context where
  config : Config
  wait : Wait := .ok
  transcript : Transcript
  /-- The message last read and not yet dealt with. -/
  message : Option Message := none
  /-- The schemes the peer lists; none means any. -/
  peerSchemes : List SignatureScheme := []
  /-- The peer asks for a stapled status. -/
  ocspRequested : Bool := false
  /-- The peer asks for stapled timestamps. -/
  sctsRequested : Bool := false
  /-- The server asks this client for a chain. -/
  certificateRequested : Bool := false
  /-- The signer has been asked and is not done. -/
  signaturePending : Bool := false
  /-- The client's Finished as this server expects it. -/
  expectedClientFinished : Option Bytes := none
  canReadEarly : Bool := false
  canWriteEarly : Bool := false
  /-- The KeyUpdates since the last other message; stays at 255. -/
  keyUpdateCount : Nat := 0
  /-- A KeyUpdate of ours is queued and not yet flushed. -/
  keyUpdatePending : Bool := false
  /-- The error that ended the handshake. -/
  lastError : Option Error := none
  session : Session := {}

namespace Context

/-- The state of a handshake that has not begun. -/
def new (config : Config) : Context where
  config := config
  transcript := .new config.hash

def role (c : Context) : Role := c.config.role

def isServer (c : Context) : Bool := c.role.isServer

/-- Bytes in a transcript hash. -/
def hashLength (c : Context) : Nat := c.transcript.algorithm.outputLength

/-- The body of the pending message; empty if there is none. -/
def messageBody (c : Context) : Bytes := (c.message.map Message.body).getD []

/-- The context with more bytes in its transcript. -/
def record (c : Context) (bytes : Bytes) : Context :=
  { c with transcript := c.transcript.append bytes }

/-- The context with the pending message in its transcript. -/
def recordMessage (c : Context) : Context :=
  match c.message with
  | some m => c.record m.raw
  | none => c

/-- The context once queued output has been written. -/
def noteFlushed (c : Context) : Context := { c with keyUpdatePending := false }

/-- The context that has failed with an error. -/
def fail (c : Context) (e : Error) : Context := { c with wait := .error, lastError := some e }

/-- Goes on without early data after it was rejected. -/
def resetEarlyDataReject (c : Context) : Except Error Context :=
  if c.wait = .earlyDataRejected then .ok { c with wait := .ok }
  else .error (.internal .earlyDataNotRejected)

end Context

end TlsHandshake
