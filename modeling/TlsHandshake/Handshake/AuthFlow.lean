import TlsHandshake.Handshake.Certificate
import TlsHandshake.Handshake.CertificateVerify
import TlsHandshake.Handshake.Drive
import TlsHandshake.Handshake.Finished

set_option autoImplicit false

/-! # The authentication flight (RFC 8446 §2)

After the keys are exchanged the server sends Certificate, CertificateVerify and Finished, reads the
client's chain if it asks for one, and reads the client's Finished. The client does the same the
other way round. A server or client without a chain of its own sends no CertificateVerify.

The flow is a walk through phases. Within its role's order (`AuthFlow.rank`) it only goes forward,
so one step takes at most as many turns as there are phases. -/

namespace TlsHandshake

/-- Where the authentication flight stands. -/
inductive Phase where
  | sendCertificate
  | sendCertificateVerify
  | sendFinished
  | readCertificate
  | readCertificateVerify
  | readFinished
  | done
  deriving DecidableEq, Repr

/-- One end's authentication flight. -/
structure AuthFlow where
  role : Role
  phase : Phase
  deriving DecidableEq, Repr

/-- How a turn ends: at once with the next phase, or waiting before it. -/
inductive Turn where
  | next (phase : Phase)
  | wait (phase : Phase) (wait : Wait)
  deriving DecidableEq, Repr

namespace AuthFlow

/-- The flight of an end that has not begun: the server sends first. -/
def new : Role → AuthFlow
  | .server => ⟨.server, .sendCertificate⟩
  | .client => ⟨.client, .readCertificate⟩

/-- Whether both Finished messages have been exchanged. -/
def isDone (flow : AuthFlow) : Bool := flow.phase = .done

/-- How many phases may still come in the order of the role. -/
def rank : Role → Phase → Nat
  | _, .done => 0
  | .server, .readFinished => 1
  | .server, .readCertificateVerify => 2
  | .server, .readCertificate => 3
  | .server, .sendFinished => 4
  | .server, .sendCertificateVerify => 5
  | .server, .sendCertificate => 6
  | .client, .sendFinished => 1
  | .client, .sendCertificateVerify => 2
  | .client, .sendCertificate => 3
  | .client, .readFinished => 4
  | .client, .readCertificateVerify => 5
  | .client, .readCertificate => 6

variable {ε : Type} [Environment ε]

open Engine

/-! ## Turns -/

/-- Whether a message is there; one of another type than expected is fatal. -/
def expect (expected : MessageType) : Engine ε Bool := do
  match (← context).message with
  | none => return false
  | some m =>
      if m.type = expected then return true
      fatal .unexpectedMessage (.unexpectedMessage (.outOfOrder expected m.type))

/-- Deals with the expected message if it is there: `process` it, put it into the transcript, and go
    on to the phase that the context then calls for. -/
def receive (phase : Phase) (expected : MessageType) (process : Engine ε Unit)
    (next : Context → Phase) : Engine ε Turn := do
  if ← expect expected then
    process
    modifyContext fun c => { c.recordMessage with message := none }
    return .next (next (← context))
  else
    return .wait phase .readMessage

/-- Signs and sends CertificateVerify, or waits for the signer. -/
def sendCertificateVerify : Engine ε Turn := do
  match ← signTranscript with
  | .retry => return .wait .sendCertificateVerify (.external .privateKeyOperation)
  | _ => return .next .sendFinished

/-- Sends Finished. The client is done but for the flush; the server reads what comes back, and
    knows the client's Finished already if nothing else will come. -/
def sendFinished : Role → Engine ε Turn
  | .client => do
      addFinished
      return .wait .done .flush
  | .server => do
      addFinished
      if (← context).config.verifyClient then
        return .wait .readCertificate .flushAndReadMessage
      else
        saveClientFinished
        return .wait .readFinished .flushAndReadMessage

/-- The work of one phase. -/
def turn (flow : AuthFlow) : Engine ε Turn := do
  match flow.phase with
  | .sendCertificate =>
      addCertificate
      let bare := (← context).config.certificateChain.isEmpty
      return .next (if bare then .sendFinished else .sendCertificateVerify)
  | .sendCertificateVerify => sendCertificateVerify
  | .sendFinished => sendFinished flow.role
  | .readCertificate =>
      let requireClient := (← context).config.requireClient
      receive .readCertificate .certificate
        (processCertificate (flow.role = .server && !requireClient))
        (fun c =>
          if c.session.peerCertificates.isSome then .readCertificateVerify else .readFinished)
  | .readCertificateVerify =>
      receive .readCertificateVerify .certificateVerify processCertificateVerify
        (fun _ => .readFinished)
  | .readFinished =>
      let verifyClient := (← context).config.verifyClient
      receive .readFinished .finished
        (processFinished (flow.role = .server && !verifyClient))
        (fun c => match flow.role with
          | .server => .done
          | .client => if c.certificateRequested then .sendCertificate else .sendFinished)
  | .done => return .wait .done .ok

/-! ## Steps -/

/-- Turns until one waits or fails, at most `turns` of them. -/
def stepFor : (turns : Nat) → AuthFlow → Endpoint ε → Wait × AuthFlow × Endpoint ε
  | 0, flow, p => (.error, flow, p)
  | turns + 1, flow, p =>
      match flow.turn p with
      | .ok (.next phase) p => stepFor turns { flow with phase := phase } p
      | .ok (.wait phase wait) p => (wait, { flow with phase := phase }, p)
      | .error e p => (.error, flow, { p with context := p.context.fail e })

/-- Goes as far as possible. -/
def step (flow : AuthFlow) (p : Endpoint ε) : Wait × AuthFlow × Endpoint ε :=
  stepFor (rank flow.role flow.phase + 1) flow p

/-- The flight as a stage: three messages to read, each perhaps awaited, a flush, and the end. -/
def stage : Stage ε AuthFlow where
  step := step
  budget _ := 6

end AuthFlow

end TlsHandshake
