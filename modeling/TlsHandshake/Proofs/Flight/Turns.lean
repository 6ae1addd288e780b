import TlsHandshake.Handshake.AuthFlow
import TlsHandshake.Proofs.Engine

set_option autoImplicit false

/-! # What a turn of the flight can do

A turn either goes on to a next phase or to a wait (`Advance`) or fails (`Failure`). Both relations
list all the ways this happens: under which conditions on the context, with which events, and what
the context is afterwards. Main statement: every turn of every endpoint is one of these
(`turn_runs`), whatever its surroundings answer. -/

namespace TlsHandshake

/-! ## Views of a context -/

namespace Context

/-- What is stapled to the own leaf. -/
def staples (c : Context) : Staples where
  ocspResponse := if c.ocspRequested then c.config.ocspResponse else none
  sctList := if c.sctsRequested then c.config.sctList else none

/-- The own Certificate message. -/
def chainMessage (c : Context) : Except Error Bytes :=
  CertificateChain.encode c.config.certificateChain c.staples

/-- What the chain hook answers for a session, and the session it leaves. -/
def hooked (c : Context) (s : Session) : Except Error Unit × Session :=
  match c.config.chainHook with
  | none => (.ok (), s)
  | some hook => hook s

/-- The session with a chain of the peer in it. -/
def withChain (c : Context) (chain : CertificateChain) : Session :=
  c.session.storeChain (c.isServer && c.config.retainLeafHash) chain

@[simp] theorem record_session (c : Context) (bytes : Bytes) : (c.record bytes).session = c.session :=
  rfl

@[simp] theorem record_expectedClientFinished (c : Context) (bytes : Bytes) :
    (c.record bytes).expectedClientFinished = c.expectedClientFinished := rfl

/-- The context once its pending message has been dealt with. -/
def accept (c : Context) : Context := { c.recordMessage with message := none }

theorem accept_eq {c : Context} {m : Message} (hmessage : c.message = some m) :
    c.accept = { c.record m.raw with message := none } := by
  rw [accept, recordMessage, hmessage]

@[simp] theorem accept_session (c : Context) : c.accept.session = c.session := by
  rw [accept, recordMessage]
  cases c.message <;> rfl

@[simp] theorem accept_certificateRequested (c : Context) :
    c.accept.certificateRequested = c.certificateRequested := by
  rw [accept, recordMessage]
  cases c.message <;> rfl

@[simp] theorem accept_signaturePending (c : Context) :
    c.accept.signaturePending = c.signaturePending := by
  rw [accept, recordMessage]
  cases c.message <;> rfl

@[simp] theorem accept_expectedClientFinished (c : Context) :
    c.accept.expectedClientFinished = c.expectedClientFinished := by
  rw [accept, recordMessage]
  cases c.message <;> rfl

@[simp] theorem record_signaturePending (c : Context) (bytes : Bytes) :
    (c.record bytes).signaturePending = c.signaturePending := rfl

/-- `c'` is as `c` in all that the turns of a flight go by, except for the pending message. -/
structure SameFlight (c c' : Context) : Prop where
  config : c'.config = c.config := by rfl
  peerSchemes : c'.peerSchemes = c.peerSchemes := by rfl
  ocspRequested : c'.ocspRequested = c.ocspRequested := by rfl
  sctsRequested : c'.sctsRequested = c.sctsRequested := by rfl
  certificateRequested : c'.certificateRequested = c.certificateRequested := by rfl
  transcript : c'.transcript = c.transcript := by rfl
  session : c'.session = c.session := by rfl
  signaturePending : c'.signaturePending = c.signaturePending := by rfl
  expectedClientFinished : c'.expectedClientFinished = c.expectedClientFinished := by rfl

/-- Whether a flow of `role` lets a peer without a chain through. -/
def allowsAnonymous (c : Context) (role : Role) : Bool :=
  role = .server && !c.config.requireClient

/-- Whether a flow of `role` judges the client's Finished by the MAC computed ahead. -/
def usesSavedFinished (c : Context) (role : Role) : Bool :=
  role = .server && !c.config.verifyClient

theorem allowsAnonymous_of_client {c : Context} (hrole : c.role = .client) :
    c.allowsAnonymous c.role = false := by
  rw [allowsAnonymous, hrole]
  rfl

theorem allowsAnonymous_of_server {c : Context} (hrole : c.role = .server) :
    c.allowsAnonymous c.role = !c.config.requireClient := by
  rw [allowsAnonymous, hrole]
  rfl

theorem usesSavedFinished_of_client {c : Context} (hrole : c.role = .client) :
    c.usesSavedFinished c.role = false := by
  rw [usesSavedFinished, hrole]
  rfl

theorem usesSavedFinished_of_server {c : Context} (hrole : c.role = .server) :
    c.usesSavedFinished c.role = !c.config.verifyClient := by
  rw [usesSavedFinished, hrole]
  rfl

end Context

namespace AuthFlow

/-- The message that a phase waits for. -/
def expected? : Phase → Option MessageType
  | .readCertificate => some .certificate
  | .readCertificateVerify => some .certificateVerify
  | .readFinished => some .finished
  | _ => none

/-- The phase after the peer's Finished. -/
def afterFinished (role : Role) (c : Context) : Phase :=
  match role with
  | .server => .done
  | .client => if c.certificateRequested then .sendCertificate else .sendFinished

/-! ## Turns that succeed -/

/-- The turns of a flow of `role` with a signer as described that do not fail: the phase and the
    context before, the events, how the turn ends, and the context after. -/
inductive Advance (role : Role) (signer? : Option SignerInfo) :
    Phase → Context → History → Turn → Context → Prop
  | certificateSent {c : Context} {message : Bytes} (hencode : c.chainMessage = .ok message) :
      Advance role signer? .sendCertificate c [.queued message (.ok ())]
        (.next (if c.config.certificateChain.isEmpty then .sendFinished
          else .sendCertificateVerify))
        (c.record message)
  | signatureDelayed {c : Context} {info : SignerInfo} {scheme : SignatureScheme}
      (hsigner : signer? = some info)
      (hscheme : c.config.signaturePolicy.choose? info.schemes c.peerSchemes = some scheme) :
      Advance role signer? .sendCertificateVerify c [c.signingEvent scheme info.maxLength .retry]
        (.wait .sendCertificateVerify (.external .privateKeyOperation))
        { c with signaturePending := true }
  | signatureSent {c : Context} {info : SignerInfo} {scheme : SignatureScheme}
      {signature message : Bytes} (hsigner : signer? = some info)
      (hscheme : c.config.signaturePolicy.choose? info.schemes c.peerSchemes = some scheme)
      (hlength : signature.length ≤ info.maxLength)
      (hencode : CertificateVerify.encode ⟨scheme, signature⟩ = .ok message) :
      Advance role signer? .sendCertificateVerify c
        [c.signingEvent scheme info.maxLength (.success signature), .queued message (.ok ())]
        (.next .sendFinished) (Context.record { c with signaturePending := false } message)
  | clientFinishedSent {c : Context} {mac message : Bytes} (hrole : role = .client)
      (hencode : Finished.encode mac = .ok message) :
      Advance role signer? .sendFinished c
        [.computedMac c.role c.transcript.hash (.ok mac), .queued message (.ok ())]
        (.wait .done .flush) (c.record message)
  | serverFinishedSent {c : Context} {mac message : Bytes} (hrole : role = .server)
      (hverify : c.config.verifyClient = true) (hencode : Finished.encode mac = .ok message) :
      Advance role signer? .sendFinished c
        [.computedMac c.role c.transcript.hash (.ok mac), .queued message (.ok ())]
        (.wait .readCertificate .flushAndReadMessage) (c.record message)
  | serverFinishedSaved {c : Context} {mac message saved : Bytes} (hrole : role = .server)
      (hverify : c.config.verifyClient = false) (hencode : Finished.encode mac = .ok message) :
      Advance role signer? .sendFinished c
        [.computedMac c.role c.transcript.hash (.ok mac), .queued message (.ok ()),
          .computedMac .client (c.record message).transcript.hash (.ok saved)]
        (.wait .readFinished .flushAndReadMessage)
        { c.record message with expectedClientFinished := some saved }
  | awaiting {phase : Phase} {c : Context} {type : MessageType} (hphase : expected? phase = some type)
      (hmessage : c.message = none) :
      Advance role signer? phase c [] (.wait phase .readMessage) c
  | chainAccepted {c : Context} {m : Message} {chain : CertificateChain} {s : Session}
      (hmessage : c.message = some m) (htype : m.type = .certificate)
      (hdecode : CertificateChain.decode c.certificateRules m.body = .ok chain)
      (hhook : c.hooked (c.withChain chain) = (.ok (), s)) (hpeer : s.peerCertificates.isSome) :
      Advance role signer? .readCertificate c [] (.next .readCertificateVerify)
        (Context.accept { c with session := s })
  | anonymousAccepted {c : Context} {m : Message} {chain : CertificateChain} {s : Session}
      (hmessage : c.message = some m) (htype : m.type = .certificate)
      (hdecode : CertificateChain.decode c.certificateRules m.body = .ok chain)
      (hhook : c.hooked (c.withChain chain) = (.ok (), s)) (hpeer : s.peerCertificates = none)
      (hallowed : c.allowsAnonymous role = true) :
      Advance role signer? .readCertificate c [] (.next .readFinished)
        (Context.accept { c with session := { s with verifyResult := .ok } })
  | signatureAccepted {c : Context} {m : Message} {key : PublicKey} {verify : CertificateVerify}
      (hmessage : c.message = some m) (htype : m.type = .certificateVerify)
      (hkey : c.session.peerKey = some key) (hdecode : CertificateVerify.decode m.body = .ok verify)
      (hpolicy : c.config.signaturePolicy.refusal? verify.scheme = none)
      (hverify : key.verify verify.scheme (c.signatureInput c.role.peer) verify.signature = .ok true
        ∨ c.config.insecureFuzzing = true) :
      Advance role signer? .readCertificateVerify c [] (.next .readFinished)
        (Context.accept { c with session := { c.session with peerScheme := some verify.scheme } })
  | finishedAccepted {c : Context} {m : Message} {mac : Bytes} (hmessage : c.message = some m)
      (htype : m.type = .finished) (hsaved : c.usesSavedFinished role = false)
      (haccepts : m.body = mac ∨ c.config.insecureFuzzing = true) :
      Advance role signer? .readFinished c
        [.computedMac c.role.peer c.transcript.hash (.ok mac)]
        (.next (afterFinished role c)) c.accept
  | savedFinishedAccepted {c : Context} {m : Message} {mac : Bytes} (hmessage : c.message = some m)
      (htype : m.type = .finished) (hsaved : c.usesSavedFinished role = true)
      (hserver : c.isServer = true) (hmac : c.expectedClientFinished = some mac)
      (haccepts : m.body = mac ∨ c.config.insecureFuzzing = true) :
      Advance role signer? .readFinished c [] (.next (afterFinished role c))
        (Context.accept { c with expectedClientFinished := none })
  | done {c : Context} : Advance role signer? .done c [] (.wait .done .ok) c

/-! ## Turns that fail -/

/-- The turns of a flow of `role` with a signer as described that fail: the phase and the context
    before, the events, the error, and the context after. -/
inductive Failure (role : Role) (signer? : Option SignerInfo) :
    Phase → Context → History → Error → Context → Prop
  | certificateUnencodable {c : Context} {e : Error} (hencode : c.chainMessage = .error e) :
      Failure role signer? .sendCertificate c [.fatal .internalError] e c
  | certificateUnqueued {c : Context} {message : Bytes} {e : Error}
      (hencode : c.chainMessage = .ok message) :
      Failure role signer? .sendCertificate c [.queued message (.error e), .fatal .internalError] e
        (c.record message)
  | signerMissing {c : Context} (hsigner : signer? = none) :
      Failure role signer? .sendCertificateVerify c [.fatal .internalError]
        (.internal .noPrivateKey) c
  | schemeMissing {c : Context} {info : SignerInfo} (hsigner : signer? = some info)
      (hscheme : c.config.signaturePolicy.choose? info.schemes c.peerSchemes = none) :
      Failure role signer? .sendCertificateVerify c [.fatal .handshakeFailure] .noCommonScheme c
  | signatureFailed {c : Context} {info : SignerInfo} {scheme : SignatureScheme}
      (hsigner : signer? = some info)
      (hscheme : c.config.signaturePolicy.choose? info.schemes c.peerSchemes = some scheme) :
      Failure role signer? .sendCertificateVerify c
        [c.signingEvent scheme info.maxLength .failure, .fatal .internalError]
        (.crypto .signFailed) { c with signaturePending := false }
  | signatureTooLong {c : Context} {info : SignerInfo} {scheme : SignatureScheme}
      {signature : Bytes} (hsigner : signer? = some info)
      (hscheme : c.config.signaturePolicy.choose? info.schemes c.peerSchemes = some scheme)
      (hlength : info.maxLength < signature.length) :
      Failure role signer? .sendCertificateVerify c
        [c.signingEvent scheme info.maxLength (.success signature), .fatal .internalError]
        (.internal .signatureTooLong) { c with signaturePending := false }
  | signatureUnencodable {c : Context} {info : SignerInfo} {scheme : SignatureScheme}
      {signature : Bytes} {e : Error} (hsigner : signer? = some info)
      (hscheme : c.config.signaturePolicy.choose? info.schemes c.peerSchemes = some scheme)
      (hlength : signature.length ≤ info.maxLength)
      (hencode : CertificateVerify.encode ⟨scheme, signature⟩ = .error e) :
      Failure role signer? .sendCertificateVerify c
        [c.signingEvent scheme info.maxLength (.success signature), .fatal .internalError] e
        { c with signaturePending := false }
  | signatureUnqueued {c : Context} {info : SignerInfo} {scheme : SignatureScheme}
      {signature message : Bytes} {e : Error} (hsigner : signer? = some info)
      (hscheme : c.config.signaturePolicy.choose? info.schemes c.peerSchemes = some scheme)
      (hlength : signature.length ≤ info.maxLength)
      (hencode : CertificateVerify.encode ⟨scheme, signature⟩ = .ok message) :
      Failure role signer? .sendCertificateVerify c
        [c.signingEvent scheme info.maxLength (.success signature), .queued message (.error e),
          .fatal .internalError] e
        (Context.record { c with signaturePending := false } message)
  | finishedUncomputable {c : Context} {e : Error} :
      Failure role signer? .sendFinished c
        [.computedMac c.role c.transcript.hash (.error e), .fatal .internalError]
        .finishedMismatch c
  | finishedUnencodable {c : Context} {mac : Bytes} {e : Error}
      (hencode : Finished.encode mac = .error e) :
      Failure role signer? .sendFinished c
        [.computedMac c.role c.transcript.hash (.ok mac), .fatal .internalError] e c
  | finishedUnqueued {c : Context} {mac message : Bytes} {e : Error}
      (hencode : Finished.encode mac = .ok message) :
      Failure role signer? .sendFinished c
        [.computedMac c.role c.transcript.hash (.ok mac), .queued message (.error e),
          .fatal .internalError] e (c.record message)
  | savedFinishedUncomputable {c : Context} {mac message : Bytes} {e : Error}
      (hrole : role = .server) (hverify : c.config.verifyClient = false)
      (hencode : Finished.encode mac = .ok message) :
      Failure role signer? .sendFinished c
        [.computedMac c.role c.transcript.hash (.ok mac), .queued message (.ok ()),
          .computedMac .client (c.record message).transcript.hash (.error e),
          .fatal .internalError] e (c.record message)
  | outOfOrder {phase : Phase} {c : Context} {type : MessageType} {m : Message}
      (hphase : expected? phase = some type) (hmessage : c.message = some m)
      (htype : m.type ≠ type) :
      Failure role signer? phase c [.fatal .unexpectedMessage]
        (.unexpectedMessage (.outOfOrder type m.type)) c
  | chainUndecodable {c : Context} {m : Message} {e : Error} (hmessage : c.message = some m)
      (htype : m.type = .certificate)
      (hdecode : CertificateChain.decode c.certificateRules m.body = .error e) :
      Failure role signer? .readCertificate c [.fatal (CertificateChain.alertFor e)] e c
  | chainRefused {c : Context} {m : Message} {chain : CertificateChain} {e : Error} {s : Session}
      (hmessage : c.message = some m) (htype : m.type = .certificate)
      (hdecode : CertificateChain.decode c.certificateRules m.body = .ok chain)
      (hhook : c.hooked (c.withChain chain) = (.error e, s)) :
      Failure role signer? .readCertificate c [.fatal .decodeError] e { c with session := s }
  | anonymousRefused {c : Context} {m : Message} {chain : CertificateChain} {s : Session}
      (hmessage : c.message = some m) (htype : m.type = .certificate)
      (hdecode : CertificateChain.decode c.certificateRules m.body = .ok chain)
      (hhook : c.hooked (c.withChain chain) = (.ok (), s)) (hpeer : s.peerCertificates = none)
      (hallowed : c.allowsAnonymous role = false) :
      Failure role signer? .readCertificate c [.fatal .certificateRequired] .noPeerCertificate
        { c with session := s }
  | keyMissing {c : Context} {m : Message} (hmessage : c.message = some m)
      (htype : m.type = .certificateVerify) (hkey : c.session.peerKey = none) :
      Failure role signer? .readCertificateVerify c [.fatal .internalError]
        (.internal .noPeerKey) c
  | verifyUndecodable {c : Context} {m : Message} {key : PublicKey} {e : Error}
      (hmessage : c.message = some m) (htype : m.type = .certificateVerify)
      (hkey : c.session.peerKey = some key) (hdecode : CertificateVerify.decode m.body = .error e) :
      Failure role signer? .readCertificateVerify c [.fatal .decodeError] e c
  | schemeRefused {c : Context} {m : Message} {key : PublicKey} {verify : CertificateVerify}
      {description : AlertDescription} (hmessage : c.message = some m)
      (htype : m.type = .certificateVerify) (hkey : c.session.peerKey = some key)
      (hdecode : CertificateVerify.decode m.body = .ok verify)
      (hpolicy : c.config.signaturePolicy.refusal? verify.scheme = some description) :
      Failure role signer? .readCertificateVerify c [.fatal description]
        (.schemeRejected verify.scheme) c
  | signatureRefused {c : Context} {m : Message} {key : PublicKey} {verify : CertificateVerify}
      (hmessage : c.message = some m) (htype : m.type = .certificateVerify)
      (hkey : c.session.peerKey = some key) (hdecode : CertificateVerify.decode m.body = .ok verify)
      (hpolicy : c.config.signaturePolicy.refusal? verify.scheme = none)
      (hverify : key.verify verify.scheme (c.signatureInput c.role.peer) verify.signature
        ≠ .ok true) (hfuzzing : c.config.insecureFuzzing = false) :
      Failure role signer? .readCertificateVerify c [.fatal .decryptError] .badSignature
        { c with session := { c.session with peerScheme := some verify.scheme } }
  | savedFinishedMissing {c : Context} {m : Message} (hmessage : c.message = some m)
      (htype : m.type = .finished) (hsaved : c.usesSavedFinished role = true)
      (hmissing : c.isServer = false ∨ c.expectedClientFinished = none) :
      Failure role signer? .readFinished c [.fatal .internalError] (.internal .noSavedFinished)
        { c with expectedClientFinished := none }
  | savedFinishedRefused {c : Context} {m : Message} {mac : Bytes} (hmessage : c.message = some m)
      (htype : m.type = .finished) (hsaved : c.usesSavedFinished role = true)
      (hserver : c.isServer = true) (hmac : c.expectedClientFinished = some mac)
      (hbody : m.body ≠ mac) (hfuzzing : c.config.insecureFuzzing = false) :
      Failure role signer? .readFinished c [.fatal .decryptError] .finishedMismatch
        { c with expectedClientFinished := none }
  | peerFinishedUncomputable {c : Context} {m : Message} {e : Error} (hmessage : c.message = some m)
      (htype : m.type = .finished) (hsaved : c.usesSavedFinished role = false) :
      Failure role signer? .readFinished c
        [.computedMac c.role.peer c.transcript.hash (.error e), .fatal .internalError] e c
  | finishedRefused {c : Context} {m : Message} {mac : Bytes} (hmessage : c.message = some m)
      (htype : m.type = .finished) (hsaved : c.usesSavedFinished role = false)
      (hbody : m.body ≠ mac) (hfuzzing : c.config.insecureFuzzing = false) :
      Failure role signer? .readFinished c
        [.computedMac c.role.peer c.transcript.hash (.ok mac), .fatal .decryptError]
        .finishedMismatch c

/-- The turns of a flow, whichever way they end. -/
def Turned (role : Role) (signer? : Option SignerInfo) (phase : Phase) (c : Context) (h : History)
    (answer : Except Error Turn) (c' : Context) : Prop :=
  match answer with
  | .ok turn => Advance role signer? phase c h turn c'
  | .error e => Failure role signer? phase c h e c'

end AuthFlow

end TlsHandshake
