import TlsHandshake.Proofs.Flight.Turns

set_option autoImplicit false

/-! # Every turn is listed

Main statement: `turn_listed`, every turn of every flow is one of the `Advance` or the `Failure`
relation, with the events that the relation names. One lemma per phase. What can come of signing
is listed apart (`signTranscript_listed`), as it has its own answer. -/

namespace TlsHandshake

variable {ε : Type} [Environment ε]

namespace AuthFlow

open Engine

/-! ## Signing -/

/-- What can come of signing at a context, in a flow of `role` with a signer as described: the
    events, the answer, and the context after. -/
inductive SignOutcome (role : Role) (signer? : Option SignerInfo) (c : Context) :
    History → Except Error SignResult → Context → Prop
  | delayed {info : SignerInfo} {scheme : SignatureScheme} (hsigner : signer? = some info)
      (hscheme : c.config.signaturePolicy.choose? info.schemes c.peerSchemes = some scheme) :
      SignOutcome role signer? c [c.signingEvent scheme info.maxLength .retry] (.ok .retry)
        { c with signaturePending := true }
  | sent {info : SignerInfo} {scheme : SignatureScheme} {signature message : Bytes}
      (hsigner : signer? = some info)
      (hscheme : c.config.signaturePolicy.choose? info.schemes c.peerSchemes = some scheme)
      (hlength : signature.length ≤ info.maxLength)
      (hencode : CertificateVerify.encode ⟨scheme, signature⟩ = .ok message) :
      SignOutcome role signer? c
        [c.signingEvent scheme info.maxLength (.success signature), .queued message (.ok ())]
        (.ok (.success signature)) (Context.record { c with signaturePending := false } message)
  | failed {h : History} {e : Error} {c' : Context}
      (hfailure : Failure role signer? .sendCertificateVerify c h e c') :
      SignOutcome role signer? c h (.error e) c'

/-- Sends a signature that the signer has made. -/
def sendSigned (info : SignerInfo) (scheme : SignatureScheme) (signature : Bytes) :
    Engine ε SignResult := do
  if info.maxLength < signature.length then
    fatal .internalError (.internal .signatureTooLong)
  let message ← orFatal (fun _ => .internalError) (CertificateVerify.encode ⟨scheme, signature⟩)
  queue message
  return .success signature

/-- What is done with the answer of the signer. -/
def useResult (info : SignerInfo) (scheme : SignatureScheme) (result : SignResult) :
    Engine ε SignResult := do
  modifyContext fun c => { c with signaturePending := result = .retry }
  match result with
  | .retry => return .retry
  | .failure => fatal .internalError (.crypto .signFailed)
  | .success signature => sendSigned info scheme signature

section Signing

variable {p : Endpoint ε} {info : SignerInfo} {scheme : SignatureScheme}

/-- Where there is a signer and a scheme, the signer is asked and its answer used. -/
theorem signTranscript_eq (hsigner : Environment.signer? p.environment = some info)
    (hscheme : p.context.config.signaturePolicy.choose? info.schemes p.context.peerSchemes
      = some scheme) :
    signTranscript p = (askSigner p.context scheme info.maxLength >>= useResult info scheme) p := by
  simp only [signTranscript, signTranscript.go, hsigner, Bind.bind, EStateM.bind, context, hscheme]
  rfl

/-- Sending a signature: it is sent, it is too long for its signer or for its field, or it cannot be
    queued. -/
theorem sendSigned_listed (role : Role) (signature : Bytes) (env : ε)
    (hsigner : Environment.signer? p.environment = some info)
    (hscheme : p.context.config.signaturePolicy.choose? info.schemes p.context.peerSchemes
      = some scheme) :
    ∃ h answer c' env', (sendSigned info scheme signature).Runs
        ⟨{ p.context with signaturePending := false }, env⟩ h answer ⟨c', env'⟩
      ∧ SignOutcome role (Environment.signer? p.environment) p.context
        (p.context.signingEvent scheme info.maxLength (.success signature) :: h) answer c' := by
  by_cases hlength : info.maxLength < signature.length
  · refine ⟨_, .error _, _, _, (runs_fatal .internalError (.internal .signatureTooLong)).of_eq ?_,
      .failed (.signatureTooLong hsigner hscheme hlength)⟩
    rw [sendSigned, if_pos hlength]
    rfl
  have hle : signature.length ≤ info.maxLength := Nat.le_of_not_lt hlength
  cases hencode : CertificateVerify.encode ⟨scheme, signature⟩ with
  | error e =>
      refine ⟨_, .error e, _, _, (runs_fatal .internalError e).of_eq ?_,
        .failed (.signatureUnencodable hsigner hscheme hle hencode)⟩
      rw [sendSigned, if_neg hlength, hencode]
      rfl
  | ok message =>
      have hsend : sendSigned info scheme signature
          = (do queue message; return .success signature : Engine ε SignResult) := by
        rw [sendSigned, if_neg hlength, hencode]
        rfl
      rw [hsend]
      rcases queue_runs message ⟨{ p.context with signaturePending := false }, env⟩ with
        ⟨⟨_, env'⟩, hq, rfl⟩ | ⟨e, ⟨_, env'⟩, hq, rfl⟩
      · exact ⟨_, .ok (.success signature), _, env', hq.bind (runs_pure _),
          .sent hsigner hscheme hle hencode⟩
      · exact ⟨_, .error e, _, env', hq.bind_error,
          .failed (.signatureUnqueued hsigner hscheme hle hencode)⟩

end Signing

theorem signTranscript_listed (role : Role) (p : Endpoint ε) :
    ∃ h answer c' env', signTranscript.Runs p h answer ⟨c', env'⟩
      ∧ SignOutcome role (Environment.signer? p.environment) p.context h answer c' := by
  cases hsigner : Environment.signer? p.environment with
  | none =>
      refine ⟨_, .error (.internal .noPrivateKey), _, _, (runs_fatal .internalError _).of_eq ?_,
        .failed (.signerMissing rfl)⟩
      rw [signTranscript, hsigner]
      rfl
  | some info =>
      cases hscheme : p.context.config.signaturePolicy.choose? info.schemes p.context.peerSchemes with
      | none =>
          refine ⟨_, .error .noCommonScheme, _, _, (runs_fatal .handshakeFailure _).of_eq ?_,
            .failed (.schemeMissing rfl hscheme)⟩
          simp only [signTranscript, signTranscript.go, hsigner, Bind.bind, EStateM.bind, context,
            hscheme]
      | some scheme =>
          -- there is a signer and a scheme, so the signer is asked and its answer decides
          obtain ⟨answer, env, hask⟩ := askSigner_runs scheme info.maxLength p
          have hsign := signTranscript_eq hsigner hscheme
          rw [← hsigner]
          cases answer with
          | retry =>
              have huse : Runs (useResult info scheme .retry) ⟨p.context, env⟩ [] (.ok .retry)
                  ⟨{ p.context with signaturePending := true }, env⟩ := ⟨rfl, rfl⟩
              exact ⟨_, _, _, _, (hask.bind huse).of_eq hsign, .delayed hsigner hscheme⟩
          | failure =>
              have huse : Runs (useResult info scheme .failure) ⟨p.context, env⟩
                  [.fatal .internalError] (.error (.crypto .signFailed))
                  (alerted ⟨{ p.context with signaturePending := false }, env⟩ .internalError) :=
                ⟨rfl, _, rfl, rfl⟩
              exact ⟨_, _, _, _, (hask.bind huse).of_eq hsign,
                .failed (.signatureFailed hsigner hscheme)⟩
          | success signature =>
              obtain ⟨h, answer, c', env', hsend, hlisted⟩ :=
                sendSigned_listed role signature env hsigner hscheme
              have huse : Runs (useResult info scheme (.success signature)) ⟨p.context, env⟩ h
                  answer ⟨c', env'⟩ := ⟨hsend.1, hsend.2⟩
              exact ⟨_, answer, c', env', (hask.bind huse).of_eq hsign, hlisted⟩

/-! ## Turns -/

/-- A turn of a flow from `p` is one of those listed. -/
def TurnListed (flow : AuthFlow) (p : Endpoint ε) : Prop :=
  ∃ h answer q, flow.turn.Runs p h answer q
    ∧ Turned flow.role (Environment.signer? p.environment) flow.phase p.context h answer q.context

/-! ## Sending -/

theorem sendCertificate_listed (role : Role) (p : Endpoint ε) :
    TurnListed ⟨role, .sendCertificate⟩ p := by
  cases hencode : p.context.chainMessage with
  | error e =>
      refine ⟨_, .error e, _, (runs_fatal .internalError e).of_eq ?_,
        .certificateUnencodable hencode⟩
      rw [Context.chainMessage, Context.staples] at hencode
      simp only [turn, addCertificate, context, Bind.bind, EStateM.bind, hencode, orFatal]
      rfl
  | ok message =>
      -- once the message is encoded, the turn queues it and goes by the own chain
      have hturn : turn ⟨role, .sendCertificate⟩ p = (do
          queue message
          let bare := (← context).config.certificateChain.isEmpty
          return Turn.next (if bare then .sendFinished else .sendCertificateVerify)) p := by
        rw [Context.chainMessage, Context.staples] at hencode
        simp only [turn, addCertificate, context, Bind.bind, EStateM.bind, hencode, orFatal,
          Pure.pure, EStateM.pure]
      rcases queue_runs message p with ⟨q, hq, hcontext⟩ | ⟨e, q, hq, hcontext⟩
      · have hrest : Runs (do
            let bare := (← context).config.certificateChain.isEmpty
            return Turn.next (if bare then .sendFinished else .sendCertificateVerify)) q []
            (.ok (.next (if q.context.config.certificateChain.isEmpty then .sendFinished
              else .sendCertificateVerify))) q := ⟨rfl, rfl⟩
        refine ⟨_, .ok _, q, (hq.bind hrest).of_eq hturn, ?_⟩
        rw [hcontext]
        exact .certificateSent hencode
      · refine ⟨_, .error e, q, hq.bind_error.of_eq hturn, ?_⟩
        rw [hcontext]
        exact .certificateUnqueued hencode

/-- Sends a signature that the signer has made. -/
def sendSignature (info : SignerInfo) (scheme : SignatureScheme) (signature : Bytes) :
    Engine ε Turn :=
  if info.maxLength < signature.length then fatal .internalError (.internal .signatureTooLong)
  else do
    let message ← orFatal (fun _ => .internalError) (CertificateVerify.encode ⟨scheme, signature⟩)
    queue message
    return .next .sendFinished

/-- What is done with the answer of the signer. -/
def useAnswer (info : SignerInfo) (scheme : SignatureScheme) (answer : SignResult) :
    Engine ε Turn := do
  modifyContext fun c => { c with signaturePending := answer = .retry }
  match answer with
  | .retry => return .wait .sendCertificateVerify (.external .privateKeyOperation)
  | .failure => fatal .internalError (.crypto .signFailed)
  | .success signature => sendSignature info scheme signature

/-- Where a turn that has signed goes on, or what it waits for. -/
def afterSigning : SignResult → Turn
  | .retry => .wait .sendCertificateVerify (.external .privateKeyOperation)
  | _ => .next .sendFinished

theorem turn_sendCertificateVerify (role : Role) :
    turn ⟨role, .sendCertificateVerify⟩
      = (do return afterSigning (← signTranscript) : Engine ε Turn) := by
  funext p
  simp only [turn, sendCertificateVerify, Bind.bind, EStateM.bind]
  cases signTranscript p with
  | error e q => rfl
  | ok result q => cases result <;> rfl

theorem useAnswer_eq (info : SignerInfo) (scheme : SignatureScheme) (answer : SignResult) :
    useAnswer info scheme answer
      = (do return afterSigning (← useResult info scheme answer) : Engine ε Turn) := by
  cases answer with
  | retry | failure => rfl
  | success signature =>
      by_cases hlength : info.maxLength < signature.length
      · simp only [useAnswer, useResult, sendSignature, sendSigned, if_pos hlength]
        rfl
      · simp only [useAnswer, useResult, sendSignature, sendSigned, if_neg hlength]
        cases CertificateVerify.encode ⟨scheme, signature⟩ <;> simp [orFatal, afterSigning]

section Signing

variable {role : Role} {p : Endpoint ε} {info : SignerInfo} {scheme : SignatureScheme}

/-- A turn that has a signer and a scheme asks the signer and goes by its answer. -/
theorem sendCertificateVerify_eq (role : Role)
    (hsigner : Environment.signer? p.environment = some info)
    (hscheme : p.context.config.signaturePolicy.choose? info.schemes p.context.peerSchemes
      = some scheme) :
    turn ⟨role, .sendCertificateVerify⟩ p
      = (askSigner p.context scheme info.maxLength >>= useAnswer info scheme) p := by
  have hsign := signTranscript_eq hsigner hscheme
  rw [turn_sendCertificateVerify, funext (useAnswer_eq info scheme)]
  simp only [Bind.bind, EStateM.bind] at hsign ⊢
  rw [hsign]
  cases askSigner p.context scheme info.maxLength p <;> rfl

theorem turn_of_signTranscript {q : Endpoint ε} {h : History} {answer : Except Error SignResult}
    (role : Role) (hruns : signTranscript.Runs p h answer q) :
    (turn ⟨role, .sendCertificateVerify⟩).Runs p h (answer.map afterSigning) q := by
  rw [turn_sendCertificateVerify]
  cases answer with
  | error e => exact hruns.bind_error
  | ok result =>
      rw [← List.append_nil h]
      exact hruns.bind (runs_pure (afterSigning result))

end Signing

theorem sendCertificateVerify_listed (role : Role) (p : Endpoint ε) :
    TurnListed ⟨role, .sendCertificateVerify⟩ p := by
  obtain ⟨h, answer, c', env', hruns, houtcome⟩ := signTranscript_listed role p
  refine ⟨h, _, _, turn_of_signTranscript role hruns, ?_⟩
  cases houtcome with
  | delayed hsigner hscheme => exact .signatureDelayed hsigner hscheme
  | sent hsigner hscheme hlength hencode => exact .signatureSent hsigner hscheme hlength hencode
  | failed hfailure => exact hfailure

/-- Sending Finished, apart from what comes after it. -/
theorem addFinished_runs (p : Endpoint ε) :
    (∃ mac message q, addFinished.Runs p
        [.computedMac p.context.role p.context.transcript.hash (.ok mac), .queued message (.ok ())]
        (.ok ()) q
      ∧ Finished.encode mac = .ok message ∧ q.context = p.context.record message)
    ∨ ∃ h e q, addFinished.Runs p h (.error e) q
      ∧ ∀ role signer?, Failure role signer? .sendFinished p.context h e q.context := by
  -- three things can fail, one after the other: the MAC, its encoding and queueing it
  obtain ⟨answer, env, hmac⟩ := finishedMac_runs p.context.role p
  cases answer with
  | error e =>
      have hown : ownFinishedMac.Runs p
          [.computedMac p.context.role p.context.transcript.hash (.error e), .fatal .internalError]
          (.error .finishedMismatch) (alerted ⟨p.context, env⟩ .internalError) := by
        refine ⟨?_, hmac.2.append ⟨_, rfl, rfl⟩⟩
        rw [answerOf_eq_error_iff, ownFinishedMac, answerOf_eq_error_iff.1 hmac.1]
        rfl
      exact Or.inr ⟨_, _, _, hown.bind_error, fun _ _ => .finishedUncomputable⟩
  | ok mac =>
      have hown : ownFinishedMac.Runs p
          [.computedMac p.context.role p.context.transcript.hash (.ok mac)] (.ok mac)
          ⟨p.context, env⟩ := by
        refine ⟨?_, hmac.2⟩
        rw [answerOf_eq_ok_iff, ownFinishedMac, answerOf_eq_ok_iff.1 hmac.1]
      cases hencode : Finished.encode mac with
      | error e =>
          have hrest : Runs (do queue (← orFatal (fun _ => .internalError) (Finished.encode mac)))
              ⟨p.context, env⟩ [.fatal .internalError] (.error e) _ :=
            Runs.bind_error (by rw [hencode]; exact runs_fatal _ _)
          exact Or.inr ⟨_, _, _, hown.bind hrest, fun _ _ => .finishedUnencodable hencode⟩
      | ok message =>
          have hrest : Runs (orFatal (fun _ => .internalError) (Finished.encode mac))
              ⟨p.context, env⟩ [] (.ok message) ⟨p.context, env⟩ := by
            rw [hencode]
            exact runs_pure message
          rcases queue_runs message ⟨p.context, env⟩ with ⟨q, hq, hcontext⟩ | ⟨e, q, hq, hcontext⟩
          · exact Or.inl ⟨mac, message, q, hown.bind (hrest.bind hq), hencode, hcontext⟩
          · refine Or.inr ⟨_, e, q, hown.bind (hrest.bind hq), fun _ _ => ?_⟩
            rw [hcontext]
            exact .finishedUnqueued hencode

/-- The client's Finished is computed over the transcript as it is. -/
theorem saveClientFinished_runs (p : Endpoint ε) :
    (∃ mac env, saveClientFinished.Runs p
        [.computedMac .client p.context.transcript.hash (.ok mac)] (.ok ())
        ⟨{ p.context with expectedClientFinished := some mac }, env⟩)
    ∨ ∃ e env, saveClientFinished.Runs p
        [.computedMac .client p.context.transcript.hash (.error e), .fatal .internalError]
        (.error e) ⟨p.context, env⟩ := by
  obtain ⟨answer, env, hmac⟩ := finishedMac_runs .client p
  cases answer with
  | error e => exact Or.inr ⟨e, _, (hmac.orAlert_error _).bind_error⟩
  | ok mac =>
      have hrest : Runs (modifyContext fun c => { c with expectedClientFinished := some mac })
          ⟨p.context, env⟩ [] (.ok ()) ⟨{ p.context with expectedClientFinished := some mac }, env⟩ :=
        ⟨rfl, rfl⟩
      exact Or.inl ⟨mac, env, (hmac.orAlert_ok _).bind hrest⟩

theorem sendFinished_listed (role : Role) (p : Endpoint ε) :
    TurnListed ⟨role, .sendFinished⟩ p := by
  rcases addFinished_runs p with ⟨mac, message, q, hq, hencode, hcontext⟩ | ⟨h, e, q, hq, hfailure⟩
  · cases role with
    | client =>
        refine ⟨_, .ok _, q, hq.bind (runs_pure _), ?_⟩
        rw [hcontext]
        exact .clientFinishedSent rfl hencode
    | server =>
        cases hverify : p.context.config.verifyClient with
        | true =>
            have hrest : Runs (do
                if (← context).config.verifyClient then
                  return .wait .readCertificate .flushAndReadMessage
                else
                  saveClientFinished
                  return Turn.wait .readFinished .flushAndReadMessage) q []
                (.ok (.wait .readCertificate .flushAndReadMessage)) q := by
              refine (runs_pure _).of_eq ?_
              simp only [Bind.bind, EStateM.bind, context, hcontext, Context.record, hverify]
              rfl
            refine ⟨_, .ok _, q, hq.bind hrest, ?_⟩
            rw [hcontext]
            exact .serverFinishedSent rfl hverify hencode
        -- a server that asks for no chain computes the MAC of the client ahead
        | false =>
            have hrest : (do
                if (← context).config.verifyClient then
                  return .wait .readCertificate .flushAndReadMessage
                else
                  saveClientFinished
                  return Turn.wait .readFinished .flushAndReadMessage : Engine ε Turn) q
                = (do saveClientFinished; return Turn.wait .readFinished .flushAndReadMessage) q := by
              simp only [Bind.bind, EStateM.bind, context, hcontext, Context.record, hverify]
              rfl
            rcases saveClientFinished_runs q with ⟨saved, env, hsave⟩ | ⟨e, env, hsave⟩
            · refine ⟨_, .ok _, _, hq.bind ((hsave.bind (runs_pure (Turn.wait _ _))).of_eq hrest), ?_⟩
              rw [hcontext]
              exact .serverFinishedSaved rfl hverify hencode
            · refine ⟨_, .error e, _, hq.bind (hsave.bind_error.of_eq hrest), ?_⟩
              rw [hcontext]
              exact .savedFinishedUncomputable rfl hverify hencode
  · cases role with
    | client => exact ⟨h, .error e, q, hq.bind_error, hfailure _ _⟩
    | server => exact ⟨h, .error e, q, hq.bind_error, hfailure _ _⟩

theorem done_listed (role : Role) (p : Endpoint ε) : TurnListed ⟨role, .done⟩ p :=
  ⟨[], .ok (.wait .done .ok), p, runs_pure _, .done⟩

/-! ## Receiving -/

section Receive

variable {phase : Phase} {type : MessageType} {process : Engine ε Unit} {next : Context → Phase}
  {p q : Endpoint ε} {h : History} {m : Message}

theorem expect_of_type (hmessage : p.context.message = some m) (htype : m.type = type) :
    Runs (expect type) p [] (.ok true) p := by
  refine ⟨?_, rfl⟩
  simp only [answerOf, expect, context, Bind.bind, EStateM.bind, hmessage, htype]
  rfl

theorem receive_of_none (hmessage : p.context.message = none) :
    Runs (receive phase type process next) p [] (.ok (.wait phase .readMessage)) p := by
  have hexpect : Runs (expect type) p [] (.ok false) p := by
    refine ⟨?_, rfl⟩
    simp only [answerOf, expect, context, Bind.bind, EStateM.bind, hmessage]
    rfl
  exact hexpect.bind (runs_pure _)

theorem receive_of_other (hmessage : p.context.message = some m) (htype : m.type ≠ type) :
    Runs (receive phase type process next) p [.fatal .unexpectedMessage]
      (.error (.unexpectedMessage (.outOfOrder type m.type))) (alerted p .unexpectedMessage) := by
  have hexpect : Runs (expect type) p [.fatal .unexpectedMessage]
      (.error (.unexpectedMessage (.outOfOrder type m.type))) (alerted p .unexpectedMessage) := by
    refine (runs_fatal _ _).of_eq ?_
    simp only [expect, context, Bind.bind, EStateM.bind, hmessage, htype]
    rfl
  exact hexpect.bind_error

theorem receive_of_error {e : Error} (hmessage : p.context.message = some m)
    (htype : m.type = type) (hprocess : process.Runs p h (.error e) q) :
    Runs (receive phase type process next) p h (.error e) q :=
  (expect_of_type hmessage htype).bind hprocess.bind_error

theorem receive_of_ok (hmessage : p.context.message = some m) (htype : m.type = type)
    (hprocess : process.Runs p h (.ok ()) q) :
    Runs (receive phase type process next) p h (.ok (.next (next q.context.accept)))
      ⟨q.context.accept, q.environment⟩ := by
  have hrest : Runs (do
      modifyContext fun c => { c.recordMessage with message := none }
      return Turn.next (next (← context))) q [] (.ok (.next (next q.context.accept)))
      ⟨q.context.accept, q.environment⟩ := ⟨rfl, rfl⟩
  have hall := (expect_of_type hmessage htype).bind
    (f := fun there => if there then do
        process
        modifyContext fun c => { c.recordMessage with message := none }
        return Turn.next (next (← context))
      else return Turn.wait phase .readMessage)
    (hprocess.bind hrest)
  rw [List.nil_append, List.append_nil] at hall
  exact hall

end Receive

theorem messageBody_eq {c : Context} {m : Message} (hmessage : c.message = some m) :
    c.messageBody = m.body := by
  rw [Context.messageBody, hmessage]
  rfl

/-- The hook sees the session and leaves another one, also when it fails. -/
theorem runChainHook_runs {c : Context} {result : Except Error Unit} {stored s : Session}
    (env : ε) (hhook : c.hooked stored = (result, s)) :
    runChainHook.Runs ⟨{ c with session := stored }, env⟩ [] result
      ⟨{ c with session := s }, env⟩ := by
  refine ⟨?_, rfl⟩
  rw [Context.hooked] at hhook
  rw [answerOf, runChainHook]
  cases hsome : c.config.chainHook with
  | none =>
      rw [hsome] at hhook
      obtain ⟨rfl, rfl⟩ := Prod.mk.inj hhook
      rfl
  | some hook =>
      rw [hsome] at hhook
      simp only at hhook
      simp only [hhook]
      cases result <;> rfl

/-- What `processCertificate` does with a chain once the hook has seen it. -/
def judgeChain (allowAnonymous : Bool) : Engine ε Unit := do
  if (← context).session.peerCertificates.isNone then
    if allowAnonymous then
      modifySession fun s => { s with verifyResult := .ok }
    else
      fatal (CertificateChain.alertFor .noPeerCertificate) .noPeerCertificate

section Certificate

variable {p : Endpoint ε} {m : Message} {chain : CertificateChain} {s : Session}

/-- A chain that can be read is stored and shown to the hook, and judged if the hook is content. -/
theorem processCertificate_eq (allowAnonymous : Bool)
    (hdecode : CertificateChain.decode p.context.certificateRules p.context.messageBody
      = .ok chain) :
    processCertificate allowAnonymous p
      = (do orAlert (fun _ => .decodeError) runChainHook; judgeChain allowAnonymous)
        ⟨{ p.context with session := p.context.withChain chain }, p.environment⟩ := by
  simp only [processCertificate, context, Bind.bind, EStateM.bind, hdecode, orFatal]
  rfl

/-- A chain that the hook is content with: it is accepted, or it is empty and must not be. -/
theorem acceptedChain_listed (role : Role) (hmessage : p.context.message = some m)
    (htype : m.type = .certificate)
    (hdecode : CertificateChain.decode p.context.certificateRules m.body = .ok chain)
    (hhook : p.context.hooked (p.context.withChain chain) = (.ok (), s)) :
    TurnListed ⟨role, .readCertificate⟩ p := by
  let p' : Endpoint ε := ⟨{ p.context with session := s }, p.environment⟩
  have hstored := processCertificate_eq (p.context.allowsAnonymous role)
    (by rw [messageBody_eq hmessage, hdecode])
  have hprocess : ∀ {h : History} {answer : Except Error Unit} {q : Endpoint ε},
      (judgeChain (p.context.allowsAnonymous role)).Runs p' h answer q →
        (processCertificate (p.context.allowsAnonymous role)).Runs p h answer q := by
    intro h answer q hjudge
    have hhooked := (runChainHook_runs p.environment hhook).orAlert_ok fun _ => .decodeError
    exact (hhooked.bind hjudge).of_eq hstored
  -- what the hook has left of the chain decides, not what was read
  cases hpeer : s.peerCertificates with
  | some certificates =>
      have hjudge : (judgeChain (p.context.allowsAnonymous role)).Runs p' [] (.ok ()) p' := by
        refine (runs_pure ()).of_eq ?_
        simp only [judgeChain, context, Bind.bind, EStateM.bind, hpeer]
        rfl
      have hnext : (if p'.context.accept.session.peerCertificates.isSome = true then
          Phase.readCertificateVerify else .readFinished) = .readCertificateVerify := by
        simp only [Context.accept_session, p', hpeer, Option.isSome_some, if_true]
      refine ⟨_, .ok _, _, receive_of_ok hmessage htype (hprocess hjudge), ?_⟩
      rw [hnext]
      exact .chainAccepted hmessage htype hdecode hhook (by rw [hpeer]; rfl)
  | none =>
      cases hallowed : p.context.allowsAnonymous role with
      | true =>
          let q : Endpoint ε :=
            ⟨{ p.context with session := { s with verifyResult := .ok } }, p.environment⟩
          have hjudge : (judgeChain (p.context.allowsAnonymous role)).Runs p' [] (.ok ()) q := by
            rw [hallowed]
            refine ⟨?_, rfl⟩
            simp only [answerOf, judgeChain, context, Bind.bind, EStateM.bind, p', hpeer]
            rfl
          have hnext : (if q.context.accept.session.peerCertificates.isSome = true then
              Phase.readCertificateVerify else .readFinished) = .readFinished := by
            simp only [Context.accept_session, q, hpeer, Option.isSome_none, Bool.false_eq_true,
              if_false]
          refine ⟨_, .ok _, _, receive_of_ok hmessage htype (hprocess hjudge), ?_⟩
          rw [hnext]
          exact .anonymousAccepted hmessage htype hdecode hhook hpeer hallowed
      | false =>
          have hjudge : (judgeChain (p.context.allowsAnonymous role)).Runs p'
              [.fatal .certificateRequired] (.error .noPeerCertificate)
              (alerted p' .certificateRequired) := by
            rw [hallowed]
            refine (runs_fatal _ _).of_eq ?_
            simp only [judgeChain, context, Bind.bind, EStateM.bind, hpeer]
            rfl
          exact ⟨_, .error _, _, receive_of_error hmessage htype (hprocess hjudge),
            .anonymousRefused hmessage htype hdecode hhook hpeer hallowed⟩

end Certificate

theorem readCertificate_listed (role : Role) (p : Endpoint ε) :
    TurnListed ⟨role, .readCertificate⟩ p := by
  cases hmessage : p.context.message with
  | none => exact ⟨[], .ok _, p, receive_of_none hmessage, .awaiting rfl hmessage⟩
  | some m =>
      by_cases htype : m.type = .certificate
      case neg =>
        exact ⟨_, .error _, _, receive_of_other hmessage htype, .outOfOrder rfl hmessage htype⟩
      have hbody := messageBody_eq hmessage
      cases hdecode : CertificateChain.decode p.context.certificateRules m.body with
      | error e =>
          have hprocess : (processCertificate (p.context.allowsAnonymous role)).Runs p
              [.fatal (CertificateChain.alertFor e)] (.error e)
              (alerted p (CertificateChain.alertFor e)) := by
            refine (runs_fatal _ e).of_eq ?_
            simp only [processCertificate, context, Bind.bind, EStateM.bind, hbody, hdecode, orFatal]
            rfl
          exact ⟨_, .error e, _, receive_of_error hmessage htype hprocess,
            .chainUndecodable hmessage htype hdecode⟩
      | ok chain =>
          rcases hhook : p.context.hooked (p.context.withChain chain) with ⟨_ | _, s⟩
          · rename_i e
            have hprocess : (processCertificate (p.context.allowsAnonymous role)).Runs p
                [.fatal .decodeError] (.error e)
                (alerted ⟨{ p.context with session := s }, p.environment⟩ .decodeError) := by
              have hhooked :=
                (runChainHook_runs p.environment hhook).orAlert_error fun _ => .decodeError
              exact hhooked.bind_error.of_eq (processCertificate_eq _ (by rw [hbody, hdecode]))
            exact ⟨_, .error e, _, receive_of_error hmessage htype hprocess,
              .chainRefused hmessage htype hdecode hhook⟩
          · exact acceptedChain_listed role hmessage htype hdecode hhook

/-- Whether a key verifies the signature of the peer over the transcript as it is; no answer is
    no. -/
def isVerified (key : PublicKey) (verify : CertificateVerify) (c : Context) : Bool :=
  match key.verify verify.scheme (c.signatureInput c.role.peer) verify.signature with
  | .ok b => b
  | .error _ => false

theorem isVerified_iff {key : PublicKey} {verify : CertificateVerify} {c : Context} :
    isVerified key verify c = true
      ↔ key.verify verify.scheme (c.signatureInput c.role.peer) verify.signature = .ok true := by
  rw [isVerified]
  cases key.verify verify.scheme (c.signatureInput c.role.peer) verify.signature with
  | error e => simp
  | ok b => simp

/-- What `processCertificateVerify` does once the policy lets the scheme pass. -/
def judgeSignature (key : PublicKey) (verify : CertificateVerify) (c : Context) : Engine ε Unit :=
  if !isVerified key verify c && !c.config.insecureFuzzing then fatal .decryptError .badSignature
  else pure ()

/-- The context with the scheme of a CertificateVerify noted. -/
abbrev noteScheme (c : Context) (verify : CertificateVerify) : Context :=
  { c with session := { c.session with peerScheme := some verify.scheme } }

section CertificateVerify

variable {role : Role} {p : Endpoint ε} {m : Message} {key : PublicKey} {verify : CertificateVerify}

/-- The scheme is noted before the signature is judged, so it stays also when that fails. -/
theorem processCertificateVerify_judged (hkey : p.context.session.peerKey = some key)
    (hdecode : CertificateVerify.decode p.context.messageBody = .ok verify)
    (hpolicy : p.context.config.signaturePolicy.refusal? verify.scheme = none) :
    processCertificateVerify p
      = judgeSignature key verify p.context ⟨noteScheme p.context verify, p.environment⟩ := by
  simp only [processCertificateVerify, context, Bind.bind, EStateM.bind, hkey, hdecode, orFatal,
    Pure.pure, EStateM.pure, hpolicy]
  rfl

theorem processCertificateVerify_fatal {description : AlertDescription} {e : Error} {c : Context}
    (hmessage : p.context.message = some m) (htype : m.type = .certificateVerify)
    (heq : processCertificateVerify p = fatal description e ⟨c, p.environment⟩) :
    (turn ⟨role, .readCertificateVerify⟩).Runs p [.fatal description] (.error e)
      (alerted ⟨c, p.environment⟩ description) :=
  receive_of_error hmessage htype ((runs_fatal description e).of_eq heq)

theorem readSignature_listed (hmessage : p.context.message = some m)
    (htype : m.type = .certificateVerify) (hkey : p.context.session.peerKey = some key)
    (hdecode : CertificateVerify.decode m.body = .ok verify)
    (hpolicy : p.context.config.signaturePolicy.refusal? verify.scheme = none) :
    TurnListed ⟨role, .readCertificateVerify⟩ p := by
  have hjudged := processCertificateVerify_judged hkey
    (by rw [messageBody_eq hmessage]; exact hdecode) hpolicy
  by_cases hverify : key.verify verify.scheme
      (p.context.signatureInput p.context.role.peer) verify.signature = .ok true
      ∨ p.context.config.insecureFuzzing = true
  · have hprocess : processCertificateVerify.Runs p [] (.ok ())
        ⟨noteScheme p.context verify, p.environment⟩ := by
      refine (runs_pure ()).of_eq ?_
      rw [hjudged, judgeSignature, if_neg]
      rw [← isVerified_iff] at hverify
      rcases hverify with hverify | hverify <;> simp [hverify]
    exact ⟨_, .ok _, _, receive_of_ok hmessage htype hprocess,
      .signatureAccepted hmessage htype hkey hdecode hpolicy hverify⟩
  · rw [not_or, Bool.not_eq_true] at hverify
    refine ⟨_, .error _, _, processCertificateVerify_fatal hmessage htype (hjudged.trans ?_),
      .signatureRefused hmessage htype hkey hdecode hpolicy hverify.1 hverify.2⟩
    rw [judgeSignature, if_pos]
    rw [← isVerified_iff, Bool.not_eq_true] at hverify
    simp [hverify]

end CertificateVerify

theorem readCertificateVerify_listed (role : Role) (p : Endpoint ε) :
    TurnListed ⟨role, .readCertificateVerify⟩ p := by
  cases hmessage : p.context.message with
  | none => exact ⟨[], .ok _, p, receive_of_none hmessage, .awaiting rfl hmessage⟩
  | some m =>
      by_cases htype : m.type = .certificateVerify
      case neg =>
        exact ⟨_, .error _, _, receive_of_other hmessage htype, .outOfOrder rfl hmessage htype⟩
      have hbody := messageBody_eq hmessage
      cases hkey : p.context.session.peerKey with
      | none =>
          refine ⟨_, .error _, _, processCertificateVerify_fatal hmessage htype ?_,
            .keyMissing hmessage htype hkey⟩
          simp only [processCertificateVerify, context, Bind.bind, EStateM.bind, hkey]
      | some key =>
          cases hdecode : CertificateVerify.decode m.body with
          | error e =>
              refine ⟨_, .error _, _, processCertificateVerify_fatal hmessage htype ?_,
                .verifyUndecodable hmessage htype hkey hdecode⟩
              simp only [processCertificateVerify, context, Bind.bind, EStateM.bind, hkey, hbody,
                hdecode, orFatal]
              rfl
          | ok verify =>
              cases hpolicy : p.context.config.signaturePolicy.refusal? verify.scheme with
              | some description =>
                  refine ⟨_, .error _, _, processCertificateVerify_fatal hmessage htype ?_,
                    .schemeRefused hmessage htype hkey hdecode hpolicy⟩
                  simp only [processCertificateVerify, context, Bind.bind, EStateM.bind, hkey,
                    hbody, hdecode, orFatal, Pure.pure, EStateM.pure, hpolicy]
              | none => exact readSignature_listed hmessage htype hkey hdecode hpolicy

/-- What `processFinished` does once it has the MAC. -/
def judgeFinished (c : Context) (mac : Bytes) : Engine ε Unit :=
  if !Finished.accepts mac c.messageBody && !c.config.insecureFuzzing then
    fatal .decryptError .finishedMismatch
  else pure ()

section Finished

variable {role : Role} {p q : Endpoint ε} {m : Message} {h : History} {mac : Bytes}

theorem processFinished_saved (h : p.context.usesSavedFinished role = true) :
    processFinished (p.context.usesSavedFinished role) p
      = (takeSavedFinished >>= judgeFinished p.context) p := by
  rw [h]
  rfl

theorem processFinished_computed (h : p.context.usesSavedFinished role = false) :
    processFinished (p.context.usesSavedFinished role) p
      = (orAlert (fun _ => .internalError) (finishedMac p.context.role.peer)
          >>= judgeFinished p.context) p := by
  rw [h]
  rfl

/-- The MAC computed ahead is taken out. -/
theorem takeSavedFinished_runs (hserver : p.context.isServer = true)
    (hmac : p.context.expectedClientFinished = some mac) :
    takeSavedFinished.Runs p [] (.ok mac)
      ⟨{ p.context with expectedClientFinished := none }, p.environment⟩ := by
  refine ⟨?_, rfl⟩
  simp only [answerOf, takeSavedFinished, context, modifyContext, Bind.bind, EStateM.bind, hserver,
    hmac]
  rfl

/-- A Finished is judged by comparing its body. -/
theorem judgeFinished_runs (mac : Bytes) (q : Endpoint ε) (hmessage : p.context.message = some m) :
    ((m.body = mac ∨ p.context.config.insecureFuzzing = true)
      ∧ (judgeFinished p.context mac).Runs q [] (.ok ()) q)
    ∨ (m.body ≠ mac ∧ p.context.config.insecureFuzzing = false)
      ∧ (judgeFinished p.context mac).Runs q [.fatal .decryptError] (.error .finishedMismatch)
        (alerted q .decryptError) := by
  have hbody := messageBody_eq hmessage
  by_cases haccepts : m.body = mac ∨ p.context.config.insecureFuzzing = true
  · refine Or.inl ⟨haccepts, ?_⟩
    have hjudge : judgeFinished (ε := ε) p.context mac = pure () := by
      rw [judgeFinished, if_neg]
      rw [hbody, Finished.accepts]
      rcases haccepts with haccepts | haccepts <;> simp [haccepts]
    rw [hjudge]
    exact runs_pure ()
  · rw [not_or, Bool.not_eq_true] at haccepts
    refine Or.inr ⟨haccepts, ?_⟩
    have hjudge : judgeFinished (ε := ε) p.context mac = fatal .decryptError .finishedMismatch := by
      rw [judgeFinished, if_pos]
      rw [hbody, Finished.accepts]
      simp [haccepts.2, Ne.symm haccepts.1]
    rw [hjudge]
    exact runs_fatal _ _

end Finished

theorem afterFinished_accept (role : Role) (c : Context) :
    afterFinished role c.accept = afterFinished role c := by
  cases role with
  | server => rfl
  | client => simp only [afterFinished, Context.accept_certificateRequested]

theorem readSavedFinished_listed {role : Role} {p : Endpoint ε} {m : Message}
    (hmessage : p.context.message = some m) (htype : m.type = .finished)
    (hsaved : p.context.usesSavedFinished role = true) : TurnListed ⟨role, .readFinished⟩ p := by
  have hprocess := processFinished_saved hsaved
  let c : Context := { p.context with expectedClientFinished := none }
  by_cases hmac : p.context.isServer = true ∧ ∃ mac, p.context.expectedClientFinished = some mac
  · obtain ⟨hserver, mac, hmac⟩ := hmac
    have htake : takeSavedFinished.Runs p [] (.ok mac) ⟨c, p.environment⟩ :=
      takeSavedFinished_runs hserver hmac
    rcases judgeFinished_runs mac ⟨c, p.environment⟩ hmessage with
      ⟨haccepts, hjudge⟩ | ⟨hrefused, hjudge⟩
    · have hnext : afterFinished role c.accept = afterFinished role p.context :=
        afterFinished_accept role c
      refine ⟨_, .ok (.next (afterFinished role p.context)), ⟨c.accept, p.environment⟩, ?_,
        .savedFinishedAccepted hmessage htype hsaved hserver hmac haccepts⟩
      rw [← hnext]
      exact receive_of_ok hmessage htype ((htake.bind hjudge).of_eq hprocess)
    · exact ⟨_, .error _, _,
        receive_of_error hmessage htype ((htake.bind hjudge).of_eq hprocess),
        .savedFinishedRefused hmessage htype hsaved hserver hmac hrefused.1 hrefused.2⟩
  · -- the saved value is taken out even if it cannot be used
    have hmissing : p.context.isServer = false ∨ p.context.expectedClientFinished = none := by
      cases hserver : p.context.isServer with
      | false => exact Or.inl rfl
      | true =>
          cases hnone : p.context.expectedClientFinished with
          | none => exact Or.inr rfl
          | some mac => exact absurd ⟨hserver, mac, hnone⟩ hmac
    have htake : takeSavedFinished.Runs p [.fatal .internalError]
        (.error (.internal .noSavedFinished)) (alerted ⟨c, p.environment⟩ .internalError) := by
      refine (show Runs _ (⟨c, p.environment⟩ : Endpoint ε) _ _ _ from runs_fatal _ _).of_eq ?_
      simp only [takeSavedFinished, context, modifyContext, Bind.bind, EStateM.bind]
      rcases hmissing with hmissing | hmissing
      · simp only [hmissing]
        rfl
      · simp only [hmissing]
        cases p.context.isServer <;> rfl
    exact ⟨_, .error _, _, receive_of_error hmessage htype (htake.bind_error.of_eq hprocess),
      .savedFinishedMissing hmessage htype hsaved hmissing⟩

theorem readFinished_listed (role : Role) (p : Endpoint ε) :
    TurnListed ⟨role, .readFinished⟩ p := by
  cases hmessage : p.context.message with
  | none => exact ⟨[], .ok _, p, receive_of_none hmessage, .awaiting rfl hmessage⟩
  | some m =>
      by_cases htype : m.type = .finished
      case neg =>
        exact ⟨_, .error _, _, receive_of_other hmessage htype, .outOfOrder rfl hmessage htype⟩
      cases hsaved : p.context.usesSavedFinished role with
      | true => exact readSavedFinished_listed hmessage htype hsaved
      | false =>
          have hprocess := processFinished_computed hsaved
          obtain ⟨answer, env, hmac⟩ := finishedMac_runs p.context.role.peer p
          cases answer with
          | error e =>
              exact ⟨_, .error e, _, receive_of_error hmessage htype
                ((hmac.orAlert_error _).bind_error.of_eq hprocess),
                .peerFinishedUncomputable hmessage htype hsaved⟩
          | ok mac =>
              have hmac := hmac.orAlert_ok fun _ => .internalError
              rcases judgeFinished_runs mac ⟨p.context, env⟩ hmessage with
                ⟨haccepts, hjudge⟩ | ⟨hrefused, hjudge⟩
              · refine ⟨_, .ok (.next (afterFinished role p.context)), ⟨p.context.accept, env⟩, ?_,
                  .finishedAccepted hmessage htype hsaved haccepts⟩
                rw [← afterFinished_accept]
                exact receive_of_ok hmessage htype ((hmac.bind hjudge).of_eq hprocess)
              · exact ⟨_, .error _, _,
                  receive_of_error hmessage htype ((hmac.bind hjudge).of_eq hprocess),
                  .finishedRefused hmessage htype hsaved hrefused.1 hrefused.2⟩

/-! ## All phases -/

/-- Every turn is listed. -/
theorem turn_listed (flow : AuthFlow) (p : Endpoint ε) : TurnListed flow p := by
  obtain ⟨role, phase⟩ := flow
  cases phase with
  | sendCertificate => exact sendCertificate_listed role p
  | sendCertificateVerify => exact sendCertificateVerify_listed role p
  | sendFinished => exact sendFinished_listed role p
  | readCertificate => exact readCertificate_listed role p
  | readCertificateVerify => exact readCertificateVerify_listed role p
  | readFinished => exact readFinished_listed role p
  | done => exact done_listed role p

end AuthFlow

end TlsHandshake
