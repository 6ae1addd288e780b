import TlsHandshake.Proofs.Calls

set_option autoImplicit false

/-! # Runs that mirror each other

A view shows an endpoint in other surroundings that answer the same, and perhaps in fuzzing mode
where it was not. An action mirrors another one in a view if from what the view shows it does what
the other one does from what is shown, with one exception: in fuzzing mode there is no refusal of a
signature or a Finished that does not match. There is one rule for each way to put actions together,
and each action follows by its rule. Main statements: `View.call_mirrors`, calls mirror each other
up to such a refusal, and `Connection.run_recorded`, a run of a connection gives the same answers
whether it is recorded or not. -/

namespace TlsHandshake

variable {ε ε' α β : Type}

/-! ## Views -/

/-- A result, with the state it leaves as `f` shows it. -/
def resultIn {σ σ' : Type} (f : σ → σ') : EStateM.Result Error σ α → EStateM.Result Error σ' α
  | .ok a s => .ok a (f s)
  | .error e s => .error e (f s)

/-- The context in fuzzing mode, if `loose`, and else as it is. -/
def Context.loosened (c : Context) (loose : Bool) : Context :=
  { c with config := { c.config with insecureFuzzing := loose || c.config.insecureFuzzing } }

namespace Context

variable (c : Context) (loose : Bool)

@[simp] theorem loosened_false : c.loosened false = c := rfl

@[simp] theorem wait_loosened : (c.loosened loose).wait = c.wait := rfl

@[simp] theorem message_loosened : (c.loosened loose).message = c.message := rfl

@[simp] theorem messageBody_loosened : (c.loosened loose).messageBody = c.messageBody := rfl

@[simp] theorem session_loosened : (c.loosened loose).session = c.session := rfl

@[simp] theorem role_loosened : (c.loosened loose).role = c.role := rfl

@[simp] theorem isServer_loosened : (c.loosened loose).isServer = c.isServer := rfl

@[simp] theorem signatureInput_loosened (signer : Role) :
    (c.loosened loose).signatureInput signer = c.signatureInput signer := rfl

end Context

/-- Surroundings shown as others that answer the same, and whether the endpoint in them is shown in
    fuzzing mode. -/
structure View (ε ε' : Type) [Environment ε] [Environment ε'] where
  environment : ε → ε'
  loose : Bool
  flushFlight (e : ε) :
    Environment.flushFlight (environment e) = resultIn environment (Environment.flushFlight e)
  expectFlight (e : ε) :
    Environment.expectFlight (environment e) = environment (Environment.expectFlight e)
  readMessage (e : ε) :
    Environment.readMessage (environment e) = resultIn environment (Environment.readMessage e)
  readChangeCipherSpec (e : ε) : Environment.readChangeCipherSpec (environment e)
    = resultIn environment (Environment.readChangeCipherSpec e)
  addMessage (message : Bytes) (e : ε) : Environment.addMessage message (environment e)
    = resultIn environment (Environment.addMessage message e)
  sendAlert (alert : Alert) (e : ε) :
    Environment.sendAlert alert (environment e) = environment (Environment.sendAlert alert e)
  finishedMac (sender : Role) (transcriptHash : Bytes) (e : ε) :
    Environment.finishedMac sender transcriptHash (environment e)
      = resultIn environment (Environment.finishedMac sender transcriptHash e)
  rotateTrafficKey (direction : Direction) (e : ε) :
    Environment.rotateTrafficKey direction (environment e)
      = resultIn environment (Environment.rotateTrafficKey direction e)
  signer? (e : ε) : Environment.signer? (environment e) = Environment.signer? e
  sign (scheme : SignatureScheme) (input : Bytes) (maxLength : Nat) (e : ε) :
    Environment.sign scheme input maxLength (environment e)
      = ((Environment.sign scheme input maxLength e).1,
        environment (Environment.sign scheme input maxLength e).2)
  completeSignature (maxLength : Nat) (e : ε) :
    Environment.completeSignature maxLength (environment e)
      = ((Environment.completeSignature maxLength e).1,
        environment (Environment.completeSignature maxLength e).2)
  handlesTickets (e : ε) : Environment.handlesTickets (environment e) = Environment.handlesTickets e
  storeTicket (body : Bytes) (session : Session) (e : ε) :
    Environment.storeTicket body session (environment e)
      = resultIn environment (Environment.storeTicket body session e)

namespace View

open Engine

variable [Environment ε] [Environment ε'] (v : View ε ε')

/-- An endpoint in a view. -/
def endpoint (p : Endpoint ε) : Endpoint ε' :=
  ⟨p.context.loosened v.loose, v.environment p.environment⟩

/-- A connection in a view. -/
def connection (c : Connection ε) : Connection ε' := { c with endpoint := v.endpoint c.endpoint }

/-- From what the view shows an action does what another one does from what is shown, unless the
    other one refuses what the peer has sent. -/
def Mirrors (Refused : Error → Prop) (act : Engine ε α) (act' : Engine ε' α) : Prop :=
  ∀ p, act' (v.endpoint p) = resultIn v.endpoint (act p)
    ∨ ∃ e q, act p = .error e (alerted q .decryptError) ∧ Refused e

/-- The errors of a peer that fails to prove itself, where the view lets it through. -/
def Refused (e : Error) : Prop := v.loose = true ∧ (e = .badSignature ∨ e = .finishedMismatch)

variable {v} {Refused : Error → Prop}

@[simp] theorem context_endpoint (p : Endpoint ε) :
    (v.endpoint p).context = p.context.loosened v.loose := rfl

@[simp] theorem environment_endpoint (p : Endpoint ε) :
    (v.endpoint p).environment = v.environment p.environment := rfl

/-! ## Rules -/

theorem mirrors_of_eq {act : Engine ε α} {act' : Engine ε' α}
    (h : ∀ p, act' (v.endpoint p) = resultIn v.endpoint (act p)) : v.Mirrors Refused act act' :=
  fun p => Or.inl (h p)

/-- Where nothing is refused, the actions do the same. -/
theorem Mirrors.eq {act : Engine ε α} {act' : Engine ε' α}
    (hact : v.Mirrors (fun _ => False) act act') (p : Endpoint ε) :
    act' (v.endpoint p) = resultIn v.endpoint (act p) := by
  rcases hact p with h | ⟨_, _, _, hrefused⟩
  · exact h
  · exact hrefused.elim

theorem mirrors_pure (a : α) : v.Mirrors Refused (Pure.pure a) (Pure.pure a) :=
  mirrors_of_eq fun _ => rfl

theorem mirrors_throw (e : Error) :
    v.Mirrors (α := α) Refused (throw e) (throw e) := mirrors_of_eq fun _ => rfl

theorem Mirrors.bind {act : Engine ε α} {act' : Engine ε' α} {f : α → Engine ε β}
    {f' : α → Engine ε' β} (hact : v.Mirrors Refused act act')
    (hf : ∀ a, v.Mirrors Refused (f a) (f' a)) : v.Mirrors Refused (act >>= f) (act' >>= f') := by
  intro p
  simp only [Bind.bind, EStateM.bind]
  rcases hact p with h | ⟨e, q, h, hrefused⟩
  · rw [h]
    cases act p with
    | ok a q => exact hf a q
    | error e q => exact Or.inl rfl
  · rw [h]
    exact Or.inr ⟨e, q, rfl, hrefused⟩

/-- An action may depend on the context as the view shows it. -/
theorem mirrors_context {f : Context → Engine ε α} {f' : Context → Engine ε' α}
    (hf : ∀ c : Context, v.Mirrors Refused (f c) (f' (c.loosened v.loose))) :
    v.Mirrors Refused (context >>= f) (context >>= f') :=
  fun p => hf p.context p

/-- A change of the context that the view does not hide. -/
theorem mirrors_modifyContext {f f' : Context → Context}
    (hf : ∀ c : Context, f' (c.loosened v.loose) = (f c).loosened v.loose) :
    v.Mirrors Refused (modifyContext f) (modifyContext f') := by
  refine mirrors_of_eq fun p => ?_
  simp only [modifyContext, resultIn, endpoint, hf]

theorem mirrors_perform {act : EStateM Error ε α} {act' : EStateM Error ε' α}
    (hact : ∀ e, act' (v.environment e) = resultIn v.environment (act e)) :
    v.Mirrors Refused (perform act) (perform act') := by
  refine mirrors_of_eq fun p => ?_
  simp only [perform, environment_endpoint, hact]
  cases act p.environment <;> rfl

theorem mirrors_performPure {act : ε → α × ε} {act' : ε' → α × ε'}
    (hact : ∀ e, act' (v.environment e) = ((act e).1, v.environment (act e).2)) :
    v.Mirrors Refused (performPure act) (performPure act') := by
  refine mirrors_of_eq fun p => ?_
  simp only [performPure, environment_endpoint, hact]
  rfl

theorem mirrors_alert (description : AlertDescription) :
    v.Mirrors Refused (alert description) (alert description) := by
  refine mirrors_of_eq fun p => ?_
  simp only [alert, environment_endpoint, v.sendAlert]
  rfl

theorem mirrors_fatal (description : AlertDescription) (e : Error) :
    v.Mirrors (α := α) Refused (fatal description e) (fatal description e) :=
  (mirrors_alert description).bind fun _ => mirrors_throw e

theorem Mirrors.orAlert {act : Engine ε α} {act' : Engine ε' α}
    (descriptionOf : Error → AlertDescription) (hact : v.Mirrors (fun _ => False) act act') :
    v.Mirrors Refused (orAlert descriptionOf act) (orAlert descriptionOf act') := by
  intro p
  simp only [Engine.orAlert, hact.eq p]
  cases act p with
  | ok a q => exact Or.inl rfl
  | error e q => exact mirrors_fatal (descriptionOf e) e q

theorem mirrors_orFatal (descriptionOf : Error → AlertDescription) (result : Except Error α) :
    v.Mirrors Refused (orFatal descriptionOf result) (orFatal descriptionOf result) := by
  cases result with
  | ok a => exact mirrors_pure a
  | error e => exact mirrors_fatal _ e

theorem mirrors_reportTransport (e : Error) :
    v.Mirrors Refused (reportTransport e) (reportTransport e) := by
  rw [reportTransport, reportTransport]
  cases transportAlert? e with
  | none => exact mirrors_pure ()
  | some description => exact mirrors_alert description

theorem mirrors_queue (message : Bytes) : v.Mirrors Refused (queue message) (queue message) :=
  (mirrors_modifyContext fun _ => rfl).bind fun _ => (mirrors_perform (v.addMessage _)).orAlert _

/-- A check of what the peer has sent, which fuzzing mode passes over. -/
theorem mirrors_check {e : Error} (he : e = .badSignature ∨ e = .finishedMismatch)
    (passes fuzzing : Bool) :
    v.Mirrors v.Refused (if !passes && !fuzzing then fatal .decryptError e else pure ())
      (if !passes && !(v.loose || fuzzing) then fatal .decryptError e else pure ()) := by
  cases hloose : v.loose with
  | false =>
      rw [Bool.false_or]
      split
      · exact mirrors_fatal _ _
      · exact mirrors_pure ()
  | true =>
      intro p
      by_cases hfails : (!passes && !fuzzing) = true
      · rw [if_pos hfails]
        exact Or.inr ⟨e, p, rfl, hloose, he⟩
      · rw [if_neg hfails, Bool.true_or, Bool.not_true, Bool.and_false, if_neg Bool.false_ne_true]
        exact Or.inl rfl

/-! ## Handlers -/

theorem mirrors_runChainHook : v.Mirrors Refused runChainHook runChainHook := by
  refine mirrors_of_eq fun p => ?_
  simp only [runChainHook]
  rw [show (v.endpoint p).context.config.chainHook = p.context.config.chainHook from rfl]
  cases p.context.config.chainHook with
  | none => rfl
  | some hook =>
      simp only [context_endpoint, Context.session_loosened]
      cases (hook p.context.session).1 <;> rfl

theorem mirrors_processCertificate (allowAnonymous : Bool) :
    v.Mirrors Refused (processCertificate allowAnonymous) (processCertificate allowAnonymous) := by
  refine mirrors_context fun c => (mirrors_orFatal _ _).bind fun chain =>
    (mirrors_modifyContext fun _ => rfl).bind fun _ =>
      (mirrors_runChainHook.orAlert _).bind fun _ => mirrors_context fun c' => ?_
  rw [Context.session_loosened]
  split
  · split
    · exact mirrors_modifyContext fun _ => rfl
    · exact mirrors_fatal _ _
  · exact mirrors_pure ()

theorem mirrors_addCertificate : v.Mirrors Refused addCertificate addCertificate :=
  mirrors_context fun _ => (mirrors_orFatal _ _).bind fun message => mirrors_queue message

theorem mirrors_processCertificateVerify :
    v.Mirrors v.Refused processCertificateVerify processCertificateVerify := by
  refine mirrors_context fun c => ?_
  simp only [Context.session_loosened, Context.messageBody_loosened, Context.role_loosened,
    Context.signatureInput_loosened]
  cases c.session.peerKey with
  | none => exact mirrors_fatal _ _
  | some key =>
      refine (mirrors_orFatal _ _).bind fun verify => ?_
      rw [show (c.loosened v.loose).config.signaturePolicy = c.config.signaturePolicy from rfl]
      split
      · exact mirrors_fatal _ _
      · exact (mirrors_modifyContext fun _ => rfl).bind fun _ => mirrors_check (Or.inl rfl) _ _

theorem mirrors_askSigner (c : Context) (scheme : SignatureScheme) (maxLength : Nat) :
    v.Mirrors Refused (askSigner c scheme maxLength)
      (askSigner (c.loosened v.loose) scheme maxLength) := by
  rw [askSigner, askSigner]
  rw [show (c.loosened v.loose).signaturePending = c.signaturePending from rfl]
  split
  · exact mirrors_performPure (v.completeSignature _)
  · exact mirrors_performPure (v.sign _ _ _)

theorem mirrors_signTranscript : v.Mirrors Refused signTranscript signTranscript := by
  intro p
  suffices hgo : ∀ signer? : Option SignerInfo,
      v.Mirrors Refused (signTranscript.go signer?) (signTranscript.go signer?) by
    rw [signTranscript, signTranscript, environment_endpoint, v.signer?]
    exact hgo _ p
  intro signer?
  cases signer? with
  | none => exact mirrors_fatal _ _
  | some signer =>
      refine mirrors_context fun c => ?_
      rw [show (c.loosened v.loose).config.signaturePolicy = c.config.signaturePolicy from rfl,
        show (c.loosened v.loose).peerSchemes = c.peerSchemes from rfl]
      split
      · exact mirrors_fatal _ _
      · refine (mirrors_askSigner _ _ _).bind fun result =>
          (mirrors_modifyContext fun _ => rfl).bind fun _ => ?_
        cases result with
        | retry => exact mirrors_pure _
        | failure => exact mirrors_fatal _ _
        | success signature =>
            dsimp only
            split
            · exact (mirrors_fatal _ _).bind fun _ => (mirrors_orFatal _ _).bind fun message =>
                (mirrors_queue _).bind fun _ => mirrors_pure _
            · exact (mirrors_orFatal _ _).bind fun message =>
                (mirrors_queue _).bind fun _ => mirrors_pure _

theorem mirrors_finishedMac (sender : Role) :
    v.Mirrors Refused (Engine.finishedMac sender) (Engine.finishedMac sender) := fun p =>
  mirrors_perform (v.finishedMac sender p.context.transcript.hash) p

theorem mirrors_takeSavedFinished : v.Mirrors Refused takeSavedFinished takeSavedFinished := by
  refine mirrors_context fun c => (mirrors_modifyContext fun _ => rfl).bind fun _ => ?_
  rw [show (c.loosened v.loose).expectedClientFinished = c.expectedClientFinished from rfl,
    Context.isServer_loosened]
  split
  · exact mirrors_pure _
  · exact mirrors_fatal _ _

theorem mirrors_processFinished (useSaved : Bool) :
    v.Mirrors v.Refused (processFinished useSaved) (processFinished useSaved) := by
  refine mirrors_context fun c => ?_
  have hcheck : ∀ mac : Bytes, v.Mirrors v.Refused
      (if !Finished.accepts mac c.messageBody && !c.config.insecureFuzzing then
        fatal .decryptError .finishedMismatch else pure ())
      (if !Finished.accepts mac c.messageBody && !(v.loose || c.config.insecureFuzzing) then
        fatal .decryptError .finishedMismatch else pure ()) :=
    fun mac => mirrors_check (Or.inr rfl) _ _
  cases useSaved with
  | true => exact mirrors_takeSavedFinished.bind hcheck
  | false => exact ((mirrors_finishedMac _).orAlert _).bind hcheck

theorem mirrors_ownFinishedMac : v.Mirrors Refused ownFinishedMac ownFinishedMac := by
  intro p
  simp only [ownFinishedMac]
  rw [context_endpoint, Context.role_loosened, (mirrors_finishedMac p.context.role).eq p]
  cases Engine.finishedMac p.context.role p with
  | ok mac q => exact Or.inl rfl
  | error e q => exact mirrors_fatal _ _ q

theorem mirrors_addFinished : v.Mirrors Refused addFinished addFinished :=
  mirrors_ownFinishedMac.bind fun _ => (mirrors_orFatal _ _).bind fun message =>
    mirrors_queue message

theorem mirrors_saveClientFinished :
    v.Mirrors Refused saveClientFinished saveClientFinished :=
  ((mirrors_finishedMac _).orAlert _).bind fun _ => mirrors_modifyContext fun _ => rfl

/-! ## After the handshake -/

theorem mirrors_queueKeyUpdate (request : KeyUpdateRequest) :
    v.Mirrors Refused (queueKeyUpdate request) (queueKeyUpdate request) :=
  ((mirrors_perform (v.addMessage _)).orAlert _).bind fun _ =>
    ((mirrors_perform (v.rotateTrafficKey _)).orAlert _).bind fun _ =>
      mirrors_modifyContext fun _ => rfl

theorem mirrors_sendKeyUpdate (request : KeyUpdateRequest) :
    v.Mirrors Refused (sendKeyUpdate request) (sendKeyUpdate request) := by
  refine mirrors_context fun c => ?_
  rw [show (c.loosened v.loose).keyUpdatePending = c.keyUpdatePending from rfl]
  split
  · exact mirrors_queueKeyUpdate _
  · exact mirrors_pure ()

theorem mirrors_receiveKeyUpdate : v.Mirrors Refused receiveKeyUpdate receiveKeyUpdate := by
  refine mirrors_context fun c => (mirrors_orFatal _ _).bind fun request =>
    ((mirrors_perform (v.rotateTrafficKey _)).orAlert _).bind fun _ => ?_
  rw [show (c.loosened v.loose).keyUpdatePending = c.keyUpdatePending from rfl]
  split
  · exact mirrors_queueKeyUpdate _
  · exact mirrors_pure ()

theorem mirrors_receiveTicket : v.Mirrors Refused receiveTicket receiveTicket := by
  intro p
  simp only [receiveTicket, environment_endpoint, v.handlesTickets]
  split
  · exact (mirrors_perform (v.storeTicket p.context.messageBody p.context.session)).orAlert
      ticketAlert p
  · exact Or.inl rfl

theorem mirrors_postHandshake : v.Mirrors Refused postHandshake postHandshake := by
  refine mirrors_context fun c => ?_
  rw [Context.message_loosened, Context.isServer_loosened]
  split
  · exact mirrors_fatal _ _
  · refine (mirrors_modifyContext fun _ => rfl).bind fun _ => ?_
    dsimp only
    rw [show (c.loosened v.loose).keyUpdateCount = c.keyUpdateCount from rfl]
    split
    · exact (mirrors_fatal _ _).bind fun _ => mirrors_receiveKeyUpdate
    · exact mirrors_receiveKeyUpdate
  · refine (mirrors_modifyContext fun _ => rfl).bind fun _ => ?_
    split
    · exact mirrors_receiveTicket
    · exact mirrors_fatal _ _

/-! ## The flight -/

section Flight

open AuthFlow

theorem mirrors_expect (type : MessageType) : v.Mirrors Refused (expect type) (expect type) := by
  refine mirrors_context fun c => ?_
  rw [Context.message_loosened]
  split
  · exact mirrors_pure _
  · split
    · exact mirrors_pure _
    · exact mirrors_fatal _ _

theorem mirrors_receive (phase : Phase) (type : MessageType) {process : Engine ε Unit}
    {process' : Engine ε' Unit} {next : Context → Phase}
    (hnext : ∀ c : Context, next (c.loosened v.loose) = next c)
    (hprocess : v.Mirrors Refused process process') :
    v.Mirrors Refused (receive phase type process next) (receive phase type process' next) := by
  refine (mirrors_expect type).bind fun there => ?_
  split
  · refine hprocess.bind fun _ => (mirrors_modifyContext fun c => ?_).bind fun _ =>
      mirrors_context fun c => ?_
    · simp only [Context.recordMessage, Context.message_loosened]
      cases c.message <;> rfl
    · rw [hnext]
      exact mirrors_pure _
  · exact mirrors_pure _

theorem mirrors_sendFinished (role : Role) :
    v.Mirrors Refused (sendFinished role) (sendFinished role) := by
  cases role with
  | client => exact mirrors_addFinished.bind fun _ => mirrors_pure _
  | server =>
      refine mirrors_addFinished.bind fun _ => mirrors_context fun c => ?_
      rw [show (c.loosened v.loose).config.verifyClient = c.config.verifyClient from rfl]
      split
      · exact mirrors_pure _
      · exact mirrors_saveClientFinished.bind fun _ => mirrors_pure _

theorem mirrors_turn (flow : AuthFlow) : v.Mirrors v.Refused flow.turn flow.turn := by
  obtain ⟨role, phase⟩ := flow
  cases phase with
  | sendCertificate =>
      exact mirrors_addCertificate.bind fun _ => mirrors_context fun c => mirrors_pure _
  | sendCertificateVerify =>
      refine mirrors_signTranscript.bind fun result => ?_
      split
      · exact mirrors_pure _
      · exact mirrors_pure _
  | sendFinished => exact mirrors_sendFinished role
  | readCertificate =>
      exact mirrors_context fun c =>
        mirrors_receive _ _ (fun _ => rfl) (mirrors_processCertificate _)
  | readCertificateVerify =>
      exact mirrors_receive _ _ (fun _ => rfl) mirrors_processCertificateVerify
  | readFinished =>
      exact mirrors_context fun c =>
        mirrors_receive _ _ (fun _ => rfl) (mirrors_processFinished _)
  | done => exact mirrors_pure _

/-- Steps of the flight mirror each other, unless one ends with a refusal. -/
theorem stepFor_mirrors (turns : Nat) (flow : AuthFlow) (p : Endpoint ε) :
    stepFor turns flow (v.endpoint p)
        = ((stepFor turns flow p).1, (stepFor turns flow p).2.1,
          v.endpoint (stepFor turns flow p).2.2)
    ∨ ∃ e flow' c env, v.Refused e ∧ stepFor turns flow p = (.error, flow',
        ⟨Context.fail c e, Environment.sendAlert (.fatal .decryptError) env⟩) := by
  induction turns generalizing flow p with
  | zero => exact Or.inl rfl
  | succ turns ih =>
      simp only [stepFor]
      rcases mirrors_turn (v := v) flow p with h | ⟨e, q, h, hrefused⟩
      · rw [h]
        cases flow.turn p with
        | error e q => exact Or.inl rfl
        | ok turn q =>
            cases turn with
            | wait phase wait => exact Or.inl rfl
            | next phase => exact ih _ q
      · rw [h]
        exact Or.inr ⟨e, _, _, _, hrefused, rfl⟩

/-! ## Calls of `drive` -/

theorem poll_mirrors (wait : IoWait) {act : EStateM Error ε (Awaited α)}
    {act' : EStateM Error ε' (Awaited α)} {onReady : α → Context → Context}
    (hact : ∀ e, act' (v.environment e) = resultIn v.environment (act e))
    (hready : ∀ a (c : Context), onReady a (c.loosened v.loose) = (onReady a c).loosened v.loose)
    (p : Endpoint ε) :
    (v.endpoint p).poll wait act' onReady
      = ((p.poll wait act onReady).1, v.endpoint (p.poll wait act onReady).2) := by
  have hperform : v.Mirrors (fun _ => False) (perform act) (perform act') := mirrors_perform hact
  simp only [Endpoint.poll, hperform.eq p]
  cases Engine.perform act p with
  | ok answer q =>
      cases answer with
      | ready a =>
          simp only [resultIn, context_endpoint, hready]
          rfl
      | pending => rfl
  | error e q =>
      simp only [resultIn, (mirrors_reportTransport e).eq q]
      cases Engine.reportTransport e q <;> rfl

theorem flush_mirrors (p : Endpoint ε) :
    (v.endpoint p).flush = (p.flush.1, v.endpoint p.flush.2) :=
  poll_mirrors _ v.flushFlight (fun _ _ => rfl) p

theorem read_mirrors (p : Endpoint ε) :
    (v.endpoint p).read = (p.read.1, v.endpoint p.read.2) :=
  poll_mirrors _ v.readMessage (fun _ _ => rfl) p

theorem settle_mirrors (p : Endpoint ε) :
    (v.endpoint p).settle = (p.settle.1, v.endpoint p.settle.2) := by
  unfold Endpoint.settle
  rw [context_endpoint, Context.wait_loosened]
  cases p.context.wait with
  | flush => exact flush_mirrors p
  | readMessage => exact read_mirrors p
  | readChangeCipherSpec => exact poll_mirrors _ v.readChangeCipherSpec (fun _ _ => rfl) p
  | flushAndReadMessage =>
      simp only [flush_mirrors]
      rcases p.flush with ⟨_ | outcome, q⟩
      · have hread := read_mirrors (v := v)
          { (q.waitFor .readMessage) with environment := Environment.expectFlight q.environment }
        rw [← hread]
        simp only [environment_endpoint, v.expectFlight]
        rfl
      · rfl
  | readEndOfEarlyData =>
      rw [show (p.context.loosened v.loose).canReadEarly = p.context.canReadEarly from rfl]
      cases p.context.canReadEarly <;> rfl
  | error | external | earlyDataRejected | ok => rfl

theorem driveFor_mirrors (rounds : Nat) (flow : AuthFlow) (p : Endpoint ε) :
    Endpoint.driveFor stage rounds flow (v.endpoint p)
        = ((Endpoint.driveFor stage rounds flow p).1, (Endpoint.driveFor stage rounds flow p).2.1,
          v.endpoint (Endpoint.driveFor stage rounds flow p).2.2)
    ∨ ∃ e flow' c env, v.Refused e ∧ Endpoint.driveFor stage rounds flow p
        = (some (.fatal e), flow', ⟨c, Environment.sendAlert (.fatal .decryptError) env⟩) := by
  induction rounds generalizing flow p with
  | zero => exact Or.inl rfl
  | succ rounds ih =>
      simp only [Endpoint.driveFor, settle_mirrors]
      rcases p.settle with ⟨_ | outcome, q⟩
      · simp only [stage, step]
        rcases stepFor_mirrors (v := v) (rank flow.role flow.phase + 1) flow q with
          h | ⟨e, flow', c, env, hrefused, h⟩
        · rw [h]
          rcases stepFor _ flow q with ⟨wait, flow', q'⟩
          cases wait with
          | error | ok => exact Or.inl rfl
          | flush => exact ih flow' (q'.waitFor .flush)
          | flushAndReadMessage => exact ih flow' (q'.waitFor .flushAndReadMessage)
          | readMessage => exact ih flow' (q'.waitFor .readMessage)
          | readChangeCipherSpec => exact ih flow' (q'.waitFor .readChangeCipherSpec)
          | readEndOfEarlyData => exact ih flow' (q'.waitFor .readEndOfEarlyData)
          | external work => exact ih flow' (q'.waitFor (.external work))
          | earlyDataRejected => exact ih flow' (q'.waitFor .earlyDataRejected)
        · rw [h]
          exact Or.inr ⟨e, _, _, _, hrefused, rfl⟩
      · exact Or.inl rfl

theorem drive_mirrors (flow : AuthFlow) (p : Endpoint ε) :
    (v.endpoint p).drive stage flow
        = ((p.drive stage flow).1, (p.drive stage flow).2.1, v.endpoint (p.drive stage flow).2.2)
    ∨ ∃ e flow' c env, v.Refused e ∧ p.drive stage flow
        = (.fatal e, flow', ⟨c, Environment.sendAlert (.fatal .decryptError) env⟩) := by
  rw [Endpoint.drive, Endpoint.drive]
  rw [show (stage (ε := ε')).budget flow = (stage (ε := ε)).budget flow from rfl]
  rcases driveFor_mirrors (v := v) ((stage (ε := ε)).budget flow) flow p with
    h | ⟨e, flow', c, env, hrefused, h⟩
  · exact Or.inl (by rw [h])
  · exact Or.inr ⟨e, flow', c, env, hrefused, by rw [h]; rfl⟩

end Flight

/-! ## Connections -/

section Connections

open Connection

/-- An action mirrors another one on whole connections. -/
theorem answerOf_act_mirrors {action : Engine ε α} {action' : Engine ε' α}
    (h : v.Mirrors (fun _ => False) action action') (c : Connection ε) :
    answerOf (act action') (v.connection c)
      = ((answerOf (act action) c).1, v.connection (answerOf (act action) c).2) := by
  simp only [answerOf, act, show (v.connection c).endpoint = v.endpoint c.endpoint from rfl,
    h.eq c.endpoint]
  cases action c.endpoint <;> rfl

theorem answerOf_actFinally_mirrors {action : Engine ε α} {action' : Engine ε' α}
    (h : v.Mirrors (fun _ => False) action action') (c : Connection ε) :
    answerOf (actFinally action') (v.connection c)
      = ((answerOf (actFinally action) c).1, v.connection (answerOf (actFinally action) c).2) := by
  simp only [answerOf, actFinally, act,
    show (v.connection c).endpoint = v.endpoint c.endpoint from rfl, h.eq c.endpoint]
  cases action c.endpoint <;> rfl

theorem mirrors_readPostHandshake :
    v.Mirrors (fun _ => False) readPostHandshake readPostHandshake := by
  refine mirrors_of_eq fun p => ?_
  have hread : v.Mirrors (fun _ => False) (perform Environment.readMessage)
      (perform Environment.readMessage) := mirrors_perform v.readMessage
  simp only [readPostHandshake, hread.eq p]
  cases Engine.perform (Environment.readMessage (ε := ε)) p with
  | ok a q => rfl
  | error e q => exact ((mirrors_reportTransport e).bind fun _ => mirrors_throw e).eq q

theorem mirrors_dispatch (m : Message) :
    v.Mirrors (fun _ => False) (dispatch m) (dispatch m) := by
  refine mirrors_of_eq fun p => ?_
  have h := (mirrors_postHandshake (v := v)).eq
    ⟨{ p.context with message := some m }, p.environment⟩
  simp only [dispatch]
  rw [show (⟨{ (v.endpoint p).context with message := some m }, (v.endpoint p).environment⟩
    : Endpoint ε') = v.endpoint ⟨{ p.context with message := some m }, p.environment⟩ from rfl, h]
  cases postHandshake (⟨{ p.context with message := some m }, p.environment⟩ : Endpoint ε) <;>
    rfl

theorem handshake_mirrors (c : Connection ε) :
    (v.connection c).handshake = (c.handshake.1, v.connection c.handshake.2)
    ∨ ∃ e env, v.Refused e ∧ c.handshake.1 = .fatal e
      ∧ c.handshake.2.endpoint.environment = Environment.sendAlert (.fatal .decryptError) env := by
  rcases drive_mirrors (v := v) c.flow c.endpoint with h | ⟨e, flow', c', env, hrefused, h⟩
  · rcases hdrive : c.endpoint.drive AuthFlow.stage c.flow with ⟨outcome, flow, q⟩
    rw [hdrive] at h
    have h : (v.connection c).endpoint.drive AuthFlow.stage (v.connection c).flow
      = (outcome, flow, v.endpoint q) := h
    rw [handshake, handshake, hdrive, h]
    exact Or.inl rfl
  · refine Or.inr ⟨e, env, hrefused, ?_⟩
    rw [handshake, h]
    exact ⟨rfl, rfl⟩

theorem processPostHandshake_mirrors (c : Connection ε) :
    answerOf processPostHandshake (v.connection c)
      = ((answerOf processPostHandshake c).1,
        v.connection (answerOf processPostHandshake c).2) := by
  unfold processPostHandshake
  by_cases hearly : (!c.complete || c.endpoint.context.wait = .error) = true
  · have hearly' : (!(v.connection c).complete
        || (v.connection c).endpoint.context.wait = .error) = true := hearly
    simp only [answerOf, hearly, hearly', if_true]
  · have hearly' : ¬ (!(v.connection c).complete
        || (v.connection c).endpoint.context.wait = .error) = true := hearly
    simp only [answerOf, if_neg hearly, if_neg hearly']
    refine answerOf_actFinally_mirrors (mirrors_readPostHandshake.bind fun answer => ?_) c
    cases answer with
    | pending => exact mirrors_pure _
    | ready m => exact (mirrors_dispatch m).bind fun _ => mirrors_pure _

theorem answerOf_flush_mirrors (c : Connection ε) :
    answerOf flush (v.connection c)
      = ((answerOf flush c).1, v.connection (answerOf flush c).2) := by
  refine answerOf_act_mirrors ((mirrors_perform v.flushFlight).bind fun answer => ?_) c
  dsimp only
  split
  · exact (mirrors_modifyContext fun _ => rfl).bind fun _ => mirrors_pure _
  · exact mirrors_pure _

theorem keyUpdate_mirrors (request : KeyUpdateRequest) (c : Connection ε) :
    answerOf (keyUpdate request) (v.connection c)
      = ((answerOf (keyUpdate request) c).1, v.connection (answerOf (keyUpdate request) c).2) := by
  unfold keyUpdate
  cases hcomplete : c.complete with
  | false =>
      have hcomplete' : (v.connection c).complete = false := hcomplete
      simp only [answerOf, hcomplete, hcomplete', Bool.not_false, if_true]
  | true =>
      have hcomplete' : (v.connection c).complete = true := hcomplete
      have hact := answerOf_act_mirrors (mirrors_sendKeyUpdate (v := v) request) c
      simp only [answerOf, hcomplete, hcomplete'] at hact ⊢
      exact hact

theorem resetEarlyDataReject_mirrors (c : Connection ε) :
    answerOf resetEarlyDataReject (v.connection c)
      = ((answerOf resetEarlyDataReject c).1,
        v.connection (answerOf resetEarlyDataReject c).2) := by
  have hwait : (v.connection c).endpoint.context.wait = c.endpoint.context.wait := rfl
  simp only [answerOf, resetEarlyDataReject, Context.resetEarlyDataReject, hwait]
  by_cases hrejected : c.endpoint.context.wait = .earlyDataRejected
  · simp only [if_pos hrejected]
    rfl
  · simp only [if_neg hrejected]

variable (v) in
/-- Calls mirror each other, unless one of `handshake` refuses what the peer has sent. -/
theorem call_mirrors (c : Connection ε) (call : Call) :
    (v.connection c).call call = ((c.call call).1, v.connection (c.call call).2)
    ∨ ∃ e env, v.Refused e ∧ (c.call call).1 = .ended (.fatal e)
      ∧ (c.call call).2.endpoint.environment
        = Environment.sendAlert (.fatal .decryptError) env := by
  cases call with
  | handshake =>
      simp only [Connection.call]
      rcases handshake_mirrors (v := v) c with h | ⟨e, env, hrefused, h, hsent⟩
      · exact Or.inl (by rw [h])
      · exact Or.inr ⟨e, env, hrefused, by rw [h], hsent⟩
  | processPostHandshake =>
      exact Or.inl (by simp only [Connection.call, processPostHandshake_mirrors])
  | flush => exact Or.inl (by simp only [Connection.call, answerOf_flush_mirrors])
  | keyUpdate request => exact Or.inl (by simp only [Connection.call, keyUpdate_mirrors])
  | resetEarlyDataReject =>
      exact Or.inl (by simp only [Connection.call, resetEarlyDataReject_mirrors])

variable (v) in
/-- Runs mirror each other in a view that is not loose. -/
theorem run_mirrors (hstrict : v.loose = false) (c : Connection ε) (calls : List Call) :
    (v.connection c).run calls = ((c.run calls).1, v.connection (c.run calls).2) := by
  induction calls generalizing c with
  | nil => rfl
  | cons call calls ih =>
      rcases v.call_mirrors c call with h | ⟨_, _, hrefused, _⟩
      · simp only [run, h, ih]
      · cases hstrict.symm.trans hrefused.1

end Connections

end View

/-! ## Recording changes nothing -/

theorem Recorded.resultIn_record (act : EStateM Error ε α) (event : Except Error α → Event)
    (r : Recorded ε) :
    act r.environment = resultIn Recorded.environment (record act event r) := by
  unfold record
  cases act r.environment <;> rfl

/-- Recorded surroundings without the record. -/
def View.unrecorded (ε : Type) [Environment ε] : View (Recorded ε) ε where
  environment := Recorded.environment
  loose := false
  flushFlight := Recorded.resultIn_record _ _
  expectFlight _ := rfl
  readMessage := Recorded.resultIn_record _ _
  readChangeCipherSpec := Recorded.resultIn_record _ _
  addMessage _ := Recorded.resultIn_record _ _
  sendAlert _ _ := rfl
  finishedMac _ _ := Recorded.resultIn_record _ _
  rotateTrafficKey _ := Recorded.resultIn_record _ _
  signer? _ := rfl
  sign _ _ _ _ := rfl
  completeSignature _ _ := rfl
  handlesTickets _ := rfl
  storeTicket _ _ := Recorded.resultIn_record _ _

theorem Recorded.resultIn_continued (h : History) (act : EStateM Error ε α)
    (event : Except Error α → Event) (r : Recorded ε) :
    record act event ⟨r.environment, h ++ r.history⟩
      = resultIn (fun r => ⟨r.environment, h ++ r.history⟩) (record act event r) := by
  unfold record
  cases act r.environment <;> simp only [resultIn, List.append_assoc]

/-- Recorded surroundings, with a history that comes before what is recorded. -/
def View.continued [Environment ε] (h : History) : View (Recorded ε) (Recorded ε) where
  environment r := ⟨r.environment, h ++ r.history⟩
  loose := false
  flushFlight := Recorded.resultIn_continued h _ _
  expectFlight _ := congrArg (Recorded.mk _) (List.append_assoc _ _ _)
  readMessage := Recorded.resultIn_continued h _ _
  readChangeCipherSpec := Recorded.resultIn_continued h _ _
  addMessage _ := Recorded.resultIn_continued h _ _
  sendAlert _ _ := congrArg (Recorded.mk _) (List.append_assoc _ _ _)
  finishedMac _ _ := Recorded.resultIn_continued h _ _
  rotateTrafficKey _ := Recorded.resultIn_continued h _ _
  signer? _ := rfl
  sign _ _ _ _ := congrArg (Prod.mk _) (congrArg (Recorded.mk _) (List.append_assoc _ _ _))
  completeSignature _ _ :=
    congrArg (Prod.mk _) (congrArg (Recorded.mk _) (List.append_assoc _ _ _))
  handlesTickets _ := rfl
  storeTicket _ _ := Recorded.resultIn_continued h _ _

/-- The endpoint without the record of its surroundings. -/
def Endpoint.forget (p : Endpoint (Recorded ε)) : Endpoint ε :=
  ⟨p.context, p.environment.environment⟩

namespace Connection

/-- The connection without the record of its surroundings. -/
def forget (c : Connection (Recorded ε)) : Connection ε := { c with endpoint := c.endpoint.forget }

@[simp] theorem forget_recorded (c : Connection ε) : c.recorded.forget = c := rfl

variable [Environment ε]

theorem handshake_forget (c : Connection (Recorded ε)) :
    c.forget.handshake = (c.handshake.1, c.handshake.2.forget) := by
  rcases View.handshake_mirrors (v := .unrecorded ε) c with h | ⟨_, _, hrefused, _⟩
  · exact h
  · cases hrefused.1

/-- A call answers the same whether it is recorded or not. -/
theorem call_forget (c : Connection (Recorded ε)) (call : Call) :
    c.forget.call call = ((c.call call).1, (c.call call).2.forget) := by
  rcases (View.unrecorded ε).call_mirrors c call with h | ⟨_, _, hrefused, _⟩
  · exact h
  · cases hrefused.1

/-- A run gives the same answers and leaves the same whether it is recorded or not. -/
theorem run_forget (c : Connection (Recorded ε)) (calls : List Call) :
    c.forget.run calls = ((c.run calls).1, (c.run calls).2.forget) :=
  (View.unrecorded ε).run_mirrors rfl c calls

theorem run_recorded (c : Connection ε) (calls : List Call) :
    c.run calls = ((c.recorded.run calls).1, (c.recorded.run calls).2.forget) :=
  run_forget c.recorded calls

/-- What is done in a run is what its first call does and then what the others do. -/
theorem history_cons (c : Connection ε) (call : Call) (calls : List Call) :
    c.history (call :: calls) = c.history [call] ++ (c.call call).2.history calls := by
  have hafter : (c.call call).2 = (c.recorded.call call).2.forget :=
    congrArg Prod.snd (call_forget c.recorded call)
  have hrun := (View.continued (ε := ε) (c.history [call])).run_mirrors rfl
    (c.call call).2.recorded calls
  have hstart : (View.continued (c.history [call])).connection (c.call call).2.recorded
      = (c.recorded.call call).2 := by
    rw [hafter]
    simp only [View.connection, View.endpoint, View.continued, recorded, forget, Endpoint.forget,
      List.append_nil]
    rfl
  rw [hstart] at hrun
  change ((c.recorded.call call).2.run calls).2.endpoint.environment.history = _
  rw [hrun]
  rfl

end Connection

end TlsHandshake
