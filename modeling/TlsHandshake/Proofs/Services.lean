import TlsHandshake.Handshake.AuthFlow
import TlsHandshake.Proofs.History

set_option autoImplicit false

/-! # Stages that do not poll

Most operations of the surroundings are services that are done at once: queueing and signing,
alerts, MACs and keys. A `ServiceStage` is a stage that asks for these alone, written down as a
`Routine`, so that it is the same stage in all surroundings. Main statement:
`AuthFlow.exists_serviceStage`, the authentication flight is such a stage. -/

namespace TlsHandshake

/-! ## Services -/

/-- An operation of the surroundings that is done at once. -/
inductive Service where
  | queue (message : Bytes)
  | alert (alert : Alert)
  | computeMac (sender : Role) (transcriptHash : Bytes)
  | rotate (direction : Direction)
  | signer
  | sign (scheme : SignatureScheme) (input : Bytes) (maxLength : Nat)
  | completeSignature (maxLength : Nat)

/-- What is answered to a service. -/
def Service.Answer : Service → Type
  | queue _ | rotate _ => Except Error Unit
  | alert _ => Unit
  | computeMac .. => Except Error Bytes
  | signer => Option SignerInfo
  | sign .. | completeSignature _ => SignResult

/-- What is done by services alone, each perhaps chosen by the answers before it. -/
inductive Routine (α : Type) where
  | done (a : α)
  | ask (service : Service) (next : service.Answer → Routine α)

/-- One routine after another. -/
def Routine.bind {α β : Type} : Routine α → (α → Routine β) → Routine β
  | done a, f => f a
  | ask service next, f => ask service fun answer => (next answer).bind f

/-- A stage that asks for services alone. -/
structure ServiceStage (σ : Type) where
  step : σ → Context → Routine (Wait × σ × Context)
  budget : σ → Nat

section Running

variable {ε σ α β : Type} [Environment ε]

/-- Does what a service asks of the surroundings. -/
def Service.perform : (service : Service) → ε → service.Answer × ε
  | queue message, e => answerOf (Environment.addMessage message) e
  | alert a, e => ((), Environment.sendAlert a e)
  | computeMac sender transcriptHash, e =>
      answerOf (Environment.finishedMac sender transcriptHash) e
  | rotate direction, e => answerOf (Environment.rotateTrafficKey direction) e
  | signer, e => (Environment.signer? e, e)
  | sign scheme input maxLength, e => Environment.sign scheme input maxLength e
  | completeSignature maxLength, e => Environment.completeSignature maxLength e

def Routine.run : Routine α → ε → α × ε
  | done a, e => (a, e)
  | ask service next, e =>
      let (answer, e) := service.perform e
      (next answer).run e

theorem Routine.run_bind (routine : Routine α) (f : α → Routine β) (e : ε) :
    (routine.bind f).run e = (f (routine.run e).1).run (routine.run e).2 := by
  induction routine generalizing e with
  | done a => rfl
  | ask service next ih => exact ih _ _

/-- The stage in given surroundings. -/
def ServiceStage.stage (services : ServiceStage σ) : Stage ε σ where
  step s p :=
    let ((wait, s, context), environment) := (services.step s p.context).run p.environment
    (wait, s, ⟨context, environment⟩)
  budget := services.budget

end Running

/-! ## Actions -/

/-- A routine for an action on an endpoint: the context that the action leaves comes with its
    answer. -/
abbrev Program (α : Type) := Context → Routine (Except Error α × Context)

/-- What a program answers, and the endpoint it leaves. -/
def Program.run {ε α : Type} [Environment ε] (program : Program α) (p : Endpoint ε) :
    Except Error α × Endpoint ε :=
  let ((answer, context), environment) := (program p.context).run p.environment
  (answer, ⟨context, environment⟩)

/-- In all surroundings, an action does what one program says. -/
def Engine.Programmed {α : Type} (act : ∀ (ε : Type) [Environment ε], Engine ε α) : Prop :=
  ∃ program : Program α, ∀ (ε : Type) [Environment ε] (p : Endpoint ε),
    answerOf (act ε) p = program.run p

namespace Engine

variable {α β : Type}

/-! ### Rules -/

theorem programmed_pure (a : α) : Programmed fun ε _ => (pure a : Engine ε α) :=
  ⟨fun c => .done (.ok a, c), fun _ _ _ => rfl⟩

theorem programmed_throw (e : Error) : Programmed fun ε _ => (throw e : Engine ε α) :=
  ⟨fun c => .done (.error e, c), fun _ _ _ => rfl⟩

theorem programmed_context : Programmed fun ε _ => (context : Engine ε Context) :=
  ⟨fun c => .done (.ok c, c), fun _ _ _ => rfl⟩

theorem programmed_modifyContext (f : Context → Context) :
    Programmed fun ε _ => (modifyContext f : Engine ε Unit) :=
  ⟨fun c => .done (.ok (), f c), fun _ _ _ => rfl⟩

theorem Programmed.congr {act act' : ∀ (ε : Type) [Environment ε], Engine ε α} (h : Programmed act')
    (heq : ∀ (ε : Type) [Environment ε] (p : Endpoint ε), act ε p = act' ε p) : Programmed act := by
  obtain ⟨program, h⟩ := h
  refine ⟨program, fun ε _ p => ?_⟩
  rw [← h ε p, answerOf, answerOf, heq]

/-- What follows an action that answers: an action for each value, and one for each error. -/
def following (onOk : α → ∀ (ε : Type) [Environment ε], Engine ε β)
    (onError : Error → ∀ (ε : Type) [Environment ε], Engine ε β) :
    Except Error α → ∀ (ε : Type) [Environment ε], Engine ε β
  | .ok a => onOk a
  | .error e => onError e

/-- What comes first is planned, and so is what follows each of its answers. -/
theorem Programmed.andThen {act : ∀ (ε : Type) [Environment ε], Engine ε α}
    {both : ∀ (ε : Type) [Environment ε], Engine ε β}
    {onOk : α → ∀ (ε : Type) [Environment ε], Engine ε β}
    {onError : Error → ∀ (ε : Type) [Environment ε], Engine ε β} (hact : Programmed act)
    (hok : ∀ a, Programmed (onOk a)) (herror : ∀ e, Programmed (onError e))
    (hboth : ∀ (ε : Type) [Environment ε] (p : Endpoint ε), answerOf (both ε) p
      = answerOf (following onOk onError (answerOf (act ε) p).1 ε) (answerOf (act ε) p).2) :
    Programmed both := by
  have hnext : ∀ answer, Programmed (following onOk onError answer) := by
    rintro (e | a)
    · exact herror e
    · exact hok a
  obtain ⟨program, hact⟩ := hact
  obtain ⟨programs, hnext⟩ := Classical.axiomOfChoice hnext
  refine ⟨fun c => (program c).bind fun (answer, c) => programs answer c, fun ε _ p => ?_⟩
  rw [hboth ε p, hact ε p, hnext, Program.run, Program.run, Program.run, Routine.run_bind]

theorem Programmed.bind {act : ∀ (ε : Type) [Environment ε], Engine ε α}
    {f : α → ∀ (ε : Type) [Environment ε], Engine ε β} (hact : Programmed act)
    (hf : ∀ a, Programmed (f a)) : Programmed fun ε _ => act ε >>= fun a => f a ε := by
  refine hact.andThen hf programmed_throw ?_
  intro ε _ p
  simp only [answerOf, Bind.bind, EStateM.bind]
  cases act ε p <;> rfl

/-- An operation that a service stands for. -/
theorem programmed_perform (service : Service)
    {act : ∀ (ε : Type) [Environment ε], EStateM Error ε α}
    (answer : service.Answer → Except Error α)
    (h : ∀ (ε : Type) [Environment ε] (e : ε),
      answerOf (act ε) e = (answer (service.perform e).1, (service.perform e).2)) :
    Programmed fun ε _ => perform (act ε) := by
  refine ⟨fun c => .ask service fun a => .done (answer a, c), fun ε _ p => ?_⟩
  have h := h ε p.environment
  simp only [answerOf] at h
  simp only [answerOf, perform, Program.run, Routine.run]
  cases hact : act ε p.environment <;> rw [hact] at h <;> obtain ⟨h₁, h₂⟩ := Prod.mk.inj h
  all_goals rw [← h₁, ← h₂]

theorem programmed_performPure (service : Service)
    {act : ∀ (ε : Type) [Environment ε], ε → service.Answer × ε}
    (h : ∀ (ε : Type) [Environment ε] (e : ε), act ε e = service.perform e) :
    Programmed fun ε _ => performPure (act ε) := by
  refine ⟨fun c => .ask service fun a => .done (.ok a, c), fun ε _ p => ?_⟩
  simp only [answerOf, performPure, h, Program.run, Routine.run]

theorem programmed_alert (description : AlertDescription) :
    Programmed fun ε _ => (alert description : Engine ε Unit) :=
  ⟨fun c => .ask (.alert (.fatal description)) fun _ => .done (.ok (), c), fun _ _ _ => rfl⟩

theorem programmed_fatal (description : AlertDescription) (e : Error) :
    Programmed fun ε _ => (fatal description e : Engine ε α) :=
  (programmed_alert description).bind fun _ => programmed_throw e

theorem Programmed.orAlert {act : ∀ (ε : Type) [Environment ε], Engine ε α}
    (descriptionOf : Error → AlertDescription) (hact : Programmed act) :
    Programmed fun ε _ => orAlert descriptionOf (act ε) := by
  refine hact.andThen programmed_pure (fun e => programmed_fatal (descriptionOf e) e) ?_
  intro ε _ p
  simp only [answerOf, Engine.orAlert]
  cases act ε p <;> rfl

theorem programmed_orFatal (descriptionOf : Error → AlertDescription) (result : Except Error α) :
    Programmed fun ε _ => (orFatal descriptionOf result : Engine ε α) := by
  cases result with
  | ok a => exact programmed_pure a
  | error e => exact programmed_fatal (descriptionOf e) e

theorem programmed_queue (message : Bytes) :
    Programmed fun ε _ => (queue message : Engine ε Unit) :=
  (programmed_modifyContext _).bind fun _ =>
    (programmed_perform (.queue message) id fun _ _ _ => rfl).orAlert _

/-! ### Handlers -/

/-- The program of the chain hook, which asks for nothing. -/
def chainHookProgram : Program Unit := fun c =>
  match c.config.chainHook with
  | none => .done (.ok (), c)
  | some hook => .done ((hook c.session).1, { c with session := (hook c.session).2 })

theorem programmed_runChainHook : Programmed fun ε _ => (runChainHook : Engine ε Unit) := by
  refine ⟨chainHookProgram, fun ε _ p => ?_⟩
  simp only [answerOf, runChainHook, chainHookProgram, Program.run]
  cases p.context.config.chainHook with
  | none => rfl
  | some hook =>
      simp only [Routine.run]
      cases (hook p.context.session).1 <;> rfl

theorem programmed_processCertificate (allowAnonymous : Bool) :
    Programmed fun ε _ => (processCertificate allowAnonymous : Engine ε Unit) := by
  refine programmed_context.bind fun c => (programmed_orFatal _ _).bind fun chain =>
    (programmed_modifyContext _).bind fun _ => (programmed_runChainHook.orAlert _).bind fun _ =>
      programmed_context.bind fun c' => ?_
  split
  · split
    · exact programmed_modifyContext _
    · exact programmed_fatal _ _
  · exact programmed_pure ()

theorem programmed_addCertificate : Programmed fun ε _ => (addCertificate : Engine ε Unit) :=
  programmed_context.bind fun _ => (programmed_orFatal _ _).bind fun message =>
    programmed_queue message

theorem programmed_processCertificateVerify :
    Programmed fun ε _ => (processCertificateVerify : Engine ε Unit) := by
  refine programmed_context.bind fun c => ?_
  split
  · exact programmed_fatal _ _
  · refine (programmed_orFatal _ _).bind fun verify => ?_
    split
    · exact programmed_fatal _ _
    · refine (programmed_modifyContext _).bind fun _ => ?_
      split
      all_goals
        dsimp only
        split
        · exact programmed_fatal _ _
        · exact programmed_pure ()

theorem programmed_askSigner (c : Context) (scheme : SignatureScheme) (maxLength : Nat) :
    Programmed fun ε _ => (askSigner c scheme maxLength : Engine ε SignResult) := by
  unfold askSigner
  split
  · exact programmed_performPure (.completeSignature maxLength) fun _ _ _ => rfl
  · exact programmed_performPure (.sign scheme _ maxLength) fun _ _ _ => rfl

theorem programmed_signTranscript :
    Programmed fun ε _ => (signTranscript : Engine ε SignResult) := by
  have hsigner : Programmed fun ε [Environment ε] =>
      (performPure fun e => (Environment.signer? e, e) : Engine ε (Option SignerInfo)) :=
    programmed_performPure .signer fun _ _ _ => rfl
  refine (hsigner.bind (f := fun signer? ε _ => signTranscript.go signer?) ?_).congr
    fun _ _ _ => rfl
  rintro (_ | signer)
  · exact programmed_fatal _ _
  · refine programmed_context.bind fun c => ?_
    split
    · exact programmed_fatal _ _
    · refine (programmed_askSigner _ _ _).bind fun result =>
        (programmed_modifyContext _).bind fun _ => ?_
      cases result with
      | retry => exact programmed_pure _
      | failure => exact programmed_fatal _ _
      | success signature =>
          dsimp only
          split
          · exact (programmed_fatal _ _).bind fun _ => (programmed_orFatal _ _).bind fun message =>
              (programmed_queue _).bind fun _ => programmed_pure _
          · exact (programmed_orFatal _ _).bind fun message =>
              (programmed_queue _).bind fun _ => programmed_pure _

theorem programmed_finishedMac (sender : Role) :
    Programmed fun ε _ => (finishedMac sender : Engine ε Bytes) :=
  (programmed_context.bind fun c => programmed_perform
    (.computeMac sender c.transcript.hash) id fun _ _ _ => rfl).congr fun _ _ _ => rfl

theorem programmed_takeSavedFinished :
    Programmed fun ε _ => (takeSavedFinished : Engine ε Bytes) := by
  refine programmed_context.bind fun c => (programmed_modifyContext _).bind fun _ => ?_
  split
  · exact programmed_pure _
  · exact programmed_fatal _ _

theorem programmed_processFinished (useSaved : Bool) :
    Programmed fun ε _ => (processFinished useSaved : Engine ε Unit) := by
  refine programmed_context.bind fun c => ?_
  cases useSaved with
  | true =>
      refine programmed_takeSavedFinished.bind fun mac => ?_
      dsimp only
      split
      · exact programmed_fatal _ _
      · exact programmed_pure ()
  | false =>
      refine ((programmed_finishedMac _).orAlert _).bind fun mac => ?_
      dsimp only
      split
      · exact programmed_fatal _ _
      · exact programmed_pure ()

theorem programmed_ownFinishedMac : Programmed fun ε _ => (ownFinishedMac : Engine ε Bytes) := by
  refine (programmed_context.bind fun c => programmed_finishedMac c.role).andThen programmed_pure
    (fun _ => programmed_fatal .internalError .finishedMismatch) ?_
  intro ε _ p
  have hbind : (context >>= fun c => finishedMac c.role) p = finishedMac p.context.role p := rfl
  simp only [answerOf, ownFinishedMac, hbind]
  cases finishedMac p.context.role p <;> rfl

theorem programmed_addFinished : Programmed fun ε _ => (addFinished : Engine ε Unit) :=
  programmed_ownFinishedMac.bind fun _ => (programmed_orFatal _ _).bind fun message =>
    programmed_queue message

theorem programmed_saveClientFinished :
    Programmed fun ε _ => (saveClientFinished : Engine ε Unit) :=
  ((programmed_finishedMac _).orAlert _).bind fun _ => programmed_modifyContext _

end Engine

/-! ## The authentication flight -/

namespace AuthFlow

open Engine

theorem programmed_expect (type : MessageType) :
    Programmed fun ε _ => (expect type : Engine ε Bool) := by
  refine programmed_context.bind fun c => ?_
  split
  · exact programmed_pure _
  · split
    · exact programmed_pure _
    · exact programmed_fatal _ _

theorem programmed_receive (phase : Phase) (type : MessageType)
    {process : ∀ (ε : Type) [Environment ε], Engine ε Unit} (next : Context → Phase)
    (hprocess : Programmed process) :
    Programmed fun ε _ => (receive phase type (process ε) next : Engine ε Turn) := by
  refine (programmed_expect type).bind fun there => ?_
  cases there with
  | true =>
      exact hprocess.bind fun _ => (programmed_modifyContext _).bind fun _ =>
        programmed_context.bind fun c => programmed_pure _
  | false => exact programmed_pure _

theorem programmed_sendFinished (role : Role) :
    Programmed fun ε _ => (sendFinished role : Engine ε Turn) := by
  cases role with
  | client => exact programmed_addFinished.bind fun _ => programmed_pure _
  | server =>
      refine programmed_addFinished.bind fun _ => programmed_context.bind fun c => ?_
      split
      · exact programmed_pure _
      · exact programmed_saveClientFinished.bind fun _ => programmed_pure _

theorem programmed_turn (flow : AuthFlow) : Programmed fun ε _ => (flow.turn : Engine ε Turn) := by
  obtain ⟨role, phase⟩ := flow
  cases phase with
  | sendCertificate =>
      exact programmed_addCertificate.bind fun _ =>
        programmed_context.bind fun c => programmed_pure _
  | sendCertificateVerify =>
      refine programmed_signTranscript.bind fun result => ?_
      split
      · exact programmed_pure _
      · exact programmed_pure _
  | sendFinished => exact programmed_sendFinished role
  | readCertificate =>
      exact programmed_context.bind fun c =>
        programmed_receive _ _ _ (programmed_processCertificate _)
  | readCertificateVerify => exact programmed_receive _ _ _ programmed_processCertificateVerify
  | readFinished =>
      exact programmed_context.bind fun c => programmed_receive _ _ _ (programmed_processFinished _)
  | done => exact programmed_pure _

/-- Some turns of the flight ask for services alone. -/
theorem exists_routine_stepFor (turns : Nat) (flow : AuthFlow) :
    ∃ routine : Context → Routine (Wait × AuthFlow × Context),
      ∀ (ε : Type) [Environment ε] (p : Endpoint ε), stepFor turns flow p
        = (((routine p.context).run p.environment).1.1,
            ((routine p.context).run p.environment).1.2.1,
            ⟨((routine p.context).run p.environment).1.2.2,
              ((routine p.context).run p.environment).2⟩) := by
  induction turns generalizing flow with
  | zero => exact ⟨fun c => .done (.error, flow, c), fun _ _ _ => rfl⟩
  | succ turns ih =>
      obtain ⟨program, hturn⟩ := programmed_turn flow
      obtain ⟨routines, ih⟩ := Classical.axiomOfChoice ih
      refine ⟨fun c => (program c).bind fun
        | (.ok (.next phase), c) => routines { flow with phase := phase } c
        | (.ok (.wait phase wait), c) => .done (wait, { flow with phase := phase }, c)
        | (.error e, c) => .done (.error, flow, c.fail e), fun ε _ p => ?_⟩
      have hturn := hturn ε p
      rw [Program.run] at hturn
      rw [Routine.run_bind]
      rcases hrun : (program p.context).run p.environment with ⟨⟨answer, c⟩, e⟩
      rw [hrun] at hturn
      cases answer with
      | error err =>
          rw [answerOf_eq_error_iff] at hturn
          simp only [stepFor, hturn]
          rfl
      | ok turn =>
          rw [answerOf_eq_ok_iff] at hturn
          cases turn with
          | wait phase wait =>
              simp only [stepFor, hturn]
              rfl
          | next phase =>
              simp only [stepFor, hturn]
              exact ih _ ε ⟨c, e⟩

/-- The authentication flight asks for services alone, the same in all surroundings. -/
theorem exists_serviceStage : ∃ services : ServiceStage AuthFlow,
    ∀ (ε : Type) [Environment ε], services.stage = (stage : Stage ε AuthFlow) := by
  obtain ⟨routines, hroutines⟩ := Classical.axiomOfChoice fun flow : AuthFlow =>
    exists_routine_stepFor (rank flow.role flow.phase + 1) flow
  refine ⟨⟨routines, fun _ => 6⟩, fun ε _ => ?_⟩
  have hstep : (ServiceStage.stage ⟨routines, fun _ => 6⟩ : Stage ε AuthFlow).step = step := by
    funext flow p
    exact (hroutines flow ε p).symm
  rw [stage, ← hstep]
  rfl

end AuthFlow

end TlsHandshake
