import TlsHandshake.Handshake.CertificateVerify
import TlsHandshake.Handshake.Finished
import TlsHandshake.Proofs.History

set_option autoImplicit false

/-! # Running an action

`act.Runs p h answer q` says that an action, started at the endpoint `p`, performs the events of `h`
one after the other, answers, and leaves `q`. The rules follow the way actions are put together. -/

namespace TlsHandshake

variable {ε α β : Type} [Environment ε]

/-- From `p`, an action performs the events of `h`, answers, and leaves `q`. -/
def Engine.Runs (act : Engine ε α) (p : Endpoint ε) (h : History) (answer : Except Error α)
    (q : Endpoint ε) : Prop :=
  answerOf act p = (answer, q) ∧ Performs p.environment h q.environment

namespace Engine

variable {p q r : Endpoint ε} {g h : History}

/-! ## Sequences -/

theorem Runs.bind {act : Engine ε α} {f : α → Engine ε β} {a : α} {answer : Except Error β}
    (hact : act.Runs p g (.ok a) q) (hf : (f a).Runs q h answer r) :
    Runs (act >>= f) p (g ++ h) answer r := by
  obtain ⟨hact, hg⟩ := hact
  refine ⟨?_, hg.append hf.2⟩
  rw [answerOf_eq_ok_iff] at hact
  rw [← hf.1]
  simp only [answerOf, Bind.bind, EStateM.bind, hact]

theorem Runs.bind_error {act : Engine ε α} {f : α → Engine ε β} {e : Error}
    (hact : act.Runs p h (.error e) q) : Runs (act >>= f) p h (.error e) q := by
  obtain ⟨hact, hh⟩ := hact
  refine ⟨?_, hh⟩
  rw [answerOf_eq_error_iff] at hact ⊢
  simp only [Bind.bind, EStateM.bind, hact]

/-- An action that does what another does in the same surroundings. -/
theorem Runs.of_eq {act act' : Engine ε α} {c c' : Context} {env : ε} {answer : Except Error α}
    (hact : act'.Runs ⟨c', env⟩ h answer q) (heq : act ⟨c, env⟩ = act' ⟨c', env⟩) :
    act.Runs ⟨c, env⟩ h answer q := by
  refine ⟨?_, hact.2⟩
  rw [← hact.1, answerOf, answerOf, heq]

theorem runs_pure (a : α) : Runs (Pure.pure a : Engine ε α) p [] (.ok a) p := ⟨rfl, rfl⟩

/-! ## Failing -/

/-- The endpoint once it has sent the fatal alert of a description. -/
def alerted (p : Endpoint ε) (description : AlertDescription) : Endpoint ε :=
  { p with environment := Environment.sendAlert (.fatal description) p.environment }

theorem runs_fatal (description : AlertDescription) (e : Error) :
    Runs (α := α) (fatal description e) p [.fatal description] (.error e)
      (alerted p description) :=
  ⟨rfl, _, rfl, rfl⟩

/-- A failing action under `orAlert` sends its alert and fails the same way. -/
theorem Runs.orAlert_error {act : Engine ε α} {e : Error}
    (descriptionOf : Error → AlertDescription) (hact : act.Runs p h (.error e) q) :
    (orAlert descriptionOf act).Runs p (h ++ [.fatal (descriptionOf e)]) (.error e)
      (alerted q (descriptionOf e)) := by
  obtain ⟨hact, hh⟩ := hact
  rw [answerOf_eq_error_iff] at hact
  refine ⟨?_, hh.append ⟨_, rfl, rfl⟩⟩
  rw [answerOf_eq_error_iff, orAlert, hact]
  rfl

theorem Runs.orAlert_ok {act : Engine ε α} {a : α} (descriptionOf : Error → AlertDescription)
    (hact : act.Runs p h (.ok a) q) : (orAlert descriptionOf act).Runs p h (.ok a) q := by
  obtain ⟨hact, hh⟩ := hact
  rw [answerOf_eq_ok_iff] at hact
  refine ⟨?_, hh⟩
  rw [answerOf_eq_ok_iff, orAlert, hact]

/-! ## Operations -/

/-- Queueing puts the message into the transcript, whether it can be queued or not. -/
theorem queue_runs (message : Bytes) (p : Endpoint ε) :
    (∃ q, (queue message).Runs p [.queued message (.ok ())] (.ok ()) q
      ∧ q.context = p.context.record message)
    ∨ ∃ e q, (queue message).Runs p [.queued message (.error e), .fatal .internalError] (.error e) q
      ∧ q.context = p.context.record message := by
  cases hadd : Environment.addMessage message p.environment with
  | ok _ env =>
      refine Or.inl ⟨⟨p.context.record message, env⟩, ⟨?_, _, answerOf_eq_ok_iff.2 hadd, rfl⟩, rfl⟩
      simp only [answerOf, queue, modifyContext, orAlert, perform, Bind.bind, EStateM.bind, hadd]
  | error e env =>
      refine Or.inr ⟨e, alerted ⟨p.context.record message, env⟩ .internalError,
        ⟨?_, _, answerOf_eq_error_iff.2 hadd, _, rfl, rfl⟩, rfl⟩
      simp only [answerOf, queue, modifyContext, orAlert, perform, fatal, alert, Bind.bind,
        EStateM.bind, throw, throwThe, MonadExceptOf.throw, hadd]
      rfl

/-- A MAC is computed over the hash of the transcript as it is. -/
theorem finishedMac_runs (sender : Role) (p : Endpoint ε) :
    ∃ answer env, Runs (finishedMac sender) p
      [.computedMac sender p.context.transcript.hash answer] answer ⟨p.context, env⟩ := by
  cases hmac : Environment.finishedMac sender p.context.transcript.hash p.environment with
  | ok mac env =>
      refine ⟨.ok mac, env, ?_, env, answerOf_eq_ok_iff.2 hmac, rfl⟩
      simp only [answerOf, finishedMac, perform, hmac]
  | error e env =>
      refine ⟨.error e, env, ?_, env, answerOf_eq_error_iff.2 hmac, rfl⟩
      simp only [answerOf, finishedMac, perform, hmac]

end Engine

/-- How the signer is asked, with its answer: for the outcome of what is under way, or for a new
    signature over the transcript as it is. -/
def Context.signingEvent (c : Context) (scheme : SignatureScheme) (maxLength : Nat)
    (answer : SignResult) : Event :=
  if c.signaturePending then .completedSignature maxLength answer
  else .signed scheme (c.signatureInput c.role) maxLength answer

section SigningEvent

variable (c : Context) (scheme : SignatureScheme) (maxLength : Nat) (answer : SignResult)

@[simp] theorem Context.signingEvent_message? :
    (c.signingEvent scheme maxLength answer).message? = none := by
  rw [signingEvent]
  split <;> rfl

@[simp] theorem Context.signingEvent_sent? :
    (c.signingEvent scheme maxLength answer).sent? = none := by
  rw [signingEvent]
  split <;> rfl

@[simp] theorem Context.signingEvent_unsent? :
    (c.signingEvent scheme maxLength answer).unsent? = none := by
  rw [signingEvent]
  split <;> rfl

@[simp] theorem Context.signingEvent_mac? (sender : Role) :
    (c.signingEvent scheme maxLength answer).mac? sender = none := by
  rw [signingEvent]
  split <;> rfl

end SigningEvent

/-- The signer is asked once, in the way the context calls for. -/
theorem Engine.askSigner_runs (scheme : SignatureScheme) (maxLength : Nat) (p : Endpoint ε) :
    ∃ answer env, Runs (askSigner p.context scheme maxLength) p
      [p.context.signingEvent scheme maxLength answer] (.ok answer) ⟨p.context, env⟩ := by
  cases hpending : p.context.signaturePending with
  | true =>
      have heffect : (p.context.signingEvent scheme maxLength
          (Environment.completeSignature maxLength p.environment).1).Effect p.environment
          (Environment.completeSignature maxLength p.environment).2 := by
        simp only [Context.signingEvent, hpending]
        rfl
      refine ⟨_, _, ?_, Performs.single heffect⟩
      simp only [answerOf, askSigner, hpending]
      rfl
  | false =>
      have heffect : (p.context.signingEvent scheme maxLength (Environment.sign scheme
          (p.context.signatureInput p.context.role) maxLength p.environment).1).Effect p.environment
          (Environment.sign scheme (p.context.signatureInput p.context.role) maxLength
            p.environment).2 := by
        simp only [Context.signingEvent, hpending]
        rfl
      refine ⟨_, _, ?_, Performs.single heffect⟩
      simp only [answerOf, askSigner, hpending]
      rfl

end TlsHandshake
