import TlsHandshake.Proofs.Signer.Replaced

set_option autoImplicit false

/-! # After the signer has answered

What an end does with the answer of its signer, up to the end of the round. Main statement:
`closed_stepFor_signing`, the answer is all that matters of the device that gives it, and what was
waited for before does not matter. -/

namespace TlsHandshake

/-! ## Actions that do not depend on the signer -/

/-- An action does the same with any device for the signer, and whatever the context waits for. -/
def Engine.Oblivious {α : Type} (act : ∀ (ε : Type) [Environment ε], Engine ε α) : Prop :=
  ∀ (ε σ : Type) [Environment ε] [SigningDevice σ] (p : Endpoint ε) (wait : Wait) (device : σ)
    (asked : History), answerOf (act (Signing ε σ)) ((p.waitFor wait).signing device asked)
      = ((answerOf (act ε) p).1, ((answerOf (act ε) p).2.waitFor wait).signing device asked)

namespace Engine

variable {α β : Type}

theorem oblivious_pure (a : α) : Oblivious fun ε _ => (pure a : Engine ε α) :=
  fun _ _ _ _ _ _ _ _ => rfl

theorem oblivious_fatal (description : AlertDescription) (e : Error) :
    Oblivious fun ε _ => (fatal description e : Engine ε α) :=
  fun _ _ _ _ _ _ _ _ => rfl

theorem oblivious_modifyContext {f : Context → Context}
    (hwait : ∀ c wait, f { c with wait := wait } = { f c with wait := wait }) :
    Oblivious fun ε _ => (modifyContext f : Engine ε Unit) := by
  intro ε σ _ _ p wait device asked
  have hf := hwait p.context wait
  simp only [answerOf, modifyContext, Endpoint.waitFor, Endpoint.signing, hf]

theorem Oblivious.bind {act : ∀ (ε : Type) [Environment ε], Engine ε α}
    {f : α → ∀ (ε : Type) [Environment ε], Engine ε β} (hact : Oblivious act)
    (hf : ∀ a, Oblivious (f a)) : Oblivious fun ε _ => act ε >>= fun a => f a ε := by
  intro ε σ _ _ p wait device asked
  have hact := hact ε σ p wait device asked
  simp only [answerOf, Bind.bind, EStateM.bind] at hact ⊢
  cases hp : act ε p with
  | ok a q =>
      rw [hp] at hact
      rw [answerOf_eq_ok_iff.1 hact]
      exact hf a ε σ q wait device asked
  | error e q =>
      rw [hp] at hact
      rw [answerOf_eq_error_iff.1 hact]

/-- An action may depend on all of the context but for what it waits for. -/
theorem oblivious_context {f : Context → ∀ (ε : Type) [Environment ε], Engine ε α}
    (hwait : ∀ c wait, f { c with wait := wait } = f c) (hf : ∀ c, Oblivious (f c)) :
    Oblivious fun ε _ => context >>= fun c => f c ε := by
  intro ε σ _ _ p wait device asked
  have hsame : f ((p.waitFor wait).signing device asked).context = f p.context :=
    hwait p.context wait
  simp only [answerOf, Bind.bind, EStateM.bind, context, hsame]
  exact hf p.context ε σ p wait device asked

theorem Oblivious.orAlert {act : ∀ (ε : Type) [Environment ε], Engine ε α}
    (descriptionOf : Error → AlertDescription) (hact : Oblivious act) :
    Oblivious fun ε _ => orAlert descriptionOf (act ε) := by
  intro ε σ _ _ p wait device asked
  have hact := hact ε σ p wait device asked
  simp only [answerOf, Engine.orAlert] at hact ⊢
  cases hp : act ε p with
  | ok a q =>
      rw [hp] at hact
      rw [answerOf_eq_ok_iff.1 hact]
  | error e q =>
      rw [hp] at hact
      rw [answerOf_eq_error_iff.1 hact]
      exact oblivious_fatal (descriptionOf e) e ε σ q wait device asked

theorem oblivious_orFatal (descriptionOf : Error → AlertDescription) (result : Except Error α) :
    Oblivious fun ε _ => (orFatal descriptionOf result : Engine ε α) := by
  cases result with
  | ok a => exact oblivious_pure a
  | error e => exact oblivious_fatal (descriptionOf e) e

/-- An operation of the surroundings that the device has nothing to do with. -/
theorem oblivious_perform {act : ∀ (ε : Type) [Environment ε], EStateM Error ε α}
    (hpass : ∀ (ε σ : Type) [Environment ε] [SigningDevice σ],
      act (Signing ε σ) = Signing.pass (act ε)) : Oblivious fun ε _ => perform (act ε) := by
  intro ε σ _ _ p wait device asked
  simp only [answerOf, perform, hpass, Signing.pass, Endpoint.signing, Endpoint.waitFor]
  cases act ε p.environment <;> rfl

theorem oblivious_queue (message : Bytes) :
    Oblivious fun ε _ => (queue message : Engine ε Unit) :=
  (oblivious_modifyContext fun _ _ => rfl).bind fun _ =>
    (oblivious_perform fun _ _ _ _ => rfl).orAlert _

theorem oblivious_finishedMac (sender : Role) :
    Oblivious fun ε _ => (finishedMac sender : Engine ε Bytes) :=
  oblivious_context (f := fun c _ _ => perform (Environment.finishedMac sender c.transcript.hash))
    (fun _ _ => rfl) fun _ => oblivious_perform fun _ _ _ _ => rfl

theorem oblivious_ownFinishedMac :
    Oblivious fun ε _ => (ownFinishedMac : Engine ε Bytes) := by
  intro ε σ _ _ p wait device asked
  have hmac := oblivious_finishedMac p.context.role ε σ p wait device asked
  have hrole : ((p.waitFor wait).signing device asked).context.role = p.context.role := rfl
  simp only [answerOf, ownFinishedMac, hrole] at hmac ⊢
  cases hp : finishedMac p.context.role p with
  | ok mac q =>
      rw [hp] at hmac
      rw [answerOf_eq_ok_iff.1 hmac]
  | error e q =>
      rw [hp] at hmac
      rw [answerOf_eq_error_iff.1 hmac]
      rfl

theorem oblivious_addFinished : Oblivious fun ε _ => (addFinished : Engine ε Unit) :=
  oblivious_ownFinishedMac.bind fun _ => (oblivious_orFatal _ _).bind fun message =>
    oblivious_queue message

theorem oblivious_saveClientFinished :
    Oblivious fun ε _ => (saveClientFinished : Engine ε Unit) :=
  ((oblivious_finishedMac _).orAlert _).bind fun _ => oblivious_modifyContext fun _ _ => rfl

end Engine

/-- Asks a device for a signature over what a context signs, or for the one under way. -/
def SigningDevice.ask {σ : Type} [SigningDevice σ] (c : Context) (scheme : SignatureScheme)
    (maxLength : Nat) (device : σ) : SignResult × σ :=
  if c.signaturePending then SigningDevice.complete maxLength device
  else SigningDevice.sign scheme (c.signatureInput c.role) maxLength device

namespace AuthFlow

open Engine

theorem oblivious_sendFinished (role : Role) :
    Oblivious fun ε _ => (sendFinished role : Engine ε Turn) := by
  cases role with
  | client => exact oblivious_addFinished.bind fun _ => oblivious_pure _
  | server =>
      refine oblivious_addFinished.bind fun _ => oblivious_context (fun _ _ => rfl) fun c => ?_
      split
      · exact oblivious_pure _
      · exact oblivious_saveClientFinished.bind fun _ => oblivious_pure _

theorem oblivious_useAnswer (info : SignerInfo) (scheme : SignatureScheme) (answer : SignResult) :
    Oblivious fun ε _ => (useAnswer info scheme answer : Engine ε Turn) := by
  refine (oblivious_modifyContext fun _ _ => rfl).bind fun _ => ?_
  cases answer with
  | retry => exact oblivious_pure _
  | failure => exact oblivious_fatal _ _
  | success signature =>
      dsimp only [sendSignature]
      split
      · exact oblivious_fatal _ _
      · exact (oblivious_orFatal _ _).bind fun message =>
          (oblivious_queue message).bind fun _ => oblivious_pure _

/-! ## The turn that signs -/

variable {ε σ : Type} [Environment ε]

/-- A signature that does not come at once is waited for; else a Finished is next, if nothing
    fails. -/
theorem useAnswer_cases (info : SignerInfo) (scheme : SignatureScheme) (answer : SignResult)
    (p : Endpoint ε) :
    (answer = .retry ∧ useAnswer info scheme answer p
      = .ok (.wait .sendCertificateVerify (.external .privateKeyOperation))
        { p with context := { p.context with signaturePending := true } })
    ∨ answer ≠ .retry ∧ ∃ q, q.context.signaturePending = false
      ∧ ((∃ e, useAnswer info scheme answer p = .error e q)
        ∨ useAnswer info scheme answer p = .ok (.next .sendFinished) q) := by
  cases answer with
  | retry => exact Or.inl ⟨rfl, rfl⟩
  | failure => exact Or.inr ⟨nofun, _, rfl, Or.inl ⟨_, rfl⟩⟩
  | success signature =>
      refine Or.inr ⟨nofun, ?_⟩
      change ∃ q, _ ∧ ((∃ e, sendSignature info scheme signature
        { p with context := { p.context with signaturePending := false } } = _)
        ∨ sendSignature info scheme signature
        { p with context := { p.context with signaturePending := false } } = _)
      by_cases hlength : info.maxLength < signature.length
      · rw [sendSignature, if_pos hlength]
        exact ⟨_, rfl, Or.inl ⟨_, rfl⟩⟩
      rw [sendSignature, if_neg hlength]
      cases CertificateVerify.encode ⟨scheme, signature⟩ with
      | error e => exact ⟨_, rfl, Or.inl ⟨_, rfl⟩⟩
      | ok message =>
          rcases queue_runs message
            { p with context := { p.context with signaturePending := false } } with
            ⟨q, hq, hcontext⟩ | ⟨e, q, hq, hcontext⟩
          · refine ⟨q, by rw [hcontext]; rfl, Or.inr ?_⟩
            exact answerOf_eq_ok_iff.1 (hq.bind (runs_pure (Turn.next .sendFinished))).1
          · refine ⟨q, by rw [hcontext]; rfl, Or.inl ⟨e, ?_⟩⟩
            exact answerOf_eq_error_iff.1
              (hq.bind_error (f := fun _ => pure (Turn.next .sendFinished))).1

/-- How a round ends with a step. -/
def closed : Wait × AuthFlow × Endpoint ε → Option Outcome × AuthFlow × Endpoint ε
  | (wait, flow, p) =>
      let p := p.waitFor wait
      match wait with
      | .error =>
          let (e, p) := p.takeError
          (some (.fatal e), flow, p)
      | .ok => (some .success, flow, p)
      | _ => (none, flow, p)

omit [Environment ε] in
/-- The end of a round changes neither the flow nor whether a signature is under way. -/
theorem closed_eq (wait : Wait) (flow : AuthFlow) (p : Endpoint ε) :
    ∃ outcome q, closed (wait, flow, p) = (outcome, flow, q)
      ∧ q.context.signaturePending = p.context.signaturePending := by
  cases wait <;> exact ⟨_, _, rfl, rfl⟩

theorem round_of_settle {flow : AuthFlow} {p q : Endpoint ε} (hsettle : p.settle = (none, q)) :
    Endpoint.round stage flow p = closed (flow.step q) := by
  rw [Endpoint.round, hsettle]
  rfl

/-- How a round ends with an answer of the signer. -/
def conclude (role : Role) (info : SignerInfo) (scheme : SignatureScheme) (answer : SignResult)
    (p : Endpoint ε) : Option Outcome × AuthFlow × Endpoint ε :=
  match useAnswer info scheme answer p with
  | .ok (.next phase) p => closed (stepFor 1 ⟨role, phase⟩ p)
  | .ok (.wait phase wait) p => closed (wait, ⟨role, phase⟩, p)
  | .error e p =>
      closed (.error, ⟨role, .sendCertificateVerify⟩, { p with context := p.context.fail e })

/-- What something ends with, with a device for the signer. -/
def replaced {α : Type} (device : σ) (asked : History) :
    α × AuthFlow × Endpoint ε → α × AuthFlow × Endpoint (Signing ε σ)
  | (a, flow, p) => (a, flow, p.signing device asked)

omit [Environment ε] in
theorem closed_signing (wait wait' : Wait) (flow : AuthFlow) (p : Endpoint ε)
    (device : σ) (asked : History) :
    closed (wait, flow, (p.waitFor wait').signing device asked)
      = replaced device asked (closed (wait, flow, p)) := by
  cases wait <;> rfl

/-- After Finished an end waits, or has failed. -/
theorem stepFor_sendFinished (turns : Nat) (role : Role) (p : Endpoint ε) :
    stepFor (turns + 1) ⟨role, .sendFinished⟩ p = stepFor 1 ⟨role, .sendFinished⟩ p := by
  obtain ⟨h, answer, q, hruns, hturned⟩ := turn_listed ⟨role, .sendFinished⟩ p
  rcases answer with e | ⟨phase⟩ | ⟨phase, wait⟩
  · simp only [stepFor, answerOf_eq_error_iff.1 hruns.1]
  · cases hturned
  · simp only [stepFor, answerOf_eq_ok_iff.1 hruns.1]

section Conclude

variable [SigningDevice σ] {role : Role} {info : SignerInfo} {scheme : SignatureScheme}
  {answer : SignResult} {p : Endpoint ε}

theorem closed_stepFor_sendFinished (role : Role) (p : Endpoint ε) (wait : Wait) (device : σ)
    (asked : History) :
    closed (stepFor 1 ⟨role, .sendFinished⟩ ((p.waitFor wait).signing device asked))
      = replaced device asked (closed (stepFor 1 ⟨role, .sendFinished⟩ p)) := by
  have hturn := oblivious_sendFinished role ε σ p wait device asked
  simp only [answerOf] at hturn
  simp only [stepFor, turn]
  cases hp : (sendFinished role : Engine ε Turn) p with
  | ok answer q =>
      rw [hp] at hturn
      rw [answerOf_eq_ok_iff.1 hturn]
      cases answer with
      | next phase => rfl
      | wait phase wait' => exact closed_signing _ _ _ q device asked
  | error e q =>
      rw [hp] at hturn
      rw [answerOf_eq_error_iff.1 hturn]
      rfl

/-- How a round ends with an answer of the signer does not depend on which device has given it. -/
theorem conclude_signing (role : Role) (info : SignerInfo) (scheme : SignatureScheme)
    (answer : SignResult) (p : Endpoint ε) (wait : Wait) (device : σ) (asked : History) :
    conclude role info scheme answer ((p.waitFor wait).signing device asked)
      = replaced device asked (conclude role info scheme answer p) := by
  have huse := oblivious_useAnswer info scheme answer ε σ p wait device asked
  simp only [answerOf] at huse
  rcases useAnswer_cases info scheme answer p with ⟨rfl, -⟩ | ⟨-, q, -, ⟨e, hq⟩ | hq⟩
  · rfl
  · rw [hq] at huse
    rw [conclude, conclude, answerOf_eq_error_iff.1 huse, hq]
    rfl
  · rw [hq] at huse
    rw [conclude, conclude, answerOf_eq_ok_iff.1 huse, hq]
    exact closed_stepFor_sendFinished role q wait device asked

/-- Nor does it depend on whether the signer had put its answer off. -/
theorem conclude_pending (role : Role) (info : SignerInfo) (scheme : SignatureScheme)
    (answer : SignResult) (p : Endpoint ε) (pending : Bool) :
    conclude role info scheme answer
        { p with context := { p.context with signaturePending := pending } }
      = conclude role info scheme answer p := rfl

omit [SigningDevice σ] in
/-- An answer that is not put off ends the call, or the flight goes on past signing. -/
theorem conclude_cases (role : Role) (info : SignerInfo) (scheme : SignatureScheme)
    (hanswer : answer ≠ .retry) (p : Endpoint ε) :
    ∃ outcome phase q, conclude role info scheme answer p = (outcome, ⟨role, phase⟩, q)
      ∧ q.context.signaturePending = false
      ∧ (outcome = none → rank role phase < rank role .sendCertificateVerify) := by
  rcases useAnswer_cases info scheme answer p with ⟨rfl, -⟩ | ⟨-, q, hpending, ⟨e, hq⟩ | hq⟩
  · exact absurd rfl hanswer
  · rw [conclude, hq]
    exact ⟨_, _, _, rfl, hpending, nofun⟩
  · rw [conclude, hq]
    obtain ⟨h, answer, q', hruns, hturned⟩ := turn_listed ⟨role, .sendFinished⟩ q
    have hkept := (Turned.unsigned hturned nofun).2.trans hpending
    rcases answer with e | ⟨phase⟩ | ⟨phase, wait⟩
    · simp only [stepFor, answerOf_eq_error_iff.1 hruns.1]
      exact ⟨_, _, _, rfl, hkept, nofun⟩
    · cases hturned
    · simp only [stepFor, answerOf_eq_ok_iff.1 hruns.1]
      have hlt : rank role phase < rank role .sendCertificateVerify :=
        Nat.lt_of_le_of_lt (Advance.rank_le hturned) (by cases role <;> decide)
      cases wait <;> exact ⟨_, _, _, rfl, hkept, fun _ => hlt⟩

theorem closed_stepFor_of_turn {p' : Endpoint ε} {turns : Nat} (hturns : 1 < turns)
    (hturn : turn ⟨role, .sendCertificateVerify⟩ p = useAnswer info scheme answer p') :
    closed (stepFor turns ⟨role, .sendCertificateVerify⟩ p)
      = conclude role info scheme answer p' := by
  obtain ⟨turns, rfl⟩ : ∃ more, turns = more + 1 + 1 := ⟨turns - 2, by omega⟩
  rw [stepFor, hturn, conclude]
  rcases useAnswer_cases info scheme answer p' with ⟨rfl, hq⟩ | ⟨-, q, -, ⟨e, hq⟩ | hq⟩
  · rw [hq]
  · rw [hq]
  · rw [hq]
    exact congrArg closed (stepFor_sendFinished turns role q)

/-- A turn that has a scheme asks the device, and goes by its answer. -/
theorem turn_signing {device device' : σ} (hinfo : SigningDevice.info device = info)
    (hscheme : p.context.config.signaturePolicy.choose? info.schemes p.context.peerSchemes
      = some scheme)
    (hask : SigningDevice.ask p.context scheme info.maxLength device = (answer, device'))
    (asked : History) :
    turn ⟨role, .sendCertificateVerify⟩ (p.signing device asked)
      = useAnswer info scheme answer (p.signing device'
        (asked ++ [p.context.signingEvent scheme info.maxLength answer])) := by
  have hsigner : Environment.signer? (p.signing device asked).environment = some info :=
    congrArg some hinfo
  rw [sendCertificateVerify_eq role hsigner hscheme]
  simp only [Bind.bind, EStateM.bind, askSigner, Context.signingEvent, SigningDevice.ask] at hask ⊢
  have hcontext : (p.signing device asked).context = p.context := rfl
  rw [hcontext]
  cases hpending : p.context.signaturePending with
  | true =>
      rw [hpending] at hask
      simp only [if_true] at hask
      simp [performPure, Endpoint.signing, Environment.completeSignature, hask]
  | false =>
      rw [hpending] at hask
      simp only [Bool.false_eq_true, if_false] at hask
      simp [performPure, Endpoint.signing, Environment.sign, hask]

/-- A round that comes to sign ends by the answer of the device. -/
theorem closed_stepFor_signing {turns : Nat} (hturns : 1 < turns) {device device' : σ}
    (hinfo : SigningDevice.info device = info)
    (hscheme : p.context.config.signaturePolicy.choose? info.schemes p.context.peerSchemes
      = some scheme)
    (hask : SigningDevice.ask p.context scheme info.maxLength device = (answer, device'))
    (wait : Wait) (asked : History) :
    closed (stepFor turns ⟨role, .sendCertificateVerify⟩ ((p.waitFor wait).signing device asked))
      = replaced device' (asked ++ [p.context.signingEvent scheme info.maxLength answer])
        (conclude role info scheme answer p) := by
  have hturn : turn ⟨role, .sendCertificateVerify⟩ ((p.waitFor wait).signing device asked)
      = useAnswer info scheme answer ((p.waitFor wait).signing device'
        (asked ++ [p.context.signingEvent scheme info.maxLength answer])) :=
    turn_signing (p := p.waitFor wait) hinfo hscheme hask asked
  exact (closed_stepFor_of_turn hturns hturn).trans
    (conclude_signing role info scheme answer p wait device' _)

end Conclude

end AuthFlow

end TlsHandshake
