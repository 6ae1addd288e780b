import TlsHandshake.Memory.Station
import TlsHandshake.Proofs.Flight.Traces
import TlsHandshake.Proofs.Suspension

set_option autoImplicit false

/-! # Surroundings with another signer

`Signing ε σ` are the surroundings `ε` with a device in the place of their signer and a record of
what the device is asked. Only the turn that sends CertificateVerify asks it. Main statement:
`stepFor_spared_or_ready`, a step either leaves every device alone, or it comes to that turn, at an
endpoint that does not depend on the device. -/

namespace TlsHandshake

/-! ## Surroundings -/

/-- Surroundings with a device for the signer, and what the device has been asked, with its
    answers. -/
structure Signing (ε σ : Type) where
  environment : ε
  device : σ
  asked : History

namespace Signing

variable {ε σ α : Type}

/-- Does something in the surroundings that has nothing to do with the signer. -/
def pass (act : EStateM Error ε α) : EStateM Error (Signing ε σ) α := fun d =>
  match act d.environment with
  | .ok a e => .ok a { d with environment := e }
  | .error err e => .error err { d with environment := e }

instance [Environment ε] [SigningDevice σ] : Environment (Signing ε σ) where
  flushFlight := pass Environment.flushFlight
  expectFlight d := { d with environment := Environment.expectFlight d.environment }
  readMessage := pass Environment.readMessage
  readChangeCipherSpec := pass Environment.readChangeCipherSpec
  addMessage m := pass (Environment.addMessage m)
  sendAlert a d := { d with environment := Environment.sendAlert a d.environment }
  finishedMac sender transcriptHash := pass (Environment.finishedMac sender transcriptHash)
  rotateTrafficKey direction := pass (Environment.rotateTrafficKey direction)
  signer? d := some (SigningDevice.info d.device)
  sign scheme input maxLength d :=
    let (answer, device) := SigningDevice.sign scheme input maxLength d.device
    (answer, ⟨d.environment, device, d.asked ++ [.signed scheme input maxLength answer]⟩)
  completeSignature maxLength d :=
    let (answer, device) := SigningDevice.complete maxLength d.device
    (answer, ⟨d.environment, device, d.asked ++ [.completedSignature maxLength answer]⟩)
  handlesTickets d := Environment.handlesTickets d.environment
  storeTicket body session := pass (Environment.storeTicket body session)

theorem answerOf_pass (act : EStateM Error ε α) (d : Signing ε σ) :
    answerOf (pass act) d
      = ((answerOf act d.environment).1,
        { d with environment := (answerOf act d.environment).2 }) := by
  simp only [answerOf, pass]
  cases act d.environment <;> rfl

end Signing

/-- A description of a signer, as a device that fails to sign. -/
instance : SigningDevice SignerInfo where
  info := id
  sign _ _ _ info := (.failure, info)
  complete _ info := (.failure, info)

/-- The endpoint with a device for its signer. -/
def Endpoint.signing {ε σ : Type} (p : Endpoint ε) (device : σ) (asked : History) :
    Endpoint (Signing ε σ) := ⟨p.context, ⟨p.environment, device, asked⟩⟩

section Devices

variable {ε σ ρ α : Type} [Environment ε] [SigningDevice σ] [SigningDevice ρ]

/-- Only the signer's own events change the device and the record. -/
theorem Event.Effect.signing {d d' : Signing ε σ} {event : Event} (heffect : event.Effect d d')
    (hunsigned : ¬ event.IsSigning) : d'.device = d.device ∧ d'.asked = d.asked := by
  have hpass : ∀ {β : Type} {act : EStateM Error ε β} {answer : Except Error β},
      answerOf (Signing.pass act) d = (answer, d') → d'.device = d.device ∧ d'.asked = d.asked := by
    intro β act answer h
    rw [Signing.answerOf_pass] at h
    rw [← (Prod.mk.inj h).2]
    exact ⟨rfl, rfl⟩
  cases event with
  | flushed | read | readChangeCipherSpec | queued | computedMac | rotated | storedTicket =>
      exact hpass heffect
  | flightExpected | alerted =>
      obtain rfl := heffect
      exact ⟨rfl, rfl⟩
  | signed | completedSignature => exact absurd trivial hunsigned

theorem signing_of_performs {d d' : Signing ε σ} {h : History} (hperforms : Performs d h d')
    (hunsigned : ∀ event ∈ h, ¬ event.IsSigning) : d'.device = d.device ∧ d'.asked = d.asked :=
  hperforms.preserves (fun e => e.device = d.device ∧ e.asked = d.asked)
    (fun event hmem _ _ heffect ⟨hdevice, hasked⟩ =>
      have hkept := heffect.signing (hunsigned event hmem)
      ⟨hkept.1.trans hdevice, hkept.2.trans hasked⟩) ⟨rfl, rfl⟩

/-! ## Routines -/

/-- The record of a device grows. -/
theorem Routine.asked_le (routine : Routine α) (d : Signing ε σ) :
    d.asked.length ≤ (routine.run d).2.asked.length := by
  induction routine generalizing d with
  | done a => exact Nat.le_refl _
  | ask service next ih =>
      refine Nat.le_trans ?_ (ih _ _)
      cases service with
      | queue | computeMac | rotate =>
          simp only [Environment.addMessage, Environment.finishedMac, Environment.rotateTrafficKey,
            Signing.answerOf_pass, Nat.le_refl]
      | alert | signer => exact Nat.le_refl _
      | sign | completeSignature =>
          simp only [Environment.sign, Environment.completeSignature, List.length_append]
          exact Nat.le_add_right _ _

/-- A routine that does not ask the device does the same with every device that describes itself the
    same way. -/
theorem Routine.run_of_unasked (routine : Routine α) {e : ε} {s : ρ} {asked : History}
    (hunasked : (routine.run (⟨e, s, asked⟩ : Signing ε ρ)).2.asked = asked) (t : σ)
    (asked' : History) (hinfo : SigningDevice.info t = SigningDevice.info s) :
    routine.run (⟨e, t, asked'⟩ : Signing ε σ)
      = ((routine.run (⟨e, s, asked⟩ : Signing ε ρ)).1,
        ⟨(routine.run (⟨e, s, asked⟩ : Signing ε ρ)).2.environment, t, asked'⟩) := by
  induction routine generalizing e with
  | done a => rfl
  | ask service next ih =>
      cases service with
      | queue | computeMac | rotate =>
          simp only [run, Service.perform, Environment.addMessage, Environment.finishedMac,
            Environment.rotateTrafficKey, Signing.answerOf_pass] at hunasked ⊢
          exact ih _ hunasked
      | alert =>
          simp only [run, Service.perform, Environment.sendAlert] at hunasked ⊢
          exact ih _ hunasked
      | signer =>
          simp only [run, Service.perform, Environment.signer?, hinfo] at hunasked ⊢
          exact ih _ hunasked
      | sign scheme input maxLength =>
          -- the record would have grown
          have hle := (next (SigningDevice.sign scheme input maxLength s).1).asked_le
            (⟨e, (SigningDevice.sign scheme input maxLength s).2, asked ++ [.signed scheme input
              maxLength (SigningDevice.sign scheme input maxLength s).1]⟩ : Signing ε ρ)
          simp only [run, Service.perform, Environment.sign] at hunasked
          rw [hunasked, List.length_append, List.length_singleton] at hle
          omega
      | completeSignature maxLength =>
          have hle := (next (SigningDevice.complete maxLength s).1).asked_le
            (⟨e, (SigningDevice.complete maxLength s).2, asked ++ [.completedSignature maxLength
              (SigningDevice.complete maxLength s).1]⟩ : Signing ε ρ)
          simp only [run, Service.perform, Environment.completeSignature] at hunasked
          rw [hunasked, List.length_append, List.length_singleton] at hle
          omega

theorem Program.run_of_unasked (program : Program α) {p : Endpoint ε} {s : ρ} {asked : History}
    (hunasked : (program.run (p.signing s asked)).2.environment.asked = asked) (t : σ)
    (asked' : History) (hinfo : SigningDevice.info t = SigningDevice.info s) :
    program.run (p.signing t asked')
      = ((program.run (p.signing s asked)).1,
        Endpoint.signing ⟨(program.run (p.signing s asked)).2.context,
          (program.run (p.signing s asked)).2.environment.environment⟩ t asked') := by
  have hrun := (program p.context).run_of_unasked hunasked t asked' hinfo
  simp only [Program.run, Endpoint.signing, hrun]

/-! ## Waits -/

namespace Endpoint

theorem poll_signing {wait : IoWait} (act : EStateM Error ε (Awaited α))
    (onReady : α → Context → Context) (p : Endpoint ε) (device : σ) (asked : History) :
    (p.signing device asked).poll wait (Signing.pass act) onReady
      = ((p.poll wait act onReady).1, (p.poll wait act onReady).2.signing device asked) := by
  simp only [poll, Engine.perform, Signing.pass, signing]
  cases act p.environment with
  | ok a e => cases a <;> rfl
  | error err e =>
      simp only [Engine.reportTransport]
      cases Engine.transportAlert? err <;> rfl

theorem flush_signing (p : Endpoint ε) (device : σ) (asked : History) :
    (p.signing device asked).flush = (p.flush.1, p.flush.2.signing device asked) :=
  poll_signing Environment.flushFlight _ p device asked

theorem read_signing (p : Endpoint ε) (device : σ) (asked : History) :
    (p.signing device asked).read = (p.read.1, p.read.2.signing device asked) :=
  poll_signing Environment.readMessage _ p device asked

/-- Settling a wait has nothing to do with the device. -/
theorem settle_signing (p : Endpoint ε) (device : σ) (asked : History) :
    (p.signing device asked).settle = (p.settle.1, p.settle.2.signing device asked) := by
  cases hwait : p.context.wait with
  | flush =>
      rw [settle_of_flush hwait, settle_of_flush (p := p.signing device asked) hwait, flush_signing]
  | readMessage =>
      rw [settle_of_read hwait, settle_of_read (p := p.signing device asked) hwait, read_signing]
  | readChangeCipherSpec =>
      rw [settle_of_readChangeCipherSpec hwait,
        settle_of_readChangeCipherSpec (p := p.signing device asked) hwait]
      exact poll_signing Environment.readChangeCipherSpec _ p device asked
  | flushAndReadMessage =>
      rw [settle_of_flushAndRead hwait, settle_of_flushAndRead (p := p.signing device asked) hwait,
        flush_signing]
      rcases p.flush with ⟨_ | outcome, flushed⟩
      · exact read_signing flushed.expecting device asked
      · rfl
  | readEndOfEarlyData =>
      cases hearly : p.context.canReadEarly <;> simp [settle, signing, waitFor, hwait, hearly]
  | _ => simp only [settle, signing, waitFor, hwait]

end Endpoint

/-! ## Turns -/

namespace AuthFlow

/-- Only the turn that signs, which takes a signer and a scheme, has to do with the signer. -/
theorem Turned.unsigned {role : Role} {signer? : Option SignerInfo} {phase : Phase} {c c' : Context}
    {h : History} {answer : Except Error Turn} (hturned : Turned role signer? phase c h answer c')
    (hquiet : phase = .sendCertificateVerify → ∀ info, signer? = some info →
      c.config.signaturePolicy.choose? info.schemes c.peerSchemes = none) :
    (∀ event ∈ h, ¬ event.IsSigning) ∧ c'.signaturePending = c.signaturePending := by
  have hsigns : ∀ {info : SignerInfo} {scheme : SignatureScheme}, signer? = some info →
      c.config.signaturePolicy.choose? info.schemes c.peerSchemes = some scheme →
      phase ≠ .sendCertificateVerify := by
    intro info scheme hsigner hscheme hphase
    cases (hquiet hphase info hsigner).symm.trans hscheme
  cases answer with
  | ok turn =>
      cases hturned with
      | signatureDelayed hsigner hscheme | signatureSent hsigner hscheme =>
          exact absurd rfl (hsigns hsigner hscheme)
      | _ => simp [Event.IsSigning]
  | error e =>
      cases hturned with
      | signatureFailed hsigner hscheme | signatureTooLong hsigner hscheme
      | signatureUnencodable hsigner hscheme | signatureUnqueued hsigner hscheme =>
          exact absurd rfl (hsigns hsigner hscheme)
      | _ => simp [Event.IsSigning]

/-- A turn that does not sign leaves every device alone. -/
theorem turn_spared (flow : AuthFlow) (p : Endpoint ε) (info : SignerInfo)
    (hquiet : flow.phase = .sendCertificateVerify →
      p.context.config.signaturePolicy.choose? info.schemes p.context.peerSchemes = none) :
    ∃ (h : History) (answer : Except Error Turn) (q : Endpoint ε),
      Turned flow.role (some info) flow.phase p.context h answer q.context
      ∧ q.context.signaturePending = p.context.signaturePending
      ∧ ∀ {σ : Type} [SigningDevice σ] (device : σ) (asked : History),
        SigningDevice.info device = info →
        answerOf flow.turn (p.signing device asked) = (answer, q.signing device asked) := by
  obtain ⟨h, answer, q, hruns, hturned⟩ := turn_listed flow (p.signing info [])
  obtain ⟨hunsigned, hpending⟩ := Turned.unsigned hturned fun hphase info' hinfo => by
    rw [← Option.some.inj hinfo]
    exact hquiet hphase
  obtain ⟨-, hasked⟩ := signing_of_performs hruns.2 hunsigned
  -- the turn is one routine, whatever the device
  obtain ⟨program, hprogram⟩ := programmed_turn flow
  have hanswer : program.run (p.signing info []) = (answer, q) := (hprogram _ _).symm.trans hruns.1
  have hunasked : (program.run (p.signing info [])).2.environment.asked = [] := by
    rw [hanswer]
    exact hasked
  refine ⟨h, answer, ⟨q.context, q.environment.environment⟩, hturned, hpending, ?_⟩
  intro σ _ device asked hinfo
  rw [hprogram, program.run_of_unasked hunasked device asked hinfo, hanswer]

/-- A flow comes to sign at `q` on its way from `p`, with a scheme in common with the peer. -/
structure ReadyToSign (info : SignerInfo) (role : Role) (phase : Phase) (p q : Endpoint ε) :
    Prop where
  scheme : ∃ scheme,
    q.context.config.signaturePolicy.choose? info.schemes q.context.peerSchemes = some scheme
  pending : q.context.signaturePending = p.context.signaturePending
  rank_le : rank role .sendCertificateVerify ≤ rank role phase

/-- A turn that waits does not go back in the order of the role. -/
theorem Advance.rank_le {role : Role} {signer? : Option SignerInfo} {phase phase' : Phase}
    {c c' : Context} {h : History} {wait : Wait}
    (hadvance : Advance role signer? phase c h (.wait phase' wait) c') :
    rank role phase' ≤ rank role phase := by
  rcases hadvance.wait_cases with ⟨-, rfl, -⟩ | ⟨hlt, -⟩ | ⟨rfl, -⟩ | ⟨rfl, -⟩
  · exact Nat.le_refl _
  · exact Nat.le_of_lt hlt
  · exact Nat.le_refl _
  · exact Nat.le_refl _

/-- A step leaves every device alone, or it comes to sign. -/
theorem stepFor_spared_or_ready (info : SignerInfo) (role : Role) {turns : Nat} {phase : Phase}
    {p : Endpoint ε} (hturns : rank role phase < turns) :
    (∃ (wait : Wait) (phase' : Phase) (q : Endpoint ε),
      q.context.signaturePending = p.context.signaturePending
      ∧ rank role phase' ≤ rank role phase
      ∧ ∀ {σ : Type} [SigningDevice σ] (device : σ) (asked : History),
        SigningDevice.info device = info →
        stepFor turns ⟨role, phase⟩ (p.signing device asked)
          = (wait, ⟨role, phase'⟩, q.signing device asked))
    ∨ ∃ (more : Nat) (q : Endpoint ε), ReadyToSign info role phase p q
      ∧ rank role .sendCertificateVerify < more
      ∧ ∀ {σ : Type} [SigningDevice σ] (device : σ) (asked : History),
        SigningDevice.info device = info →
        stepFor turns ⟨role, phase⟩ (p.signing device asked)
          = stepFor more ⟨role, .sendCertificateVerify⟩ (q.signing device asked) := by
  induction turns generalizing phase p with
  | zero => exact absurd hturns (Nat.not_lt_zero _)
  | succ turns ih =>
      by_cases hready : phase = .sendCertificateVerify ∧ ∃ scheme,
        p.context.config.signaturePolicy.choose? info.schemes p.context.peerSchemes = some scheme
      · obtain ⟨rfl, hscheme⟩ := hready
        exact Or.inr ⟨turns + 1, p, ⟨hscheme, rfl, Nat.le_refl _⟩, hturns, fun _ _ _ => rfl⟩
      obtain ⟨h, answer, q, hturned, hpending, hturn⟩ := turn_spared ⟨role, phase⟩ p info
        fun hphase => Option.eq_none_iff_forall_ne_some.2 fun scheme hscheme =>
          hready ⟨hphase, scheme, hscheme⟩
      rcases answer with e | ⟨phase'⟩ | ⟨phase', wait⟩
      · refine Or.inl ⟨.error, phase, { q with context := q.context.fail e }, hpending,
          Nat.le_refl _, fun device asked hinfo => ?_⟩
        simp only [stepFor, answerOf_eq_error_iff.1 (hturn device asked hinfo)]
        rfl
      · -- the turn goes on in a later phase, for which the remaining turns are enough
        have hlt : rank role phase' < rank role phase := Advance.rank_lt hturned
        have hnext : ∀ {σ : Type} [SigningDevice σ] (device : σ) (asked : History),
            SigningDevice.info device = info →
            stepFor (turns + 1) ⟨role, phase⟩ (p.signing device asked)
              = stepFor turns ⟨role, phase'⟩ (q.signing device asked) := by
          intro σ _ device asked hinfo
          simp only [stepFor, answerOf_eq_ok_iff.1 (hturn device asked hinfo)]
        rcases ih (Nat.lt_of_lt_of_le hlt (Nat.le_of_lt_succ hturns)) with
          ⟨wait, phase'', r, hpending', hle, hrest⟩ | ⟨more, r, hready', hmore, hrest⟩
        · exact Or.inl ⟨wait, phase'', r, hpending'.trans hpending,
            Nat.le_trans hle (Nat.le_of_lt hlt),
            fun device asked hinfo => (hnext device asked hinfo).trans (hrest device asked hinfo)⟩
        · exact Or.inr ⟨more, r, ⟨hready'.scheme, hready'.pending.trans hpending,
            Nat.le_trans hready'.rank_le (Nat.le_of_lt hlt)⟩, hmore,
            fun device asked hinfo => (hnext device asked hinfo).trans (hrest device asked hinfo)⟩
      · refine Or.inl ⟨wait, phase', q, hpending, Advance.rank_le hturned,
          fun device asked hinfo => ?_⟩
        simp only [stepFor, answerOf_eq_ok_iff.1 (hturn device asked hinfo)]

end AuthFlow

end Devices

end TlsHandshake
