import TlsHandshake.Proofs.Authentication
import TlsHandshake.Proofs.Calls
import TlsHandshake.Proofs.Signer.Concluding

set_option autoImplicit false

/-! # Slow signers

A signer may put its answer off. Then the call of `handshake` ends, and the next call asks again.
Main statement: `Connection.slow_signing`, when the answer comes everything is as if it had come at
once. -/

namespace TlsHandshake

/-! ## Devices that put their answer off -/

section Devices

variable {σ : Type} [SigningDevice σ]

/-- A device puts off `n` times how the signature that is under way has come out, and then gives
    this answer. It describes itself as `info` all the time. -/
inductive Completes (info : SignerInfo) (answer : SignResult) : Nat → σ → Prop
  | now {device device' : σ} (hinfo : SigningDevice.info device = info)
      (hanswer : SigningDevice.complete info.maxLength device = (answer, device'))
      (hinfo' : SigningDevice.info device' = info) : Completes info answer 0 device
  | later {n : Nat} {device device' : σ} (hinfo : SigningDevice.info device = info)
      (hretry : SigningDevice.complete info.maxLength device = (.retry, device'))
      (hrest : Completes info answer n device') : Completes info answer (n + 1) device

/-- A device puts its answer off `n` times, first when it is asked to sign and then when it is asked
    how the signature has come out, and then gives the answer of `result` for what it was asked to
    sign. -/
inductive Signs (info : SignerInfo) (result : SignatureScheme → Bytes → SignResult) :
    Nat → σ → Prop
  | now {device : σ} (hinfo : SigningDevice.info device = info)
      (hanswer : ∀ scheme input, ∃ device', SigningDevice.info device' = info
        ∧ SigningDevice.sign scheme input info.maxLength device = (result scheme input, device')) :
      Signs info result 0 device
  | later {n : Nat} {device : σ} (hinfo : SigningDevice.info device = info)
      (hretry : ∀ scheme input, ∃ device', Completes info (result scheme input) n device'
        ∧ SigningDevice.sign scheme input info.maxLength device = (.retry, device')) :
      Signs info result (n + 1) device

theorem Signs.info {info : SignerInfo} {result : SignatureScheme → Bytes → SignResult} {n : Nat}
    {device : σ} (h : Signs info result n device) : SigningDevice.info device = info := by
  cases h <;> assumption

end Devices

/-- What a device is asked when it puts its answer off `n` times: to sign once, and `n` times how the
    signature has come out. -/
def History.signing (scheme : SignatureScheme) (input : Bytes) (maxLength : Nat)
    (answer : SignResult) : Nat → History
  | 0 => [.signed scheme input maxLength answer]
  | n + 1 => .signed scheme input maxLength .retry
      :: (List.replicate n (.completedSignature maxLength .retry)
        ++ [.completedSignature maxLength answer])

theorem History.signing_retry (scheme : SignatureScheme) (input : Bytes) (maxLength n : Nat) :
    History.signing scheme input maxLength .retry n = .signed scheme input maxLength .retry
      :: List.replicate n (.completedSignature maxLength .retry) := by
  cases n with
  | zero => rfl
  | succ n => rw [signing, List.replicate_succ']

/-! ## Calls of `drive` -/

namespace AuthFlow

variable {ε σ : Type} [Environment ε]

open Endpoint

/-- Rounds of a flow leave every device alone, or they come to sign. -/
theorem driveFor_spared_or_ready (info : SignerInfo) (role : Role) (rounds : Nat) (phase : Phase)
    (p : Endpoint ε) :
    (∃ (outcome : Option Outcome) (phase' : Phase) (q : Endpoint ε),
      q.context.signaturePending = p.context.signaturePending
      ∧ ∀ {σ : Type} [SigningDevice σ] (device : σ) (asked : History),
        SigningDevice.info device = info →
        driveFor stage rounds ⟨role, phase⟩ (p.signing device asked)
          = (outcome, ⟨role, phase'⟩, q.signing device asked))
    ∨ ∃ (more : Nat) (q : Endpoint ε), ReadyToSign info role phase p q ∧ q.context.wait = .ok
      ∧ ∀ {σ : Type} [SigningDevice σ] (device : σ) (asked : History),
        SigningDevice.info device = info →
        driveFor stage rounds ⟨role, phase⟩ (p.signing device asked)
          = driveFor stage more ⟨role, .sendCertificateVerify⟩ (q.signing device asked) := by
  induction rounds generalizing phase p with
  | zero => exact Or.inl ⟨none, phase, p, rfl, fun _ _ _ => rfl⟩
  | succ rounds ih =>
      obtain ⟨g, hsettled⟩ := settle_settled p
      have hkept : p.settle.2.context.signaturePending = p.context.signaturePending :=
        hsettled.1.sameFlight.signaturePending
      rcases hsettle : p.settle with ⟨_ | outcome, q⟩ <;> rw [hsettle] at hkept
      case some =>
        refine Or.inl ⟨some outcome, phase, q, hkept, fun {σ} _ device asked _ => ?_⟩
        rw [driveFor_succ, Endpoint.round, settle_signing, hsettle]
      have hround : ∀ {σ : Type} [SigningDevice σ] (device : σ) (asked : History),
          Endpoint.round stage ⟨role, phase⟩ (p.signing device asked)
            = closed (step ⟨role, phase⟩ (q.signing device asked)) :=
        fun device asked => round_of_settle (by rw [settle_signing, hsettle])
      rcases stepFor_spared_or_ready (p := q) info role (Nat.lt_succ_self (rank role phase)) with
        ⟨wait, phase', q', hpending, hle, hstep⟩ | ⟨turns, q', hready, hturns, hstep⟩
      · obtain ⟨outcome, r, hclosed, hr⟩ := closed_eq wait ⟨role, phase'⟩ q'
        have hkept : r.context.signaturePending = p.context.signaturePending :=
          hr.trans (hpending.trans hkept)
        have hends : ∀ {σ : Type} [SigningDevice σ] (device : σ) (asked : History),
            SigningDevice.info device = info →
            Endpoint.round stage ⟨role, phase⟩ (p.signing device asked)
              = (outcome, ⟨role, phase'⟩, r.signing device asked) := by
          intro σ _ device asked hinfo
          have hsame := closed_signing wait q'.context.wait ⟨role, phase'⟩ q' device asked
          rw [hclosed] at hsame
          rw [hround, step, hstep device asked hinfo]
          exact hsame
        cases outcome with
        | some outcome =>
            refine Or.inl ⟨some outcome, phase', r, hkept, fun device asked hinfo => ?_⟩
            rw [driveFor_succ, hends device asked hinfo]
        | none =>
            have hmore : ∀ {σ : Type} [SigningDevice σ] (device : σ) (asked : History),
                SigningDevice.info device = info →
                driveFor stage (rounds + 1) ⟨role, phase⟩ (p.signing device asked)
                  = driveFor stage rounds ⟨role, phase'⟩ (r.signing device asked) := by
              intro σ _ device asked hinfo
              rw [driveFor_succ, hends device asked hinfo]
            rcases ih phase' r with ⟨outcome, phase'', t, ht, hrest⟩ | ⟨more, t, ht, hwait, hrest⟩
            · exact Or.inl ⟨outcome, phase'', t, ht.trans hkept, fun device asked hinfo =>
                (hmore device asked hinfo).trans (hrest device asked hinfo)⟩
            · exact Or.inr ⟨more, t, ⟨ht.scheme, ht.pending.trans hkept,
                Nat.le_trans ht.rank_le hle⟩, hwait, fun device asked hinfo =>
                (hmore device asked hinfo).trans (hrest device asked hinfo)⟩
      · -- what was waited for before does not matter for a step that signs
        obtain ⟨scheme, hscheme⟩ := hready.scheme
        have hrank : 0 < rank role .sendCertificateVerify := by cases role <;> decide
        refine Or.inr ⟨rounds + 1, q'.waitFor .ok, ⟨⟨scheme, hscheme⟩, hready.pending.trans hkept,
          hready.rank_le⟩, rfl, fun {σ} _ device asked hinfo => ?_⟩
        have hsame : Endpoint.round stage ⟨role, phase⟩ (p.signing device asked)
            = Endpoint.round stage ⟨role, .sendCertificateVerify⟩
              ((q'.waitFor .ok).signing device asked) := by
          rw [hround, step, hstep device asked hinfo, round_of_settle rfl, step]
          exact (closed_stepFor_signing (Nat.lt_of_le_of_lt hrank hturns) hinfo hscheme rfl
            q'.context.wait asked).trans
            (closed_stepFor_signing (Nat.lt_succ_of_le hrank) hinfo hscheme rfl .ok asked).symm
        rw [driveFor_succ, driveFor_succ, hsame]

/-- Calls that have the same rounds ahead do the same. -/
theorem drive_eq_of_driveFor {flow flow' : AuthFlow} {p p' : Endpoint ε} {rounds : Nat}
    (h : driveFor stage 6 flow p = driveFor stage rounds flow' p') :
    drive stage flow p = drive stage flow' p' := by
  have hreturns : ∀ (flow : AuthFlow) (p : Endpoint ε), ∃ outcome flow' q,
      driveFor stage 6 flow p = (some outcome, flow', q) := by
    intro flow p
    obtain ⟨_, outcome, phase, q, hdrive, _⟩ := driveFor_drives flow.role 6 flow.phase p
      (Nat.le_trans (roundsAfter_le _ _ _ _) (by decide))
    exact ⟨outcome, _, q, hdrive⟩
  obtain ⟨outcome, flow₁, q, hdrive⟩ := hreturns flow p
  obtain ⟨outcome', flow₂, q', hdrive'⟩ := hreturns flow' p'
  obtain ⟨rfl, rfl, rfl⟩ := driveFor_unique hdrive' (h.symm.trans hdrive)
  rw [drive_of_driveFor hdrive (Nat.le_refl 6), drive_of_driveFor hdrive' (Nat.le_refl 6)]

theorem drive_of_rounds {flow flow' : AuthFlow} {p q : Endpoint ε} {outcome : Option Outcome}
    (h : driveFor stage 6 flow p = (outcome, flow', q)) :
    drive stage flow p = (outcome.getD (.fatal .handshakeFailure), flow', q) := by
  change (match driveFor stage 6 flow p with
    | (outcome, s, p) => (outcome.getD (.fatal .handshakeFailure), s, p)) = _
  rw [h]

section Asked

variable {info : SignerInfo} {role : Role} {scheme : SignatureScheme} {answer : SignResult}
  {p : Endpoint ε}

/-- A round from where a flow signs ends by the answer of the device. -/
theorem round_of_ask [SigningDevice σ] (role : Role) (hwait : p.context.wait = .ok)
    (hscheme : p.context.config.signaturePolicy.choose? info.schemes p.context.peerSchemes
      = some scheme) {device device' : σ} (hinfo : SigningDevice.info device = info)
    (hask : SigningDevice.ask p.context scheme info.maxLength device = (answer, device'))
    (asked : History) :
    Endpoint.round stage ⟨role, .sendCertificateVerify⟩ (p.signing device asked)
      = replaced device' (asked ++ [p.context.signingEvent scheme info.maxLength answer])
        (conclude role info scheme answer p) := by
  have hsettle : (p.signing device asked).settle = (none, p.signing device asked) := by
    rw [settle_signing, settle, hwait]
  have hturns : 1 < rank role .sendCertificateVerify + 1 := by cases role <;> decide
  rw [round_of_settle hsettle]
  exact closed_stepFor_signing hturns hinfo hscheme hask p.context.wait asked

/-- A call that gets no answer from the device ends, and leaves all as it is for the next one. -/
theorem drive_of_retry [SigningDevice σ] (role : Role) (hwait : p.context.wait = .ok)
    (hscheme : p.context.config.signaturePolicy.choose? info.schemes p.context.peerSchemes
      = some scheme) {device device' : σ} (hinfo : SigningDevice.info device = info)
    (hask : SigningDevice.ask p.context scheme info.maxLength device = (.retry, device'))
    (asked : History) :
    drive stage ⟨role, .sendCertificateVerify⟩ (p.signing device asked)
      = (.needsExternal .privateKeyOperation, ⟨role, .sendCertificateVerify⟩,
        Endpoint.signing { p with context := { p.context with signaturePending := true } } device'
          (asked ++ [p.context.signingEvent scheme info.maxLength .retry])) := by
  have hround := round_of_ask role hwait hscheme hinfo hask asked
  have hdrive : driveFor stage 2 ⟨role, .sendCertificateVerify⟩ (p.signing device asked)
      = (some (.needsExternal .privateKeyOperation), ⟨role, .sendCertificateVerify⟩,
        Endpoint.signing
          { p with context := { p.context with signaturePending := true, wait := .ok } } device'
          (asked ++ [p.context.signingEvent scheme info.maxLength .retry])) := by
    rw [driveFor_succ, hround]
    rfl
  rw [drive_of_driveFor hdrive (Nat.le_add_left 2 4), ← hwait]

/-- An answer that is not put off has the same outcome from every device, and whether it had been
    put off before or not. -/
theorem drive_of_answer (role : Role) (hwait : p.context.wait = .ok) (hanswer : answer ≠ .retry)
    (hscheme : p.context.config.signaturePolicy.choose? info.schemes p.context.peerSchemes
      = some scheme) :
    ∃ outcome phase q, q.context.signaturePending = false
      ∧ (answer = .failure → outcome = .fatal (.crypto .signFailed)
        ∧ phase = .sendCertificateVerify
        ∧ q = (Engine.alerted ⟨{ p.context with signaturePending := false }, p.environment⟩
          .internalError).failed)
      ∧ ∀ {σ : Type} [SigningDevice σ] (device device' : σ) (asked : History) (pending : Bool),
        let context := { p.context with signaturePending := pending }
        SigningDevice.info device = info → SigningDevice.info device' = info →
        SigningDevice.ask context scheme info.maxLength device = (answer, device') →
        drive stage ⟨role, .sendCertificateVerify⟩
            (Endpoint.signing { p with context := context } device asked)
          = (outcome, ⟨role, phase⟩,
            q.signing device' (asked ++ [context.signingEvent scheme info.maxLength answer])) := by
  obtain ⟨outcome, phase, q, hconclude, hpending, hnone⟩ :=
    conclude_cases role info scheme hanswer p
  have hround : ∀ {σ : Type} [SigningDevice σ] (device device' : σ) (asked : History)
      (pending : Bool), let context := { p.context with signaturePending := pending }
      SigningDevice.info device = info →
      SigningDevice.ask context scheme info.maxLength device = (answer, device') →
      Endpoint.round stage ⟨role, .sendCertificateVerify⟩
          (Endpoint.signing { p with context := context } device asked)
        = (outcome, ⟨role, phase⟩,
          q.signing device' (asked ++ [context.signingEvent scheme info.maxLength answer])) := by
    intro σ _ device device' asked pending context hinfo hask
    have hround := round_of_ask (p := { p with context := context }) role hwait hscheme hinfo
      hask asked
    rwa [conclude_pending, hconclude] at hround
  cases outcome with
  | some outcome =>
      refine ⟨outcome, phase, q, hpending, ?_, ?_⟩
      · rintro rfl
        cases hconclude
        exact ⟨rfl, rfl, rfl⟩
      · intro σ _ device device' asked pending context hinfo _ hask
        have hdrive : driveFor stage 1 ⟨role, .sendCertificateVerify⟩
            (Endpoint.signing { p with context := context } device asked)
          = (some outcome, ⟨role, phase⟩,
            q.signing device' (asked ++ [context.signingEvent scheme info.maxLength answer])) := by
          rw [driveFor_succ, hround device device' asked pending hinfo hask]
        exact drive_of_driveFor hdrive (Nat.le_add_left 1 5)
  | none =>
      -- the flight goes on past signing, where no device is asked
      rcases driveFor_spared_or_ready info role 5 phase q with
        ⟨outcome, phase', r, hr, hrest⟩ | ⟨_, _, hready, _⟩
      · refine ⟨outcome.getD (.fatal .handshakeFailure), phase', r, hr.trans hpending, ?_, ?_⟩
        · rintro rfl
          cases hconclude
        · intro σ _ device device' asked pending context hinfo hinfo' hask
          have hdrive : driveFor stage 6 ⟨role, .sendCertificateVerify⟩
              (Endpoint.signing { p with context := context } device asked)
            = (outcome, ⟨role, phase'⟩,
              r.signing device' (asked ++ [context.signingEvent scheme info.maxLength answer])) := by
            rw [driveFor_succ, hround device device' asked pending hinfo hask]
            exact hrest device' _ hinfo'
          exact drive_of_rounds hdrive
      · exact absurd hready.rank_le (Nat.not_le_of_lt (hnone rfl))

end Asked

end AuthFlow

/-! ## Calls of `handshake` -/

namespace Connection

open AuthFlow

variable {ε σ : Type}

/-- The connection with a device for its signer. -/
def signing (c : Connection ε) (device : σ) (asked : History) : Connection (Signing ε σ) :=
  { c with endpoint := c.endpoint.signing device asked }

/-- The connection with a signature under way. -/
def suspended (c : Connection ε) : Connection ε :=
  c.setContext ({ · with signaturePending := true })

variable [Environment ε]

/-- How a connection whose next call signs goes on: what its calls come to as long as the signer puts
    its answer off, and once it gives `answer`. -/
structure Signature (info : SignerInfo) (scheme : SignatureScheme) (answer : SignResult)
    (b : Connection ε) (outcome : Outcome) (d : Connection ε) : Prop where
  pending : b.endpoint.context.signaturePending = false
  retry {σ : Type} [SigningDevice σ] {b' : Connection ε} {device device' : σ} (asked : History)
    (hb : b' = b ∨ b' = b.suspended) (hinfo : SigningDevice.info device = info)
    (hask : SigningDevice.ask b'.endpoint.context scheme info.maxLength device
      = (.retry, device')) :
    (b'.signing device asked).handshake = (.needsExternal .privateKeyOperation,
      b.suspended.signing device'
        (asked ++ [b'.endpoint.context.signingEvent scheme info.maxLength .retry]))
  answer {σ : Type} [SigningDevice σ] {b' : Connection ε} {device device' : σ} (asked : History)
    (hb : b' = b ∨ b' = b.suspended) (hinfo : SigningDevice.info device = info)
    (hinfo' : SigningDevice.info device' = info)
    (hask : SigningDevice.ask b'.endpoint.context scheme info.maxLength device
      = (answer, device')) :
    (b'.signing device asked).handshake = (outcome, d.signing device'
      (asked ++ [b'.endpoint.context.signingEvent scheme info.maxLength answer]))

section Signature

variable {info : SignerInfo} {scheme : SignatureScheme} {answer : SignResult} {b d : Connection ε}
  {outcome : Outcome}

theorem run_handshake {c c' : Connection ε} (h : c.handshake = (outcome, c')) (calls : List Call) :
    c.run (.handshake :: calls) = (.ended outcome :: (c'.run calls).1, (c'.run calls).2) := by
  rw [run, call, h]

/-- From where a signature is under way. -/
theorem Signature.completes [SigningDevice σ] (h : Signature info scheme answer b outcome d)
    {n : Nat} {device : σ} (hcompletes : Completes info answer n device) (asked : History) :
    (∀ k ≤ n, ∃ device', (b.suspended.signing device asked).run (.replicate k .handshake)
      = (.replicate k (.ended (.needsExternal .privateKeyOperation)), b.suspended.signing device'
        (asked ++ .replicate k (.completedSignature info.maxLength .retry))))
    ∧ ∃ device', (b.suspended.signing device asked).run (.replicate (n + 1) .handshake)
      = (.replicate n (.ended (.needsExternal .privateKeyOperation)) ++ [.ended outcome],
        d.signing device' (asked ++ (.replicate n (.completedSignature info.maxLength .retry)
          ++ [.completedSignature info.maxLength answer]))) := by
  induction hcompletes generalizing asked with
  | @now device device' hinfo hanswer hinfo' =>
      have hcall := h.answer asked (Or.inr rfl) hinfo hinfo' hanswer
      refine ⟨fun k hk => ⟨device, ?_⟩, device', ?_⟩
      · obtain rfl := Nat.le_zero.1 hk
        simp only [List.replicate_zero, run, List.append_nil]
      · rw [List.replicate_succ, run_handshake hcall]
        rfl
  | @later n device device' hinfo hretry hrest ih =>
      have hcall : (b.suspended.signing device asked).handshake
          = (.needsExternal .privateKeyOperation, b.suspended.signing device'
            (asked ++ [.completedSignature info.maxLength .retry])) :=
        h.retry asked (Or.inr rfl) hinfo hretry
      obtain ⟨hputOff, device'', hends⟩ := ih (asked ++ [.completedSignature info.maxLength .retry])
      constructor
      · rintro (_ | k) hk
        · exact ⟨device, by simp only [List.replicate_zero, run, List.append_nil]⟩
        · obtain ⟨device'', hrest⟩ := hputOff k (Nat.le_of_succ_le_succ hk)
          refine ⟨device'', ?_⟩
          rw [List.replicate_succ, run_handshake hcall, hrest, List.append_assoc]
          rfl
      · refine ⟨device'', ?_⟩
        rw [List.replicate_succ, run_handshake hcall, hends, List.append_assoc]
        rfl

/-- From where the signature is asked for. -/
theorem Signature.signs [SigningDevice σ] {result : SignatureScheme → Bytes → SignResult}
    (h : Signature info scheme (result scheme (b.endpoint.context.signatureInput
      b.endpoint.context.role)) b outcome d)
    {c : Connection ε} {n : Nat} {device : σ} (hsigns : Signs info result n device)
    (hfirst : (c.signing device []).handshake = (b.signing device []).handshake) :
    let input := b.endpoint.context.signatureInput b.endpoint.context.role
    (∀ k < n, ∃ device', (c.signing device []).run (.replicate (k + 1) .handshake)
      = (.replicate (k + 1) (.ended (.needsExternal .privateKeyOperation)),
        b.suspended.signing device' (.signing scheme input info.maxLength .retry k)))
    ∧ ∃ device', (c.signing device []).run (.replicate (n + 1) .handshake)
      = (.replicate n (.ended (.needsExternal .privateKeyOperation)) ++ [.ended outcome],
        d.signing device'
          (.signing scheme input info.maxLength (result scheme input) n)) := by
  intro input
  have hevent : ∀ answer, b.endpoint.context.signingEvent scheme info.maxLength answer
      = .signed scheme input info.maxLength answer :=
    fun _ => if_neg (by rw [h.pending]; decide)
  have hask : ∀ device : σ, SigningDevice.ask b.endpoint.context scheme info.maxLength device
      = SigningDevice.sign scheme input info.maxLength device :=
    fun _ => if_neg (by rw [h.pending]; decide)
  cases hsigns with
  | now hinfo hanswer =>
      obtain ⟨device', hinfo', hsign⟩ := hanswer scheme input
      have hcall := hfirst.trans
        (h.answer [] (Or.inl rfl) hinfo hinfo' ((hask device).trans hsign))
      refine ⟨nofun, device', ?_⟩
      rw [hevent] at hcall
      rw [List.replicate_succ, run_handshake hcall]
      rfl
  | @later n _ hinfo hretry =>
      obtain ⟨device', hcompletes, hsign⟩ := hretry scheme input
      have hcall := hfirst.trans (h.retry [] (Or.inl rfl) hinfo ((hask device).trans hsign))
      rw [hevent] at hcall
      obtain ⟨hputOff, device'', hends⟩ :=
        h.completes hcompletes [.signed scheme input info.maxLength .retry]
      constructor
      · intro k hk
        obtain ⟨device'', hrest⟩ := hputOff k (Nat.le_of_lt_succ hk)
        refine ⟨device'', ?_⟩
        rw [List.replicate_succ, run_handshake hcall, List.nil_append, hrest, History.signing_retry]
        rfl
      · refine ⟨device'', ?_⟩
        rw [List.replicate_succ, run_handshake hcall, List.nil_append, hends]
        rfl

theorem handshake_of_drive {c : Connection ε} {flow : AuthFlow} {p : Endpoint ε}
    (h : c.endpoint.drive stage c.flow = (outcome, flow, p)) :
    c.handshake = (outcome, ⟨p, flow, c.complete || outcome = .success⟩) := by
  rw [handshake, h]

/-- A connection that is about to sign goes on in one way, whatever device there is. -/
theorem exists_signature (hphase : b.flow.phase = .sendCertificateVerify)
    (hwait : b.endpoint.context.wait = .ok) (hpending : b.endpoint.context.signaturePending = false)
    (hscheme : b.endpoint.context.config.signaturePolicy.choose? info.schemes
      b.endpoint.context.peerSchemes = some scheme) (hanswer : answer ≠ .retry) :
    ∃ outcome d, Signature info scheme answer b outcome d
      ∧ d.endpoint.context.signaturePending = false
      ∧ (answer = .failure → outcome = .fatal (.crypto .signFailed)
        ∧ d = { b with endpoint := (Engine.alerted b.endpoint .internalError).failed }) := by
  obtain ⟨p, ⟨role, phase⟩, complete⟩ := b
  obtain rfl : phase = .sendCertificateVerify := hphase
  obtain ⟨outcome, phase, q, hq, hfailure, hcalls⟩ := drive_of_answer role hwait hanswer hscheme
  refine ⟨outcome, ⟨q, ⟨role, phase⟩, complete || outcome = .success⟩, ⟨hpending, ?_, ?_⟩, hq, ?_⟩
  · intro σ _ b' device device' asked hb hinfo hask
    rcases hb with rfl | rfl
    · have hdrive := drive_of_retry role hwait hscheme hinfo hask asked
      rw [handshake_of_drive hdrive]
      simp [signing, suspended, setContext]
    · have hdrive := drive_of_retry
        (p := { p with context := { p.context with signaturePending := true } }) role hwait hscheme
        hinfo hask asked
      rw [handshake_of_drive hdrive]
      simp [signing, suspended, setContext]
  · intro σ _ b' device device' asked hb hinfo hinfo' hask
    rcases hb with rfl | rfl
    · have hpending : p.context.signaturePending = false := hpending
      have hdrive := hcalls device device' asked false hinfo hinfo'
      rw [← hpending] at hdrive
      exact handshake_of_drive (hdrive hask)
    · exact handshake_of_drive (hcalls device device' asked true hinfo hinfo' hask)
  · intro hanswer
    obtain ⟨rfl, rfl, rfl⟩ := hfailure hanswer
    have hpending : p.context.signaturePending = false := hpending
    rw [← hpending]
    simp

end Signature

/-- A signer that puts its answer off comes to the same as one that answers at once, whatever the
    connection and its surroundings. Either the call asks no signer, and then all signers that
    describe themselves as `info` leave the same connection, to which this applies again. Or it comes
    to sign at some `b`, which does not depend on the signer either; and then there are an outcome and
    a connection `d` with which every signer ends that gives the answer of `result`, no matter how
    often it puts it off. The calls before that wait for the signer and leave the connection as `b` is
    but for the signature that is under way. The signer is asked to sign once, and how that has come
    out in each of the later calls. A failure is reported to the peer by one alert and changes nothing
    else. -/
theorem slow_signing (c : Connection ε) (info : SignerInfo)
    (result : SignatureScheme → Bytes → SignResult)
    (hresult : ∀ scheme input, result scheme input ≠ .retry)
    (hpending : c.endpoint.context.signaturePending = false) :
    (∃ (outcome : Outcome) (d : Connection ε), d.endpoint.context.signaturePending = false
      ∧ ∀ {σ : Type} [SigningDevice σ] (device : σ), SigningDevice.info device = info →
        (c.signing device []).handshake = (outcome, d.signing device []))
    ∨ ∃ (b d : Connection ε) (outcome : Outcome) (scheme : SignatureScheme),
      let input := b.endpoint.context.signatureInput b.endpoint.context.role
      b.flow = ⟨c.flow.role, .sendCertificateVerify⟩
      ∧ b.endpoint.context.config.signaturePolicy.choose? info.schemes
        b.endpoint.context.peerSchemes = some scheme
      ∧ d.endpoint.context.signaturePending = false
      ∧ (result scheme input = .failure → outcome = .fatal (.crypto .signFailed)
        ∧ d = { b with endpoint := (Engine.alerted b.endpoint .internalError).failed })
      ∧ ∀ {σ : Type} [SigningDevice σ] (n : Nat) (device : σ), Signs info result n device →
        (∀ k < n, ∃ device', (c.signing device []).run (.replicate (k + 1) .handshake)
          = (.replicate (k + 1) (.ended (.needsExternal .privateKeyOperation)),
            b.suspended.signing device' (.signing scheme input info.maxLength .retry k)))
        ∧ ∃ device', (c.signing device []).run (.replicate (n + 1) .handshake)
          = (.replicate n (.ended (.needsExternal .privateKeyOperation)) ++ [.ended outcome],
            d.signing device'
              (.signing scheme input info.maxLength (result scheme input) n)) := by
  rcases driveFor_spared_or_ready info c.flow.role 6 c.flow.phase c.endpoint with
    ⟨outcome, phase, q, hq, hspared⟩ | ⟨rounds, q, hready, hwait, hsame⟩
  · let returned := outcome.getD (.fatal .handshakeFailure)
    refine Or.inl ⟨returned, ⟨q, ⟨c.flow.role, phase⟩, c.complete || returned = .success⟩,
      hq.trans hpending, fun device hinfo => ?_⟩
    exact handshake_of_drive (drive_of_rounds (hspared device [] hinfo))
  · obtain ⟨scheme, hscheme⟩ := hready.scheme
    let b : Connection ε := ⟨q, ⟨c.flow.role, .sendCertificateVerify⟩, c.complete⟩
    obtain ⟨outcome, d, hsignature, hd, hfailure⟩ := exists_signature (b := b) rfl hwait
      (hready.pending.trans hpending) hscheme (hresult scheme _)
    refine Or.inr ⟨b, d, outcome, scheme, rfl, hscheme, hd, hfailure, ?_⟩
    intro σ _ n device hsigns
    refine hsignature.signs hsigns ?_
    have hdrive := drive_eq_of_driveFor (hsame device [] hsigns.info)
    rcases hb : Endpoint.drive stage b.flow (b.endpoint.signing device []) with ⟨o, flow, p⟩
    rw [handshake_of_drive (c := b.signing device []) hb,
      handshake_of_drive (c := c.signing device []) (hdrive.trans hb)]
    rfl

end Connection

/-! ## The signer in memory -/

namespace Signer

theorem completes {s : Signer} {scheme : SignatureScheme} {input : Bytes} {n : Nat}
    (h : s.underWay = some (scheme, input, n + 1)) :
    Completes s.info (s.answer scheme input s.maxLength) n s := by
  induction n generalizing s with
  | zero =>
      have hanswer : SigningDevice.complete s.maxLength s
          = (s.answer scheme input s.maxLength, { s with underWay := none }) := by
        simp only [SigningDevice.complete, complete, h]
        rfl
      exact .now rfl hanswer rfl
  | succ n ih =>
      refine .later rfl ?_ (ih (s := { s with underWay := some (scheme, input, n + 1) }) rfl)
      simp only [SigningDevice.complete, complete, h]
      rw [if_neg (by omega)]
      rfl

/-- The signer in memory puts its answer off as often as its delays say. -/
theorem signs (s : Signer) (hfails : s.alwaysFails = false) :
    Signs s.info (fun scheme input => s.answer scheme input s.maxLength) s.delays s := by
  cases hdelays : s.delays with
  | zero =>
      refine .now rfl fun scheme input => ⟨s, rfl, ?_⟩
      simp only [SigningDevice.sign, sign, hfails, hdelays]
      rfl
  | succ n =>
      refine .later rfl fun scheme input =>
        ⟨_, completes (s := { s with underWay := some (scheme, input, n + 1) }) rfl, ?_⟩
      simp only [SigningDevice.sign, sign, hfails, hdelays]
      rfl

end Signer

namespace Rehearsal

/-- The signer of the server, which puts its answer off. -/
def delayedSigner (delays : Nat) : Signer where
  key := .ed25519 []
  fixed := some (signature .server)
  delays := delays

set_option maxRecDepth 100000 in
/-- The server does with a signer that needs three calls what it does with one that needs none. -/
theorem slowServer_signs :
    ∃ (b d : Connection (Station FinishedKeys Signer TicketStore)) (outcome : Outcome)
      (scheme : SignatureScheme) (prompt slow : Signer),
      let record := History.signing scheme
        (b.endpoint.context.signatureInput b.endpoint.context.role)
        64 (.success (signature .server))
      ((connection .server []).signing (delayedSigner 0) []).run [.handshake]
        = ([.ended outcome], d.signing prompt (record 0))
      ∧ ((connection .server []).signing (delayedSigner 3) []).run (.replicate 4 .handshake)
        = (.replicate 3 (.ended (.needsExternal .privateKeyOperation)) ++ [.ended outcome],
          d.signing slow (record 3)) := by
  have hasked : ((connection .server []).signing (delayedSigner 0)
      []).handshake.2.endpoint.environment.asked.isEmpty = false := by decide +kernel
  rcases Connection.slow_signing (connection .server []) (delayedSigner 0).info
    (fun scheme input => (delayedSigner 0).answer scheme input 64) (fun _ _ => nofun) rfl with
    ⟨outcome, d, -, hspared⟩ | ⟨b, d, outcome, scheme, -, -, -, -, hsigns⟩
  · rw [hspared (delayedSigner 0) rfl] at hasked
    cases hasked
  · obtain ⟨prompt, hprompt⟩ := (hsigns 0 _ ((delayedSigner 0).signs rfl)).2
    obtain ⟨slow, hslow⟩ := (hsigns 3 _ ((delayedSigner 3).signs rfl)).2
    exact ⟨b, d, outcome, scheme, prompt, slow, hprompt, hslow⟩

end Rehearsal

end TlsHandshake
