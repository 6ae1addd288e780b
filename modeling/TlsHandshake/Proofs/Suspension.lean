import TlsHandshake.Proofs.Failure
import TlsHandshake.Proofs.Services

set_option autoImplicit false

/-! # Suspension is invisible

A handshake that has to wait for the record layer is suspended and driven again. `Delayed` are
surroundings in which chosen polls of the record layer are not ready although they would be, and
`Driven` says what calls of `drive` come to, one after the other. Main statement:
`ServiceStage.driven_delayed`, for a stage that does not poll by itself there are more calls with
the delays, and nothing else is different. -/

namespace TlsHandshake

/-! ## Steps of a stage -/

/-- The stage that also notes each of its steps: its state before the step, and the context. -/
def Stage.noted {ε σ : Type} (stage : Stage ε σ) : Stage ε (σ × List (σ × Context)) where
  step s p :=
    let (wait, s', p') := stage.step s.1 p
    (wait, (s', s.2 ++ [(s.1, p.context)]), p')
  budget s := stage.budget s.1

/-! ## Delays -/

/-- Surroundings with the polls of the record layer that are to be delayed: `true` stands for one
    that is not ready, whatever it would answer, and does nothing. -/
structure Delayed (ε : Type) where
  environment : ε
  stalls : List Bool

/-- The endpoint with delays ahead. -/
def Endpoint.delayed {ε : Type} (p : Endpoint ε) (stalls : List Bool) : Endpoint (Delayed ε) :=
  ⟨p.context, ⟨p.environment, stalls⟩⟩

namespace Delayed

variable {ε α : Type}

/-- Does something that is never delayed. -/
def pass (act : EStateM Error ε α) : EStateM Error (Delayed ε) α := fun d =>
  match act d.environment with
  | .ok a e => .ok a ⟨e, d.stalls⟩
  | .error err e => .error err ⟨e, d.stalls⟩

/-- Polls, unless this poll is delayed. -/
def poll (act : EStateM Error ε (Awaited α)) : EStateM Error (Delayed ε) (Awaited α) := fun d =>
  match d.stalls with
  | true :: stalls => .ok .pending ⟨d.environment, stalls⟩
  | false :: stalls => pass act ⟨d.environment, stalls⟩
  | [] => pass act d

instance [Environment ε] : Environment (Delayed ε) where
  flushFlight := poll Environment.flushFlight
  expectFlight d := ⟨Environment.expectFlight d.environment, d.stalls⟩
  readMessage := poll Environment.readMessage
  readChangeCipherSpec := poll Environment.readChangeCipherSpec
  addMessage m := pass (Environment.addMessage m)
  sendAlert a d := ⟨Environment.sendAlert a d.environment, d.stalls⟩
  finishedMac sender transcriptHash := pass (Environment.finishedMac sender transcriptHash)
  rotateTrafficKey direction := pass (Environment.rotateTrafficKey direction)
  signer? d := Environment.signer? d.environment
  sign scheme input maxLength d :=
    let (answer, e) := Environment.sign scheme input maxLength d.environment
    (answer, ⟨e, d.stalls⟩)
  completeSignature maxLength d :=
    let (answer, e) := Environment.completeSignature maxLength d.environment
    (answer, ⟨e, d.stalls⟩)
  handlesTickets d := Environment.handlesTickets d.environment
  storeTicket body session := pass (Environment.storeTicket body session)

theorem answerOf_pass (act : EStateM Error ε α) (e : ε) (stalls : List Bool) :
    answerOf (pass act) ⟨e, stalls⟩ = ((answerOf act e).1, ⟨(answerOf act e).2, stalls⟩) := by
  simp only [answerOf, pass]
  cases act e <;> rfl

end Delayed

section Unaware

variable {ε σ α : Type} [Environment ε]

theorem Service.perform_delayed (service : Service) (e : ε) (stalls : List Bool) :
    service.perform (⟨e, stalls⟩ : Delayed ε)
      = ((service.perform e).1, ⟨(service.perform e).2, stalls⟩) := by
  cases service with
  | queue | computeMac | rotate => exact Delayed.answerOf_pass _ e stalls
  | _ => rfl

theorem Routine.run_delayed (routine : Routine α) (e : ε) (stalls : List Bool) :
    routine.run (⟨e, stalls⟩ : Delayed ε) = ((routine.run e).1, ⟨(routine.run e).2, stalls⟩) := by
  induction routine generalizing e with
  | done a => rfl
  | ask service next ih =>
      rw [run, run, service.perform_delayed]
      exact ih _ _

/-- A stage with delays that takes the same steps as another one without them. -/
def Stage.Unaware (stage : Stage ε σ) (stage' : Stage (Delayed ε) σ) : Prop :=
  ∀ s p stalls, stage'.step s (p.delayed stalls)
    = ((stage.step s p).1, (stage.step s p).2.1, (stage.step s p).2.2.delayed stalls)

theorem ServiceStage.unaware (services : ServiceStage σ) :
    Stage.Unaware (ε := ε) services.stage services.stage := by
  intro s p stalls
  simp only [stage, Endpoint.delayed, Routine.run_delayed]

omit [Environment ε] in
theorem Stage.Unaware.noted {stage : Stage ε σ} {stage' : Stage (Delayed ε) σ}
    (h : stage.Unaware stage') : stage.noted.Unaware stage'.noted := by
  intro s p stalls
  simp only [Stage.noted, h s.1 p stalls]
  rfl

end Unaware

/-! ## Calls of `drive` -/

/-- Whether the record layer is waited for. -/
def Outcome.isIo : Outcome → Bool
  | .needsIo _ => true
  | _ => false

namespace Endpoint

variable {ε σ : Type}

/-- The endpoint with a record of what it does to its surroundings; nothing is in it yet. -/
def recorded (p : Endpoint ε) : Endpoint (Recorded ε) := ⟨p.context, ⟨p.environment, []⟩⟩

/-- The endpoint when it is driven again. Nothing is done to it when the record layer was waited
    for; else the caller may have changed the context. -/
def resumed (caller : Outcome → Context → Context) : Outcome → Endpoint ε → Endpoint ε
  | .needsIo _, p => p
  | outcome, p => { p with context := caller outcome p.context }

variable [Environment ε]

/-- Calls of `drive`, one after the other, lead from one state of a stage and an endpoint to others,
    and have these outcomes; the last call may still be under way. -/
inductive Driven (stage : Stage ε σ) (caller : Outcome → Context → Context) :
    List Outcome → σ → Endpoint ε → σ → Endpoint ε → Prop
  | underway {rounds : Nat} {s s' : σ} {p p' : Endpoint ε}
      (h : driveFor stage rounds s p = (none, s', p')) : Driven stage caller [] s p s' p'
  | returned {rounds : Nat} {outcome : Outcome} {outcomes : List Outcome} {s s₁ s' : σ}
      {p p₁ p' : Endpoint ε} (h : driveFor stage rounds s p = (some outcome, s₁, p₁))
      (hrest : Driven stage caller outcomes s₁ (p₁.resumed caller outcome) s' p') :
      Driven stage caller (outcome :: outcomes) s p s' p'

/-- One round: settles the wait and runs the stage. -/
def round (stage : Stage ε σ) (s : σ) (p : Endpoint ε) : Option Outcome × σ × Endpoint ε :=
  match p.settle with
  | (some outcome, p) => (some outcome, s, p)
  | (none, p) =>
      let (wait, s, p) := stage.step s p
      let p := p.waitFor wait
      match wait with
      | .error =>
          let (e, p) := p.takeError
          (some (.fatal e), s, p)
      | .ok => (some .success, s, p)
      | _ => (none, s, p)

section Rounds

variable {stage : Stage ε σ} {caller : Outcome → Context → Context} {outcome : Outcome}
  {outcomes : List Outcome} {s s₁ s' : σ} {p p₁ p' : Endpoint ε} {rounds : Nat}

theorem driveFor_succ (stage : Stage ε σ) (rounds : Nat) (s : σ) (p : Endpoint ε) :
    driveFor stage (rounds + 1) s p = match round stage s p with
      | (some outcome, s, p) => (some outcome, s, p)
      | (none, s, p) => driveFor stage rounds s p := by
  rw [driveFor, round]
  rcases p.settle with ⟨_ | outcome, p⟩
  · generalize hstep : stage.step s p = stepped
    obtain ⟨wait, s, p⟩ := stepped
    simp only [hstep]
    cases wait <;> rfl
  · rfl

/-- Once a call has returned, more rounds make no difference. -/
theorem driveFor_of_le {more : Nat} (h : driveFor stage rounds s p = (some outcome, s', p'))
    (hle : rounds ≤ more) : driveFor stage more s p = (some outcome, s', p') := by
  induction rounds generalizing s p more with
  | zero => cases h
  | succ rounds ih =>
      obtain ⟨more, rfl⟩ := Nat.exists_eq_add_one.2 (show 0 < more by omega)
      rw [driveFor_succ] at h ⊢
      rcases hround : round stage s p with ⟨_ | o, s₁, p₁⟩ <;> rw [hround] at h
      · exact ih h (by omega)
      · exact h

/-- What a call returns does not depend on how many rounds it may take. -/
theorem driveFor_unique {rounds' : Nat} {outcome' : Outcome}
    (h : driveFor stage rounds s p = (some outcome, s', p'))
    (h' : driveFor stage rounds' s p = (some outcome', s₁, p₁)) :
    outcome = outcome' ∧ s' = s₁ ∧ p' = p₁ := by
  have hmax := (driveFor_of_le h (Nat.le_max_left rounds rounds')).symm.trans
    (driveFor_of_le h' (Nat.le_max_right rounds rounds'))
  obtain ⟨houtcome, hrest⟩ := Prod.mk.inj hmax
  exact ⟨Option.some.inj houtcome, Prod.mk.inj hrest⟩

/-- So `drive` returns what any number of rounds in its budget does. -/
theorem drive_of_driveFor (h : driveFor stage rounds s p = (some outcome, s', p'))
    (hbudget : rounds ≤ stage.budget s) : drive stage s p = (outcome, s', p') := by
  rw [drive, driveFor_of_le h hbudget]
  rfl

theorem exists_of_outcome (h : (driveFor stage rounds s p).1 = some outcome) :
    ∃ s' p', driveFor stage rounds s p = (some outcome, s', p') := by
  rcases hrun : driveFor stage rounds s p with ⟨o, s', p'⟩
  rw [hrun] at h
  obtain rfl : o = some outcome := h
  exact ⟨s', p', rfl⟩

/-- Noting the steps changes nothing. -/
theorem driveFor_noted (stage : Stage ε σ) (rounds : Nat) (s : σ) (p : Endpoint ε)
    (steps : List (σ × Context)) :
    ∃ more, driveFor stage.noted rounds (s, steps) p
      = ((driveFor stage rounds s p).1, ((driveFor stage rounds s p).2.1, steps ++ more),
          (driveFor stage rounds s p).2.2) := by
  induction rounds generalizing s p steps with
  | zero => exact ⟨[], by rw [List.append_nil]; rfl⟩
  | succ rounds ih =>
      rcases hsettle : p.settle with ⟨_ | outcome, q⟩
      · rcases hstep : stage.step s q with ⟨wait, s', q'⟩
        simp only [driveFor, hsettle, Stage.noted, hstep]
        obtain ⟨more, hmore⟩ := ih s' (q'.waitFor wait) (steps ++ [(s, q.context)])
        rw [List.append_assoc] at hmore
        cases wait with
        | error | ok => exact ⟨[(s, q.context)], rfl⟩
        | _ => exact ⟨_, hmore⟩
      · exact ⟨[], by simp only [driveFor, hsettle, List.append_nil]⟩

theorem Driven.refl (s : σ) (p : Endpoint ε) : Driven stage caller [] s p s p :=
  have hnone : driveFor stage 0 s p = (none, s, p) := rfl
  .underway hnone

/-- A call that goes on after a round. -/
theorem Driven.round_none (hround : round stage s p = (none, s₁, p₁))
    (hrest : Driven stage caller outcomes s₁ p₁ s' p') :
    Driven stage caller outcomes s p s' p' := by
  have hmore : ∀ rounds, driveFor stage (rounds + 1) s p = driveFor stage rounds s₁ p₁ := by
    intro rounds
    rw [driveFor_succ, hround]
  cases hrest with
  | underway h => exact .underway ((hmore _).trans h)
  | returned h hrest => exact .returned ((hmore _).trans h) hrest

/-- A call that returns after a round. -/
theorem Driven.round_some (hround : round stage s p = (some outcome, s₁, p₁))
    (hrest : Driven stage caller outcomes s₁ (p₁.resumed caller outcome) s' p') :
    Driven stage caller (outcome :: outcomes) s p s' p' := by
  have hcall : driveFor stage 1 s p = (some outcome, s₁, p₁) := by rw [driveFor_succ, hround]
  exact .returned hcall hrest

/-- Induction on the rounds of calls. -/
theorem Driven.induction_rounds {motive : List Outcome → σ → Endpoint ε → Prop}
    (hdriven : Driven stage caller outcomes s p s' p') (refl : motive [] s' p')
    (go : ∀ outcomes s p s₁ p₁, round stage s p = (none, s₁, p₁) → motive outcomes s₁ p₁ →
      motive outcomes s p)
    (ret : ∀ outcome outcomes s p s₁ p₁, round stage s p = (some outcome, s₁, p₁) →
      motive outcomes s₁ (p₁.resumed caller outcome) → motive (outcome :: outcomes) s p) :
    motive outcomes s p := by
  induction hdriven with
  | @underway rounds s s' p p' h =>
      induction rounds generalizing s p with
      | zero =>
          cases h
          exact refl
      | succ rounds ih =>
          rw [driveFor_succ] at h
          rcases hround : round stage s p with ⟨_ | outcome, s₁, p₁⟩ <;> rw [hround] at h
          · exact go _ _ _ _ _ hround (ih h)
          · cases h
  | @returned rounds outcome outcomes s s₁ s' p p₁ p' h hrest ih =>
      have ih := ih refl
      clear hrest
      induction rounds generalizing s p with
      | zero => cases h
      | succ rounds ihrounds =>
          rw [driveFor_succ] at h
          rcases hround : round stage s p with ⟨_ | outcome', s₂, p₂⟩ <;> rw [hround] at h
          · exact go _ _ _ _ _ hround (ihrounds h)
          · cases h
            exact ret _ _ _ _ _ _ hround ih

end Rounds

/-! ## What a wait is settled by -/

section Waits

variable {p : Endpoint ε}

/-- The endpoint that has flushed and goes on to read. -/
def expecting (p : Endpoint ε) : Endpoint ε :=
  { (p.waitFor .readMessage) with environment := Environment.expectFlight p.environment }

theorem settle_of_flush (hwait : p.context.wait = .flush) : p.settle = p.flush := by
  simp only [settle, hwait]

theorem settle_of_read (hwait : p.context.wait = .readMessage) : p.settle = p.read := by
  simp only [settle, hwait]

theorem settle_of_readChangeCipherSpec (hwait : p.context.wait = .readChangeCipherSpec) :
    p.settle = p.poll .changeCipherSpec Environment.readChangeCipherSpec fun _ c => c := by
  simp only [settle, hwait]

theorem settle_of_flushAndRead (hwait : p.context.wait = .flushAndReadMessage) :
    p.settle = match p.flush with
      | (none, p) => p.expecting.read
      | suspended => suspended := by
  simp only [settle, hwait]
  rfl

end Waits

/-! ## Going on after a delay -/

/-- Of a schedule the first polls have been made, and `n` of them were delayed. -/
def Used (n : Nat) (stalls left : List Bool) : Prop :=
  ∃ used, stalls = used ++ left ∧ used.count true = n

theorem Used.refl (stalls : List Bool) : Used 0 stalls stalls := ⟨[], rfl, rfl⟩

theorem Used.trans {m n : Nat} {stalls between left : List Bool} (hfirst : Used m stalls between)
    (hrest : Used n between left) : Used (m + n) stalls left := by
  obtain ⟨first, rfl, rfl⟩ := hfirst
  obtain ⟨second, rfl, rfl⟩ := hrest
  exact ⟨first ++ second, (List.append_assoc ..).symm, List.count_append⟩

/-- A delay makes what is left of the schedule shorter. -/
theorem Used.length_lt {n : Nat} {stalls left : List Bool} (h : Used (n + 1) stalls left) :
    left.length < stalls.length := by
  obtain ⟨used, rfl, hcount⟩ := h
  have := List.count_le_length (a := true) (l := used)
  rw [List.length_append]
  omega

/-- With delays, an action either does what it does without them, or it stops for the record layer
    and leaves an endpoint from which it can be done again. -/
def Delays (act : Endpoint ε → Option Outcome × Endpoint ε)
    (act' : Endpoint (Delayed ε) → Option Outcome × Endpoint (Delayed ε)) (p : Endpoint ε)
    (stalls : List Bool) (Again : Endpoint ε → Prop) : Prop :=
  (∃ left, Used 0 stalls left ∧ act' (p.delayed stalls) = ((act p).1, (act p).2.delayed left))
  ∨ ∃ wait q left, Used 1 stalls left ∧ Again q
    ∧ act' (p.delayed stalls) = (some (.needsIo wait), q.delayed left)

section Settling

variable {α : Type} {act : EStateM Error ε (Awaited α)} {onReady : α → Context → Context}
  {wait : IoWait}

theorem poll_pass (p : Endpoint ε) (stalls : List Bool) :
    (p.delayed stalls).poll wait (Delayed.pass act) onReady
      = ((p.poll wait act onReady).1, (p.poll wait act onReady).2.delayed stalls) := by
  simp only [poll, Engine.perform, Delayed.pass, delayed]
  cases act p.environment with
  | ok a e => cases a <;> rfl
  | error err e =>
      simp only [Engine.reportTransport]
      cases Engine.transportAlert? err <;> rfl

/-- A poll that is delayed leaves everything but the schedule as it is. -/
theorem poll_delays (wait : IoWait) (act : EStateM Error ε (Awaited α))
    (onReady : α → Context → Context) (p : Endpoint ε) (stalls : List Bool) :
    Delays (poll wait act onReady) (poll wait (Delayed.poll act) onReady) p stalls (· = p) := by
  cases stalls with
  | nil => exact Or.inl ⟨[], .refl [], poll_pass p []⟩
  | cons stall stalls =>
      cases stall with
      | false => exact Or.inl ⟨stalls, ⟨[false], rfl, rfl⟩, poll_pass p stalls⟩
      | true => exact Or.inr ⟨wait, p, stalls, ⟨[true], rfl, rfl⟩, rfl, rfl⟩

/-- A wait that is settled by one poll. -/
theorem settle_delays_of_poll {p : Endpoint ε} {stalls : List Bool}
    (hsettle : p.settle = p.poll wait act onReady)
    (hsettle' : (p.delayed stalls).settle
      = (p.delayed stalls).poll wait (Delayed.poll act) onReady) :
    Delays settle settle p stalls (·.settle = p.settle) := by
  rcases poll_delays wait act onReady p stalls with
    ⟨left, hused, hpass⟩ | ⟨wait, q, left, hused, rfl, hstop⟩
  · exact Or.inl ⟨left, hused, by rw [hsettle, hsettle', hpass]⟩
  · exact Or.inr ⟨wait, q, left, hused, rfl, hsettle'.trans hstop⟩

/-- A flush before a read can be delayed, and so can the read; then the flush is not done again. -/
theorem settle_delays_of_flushAndRead {p : Endpoint ε} (stalls : List Bool)
    (hwait : p.context.wait = .flushAndReadMessage) :
    Delays settle settle p stalls (·.settle = p.settle) := by
  have hsettle := settle_of_flushAndRead hwait
  have hsettle' := settle_of_flushAndRead (p := p.delayed stalls) hwait
  rcases poll_delays .flush Environment.flushFlight (fun _ c => c.noteFlushed) p stalls with
    ⟨between, hused, hpass⟩ | ⟨wait, q, left, hused, rfl, hstop⟩
  · change (p.delayed stalls).flush = (p.flush.1, p.flush.2.delayed between) at hpass
    rw [hpass] at hsettle'
    rcases hflush : p.flush with ⟨_ | outcome, flushed⟩
    · rw [hflush] at hsettle hsettle'
      rcases poll_delays .read Environment.readMessage (fun m c => { c with message := some m })
        flushed.expecting between with
        ⟨left, hused', hpass⟩ | ⟨wait, q, left, hused', rfl, hstop⟩
      · exact Or.inl ⟨left, hused.trans hused', by rw [hsettle, hsettle']; exact hpass⟩
      · refine Or.inr ⟨wait, _, left, hused.trans hused', ?_, hsettle'.trans hstop⟩
        rw [hsettle]
        rfl
    · rw [hflush] at hsettle hsettle'
      exact Or.inl ⟨between, hused, by rw [hsettle, hsettle']⟩
  · refine Or.inr ⟨wait, q, left, hused, rfl, ?_⟩
    change (q.delayed stalls).flush = _ at hstop
    rw [hsettle', hstop]

/-- A wait that is settled without a poll. -/
theorem settle_delays_of_eq {p : Endpoint ε} {stalls : List Bool}
    (h : (p.delayed stalls).settle = (p.settle.1, p.settle.2.delayed stalls)) :
    Delays settle settle p stalls (·.settle = p.settle) := Or.inl ⟨stalls, .refl stalls, h⟩

theorem settle_delays (p : Endpoint ε) (stalls : List Bool) :
    Delays settle settle p stalls (·.settle = p.settle) := by
  cases hwait : p.context.wait with
  | flushAndReadMessage => exact settle_delays_of_flushAndRead stalls hwait
  | flush => exact settle_delays_of_poll (settle_of_flush hwait) (settle_of_flush hwait)
  | readMessage => exact settle_delays_of_poll (settle_of_read hwait) (settle_of_read hwait)
  | readChangeCipherSpec =>
      exact settle_delays_of_poll (settle_of_readChangeCipherSpec hwait)
        (settle_of_readChangeCipherSpec hwait)
  | readEndOfEarlyData =>
      refine settle_delays_of_eq ?_
      cases hearly : p.context.canReadEarly <;> simp [settle, delayed, waitFor, hwait, hearly]
  | _ =>
      refine settle_delays_of_eq ?_
      simp only [settle, delayed, waitFor, hwait]

end Settling

/-! ## The same without the delays -/

section Delayed

variable {σ : Type} {stage : Stage ε σ} {stage' : Stage (Delayed ε) σ}
  {caller : Outcome → Context → Context}

/-- A round whose wait is settled as without delays. -/
theorem round_pass (hunaware : stage.Unaware stage') {s : σ} {p : Endpoint ε}
    {stalls left : List Bool}
    (hsettle : (p.delayed stalls).settle = (p.settle.1, p.settle.2.delayed left)) :
    round stage' s (p.delayed stalls)
      = ((round stage s p).1, (round stage s p).2.1, (round stage s p).2.2.delayed left) := by
  rw [round, round, hsettle]
  rcases p.settle with ⟨_ | outcome, q⟩
  · have hstep := hunaware s q left
    rcases hq : stage.step s q with ⟨wait, s', q'⟩
    rw [hq] at hstep
    simp only [hstep, hq]
    cases wait <;> rfl
  · rfl

/-- A delay in a round can be made up for by another one. -/
theorem round_delays (hunaware : stage.Unaware stage') (s : σ) (p : Endpoint ε)
    (stalls : List Bool) :
    (∃ left, Used 0 stalls left ∧ round stage' s (p.delayed stalls)
      = ((round stage s p).1, (round stage s p).2.1, (round stage s p).2.2.delayed left))
    ∨ ∃ wait q left, Used 1 stalls left ∧ round stage s q = round stage s p
      ∧ round stage' s (p.delayed stalls) = (some (.needsIo wait), s, q.delayed left) := by
  rcases settle_delays p stalls with ⟨left, hused, hpass⟩ | ⟨wait, q, left, hused, hagain, hstop⟩
  · exact Or.inl ⟨left, hused, round_pass hunaware hpass⟩
  · refine Or.inr ⟨wait, q, left, hused, ?_, ?_⟩
    · rw [round, round, hagain]
    · rw [round, hstop]

/-- With delays, calls come to the same end as calls without them; each delay on the way is one more
    call that returns for the record layer. -/
def Matched (stage' : Stage (Delayed ε) σ) (caller : Outcome → Context → Context)
    (outcomes : List Outcome) (s : σ) (p : Endpoint ε) (stalls : List Bool) (s' : σ)
    (p' : Endpoint ε) : Prop :=
  ∃ n left outcomes', Used n stalls left
    ∧ Driven stage' caller outcomes' s (p.delayed stalls) s' (p'.delayed left)
    ∧ outcomes'.filter (!·.isIo) = outcomes.filter (!·.isIo)
    ∧ outcomes'.length = outcomes.length + n

/-- Delays in a round are only calls before it: what is matched once the round passes is matched. -/
theorem matched_of_round (hunaware : stage.Unaware stage') {outcomes : List Outcome} {s s' : σ}
    {p p' : Endpoint ε}
    (hpass : ∀ q stalls left, Used 0 stalls left →
      round stage' s (q.delayed stalls)
        = ((round stage s p).1, (round stage s p).2.1, (round stage s p).2.2.delayed left) →
      Matched stage' caller outcomes s q stalls s' p')
    (stalls : List Bool) : Matched stage' caller outcomes s p stalls s' p' := by
  suffices h : ∀ k q stalls, List.length stalls = k → round stage s q = round stage s p →
      Matched stage' caller outcomes s q stalls s' p' from h _ p stalls rfl rfl
  intro k
  -- every delay uses up some of the schedule
  induction k using Nat.strongRecOn with
  | ind k ih =>
      rintro q stalls rfl hround
      rcases round_delays hunaware s q stalls with
        ⟨left, hused, hq⟩ | ⟨wait, q', left, hused, hagain, hstop⟩
      · rw [hround] at hq
        exact hpass q stalls left hused hq
      · obtain ⟨n, left', outcomes', hused', hdriven, hfilter, hlength⟩ :=
          ih left.length hused.length_lt q' left rfl (hagain.trans hround)
        refine ⟨1 + n, left', .needsIo wait :: outcomes', hused.trans hused',
          .round_some hstop hdriven, hfilter, ?_⟩
        rw [List.length_cons, hlength]
        omega

/-- Whatever the calls without delays come to is matched. -/
theorem Driven.matched (hunaware : stage.Unaware stage') {outcomes : List Outcome} {s s' : σ}
    {p p' : Endpoint ε} (hdriven : Driven stage caller outcomes s p s' p') (stalls : List Bool) :
    Matched stage' caller outcomes s p stalls s' p' := by
  refine hdriven.induction_rounds (motive := fun outcomes s p =>
    ∀ stalls, Matched stage' caller outcomes s p stalls s' p') ?_ ?_ ?_ stalls
  · exact fun stalls => ⟨0, stalls, [], .refl stalls, .refl _ _, rfl, rfl⟩
  · intro outcomes s p s₁ p₁ hround ih
    refine matched_of_round hunaware fun q stalls left hused hq => ?_
    rw [hround] at hq
    obtain ⟨n, left', outcomes', hused', hdriven, hfilter, hlength⟩ := ih left
    have hused := hused.trans hused'
    rw [Nat.zero_add] at hused
    exact ⟨n, left', outcomes', hused, .round_none hq hdriven, hfilter, hlength⟩
  · intro outcome outcomes s p s₁ p₁ hround ih
    refine matched_of_round hunaware fun q stalls left hused hq => ?_
    rw [hround] at hq
    obtain ⟨n, left', outcomes', hused', hdriven, hfilter, hlength⟩ := ih left
    have hused := hused.trans hused'
    rw [Nat.zero_add] at hused
    have hresumed : (p₁.delayed left).resumed caller outcome
        = (p₁.resumed caller outcome).delayed left := by
      cases outcome <;> rfl
    rw [← hresumed] at hdriven
    refine ⟨n, left', outcome :: outcomes', hused, .round_some hq hdriven, ?_, ?_⟩
    · rw [List.filter_cons, List.filter_cons, hfilter]
    · rw [List.length_cons, List.length_cons, hlength]
      omega

end Delayed

/-! ## A first poll that is not ready -/

/-- The first poll that a call of `drive` makes is of this kind and is not ready; it leaves the
    surroundings as `e`. -/
inductive FirstPollPending (p : Endpoint ε) : IoWait → ε → Prop where
  | flush {e : ε} (hwait : p.context.wait = .flush ∨ p.context.wait = .flushAndReadMessage)
      (h : Environment.flushFlight p.environment = .ok .pending e) : FirstPollPending p .flush e
  | read {e : ε} (hwait : p.context.wait = .readMessage)
      (h : Environment.readMessage p.environment = .ok .pending e) : FirstPollPending p .read e
  | changeCipherSpec {e : ε} (hwait : p.context.wait = .readChangeCipherSpec)
      (h : Environment.readChangeCipherSpec p.environment = .ok .pending e) :
      FirstPollPending p .changeCipherSpec e

theorem poll_of_pending {α : Type} {act : EStateM Error ε (Awaited α)}
    {onReady : α → Context → Context} {wait : IoWait} {p : Endpoint ε} {e : ε}
    (h : act p.environment = .ok .pending e) :
    p.poll wait act onReady = (some (.needsIo wait), ⟨p.context, e⟩) := by
  simp only [poll, Engine.perform, h]

theorem FirstPollPending.settle {p : Endpoint ε} {wait : IoWait} {e : ε}
    (h : FirstPollPending p wait e) : p.settle = (some (.needsIo wait), ⟨p.context, e⟩) := by
  cases h with
  | flush hwait h =>
      rcases hwait with hwait | hwait
      · rw [settle_of_flush hwait]
        exact poll_of_pending h
      · have hflush : p.flush = (some (.needsIo .flush), ⟨p.context, e⟩) := poll_of_pending h
        rw [settle_of_flushAndRead hwait, hflush]
  | read hwait h =>
      rw [settle_of_read hwait]
      exact poll_of_pending h
  | changeCipherSpec hwait h =>
      rw [settle_of_readChangeCipherSpec hwait]
      exact poll_of_pending h

end Endpoint

open Endpoint in
/-- Delays are invisible to a stage that does not poll, whatever the caller does to the context
    between calls. With any delays there are more calls, one for each delay on the way, and they
    take the stage through the same steps on the same contexts, to the same outcomes but for those
    that wait for the record layer, and to the same endpoint; the record in it has all that was done
    with the surroundings, expected flights included. And a call whose first poll is not ready
    changes neither the context nor the stage. -/
theorem ServiceStage.driven_delayed {ε σ : Type} [Environment ε] (services : ServiceStage σ)
    (caller : Outcome → Context → Context) :
    (∀ (outcomes : List Outcome) (s s' : σ) (p : Endpoint ε) (p' : Endpoint (Recorded ε))
        (steps : List (σ × Context)) (stalls : List Bool),
      Driven services.stage.noted caller outcomes (s, []) p.recorded (s', steps) p' →
      ∃ used left outcomes', stalls = used ++ left
        ∧ Driven services.stage.noted caller outcomes' (s, []) (p.recorded.delayed stalls)
          (s', steps) (p'.delayed left)
        ∧ outcomes'.filter (!·.isIo) = outcomes.filter (!·.isIo)
        ∧ outcomes'.length = outcomes.length + used.count true)
    ∧ ∀ (stage : Stage ε σ) (rounds : Nat) (s : σ) (p : Endpoint ε) (wait : IoWait) (e : ε),
      FirstPollPending p wait e →
      driveFor stage (rounds + 1) s p = (some (.needsIo wait), s, ⟨p.context, e⟩) := by
  constructor
  · intro outcomes s s' p p' steps stalls hdriven
    obtain ⟨_, left, outcomes', ⟨used, hused, rfl⟩, hdelayed, hfilter, hlength⟩ :=
      hdriven.matched services.unaware.noted stalls
    exact ⟨used, left, outcomes', hused, hdelayed, hfilter, hlength⟩
  · intro stage rounds s p wait e hpending
    simp only [driveFor, hpending.settle]

namespace Rehearsal

open Endpoint

/-- The server without a chain, with the Finished of its client to read. -/
def answeredServer : Connection Desk := bareServer clientFinished

/-- The same server when it waits to read and there is nothing. -/
def waitingServer : Endpoint Desk :=
  (bareServer []).endpoint.waitFor .readMessage

set_option maxRecDepth 100000 in
/-- The server succeeds although its flush and a read are delayed, and a call of `drive` that finds
    nothing to read leaves it as it is. -/
theorem server_suspended :
    (∃ flow steps p left outcomes, Driven AuthFlow.stage.noted (fun _ c => c) outcomes
        (answeredServer.flow, []) (answeredServer.endpoint.recorded.delayed [true, false, true])
        (flow, steps) (Endpoint.delayed p left)
      ∧ outcomes.filter (!·.isIo) = [.success])
    ∧ driveFor AuthFlow.stage 1 (AuthFlow.new .server) waitingServer
      = (some (.needsIo .read), .new .server, waitingServer) := by
  obtain ⟨services, hstage⟩ := AuthFlow.exists_serviceStage
  obtain ⟨hdelayed, hpending⟩ := services.driven_delayed (ε := Desk) fun _ c => c
  constructor
  · have hsuccess : (driveFor AuthFlow.stage.noted 6 (answeredServer.flow, [])
        answeredServer.endpoint.recorded).1 = some .success := by decide +kernel
    obtain ⟨⟨flow, steps⟩, p, hrun⟩ := exists_of_outcome hsuccess
    rw [← hstage] at hrun
    obtain ⟨_, left, outcomes, _, hdriven, houtcomes, _⟩ :=
      hdelayed _ _ _ _ _ _ [true, false, true] (.returned hrun (.refl _ _))
    rw [hstage] at hdriven
    exact ⟨_, _, _, left, outcomes, hdriven, houtcomes⟩
  · exact hpending AuthFlow.stage 0 _ waitingServer .read _ (.read rfl rfl)

end Rehearsal

end TlsHandshake
