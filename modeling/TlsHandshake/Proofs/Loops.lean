import TlsHandshake.Proofs.Suspension

set_option autoImplicit false

/-! # The loops end

`stepFor` and `driveFor` bound how often they go round. `StepLoop` and `DriveLoop` are the same
loops without a bound: a state is related to what the loop comes to from there and to how often it
went round, so a loop that goes on for ever is related to nothing. `DriveLoop` is for any stage, and
there are stages for which it does not end (`not_driveLoop_askEarlyDataEnd`).

Main statement: `drive_returns`, for the flight both loops end, and come to what the bounded ones
return. -/

namespace TlsHandshake

/-! ## Driving without a bound -/

namespace Endpoint

variable {ε σ : Type}

/-- How a call ends once a stage has asked for a wait, if it does, and the endpoint. -/
def afterStep (p : Endpoint ε) : Wait → Option Outcome × Endpoint ε
  | .error => (some (.fatal (p.waitFor .error).takeError.1), (p.waitFor .error).takeError.2)
  | .ok => (some .success, p.waitFor .ok)
  | wait => (none, p.waitFor wait)

variable [Environment ε]

/-- The loop of `drive` on a stage whose steps are `Step`: how many steps it takes, and what it
    comes to. -/
inductive DriveLoop (Step : σ → Endpoint ε → Wait × σ × Endpoint ε → Prop) :
    Nat → σ → Endpoint ε → Outcome × σ × Endpoint ε → Prop
  | suspended {s : σ} {p q : Endpoint ε} {outcome : Outcome}
      (hsettle : p.settle = (some outcome, q)) : DriveLoop Step 0 s p (outcome, s, q)
  | returned {s s' : σ} {p q r r' : Endpoint ε} {wait : Wait} {outcome : Outcome}
      (hsettle : p.settle = (none, q)) (hstep : Step s q (wait, s', r))
      (hafter : r.afterStep wait = (some outcome, r')) : DriveLoop Step 1 s p (outcome, s', r')
  | again {n : Nat} {s s' : σ} {p q r r' : Endpoint ε} {wait : Wait}
      {result : Outcome × σ × Endpoint ε} (hsettle : p.settle = (none, q))
      (hstep : Step s q (wait, s', r)) (hafter : r.afterStep wait = (none, r'))
      (hrest : DriveLoop Step n s' r' result) : DriveLoop Step (n + 1) s p result

variable {Step : σ → Endpoint ε → Wait × σ × Endpoint ε → Prop} {n : Nat} {s : σ} {p : Endpoint ε}
  {result : Outcome × σ × Endpoint ε}

/-- A round that gets as far as a step. -/
theorem driveFor_stepped {stage : Stage ε σ} {s' : σ} {q r : Endpoint ε} {wait : Wait}
    (hsettle : p.settle = (none, q)) (hstep : stage.step s q = (wait, s', r)) (rounds : Nat) :
    driveFor stage (rounds + 1) s p = match r.afterStep wait with
      | (some outcome, r') => (some outcome, s', r')
      | (none, r') => driveFor stage rounds s' r' := by
  simp only [driveFor, hsettle, hstep]
  cases wait <;> rfl

/-- A call that returns within its rounds has gone round the loop. -/
theorem driveLoop_of_driveFor {stage : Stage ε σ} {rounds : Nat} {outcome : Outcome} {s' : σ}
    {q : Endpoint ε} (hstage : ∀ s p, Step s p (stage.step s p))
    (hdrive : driveFor stage rounds s p = (some outcome, s', q)) :
    ∃ steps ≤ rounds, DriveLoop Step steps s p (outcome, s', q) := by
  induction rounds generalizing s p with
  | zero => cases hdrive
  | succ rounds ih =>
      rcases hsettle : p.settle with ⟨_ | outcome', p₁⟩
      · rcases hstepped : stage.step s p₁ with ⟨wait, s₁, p₂⟩
        have hstep : Step s p₁ (wait, s₁, p₂) := hstepped ▸ hstage s p₁
        rw [driveFor_stepped hsettle hstepped] at hdrive
        rcases hafter : p₂.afterStep wait with ⟨_ | outcome', p₃⟩ <;> rw [hafter] at hdrive
        · obtain ⟨steps, hle, hloop⟩ := ih hdrive
          exact ⟨steps + 1, Nat.succ_le_succ hle, .again hsettle hstep hafter hloop⟩
        · cases hdrive
          exact ⟨1, Nat.le_add_left 1 rounds, .returned hsettle hstep hafter⟩
      · rw [driveFor, hsettle] at hdrive
        cases hdrive
        exact ⟨0, Nat.zero_le _, .suspended hsettle⟩

/-- A loop comes to one result, in one way. -/
theorem DriveLoop.unique {n' : Nat} {result' : Outcome × σ × Endpoint ε}
    (hstep : ∀ s p stepped stepped', Step s p stepped → Step s p stepped' → stepped = stepped')
    (hloop : DriveLoop Step n s p result) (hloop' : DriveLoop Step n' s p result') :
    n = n' ∧ result = result' := by
  induction hloop generalizing n' with
  | suspended hsettle =>
      cases hloop' with
      | suspended hsettle' =>
          cases hsettle.symm.trans hsettle'
          exact ⟨rfl, rfl⟩
      | returned hsettle' | again hsettle' => cases hsettle.symm.trans hsettle'
  | returned hsettle h hafter =>
      cases hloop' with
      | suspended hsettle' => cases hsettle.symm.trans hsettle'
      | returned hsettle' h' hafter' =>
          cases hsettle.symm.trans hsettle'
          cases hstep _ _ _ _ h h'
          cases hafter.symm.trans hafter'
          exact ⟨rfl, rfl⟩
      | again hsettle' h' hafter' =>
          cases hsettle.symm.trans hsettle'
          cases hstep _ _ _ _ h h'
          cases hafter.symm.trans hafter'
  | again hsettle h hafter _ ih =>
      cases hloop' with
      | suspended hsettle' => cases hsettle.symm.trans hsettle'
      | returned hsettle' h' hafter' =>
          cases hsettle.symm.trans hsettle'
          cases hstep _ _ _ _ h h'
          cases hafter.symm.trans hafter'
      | again hsettle' h' hafter' hrest =>
          cases hsettle.symm.trans hsettle'
          cases hstep _ _ _ _ h h'
          cases hafter.symm.trans hafter'
          obtain ⟨rfl, rfl⟩ := ih hrest
          exact ⟨rfl, rfl⟩

/-- There is nothing that the loop comes to if every round leads to another one. -/
theorem DriveLoop.false_of_endless (Endless : σ → Endpoint ε → Prop)
    (hround : ∀ {s p}, Endless s p → ∃ q, p.settle = (none, q)
      ∧ ∀ {wait s' r}, Step s q (wait, s', r) → ∃ r', r.afterStep wait = (none, r') ∧ Endless s' r')
    (hloop : DriveLoop Step n s p result) : ¬ Endless s p := by
  intro hendless
  induction hloop with
  | suspended hsettle =>
      obtain ⟨q, hsettle', _⟩ := hround hendless
      cases hsettle.symm.trans hsettle'
  | returned hsettle hstep hafter =>
      obtain ⟨q, hsettle', hgoes⟩ := hround hendless
      cases hsettle.symm.trans hsettle'
      obtain ⟨r', hafter', _⟩ := hgoes hstep
      cases hafter.symm.trans hafter'
  | again hsettle hstep hafter _ ih =>
      obtain ⟨q, hsettle', hgoes⟩ := hround hendless
      cases hsettle.symm.trans hsettle'
      obtain ⟨r', hafter', hendless'⟩ := hgoes hstep
      cases hafter.symm.trans hafter'
      exact ih hendless'

/-- The steps of a stage that does nothing but to ask for the end of the early data. -/
def AskEarlyDataEnd (_ : Unit) (p : Endpoint ε) (stepped : Wait × Unit × Endpoint ε) : Prop :=
  stepped = (.readEndOfEarlyData, (), p)

/-- Where no early data can be read there is nothing to wait for, and the stage asks for ever. -/
theorem not_driveLoop_askEarlyDataEnd {result : Outcome × Unit × Endpoint ε}
    (hwait : p.context.wait = .ok) (hearly : p.context.canReadEarly = false) :
    ¬ DriveLoop AskEarlyDataEnd n () p result := by
  let Asking : Unit → Endpoint ε → Prop := fun _ p =>
    p.context.canReadEarly = false ∧ (p.context.wait = .ok ∨ p.context.wait = .readEndOfEarlyData)
  have hround : ∀ {s : Unit} {p : Endpoint ε}, Asking s p → ∃ q, p.settle = (none, q)
      ∧ ∀ {wait s' r}, AskEarlyDataEnd s q (wait, s', r) →
        ∃ r', r.afterStep wait = (none, r') ∧ Asking s' r' := by
    intro s p hasking
    obtain ⟨hearly, hwait⟩ := hasking
    have hsettle : ∃ q, p.settle = (none, q) ∧ q.context.canReadEarly = false := by
      rcases hwait with hwait | hwait
      · exact ⟨p, by rw [settle, hwait], hearly⟩
      · refine ⟨p.waitFor .ok, ?_, hearly⟩
        simp only [settle, hwait, hearly, Bool.false_eq_true, if_false]
    obtain ⟨q, hsettle, hearly⟩ := hsettle
    refine ⟨q, hsettle, fun hstep => ?_⟩
    cases hstep
    exact ⟨_, rfl, hearly, Or.inr rfl⟩
  intro hloop
  exact hloop.false_of_endless Asking hround ⟨hearly, Or.inl hwait⟩

end Endpoint

/-! ## Steps without a bound -/

namespace AuthFlow

variable {ε : Type} [Environment ε]

open Endpoint

/-- The loop of a step of the flight: how many turns it takes, and what it comes to. -/
inductive StepLoop : Nat → AuthFlow → Endpoint ε → Wait × AuthFlow × Endpoint ε → Prop
  | waited {flow : AuthFlow} {p q : Endpoint ε} {phase : Phase} {wait : Wait}
      (hturn : flow.turn p = .ok (.wait phase wait) q) :
      StepLoop 1 flow p (wait, { flow with phase := phase }, q)
  | failed {flow : AuthFlow} {p q : Endpoint ε} {e : Error} (hturn : flow.turn p = .error e q) :
      StepLoop 1 flow p (.error, flow, { q with context := q.context.fail e })
  | again {n : Nat} {flow : AuthFlow} {p q : Endpoint ε} {phase : Phase}
      {result : Wait × AuthFlow × Endpoint ε} (hturn : flow.turn p = .ok (.next phase) q)
      (hrest : StepLoop n { flow with phase := phase } q result) : StepLoop (n + 1) flow p result

/-- What the loop of a step comes to, in any number of turns. -/
def Stepped (flow : AuthFlow) (p : Endpoint ε) (result : Wait × AuthFlow × Endpoint ε) : Prop :=
  ∃ turns, StepLoop turns flow p result

/-- The phases of a role in their order. -/
def order : Role → List Phase
  | .server => [.sendCertificate, .sendCertificateVerify, .sendFinished, .readCertificate,
      .readCertificateVerify, .readFinished, .done]
  | .client => [.readCertificate, .readCertificateVerify, .readFinished, .sendCertificate,
      .sendCertificateVerify, .sendFinished, .done]

section StepLoop

variable {flow : AuthFlow} {phase : Phase} {p q : Endpoint ε} {n n' : Nat}
  {result result' : Wait × AuthFlow × Endpoint ε}

theorem rank_lt_order (role : Role) (phase : Phase) : rank role phase < (order role).length := by
  cases role <;> cases phase <;> decide

/-- A phase of lower rank comes later in the order. -/
theorem sublist_order_of_rank_lt {role : Role} {phase phase' : Phase}
    (hrank : rank role phase' < rank role phase) : [phase, phase'].Sublist (order role) := by
  revert hrank
  cases role <;> cases phase <;> cases phase' <;> decide

theorem turns_of_turn (flow : AuthFlow) (p : Endpoint ε) :
    ∃ h, Turns flow.role flow.phase p h (answerOf flow.turn p).1 (answerOf flow.turn p).2 := by
  obtain ⟨h, answer, q, hruns, hturned⟩ := turn_listed flow p
  rw [hruns.1]
  exact ⟨h, hturned, hruns.2⟩

theorem turns_of_ok {turn : Turn} (hturn : flow.turn p = .ok turn q) :
    ∃ h, Turns flow.role flow.phase p h (.ok turn) q := by
  obtain ⟨h, hturns⟩ := turns_of_turn flow p
  rw [answerOf_eq_ok_iff.2 hturn] at hturns
  exact ⟨h, hturns⟩

theorem settled_of_settle (hsettle : p.settle = (none, q)) : ∃ h, Settled p h none q := by
  obtain ⟨h, hsettled⟩ := settle_settled p
  rw [hsettle] at hsettled
  exact ⟨h, hsettled⟩

theorem rank_lt_of_turn (hturn : flow.turn p = .ok (.next phase) q) :
    rank flow.role phase < rank flow.role flow.phase := by
  obtain ⟨h, hturns⟩ := turns_of_ok hturn
  exact hturns.1.rank_lt

/-- A loop comes to one result, in one way. -/
theorem StepLoop.unique (hloop : StepLoop n flow p result) (hloop' : StepLoop n' flow p result') :
    n = n' ∧ result = result' := by
  induction hloop generalizing n' with
  | waited hturn =>
      cases hloop' with
      | waited hturn' =>
          cases hturn.symm.trans hturn'
          exact ⟨rfl, rfl⟩
      | failed hturn' | again hturn' => cases hturn.symm.trans hturn'
  | failed hturn =>
      cases hloop' with
      | failed hturn' =>
          cases hturn.symm.trans hturn'
          exact ⟨rfl, rfl⟩
      | waited hturn' | again hturn' => cases hturn.symm.trans hturn'
  | again hturn _ ih =>
      cases hloop' with
      | waited hturn' | failed hturn' => cases hturn.symm.trans hturn'
      | again hturn' hrest =>
          cases hturn.symm.trans hturn'
          obtain ⟨rfl, rfl⟩ := ih hrest
          exact ⟨rfl, rfl⟩

/-- So does the loop of `drive` around it. -/
theorem driveLoop_unique {result result' : Outcome × AuthFlow × Endpoint ε}
    (hloop : DriveLoop Stepped n flow p result) (hloop' : DriveLoop Stepped n' flow p result') :
    n = n' ∧ result = result' := by
  refine DriveLoop.unique (fun flow p stepped stepped' h h' => ?_) hloop hloop'
  obtain ⟨_, hsteps⟩ := h
  obtain ⟨_, hsteps'⟩ := h'
  exact (hsteps.unique hsteps').2

/-- As many turns as there are phases to come, and one, are enough. -/
theorem stepLoop_stepFor (turns : Nat) (flow : AuthFlow) (p : Endpoint ε)
    (hturns : rank flow.role flow.phase < turns) :
    ∃ n ≤ rank flow.role flow.phase + 1, StepLoop n flow p (stepFor turns flow p) := by
  induction turns generalizing flow p with
  | zero => exact absurd hturns (Nat.not_lt_zero _)
  | succ turns ih =>
      rcases hturn : flow.turn p with ⟨phase | ⟨phase, wait⟩, q⟩ | ⟨e, q⟩
      · -- the phase that follows has a lower rank
        have hrank := rank_lt_of_turn hturn
        obtain ⟨n, hn, hloop⟩ := ih { flow with phase := phase } q
          (Nat.lt_of_lt_of_le hrank (Nat.le_of_lt_succ hturns))
        refine ⟨n + 1, Nat.succ_le_succ (Nat.le_trans hn hrank), ?_⟩
        rw [stepFor, hturn]
        exact .again hturn hloop
      · refine ⟨1, Nat.le_add_left 1 _, ?_⟩
        rw [stepFor, hturn]
        exact .waited hturn
      · refine ⟨1, Nat.le_add_left 1 _, ?_⟩
        rw [stepFor, hturn]
        exact .failed hturn

theorem stepLoop_step (flow : AuthFlow) (p : Endpoint ε) :
    ∃ turns ≤ (order flow.role).length, StepLoop turns flow p (flow.step p) := by
  obtain ⟨turns, hle, hloop⟩ := stepLoop_stepFor _ flow p (Nat.lt_succ_self _)
  exact ⟨turns, Nat.le_trans hle (rank_lt_order flow.role flow.phase), hloop⟩

theorem driveLoop_drive (flow : AuthFlow) (p : Endpoint ε) :
    ∃ steps ≤ 5, DriveLoop Stepped steps flow p (p.drive stage flow) := by
  -- of the rounds in the budget one is never needed
  obtain ⟨_, outcome, phase, q, hdrive, _⟩ :=
    driveFor_drives flow.role 5 flow.phase p (roundsAfter_le _ _ _ _)
  have hstepped : ∀ (flow : AuthFlow) (p : Endpoint ε), Stepped flow p (stage.step flow p) := by
    intro flow p
    obtain ⟨turns, _, hloop⟩ := stepLoop_step flow p
    exact ⟨turns, hloop⟩
  have hbudget : 5 ≤ stage.budget (ε := ε) flow := Nat.le_succ 5
  rw [drive_of_driveFor hdrive hbudget]
  exact driveLoop_of_driveFor hstepped hdrive

end StepLoop

/-- A call on the flight returns: the loop of `drive` takes at most five steps, and the loop of a
    step at most as many turns as there are phases. A turn that goes on at once goes on with a phase
    that comes later in the order of the role. -/
theorem drive_returns (flow : AuthFlow) (p : Endpoint ε) :
    (∃ steps ≤ 5, ∀ n result,
      DriveLoop Stepped n flow p result ↔ n = steps ∧ result = p.drive stage flow)
    ∧ (∃ turns ≤ 7, ∀ n result,
      StepLoop n flow p result ↔ n = turns ∧ result = flow.step p)
    ∧ ∀ phase q, flow.turn p = .ok (.next phase) q →
        [flow.phase, phase].Sublist (order flow.role) := by
  obtain ⟨steps, hsteps, hdrive⟩ := driveLoop_drive flow p
  obtain ⟨turns, hturns, hstep⟩ := stepLoop_step flow p
  refine ⟨⟨steps, hsteps, fun n result => ?_⟩, ⟨turns, ?_, fun n result => ?_⟩, ?_⟩
  · constructor
    · intro hloop
      exact driveLoop_unique hloop hdrive
    · rintro ⟨rfl, rfl⟩
      exact hdrive
  · cases hrole : flow.role <;> rw [hrole] at hturns <;> exact hturns
  · constructor
    · intro hloop
      exact hloop.unique hstep
    · rintro ⟨rfl, rfl⟩
      exact hstep
  · intro phase q hturn
    exact sublist_order_of_rank_lt (rank_lt_of_turn hturn)

end AuthFlow

end TlsHandshake
