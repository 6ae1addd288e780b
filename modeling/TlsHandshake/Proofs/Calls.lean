import TlsHandshake.Proofs.Flight.Standing
import TlsHandshake.Proofs.Recorded

set_option autoImplicit false

/-! # Calls on a connection

A run of a connection is a list of calls, made one after the other. `Connection.history` is what the
connection does to its surroundings meanwhile. -/

namespace TlsHandshake

/-! ## Fresh connections -/

namespace Connection

open AuthFlow

variable {ε : Type}

/-- A connection that is set up and has not begun. Bytes may be in its transcript already, and what
    it asks of its peer and is asked by it is free. -/
structure Fresh (c : Connection ε) : Prop where
  flow : c.flow = .new c.endpoint.context.role
  incomplete : c.complete = false
  wait : ¬ AuthFlow.awaitsMessage c.endpoint.context.wait
  message : c.endpoint.context.message = none

theorem Fresh.progress {c : Connection ε} (hfresh : c.Fresh)
    (Good : Bytes → CertificateVerify → Prop) :
    Progress c.endpoint.context Good c.flow.phase c.endpoint.context [] [] where
  settings := .refl _
  read := by rw [hfresh.message]; rfl
  unsent := rfl
  transcript := by
    rw [Context.afterBoth]
    cases c.endpoint.context.role <;>
      simp only [History.messagesSent_nil, List.flatten_nil, rawBytes_nil, List.append_nil]
  peer := by
    rw [hfresh.flow]
    cases hrole : c.endpoint.context.role with
    | server => exact .waiting hrole (Or.inl rfl) rfl
    | client => exact .unread (by rw [hrole]; rfl) rfl
  own := by
    rw [hfresh.flow]
    cases hrole : c.endpoint.context.role with
    | server => exact .unsent fun hclient => by rw [hrole] at hclient; cases hclient
    | client => exact .waiting hrole rfl
  message _ := hfresh.message

theorem Fresh.standing {c : Connection ε} (hfresh : c.Fresh)
    (Good : Bytes → CertificateVerify → Prop) :
    Standing c.endpoint.context Good c.flow.phase c.endpoint.context [] := by
  have hprogress := hfresh.progress Good
  by_cases hwait : c.endpoint.context.wait = .error
  · exact .failed hwait hprogress.outline
  · exact .live hwait hfresh.message (fun h => absurd h hfresh.wait) hprogress

theorem Fresh.role {c : Connection ε} (hfresh : c.Fresh) :
    c.flow.role = c.endpoint.context.role := by
  rw [hfresh.flow]
  cases c.endpoint.context.role <;> rfl

end Connection

/-! ## Runs -/

/-- What can be asked of a connection. -/
inductive Call where
  | handshake
  | processPostHandshake
  | flush
  | keyUpdate (request : KeyUpdateRequest)
  | resetEarlyDataReject
  deriving DecidableEq, Repr

/-- What a call returns. -/
inductive Answer where
  | ended (outcome : Outcome)
  | polled (answer : Except Error (Awaited Unit))
  | returned (answer : Except Error Unit)

namespace Connection

variable {ε : Type}

/-- The connection with a record of what it does to its surroundings; nothing is in it yet. -/
def recorded (c : Connection ε) : Connection (Recorded ε) :=
  { c with endpoint := ⟨c.endpoint.context, ⟨c.endpoint.environment, []⟩⟩ }

variable [Environment ε]

/-- Makes a call. -/
def call (c : Connection ε) : Call → Answer × Connection ε
  | .handshake => let (outcome, c) := c.handshake; (.ended outcome, c)
  | .processPostHandshake => let (a, c) := answerOf processPostHandshake c; (.polled a, c)
  | .flush => let (a, c) := answerOf flush c; (.polled a, c)
  | .keyUpdate request => let (a, c) := answerOf (keyUpdate request) c; (.returned a, c)
  | .resetEarlyDataReject => let (a, c) := answerOf resetEarlyDataReject c; (.returned a, c)

/-- Makes calls one after the other. -/
def run (c : Connection ε) : List Call → List Answer × Connection ε
  | [] => ([], c)
  | call :: calls =>
      let (answer, c) := c.call call
      let (answers, c) := c.run calls
      (answer :: answers, c)

/-- What a connection does to its surroundings during calls. -/
def history (c : Connection ε) (calls : List Call) : History :=
  (c.recorded.run calls).2.endpoint.environment.history

theorem run_nil (c : Connection ε) : c.run [] = ([], c) := rfl

theorem run_append (c : Connection ε) (calls calls' : List Call) :
    c.run (calls ++ calls')
      = ((c.run calls).1 ++ ((c.run calls).2.run calls').1, ((c.run calls).2.run calls').2) := by
  induction calls generalizing c with
  | nil => rfl
  | cons call calls ih =>
      simp only [List.cons_append, run, ih]

/-! ## Flushing -/

open AuthFlow

theorem flush_runs (c : Connection ε) :
    ∃ answer context env, answerOf flush c = (answer, { c with endpoint := ⟨context, env⟩ })
      ∧ Performs c.endpoint.environment [.flushed answer] env
      ∧ (context = c.endpoint.context ∨ context = c.endpoint.context.noteFlushed) := by
  cases hflush : Environment.flushFlight c.endpoint.environment with
  | ok answer env =>
      have hevent : Performs c.endpoint.environment [.flushed (.ok answer)] env :=
        Performs.single (answerOf_eq_ok_iff.2 hflush)
      cases answer with
      | ready =>
          refine ⟨_, c.endpoint.context.noteFlushed, env, ?_, hevent, Or.inr rfl⟩
          simp only [answerOf, flush, act, Engine.perform, Bind.bind, EStateM.bind, hflush]
          rfl
      | pending =>
          refine ⟨_, c.endpoint.context, env, ?_, hevent, Or.inl rfl⟩
          simp only [answerOf, flush, act, Engine.perform, Bind.bind, EStateM.bind, hflush]
          rfl
  | error e env =>
      refine ⟨.error e, c.endpoint.context, env, ?_,
        Performs.single (answerOf_eq_error_iff.2 hflush), Or.inl rfl⟩
      simp only [answerOf, flush, act, Engine.perform, Bind.bind, EStateM.bind, hflush]

/-! ## Where a connection stands -/

/-- Until its handshake succeeds, a connection stands where its record says, since its context was
    `c₀`. -/
structure Stands (c₀ : Context) (c : Connection (Recorded ε)) : Prop where
  role : c.flow.role = c₀.role
  standing : c.complete = false →
    Standing c₀ (fun _ _ => True) c.flow.phase c.endpoint.context c.endpoint.environment.history

section Stands

variable {c₀ : Context} {c : Connection (Recorded ε)}

omit [Environment ε] in
theorem Fresh.stands {c : Connection ε} (hfresh : c.Fresh) :
    Stands c.endpoint.context c.recorded :=
  ⟨hfresh.role, fun _ => hfresh.standing _⟩

/-- A call of `handshake` goes on from where the connection stands. -/
theorem Stands.handshake (hstands : Stands c₀ c) (hkeeps : c₀.config.KeepsPeer) :
    Stands c₀ c.handshake.2
      ∧ (c.complete = false → c.handshake.1 = .success →
        Standing c₀ (fun _ _ => True) .done c.handshake.2.endpoint.context
            c.handshake.2.endpoint.environment.history
          ∧ c.handshake.2.endpoint.context.wait = .ok) := by
  obtain ⟨h, outcome, phase, q, hdrive, hdrives⟩ := drive_drives c.flow c.endpoint
  have hhandshake : c.handshake
      = (outcome, ⟨q, ⟨c.flow.role, phase⟩, c.complete || outcome = .success⟩) := by
    rw [Connection.handshake, hdrive]
  have hstanding : c.complete = false →
      Standing c₀ (fun _ _ => True) phase q.context q.environment.history := by
    intro hcomplete
    rw [Recorded.history_of_performs hdrives.performs]
    rw [hstands.role] at hdrives
    exact hdrives.standing hkeeps (fun _ _ => trivial) (hstands.standing hcomplete)
  rw [hhandshake]
  refine ⟨⟨hstands.role, fun hcomplete => hstanding ?_⟩, fun hcomplete hsuccess => ?_⟩
  · exact (Bool.or_eq_false_iff.1 hcomplete).1
  · obtain rfl : outcome = .success := hsuccess
    obtain ⟨rfl, hwait⟩ := hdrives.done
    exact ⟨hstanding hcomplete, hwait⟩

theorem Stands.flush (hstands : Stands c₀ c) : Stands c₀ (answerOf flush c).2 := by
  obtain ⟨answer, context, env, hflush, hperforms, hcontext⟩ := flush_runs c
  rw [hflush]
  refine ⟨hstands.role, fun hcomplete => ?_⟩
  change Standing c₀ _ c.flow.phase context env.history
  rw [Recorded.history_of_performs hperforms]
  exact (hstands.standing hcomplete).flushed hcontext

omit [Environment ε] in
theorem Stands.resetEarlyDataReject (hstands : Stands c₀ c) :
    Stands c₀ (answerOf resetEarlyDataReject c).2 := by
  by_cases hwait : c.endpoint.context.wait = .earlyDataRejected
  · have hreset : answerOf Connection.resetEarlyDataReject c
        = (.ok (), c.setContext fun context => { context with wait := .ok }) := by
      simp only [answerOf, Connection.resetEarlyDataReject, Context.resetEarlyDataReject, hwait]
      rfl
    rw [hreset]
    refine ⟨hstands.role, fun hcomplete => ?_⟩
    rw [← List.append_nil (Recorded.history _)]
    refine (hstands.standing hcomplete).quiet {} rfl ?_ ?_ rfl rfl rfl fun _ => rfl
    · rw [hwait]
      constructor <;> intro h <;> cases h
    · rintro (h | h) <;> cases h
  · have hreset : (answerOf Connection.resetEarlyDataReject c).2 = c := by
      simp only [answerOf, Connection.resetEarlyDataReject, Context.resetEarlyDataReject,
        if_neg hwait]
    rw [hreset]
    exact hstands

omit [Environment ε] in
/-- Once the handshake is complete, an action keeps it so. -/
theorem stands_act (hstands : Stands c₀ c) (hcomplete : c.complete = true) {α : Type}
    (action : Engine (Recorded ε) α) : Stands c₀ (answerOf (act action) c).2 := by
  unfold answerOf act
  cases action c.endpoint <;>
    exact ⟨hstands.role, fun hincomplete => by rw [hcomplete] at hincomplete; cases hincomplete⟩

omit [Environment ε] in
theorem stands_actFinally (hstands : Stands c₀ c) (hcomplete : c.complete = true) {α : Type}
    (action : Engine (Recorded ε) α) : Stands c₀ (answerOf (actFinally action) c).2 := by
  unfold answerOf actFinally act
  cases action c.endpoint <;>
    exact ⟨hstands.role, fun hincomplete => by rw [hcomplete] at hincomplete; cases hincomplete⟩

/-- A call keeps a connection standing. -/
theorem Stands.call (hstands : Stands c₀ c) (hkeeps : c₀.config.KeepsPeer) (call : Call) :
    Stands c₀ (c.call call).2 := by
  cases call with
  | handshake => exact (hstands.handshake hkeeps).1
  | flush => exact hstands.flush
  | resetEarlyDataReject => exact hstands.resetEarlyDataReject
  | processPostHandshake =>
      change Stands c₀ (answerOf processPostHandshake c).2
      unfold processPostHandshake
      by_cases hearly : (!c.complete || c.endpoint.context.wait = .error) = true
      · simp only [answerOf, hearly, if_true]
        exact hstands
      · have hcomplete : c.complete = true := by
          cases h : c.complete with
          | true => rfl
          | false => exact absurd (by rw [h]; rfl) hearly
        simp only [answerOf, hearly]
        exact stands_actFinally hstands hcomplete _
  | keyUpdate request =>
      change Stands c₀ (answerOf (keyUpdate request) c).2
      unfold keyUpdate
      cases hcomplete : c.complete with
      | false =>
          simp only [answerOf, hcomplete, Bool.not_false, if_true]
          exact hstands
      | true =>
          simp only [answerOf, hcomplete]
          exact stands_act hstands hcomplete _

theorem Stands.run (hstands : Stands c₀ c) (hkeeps : c₀.config.KeepsPeer)
    (calls : List Call) : Stands c₀ (c.run calls).2 := by
  induction calls generalizing c with
  | nil => exact hstands
  | cons call calls ih => exact ih (hstands.call hkeeps call)

end Stands

/-! ## Completeness of the handshake -/

/-- A handshake that is done stays done. -/
theorem handshake_of_done {c : Connection ε} (hphase : c.flow.phase = .done)
    (hwait : c.endpoint.context.wait = .ok) :
    c.handshake = (.success, { c with complete := true }) := by
  obtain ⟨⟨context, environment⟩, ⟨role, phase⟩, complete⟩ := c
  obtain rfl : phase = .done := hphase
  change context.wait = .ok at hwait
  have hsame : { context with wait := .ok } = context := by rw [← hwait]
  have hsettle : (⟨context, environment⟩ : Endpoint ε).settle = (none, ⟨context, environment⟩) := by
    simp only [Endpoint.settle, hwait]
  have hdrive : Endpoint.drive stage (AuthFlow.mk role .done) (⟨context, environment⟩ : Endpoint ε)
      = (.success, ⟨role, .done⟩, ⟨{ context with wait := .ok }, environment⟩) := by
    simp only [Endpoint.drive, stage, Endpoint.driveFor, hsettle]
    rfl
  rw [handshake, hdrive, hsame]
  simp only [decide_true, Bool.or_true]

/-- A connection whose calls have not succeeded is not complete. -/
theorem call_complete (c : Connection ε) (call : Call) (hcomplete : c.complete = false)
    (hanswer : (c.call call).1 ≠ .ended .success) : (c.call call).2.complete = false := by
  cases call with
  | handshake =>
      have houtcome : c.handshake.1 ≠ .success := fun h => hanswer (by rw [← h]; rfl)
      change (c.complete || decide (c.handshake.1 = .success)) = false
      rw [hcomplete, decide_eq_false houtcome]
      rfl
  | flush =>
      change (answerOf flush c).2.complete = false
      obtain ⟨answer, context, env, hflush, _, _⟩ := flush_runs c
      rw [hflush]
      exact hcomplete
  | resetEarlyDataReject =>
      change (answerOf Connection.resetEarlyDataReject c).2.complete = false
      simp only [answerOf, Connection.resetEarlyDataReject]
      cases c.endpoint.context.resetEarlyDataReject <;> exact hcomplete
  | processPostHandshake =>
      change (answerOf processPostHandshake c).2.complete = false
      unfold processPostHandshake
      simp only [answerOf, hcomplete, Bool.not_false, Bool.true_or, if_true]
  | keyUpdate request =>
      change (answerOf (keyUpdate request) c).2.complete = false
      unfold keyUpdate
      simp only [answerOf, hcomplete, Bool.not_false, if_true]

/-- Until a handshake call succeeds, the connection is not complete. -/
theorem run_complete (c : Connection ε) (calls : List Call) (hcomplete : c.complete = false)
    (hanswers : Answer.ended .success ∉ (c.run calls).1) :
    (c.run calls).2.complete = false := by
  induction calls generalizing c with
  | nil => exact hcomplete
  | cons call calls ih =>
      rw [run, List.mem_cons, not_or] at hanswers
      exact ih _ (call_complete c call hcomplete (Ne.symm hanswers.1)) hanswers.2

end Connection

end TlsHandshake
