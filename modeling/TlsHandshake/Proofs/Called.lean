import TlsHandshake.Proofs.Mirror
import TlsHandshake.Proofs.PostHandshake

set_option autoImplicit false

/-! # What a call can do

`Called` lists the ways in which each of the calls on a connection ends, from whatever state it is
made. Main statements: every call is one of these (`call_called`), and so the history of a run is
put together from what its calls do (`history_ran`). -/

namespace TlsHandshake.Connection

open AuthFlow Endpoint

variable {ε : Type} [Environment ε]

/-- The ways in which a call on `c` ends: the events, the answer, and the connection after. -/
inductive Called (c : Connection ε) : Call → History → Answer → Connection ε → Prop
  | handshake {h : History} {outcome : Outcome} {phase : Phase} {q : Endpoint ε}
      (hdrives : Drives c.flow.role c.flow.phase c.endpoint h outcome phase q) :
      Called c .handshake h (.ended outcome)
        ⟨q, ⟨c.flow.role, phase⟩, c.complete || outcome = .success⟩
  | postHandshakeTooEarly (hearly : c.complete = false ∨ c.endpoint.context.wait = .error) :
      Called c .processPostHandshake [] (.polled (.error (.internal .postHandshakeTooEarly))) c
  | processed {h : History} {answer : Except Error (Awaited Unit)} {q : Endpoint ε}
      (hcomplete : c.complete = true) (hwait : c.endpoint.context.wait ≠ .error)
      (hprocessed : Processed c.endpoint h answer q) :
      Called c .processPostHandshake h (.polled answer) { c with endpoint := q }
  | flushed {env : ε} (hflush : Performs c.endpoint.environment [.flushed (.ok (.ready ()))] env) :
      Called c .flush [.flushed (.ok (.ready ()))] (.polled (.ok (.ready ())))
        { c with endpoint := ⟨c.endpoint.context.noteFlushed, env⟩ }
  | flushDelayed {env : ε}
      (hflush : Performs c.endpoint.environment [.flushed (.ok .pending)] env) :
      Called c .flush [.flushed (.ok .pending)] (.polled (.ok .pending))
        { c with endpoint := ⟨c.endpoint.context, env⟩ }
  | flushFailed {e : Error} {env : ε}
      (hflush : Performs c.endpoint.environment [.flushed (.error e)] env) :
      Called c .flush [.flushed (.error e)] (.polled (.error e))
        { c with endpoint := ⟨c.endpoint.context, env⟩ }
  | keyUpdateTooEarly {request : KeyUpdateRequest} (hearly : c.complete = false) :
      Called c (.keyUpdate request) [] (.returned (.error (.internal .keyUpdateTooEarly))) c
  | keyUpdateStarted {request : KeyUpdateRequest} {h : History} {answer : Except Error Unit}
      {q : Endpoint ε} (hcomplete : c.complete = true)
      (hstarted : Started request c.endpoint h answer q) :
      Called c (.keyUpdate request) h (.returned answer) { c with endpoint := q }
  | earlyDataReset (hwait : c.endpoint.context.wait = .earlyDataRejected) :
      Called c .resetEarlyDataReject [] (.returned (.ok ())) (c.setContext ({ · with wait := .ok }))
  | earlyDataNotRejected (hwait : c.endpoint.context.wait ≠ .earlyDataRejected) :
      Called c .resetEarlyDataReject [] (.returned (.error (.internal .earlyDataNotRejected))) c

section Called

variable {c c' : Connection ε} {call : Call} {h : History} {answer : Answer}

/-- A call performs the events of its history. -/
theorem Called.performs (hcalled : Called c call h answer c') :
    Performs c.endpoint.environment h c'.endpoint.environment := by
  cases hcalled with
  | handshake hdrives => exact hdrives.performs
  | processed _ _ hprocessed => exact hprocessed.performs
  | flushed hflush | flushDelayed hflush | flushFailed hflush => exact hflush
  | keyUpdateStarted _ hstarted => exact hstarted.2
  | postHandshakeTooEarly | keyUpdateTooEarly | earlyDataReset | earlyDataNotRejected =>
      exact Performs.nil _

theorem handshake_called (c : Connection ε) :
    ∃ h, Called c .handshake h (.ended c.handshake.1) c.handshake.2 := by
  obtain ⟨h, outcome, phase, q, hdrive, hdrives⟩ := drive_drives c.flow c.endpoint
  refine ⟨h, ?_⟩
  rw [Connection.handshake, hdrive]
  exact .handshake hdrives

theorem flush_called (c : Connection ε) :
    ∃ h, Called c .flush h (c.call .flush).1 (c.call .flush).2 := by
  cases hflush : Environment.flushFlight c.endpoint.environment with
  | ok answer env =>
      have hevent : Performs c.endpoint.environment [.flushed (.ok answer)] env :=
        Performs.single (answerOf_eq_ok_iff.2 hflush)
      cases answer with
      | ready =>
          refine ⟨[.flushed (.ok (.ready ()))], ?_⟩
          simp only [Connection.call, answerOf, flush, act, Engine.perform, Bind.bind, EStateM.bind,
            hflush, if_true]
          exact .flushed hevent
      | pending =>
          refine ⟨[.flushed (.ok .pending)], ?_⟩
          simp only [Connection.call, answerOf, flush, act, Engine.perform, Bind.bind, EStateM.bind,
            hflush]
          exact .flushDelayed hevent
  | error e env =>
      refine ⟨[.flushed (.error e)], ?_⟩
      simp only [Connection.call, answerOf, flush, act, Engine.perform, Bind.bind, EStateM.bind,
        hflush]
      exact .flushFailed (Performs.single (answerOf_eq_error_iff.2 hflush))

/-- Every call ends in one of the ways listed. -/
theorem call_called (c : Connection ε) (call : Call) :
    ∃ h, Called c call h (c.call call).1 (c.call call).2 := by
  cases call with
  | handshake => exact handshake_called c
  | flush => exact flush_called c
  | processPostHandshake =>
      by_cases hearly : c.complete = false ∨ c.endpoint.context.wait = .error
      · have hprocess : answerOf processPostHandshake c
            = (.error (.internal .postHandshakeTooEarly), c) := by
          rw [answerOf, processPostHandshake, if_pos (by simpa using hearly)]
        rw [Connection.call, hprocess]
        exact ⟨_, .postHandshakeTooEarly hearly⟩
      · obtain ⟨hcomplete, hwait⟩ := not_or.1 hearly
        have hcomplete : c.complete = true := Bool.of_not_eq_false hcomplete
        obtain ⟨h, answer, q, hprocess, hprocessed⟩ :=
          processPostHandshake_processed hcomplete hwait
        rw [Connection.call, hprocess]
        exact ⟨h, .processed hcomplete hwait hprocessed⟩
  | keyUpdate request =>
      cases hcomplete : c.complete with
      | false =>
          have hupdate : answerOf (keyUpdate request) c
              = (.error (.internal .keyUpdateTooEarly), c) := by
            rw [answerOf, keyUpdate, if_pos (by simpa using hcomplete)]
          rw [Connection.call, hupdate]
          exact ⟨_, .keyUpdateTooEarly hcomplete⟩
      | true =>
          obtain ⟨h, answer, q, hupdate, hstarted⟩ := keyUpdate_started hcomplete request
          rw [Connection.call, hupdate]
          exact ⟨h, .keyUpdateStarted hcomplete hstarted⟩
  | resetEarlyDataReject =>
      by_cases hwait : c.endpoint.context.wait = .earlyDataRejected
      · refine ⟨[], ?_⟩
        simp only [Connection.call, answerOf, resetEarlyDataReject, Context.resetEarlyDataReject,
          if_pos hwait]
        exact .earlyDataReset hwait
      · refine ⟨[], ?_⟩
        simp only [Connection.call, answerOf, resetEarlyDataReject, Context.resetEarlyDataReject,
          if_neg hwait]
        exact .earlyDataNotRejected hwait

end Called

/-! ## Runs -/

/-- Calls made one after the other. -/
inductive Ran : Connection ε → List Call → History → List Answer → Connection ε → Prop
  | nil {c : Connection ε} : Ran c [] [] [] c
  | cons {c c' c'' : Connection ε} {call : Call} {calls : List Call} {g h : History}
      {answer : Answer} {answers : List Answer} (hcalled : Called c call g answer c')
      (hran : Ran c' calls h answers c'') : Ran c (call :: calls) (g ++ h) (answer :: answers) c''

theorem run_ran (c : Connection ε) (calls : List Call) :
    ∃ h, Ran c calls h (c.run calls).1 (c.run calls).2 := by
  induction calls generalizing c with
  | nil => exact ⟨[], .nil⟩
  | cons call calls ih =>
      obtain ⟨g, hcalled⟩ := call_called c call
      obtain ⟨h, hran⟩ := ih (c.call call).2
      exact ⟨g ++ h, .cons hcalled hran⟩

theorem Ran.performs {c c' : Connection ε} {calls : List Call} {h : History} {answers : List Answer}
    (hran : Ran c calls h answers c') :
    Performs c.endpoint.environment h c'.endpoint.environment := by
  induction hran with
  | nil => exact Performs.nil _
  | cons hcalled _ ih => exact hcalled.performs.append ih

/-- The history of a run is what its calls do on the recorded connection. -/
theorem history_ran (c : Connection ε) (calls : List Call) :
    ∃ c', Ran c.recorded calls (c.history calls) (c.run calls).1 c'
      ∧ (c.run calls).2 = c'.forget := by
  obtain ⟨h, hran⟩ := run_ran c.recorded calls
  have hhistory : c.history calls = h := Recorded.history_of_performs hran.performs
  rw [hhistory, run_recorded]
  exact ⟨_, hran, rfl⟩

/-- The history of one call is what it does on the recorded connection. -/
theorem history_called (c : Connection ε) (call : Call) :
    ∃ c', Called c.recorded call (c.history [call]) (c.call call).1 c'
      ∧ (c.call call).2 = c'.forget := by
  obtain ⟨h, hcalled⟩ := call_called c.recorded call
  have hhistory : c.history [call] = h := Recorded.history_of_performs hcalled.performs
  have hforget : c.call call = ((c.recorded.call call).1, (c.recorded.call call).2.forget) :=
    call_forget c.recorded call
  rw [hhistory, hforget]
  exact ⟨_, hcalled, rfl⟩

/-- What a call does to its surroundings, they perform. -/
theorem history_performs (c : Connection ε) (call : Call) :
    Performs c.endpoint.environment (c.history [call]) (c.call call).2.endpoint.environment := by
  obtain ⟨c', hcalled, hafter⟩ := history_called c call
  rw [hafter]
  exact Recorded.performs_forget hcalled.performs

end TlsHandshake.Connection
