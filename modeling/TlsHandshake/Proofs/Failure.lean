import TlsHandshake.Memory.Desk
import TlsHandshake.Proofs.Alerts

set_option autoImplicit false

/-! # Failed connections

A context that has failed is the end of a connection for the handshake and for the messages after
it. `keyUpdate` and `flush` do not look at the context, though: neither refuses a failed connection,
and neither fails the context when it fails itself. Main statements: `run_of_failed` and
`failures_end`, with what the two calls do in place of what the others do; `Rehearsal` shows both on
a server. -/

namespace TlsHandshake

/-! ## Calls on a failed connection -/

/-- Whether a call has returned a failure. -/
def Answer.isFailure : Answer → Bool
  | .ended (.fatal _) | .polled (.error _) | .returned (.error _) => true
  | _ => false

/-- The events of a key update of ours. -/
inductive Event.OfUpdate (request : KeyUpdateRequest) : Event → Prop
  | queued (answer : Except Error Unit) : OfUpdate request (.queued request.encode answer)
  | rotated (answer : Except Error Unit) : OfUpdate request (.rotated .write answer)
  | alerted : OfUpdate request (.fatal .internalError)

namespace Engine

variable {request : KeyUpdateRequest} {c c' : Context} {h : History} {answer : Except Error Unit}
  {e : Error}

theorem StartsUpdate.ofUpdate (hstarts : StartsUpdate request c h answer c') :
    ∀ event ∈ h, event.OfUpdate request := by
  cases hstarts with
  | pending => exact List.forall_mem_nil _
  | started _ hqueues =>
      cases hqueues <;>
        simp only [List.forall_mem_cons, List.not_mem_nil, false_implies, implies_true, and_true]
      · exact ⟨.queued _, .alerted⟩
      · exact ⟨.queued _, .rotated _, .alerted⟩
      · exact ⟨.queued _, .rotated _⟩

/-- A key update that fails leaves the context as it was. -/
theorem StartsUpdate.of_error (hstarts : StartsUpdate request c h (.error e) c') :
    c' = c ∧ (h = [.queued request.encode (.error e), .fatal .internalError]
      ∨ h = [.queued request.encode (.ok ()), .rotated .write (.error e),
        .fatal .internalError]) := by
  cases hstarts with
  | started _ hqueues =>
      cases hqueues with
      | unqueued => exact ⟨rfl, Or.inl rfl⟩
      | unrotated => exact ⟨rfl, Or.inr rfl⟩

end Engine

namespace Connection

open AuthFlow Endpoint Engine

/-- `c'` is as `c`, except for whether a KeyUpdate is to be flushed and for the surroundings. -/
structure Unmoved {ε : Type} (c c' : Connection ε) : Prop where
  context : ∃ pending, c'.endpoint.context = { c.endpoint.context with keyUpdatePending := pending }
  flow : c'.flow = c.flow
  complete : c'.complete = c.complete

namespace Unmoved

variable {ε : Type} {c c' c'' : Connection ε}

theorem refl (c : Connection ε) : Unmoved c c := ⟨⟨_, rfl⟩, rfl, rfl⟩

theorem trans (h : Unmoved c c') (h' : Unmoved c' c'') : Unmoved c c'' where
  context := by
    obtain ⟨_, hcontext⟩ := h.context
    obtain ⟨pending, hcontext'⟩ := h'.context
    exact ⟨pending, by rw [hcontext', hcontext]⟩
  flow := h'.flow.trans h.flow
  complete := h'.complete.trans h.complete

theorem wait (h : Unmoved c c') : c'.endpoint.context.wait = c.endpoint.context.wait := by
  obtain ⟨_, hcontext⟩ := h.context
  rw [hcontext]

end Unmoved

variable {ε : Type} [Environment ε]

section Failed

variable {c c' : Connection ε} {h : History}

/-- A call on a failed connection leaves it where it is; only `flush` and a `keyUpdate` on a
    complete connection do anything. -/
theorem Called.of_failed {call : Call} {answer : Answer} (hcalled : Called c call h answer c')
    (hwait : c.endpoint.context.wait = .error) :
    Unmoved c c'
    ∧ (call = .flush ∨ answer.isFailure = true
      ∨ ∃ request, call = .keyUpdate request ∧ c.complete = true)
    ∧ ∀ event ∈ h, (∃ answer, event = .flushed answer)
      ∨ ∃ request, call = .keyUpdate request ∧ c.complete = true ∧ event.OfUpdate request := by
  cases hcalled with
  | handshake hdrives =>
      obtain ⟨rfl, rfl, rfl, rfl⟩ := hdrives.of_error hwait
      exact ⟨⟨⟨_, rfl⟩, rfl, Bool.or_false _⟩, Or.inr (Or.inl rfl), List.forall_mem_nil _⟩
  | processed _ hlive => exact absurd hwait hlive
  | flushed | flushDelayed | flushFailed =>
      refine ⟨⟨⟨_, rfl⟩, rfl, rfl⟩, Or.inl rfl, fun event hmem => Or.inl ?_⟩
      rw [List.mem_singleton.1 hmem]
      exact ⟨_, rfl⟩
  | keyUpdateStarted hcomplete hstarted =>
      exact ⟨⟨hstarted.1.context, rfl, rfl⟩, Or.inr (Or.inr ⟨_, rfl, hcomplete⟩),
        fun event hmem => Or.inr ⟨_, rfl, hcomplete, hstarted.1.ofUpdate event hmem⟩⟩
  | postHandshakeTooEarly | keyUpdateTooEarly | earlyDataNotRejected =>
      exact ⟨.refl c, Or.inr (Or.inl rfl), List.forall_mem_nil _⟩
  | earlyDataReset hrejected =>
      rw [hwait] at hrejected
      cases hrejected

theorem Ran.of_failed {calls : List Call} {answers : List Answer} (hran : Ran c calls h answers c')
    (hwait : c.endpoint.context.wait = .error) :
    Unmoved c c'
    ∧ (∀ call answer, (call, answer) ∈ calls.zip answers → call = .flush ∨ answer.isFailure = true
      ∨ ∃ request, call = .keyUpdate request ∧ c.complete = true)
    ∧ ∀ event ∈ h, (∃ answer, event = .flushed answer)
      ∨ ∃ request, .keyUpdate request ∈ calls ∧ c.complete = true ∧ event.OfUpdate request := by
  induction hran with
  | nil =>
      exact ⟨.refl _, fun _ _ hmem => absurd hmem List.not_mem_nil, List.forall_mem_nil _⟩
  | cons hcalled _ ih =>
      obtain ⟨hunmoved, hanswer, hevents⟩ := hcalled.of_failed hwait
      obtain ⟨hrest, hanswers, hlater⟩ := ih (hunmoved.wait.trans hwait)
      rw [hunmoved.complete] at hanswers hlater
      refine ⟨hunmoved.trans hrest, fun call answer hmem => ?_, fun event hmem => ?_⟩
      · rw [List.zip_cons_cons, List.mem_cons] at hmem
        rcases hmem with heq | hmem
        · cases heq
          exact hanswer
        · exact hanswers call answer hmem
      · rcases List.mem_append.1 hmem with hmem | hmem
        · exact (hevents event hmem).imp_right fun ⟨request, hcall, hupdate⟩ =>
            ⟨request, hcall ▸ List.mem_cons_self, hupdate⟩
        · exact (hlater event hmem).imp_right fun ⟨request, hcall, hupdate⟩ =>
            ⟨request, List.mem_cons_of_mem _ hcall, hupdate⟩

end Failed

/-- A connection that has failed never recovers: its phase, its transcript, its session and the rest
    stay as they are, nothing is read any more, and all that can still happen is that it is flushed
    and, if it had been complete, that it updates its sending key. Apart from these two calls every
    call returns a failure. -/
theorem run_of_failed {c : Connection ε} (calls : List Call)
    (hwait : c.endpoint.context.wait = .error) :
    Unmoved c (c.run calls).2
    ∧ (∀ call answer, (call, answer) ∈ calls.zip (c.run calls).1 →
      call = .flush ∨ answer.isFailure = true
      ∨ ∃ request, call = .keyUpdate request ∧ c.complete = true)
    ∧ ∀ event ∈ c.history calls, (∃ answer, event = .flushed answer)
      ∨ ∃ request, .keyUpdate request ∈ calls ∧ c.complete = true ∧ event.OfUpdate request := by
  obtain ⟨c', hran, hafter⟩ := history_ran c calls
  obtain ⟨hunmoved, hanswers, hevents⟩ := hran.of_failed hwait
  refine ⟨?_, hanswers, hevents⟩
  rw [hafter]
  exact ⟨hunmoved.context, hunmoved.flow, hunmoved.complete⟩

/-! ## Calls that fail -/

/-- What is left of a connection when a call on it fails. The handshake and the processing of a message
    leave it failed, unless it is too early for the message. A flush that fails leaves the context as
    it was, and so does a key update, though it tells the peer that it has failed and may have queued
    its message already. -/
theorem failures_end (c : Connection ε) :
    (∀ e, c.handshake.1 = .fatal e → c.handshake.2.endpoint.context.wait = .error)
    ∧ (∀ e c', answerOf processPostHandshake c = (.error e, c') →
      c'.endpoint.context.wait = .error
      ∨ c.complete = false ∧ e = .internal .postHandshakeTooEarly ∧ c' = c)
    ∧ (∀ e c', answerOf flush c = (.error e, c') →
      c.history [.flush] = [.flushed (.error e)] ∧ c'.endpoint.context = c.endpoint.context)
    ∧ ∀ request e c', answerOf (keyUpdate request) c = (.error e, c') →
      (c.complete = false ∧ e = .internal .keyUpdateTooEarly ∧ c' = c)
      ∨ (c.complete = true ∧ c'.endpoint.context = c.endpoint.context
        ∧ (c.history [.keyUpdate request]
            = [.queued request.encode (.error e), .fatal .internalError]
          ∨ c.history [.keyUpdate request]
            = [.queued request.encode (.ok ()), .rotated .write (.error e), .fatal .internalError])) := by
  refine ⟨fun e houtcome => ?_, fun e c' hanswer => ?_, fun e c' hanswer => ?_,
    fun request e c' hanswer => ?_⟩
  · obtain ⟨h, hcalled⟩ := handshake_called c
    rw [houtcome] at hcalled
    generalize c.handshake.2 = c' at hcalled ⊢
    cases hcalled with
    | handshake hdrives => exact hdrives.wait_of_fatal
  · obtain ⟨h, hcalled⟩ := call_called c .processPostHandshake
    rw [Connection.call, hanswer] at hcalled
    cases hcalled with
    | postHandshakeTooEarly hearly =>
        rcases hearly with hearly | hearly
        · exact Or.inr ⟨hearly, rfl, rfl⟩
        · exact Or.inl hearly
    | processed _ _ hprocessed => exact Or.inl hprocessed.fails.2.2
  · obtain ⟨r, hcalled, hafter⟩ := history_called c .flush
    rw [Connection.call, hanswer] at hcalled hafter
    generalize c.history [.flush] = h at hcalled ⊢
    cases hcalled with
    | flushFailed => exact ⟨rfl, congrArg (·.endpoint.context) hafter⟩
  · obtain ⟨r, hcalled, hafter⟩ := history_called c (.keyUpdate request)
    rw [Connection.call, hanswer] at hcalled hafter
    generalize c.history [.keyUpdate request] = h at hcalled ⊢
    cases hcalled with
    | keyUpdateTooEarly hearly => exact Or.inl ⟨hearly, rfl, hafter⟩
    | keyUpdateStarted hcomplete hstarted =>
        obtain ⟨hcontext, hevents⟩ := hstarted.1.of_error
        exact Or.inr ⟨hcomplete, (congrArg (·.endpoint.context) hafter).trans hcontext, hevents⟩

end Connection

/-! ## A rehearsal

A server without a chain, whose client has sent its Finished. -/

namespace Rehearsal

/-- The server, with `incoming` to read. -/
def bareServer (incoming : Bytes) : Connection Desk :=
  .new { role := .server }
    { socket := { incoming := { stream := .ofBytes incoming } },
      keys := { algorithm := .sha256, clientKey := [1], serverKey := [2] } }

/-- The Finished of the client that the server expects. -/
def clientFinished : Bytes :=
  let mac := (bareServer []).handshake.2.endpoint.context.expectedClientFinished
  (Finished.encode (mac.getD [])).toOption.getD []

/-- The server once its handshake has succeeded; an operation is going to fail. -/
def faultyServer (operation : Operation) : Connection Desk :=
  (bareServer clientFinished).handshake.2.onEnvironment (Desk.planFault operation (.io ""))

/-- The server once its handshake has succeeded and a message of no known type has come. -/
def failedServer : Connection Desk :=
  ((bareServer (clientFinished ++ [0x63, 0, 0, 0])).run [.handshake, .processPostHandshake]).2

/-- More calls on the failed server. -/
def furtherCalls : List Call := [.handshake, .processPostHandshake, .flush, .keyUpdate .requested]

set_option maxRecDepth 100000 in
/-- The failed server stays as it is. -/
theorem failedServer_stays :
    Connection.Unmoved failedServer (failedServer.run furtherCalls).2
    ∧ (∀ call answer, (call, answer) ∈ furtherCalls.zip (failedServer.run furtherCalls).1 →
      call = .flush ∨ answer.isFailure = true
      ∨ ∃ request, call = .keyUpdate request ∧ failedServer.complete = true)
    ∧ ∀ event ∈ failedServer.history furtherCalls, (∃ answer, event = .flushed answer)
      ∨ ∃ request, .keyUpdate request ∈ furtherCalls ∧ failedServer.complete = true
        ∧ event.OfUpdate request :=
  Connection.run_of_failed furtherCalls (by decide +kernel)

set_option maxRecDepth 100000 in
/-- The failed server still updates its sending key when it is asked to. -/
theorem failedServer_updates :
    let updated := failedServer.call (.keyUpdate .notRequested)
    failedServer.endpoint.context.wait = .error
    ∧ failedServer.endpoint.environment.keys.writeGeneration = 0
    ∧ failedServer.endpoint.environment.socket.outbox.flight.toBytes = []
    ∧ updated.1.isFailure = false
    ∧ updated.2.endpoint.environment.keys.writeGeneration = 1
    ∧ updated.2.endpoint.environment.socket.outbox.flight.toBytes
      = KeyUpdateRequest.notRequested.encode := by
  decide +kernel

set_option maxRecDepth 100000 in
/-- A server whose key cannot be moved on goes on with the message queued, and one that cannot flush
    goes on too. -/
theorem faultyServer_goes_on :
    let updated := (faultyServer (.rotate .write)).call (.keyUpdate .notRequested)
    let flushed := (faultyServer .flush).call .flush
    updated.1.isFailure = true
    ∧ updated.2.endpoint.context.wait = .ok
    ∧ updated.2.endpoint.environment.keys.writeGeneration = 0
    ∧ updated.2.endpoint.environment.socket.outbox.flight.toBytes
      = KeyUpdateRequest.notRequested.encode
    ∧ flushed.1.isFailure = true
    ∧ flushed.2.endpoint.context.wait = .ok := by
  decide +kernel

end Rehearsal

end TlsHandshake
