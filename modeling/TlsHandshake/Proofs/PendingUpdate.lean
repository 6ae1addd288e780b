import TlsHandshake.Proofs.InternalErrors
import TlsHandshake.Proofs.Receipts

set_option autoImplicit false

/-! # The KeyUpdate that is to be flushed

Once a handshake has succeeded, the flight is empty, and only KeyUpdates are queued from then on: one
at a time, each with one step of the sending key, and the context marks it until it is flushed. Main
statement: `Connection.one_update_pending`, the mark and the flight agree at every later point. That
the flight is empty at the start is shown with an invariant of the handshake, that an end that has
sent Finished and does not wait for a flush has nothing left to flush (`flushed_kept`). -/

namespace TlsHandshake

open AuthFlow Endpoint Engine

/-! ## Flights and histories -/

/-- Whether an event queues a message or moves the sending key on. -/
def Event.updatesSending : Event → Bool
  | queued .. => true
  | rotated .write _ => true
  | _ => false

/-- What a history queues and how it moves the sending key on, in order. -/
def History.sendingUpdates (h : History) : History := h.filter Event.updatesSending

theorem History.messagesSent_sendingUpdates (h : History) :
    h.sendingUpdates.messagesSent = h.messagesSent := by
  unfold sendingUpdates messagesSent
  rw [List.filterMap_filter]
  congr 1
  funext event
  cases event with
  | queued => rfl
  | _ => simp [Event.sent?]

section Flights

variable {s s' : Socket} {event : Event}

/-- Unless it hands the flight over, an event leaves the flight and adds what it queues. -/
theorem Event.OnSocket.flight (h : event.OnSocket s s')
    (hkept : event ≠ .flushed (.ok (.ready ()))) :
    s'.outbox.flight.toBytes = s.outbox.flight.toBytes ++ event.sent?.toList.flatten := by
  cases event with
  | flushed answer =>
      obtain ⟨rfl, rfl⟩ := h
      cases hblocked : s.outbox.blocked with
      | true =>
          rw [Socket.flush_of_blocked hblocked]
          exact (List.append_nil _).symm
      | false =>
          rw [Socket.flush_of_unblocked hblocked] at hkept
          exact absurd rfl hkept
  | queued message answer =>
      obtain ⟨rfl, rfl⟩ := h
      simp [Socket.addMessage, Event.sent?]
  | alerted a =>
      obtain rfl := h
      exact (List.append_nil _).symm
  | _ =>
      obtain ⟨_, hflight, _⟩ := h.sendsNothing (by simp) (by simp) (by simp)
      rw [hflight]
      exact (List.append_nil _).symm

variable {σ τ : Type} [SigningDevice σ] [TicketHandler τ] {e e' : Station FinishedKeys σ τ}
  {h : History}

theorem flight_of_performs_unflushed (hperforms : Performs e h e')
    (hkept : .flushed (.ok (.ready ())) ∉ h) :
    e'.socket.outbox.flight.toBytes = e.socket.outbox.flight.toBytes ++ h.messagesSent.flatten := by
  rw [h.flatten_messagesSent]
  refine hperforms.grows (fun e => e.socket.outbox.flight.toBytes) ?_
  intro event hmem _ _ heffect
  exact heffect.onSocket.flight fun heq => hkept (heq ▸ hmem)

/-- A flush that is ready leaves nothing in the flight. -/
theorem flight_of_flushed (hperforms : Performs e [.flushed (.ok (.ready ()))] e') :
    e'.socket.outbox.flight.toBytes = [] := by
  obtain ⟨_, heffect, rfl⟩ := hperforms
  rcases heffect.flushed with ⟨hanswer, _⟩ | ⟨_, hempty⟩
  · cases hanswer
  · exact hempty

end Flights

/-! ## During the handshake -/

/-- A wait that a flush comes first for. -/
def Wait.Flushes (wait : Wait) : Prop := wait = .flush ∨ wait = .flushAndReadMessage

section Handshake

variable {role : Role} {signer? : Option SignerInfo} {phase : Phase} {c c' : Context} {h : History}

/-- Settling a wait ends in a failure or in the same wait for a flush, or begins with a flush, or has
    nothing to do with flushes. -/
theorem Endpoint.Settles.flush_cases {o : Option Outcome} (hsettles : Settles c h o c') :
    (o ≠ none ∧ (c'.wait = .error ∨ c'.wait.Flushes))
    ∨ (c'.keyUpdatePending = false ∧ ∃ g, h = .flushed (.ok (.ready ())) :: g)
    ∨ c.wait ≠ .error ∧ ¬ c.wait.Flushes ∧ c'.keyUpdatePending = c.keyUpdatePending := by
  cases hsettles with
  | failed hwait => exact Or.inl ⟨nofun, Or.inl hwait⟩
  | flushDelayed hwait => exact Or.inl ⟨nofun, Or.inr hwait⟩
  | flushFailed | readFailed | flushedThenFailed | changeCipherSpecFailed =>
      exact Or.inl ⟨nofun, Or.inl rfl⟩
  | flushed | flushedThenRead | flushedThenDelayed => exact Or.inr (Or.inl ⟨rfl, _, rfl⟩)
  | messageRead hwait | readDelayed hwait | changeCipherSpecRead hwait
    | changeCipherSpecDelayed hwait | earlyDataReadable hwait | earlyDataEnded hwait | worked hwait
    | earlyDataRejected hwait | idle hwait =>
      refine Or.inr (Or.inr ⟨by rw [hwait]; nofun, ?_, rfl⟩)
      rintro (hflush | hflush) <;> cases hwait.symm.trans hflush

@[simp] theorem Context.accept_keyUpdatePending (c : Context) :
    c.accept.keyUpdatePending = c.keyUpdatePending := by
  rw [accept, recordMessage]
  cases c.message <;> rfl

theorem AuthFlow.Advance.keyUpdatePending {turn : Turn}
    (hadvance : Advance role signer? phase c h turn c') :
    c'.keyUpdatePending = c.keyUpdatePending := by
  cases hadvance <;> simp [Context.record]

/-- The turn that sends Finished waits for a flush; the later turns send nothing. -/
theorem AuthFlow.Advance.finished_cases {turn : Turn}
    (hadvance : Advance role signer? phase c h turn c') (hsent : FinishedSent role turn.phase) :
    (∃ phase' wait, turn = .wait phase' wait ∧ wait.Flushes)
    ∨ FinishedSent role phase ∧ h.messagesSent = [] := by
  rcases hadvance.sends_cases with ⟨hnone, hsame⟩ | ⟨_, m, _, hone, _⟩
  · exact Or.inr ⟨hsame.1 hsent, hnone⟩
  · cases hadvance with
    | clientFinishedSent => exact Or.inl ⟨_, _, rfl, Or.inl rfl⟩
    | serverFinishedSent | serverFinishedSaved => exact Or.inl ⟨_, _, rfl, Or.inr rfl⟩
    | certificateSent =>
        cases role <;> simp only [Turn.phase] at hsent <;> split at hsent <;>
          simp [FinishedSent, sends] at hsent
    | signatureSent | signatureDelayed =>
        cases role <;> simp [Turn.phase, FinishedSent, sends] at hsent
    | _ => cases hone

end Handshake

section Kept

variable {σ τ : Type}

/-- Nothing is left to be flushed, and the context says so. -/
def Endpoint.Flushed (p : Endpoint (Station FinishedKeys σ τ)) : Prop :=
  p.context.keyUpdatePending = false ∧ p.environment.socket.outbox.flight.toBytes = []

variable [SigningDevice σ] [TicketHandler τ] {p q : Endpoint (Station FinishedKeys σ τ)}
  {h : History}

/-- What queues nothing leaves nothing to be flushed. -/
theorem Endpoint.Flushed.performs (hflushed : p.Flushed)
    (hperforms : Performs p.environment h q.environment) (hsent : h.messagesSent = [])
    (hpending : q.context.keyUpdatePending = p.context.keyUpdatePending) : q.Flushed :=
  ⟨hpending.trans hflushed.1, flight_of_performs hperforms hsent hflushed.2⟩

/-- Between calls and while it waits for something else than a flush, an end that has sent Finished
    and has not failed has nothing to flush. -/
def AuthFlow.Flushes (role : Role) (phase : Phase) (p : Endpoint (Station FinishedKeys σ τ)) :
    Prop :=
  p.context.wait ≠ .error → FinishedSent role phase → ¬ p.context.wait.Flushes → p.Flushed

/-- Once a wait is settled, or as far as it is, an end that has sent Finished has flushed. -/
theorem Endpoint.Settled.flushed {role : Role} {phase : Phase} {o : Option Outcome}
    (hidle : AuthFlow.Flushes role phase p) (hsettled : Settled p h o q)
    (hsent : FinishedSent role phase) :
    (o ≠ none ∧ (q.context.wait = .error ∨ q.context.wait.Flushes)) ∨ q.Flushed := by
  obtain ⟨hsettles, hperforms⟩ := hsettled
  have hnone := hsettles.messagesSent
  rcases hsettles.flush_cases with hsuspended | ⟨hpending, g, rfl⟩ | ⟨hlive, hquiet, hpending⟩
  · exact Or.inl hsuspended
  · obtain ⟨between, heffect, hrest⟩ := hperforms
    rcases heffect.flushed with ⟨hanswer, _⟩ | ⟨_, hempty⟩
    · cases hanswer
    · exact Or.inr ⟨hpending, flight_of_performs hrest hnone hempty⟩
  · exact Or.inr ((hidle hlive hsent hquiet).performs hperforms hnone hpending)

/-- A handshake keeps this. -/
theorem AuthFlow.flushed_kept (role : Role) :
    Kept (ε := Station FinishedKeys σ τ) role (fun phase p _ => AuthFlow.Flushes role phase p)
      (fun phase p _ => FinishedSent role phase → p.Flushed) where
  suspend := by
    intro phase p q g h outcome hidle hsettled hlive hsent hquiet
    rcases hsettled.flushed hidle hsent with ⟨_, herror | hflush⟩ | hflushed
    · exact absurd herror hlive
    · exact absurd hflush hquiet
    · exact hflushed
  settle := by
    intro phase p q g h hidle hsettled hsent
    rcases hsettled.flushed hidle hsent with ⟨hsome, _⟩ | hflushed
    · exact absurd rfl hsome
    · exact hflushed
  next := by
    intro phase phase' p q g h hbusy ⟨hadvance, hperforms⟩ hsent
    rcases hadvance.finished_cases hsent with ⟨_, _, hturn, _⟩ | ⟨hbefore, hnone⟩
    · cases hturn
    · exact (hbusy hbefore).performs hperforms hnone hadvance.keyUpdatePending
  wait := by
    intro phase phase' p q g h wait hbusy ⟨hadvance, hperforms⟩ _ hsent hquiet
    rcases hadvance.finished_cases hsent with ⟨_, _, hturn, hflush⟩ | ⟨hbefore, hnone⟩
    · cases hturn
      exact absurd hflush hquiet
    · exact (hbusy hbefore).performs hperforms hnone hadvance.keyUpdatePending
  fail _ _ := fun hlive => absurd rfl hlive

end Kept

/-! ## After the handshake -/

/-- The mark of a context and the bytes of a flight agree: there is nothing to flush, or one
    KeyUpdate. -/
def Pends (pending : Bool) (flight : Bytes) : Prop :=
  (pending = false ∧ flight = [])
    ∨ (pending = true ∧ ∃ request : KeyUpdateRequest, flight = request.encode)

/-- What is done while the mark goes from one value to the other without a flush: nothing is queued
    and the sending key stays, or there was no mark, one KeyUpdate is queued, and the key is moved on
    once. -/
inductive Emits : Bool → History → Bool → Prop
  | nothing {pending : Bool} {h : History} (hupdates : h.sendingUpdates = [])
      (hkept : .flushed (.ok (.ready ())) ∉ h) : Emits pending h pending
  | update {h : History} (request : KeyUpdateRequest)
      (hupdates : h.sendingUpdates
        = [.queued request.encode (.ok ()), .rotated .write (.ok ())])
      (hkept : .flushed (.ok (.ready ())) ∉ h) : Emits false h true

namespace Emits

variable {pending pending' : Bool} {h : History} {event : Event}

/-- An event that is not about sending comes before. -/
theorem cons (hemits : Emits pending h pending') (hupdates : event.updatesSending = false)
    (hkept : event ≠ .flushed (.ok (.ready ()))) : Emits pending (event :: h) pending' := by
  have hsame : History.sendingUpdates (event :: h) = h.sendingUpdates :=
    List.filter_cons_of_neg (by rw [hupdates]; exact Bool.false_ne_true)
  cases hemits with
  | nothing hnone hrest =>
      exact .nothing (hsame.trans hnone) (List.not_mem_cons_of_ne_of_not_mem hkept.symm hrest)
  | update request hone hrest =>
      exact .update request (hsame.trans hone) (List.not_mem_cons_of_ne_of_not_mem hkept.symm hrest)

theorem sendingUpdates (hemits : Emits pending h pending') :
    h.sendingUpdates = [] ∨ ∃ request : KeyUpdateRequest,
      h.sendingUpdates = [.queued request.encode (.ok ()), .rotated .write (.ok ())] := by
  cases hemits with
  | nothing hnone => exact Or.inl hnone
  | update request hone => exact Or.inr ⟨request, hone⟩

/-- The mark and the flight go on to agree. -/
theorem pends {σ τ : Type} [SigningDevice σ] [TicketHandler τ]
    {e e' : Station FinishedKeys σ τ} (hemits : Emits pending h pending')
    (hperforms : Performs e h e') (hpends : Pends pending e.socket.outbox.flight.toBytes) :
    Pends pending' e'.socket.outbox.flight.toBytes := by
  cases hemits with
  | nothing hnone hkept =>
      rw [flight_of_performs_unflushed hperforms hkept, ← h.messagesSent_sendingUpdates, hnone,
        History.messagesSent_nil, List.flatten_nil, List.append_nil]
      exact hpends
  | update request hone hkept =>
      rcases hpends with ⟨_, hempty⟩ | ⟨hmarked, _⟩
      · rw [flight_of_performs_unflushed hperforms hkept, ← h.messagesSent_sendingUpdates, hone,
          hempty]
        exact Or.inr ⟨rfl, request, rfl⟩
      · cases hmarked

end Emits

namespace Engine

variable {request : KeyUpdateRequest} {c c' : Context} {h : History}
  {answer : Except Error Unit} {body : Bytes} {m : Message}

/-- Once a key update has been started, one is marked. -/
theorem StartsUpdate.emits (hstarts : StartsUpdate request c h answer c')
    (hsucceeds : ∀ event ∈ h, event.Succeeds) :
    Emits c.keyUpdatePending h c'.keyUpdatePending ∧ c'.keyUpdatePending = true := by
  obtain ⟨_, ⟨hpending, rfl, rfl⟩ | ⟨hpending, rfl, rfl⟩⟩ := hstarts.of_succeeds hsucceeds
  · exact ⟨.nothing rfl List.not_mem_nil, hpending⟩
  · rw [hpending]
    exact ⟨.update request rfl (by simp), rfl⟩

theorem ReceivesUpdate.emits (hreceives : ReceivesUpdate body c h answer c')
    (hsucceeds : ∀ event ∈ h, event.Succeeds) :
    Emits c.keyUpdatePending h c'.keyUpdatePending := by
  cases hreceives with
  | undecodable => exact .nothing rfl (by simp)
  | unrotated => exact (hsucceeds _ List.mem_cons_self).elim
  | noted => exact .nothing rfl (by simp)
  | answered _ hstarts =>
      obtain ⟨hemits, _⟩ := hstarts.emits (List.forall_mem_cons.1 hsucceeds).2
      exact hemits.cons rfl nofun

theorem Handles.emits {ticketed : Bool} (hhandles : Handles ticketed m c h answer c')
    (hsucceeds : ∀ event ∈ h, event.Succeeds) :
    Emits c.keyUpdatePending h c'.keyUpdatePending := by
  cases hhandles with
  | keyUpdate _ _ hreceives => exact hreceives.emits hsucceeds
  | ticketDropped => exact .nothing rfl List.not_mem_nil
  | tooMany | ticketStored | ticketRefused | outOfPlace => exact .nothing rfl (by simp)

/-- A KeyUpdate that asks for one and is accepted leaves one marked. -/
theorem Handles.answers {ticketed : Bool} (hhandles : Handles ticketed m c h (.ok ()) c')
    (hsucceeds : ∀ event ∈ h, event.Succeeds) (htype : m.type = .keyUpdate)
    (hrequested : KeyUpdateRequest.decode m.body = .ok .requested) :
    c'.keyUpdatePending = true := by
  cases hhandles with
  | keyUpdate _ _ hreceives =>
      cases hreceives with
      | noted hdecode => cases hdecode.symm.trans hrequested
      | answered _ hstarts => exact (hstarts.emits (List.forall_mem_cons.1 hsucceeds).2).2
  | ticketDropped hticket | ticketStored hticket => cases htype.symm.trans hticket

end Engine

section Calls

variable {ε : Type} [Environment ε] {p q : Endpoint ε} {h : History}

theorem Endpoint.Processed.emits {answer : Except Error (Awaited Unit)}
    (hprocessed : Processed p h answer q) (hsucceeds : ∀ event ∈ h, event.Succeeds) :
    Emits p.context.keyUpdatePending h q.context.keyUpdatePending := by
  cases hprocessed with
  | delayed => exact .nothing rfl (by simp)
  | @unread env e =>
      refine .nothing ?_ ?_ <;> unfold History.report <;> cases transportAlert? e <;> simp <;> rfl
  | handled _ hhandled | refused _ hhandled =>
      exact (hhandled.1.emits (List.forall_mem_cons.1 hsucceeds).2).cons rfl nofun

/-- There is nothing to settle if nothing is waited for. -/
theorem Endpoint.Settles.of_ok {c c' : Context} {o : Option Outcome} (hsettles : Settles c h o c')
    (hwait : c.wait = .ok) : h = [] ∧ o = none ∧ c' = c := by
  cases hsettles with
  | idle => exact ⟨rfl, rfl, rfl⟩
  | flushDelayed hother | flushFailed hother =>
      rcases hother with hother | hother <;> cases hwait.symm.trans hother
  | _ =>
      rw [‹c.wait = _›] at hwait
      cases hwait

/-- A handshake that is done has nothing left to do. -/
theorem AuthFlow.idle_kept (role : Role) (p : Endpoint ε) (hwait : p.context.wait = .ok) :
    Kept (ε := ε) role (fun phase q h => phase = .done ∧ q = p ∧ h = [])
      (fun phase q h => phase = .done ∧ q = p ∧ h = []) where
  suspend := by
    rintro _ _ q _ h outcome ⟨rfl, rfl, rfl⟩ ⟨hsettles, _⟩
    obtain ⟨_, hnone, _⟩ := hsettles.of_ok hwait
    cases hnone
  settle := by
    rintro _ _ ⟨context, env⟩ _ h ⟨rfl, rfl, rfl⟩ ⟨hsettles, hperforms⟩
    obtain ⟨rfl, _, hcontext⟩ := hsettles.of_ok hwait
    obtain rfl : env = _ := hperforms
    obtain rfl : context = _ := hcontext
    exact ⟨rfl, rfl, rfl⟩
  next := by
    rintro _ phase' _ q _ h ⟨rfl, rfl, rfl⟩ ⟨hadvance, _⟩
    cases hadvance
  wait := by
    rintro _ phase' p' ⟨context, env⟩ _ h wait ⟨rfl, rfl, rfl⟩ ⟨hadvance, hperforms⟩
    obtain ⟨rfl, rfl, rfl, rfl⟩ : phase' = .done ∧ wait = .ok ∧ h = [] ∧ context = p'.context := by
      cases hadvance with
      | done => exact ⟨rfl, rfl, rfl, rfl⟩
      | awaiting hexpected => cases hexpected
    obtain rfl : env = _ := hperforms
    have hsame : { p'.context with wait := .ok } = p'.context := by rw [← hwait]
    exact ⟨rfl, congrArg (Endpoint.mk · p'.environment) hsame, rfl⟩
  fail := by
    rintro _ _ q _ h e ⟨rfl, rfl, rfl⟩ ⟨hfailure, _⟩
    exact absurd hfailure not_failure_done

end Calls

/-- What happens leaves the flight to the connection: a call, or a change of the link elsewhere. -/
def Happening.SparesFlight : Happening → Prop
  | .call _ => True
  | .onLink change => ∀ s, (change s).outbox.flight = s.outbox.flight

namespace Connection

section Called

variable {ε : Type} {c c' : Connection ε} {call : Call} {h : History} {answer : Answer}

/-- A connection that is complete has ended its flight, and it waits for nothing or has failed. -/
structure Ended (c : Connection ε) : Prop where
  complete : c.complete = true
  phase : c.flow.phase = .done
  wait : c.endpoint.context.wait = .ok ∨ c.endpoint.context.wait = .error

variable [Environment ε]

/-- A call on a connection that is complete hands the flight over, or it queues at most one
    KeyUpdate. -/
theorem Called.emits (hcalled : Called c call h answer c') (hended : c.Ended)
    (hsucceeds : ∀ event ∈ h, event.Succeeds) :
    c'.Ended
    ∧ (Emits c.endpoint.context.keyUpdatePending h c'.endpoint.context.keyUpdatePending
      ∨ call = .flush ∧ h = [.flushed (.ok (.ready ()))]
        ∧ c'.endpoint.context.keyUpdatePending = false) := by
  obtain ⟨hcomplete, hphase, hwait⟩ := hended
  have hnothing : Emits c.endpoint.context.keyUpdatePending [] c.endpoint.context.keyUpdatePending :=
    .nothing rfl List.not_mem_nil
  cases hcalled with
  | handshake hdrives =>
      rw [hphase] at hdrives
      rcases hwait with hwait | hwait
      · obtain ⟨rfl, rfl, rfl⟩ := (idle_kept _ _ hwait).drives (g := []) ⟨rfl, rfl, rfl⟩ hdrives
        exact ⟨⟨by simp [hcomplete], rfl, Or.inl hwait⟩, Or.inl hnothing⟩
      · obtain ⟨rfl, rfl, rfl, rfl⟩ := hdrives.of_error hwait
        exact ⟨⟨by simp [hcomplete], rfl, Or.inr hwait⟩, Or.inl hnothing⟩
  | processed _ _ hprocessed =>
      refine ⟨⟨hcomplete, hphase, ?_⟩, Or.inl (hprocessed.emits hsucceeds)⟩
      cases hprocessed with
      | delayed => exact hwait
      | unread | refused => exact Or.inr rfl
      | handled _ hhandled =>
          obtain ⟨_, _, hcontext⟩ := hhandled.1.context
          rw [clear, hcontext]
          exact hwait
  | flushed => exact ⟨⟨hcomplete, hphase, hwait⟩, Or.inr ⟨rfl, rfl, rfl⟩⟩
  | flushDelayed | flushFailed =>
      exact ⟨⟨hcomplete, hphase, hwait⟩, Or.inl (.nothing rfl (by simp))⟩
  | keyUpdateStarted _ hstarted =>
      refine ⟨⟨hcomplete, hphase, ?_⟩, Or.inl (hstarted.1.emits hsucceeds).1⟩
      obtain ⟨_, hcontext⟩ := hstarted.1.context
      rw [hcontext]
      exact hwait
  | keyUpdateTooEarly hearly => cases hcomplete.symm.trans hearly
  | earlyDataReset hreset => rcases hwait with hwait | hwait <;> cases hwait.symm.trans hreset
  | postHandshakeTooEarly | earlyDataNotRejected =>
      exact ⟨⟨hcomplete, hphase, hwait⟩, Or.inl hnothing⟩

end Called

section Tidy

variable {σ τ : Type}

/-- What holds between any two happenings: of the handshake until it succeeds, and of the mark and
    the flight afterwards. -/
structure Tidy (c : Connection (Station FinishedKeys σ τ)) : Prop where
  handshake : c.complete = false → AuthFlow.Flushes c.flow.role c.flow.phase c.endpoint
  ended : c.complete = true → c.Ended
  pends : c.complete = true →
    Pends c.endpoint.context.keyUpdatePending c.socket.outbox.flight.toBytes

theorem Fresh.tidy {c : Connection (Station FinishedKeys σ τ)} (hfresh : c.Fresh) : c.Tidy where
  handshake _ _ hsent := by
    rw [hfresh.flow] at hsent
    exact absurd hsent (not_finishedSent_new _)
  ended hcomplete := by cases hfresh.incomplete.symm.trans hcomplete
  pends hcomplete := by cases hfresh.incomplete.symm.trans hcomplete

variable [SigningDevice σ] [TicketHandler τ] {c c' : Connection (Station FinishedKeys σ τ)}
  {call : Call} {h : History} {answer : Answer}

/-- Every call keeps this, also the one that completes the handshake. -/
theorem Called.tidy (hcalled : Called c call h answer c') (htidy : c.Tidy) : c'.Tidy := by
  have hsucceeds := succeeds_of_performs hcalled.performs
  cases hcomplete : c.complete with
  | true =>
      obtain ⟨hended, hemits | ⟨_, rfl, hpending⟩⟩ :=
        hcalled.emits (htidy.ended hcomplete) hsucceeds
      · refine ⟨fun hincomplete => ?_, fun _ => hended, fun _ => ?_⟩
        · cases hended.complete.symm.trans hincomplete
        · exact hemits.pends hcalled.performs (htidy.pends hcomplete)
      · refine ⟨fun hincomplete => ?_, fun _ => hended, fun _ => ?_⟩
        · cases hended.complete.symm.trans hincomplete
        · exact Or.inl ⟨hpending, flight_of_flushed hcalled.performs⟩
  | false =>
      have hflushes := htidy.handshake hcomplete
      have hstill {c' : Connection (Station FinishedKeys σ τ)} (hincomplete : c'.complete = false)
          (hafter : AuthFlow.Flushes c'.flow.role c'.flow.phase c'.endpoint) : c'.Tidy := by
        refine ⟨fun _ => hafter, fun htrue => ?_, fun htrue => ?_⟩ <;>
          cases hincomplete.symm.trans htrue
      cases hcalled with
      | @handshake _ outcome _ q hdrives =>
          have hafter := (flushed_kept _).drives (g := []) hflushes hdrives
          by_cases hsuccess : outcome = .success
          · subst hsuccess
            obtain ⟨rfl, hwait⟩ := hdrives.done
            have hcomplete' : (c.complete || decide (Outcome.success = .success)) = true :=
              Bool.or_true _
            have hflushed : q.Flushed := hafter (by rw [hwait]; nofun) (finishedSent_done _) (by
              rintro (hflush | hflush) <;> cases hwait.symm.trans hflush)
            refine ⟨fun hincomplete => ?_, fun _ => ⟨hcomplete', rfl, Or.inl hwait⟩,
              fun _ => Or.inl hflushed⟩
            cases hcomplete'.symm.trans hincomplete
          · exact hstill (by simp [hcomplete, hsuccess]) hafter
      | processed htrue => cases hcomplete.symm.trans htrue
      | keyUpdateStarted htrue => cases hcomplete.symm.trans htrue
      | flushed hflush => exact hstill hcomplete fun _ _ _ => ⟨rfl, flight_of_flushed hflush⟩
      | flushDelayed hflush | flushFailed hflush =>
          exact hstill hcomplete fun hlive hsent hquiet =>
            (hflushes hlive hsent hquiet).performs hflush rfl rfl
      | earlyDataReset hwait =>
          refine hstill hcomplete fun _ hsent _ => hflushes (by rw [hwait]; nofun) hsent ?_
          rintro (hflush | hflush) <;> cases hwait.symm.trans hflush
      | postHandshakeTooEarly | keyUpdateTooEarly | earlyDataNotRejected => exact htidy

omit [SigningDevice σ] [TicketHandler τ] in
theorem Tidy.withSocket (htidy : c.Tidy) {socket : Socket}
    (hflight : socket.outbox.flight = c.socket.outbox.flight) : (c.withSocket socket).Tidy where
  handshake hincomplete hlive hsent hquiet := by
    obtain ⟨hpending, hempty⟩ := htidy.handshake hincomplete hlive hsent hquiet
    exact ⟨hpending, (congrArg ByteQueue.toBytes hflight).trans hempty⟩
  ended hcomplete := ⟨hcomplete, (htidy.ended hcomplete).phase, (htidy.ended hcomplete).wait⟩
  pends hcomplete := by
    rw [socket_withSocket, hflight]
    exact htidy.pends hcomplete

theorem Tidy.undergo (htidy : c.Tidy) {happening : Happening} (hspares : happening.SparesFlight) :
    (c.undergo happening).Tidy := by
  cases happening with
  | call call =>
      obtain ⟨_, hcalled⟩ := call_called c call
      exact hcalled.tidy htidy
  | onLink change => exact htidy.withSocket (hspares _)

theorem Tidy.after (htidy : c.Tidy) {happenings : List Happening}
    (hspare : ∀ happening ∈ happenings, happening.SparesFlight) : (c.after happenings).Tidy := by
  induction happenings generalizing c with
  | nil => exact htidy
  | cons happening happenings ih =>
      obtain ⟨hfirst, hrest⟩ := List.forall_mem_cons.1 hspare
      exact ih (htidy.undergo hfirst) hrest

/-- While a KeyUpdate is marked, whatever happens leaves the mark and the flight, except for a flush
    that is not blocked. -/
theorem Tidy.pending_undergo (htidy : c.Tidy) (hcomplete : c.complete = true)
    (hpending : c.endpoint.context.keyUpdatePending = true) {happening : Happening}
    (hspares : happening.SparesFlight) :
    ((c.undergo happening).endpoint.context.keyUpdatePending = true
      ∧ (c.undergo happening).socket.outbox.flight.toBytes = c.socket.outbox.flight.toBytes)
    ∨ happening = .call .flush ∧ c.socket.outbox.blocked = false := by
  cases happening with
  | onLink change =>
      refine Or.inl ⟨hpending, ?_⟩
      rw [Connection.undergo, socket_withSocket, hspares]
  | call call =>
      obtain ⟨h, hcalled⟩ := call_called c call
      have hperforms := hcalled.performs
      obtain ⟨-, hemits | ⟨rfl, rfl, _⟩⟩ :=
        hcalled.emits (htidy.ended hcomplete) (succeeds_of_performs hperforms)
      · rw [hpending] at hemits
        generalize hafter : (c.call call).2.endpoint.context.keyUpdatePending = after at hemits
        cases hemits with
        | nothing hnone hkept =>
            refine Or.inl ⟨hafter, ?_⟩
            have hflight := flight_of_performs_unflushed hperforms hkept
            rw [← h.messagesSent_sendingUpdates, hnone, History.messagesSent_nil,
              List.flatten_nil, List.append_nil] at hflight
            exact hflight
      · obtain ⟨_, heffect, _⟩ := hperforms
        have hanswer : Except.ok (.ready ()) = Except.ok c.socket.flush.1 := heffect.onSocket.1
        refine Or.inr ⟨rfl, Bool.eq_false_iff.2 fun hblocked => ?_⟩
        rw [Socket.flush_of_blocked hblocked] at hanswer
        cases hanswer

/-- A KeyUpdate that asks for one and is accepted leaves one marked. -/
theorem Faces.answered {m : Message} (hfaces : c.Faces m) (htype : m.type = .keyUpdate)
    (hrequested : KeyUpdateRequest.decode m.body = .ok .requested)
    (hok : (answerOf processPostHandshake c).1 = .ok (.ready ())) :
    (answerOf processPostHandshake c).2.endpoint.context.keyUpdatePending = true := by
  obtain ⟨h, answer, q, hprocess, hprocessed⟩ :=
    processPostHandshake_processed hfaces.complete hfaces.wait
  rw [hprocess] at hok ⊢
  obtain rfl : answer = .ok (.ready ()) := hok
  have hperforms := hprocessed.performs
  cases hprocessed with
  | handled hread hhandled =>
      cases hfaces.read.symm.trans (read_of_performs hread)
      exact hhandled.1.answers (succeeds_of_performs hhandled.2) htype hrequested

/-- A flush that is not blocked hands the flight over. -/
theorem flush_of_unblocked (c : Connection (Station FinishedKeys σ τ))
    (hblocked : c.socket.outbox.blocked = false) :
    (answerOf flush c).1 = .ok (.ready ())
    ∧ (answerOf flush c).2.socket.outgoing.stream.toBytes
      = c.socket.outgoing.stream.toBytes ++ c.socket.outbox.flight.toBytes
    ∧ (answerOf flush c).2.socket.outbox.flight.toBytes = []
    ∧ (answerOf flush c).2.endpoint.context.keyUpdatePending = false := by
  have hflush : Environment.flushFlight c.endpoint.environment
      = .ok (.ready ()) { c.endpoint.environment with socket := c.socket.flush.2 } := by
    change EStateM.Result.ok c.socket.flush.1
      { c.endpoint.environment with socket := c.socket.flush.2 } = _
    rw [Socket.flush_of_unblocked hblocked]
  have hafter : answerOf flush c = (.ok (.ready ()), { c with endpoint :=
      ⟨c.endpoint.context.noteFlushed,
        { c.endpoint.environment with socket := c.socket.flush.2 }⟩ }) := by
    simp only [answerOf, flush, act, Engine.perform, Bind.bind, EStateM.bind, hflush]
    rfl
  rw [hafter]
  refine ⟨rfl, ?_, ?_, rfl⟩
  · change c.socket.flush.2.outgoing.stream.toBytes = _
    rw [Socket.flush_of_unblocked hblocked, ByteQueue.toBytes_append]
  · change c.socket.flush.2.outbox.flight.toBytes = _
    rw [Socket.flush_of_unblocked hblocked]
    rfl

/-- Once a handshake has succeeded, whatever is called and whatever comes in: a KeyUpdate is marked as
    long as there is something in the flight, and then the flight is one KeyUpdate, of five bytes. A
    call queues nothing and leaves the sending key, or it queues one KeyUpdate and moves the key on
    once. After a KeyUpdate that asks for one has been accepted one is marked; it stays in the flight
    until a flush that is not blocked, which puts it on the wire. -/
theorem one_update_pending {c : Connection (Station FinishedKeys σ τ)} (hfresh : c.Fresh)
    (happenings : List Happening) (hspare : ∀ happening ∈ happenings, happening.SparesFlight)
    (hcomplete : (c.after happenings).complete = true) :
    let c' := c.after happenings
    let flight := c'.socket.outbox.flight.toBytes
    (c'.endpoint.context.keyUpdatePending = true ↔ flight ≠ [])
    ∧ (flight ≠ [] → ∃ request : KeyUpdateRequest, flight = request.encode)
    ∧ flight.length ≤ 5
    ∧ (∀ call, (c'.history [call]).sendingUpdates = []
      ∨ ∃ request : KeyUpdateRequest, (c'.history [call]).sendingUpdates
        = [.queued request.encode (.ok ()), .rotated .write (.ok ())])
    ∧ (∀ m, c'.Faces m → m.type = .keyUpdate →
      KeyUpdateRequest.decode m.body = .ok .requested →
      (answerOf processPostHandshake c').1 = .ok (.ready ()) →
        (answerOf processPostHandshake c').2.endpoint.context.keyUpdatePending = true)
    ∧ (c'.endpoint.context.keyUpdatePending = true → ∀ happening : Happening,
      happening.SparesFlight →
        ((c'.undergo happening).endpoint.context.keyUpdatePending = true
          ∧ (c'.undergo happening).socket.outbox.flight.toBytes = flight)
        ∨ happening = .call .flush ∧ c'.socket.outbox.blocked = false)
    ∧ (c'.socket.outbox.blocked = false →
      (answerOf flush c').1 = .ok (.ready ())
      ∧ (answerOf flush c').2.socket.outgoing.stream.toBytes
        = c'.socket.outgoing.stream.toBytes ++ flight
      ∧ (answerOf flush c').2.socket.outbox.flight.toBytes = []
      ∧ (answerOf flush c').2.endpoint.context.keyUpdatePending = false) := by
  intro c' flight
  have htidy : c'.Tidy := hfresh.tidy.after hspare
  have hended := htidy.ended hcomplete
  have hpends : Pends c'.endpoint.context.keyUpdatePending flight := htidy.pends hcomplete
  have hlength (request : KeyUpdateRequest) : request.encode.length = 5 := rfl
  refine ⟨?_, ?_, ?_, fun call => ?_, fun m hfaces htype hrequested hok => ?_,
    fun hpending happening => htidy.pending_undergo hcomplete hpending, flush_of_unblocked c'⟩
  · rcases hpends with ⟨hunmarked, hempty⟩ | ⟨hmarked, request, hflight⟩
    · simp [hunmarked, hempty]
    · simp [hmarked, hflight, KeyUpdateRequest.encode]
  · rcases hpends with ⟨_, hempty⟩ | ⟨_, hflight⟩
    · exact fun hne => absurd hempty hne
    · exact fun _ => hflight
  · rcases hpends with ⟨_, hempty⟩ | ⟨_, request, hflight⟩
    · rw [hempty]
      exact Nat.zero_le _
    · rw [hflight, hlength]
  · obtain ⟨_, hcalled, _⟩ := history_called c' call
    have hended' : c'.recorded.Ended := ⟨hended.complete, hended.phase, hended.wait⟩
    obtain ⟨-, hemits | ⟨_, hflushed, _⟩⟩ := hcalled.emits hended' (history_succeeds c' [call])
    · exact hemits.sendingUpdates
    · rw [hflushed]
      exact Or.inl rfl
  · exact hfaces.answered htype hrequested hok

end Tidy

end Connection

namespace Rehearsal

/-- The client completes its handshake, flushing is blocked, and a KeyUpdate comes in that asks for
    one. -/
def asked : List Happening :=
  [.call .handshake, .onLink (Socket.setBlocked true),
    .onLink (Socket.receive KeyUpdateRequest.requested.encode)]

/-- Then it deals with the KeyUpdate and tries to flush. -/
def answering : List Happening := asked ++ [.call .processPostHandshake, .call .flush]

theorem answering_sparesFlight : ∀ happening ∈ answering, happening.SparesFlight := by
  intro happening hmem
  simp only [answering, asked, List.cons_append, List.nil_append, List.mem_cons, List.not_mem_nil,
    or_false] at hmem
  rcases hmem with rfl | rfl | rfl | rfl | rfl <;> first | trivial | exact fun _ => rfl

set_option maxRecDepth 100000 in
/-- The client answers it, and as long as flushing is blocked, the answer is its flight. -/
theorem client_answers_update :
    (answerOf Connection.processPostHandshake
      (client.after asked)).2.endpoint.context.keyUpdatePending = true
    ∧ ∃ request : KeyUpdateRequest,
      (client.after answering).socket.outbox.flight.toBytes = request.encode := by
  have hfresh : client.Fresh := fresh_connection _ _
  have hasked : (client.after asked).complete = true
      ∧ (client.after asked).endpoint.context.wait ≠ .error
      ∧ (answerOf Environment.readMessage (client.after asked).endpoint.environment).1
        = .ok (.ready KeyUpdateRequest.requested.message)
      ∧ (answerOf Connection.processPostHandshake (client.after asked)).1 = .ok (.ready ()) := by
    decide +kernel
  have hanswering : (client.after answering).complete = true
      ∧ (client.after answering).socket.outbox.flight.toBytes ≠ [] := by decide +kernel
  have hspare : ∀ happening ∈ asked, happening.SparesFlight := fun happening hmem =>
    answering_sparesFlight happening (List.mem_append_left _ hmem)
  have hone := Connection.one_update_pending hfresh asked hspare hasked.1
  have hone' := Connection.one_update_pending hfresh answering answering_sparesFlight hanswering.1
  -- nothing is computed from here on
  generalize client.after asked = c at hasked hone ⊢
  generalize client.after answering = c' at hanswering hone' ⊢
  obtain ⟨hcomplete, hwait, hread, hok⟩ := hasked
  obtain ⟨-, -, -, -, hanswered, -⟩ := hone
  obtain ⟨-, hupdate, -⟩ := hone'
  exact ⟨hanswered _ ⟨hcomplete, hwait, hread⟩ rfl rfl hok, hupdate hanswering.2⟩

end Rehearsal

end TlsHandshake
