import Mathlib.Data.List.Forall2
import TlsHandshake.Proofs.Authentication
import TlsHandshake.Proofs.Handshakes

set_option autoImplicit false

/-! # The order of a flight

An end queues the messages of its flight in their order and each of them once, however often it is
suspended, its signer asks for more time, or something fails. A client queues nothing before it has
accepted the server's Finished, and a server tries to read nothing before its own Finished has been
written. Phases are entered again after every suspension; the key is that every turn queues exactly
what its phase has to send and the phase after it has not (`Advance.sent`). -/

namespace TlsHandshake

/-! ## What is queued -/

/-- The message that was to be queued, whether it could be or not. -/
def Event.queued? : Event → Option Bytes
  | queued message _ => some message
  | _ => none

namespace History

/-- The messages that were to be queued, in order. -/
def messagesQueued (h : History) : List Bytes := h.filterMap Event.queued?

@[simp] theorem messagesQueued_nil : messagesQueued [] = [] := rfl

@[simp] theorem messagesQueued_cons (e : Event) (h : History) :
    messagesQueued (e :: h) = e.queued?.toList ++ messagesQueued h := by
  unfold messagesQueued
  cases he : e.queued? <;> simp [he]

@[simp] theorem messagesQueued_append (g h : History) :
    messagesQueued (g ++ h) = messagesQueued g ++ messagesQueued h := List.filterMap_append

@[simp] theorem messagesQueued_report (e : Error) : (report e).messagesQueued = [] := by
  rw [report]
  cases Engine.transportAlert? e <;> rfl

end History

@[simp] theorem Context.signingEvent_queued? (c : Context) (scheme : SignatureScheme)
    (maxLength : Nat) (answer : SignResult) :
    (c.signingEvent scheme maxLength answer).queued? = none := by
  rw [Context.signingEvent]
  split <;> rfl

theorem Endpoint.Settles.messagesQueued {c c' : Context} {g : History} {o : Option Outcome}
    (hsettles : Settles c g o c') : g.messagesQueued = [] := by
  cases hsettles <;> simp [Event.queued?]

namespace Context

/-- What an end sends if it shows its chain: the chain, a signature unless the chain is empty, and
    Finished. -/
def shownFlight (c : Context) : List MessageType :=
  if c.config.certificateChain.isEmpty then [.certificate, .finished]
  else [.certificate, .certificateVerify, .finished]

/-- The own flight: a client shows its chain only if it is asked to. -/
def ownFlight (c : Context) : List MessageType :=
  if c.role = .client ∧ c.certificateRequested = false then [.finished] else c.shownFlight

/-- What is still to be sent of the own flight in a phase: a client reads before it sends, and a
    server reads after it. -/
def toSend (c : Context) : Phase → List MessageType
  | .sendCertificate => c.shownFlight
  | .sendCertificateVerify => [.certificateVerify, .finished]
  | .sendFinished => [.finished]
  | .done => []
  | .readCertificate | .readCertificateVerify | .readFinished =>
      match c.role with
      | .client => c.ownFlight
      | .server => []

theorem ownFlight_nodup (c : Context) : c.ownFlight.Nodup := by
  unfold ownFlight shownFlight
  split
  · decide
  · split <;> decide

end Context

/-- The type of a message that has been queued is one of the types. -/
theorem type_mem_of_mem {types : List MessageType} {messages : List Bytes} {type : MessageType}
    {m : Bytes} (hmessages : List.Forall₂ IsMessage types messages) (hmem : m ∈ messages)
    (htype : IsMessage type m) : type ∈ types := by
  induction hmessages with
  | nil => cases hmem
  | cons hmessage _ ih =>
      rcases List.mem_cons.1 hmem with rfl | hmem
      · rw [htype.type_eq hmessage]
        exact List.mem_cons_self
      · exact List.mem_cons_of_mem _ (ih hmem)

/-- Messages of different types are different. -/
theorem nodup_of_types {types : List MessageType} {messages : List Bytes}
    (hmessages : List.Forall₂ IsMessage types messages) (htypes : types.Nodup) :
    messages.Nodup := by
  induction hmessages with
  | nil => exact List.nodup_nil
  | cons hmessage hrest ih =>
      obtain ⟨hnotMem, hnodup⟩ := List.nodup_cons.1 htypes
      exact List.nodup_cons.2 ⟨fun hmem => hnotMem (type_mem_of_mem hrest hmem hmessage), ih hnodup⟩

/-! ## What has to come first -/

namespace History

/-- A Finished of the server has been read and accepted, since the context was `c`. -/
def AcceptsFinished (c : Context) (h : History) : Prop :=
  ∃ before f mac rest, h = before ++ .read (.ok (.ready f)) ::
      .computedMac .server (c.digestAfter before) (.ok mac) :: rest
    ∧ f.type = .finished ∧ (f.body = mac ∨ c.config.insecureFuzzing = true)

/-- A Finished has been queued. -/
def QueuesFinished (h : History) : Prop := ∃ f, IsMessage .finished f ∧ .queued f (.ok ()) ∈ h

/-- A Finished has been queued, and the record layer has written it. -/
def FlushesFinished (h : History) : Prop :=
  ∃ g rest, h = g ++ .flushed (.ok (.ready ())) :: rest ∧ QueuesFinished g

section First

variable {c : Context} {g h : History}

theorem AcceptsFinished.append (haccepts : AcceptsFinished c h) (g : History) :
    AcceptsFinished c (h ++ g) := by
  obtain ⟨before, f, mac, rest, rfl, hf⟩ := haccepts
  exact ⟨before, f, mac, rest ++ g, by simp, hf⟩

theorem QueuesFinished.append (hqueues : QueuesFinished h) (g : History) :
    QueuesFinished (h ++ g) := by
  obtain ⟨f, hf, hmem⟩ := hqueues
  exact ⟨f, hf, List.mem_append_left g hmem⟩

theorem FlushesFinished.append (hflushes : FlushesFinished h) (g : History) :
    FlushesFinished (h ++ g) := by
  obtain ⟨g', rest, rfl, hqueues⟩ := hflushes
  exact ⟨g', rest ++ g, by simp, hqueues⟩

/-- A flush writes what has been queued. -/
theorem QueuesFinished.flush (hqueues : QueuesFinished h) (rest : History) :
    FlushesFinished (h ++ .flushed (.ok (.ready ())) :: rest) :=
  ⟨h, rest, rfl, hqueues⟩

end First

end History

/-- What has to have happened before an event: a client queues after it has accepted the server's
    Finished, and a server reads after its own has been written. -/
def Gated (c : Context) (g : History) : Event → Prop
  | .queued .. => c.role = .client → g.AcceptsFinished c
  | .read _ => c.role = .server → g.FlushesFinished
  | _ => True

namespace AuthFlow

open Endpoint

section Turns

variable {c₀ c c' : Context} {phase phase' : Phase} {g h : History} {role : Role}
  {signer? : Option SignerInfo} {turn : Turn} {wait : Wait} {e : Error}

theorem toSend_afterFinished (hsettings : c₀.SameSettings c) :
    c₀.toSend .readFinished = c₀.toSend (afterFinished c₀.role c) := by
  unfold afterFinished Context.toSend
  cases hrole : c₀.role with
  | server => rfl
  | client =>
      rw [hsettings.certificateRequested]
      cases hrequested : c₀.certificateRequested <;>
        simp [Context.ownFlight, hrole, hrequested]

/-- A turn queues what its phase has to send and the phase after it has not. -/
theorem Advance.sent (hadvance : Advance c₀.role signer? phase c g turn c')
    (hsettings : c₀.SameSettings c) :
    ∃ sent, c₀.toSend phase = sent ++ c₀.toSend turn.phase
      ∧ List.Forall₂ IsMessage sent g.messagesQueued := by
  cases hadvance with
  | certificateSent hencode =>
      refine ⟨[.certificate], ?_, .cons (isMessage_chain hencode) .nil⟩
      rw [hsettings.config]
      change c₀.shownFlight = _
      unfold Context.shownFlight
      cases c₀.config.certificateChain.isEmpty <;> rfl
  | signatureDelayed =>
      refine ⟨[], rfl, ?_⟩
      rw [History.messagesQueued_cons, Context.signingEvent_queued?]
      exact .nil
  | signatureSent _ _ _ hencode =>
      refine ⟨[.certificateVerify], rfl, ?_⟩
      rw [History.messagesQueued_cons, Context.signingEvent_queued?]
      exact .cons (isMessage_verify hencode) .nil
  | clientFinishedSent _ hencode =>
      exact ⟨[.finished], rfl, .cons (isMessage_finished hencode) .nil⟩
  | serverFinishedSent hrole _ hencode | serverFinishedSaved hrole _ hencode =>
      refine ⟨[.finished], ?_, .cons (isMessage_finished hencode) .nil⟩
      simp [Turn.phase, Context.toSend, hrole]
  | finishedAccepted | savedFinishedAccepted => exact ⟨[], toSend_afterFinished hsettings, .nil⟩
  | _ => exact ⟨[], rfl, .nil⟩

/-- A turn that fails has queued no more than one message, and that is the next one. -/
theorem Failure.sent (hfailure : Failure role signer? phase c g e c') :
    ∃ sent, sent <+: c₀.toSend phase ∧ List.Forall₂ IsMessage sent g.messagesQueued := by
  have hnone : g.messagesQueued = [] → ∃ sent, sent <+: c₀.toSend phase
      ∧ List.Forall₂ IsMessage sent g.messagesQueued := by
    intro hempty
    rw [hempty]
    exact ⟨[], List.nil_prefix, .nil⟩
  cases hfailure with
  | certificateUnqueued hencode =>
      refine ⟨[.certificate], ?_, .cons (isMessage_chain hencode) .nil⟩
      change _ <+: c₀.shownFlight
      unfold Context.shownFlight
      cases c₀.config.certificateChain.isEmpty <;> exact ⟨_, rfl⟩
  | signatureUnqueued _ _ _ hencode =>
      refine ⟨[.certificateVerify], ⟨_, rfl⟩, ?_⟩
      rw [History.messagesQueued_cons, Context.signingEvent_queued?]
      exact .cons (isMessage_verify hencode) .nil
  | finishedUnqueued hencode | savedFinishedUncomputable _ _ hencode =>
      exact ⟨[.finished], ⟨_, rfl⟩, .cons (isMessage_finished hencode) .nil⟩
  | signatureFailed | signatureTooLong | signatureUnencodable =>
      refine hnone ?_
      rw [History.messagesQueued_cons, Context.signingEvent_queued?]
      rfl
  | _ => exact hnone rfl

end Turns

/-! ## The order so far -/

/-- What has been queued is the part of the own flight that its phase has left behind, everything
    has come after what it has to come after, and a client that sends has accepted Finished. -/
structure Ordered (c₀ : Context) (phase : Phase) (h : History) : Prop where
  sent : ∃ sent, c₀.ownFlight = sent ++ c₀.toSend phase
    ∧ List.Forall₂ IsMessage sent h.messagesQueued
  gated : h.Each (fun g e _ => Gated c₀ g e)
  accepted : c₀.role = .client → sends phase → h.AcceptsFinished c₀

/-- What is known of the order once a flight has failed. -/
structure OrderedStart (c₀ : Context) (h : History) : Prop where
  sent : ∃ sent, sent <+: c₀.ownFlight ∧ List.Forall₂ IsMessage sent h.messagesQueued
  gated : h.Each (fun g e _ => Gated c₀ g e)

/-- Between turns a server that reads has its Finished written. -/
structure OrderedBusy (c₀ : Context) (phase : Phase) (h : History) : Prop
    extends Ordered c₀ phase h where
  flushed : c₀.role = .server → (expected? phase).isSome = true → h.FlushesFinished

/-- Between calls a server that reads has its Finished written or is about to write it. -/
structure OrderedLive (c₀ : Context) (phase : Phase) (c : Context) (h : History) : Prop
    extends Ordered c₀ phase h where
  flushes : c₀.role = .server → (expected? phase).isSome = true →
    h.QueuesFinished ∧ c.wait = .flushAndReadMessage ∨ h.FlushesFinished ∧ c.wait = .readMessage

section Steps

variable {c₀ c c' : Context} {phase phase' : Phase} {g h : History} {o : Option Outcome}
  {signer? : Option SignerInfo} {wait : Wait} {e : Error}

theorem Ordered.start (hordered : Ordered c₀ phase h) : OrderedStart c₀ h where
  sent := by
    obtain ⟨sent, hflight, hsent⟩ := hordered.sent
    exact ⟨sent, hflight ▸ List.prefix_append _ _, hsent⟩
  gated := hordered.gated

/-- What settling a wait does comes in order. -/
theorem OrderedLive.gated_settles (hordered : OrderedLive c₀ phase c h)
    (hpaused : Paused c₀ phase c h) (hsettles : Settles c g o c') :
    (h ++ g).Each (fun a e _ => Gated c₀ a e) := by
  have hwritten : c.wait = .readMessage → c₀.role = .server → h.FlushesFinished := by
    intro hwait hrole
    rcases hordered.flushes hrole (hpaused.awaits (Or.inl hwait)) with ⟨_, hother⟩ | ⟨hflushed, _⟩
    · rw [hwait] at hother
      cases hother
    · exact hflushed
  have hwrites : c.wait = .flushAndReadMessage → c₀.role = .server →
      History.FlushesFinished (h ++ [.flushed (.ok (.ready ())), .flightExpected]) := by
    intro hwait hrole
    rcases hordered.flushes hrole (hpaused.awaits (Or.inr hwait)) with ⟨hqueues, _⟩ | ⟨_, hother⟩
    · exact hqueues.flush _
    · rw [hwait] at hother
      cases hother
  refine History.each_append.2 ⟨hordered.gated, ?_⟩
  cases hsettles with
  | messageRead hwait | readDelayed hwait | readFailed hwait =>
      simpa [Gated, History.each_report] using hwritten hwait
  | flushedThenRead hwait | flushedThenDelayed hwait | flushedThenFailed hwait =>
      simpa [Gated, History.each_report] using hwrites hwait
  | _ => simp [Gated, History.each_report]

/-- What a turn does comes in order. -/
theorem Ordered.gated_turn (hordered : Ordered c₀ phase h)
    (hturn : g.OfTurn phase) : (h ++ g).Each (fun a e _ => Gated c₀ a e) := by
  refine History.each_append.2
    ⟨hordered.gated, History.each_of_forall fun event hmem before _ => ?_⟩
  have hevent := hturn event hmem
  cases event with
  | queued => exact fun hrole => (hordered.accepted hrole hevent).append _
  | read => exact hevent.elim
  | _ => trivial

/-- Nothing has been queued. -/
theorem Ordered.quiet (hordered : Ordered c₀ phase h) (hqueued : g.messagesQueued = [])
    (hgated : (h ++ g).Each (fun a e _ => Gated c₀ a e)) : Ordered c₀ phase (h ++ g) where
  sent := by
    rw [History.messagesQueued_append, hqueued, List.append_nil]
    exact hordered.sent
  gated := hgated
  accepted hrole hsends := (hordered.accepted hrole hsends).append g

theorem OrderedLive.suspend {outcome : Outcome} (hordered : OrderedLive c₀ phase c h)
    (hpaused : Paused c₀ phase c h) (hsettles : Settles c g (some outcome) c')
    (hwait : c'.wait ≠ .error) : OrderedLive c₀ phase c' (h ++ g) where
  toOrdered :=
    hordered.quiet hsettles.messagesQueued (hordered.gated_settles hpaused hsettles)
  flushes := by
    intro hrole hphase
    have hflushes := hordered.flushes hrole hphase
    generalize ho : some outcome = o at hsettles
    cases hsettles with
    | flushDelayed =>
        rcases hflushes with ⟨hqueues, hsame⟩ | ⟨hflushed, hsame⟩
        · exact Or.inl ⟨hqueues.append _, hsame⟩
        · exact Or.inr ⟨hflushed.append _, hsame⟩
    | readDelayed hread =>
        rcases hflushes with ⟨_, hother⟩ | ⟨hflushed, hsame⟩
        · rw [hread] at hother
          cases hother
        · exact Or.inr ⟨hflushed.append _, hsame⟩
    | flushedThenDelayed hread =>
        rcases hflushes with ⟨hqueues, _⟩ | ⟨_, hother⟩
        · exact Or.inr ⟨hqueues.flush _, rfl⟩
        · rw [hread] at hother
          cases hother
    | flushFailed | readFailed | flushedThenFailed | changeCipherSpecFailed =>
        exact absurd rfl hwait
    | failed herror => exact absurd herror hwait
    | changeCipherSpecDelayed hother | earlyDataReadable hother | worked hother
    | earlyDataRejected hother =>
        rw [hother] at hflushes
        rcases hflushes with ⟨_, h⟩ | ⟨_, h⟩ <;> cases h
    | _ => cases ho

theorem OrderedLive.settle (hordered : OrderedLive c₀ phase c h) (hpaused : Paused c₀ phase c h)
    (hsettles : Settles c g none c') : OrderedBusy c₀ phase (h ++ g) where
  toOrdered :=
    hordered.quiet hsettles.messagesQueued (hordered.gated_settles hpaused hsettles)
  flushed := by
    intro hrole hphase
    rcases hordered.flushes hrole hphase with ⟨hqueues, hwait⟩ | ⟨hflushed, _⟩
    · obtain ⟨answer, rest, rfl, hpending⟩ := hsettles.flushes (Or.inr hwait)
      cases hsettles with
      | flushedThenRead => exact hqueues.flush _
      | flushed hother =>
          rw [hwait] at hother
          cases hother
    · exact hflushed.append g

/-- What a turn that does not fail has queued. -/
theorem Ordered.sent_advance {turn : Turn} (hordered : Ordered c₀ phase h)
    (hsettings : c₀.SameSettings c) (hadvance : Advance c₀.role signer? phase c g turn c') :
    ∃ sent, c₀.ownFlight = sent ++ c₀.toSend turn.phase
      ∧ List.Forall₂ IsMessage sent (h ++ g).messagesQueued := by
  obtain ⟨before, hflight, hbefore⟩ := hordered.sent
  obtain ⟨sent, hphase, hsent⟩ := hadvance.sent hsettings
  refine ⟨before ++ sent, ?_, ?_⟩
  · rw [hflight, hphase, List.append_assoc]
  · rw [History.messagesQueued_append]
    exact List.rel_append hbefore hsent

/-- A client comes to send by accepting Finished. -/
theorem Logged.accepts (hlogged : Logged c₀ phase c h)
    (hadvance : Advance c₀.role signer? phase c g (.next phase') c') (hrole : c₀.role = .client)
    (hphase : (expected? phase).isSome = true) (hsends : sends phase') :
    (h ++ g).AcceptsFinished c₀ := by
  generalize hturn : Turn.next phase' = turn at hadvance
  cases hadvance with
  | @finishedAccepted _ f mac hmessage htype hsaved haccepts =>
      obtain ⟨before, rfl, hhash⟩ := hlogged.hash_of_some hmessage
      rw [hlogged.settings.config] at haccepts
      refine ⟨before, f, mac, [], ?_, htype, haccepts⟩
      rw [hhash, hlogged.settings.role, hrole, List.append_assoc]
      rfl
  | savedFinishedAccepted _ _ hsaved =>
      rw [Context.usesSavedFinished, hrole] at hsaved
      cases hsaved
  | chainAccepted | anonymousAccepted | signatureAccepted =>
      cases hturn
      rcases hsends with h | h | h <;> cases h
  | certificateSent | signatureSent => cases hphase
  | _ => cases hturn

/-- Only sending and reading go on at once. -/
theorem Advance.sends_or_reads (hadvance : Advance c₀.role signer? phase c g (.next phase') c') :
    sends phase ∨ (expected? phase).isSome = true := by
  generalize hturn : Turn.next phase' = turn at hadvance
  cases hadvance with
  | certificateSent => exact Or.inl (Or.inl rfl)
  | signatureSent => exact Or.inl (Or.inr (Or.inl rfl))
  | chainAccepted | anonymousAccepted | signatureAccepted | finishedAccepted
  | savedFinishedAccepted => exact Or.inr rfl
  | _ => cases hturn

theorem OrderedBusy.next (hordered : OrderedBusy c₀ phase h) (hlogged : Logged c₀ phase c h)
    (hadvance : Advance c₀.role signer? phase c g (.next phase') c') :
    OrderedBusy c₀ phase' (h ++ g) where
  sent := hordered.sent_advance hlogged.settings hadvance
  gated := hordered.gated_turn hadvance.ofTurn
  accepted := by
    intro hrole hsends'
    rcases hadvance.sends_or_reads with hsends | hreads
    · exact (hordered.accepted hrole hsends).append g
    · exact hlogged.accepts hadvance hrole hreads hsends'
  flushed := by
    intro hrole hreads'
    rcases hadvance.sends_or_reads with hsends | hreads
    · exact absurd (hadvance.sends_next hsends) (not_sends_of_reads hreads')
    · exact (hordered.flushed hrole hreads).append g

/-- A turn that waits before the client has sent everything waits in a phase that sends. -/
theorem Advance.sends_of_wait (hadvance : Advance c₀.role signer? phase c g (.wait phase' wait) c')
    (hsends' : sends phase') : sends phase := by
  generalize hturn : Turn.wait phase' wait = turn at hadvance
  cases hadvance with
  | signatureDelayed => exact Or.inr (Or.inl rfl)
  | awaiting | done =>
      cases hturn
      exact hsends'
  | clientFinishedSent | serverFinishedSent | serverFinishedSaved =>
      cases hturn
      rcases hsends' with h | h | h <;> cases h
  | _ => cases hturn

/-- A turn that waits in a phase that reads has queued Finished or waits for a message. -/
theorem Advance.flushes_of_wait
    (hadvance : Advance c₀.role signer? phase c g (.wait phase' wait) c')
    (hreads : (expected? phase').isSome = true) :
    (g.QueuesFinished ∧ wait = .flushAndReadMessage)
    ∨ g = [] ∧ phase = phase' ∧ wait = .readMessage := by
  generalize hturn : Turn.wait phase' wait = turn at hadvance
  cases hadvance with
  | serverFinishedSent _ _ hencode | serverFinishedSaved _ _ hencode =>
      cases hturn
      exact Or.inl ⟨⟨_, isMessage_finished hencode, by simp⟩, rfl⟩
  | awaiting =>
      cases hturn
      exact Or.inr ⟨rfl, rfl, rfl⟩
  | signatureDelayed | clientFinishedSent | done =>
      cases hturn
      cases hreads
  | _ => cases hturn

theorem OrderedBusy.pause (hordered : OrderedBusy c₀ phase h) (hlogged : Logged c₀ phase c h)
    (hadvance : Advance c₀.role signer? phase c g (.wait phase' wait) c') :
    OrderedLive c₀ phase' { c' with wait := wait } (h ++ g) where
  sent := hordered.sent_advance hlogged.settings hadvance
  gated := hordered.gated_turn hadvance.ofTurn
  accepted hrole hsends' := (hordered.accepted hrole (hadvance.sends_of_wait hsends')).append g
  flushes := by
    intro hrole hreads
    rcases hadvance.flushes_of_wait hreads with ⟨⟨f, hf, hmem⟩, hwait⟩ | ⟨_, rfl, hwait⟩
    · exact Or.inl ⟨⟨f, hf, List.mem_append_right h hmem⟩, hwait⟩
    · exact Or.inr ⟨(hordered.flushed hrole hreads).append g, hwait⟩

theorem Ordered.fail (hordered : Ordered c₀ phase h)
    (hfailure : Failure c₀.role signer? phase c g e c') : OrderedStart c₀ (h ++ g) where
  sent := by
    obtain ⟨before, hflight, hbefore⟩ := hordered.sent
    obtain ⟨sent, hphase, hsent⟩ : ∃ sent, sent <+: c₀.toSend phase ∧ _ := hfailure.sent
    refine ⟨before ++ sent, ?_, ?_⟩
    · rw [hflight]
      exact (List.prefix_append_right_inj before).2 hphase
    · rw [History.messagesQueued_append]
      exact List.rel_append hbefore hsent
  gated := hordered.gated_turn hfailure.ofTurn

end Steps

/-- All that a flight does comes in its order. -/
theorem orderInvariant (c₀ : Context) : Invariant c₀ (OrderedLive c₀)
    (fun phase _ h => OrderedBusy c₀ phase h) (fun _ h => OrderedStart c₀ h) where
  ended _ hlive := hlive.start
  rests := by
    intro phase c c' h _ hlive hrests hwait'
    refine { hlive with flushes := fun hrole hreads => ?_ }
    have hflushes := hlive.flushes hrole hreads
    rcases hrests.wait with hsame | herror | ⟨hrejected, _⟩
    · rw [hsame]
      exact hflushes
    · exact absurd herror hwait'
    · rw [hrejected] at hflushes
      rcases hflushes with ⟨_, h⟩ | ⟨_, h⟩ <;> cases h
  suspend hpaused hlive hsettles :=
    ⟨(hlive.quiet hsettles.messagesQueued (hlive.gated_settles hpaused hsettles)).start,
      hlive.suspend hpaused hsettles⟩
  settle hpaused hlive hsettles := hlive.settle hpaused hsettles
  next hlogged hbusy hadvance := hbusy.next hlogged hadvance
  wait hlogged hbusy hadvance := hbusy.pause hlogged hadvance
  fail _ hbusy hfailure := hbusy.fail hfailure

end AuthFlow

/-! ## Runs -/

namespace Connection

open AuthFlow

variable {ε : Type} [Environment ε]

omit [Environment ε] in
theorem Fresh.ordered {c : Connection ε} (hfresh : c.Fresh) :
    OrderedLive c.endpoint.context c.flow.phase c.endpoint.context [] where
  sent := by
    refine ⟨[], ?_, .nil⟩
    rw [hfresh.flow, List.nil_append]
    cases hrole : c.endpoint.context.role with
    | server => simp [Context.ownFlight, Context.toSend, AuthFlow.new, hrole]
    | client => simp [Context.toSend, AuthFlow.new, hrole]
  gated := History.each_nil
  accepted := by
    intro hrole hsends
    rw [hfresh.flow, hrole] at hsends
    rcases hsends with h | h | h <;> cases h
  flushes := by
    intro hrole hreads
    rw [hfresh.flow, hrole] at hreads
    cases hreads

/-- The messages that an end hands over to be queued, whether that succeeds or not, are the beginning
    of its flight: a chain, a signature if and only if the chain is not empty, and Finished, or
    Finished alone if a client is not asked for its chain. None of them is queued twice. Before a
    client queues anything it has read and accepted the server's Finished, and before a server tries
    to read anything it has queued its own Finished and the record layer has written it. All this is
    so whatever the surroundings answer and whenever the calls are made. -/
theorem flight_in_order {c : Connection ε} (hfresh : c.Fresh) (calls : List Call) :
    let start := c.endpoint.context
    let h := c.handshakeHistory calls
    (∃ sent, sent <+: start.ownFlight ∧ List.Forall₂ IsMessage sent h.messagesQueued)
    ∧ h.messagesQueued.Nodup
    ∧ (∀ (g : History) m answer rest, h = g ++ .queued m answer :: rest → start.role = .client →
      g.AcceptsFinished start)
    ∧ ∀ (g : History) answer rest, h = g ++ .read answer :: rest → start.role = .server →
      g.FlushesFinished := by
  intro start h
  obtain ⟨⟨sent, hprefix, hsent⟩, hgated⟩ : OrderedStart start h :=
    (hfresh.rested (orderInvariant start) hfresh.ordered calls).ended (orderInvariant start)
  have hnodup : sent.Nodup := start.ownFlight_nodup.sublist hprefix.sublist
  exact ⟨⟨sent, hprefix, hsent⟩, nodup_of_types hsent hnodup,
    fun g m answer rest heq => hgated g (.queued m answer) rest heq,
    fun g answer rest heq => hgated g (.read answer) rest heq⟩

/-- The order of the rehearsal's server. -/
theorem rehearsal_in_order :
    let h := Rehearsal.server.handshakeHistory [.handshake]
    (∃ sent, sent <+: [.certificate, .certificateVerify, .finished]
      ∧ List.Forall₂ IsMessage sent h.messagesQueued)
    ∧ h.messagesQueued.Nodup
    ∧ ∀ (g : History) answer rest, h = g ++ .read answer :: rest → g.FlushesFinished :=
  have hfresh : Rehearsal.server.Fresh := Rehearsal.fresh_connection _ _
  let ⟨hsent, hnodup, _, hread⟩ := flight_in_order hfresh [.handshake]
  ⟨hsent, hnodup, fun g answer rest heq => hread g answer rest heq rfl⟩

end Connection

end TlsHandshake
