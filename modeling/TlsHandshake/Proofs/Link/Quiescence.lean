import Mathlib.Algebra.GroupWithZero.Nat
import TlsHandshake.Proofs.Link.UpdateCounts
import TlsHandshake.Proofs.PendingUpdate

set_option autoImplicit false

/-! # KeyUpdates come to an end

Two sides that are complete and start no KeyUpdate any more have only KeyUpdates on their way, and an
answer asks for none. Every call either leaves what is on the way as it is or makes it less, by a
weight in which an answer that is still to be flushed weighs less than the KeyUpdate that it answers
(`Exchange.lessens`). Main statement: `Pair.updates_settle`, with what `UpdateCounts` says about the
numbers. -/

namespace TlsHandshake

open AuthFlow Endpoint Engine

/-! ## KeyUpdates at one end -/

/-- A queue is made of the KeyUpdates of the given requests. -/
def ByteQueue.Updates (q : ByteQueue) (requests : List KeyUpdateRequest) : Prop :=
  q.Holds (requests.map KeyUpdateRequest.message)

/-- The KeyUpdates in the flight of an end, in the stream to its peer and in the stream from it; there
    is nothing else. -/
structure Socket.Bears (s : Socket) (queued sent received : List KeyUpdateRequest) : Prop where
  flight : s.outbox.flight.Updates queued
  outgoing : s.outgoing.stream.Updates sent
  incoming : s.incoming.stream.Updates received

theorem ByteQueue.updates_iff {q : ByteQueue} {requests : List KeyUpdateRequest} :
    q.Updates requests ↔ q.toBytes = (requests.map KeyUpdateRequest.encode).flatten := by
  have hbytes : rawBytes (requests.map KeyUpdateRequest.message)
      = (requests.map KeyUpdateRequest.encode).flatten := by
    rw [rawBytes, List.map_map]
    rfl
  rw [← hbytes]
  refine ⟨fun h => h.1, fun h => ⟨h, fun m hm => ?_⟩⟩
  obtain ⟨request, _, rfl⟩ := List.mem_map.1 hm
  exact request.message_framed

/-! ## Weights -/

namespace KeyUpdateRequest

/-- What a KeyUpdate in a stream weighs: less in all than one that is answered. -/
def weight : KeyUpdateRequest → Nat
  | notRequested => 1
  | requested => 3

theorem weight_pos (request : KeyUpdateRequest) : 0 < request.weight := by cases request <;> decide

/-- What KeyUpdates in a stream weigh. -/
def streamWeight (requests : List KeyUpdateRequest) : Nat := (requests.map weight).sum

/-- What KeyUpdates in a flight weigh: each of them has one step more before it. -/
def flightWeight (requests : List KeyUpdateRequest) : Nat := (requests.map (·.weight + 1)).sum

end KeyUpdateRequest

open KeyUpdateRequest

/-- What a call that starts no KeyUpdate does to those at its end, if it does not fail. -/
inductive Exchange (call : Call) (blocked : Bool) :
    (queued sent received queued' sent' received' : List KeyUpdateRequest) → Prop
  | idle {queued sent received : List KeyUpdateRequest}
      (hflush : call = .flush → blocked = false → queued = [])
      (hprocess : call = .processPostHandshake → received = []) :
      Exchange call blocked queued sent received queued sent received
  | flushed {request : KeyUpdateRequest} {queued sent received : List KeyUpdateRequest} :
      Exchange call blocked (request :: queued) sent received [] (sent ++ request :: queued) received
  | taken {request : KeyUpdateRequest} {queued sent received : List KeyUpdateRequest} :
      Exchange call blocked queued sent (request :: received) queued sent received
  | answered {queued sent received : List KeyUpdateRequest} :
      Exchange call blocked queued sent (.requested :: received) (queued ++ [.notRequested]) sent
        received

/-- Other calls than a flush and one that processes a message do nothing. -/
theorem Exchange.of_ne {call : Call} {blocked : Bool} {queued sent received : List KeyUpdateRequest}
    (hflush : call ≠ .flush) (hprocess : call ≠ .processPostHandshake) :
    Exchange call blocked queued sent received queued sent received :=
  .idle (fun h => absurd h hflush) fun h => absurd h hprocess

/-- Whatever is done makes less of what there is. -/
theorem Exchange.lessens {call : Call} {blocked : Bool}
    {queued sent received queued' sent' received' : List KeyUpdateRequest}
    (hexchange : Exchange call blocked queued sent received queued' sent' received') :
    flightWeight queued' + streamWeight sent' + streamWeight received'
      < flightWeight queued + streamWeight sent + streamWeight received
    ∨ (queued' = queued ∧ sent' = sent ∧ received' = received
      ∧ (call = .flush → blocked = false → queued = [])
      ∧ (call = .processPostHandshake → received = [])) := by
  have hflight : ∀ requests, streamWeight requests ≤ flightWeight requests := by
    intro requests
    induction requests with
    | nil => exact Nat.le_refl 0
    | cons request requests ih =>
        simp only [streamWeight, flightWeight, List.map_cons, List.sum_cons] at ih ⊢
        omega
  cases hexchange with
  | idle hflush hprocess => exact Or.inr ⟨rfl, rfl, rfl, hflush, hprocess⟩
  | @flushed request queued =>
      have hrest := hflight queued
      refine Or.inl ?_
      simp only [streamWeight, flightWeight, List.map_cons, List.sum_cons, List.map_append,
        List.sum_append, List.map_nil, List.sum_nil] at hrest ⊢
      omega
  | @taken request =>
      have hpos := request.weight_pos
      refine Or.inl ?_
      simp only [streamWeight, List.map_cons, List.sum_cons]
      omega
  | answered =>
      refine Or.inl ?_
      simp only [streamWeight, flightWeight, List.map_cons, List.sum_cons, List.map_append,
        List.sum_append, List.map_nil, List.sum_nil, weight]
      omega

/-! ## One call -/

section Calls

variable {σ τ : Type} [SigningDevice σ] [TicketHandler τ]
  {queued sent received : List KeyUpdateRequest}

namespace Socket.Bears

variable {s : Socket}

theorem flush (hbears : s.Bears queued sent received) (hblocked : s.outbox.blocked = false) :
    s.flush.2.Bears [] (sent ++ queued) received := by
  rw [Socket.flush_of_unblocked hblocked]
  refine ⟨ByteQueue.holds_empty, ?_, hbears.incoming⟩
  rw [ByteQueue.Updates, List.map_append]
  exact hbears.outgoing.append hbears.flight

theorem queue (hbears : s.Bears queued sent received) (request : KeyUpdateRequest) :
    (s.addMessage request.encode).Bears (queued ++ [request]) sent received := by
  refine ⟨?_, hbears.outgoing, hbears.incoming⟩
  rw [ByteQueue.Updates, List.map_append]
  exact hbears.flight.concat request.message_framed

/-- A read takes the first KeyUpdate, if there is one. -/
theorem read {e e' : Station FinishedKeys σ τ} {answer : Except Error (Awaited Message)}
    (hbears : e.socket.Bears queued sent received)
    (heffect : Event.Effect e (.read answer) e') :
    (received = [] ∧ answer = .ok .pending ∧ e'.socket.Bears queued sent [])
    ∨ ∃ request rest, received = request :: rest ∧ answer = .ok (.ready request.message)
      ∧ e'.socket.Bears queued sent rest := by
  have hread : answerOf Socket.readMessage e.socket = (answer, e'.socket) := heffect.onSocket
  obtain ⟨stream, hanswer, hrest⟩ := Socket.answerOf_readMessage hbears.incoming
  obtain ⟨rfl, hsocket⟩ := Prod.mk.inj (hanswer.symm.trans hread)
  have hafter : ∀ {rest}, stream.Updates rest → e'.socket.Bears queued sent rest := fun hupdates =>
    hsocket ▸ ⟨hbears.flight, hbears.outgoing, hupdates⟩
  cases received with
  | nil => exact Or.inl ⟨rfl, rfl, hafter hrest⟩
  | cons request rest => exact Or.inr ⟨request, rest, rfl, rfl, hafter hrest⟩

end Socket.Bears

/-- A KeyUpdate of the peer is one too many or it is taken; one that asks for an answer may be
    answered. -/
theorem Engine.Handles.answered {ticketed : Bool} {request : KeyUpdateRequest} {c c' : Context}
    {h : History} {answer : Except Error Unit}
    (hhandles : Handles ticketed request.message c h answer c')
    (hsucceeds : ∀ event ∈ h, event.Succeeds) :
    answer = .error .tooManyKeyUpdates
    ∨ answer = .ok () ∧ (h = [.rotated .read (.ok ())]
      ∨ request = .requested ∧ h = [.rotated .read (.ok ()),
        .queued KeyUpdateRequest.notRequested.encode (.ok ()), .rotated .write (.ok ())]) := by
  obtain ⟨_, _, _, hrefused | ⟨rfl, _⟩⟩ := hhandles.updates request.message_isUpdate hsucceeds
  · exact Or.inl hrefused
  refine Or.inr ⟨rfl, ?_⟩
  cases hhandles with
  | keyUpdate _ _ hreceives =>
      cases hreceives with
      | noted => exact Or.inl rfl
      | answered hdecode hstarts =>
          have hrequested : request = .requested := by
            cases request with
            | notRequested => cases hdecode
            | requested => rfl
          cases hstarts with
          | pending => exact Or.inl rfl
          | started _ hqueues =>
              cases hqueues
              exact Or.inr ⟨hrequested, rfl⟩
  | ticketDropped htype | ticketStored htype => cases htype

/-- The message that was read is refused, or it is taken off the stream. -/
theorem Endpoint.Handled.exchange {request : KeyUpdateRequest}
    {p q : Endpoint (Station FinishedKeys σ τ)} {h : History} {answer : Except Error Unit}
    (hhandled : Handled request.message p h answer q)
    (hbears : p.environment.socket.Bears queued sent received) (blocked : Bool) :
    answer = .error .tooManyKeyUpdates
    ∨ ∃ queued' sent' received', q.environment.socket.Bears queued' sent' received'
      ∧ Exchange .processPostHandshake blocked queued sent (request :: received)
        queued' sent' received' := by
  obtain ⟨hhandles, hperforms⟩ := hhandled
  refine (hhandles.answered (succeeds_of_performs hperforms)).imp_right ?_
  rintro ⟨_, rfl | ⟨rfl, rfl⟩⟩
  · obtain ⟨_, hrotated, rfl⟩ := hperforms
    have hsocket : q.environment.socket = p.environment.socket := hrotated.onSocket
    exact ⟨_, _, _, hsocket ▸ hbears, .taken⟩
  · obtain ⟨e, hrotated, e', hqueued, _, hrotated', rfl⟩ := hperforms
    have hfirst : e.socket = p.environment.socket := hrotated.onSocket
    obtain ⟨_, hsecond⟩ := hqueued.onSocket
    have hthird : q.environment.socket = e'.socket := hrotated'.onSocket
    refine ⟨_, _, _, ?_, .answered⟩
    rw [hthird, hsecond, hfirst]
    exact hbears.queue .notRequested

namespace Connection

variable {c c' : Connection (Station FinishedKeys σ τ)} {call : Call} {h : History}
  {answer : Answer}

/-- A call on a connection that is complete either refuses a KeyUpdate that is one too many, and then
    the connection has failed, or does one of the things listed. -/
theorem Called.exchange (hcalled : Called c call h answer c') (hended : c.Ended)
    (hwait : c.endpoint.context.wait = .ok) (hbears : c.socket.Bears queued sent received)
    (hcall : call.startsUpdate = false) :
    (call = .processPostHandshake ∧ received ≠ []
      ∧ answer = .polled (.error .tooManyKeyUpdates) ∧ c'.endpoint.context.wait = .error)
    ∨ c'.endpoint.context.wait = .ok
      ∧ ∃ queued' sent' received', c'.socket.Bears queued' sent' received'
        ∧ Exchange call c.socket.outbox.blocked queued sent received queued' sent' received' := by
  cases hcalled with
  | handshake hdrives =>
      rw [hended.phase] at hdrives
      obtain ⟨rfl, rfl, rfl⟩ := (idle_kept _ _ hwait).drives (g := []) ⟨rfl, rfl, rfl⟩ hdrives
      exact Or.inr ⟨hwait, _, _, _, hbears, .of_ne (by decide) (by decide)⟩
  | processed _ _ hprocessed =>
      cases hprocessed with
      | delayed hread =>
          obtain ⟨_, heffect, rfl⟩ := hread
          rcases hbears.read heffect with ⟨rfl, _, hafter⟩ | ⟨_, _, _, hanswer, _⟩
          · exact Or.inr ⟨hwait, _, _, _, hafter, .idle (fun h => by cases h) fun _ => rfl⟩
          · cases hanswer
      | unread hread =>
          obtain ⟨_, heffect, _⟩ := hread
          rcases hbears.read heffect with ⟨_, hanswer, _⟩ | ⟨_, _, _, hanswer, _⟩ <;> cases hanswer
      | handled hread hhandled =>
          obtain ⟨_, heffect, rfl⟩ := hread
          rcases hbears.read heffect with ⟨_, hanswer, _⟩ | ⟨request, rest, rfl, hanswer, hafter⟩
          · cases hanswer
          · cases hanswer
            obtain ⟨_, _, hcontext⟩ := hhandled.1.context
            refine Or.inr ⟨?_, ?_⟩
            · rw [clear, hcontext]
              exact hwait
            · rcases hhandled.exchange hafter c.socket.outbox.blocked with hrefused | hexchange
              · cases hrefused
              · exact hexchange
      | refused hread hhandled =>
          obtain ⟨_, heffect, rfl⟩ := hread
          rcases hbears.read heffect with ⟨_, hanswer, _⟩ | ⟨request, rest, rfl, hanswer, hafter⟩
          · cases hanswer
          · cases hanswer
            rcases hhandled.1.answered (succeeds_of_performs hhandled.2) with hrefused | ⟨hok, _⟩
            · cases hrefused
              exact Or.inl ⟨rfl, List.cons_ne_nil _ _, rfl, rfl⟩
            · cases hok
  | @flushed env hflush =>
      obtain ⟨_, heffect, rfl⟩ := hflush
      obtain ⟨hanswer, hsocket⟩ :
        Except.ok (.ready ()) = Except.ok c.socket.flush.1 ∧ env.socket = c.socket.flush.2 :=
          heffect.onSocket
      have hblocked : c.socket.outbox.blocked = false := Bool.eq_false_iff.2 fun hblocked => by
        rw [Socket.flush_of_blocked hblocked] at hanswer
        cases hanswer
      refine Or.inr ⟨hwait, [], sent ++ queued, received, ?_, ?_⟩
      · change env.socket.Bears _ _ _
        exact hsocket ▸ hbears.flush hblocked
      · cases queued with
        | nil =>
            rw [List.append_nil]
            exact .idle (fun _ _ => rfl) fun h => by cases h
        | cons request queued => exact .flushed
  | @flushDelayed env hflush =>
      obtain ⟨_, heffect, rfl⟩ := hflush
      obtain ⟨hanswer, hsocket⟩ :
        Except.ok .pending = Except.ok c.socket.flush.1 ∧ env.socket = c.socket.flush.2 :=
          heffect.onSocket
      cases hblocked : c.socket.outbox.blocked with
      | true =>
          rw [Socket.flush_of_blocked hblocked] at hsocket
          refine Or.inr ⟨hwait, _, _, _, ?_,
            .idle (fun _ hfree => by cases hfree) fun h => by cases h⟩
          change env.socket.Bears _ _ _
          exact hsocket ▸ hbears
      | false =>
          rw [Socket.flush_of_unblocked hblocked] at hanswer
          cases hanswer
  | flushFailed hflush =>
      obtain ⟨_, heffect, _⟩ := hflush
      cases heffect.onSocket.1
  | keyUpdateStarted | keyUpdateTooEarly => cases hcall
  | postHandshakeTooEarly hearly =>
      rcases hearly with hearly | hfailed
      · cases hended.complete.symm.trans hearly
      · cases hwait.symm.trans hfailed
  | earlyDataReset hreset => cases hwait.symm.trans hreset
  | earlyDataNotRejected =>
      exact Or.inr ⟨hwait, _, _, _, hbears, .of_ne (by decide) (by decide)⟩

end Connection

end Calls

/-! ## Moves -/

namespace Pair

section Moves

variable {ε : Type} [OnLink ε] [Environment ε]

/-- Among the moves a side processes a KeyUpdate that is one too many. -/
def Overruns (pair : Pair ε) (r : Role) (moves : List (Role × Move)) : Prop :=
  ∃ before after, moves = before ++ (r, .call .processPostHandshake) :: after
    ∧ (answerOf Connection.processPostHandshake ((pair.play before).side r)).1
      = .error .tooManyKeyUpdates

variable {pair : Pair ε} {r : Role} {moves : List (Role × Move)}

theorem play_append (pair : Pair ε) (moves moves' : List (Role × Move)) :
    pair.play (moves ++ moves') = (pair.play moves).play moves' := List.foldl_append

/-- The other side is where it was, with another view of the link. -/
theorem side_move_peer (pair : Pair ε) (r : Role) (move : Move) :
    ∃ socket : Socket, (pair.move r move).side r.peer = (pair.side r.peer).withSocket socket
      ∧ socket.outbox = (pair.side r.peer).socket.outbox := by
  cases move with
  | call call => exact ⟨_, side_setSide_peer pair r _, rfl⟩
  | setBlocked blocked => exact ⟨_, side_setSide_peer pair r _, rfl⟩

theorem failed_move (pair : Pair ε) (r role : Role) (move : Move)
    (hfailed : (pair.side r).endpoint.context.wait = .error) :
    ((pair.move role move).side r).endpoint.context.wait = .error := by
  rcases Role.eq_or_eq_peer role r with rfl | rfl
  · cases move with
    | call call =>
        obtain ⟨_, hcalled⟩ := (pair.side r).call_called call
        change ((pair.setSide r _).side r).endpoint.context.wait = .error
        rw [side_setSide]
        exact (hcalled.of_failed hfailed).1.wait.trans hfailed
    | setBlocked blocked =>
        change ((pair.setSide r _).side r).endpoint.context.wait = .error
        rw [side_setSide]
        exact hfailed
  · obtain ⟨_, hside, _⟩ := pair.side_move_peer role move
    rw [hside]
    exact hfailed

/-- A side that has failed stays so. -/
theorem failed_play (pair : Pair ε) (r : Role) (moves : List (Role × Move))
    (hfailed : (pair.side r).endpoint.context.wait = .error) :
    ((pair.play moves).side r).endpoint.context.wait = .error := by
  induction moves generalizing pair with
  | nil => exact hfailed
  | cons m moves ih => exact ih (pair.move m.1 m.2) (pair.failed_move r m.1 m.2 hfailed)

namespace Overruns

theorem append (h : pair.Overruns r moves) (later : List (Role × Move)) :
    pair.Overruns r (moves ++ later) := by
  obtain ⟨before, after, rfl, hanswer⟩ := h
  exact ⟨before, after ++ later, List.append_assoc _ _ _, hanswer⟩

theorem prepend (before : List (Role × Move)) (h : (pair.play before).Overruns r moves) :
    pair.Overruns r (before ++ moves) := by
  obtain ⟨first, after, rfl, hanswer⟩ := h
  rw [← play_append] at hanswer
  exact ⟨before ++ first, after, (List.append_assoc _ _ _).symm, hanswer⟩

/-- The side has failed in the end. -/
theorem failed (h : pair.Overruns r moves) :
    ((pair.play moves).side r).endpoint.context.wait = .error := by
  obtain ⟨before, after, rfl, hanswer⟩ := h
  rw [play_append]
  refine failed_play ((pair.play before).move r (.call .processPostHandshake)) r after ?_
  change (((pair.play before).setSide r _).side r).endpoint.context.wait = .error
  rw [side_setSide]
  have hends := ((pair.play before).side r).failures_end.2.1
  rcases hends _ _ (Prod.ext hanswer rfl) with hfailed | ⟨_, hearly, _⟩
  · exact hfailed
  · cases hearly

end Overruns

/-- Flushing is not blocked on any side. -/
def Unblocked (pair : Pair ε) : Prop := ∀ r, (pair.side r).socket.outbox.blocked = false

end Moves

/-- A round of calls: both sides are flushed and process a message, and neither starts a KeyUpdate. -/
structure Round (moves : List (Role × Move)) : Prop where
  calls : ∀ m ∈ moves, ∃ call : Call, m.2 = .call call ∧ call.startsUpdate = false
  flushes (r : Role) : (r, .call .flush) ∈ moves
  processes (r : Role) : (r, .call .processPostHandshake) ∈ moves

/-! ## Both sides -/

/-- What KeyUpdates weigh, those in the flights of the sides and those in the streams from them. -/
def load (queued sent : Role → List KeyUpdateRequest) : Nat :=
  flightWeight (queued .server) + streamWeight (sent .server)
    + (flightWeight (queued .client) + streamWeight (sent .client))

theorem load_eq (queued sent : Role → List KeyUpdateRequest) (r : Role) :
    load queued sent = flightWeight (queued r) + streamWeight (sent r)
      + (flightWeight (queued r.peer) + streamWeight (sent r.peer)) := by
  cases r with
  | server => rfl
  | client => exact Nat.add_comm _ _

/-- Only nothing weighs nothing. -/
theorem nothing_of_load {queued sent : Role → List KeyUpdateRequest}
    (hnone : load queued sent = 0) : (queued = fun _ => []) ∧ sent = fun _ => [] := by
  have hweights : ∀ r, flightWeight (queued r) = 0 ∧ streamWeight (sent r) = 0 := fun r => by
    rw [load_eq _ _ r] at hnone
    omega
  constructor
  · funext r
    have hflight := (hweights r).1
    cases hqueued : queued r with
    | nil => rfl
    | cons request requests =>
        rw [hqueued, flightWeight, List.map_cons, List.sum_cons] at hflight
        omega
  · funext r
    have hstream := (hweights r).2
    cases hsent : sent r with
    | nil => rfl
    | cons request requests =>
        have hpos := request.weight_pos
        rw [hsent, streamWeight, List.map_cons, List.sum_cons] at hstream
        omega

/-- Both sides are complete and have not failed, and the given KeyUpdates are all that is on its
    way. -/
structure Talks {σ τ : Type} (pair : Pair (Station FinishedKeys σ τ))
    (queued sent : Role → List KeyUpdateRequest) : Prop where
  ended (r : Role) : (pair.side r).Ended
  wait (r : Role) : (pair.side r).endpoint.context.wait = .ok
  flight (r : Role) : (pair.side r).socket.outbox.flight.Updates (queued r)
  stream (r : Role) : (pair.side r).socket.outgoing.stream.Updates (sent r)

section Sides

variable {σ τ : Type} {pair : Pair (Station FinishedKeys σ τ)}
  {queued sent : Role → List KeyUpdateRequest} {r : Role} {moves : List (Role × Move)}

namespace Talks

theorem bears (htalks : pair.Talks queued sent) (r : Role) :
    (pair.side r).socket.Bears (queued r) (sent r) (sent r.peer) where
  flight := htalks.flight r
  outgoing := htalks.stream r
  incoming := by
    have hfacing := pair.facing r.peer
    rw [Role.peer_peer] at hfacing
    rw [hfacing]
    exact htalks.stream r.peer

/-- One side becomes `c`, which bears other KeyUpdates. -/
theorem replace {c : Connection (Station FinishedKeys σ τ)}
    {queued' sent' received' : List KeyUpdateRequest} (htalks : pair.Talks queued sent)
    (hended : c.Ended) (hwait : c.endpoint.context.wait = .ok)
    (hbears : c.socket.Bears queued' sent' received') :
    (pair.setSide r c).Talks (Function.update queued r queued')
      (Function.update (Function.update sent r sent') r.peer received') := by
  have hown : (pair.setSide r c).side r = c := side_setSide pair r c
  have hpeer := side_setSide_peer pair r c
  have hne : r.peer ≠ r := r.peer_ne
  constructor
  all_goals
    intro r'
    rcases Role.eq_or_eq_peer r r' with rfl | rfl
  · rwa [hown]
  · rw [hpeer]
    exact ⟨(htalks.ended r.peer).complete, (htalks.ended r.peer).phase, (htalks.ended r.peer).wait⟩
  · rwa [hown]
  · rw [hpeer]
    exact htalks.wait r.peer
  · rw [hown, Function.update_self]
    exact hbears.flight
  · rw [hpeer, Connection.socket_withSocket, Function.update_of_ne hne]
    exact htalks.flight r.peer
  · rw [hown, Function.update_of_ne hne.symm, Function.update_self]
    exact hbears.outgoing
  · rw [hpeer, Connection.socket_withSocket, Function.update_self]
    exact hbears.incoming

/-- One side becomes `c`, which bears what the side did. -/
theorem replace_same {c : Connection (Station FinishedKeys σ τ)} (htalks : pair.Talks queued sent)
    (hended : c.Ended) (hwait : c.endpoint.context.wait = .ok)
    (hbears : c.socket.Bears (queued r) (sent r) (sent r.peer)) :
    (pair.setSide r c).Talks queued sent := by
  have hreplaced := htalks.replace (r := r) hended hwait hbears
  rwa [Function.update_eq_self, Function.update_eq_self, Function.update_eq_self] at hreplaced

/-- Nothing is on its way if there are no KeyUpdates. -/
theorem outbound (htalks : pair.Talks (fun _ => []) fun _ => []) (r : Role) :
    (pair.side r).socket.outbound = [] := by
  have hflight := ByteQueue.updates_iff.1 (htalks.flight r)
  have hstream := ByteQueue.updates_iff.1 (htalks.stream r)
  rw [Socket.outbound, hflight, hstream]
  rfl

variable [SigningDevice σ] [TicketHandler τ]

/-- A move that starts no KeyUpdate finds one too many, or it makes less of those on their way, or it
    leaves them, and then there are none that it would have moved. -/
theorem move (htalks : pair.Talks queued sent) (r : Role) {move : Move}
    (hmove : move.startsUpdate = false) :
    (move = .call .processPostHandshake ∧ sent r.peer ≠ []
      ∧ (answerOf Connection.processPostHandshake (pair.side r)).1 = .error .tooManyKeyUpdates)
    ∨ ∃ queued' sent', (pair.move r move).Talks queued' sent'
      ∧ (load queued' sent' < load queued sent
        ∨ queued' = queued ∧ sent' = sent
          ∧ (move = .call .flush → (pair.side r).socket.outbox.blocked = false → queued r = [])
          ∧ (move = .call .processPostHandshake → sent r.peer = [])) := by
  cases move with
  | setBlocked blocked =>
      have hended := htalks.ended r
      have hbears := htalks.bears r
      refine Or.inr ⟨queued, sent, htalks.replace_same ⟨hended.complete, hended.phase, hended.wait⟩
        (htalks.wait r) ?_, Or.inr ⟨rfl, rfl, nofun, nofun⟩⟩
      rw [Connection.socket_withSocket]
      exact ⟨hbears.flight, hbears.outgoing, hbears.incoming⟩
  | call call =>
      obtain ⟨h, hcalled⟩ := (pair.side r).call_called call
      have hended := (hcalled.emits (htalks.ended r) (succeeds_of_performs hcalled.performs)).1
      rcases hcalled.exchange (htalks.ended r) (htalks.wait r) (htalks.bears r) hmove with
        ⟨rfl, hsent, hanswer, _⟩ | ⟨hwait, queued', sent', received', hbears, hexchange⟩
      · exact Or.inl ⟨rfl, hsent, Answer.polled.inj hanswer⟩
      · rcases hexchange.lessens with hless | ⟨rfl, rfl, rfl, hflush, hprocess⟩
        · refine Or.inr ⟨_, _, htalks.replace hended hwait hbears, Or.inl ?_⟩
          rw [load_eq _ _ r, load_eq queued sent r, Function.update_self, Function.update_self,
            Function.update_of_ne r.peer_ne, Function.update_of_ne r.peer_ne.symm,
            Function.update_self]
          omega
        · refine Or.inr ⟨queued, sent, htalks.replace_same hended hwait hbears,
            Or.inr ⟨rfl, rfl, fun hmove => hflush (Move.call.inj hmove),
              fun hmove => hprocess (Move.call.inj hmove)⟩⟩

/-- If nothing is on its way and no KeyUpdate is started, nothing ever is. -/
theorem play_of_nothing (htalks : pair.Talks (fun _ => []) fun _ => [])
    (hmoves : ∀ m ∈ moves, m.2.startsUpdate = false) :
    (pair.play moves).Talks (fun _ => []) fun _ => [] := by
  induction moves generalizing pair with
  | nil => exact htalks
  | cons m moves ih =>
      obtain ⟨hfirst, hrest⟩ := List.forall_mem_cons.1 hmoves
      refine ih ?_ hrest
      rcases htalks.move m.1 hfirst with ⟨_, hsent, _⟩ | ⟨queued, sent, hafter, hless | hsame⟩
      · exact absurd rfl hsent
      · exact absurd hless (Nat.not_lt_zero _)
      · obtain ⟨rfl, rfl, _⟩ := hsame
        exact hafter

end Talks

/-! ## Rounds -/

variable [SigningDevice σ] [TicketHandler τ]

theorem Unblocked.call (hunblocked : pair.Unblocked) (r : Role) (call : Call) :
    (pair.move r (.call call)).Unblocked := by
  intro r'
  rcases Role.eq_or_eq_peer r r' with rfl | rfl
  · obtain ⟨h, hcalled⟩ := (pair.side r').call_called call
    change ((pair.setSide r' _).side r').socket.outbox.blocked = false
    rw [side_setSide]
    exact (blocked_of_performs hcalled.performs).trans (hunblocked r')
  · obtain ⟨socket, hside, houtbox⟩ := pair.side_move_peer r (.call call)
    rw [hside, Connection.socket_withSocket, houtbox]
    exact hunblocked r.peer

theorem Unblocked.play (hunblocked : pair.Unblocked)
    (hcalls : ∀ m ∈ moves, ∃ call : Call, m.2 = .call call ∧ call.startsUpdate = false) :
    (pair.play moves).Unblocked := by
  induction moves generalizing pair with
  | nil => exact hunblocked
  | cons m moves ih =>
      obtain ⟨⟨call, hcall, _⟩, hrest⟩ := List.forall_mem_cons.1 hcalls
      obtain ⟨role, move⟩ := m
      obtain rfl : move = .call call := hcall
      exact ih (hunblocked.call role call) hrest

/-- Calls find one KeyUpdate too many, or they make less of those on their way, or they leave them,
    and then there are none that they would have moved. -/
theorem Talks.calls (htalks : pair.Talks queued sent) (hunblocked : pair.Unblocked)
    (hcalls : ∀ m ∈ moves, ∃ call : Call, m.2 = .call call ∧ call.startsUpdate = false) :
    (∃ r, pair.Overruns r moves)
    ∨ ∃ queued' sent', (pair.play moves).Talks queued' sent'
      ∧ (load queued' sent' < load queued sent
        ∨ queued' = queued ∧ sent' = sent
          ∧ ∀ r, ((r, .call .flush) ∈ moves → queued r = [])
            ∧ ((r, .call .processPostHandshake) ∈ moves → sent r.peer = [])) := by
  induction moves generalizing pair queued sent with
  | nil =>
      exact Or.inr ⟨queued, sent, htalks, Or.inr ⟨rfl, rfl, fun _ =>
        ⟨fun h => absurd h List.not_mem_nil, fun h => absurd h List.not_mem_nil⟩⟩⟩
  | cons m moves ih =>
      obtain ⟨role, move⟩ := m
      obtain ⟨⟨call, hcall, hstarts⟩, hrest⟩ := List.forall_mem_cons.1 hcalls
      obtain rfl : move = .call call := hcall
      have hmove : (Move.call call).startsUpdate = false := hstarts
      rcases htalks.move role hmove with
        ⟨hprocess, _, hanswer⟩ | ⟨queued₁, sent₁, hafter, hfirst⟩
      · rw [hprocess]
        exact Or.inl ⟨role, [], moves, rfl, hanswer⟩
      · rcases ih hafter (hunblocked.call role call) hrest with
          ⟨r, hoverruns⟩ | ⟨queued₂, sent₂, hend, hlater⟩
        · exact Or.inl ⟨r, Overruns.prepend [(role, .call call)] hoverruns⟩
        · refine Or.inr ⟨queued₂, sent₂, hend, ?_⟩
          rcases hfirst with hless | ⟨rfl, rfl, hflush, hprocess⟩
          · refine Or.inl ?_
            rcases hlater with hless' | ⟨rfl, rfl, _⟩
            · exact Nat.lt_trans hless' hless
            · exact hless
          · refine hlater.imp_right fun ⟨hqueued, hsent, hnothing⟩ => ⟨hqueued, hsent, fun r => ?_⟩
            constructor
            · rintro (_ | ⟨_, hmem⟩)
              · exact hflush rfl (hunblocked _)
              · exact (hnothing r).1 hmem
            · rintro (_ | ⟨_, hmem⟩)
              · exact hprocess rfl
              · exact (hnothing r).2 hmem

/-- A round finds one KeyUpdate too many, or it makes less of those on their way unless there are
    none. -/
theorem Talks.round (htalks : pair.Talks queued sent) (hunblocked : pair.Unblocked)
    (hround : Round moves) :
    (∃ r, pair.Overruns r moves)
    ∨ ∃ queued' sent', (pair.play moves).Talks queued' sent'
      ∧ load queued' sent' ≤ load queued sent - 1 := by
  refine (htalks.calls hunblocked hround.calls).imp_right ?_
  rintro ⟨queued', sent', hafter, hless | ⟨rfl, rfl, hnothing⟩⟩
  · exact ⟨queued', sent', hafter, Nat.le_sub_one_of_lt hless⟩
  · have hqueued := fun r => (hnothing r).1 (hround.flushes r)
    have hserver : sent' .server = [] := (hnothing .client).2 (hround.processes _)
    have hclient : sent' .client = [] := (hnothing .server).2 (hround.processes _)
    have hnone : load queued' sent' = 0 := by
      rw [load, hqueued, hqueued, hserver, hclient]
      rfl
    exact ⟨queued', sent', hafter, hnone ▸ Nat.zero_le _⟩

theorem Talks.rounds {rounds : List (List (Role × Move))} (htalks : pair.Talks queued sent)
    (hunblocked : pair.Unblocked) (hrounds : ∀ round ∈ rounds, Round round) :
    (∃ r, pair.Overruns r rounds.flatten)
    ∨ ∃ queued' sent', (pair.play rounds.flatten).Talks queued' sent'
      ∧ load queued' sent' ≤ load queued sent - rounds.length := by
  induction rounds generalizing pair queued sent with
  | nil => exact Or.inr ⟨queued, sent, htalks, Nat.le_refl _⟩
  | cons round rounds ih =>
      obtain ⟨hfirst, hrest⟩ := List.forall_mem_cons.1 hrounds
      rw [List.flatten_cons]
      rcases htalks.round hunblocked hfirst with ⟨r, hoverruns⟩ | ⟨queued₁, sent₁, hafter, hless⟩
      · exact Or.inl ⟨r, hoverruns.append _⟩
      · rcases ih hafter (hunblocked.play hfirst.calls) hrest with
          ⟨r, hoverruns⟩ | ⟨queued₂, sent₂, hend, hless'⟩
        · exact Or.inl ⟨r, hoverruns.prepend round⟩
        · refine Or.inr ⟨queued₂, sent₂, ?_, ?_⟩
          · rw [play_append]
            exact hend
          · rw [List.length_cons]
            omega

end Sides

end Pair

/-! ## From the start -/

theorem Message.IsUpdate.eq_message {m : Message} (hupdate : m.IsUpdate) (hframed : m.Framed) :
    ∃ request : KeyUpdateRequest, m = request.message := by
  obtain ⟨type, body, raw⟩ := m
  obtain ⟨htype, request, hdecode⟩ := hupdate
  obtain rfl : type = .keyUpdate := htype
  have hbody : body = [request.code] := by
    simp only [KeyUpdateRequest.decode] at hdecode
    split at hdecode <;> cases hdecode <;> rfl
  subst hbody
  obtain rfl : request.encode = raw :=
    Except.ok.inj (request.frame_keyUpdate.symm.trans hframed)
  exact ⟨request, rfl⟩

/-- A queue of KeyUpdates is that of some requests, each of which counts as one. -/
theorem ByteQueue.Holds.updates {q : ByteQueue} {ms : List Message} (hholds : q.Holds ms)
    (hupdates : ∀ m ∈ ms, m.IsUpdate) :
    ∃ requests : List KeyUpdateRequest, q.Updates requests ∧ q.keyUpdates = requests.length := by
  have hrequests : ∃ requests : List KeyUpdateRequest,
      ms = requests.map KeyUpdateRequest.message := by
    have hframed := hholds.2
    clear hholds
    induction ms with
    | nil => exact ⟨[], rfl⟩
    | cons m ms ih =>
        obtain ⟨hfirst, hrest⟩ := List.forall_mem_cons.1 hupdates
        obtain ⟨hone, hothers⟩ := List.forall_mem_cons.1 hframed
        obtain ⟨request, rfl⟩ := hfirst.eq_message hone
        obtain ⟨requests, rfl⟩ := ih hrest hothers
        exact ⟨request :: requests, rfl⟩
  obtain ⟨requests, rfl⟩ := hrequests
  refine ⟨requests, hholds, ?_⟩
  rw [keyUpdates, hholds.messages_eq, List.countP_map]
  exact List.countP_eq_length.2 fun _ _ => rfl

namespace KeyUpdateRequest

theorem weights_le (requests : List KeyUpdateRequest) :
    flightWeight requests ≤ 4 * requests.length ∧ streamWeight requests ≤ 4 * requests.length := by
  induction requests with
  | nil => exact ⟨Nat.le_refl 0, Nat.le_refl 0⟩
  | cons request requests ih =>
      have hweight : request.weight ≤ 3 := by cases request <;> decide
      simp only [flightWeight, streamWeight, List.map_cons, List.sum_cons, List.length_cons]
        at ih ⊢
      omega

end KeyUpdateRequest

section Start

variable {σ τ : Type}

/-- The KeyUpdates on their way from a side. -/
def Connection.updatesOnWay (c : Connection (Station FinishedKeys σ τ)) : Nat :=
  c.socket.outbox.flight.keyUpdates + c.socket.outgoing.stream.keyUpdates

/-- The KeyUpdates on their way between the sides. -/
def Pair.updatesOnWay (pair : Pair (Station FinishedKeys σ τ)) : Nat :=
  (pair.side .server).updatesOnWay + (pair.side .client).updatesOnWay

/-- A channel to an end that is done has KeyUpdates in it and nothing else. -/
theorem Channel.updates {x y : Connection (Station FinishedKeys σ τ)} (hchannel : Channel x y)
    (hphase : y.flow.phase = .done) (hlive : y.endpoint.context.wait ≠ .error) :
    ∃ queued sent : List KeyUpdateRequest, x.socket.outbox.flight.Updates queued
      ∧ x.socket.outgoing.stream.Updates sent
      ∧ flightWeight queued + streamWeight sent ≤ 4 * x.updatesOnWay := by
  obtain ⟨_, _, ms, ⟨streamed, queued, hstream, hflight, rfl⟩, hcarries⟩ := hchannel hlive
  rw [hphase] at hcarries
  have hupdates : ∀ m ∈ streamed ++ queued, m.IsUpdate := by
    obtain ⟨flight, updates, hcarried, hms, _⟩ := hcarries
    obtain rfl := hcarried.empty (finishedRead_done _)
    rw [hms]
    exact hcarried.isUpdate
  obtain ⟨hstreamed, hqueued⟩ := List.forall_mem_append.1 hupdates
  obtain ⟨requests, hrequests, hcount⟩ := hflight.updates hqueued
  obtain ⟨requests', hrequests', hcount'⟩ := hstream.updates hstreamed
  refine ⟨requests, requests', hrequests, hrequests', ?_⟩
  have hweight := (KeyUpdateRequest.weights_le requests).1
  have hweight' := (KeyUpdateRequest.weights_le requests').2
  have hsum : x.updatesOnWay = requests.length + requests'.length := by
    rw [← hcount, ← hcount']
    rfl
  omega

variable {pair : Pair (Station FinishedKeys σ τ)}

/-- Two sides that are complete and have not failed have KeyUpdates on their way and nothing else. -/
theorem Pair.InStep.talks (hstep : pair.InStep)
    (hcomplete : ∀ r, (pair.side r).complete = true)
    (hwait : ∀ r, (pair.side r).endpoint.context.wait = .ok) :
    ∃ queued sent, pair.Talks queued sent ∧ load queued sent ≤ 4 * pair.updatesOnWay := by
  have hphase := fun r => hstep.done r (hcomplete r)
  have hupdates := fun r => (hstep.channel r).updates (hphase r.peer) (by rw [hwait]; nofun)
  choose queued sent hflight hstream hload using hupdates
  refine ⟨queued, sent, ⟨fun r => ⟨hcomplete r, hphase r, Or.inl (hwait r)⟩, hwait, hflight, hstream⟩,
    ?_⟩
  have hserver := hload .server
  have hclient := hload .client
  rw [load, updatesOnWay]
  omega

variable [SigningDevice σ] [TicketHandler τ]

/-- A call after which a connection is complete leaves it waiting for nothing, unless the connection
    was complete and refuses a message. -/
theorem Connection.Called.wait_of_complete {c c' : Connection (Station FinishedKeys σ τ)}
    {call : Call} {h : History} {answer : Answer} (hcalled : Called c call h answer c')
    (hdone : c.DoneIfComplete)
    (hlive : c.complete = true → c.endpoint.context.wait = .ok) (hcomplete : c'.complete = true) :
    c'.endpoint.context.wait = .ok
    ∨ c.complete = true ∧ call = .processPostHandshake ∧ ∃ e, answer = .polled (.error e) := by
  cases hcalled with
  | handshake hdrives =>
      refine Or.inl ?_
      rcases Bool.or_eq_true_iff.1 hcomplete with hbefore | hsuccess
      · rw [hdone hbefore] at hdrives
        obtain ⟨_, rfl, _⟩ :=
          (idle_kept _ _ (hlive hbefore)).drives (g := []) ⟨rfl, rfl, rfl⟩ hdrives
        exact hlive hbefore
      · obtain rfl := of_decide_eq_true hsuccess
        exact hdrives.done.2
  | processed hbefore _ hprocessed =>
      cases hprocessed with
      | delayed => exact Or.inl (hlive hbefore)
      | unread | refused => exact Or.inr ⟨hbefore, rfl, _, rfl⟩
      | handled _ hhandled =>
          obtain ⟨_, _, hcontext⟩ := hhandled.1.context
          refine Or.inl ?_
          rw [clear, hcontext]
          exact hlive hbefore
  | keyUpdateStarted hbefore hstarted =>
      obtain ⟨_, hcontext⟩ := hstarted.1.context
      refine Or.inl ?_
      rw [hcontext]
      exact hlive hbefore
  | earlyDataReset => exact Or.inl rfl
  | flushed | flushDelayed | flushFailed | postHandshakeTooEarly | keyUpdateTooEarly
    | earlyDataNotRejected => exact Or.inl (hlive hcomplete)

namespace Pair

/-- After a move a side that is complete waits for nothing, unless it has found one KeyUpdate too
    many. -/
theorem InStep.wait_of_move (hstep : pair.InStep)
    (hlive : ∀ r, (pair.side r).complete = true → (pair.side r).endpoint.context.wait = .ok)
    (role : Role) (move : Move) :
    pair.Overruns role [(role, move)]
    ∨ ∀ r, ((pair.move role move).side r).complete = true →
      ((pair.move role move).side r).endpoint.context.wait = .ok := by
  have hpeer : ((pair.move role move).side role.peer).complete = true →
      ((pair.move role move).side role.peer).endpoint.context.wait = .ok := by
    obtain ⟨_, hside, _⟩ := pair.side_move_peer role move
    rw [hside]
    exact hlive role.peer
  have hsides (hown : ((pair.move role move).side role).complete = true →
      ((pair.move role move).side role).endpoint.context.wait = .ok) (r : Role) :
      ((pair.move role move).side r).complete = true →
        ((pair.move role move).side r).endpoint.context.wait = .ok := by
    rcases Role.eq_or_eq_peer role r with rfl | rfl
    · exact hown
    · exact hpeer
  cases move with
  | setBlocked blocked =>
      refine Or.inr (hsides ?_)
      change ((pair.setSide role _).side role).complete = true →
        ((pair.setSide role _).side role).endpoint.context.wait = .ok
      rw [side_setSide]
      exact hlive role
  | call call =>
      obtain ⟨h, hcalled⟩ := (pair.side role).call_called call
      by_cases hrefused : (pair.side role).complete = true ∧ call = .processPostHandshake
          ∧ ∃ e, ((pair.side role).call call).1 = .polled (.error e)
      · obtain ⟨hcomplete, rfl, e, hanswer⟩ := hrefused
        have herror := Answer.polled.inj hanswer
        have hwait : (pair.side role).endpoint.context.wait ≠ .error := by
          rw [hlive role hcomplete]
          nofun
        obtain rfl := hstep.refuses hcomplete hwait (Prod.ext herror rfl)
        exact Or.inl ⟨[], [], rfl, herror⟩
      · refine Or.inr (hsides fun hcomplete => ?_)
        change ((pair.setSide role _).side role).complete = true at hcomplete
        change ((pair.setSide role _).side role).endpoint.context.wait = .ok
        rw [side_setSide] at hcomplete ⊢
        exact (hcalled.wait_of_complete (hstep.done role) (hlive role) hcomplete).resolve_right
          hrefused

theorem InStep.wait_of_play (hstep : pair.InStep)
    (hlive : ∀ r, (pair.side r).complete = true → (pair.side r).endpoint.context.wait = .ok)
    (moves : List (Role × Move)) :
    (∃ r, pair.Overruns r moves)
    ∨ ∀ r, ((pair.play moves).side r).complete = true →
      ((pair.play moves).side r).endpoint.context.wait = .ok := by
  induction moves generalizing pair with
  | nil => exact Or.inr hlive
  | cons m moves ih =>
      obtain ⟨role, move⟩ := m
      rcases hstep.wait_of_move hlive role move with hoverruns | hlive
      · exact Or.inl ⟨role, hoverruns.append moves⟩
      · rcases ih (hstep.move role move) hlive with ⟨r, hoverruns⟩ | hrest
        · exact Or.inl ⟨r, Overruns.prepend [(role, move)] hoverruns⟩
        · exact Or.inr hrest

/-- Once both sides are complete and flushing is not blocked, as many rounds as four for each
    KeyUpdate on its way come to an end, unless a side finds one KeyUpdate too many. -/
theorem Unused.quiet_of_rounds (hunused : pair.Unused) {moves : List (Role × Move)}
    (hcomplete : ∀ r, ((pair.play moves).side r).complete = true)
    (hunblocked : (pair.play moves).Unblocked) {rounds : List (List (Role × Move))}
    (hrounds : ∀ round ∈ rounds, Round round)
    (hlength : 4 * (pair.play moves).updatesOnWay ≤ rounds.length) :
    (∃ r, pair.Overruns r (moves ++ rounds.flatten))
    ∨ (pair.play (moves ++ rounds.flatten)).Talks (fun _ => []) fun _ => [] := by
  have hinitial := InStep.initial hunused
  have hfresh : ∀ r, (pair.side r).complete = true →
      (pair.side r).endpoint.context.wait = .ok := fun r hcomplete => by
    cases (hunused.fresh r).incomplete.symm.trans hcomplete
  rcases hinitial.wait_of_play hfresh moves with ⟨r, hoverruns⟩ | hwait
  · exact Or.inl ⟨r, hoverruns.append _⟩
  · obtain ⟨queued, sent, htalks, hload⟩ :=
      (hinitial.play moves).talks hcomplete fun r => hwait r (hcomplete r)
    rcases htalks.rounds hunblocked hrounds with ⟨r, hoverruns⟩ | ⟨queued', sent', hafter, hless⟩
    · exact Or.inl ⟨r, hoverruns.prepend moves⟩
    · have hnone : load queued' sent' = 0 := by omega
      obtain ⟨rfl, rfl⟩ := nothing_of_load hnone
      rw [play_append]
      exact Or.inr hafter

/-- KeyUpdates do not multiply, whatever is called on the two sides in whatever order. A side queues
    at most as many as it is to start and as it has read that ask for one. Each that a call queues is
    the one that the call is to start, or it asks for none and answers one that does; so one that
    answers is not answered. Both sides together queue at most two for each that is to be started.
    And once both sides are complete, flushing is not blocked, and none is started any more, rounds
    of calls, at most four for each KeyUpdate that is still on its way, lead to a side that has failed
    since it found one KeyUpdate too many, or to a link with nothing on it for good. -/
theorem updates_settle (hunused : pair.Unused) (moves : List (Role × Move)) :
    let after := pair.play moves
    (∀ r, (pair.historyOf r moves).updatesQueued.length
      ≤ updatesStarted r moves + (pair.historyOf r moves).requestsRead)
    ∧ (∀ r (call : Call), call.Queues ((after.side r).history [call]))
    ∧ (∀ r m, ((after.side r).history [.processPostHandshake]).messagesRead = [m] →
      m.raw = KeyUpdateRequest.notRequested.encode →
        ((after.side r).history [.processPostHandshake]).updatesQueued = [])
    ∧ (pair.historyOf .server moves).updatesQueued.length
        + (pair.historyOf .client moves).updatesQueued.length
      ≤ 2 * (updatesStarted .server moves + updatesStarted .client moves)
    ∧ ((∀ r, (after.side r).complete = true) → after.Unblocked →
      ∀ rounds : List (List (Role × Move)), (∀ round ∈ rounds, Round round) →
        4 * after.updatesOnWay ≤ rounds.length →
          (∃ r, pair.Overruns r (moves ++ rounds.flatten)
            ∧ ((after.play rounds.flatten).side r).endpoint.context.wait = .error)
          ∨ ∀ later : List (Role × Move), (∀ move ∈ later, move.2.startsUpdate = false) →
            ∀ r, (((after.play rounds.flatten).play later).side r).socket.outbound = []) := by
  intro after
  have hrelays := (Relays.initial hunused.link).play moves
  have hqueues := fun r call => ((after.side r).history_queued call).queues
  refine ⟨fun r => (pair.historyOf_counts r moves).1, hqueues, fun r m hread hraw => ?_,
    updatesQueued_le hunused.link moves .server, fun hcomplete hunblocked rounds hrounds hlength => ?_⟩
  · have hframed := (hrelays.call r .processPostHandshake).framed r
    rw [if_pos rfl, History.messagesRead_append, hread] at hframed
    have hm := hframed m (List.mem_append_right _ (List.mem_singleton_self m))
    have hcases := hqueues r .processPostHandshake
    generalize (after.side r).history [.processPostHandshake] = h at hread hcases ⊢
    cases hcases with
    | none hnone => exact hnone
    | acknowledged _ hread' hasks =>
        obtain rfl := List.singleton_injective (hread.symm.trans hread')
        cases hraw.symm.trans (hm.raw_of_asksUpdate hasks)
  · rcases hunused.quiet_of_rounds hcomplete hunblocked hrounds hlength with
      ⟨r, hoverruns⟩ | hquiet
    · refine Or.inl ⟨r, hoverruns, ?_⟩
      have hfailed := hoverruns.failed
      rwa [play_append] at hfailed
    · rw [play_append] at hquiet
      exact Or.inr fun later hlater r => (hquiet.play_of_nothing hlater).outbound r

end Pair

end Start

/-! ## A rehearsal -/

namespace Rehearsal

/-- Once both handshakes have succeeded, each side starts a KeyUpdate that asks for one. -/
def crossing : List (Role × Move) :=
  requests.map (fun (role, _) => (role, .call .handshake))
    ++ [(.client, .call (.keyUpdate .requested)), (.server, .call (.keyUpdate .requested))]

/-- Both sides are flushed, and then both process a message. -/
def exchange : List (Role × Move) :=
  [(.server, .call .flush), (.client, .call .flush), (.server, .call .processPostHandshake),
    (.client, .call .processPostHandshake)]

theorem round_exchange : Pair.Round exchange where
  calls := by simp [exchange, Call.startsUpdate]
  flushes r := by cases r <;> decide
  processes r := by cases r <;> decide

set_option maxRecDepth 100000 in
/-- After eight exchanges nothing is on its way any more. -/
theorem crossing_settles :
    (pair.historyOf .server crossing).updatesQueued.length
        + (pair.historyOf .client crossing).updatesQueued.length
      ≤ 2 * (updatesStarted .server crossing + updatesStarted .client crossing)
    ∧ ∀ later : List (Role × Move), (∀ move ∈ later, move.2.startsUpdate = false) →
      ∀ r, ((((pair.play crossing).play (List.replicate 8 exchange).flatten).play later).side
        r).socket.outbound = [] := by
  have hsettle := Pair.updates_settle unused_pair crossing
  have hafter : ((pair.play crossing).side .server).complete = true
      ∧ ((pair.play crossing).side .client).complete = true
      ∧ ((pair.play crossing).side .server).socket.outbox.blocked = false
      ∧ ((pair.play crossing).side .client).socket.outbox.blocked = false
      ∧ 4 * (pair.play crossing).updatesOnWay ≤ 8 := by decide +kernel
  have hend : (((pair.play crossing).play (List.replicate 8 exchange).flatten).side
        .server).endpoint.context.wait ≠ .error
      ∧ (((pair.play crossing).play (List.replicate 8 exchange).flatten).side
        .client).endpoint.context.wait ≠ .error := by decide +kernel
  -- nothing is computed from here on
  generalize pair.play crossing = after at hsettle hafter hend ⊢
  obtain ⟨-, -, -, htotal, hquiet⟩ := hsettle
  obtain ⟨hserver, hclient, hserver', hclient', hlength⟩ := hafter
  refine ⟨htotal, ?_⟩
  have hrounds : ∀ round ∈ List.replicate 8 exchange, Pair.Round round := fun round hmem =>
    List.eq_of_mem_replicate hmem ▸ round_exchange
  rcases hquiet (fun r => by cases r <;> assumption) (fun r => by cases r <;> assumption)
    (List.replicate 8 exchange) hrounds hlength with ⟨r, _, hfailed⟩ | hnothing
  · cases r with
    | server => exact absurd hfailed hend.1
    | client => exact absurd hfailed hend.2
  · exact hnothing

end Rehearsal

end TlsHandshake
