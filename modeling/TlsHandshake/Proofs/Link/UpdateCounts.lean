import TlsHandshake.Proofs.Link.KeysInStep
import TlsHandshake.Proofs.Receipts

set_option autoImplicit false

/-! # How many KeyUpdates are queued

A side of a pair queues a KeyUpdate when it is asked to start one, or as the answer to one that asks
for it, and such an answer asks for nothing. What a side reads is what the other one has queued, so
the answers are at most as many as the updates that were started. Main statements:
`Call.Queues`, what one call queues, and `Pair.historyOf_counts`, what all of them do. -/

namespace TlsHandshake

open AuthFlow Endpoint Engine

/-! ## KeyUpdates among the messages -/

/-- Whether a message is a KeyUpdate, by its first byte. -/
def isKeyUpdate (raw : Bytes) : Bool := raw.head? = some MessageType.keyUpdate.code

/-- Whether a message is a KeyUpdate that asks for one in return. -/
def Message.asksUpdate (m : Message) : Bool :=
  m.type = .keyUpdate && m.body = [KeyUpdateRequest.requested.code]

/-- The KeyUpdates queued, in order. -/
def History.updatesQueued (h : History) : List Bytes := h.messagesSent.filter isKeyUpdate

/-- How many of the messages read are KeyUpdates that ask for one in return. -/
def History.requestsRead (h : History) : Nat := h.messagesRead.countP Message.asksUpdate

section Messages

variable {type : MessageType} {raw : Bytes} {m : Message} {g h : History}

theorem IsMessage.isKeyUpdate (hmessage : IsMessage type raw) :
    isKeyUpdate raw = decide (type = .keyUpdate) := by
  obtain ⟨body, hframe⟩ := hmessage
  obtain ⟨_, rfl⟩ := frame_eq_ok_iff.1 hframe
  cases type <;> rfl

theorem KeyUpdateRequest.isMessage_encode (request : KeyUpdateRequest) :
    IsMessage .keyUpdate request.encode := ⟨_, frame_keyUpdate request⟩

theorem Message.asksUpdate_iff :
    m.asksUpdate = true
      ↔ m.type = .keyUpdate ∧ KeyUpdateRequest.decode m.body = .ok .requested := by
  simp only [asksUpdate, Bool.and_eq_true, decide_eq_true_eq]
  refine and_congr_right fun _ => ⟨fun h => by rw [h]; rfl, fun h => ?_⟩
  unfold KeyUpdateRequest.decode at h
  split at h
  · cases h
  · assumption
  · cases h
  · cases h

/-- A framed message that asks for a KeyUpdate has the bytes of one. -/
theorem Message.Framed.raw_of_asksUpdate (hframed : m.Framed) (hasks : m.asksUpdate = true) :
    m.raw = KeyUpdateRequest.requested.encode := by
  simp only [asksUpdate, Bool.and_eq_true, decide_eq_true_eq] at hasks
  have hframe : frame .keyUpdate [KeyUpdateRequest.requested.code] = .ok m.raw := by
    rw [← hasks.1, ← hasks.2]
    exact hframed
  exact Except.ok.inj (hframe.symm.trans (KeyUpdateRequest.frame_keyUpdate _))

@[simp] theorem History.updatesQueued_append :
    (g ++ h).updatesQueued = g.updatesQueued ++ h.updatesQueued := by
  simp only [updatesQueued, messagesSent_append, List.filter_append]

@[simp] theorem History.requestsRead_append :
    (g ++ h).requestsRead = g.requestsRead + h.requestsRead := by
  simp only [requestsRead, messagesRead_append, List.countP_append]

end Messages

/-! ## One call -/

/-- Only messages of the flight are queued. -/
def History.QueuesFlight (h : History) : Prop :=
  ∀ raw ∈ h.messagesSent, ∃ type, IsMessage type raw ∧ type ≠ .keyUpdate

/-- The ways in which a call queues KeyUpdates: none, or the one that it is asked for, or the answer
    to one that it has read and that asks for it. -/
inductive Call.Queues : Call → History → Prop
  | none {call : Call} {h : History} (hqueued : h.updatesQueued = []) : Queues call h
  | started {request : KeyUpdateRequest} {h : History}
      (hqueued : h.updatesQueued = [request.encode]) : Queues (.keyUpdate request) h
  | acknowledged {m : Message} {h : History}
      (hqueued : h.updatesQueued = [KeyUpdateRequest.notRequested.encode])
      (hread : h.messagesRead = [m]) (hasks : m.asksUpdate = true) :
      Queues .processPostHandshake h

/-- Whether a call is to start a KeyUpdate. -/
def Call.startsUpdate : Call → Bool
  | .keyUpdate _ => true
  | _ => false

namespace Call.Queues

variable {call : Call} {h : History}

theorem length_le (hqueues : call.Queues h) :
    h.updatesQueued.length ≤ call.startsUpdate.toNat + h.requestsRead := by
  cases hqueues with
  | none hqueued =>
      rw [hqueued]
      exact Nat.zero_le _
  | started hqueued =>
      rw [hqueued]
      exact Nat.le_add_right 1 _
  | acknowledged hqueued hread hasks =>
      rw [hqueued, History.requestsRead, hread]
      simp [hasks]

/-- Only a KeyUpdate that was started asks for one. -/
theorem count_le (hqueues : call.Queues h) :
    h.messagesSent.count KeyUpdateRequest.requested.encode ≤ call.startsUpdate.toNat := by
  rw [← List.count_filter (p := isKeyUpdate) rfl]
  change h.updatesQueued.count _ ≤ _
  cases hqueues with
  | none hqueued =>
      rw [hqueued]
      exact Nat.zero_le _
  | @started request _ hqueued =>
      rw [hqueued]
      exact Nat.le_trans List.count_le_length (Nat.le_refl 1)
  | acknowledged hqueued =>
      rw [hqueued]
      decide

end Call.Queues

namespace History.QueuesFlight

variable {g h : History}

theorem append (hg : g.QueuesFlight) (hh : h.QueuesFlight) : (g ++ h).QueuesFlight := by
  intro raw hmem
  rw [messagesSent_append] at hmem
  exact (List.mem_append.1 hmem).elim (hg raw) (hh raw)

theorem of_nil (hnone : h.messagesSent = []) : h.QueuesFlight := by
  intro raw hmem
  rw [hnone] at hmem
  cases hmem

theorem updatesQueued (hflight : h.QueuesFlight) : h.updatesQueued = [] := by
  refine List.filter_eq_nil_iff.2 fun raw hmem => ?_
  obtain ⟨type, hmessage, hother⟩ := hflight raw hmem
  rw [hmessage.isKeyUpdate, decide_eq_false hother]
  exact Bool.false_ne_true

end History.QueuesFlight

/-- A turn queues a message of the flight or none. -/
theorem AuthFlow.Advance.queuesFlight {role : Role} {signer? : Option SignerInfo} {phase : Phase}
    {c c' : Context} {h : History} {turn : Turn}
    (hadvance : Advance role signer? phase c h turn c') : h.QueuesFlight := by
  rcases hadvance.sends_cases with ⟨hnone, _⟩ | ⟨_, m, hframed, hone, htype, _⟩
  · exact .of_nil hnone
  · intro raw hmem
    rw [hone, List.mem_singleton] at hmem
    exact hmem ▸ ⟨m.type, ⟨m.body, hframed⟩, htype⟩

section Calls

variable {ε : Type} [Environment ε] {h : History} {answer : Except Error Unit} {c c' : Context}

/-- A handshake queues messages of the flight. -/
theorem AuthFlow.queuesFlight_kept (role : Role) :
    Kept (ε := ε) role
      (fun _ _ h => (∀ event ∈ h, event.Succeeds) → h.QueuesFlight)
      (fun _ _ h => (∀ event ∈ h, event.Succeeds) → h.QueuesFlight) where
  suspend hidle hsettled hsucceeds :=
    (hidle (List.forall_mem_append.1 hsucceeds).1).append (.of_nil hsettled.1.messagesSent)
  settle hidle hsettled hsucceeds :=
    (hidle (List.forall_mem_append.1 hsucceeds).1).append (.of_nil hsettled.1.messagesSent)
  next hbusy hturn hsucceeds :=
    (hbusy (List.forall_mem_append.1 hsucceeds).1).append hturn.1.queuesFlight
  wait hbusy hturn hsucceeds :=
    (hbusy (List.forall_mem_append.1 hsucceeds).1).append hturn.1.queuesFlight
  fail hbusy hturn hsucceeds :=
    have hsucceeds := List.forall_mem_append.1 hsucceeds
    (hbusy hsucceeds.1).append (.of_nil (hturn.1.messagesSent hsucceeds.2))

/-- A key update queues one KeyUpdate or none. -/
theorem Engine.StartsUpdate.queued {request : KeyUpdateRequest}
    (hstarts : StartsUpdate request c h answer c') (hsucceeds : ∀ event ∈ h, event.Succeeds) :
    h.messagesSent = [] ∨ h.messagesSent = [request.encode] := by
  obtain ⟨_, ⟨_, rfl, _⟩ | ⟨_, _, rfl⟩⟩ := hstarts.of_succeeds hsucceeds
  · exact Or.inl rfl
  · exact Or.inr rfl

/-- A message that is dealt with brings up an answer only if it is a KeyUpdate that asks for one. -/
theorem Engine.Handles.queued {ticketed : Bool} {m : Message}
    (hhandles : Handles ticketed m c h answer c') (hsucceeds : ∀ event ∈ h, event.Succeeds) :
    h.messagesSent = []
    ∨ h.messagesSent = [KeyUpdateRequest.notRequested.encode] ∧ m.asksUpdate = true := by
  cases hhandles with
  | keyUpdate htype _ hreceives =>
      cases hreceives with
      | answered hdecode hstarts =>
          rcases hstarts.queued (List.forall_mem_cons.1 hsucceeds).2 with hnone | hone
          · exact Or.inl hnone
          · exact Or.inr ⟨hone, Message.asksUpdate_iff.2 ⟨htype, hdecode⟩⟩
      | _ => exact Or.inl rfl
  | _ => exact Or.inl rfl

/-- Whole messages are queued, and KeyUpdates among them in one of the ways listed. -/
structure History.Queued (call : Call) (h : History) : Prop where
  whole : ∀ raw ∈ h.messagesSent, ∃ type, IsMessage type raw
  queues : call.Queues h

namespace History.Queued

variable {call : Call}

theorem of_nil (hnone : h.messagesSent = []) : h.Queued call where
  whole := by
    rw [hnone]
    exact List.forall_mem_nil _
  queues := .none (by rw [updatesQueued, hnone]; rfl)

/-- One KeyUpdate is queued. -/
theorem of_update {request : KeyUpdateRequest} (hone : h.messagesSent = [request.encode])
    (hqueues : h.updatesQueued = [request.encode] → call.Queues h) : h.Queued call where
  whole := by
    rw [hone]
    exact List.forall_mem_singleton.2 ⟨_, request.isMessage_encode⟩
  queues := hqueues (by rw [updatesQueued, hone]; rfl)

end History.Queued

/-- What is queued when a message has been read and dealt with. -/
theorem Endpoint.Handled.queued {m : Message} {p q : Endpoint ε}
    (hhandled : Handled m p h answer q) (hsucceeds : ∀ event ∈ h, event.Succeeds) :
    History.Queued .processPostHandshake (.read (.ok (.ready m)) :: h) := by
  have hsent : History.messagesSent (.read (.ok (.ready m)) :: h) = h.messagesSent :=
    History.messagesSent_cons _ _
  rcases hhandled.1.queued hsucceeds with hnone | ⟨hone, hasks⟩
  · exact .of_nil (hsent.trans hnone)
  · refine .of_update (hsent.trans hone) fun hqueued => .acknowledged hqueued ?_ hasks
    rw [History.messagesRead_cons, hhandled.1.messagesRead]
    rfl

/-- A call queues whole messages, and KeyUpdates among them in one of the ways listed. -/
theorem Connection.Called.queued {c c' : Connection ε} {call : Call} {answer : Answer}
    (hcalled : Called c call h answer c') (hsucceeds : ∀ event ∈ h, event.Succeeds) :
    h.Queued call := by
  cases hcalled with
  | handshake hdrives =>
      have hflight := (queuesFlight_kept _).drives (g := []) (fun _ => .of_nil rfl) hdrives hsucceeds
      exact ⟨fun raw hmem => (hflight raw hmem).imp fun _ h => h.1, .none hflight.updatesQueued⟩
  | processed _ _ hprocessed =>
      cases hprocessed with
      | delayed => exact .of_nil rfl
      | unread => exact .of_nil (by simp [Event.sent?])
      | handled _ hhandled | refused _ hhandled =>
          exact hhandled.queued (List.forall_mem_cons.1 hsucceeds).2
  | keyUpdateStarted _ hstarted =>
      rcases hstarted.1.queued hsucceeds with hnone | hone
      · exact .of_nil hnone
      · exact .of_update hone .started
  | flushed | flushDelayed | flushFailed | postHandshakeTooEarly | keyUpdateTooEarly
    | earlyDataReset | earlyDataNotRejected => exact .of_nil rfl

theorem Connection.history_queued {σ τ : Type} [SigningDevice σ] [TicketHandler τ]
    (c : Connection (Station FinishedKeys σ τ)) (call : Call) :
    (c.history [call]).Queued call := by
  obtain ⟨_, hcalled, _⟩ := c.history_called call
  exact hcalled.queued (c.history_succeeds [call])

end Calls

/-! ## Both sides -/

section Pairs

variable {ε : Type} [OnLink ε] [Environment ε]

/-- What one side does to its surroundings during moves. -/
def Pair.historyOf (pair : Pair ε) (r : Role) : List (Role × Move) → History
  | [] => []
  | (role, .call call) :: moves =>
      (if role = r then (pair.side role).history [call] else [])
        ++ (pair.move role (.call call)).historyOf r moves
  | (role, .setBlocked blocked) :: moves => (pair.move role (.setBlocked blocked)).historyOf r moves

/-- Whether a move is to start a KeyUpdate. -/
def Move.startsUpdate : Move → Bool
  | .call c => c.startsUpdate
  | .setBlocked _ => false

/-- How many of the moves are to start a KeyUpdate on one side. -/
def updatesStarted (r : Role) (moves : List (Role × Move)) : Nat :=
  moves.countP fun (role, move) => role = r && move.startsUpdate

theorem updatesStarted_cons (r role : Role) (move : Move) (moves : List (Role × Move)) :
    updatesStarted r ((role, move) :: moves)
      = updatesStarted r moves + if role = r then move.startsUpdate.toNat else 0 := by
  unfold updatesStarted
  rw [List.countP_cons]
  by_cases hrole : role = r <;> cases hstarts : move.startsUpdate <;> simp [hrole, hstarts]

end Pairs

/-- Both directions deliver what has been queued; `h` is what each side has done. -/
structure Pair.Relays {σ τ : Type} (pair : Pair (Station FinishedKeys σ τ)) (h : Role → History) :
    Prop where
  whole (r : Role) : ∀ raw ∈ (h r).messagesSent, ∃ type, IsMessage type raw
  delivery (r : Role) : Delivery (h r).messagesSent (h r.peer).messagesRead
    (pair.side r).socket.outbound

namespace Pair

variable {σ τ : Type} {pair : Pair (Station FinishedKeys σ τ)} {h : Role → History}

theorem Relays.initial (hlink : pair.link = {}) : pair.Relays fun _ => [] where
  whole _ := List.forall_mem_nil _
  delivery r := by
    have hempty : (pair.side r).socket.outbound = [] := by
      cases r <;> simp only [Pair.side, hlink] <;> rfl
    rw [hempty]
    exact .nil

/-- One side becomes `c`, and `g` tells what its socket sends and reads meanwhile. -/
theorem Relays.replace {r : Role} {c : Connection (Station FinishedKeys σ τ)} {g : History}
    (hrelays : pair.Relays h) (hwhole : ∀ raw ∈ g.messagesSent, ∃ type, IsMessage type raw)
    (houtbound : c.socket.outbound = (pair.side r).socket.outbound ++ g.messagesSent.flatten)
    (hinbound : ∀ {sent read later}, (∀ m ∈ sent, ∃ type, IsMessage type m) →
      Delivery sent read ((pair.side r).socket.incoming.stream.toBytes ++ later) →
      Delivery sent (read ++ g.messagesRead) (c.socket.incoming.stream.toBytes ++ later)) :
    (pair.setSide r c).Relays fun r' => h r' ++ if r = r' then g else [] := by
  have hown : (pair.setSide r c).side r = c := side_setSide pair r c
  have hpeer := side_setSide_peer pair r c
  have hne : r ≠ r.peer := r.peer_ne.symm
  have hto := hrelays.delivery r
  have hfrom := hrelays.delivery r.peer
  rw [Role.peer_peer, Socket.outbound, ← pair.facing r.peer, Role.peer_peer] at hfrom
  constructor
  · intro r' raw hmem
    rw [History.messagesSent_append] at hmem
    refine (List.mem_append.1 hmem).elim (hrelays.whole r' raw) fun hmem => ?_
    split at hmem
    · exact hwhole raw hmem
    · cases hmem
  · intro r'
    rcases Role.eq_or_eq_peer r r' with rfl | rfl
    · rw [hown, if_pos rfl, if_neg hne, List.append_nil, History.messagesSent_append, houtbound]
      exact hto.send g.messagesSent
    · rw [hpeer, Connection.socket_withSocket, Role.peer_peer, if_pos rfl, if_neg hne,
        List.append_nil, History.messagesRead_append]
      exact hinbound (hrelays.whole r.peer) hfrom

variable [SigningDevice σ] [TicketHandler τ]

theorem Relays.call (hrelays : pair.Relays h) (r : Role) (call : Call) :
    (pair.move r (.call call)).Relays
      fun r' => h r' ++ if r = r' then (pair.side r).history [call] else [] := by
  have hperforms := (pair.side r).history_performs call
  exact hrelays.replace ((pair.side r).history_queued call).whole (outbound_of_performs hperforms).1
    fun hsent hdelivery => (delivery_of_performs hperforms hdelivery hsent).1

theorem Relays.setBlocked (hrelays : pair.Relays h) (r : Role) (blocked : Bool) :
    (pair.move r (.setBlocked blocked)).Relays h := by
  have hreplaced := hrelays.replace (r := r) (g := [])
    (c := (pair.side r).withSocket ((pair.side r).socket.setBlocked blocked))
    (List.forall_mem_nil _) (by rw [Connection.socket_withSocket]; exact (List.append_nil _).symm)
    fun _ hdelivery => by
      rw [Connection.socket_withSocket, History.messagesRead_nil, List.append_nil]
      exact hdelivery
  have hsame : (fun r' => h r' ++ if r = r' then [] else []) = h :=
    funext fun r' => by rw [ite_self, List.append_nil]
  rw [hsame] at hreplaced
  exact hreplaced

/-- Whatever is done on the two sides, both directions deliver. -/
theorem Relays.play (hrelays : pair.Relays h) (moves : List (Role × Move)) :
    (pair.play moves).Relays fun r => h r ++ pair.historyOf r moves := by
  induction moves generalizing pair h with
  | nil =>
      have hsame : (fun r => h r ++ pair.historyOf r []) = h := funext fun r => List.append_nil _
      rw [hsame]
      exact hrelays
  | cons m moves ih =>
      obtain ⟨role, call | blocked⟩ := m
      · have hrest := ih (hrelays.call role call)
        simp only [List.append_assoc] at hrest
        exact hrest
      · exact ih (hrelays.setBlocked role blocked)

omit [SigningDevice σ] [TicketHandler τ] in
/-- What has been read is framed. -/
theorem Relays.framed (hrelays : pair.Relays h) (r : Role) :
    ∀ m ∈ (h r).messagesRead, m.Framed := by
  obtain ⟨_, _, _, hframed⟩ := hrelays.delivery r.peer
  rwa [Role.peer_peer] at hframed

omit [SigningDevice σ] [TicketHandler τ] in
/-- A side reads no more KeyUpdates that ask for one than the other side has queued. -/
theorem Relays.requestsRead_le (hrelays : pair.Relays h) (r : Role) :
    (h r).requestsRead ≤ (h r.peer).messagesSent.count KeyUpdateRequest.requested.encode := by
  have hdelivery := hrelays.delivery r.peer
  rw [Role.peer_peer] at hdelivery
  have hprefix := hdelivery.raw_prefix
  calc (h r).messagesRead.countP Message.asksUpdate
      ≤ (h r).messagesRead.countP (fun m => m.raw == KeyUpdateRequest.requested.encode) :=
        List.countP_mono_left fun m hm hasks =>
          beq_iff_eq.2 ((hrelays.framed r m hm).raw_of_asksUpdate hasks)
    _ = ((h r).messagesRead.map Message.raw).count KeyUpdateRequest.requested.encode := by
        rw [List.count_eq_countP, List.countP_map]
        rfl
    _ ≤ (h r.peer).messagesSent.count KeyUpdateRequest.requested.encode :=
        hprefix.sublist.count_le _

/-- A side queues at most as many KeyUpdates as it is to start and as it reads that ask for one, and
    asks for one only with those it is to start. -/
theorem historyOf_counts (pair : Pair (Station FinishedKeys σ τ)) (r : Role)
    (moves : List (Role × Move)) :
    (pair.historyOf r moves).updatesQueued.length
        ≤ updatesStarted r moves + (pair.historyOf r moves).requestsRead
    ∧ (pair.historyOf r moves).messagesSent.count KeyUpdateRequest.requested.encode
        ≤ updatesStarted r moves := by
  induction moves generalizing pair with
  | nil => exact ⟨Nat.le_refl 0, Nat.le_refl 0⟩
  | cons m moves ih =>
      obtain ⟨role, call | blocked⟩ := m
      · obtain ⟨hlength, hcount⟩ := ih (pair.move role (.call call))
        have hqueues := ((pair.side role).history_queued call).queues
        simp only [historyOf, updatesStarted_cons, History.updatesQueued_append,
          History.requestsRead_append, History.messagesSent_append, List.length_append,
          List.count_append, Move.startsUpdate]
        by_cases hrole : role = r
        · have hfirst := hqueues.length_le
          have hfirst' := hqueues.count_le
          simp only [if_pos hrole]
          omega
        · simp only [if_neg hrole]
          exact ⟨by simpa [History.updatesQueued, History.requestsRead] using hlength,
            by simpa using hcount⟩
      · rw [updatesStarted_cons]
        simpa [Move.startsUpdate, historyOf] using ih (pair.move role (.setBlocked blocked))

/-- Both sides together queue at most two KeyUpdates for each that they are to start. -/
theorem updatesQueued_le (hlink : pair.link = {}) (moves : List (Role × Move)) (r : Role) :
    (pair.historyOf r moves).updatesQueued.length
        + (pair.historyOf r.peer moves).updatesQueued.length
      ≤ 2 * (updatesStarted r moves + updatesStarted r.peer moves) := by
  have hrelays := (Relays.initial hlink).play moves
  have hread := hrelays.requestsRead_le r
  have hread' := hrelays.requestsRead_le r.peer
  rw [Role.peer_peer] at hread'
  obtain ⟨hqueued, hasks⟩ := pair.historyOf_counts r moves
  obtain ⟨hqueued', hasks'⟩ := pair.historyOf_counts r.peer moves
  simp only [List.nil_append] at hread hread'
  omega

end Pair

end TlsHandshake
