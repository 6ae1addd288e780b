import TlsHandshake.Memory.Tamper
import TlsHandshake.Proofs.Flight.Progress
import TlsHandshake.Proofs.Link.Stations

set_option autoImplicit false

/-! # Whole messages on a link

Nobody on a link but its two ends, the flight of an end and the stream to its peer are both made of
whole messages: messages are queued as wholes, a flush moves all of a flight, and a read takes one
message. `ByteQueue.messages` finds them, as a reader would. -/

namespace TlsHandshake

open AuthFlow

/-! ## Queues of messages -/

namespace ByteQueue

/-- The messages that a reader finds in a queue, up to the first that is incomplete or unknown. -/
def messages (q : ByteQueue) : List Message :=
  (Socket.drain { incoming := { stream := q } }).1

/-- A queue is made of the given messages. -/
def Holds (q : ByteQueue) (ms : List Message) : Prop :=
  q.toBytes = rawBytes ms ∧ ∀ m ∈ ms, m.Framed

variable {q : ByteQueue} {m : Message} {ms ms' : List Message}

theorem holds_empty : empty.Holds [] := ⟨rfl, nofun⟩

theorem Holds.append (h : q.Holds ms) {q' : ByteQueue} (h' : q'.Holds ms') :
    (q.append q'.toBytes).Holds (ms ++ ms') := by
  refine ⟨by rw [toBytes_append, h.1, h'.1, rawBytes_append], fun m hm => ?_⟩
  rcases List.mem_append.1 hm with hm | hm
  · exact h.2 m hm
  · exact h'.2 m hm

theorem Holds.concat (h : q.Holds ms) (hm : m.Framed) : (q.append m.raw).Holds (ms ++ [m]) :=
  have hone : (ofBytes m.raw).Holds [m] := ⟨(rawBytes_singleton m).symm, by simpa using hm⟩
  h.append hone

/-- From a queue of messages the first one is taken. -/
theorem Holds.take? (h : q.Holds ms) :
    match ms with
    | [] => ∃ q', Message.take? q = .ok none q' ∧ q'.Holds []
    | m :: ms => ∃ q', Message.take? q = .ok (some m) q' ∧ q'.Holds ms := by
  obtain ⟨hbytes, hframed⟩ := h
  cases ms with
  | nil =>
      obtain ⟨q', htake, hempty⟩ := take?_of_empty hbytes
      exact ⟨q', htake, hempty, nofun⟩
  | cons m ms =>
      have hstream : q.toBytes ++ [] = m.raw ++ rawBytes ms := by
        rw [List.append_nil, hbytes, ← rawBytes_singleton, ← rawBytes_append]
        rfl
      have hrest : ∀ m ∈ ms, m.Framed := fun m hm => hframed m (List.mem_cons_of_mem _ hm)
      rcases take?_of_frame (hframed m List.mem_cons_self) hstream with
        ⟨q', htake, hq'⟩ | ⟨_, _, _, hshort⟩
      · rw [List.append_nil] at hq'
        exact ⟨q', htake, hq', hrest⟩
      · -- all of the message is there, since nothing comes later
        have hlength := congrArg List.length hstream
        rw [List.append_nil, List.length_append] at hlength
        omega

end ByteQueue

namespace Socket

variable {s : Socket} {m : Message} {ms : List Message}

/-- From a stream of messages the first one is read. -/
theorem answerOf_readMessage (h : s.incoming.stream.Holds ms) :
    ∃ stream, answerOf readMessage s
        = (.ok (match ms with | [] => .pending | m :: _ => .ready m),
          { s with incoming := { s.incoming with stream := stream } })
      ∧ stream.Holds ms.tail := by
  have htake := h.take?
  cases ms with
  | nil =>
      obtain ⟨stream, htake, hrest⟩ := htake
      refine ⟨stream, ?_, hrest⟩
      simp only [answerOf, readMessage, htake]
  | cons m ms =>
      obtain ⟨stream, htake, hrest⟩ := htake
      refine ⟨stream, ?_, hrest⟩
      simp only [answerOf, readMessage, htake]

/-- As many messages are read from a stream of messages as are asked for, or all of them. -/
theorem readMessages_eq (count : Nat) (before : List Message) (h : s.incoming.stream.Holds ms)
    (hcount : ms.length ≤ count) : (readMessages count before s).1 = before.reverse ++ ms := by
  induction count generalizing before ms s with
  | zero =>
      obtain rfl := List.length_eq_zero_iff.1 (Nat.le_zero.1 hcount)
      exact (List.append_nil _).symm
  | succ count ih =>
      obtain ⟨stream, hread, hrest⟩ := answerOf_readMessage h
      cases ms with
      | nil =>
          rw [readMessages, answerOf_eq_ok_iff.1 hread]
          exact (List.append_nil _).symm
      | cons m ms =>
          rw [readMessages, answerOf_eq_ok_iff.1 hread]
          change (readMessages count (m :: before) _).1 = _
          rw [ih (m :: before) hrest (Nat.le_of_succ_le_succ hcount), List.reverse_cons,
            List.append_assoc]
          rfl

end Socket

namespace ByteQueue

variable {q : ByteQueue} {ms : List Message}

/-- A message is no shorter than its header. -/
theorem Holds.length_le (h : q.Holds ms) : headerLength * ms.length ≤ q.size := by
  obtain ⟨hbytes, hframed⟩ := h
  rw [size_eq_length, hbytes]
  clear hbytes
  induction ms with
  | nil => exact Nat.zero_le _
  | cons m ms ih =>
      have hm := length_of_frame (hframed m List.mem_cons_self)
      have hrest := ih fun m hm => hframed m (List.mem_cons_of_mem _ hm)
      rw [← List.singleton_append, rawBytes_append, rawBytes_singleton, List.length_append,
        List.length_append, List.length_singleton, Nat.mul_add]
      omega

/-- A reader finds the messages that a queue is made of. -/
theorem Holds.messages_eq (h : q.Holds ms) : q.messages = ms := by
  refine Socket.readMessages_eq _ [] h ?_
  have hlength := h.length_le
  exact (Nat.le_div_iff_mul_le (by decide)).2 (Nat.mul_comm _ _ ▸ hlength)

theorem Holds.holds_messages (h : q.Holds ms) : q.Holds q.messages := by
  rw [h.messages_eq]
  exact h

end ByteQueue

/-! ## Ends of a link -/

namespace Socket

variable {s s' : Socket} {ms : List Message}

/-- What an end has queued and its peer has not read is made of the given messages: those handed
    over, and then those in the flight. -/
def Sending (s : Socket) (ms : List Message) : Prop :=
  ∃ streamed queued, s.outgoing.stream.Holds streamed ∧ s.outbox.flight.Holds queued
    ∧ ms = streamed ++ queued

/-- A flush moves messages as wholes. -/
theorem Sending.flush (h : s.Sending ms) : s.flush.2.Sending ms := by
  obtain ⟨streamed, queued, hstream, hflight, rfl⟩ := h
  unfold Socket.flush
  split
  · exact ⟨streamed, queued, hstream, hflight, rfl⟩
  · exact ⟨streamed ++ queued, [], hstream.append hflight, ByteQueue.holds_empty,
      (List.append_nil _).symm⟩

/-- Only the outgoing stream and the flight matter. -/
theorem Sending.of_eq (h : s.Sending ms) (hstream : s'.outgoing.stream = s.outgoing.stream)
    (hflight : s'.outbox.flight = s.outbox.flight) : s'.Sending ms := by
  obtain ⟨streamed, queued, hs, hq, rfl⟩ := h
  exact ⟨streamed, queued, hstream ▸ hs, hflight ▸ hq, rfl⟩

end Socket

namespace Event.OnSocket

variable {event : Event} {s s' : Socket} {m : Message} {ms : List Message}

/-- A message is queued behind all others. -/
theorem sending_of_sent (h : event.OnSocket s s') (hsending : s.Sending ms)
    (hsent : event.sent? = some m.raw) (hm : m.Framed) : s'.Sending (ms ++ [m]) := by
  obtain ⟨streamed, queued, hstream, hflight, rfl⟩ := hsending
  cases event with
  | queued message answer =>
      obtain ⟨rfl, rfl⟩ := h
      obtain rfl : message = m.raw := Option.some.inj hsent
      exact ⟨streamed, queued ++ [m], hstream, hflight.concat hm, List.append_assoc _ _ _⟩
  | _ => cases hsent

/-- What does not queue a message leaves those that are on their way. -/
theorem sending_of_not_sent (h : event.OnSocket s s') (hsending : s.Sending ms)
    (hsent : event.sent? = none) : s'.Sending ms := by
  cases event with
  | flushed answer =>
      obtain ⟨_, rfl⟩ := h
      exact hsending.flush
  | queued message answer =>
      obtain ⟨rfl, rfl⟩ := h
      cases hsent
  | alerted a =>
      obtain rfl := h
      exact hsending.of_eq rfl rfl
  | _ =>
      obtain ⟨houtgoing, hflight, _⟩ := h.sendsNothing nofun nofun nofun
      exact hsending.of_eq (by rw [houtgoing]) hflight

/-- From messages the first one is read, and nothing else takes any. -/
theorem reading (h : event.OnSocket s s') (hreading : s.incoming.stream.Holds ms) :
    ∃ rest, s'.incoming.stream.Holds rest ∧ ms = event.message?.toList ++ rest
      ∧ ∀ e, event ≠ .read (.error e) := by
  cases event with
  | read answer =>
      change answerOf Socket.readMessage s = (answer, s') at h
      obtain ⟨stream, hread, hrest⟩ := Socket.answerOf_readMessage hreading
      rw [hread] at h
      cases ms <;> cases h <;> exact ⟨_, hrest, rfl, nofun⟩
  | _ =>
      rw [← h.takesNothing nofun] at hreading
      exact ⟨ms, hreading, rfl, nofun⟩

end Event.OnSocket

/-! ## Generations -/

/-- Whether an event moves the key of a direction on. -/
def Event.rotates (direction : Direction) : Event → Bool
  | rotated d (.ok ()) => d = direction
  | _ => false

/-- The event is not that a MAC cannot be computed, a message not be queued, or a key not be moved
    on. -/
def Event.Succeeds : Event → Prop
  | queued _ (.error _) | rotated _ (.error _) | computedMac _ _ (.error _) => False
  | _ => True

/-- How often the key of a direction has been moved on. -/
def History.rotations (direction : Direction) (h : History) : Nat :=
  h.countP (Event.rotates direction)

@[simp] theorem History.rotations_nil (direction : Direction) : rotations direction [] = 0 := rfl

@[simp] theorem History.rotations_cons (direction : Direction) (e : Event) (h : History) :
    rotations direction (e :: h) = rotations direction h + if e.rotates direction then 1 else 0 :=
  List.countP_cons

@[simp] theorem History.rotations_append (direction : Direction) (g h : History) :
    rotations direction (g ++ h) = rotations direction g + rotations direction h :=
  List.countP_append

/-- What goes up by one with each rotation of a direction counts the rotations. -/
theorem Performs.counts_rotations {ε : Type} [Environment ε] {e e' : ε} {h : History}
    {direction : Direction} {generation : ε → Nat}
    (heffect : ∀ {e e' : ε} {event : Event}, event.Effect e e' →
      generation e' = generation e + if event.rotates direction then 1 else 0)
    (hperforms : Performs e h e') : generation e' = generation e + h.rotations direction := by
  induction h generalizing e with
  | nil =>
      obtain rfl : e' = e := hperforms
      rfl
  | cons event h ih =>
      obtain ⟨between, hevent, hrest⟩ := hperforms
      rw [ih hrest, heffect hevent, History.rotations_cons]
      omega

/-- The generation of the key of a direction. -/
def FinishedKeys.generation (keys : FinishedKeys) : Direction → Nat
  | .read => keys.readGeneration
  | .write => keys.writeGeneration

section Performs

variable {σ τ : Type} [SigningDevice σ] [TicketHandler τ] {e e' : Station FinishedKeys σ τ}
  {h : History} {ms : List Message}

/-- Only a rotation changes the keys of a station. -/
theorem Event.Effect.keys {event : Event} (heffect : event.Effect e e')
    (hrotated : ∀ d answer, event ≠ .rotated d answer) : e'.keys = e.keys := by
  cases event with
  | rotated d answer => exact absurd rfl (hrotated d answer)
  | signed | completedSignature => exact (congrArg Station.keys (of_onSigner heffect).1 :)
  | read => exact (congrArg Station.keys (answerOf_readMessage heffect).2 :)
  | storedTicket => exact (congrArg Station.keys (answerOf_storeTicket heffect).1 :)
  | _ =>
      cases heffect
      rfl

theorem Event.Effect.generation {event : Event} (heffect : event.Effect e e')
    (direction : Direction) :
    e'.keys.generation direction
      = e.keys.generation direction + if event.rotates direction then 1 else 0 := by
  by_cases hrotated : ∃ d answer, event = .rotated d answer
  · obtain ⟨d, answer, rfl⟩ := hrotated
    cases heffect
    cases d <;> cases direction <;> rfl
  · have hrotates : event.rotates direction = false := by
      cases event with
      | rotated d answer => exact absurd ⟨d, answer, rfl⟩ hrotated
      | _ => rfl
    rw [heffect.keys fun d answer heq => hrotated ⟨d, answer, heq⟩, hrotates]
    rfl

/-- The generations count the rotations. -/
theorem generation_of_performs (hperforms : Performs e h e') (direction : Direction) :
    e'.keys.generation direction = e.keys.generation direction + h.rotations direction :=
  hperforms.counts_rotations fun heffect => heffect.generation direction

/-- A station always computes a MAC, queues a message and moves a key on. -/
theorem succeeds_of_performs (hperforms : Performs e h e') :
    ∀ event ∈ h, event.Succeeds := by
  intro event hmem
  obtain ⟨e₁, e₂, heffect⟩ := hperforms.effect_of_mem hmem
  cases event with
  | queued _ answer | rotated _ answer =>
      cases heffect
      trivial
  | computedMac _ _ answer =>
      cases heffect
      trivial
  | _ => trivial

/-- What a station queues comes behind all that is on its way. -/
theorem sending_of_performs (hperforms : Performs e h e') (hsending : e.socket.Sending ms)
    {new : List Message} (hnew : h.messagesSent = new.map Message.raw)
    (hframed : ∀ m ∈ new, m.Framed) : e'.socket.Sending (ms ++ new) := by
  induction h generalizing e ms new with
  | nil =>
      obtain rfl : e' = e := hperforms
      obtain rfl := List.map_eq_nil_iff.1 hnew.symm
      exact (List.append_nil ms).symm ▸ hsending
  | cons event h ih =>
      obtain ⟨between, heffect, hrest⟩ := hperforms
      rw [History.messagesSent_cons] at hnew
      cases hsent : event.sent? with
      | none =>
          rw [hsent] at hnew
          exact ih hrest (heffect.onSocket.sending_of_not_sent hsending hsent) hnew hframed
      | some raw =>
          rw [hsent] at hnew
          cases new with
          | nil => cases hnew
          | cons m new =>
              obtain ⟨rfl, htail⟩ := List.cons.inj hnew
              have hm := hframed m List.mem_cons_self
              have hfirst := heffect.onSocket.sending_of_sent hsending hsent hm
              rw [← List.singleton_append, ← List.append_assoc]
              exact ih hrest hfirst htail fun m hm => hframed m (List.mem_cons_of_mem _ hm)

/-- What a station reads are the first of the messages on their way to it. -/
theorem reading_of_performs (hperforms : Performs e h e')
    (hreading : e.socket.incoming.stream.Holds ms) :
    ∃ rest, e'.socket.incoming.stream.Holds rest ∧ ms = h.messagesRead ++ rest
      ∧ ∀ err, .read (.error err) ∉ h := by
  have hstart : ∃ rest, e.socket.incoming.stream.Holds rest ∧ ms = [] ++ rest := ⟨ms, hreading, rfl⟩
  have hreads := hperforms.reads
    (fun read e => ∃ rest, e.socket.incoming.stream.Holds rest ∧ ms = read ++ rest)
    (fun heffect hholds => by
      obtain ⟨rest, hholds, rfl⟩ := hholds
      obtain ⟨left, hleft, rfl, hread⟩ := heffect.onSocket.reading hholds
      exact ⟨⟨left, hleft, (List.append_assoc _ _ _).symm⟩, hread⟩) hstart
  obtain ⟨⟨rest, hholds, hms⟩, hnone⟩ := hreads
  exact ⟨rest, hholds, hms, hnone⟩

end Performs

end TlsHandshake
