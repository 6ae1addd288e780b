import TlsHandshake.Proofs.Flight.Progress
import TlsHandshake.Proofs.Link.Delivery

set_option autoImplicit false

/-! # Traffic on a link

What the two ends of a link can do to it, and an account of the traffic in each direction that is
kept from the actions and their answers alone. Main statement: `Link.traffic_kept`, in every run the
account agrees with what is on the link, so nothing is lost, repeated or reordered; and which
messages are delivered depends only on the bytes handed over, however they were divided up. -/

namespace TlsHandshake

/-! ## What is taken off a stream -/

/-- No whole message is at the front of the bytes. -/
def Stuck (bytes : Bytes) : Prop := ∀ m : Message, m.Framed → ¬ m.raw <+: bytes

/-- A header of no known type is at the front of the bytes. -/
def StartsUnknown (code : UInt8) (bytes : Bytes) : Prop :=
  MessageType.ofCode? code = none ∧ ∃ l2 l1 l0 rest, bytes = code :: l2 :: l1 :: l0 :: rest

section Take

variable {m m' : Message} {ms ms' : List Message} {stream : ByteQueue} {code : UInt8}
  {bytes bytes' rest rest' : Bytes}

theorem framed_iff : m.Framed ↔ m.body.length < Bytes.capacity 3
    ∧ m.raw = m.type.code :: Bytes.ofNat 3 m.body.length ++ m.body := frame_eq_ok_iff

/-- A byte string starts with at most one framed message. -/
theorem Message.Framed.append_inj (h : m.Framed) (h' : m'.Framed)
    (heq : m.raw ++ rest = m'.raw ++ rest') : m = m' ∧ rest = rest' := by
  have hfound := unframe?_of_frame h rest
  rw [heq, unframe?_of_frame h' rest'] at hfound
  injection hfound with hfound
  injection hfound with hfound
  injection hfound with htype hbody hsize
  obtain ⟨hraw, hrest⟩ := List.append_inj heq hsize.symm
  cases m
  cases m'
  exact ⟨Message.mk.injEq .. ▸ ⟨htype.symm, hbody.symm, hraw⟩, hrest⟩

/-- Bytes are divided in one way only into whole messages and a rest that starts with none. -/
theorem eq_of_rawBytes_append (hms : ∀ m ∈ ms, m.Framed) (hms' : ∀ m ∈ ms', m.Framed)
    (hrest : Stuck rest) (hrest' : Stuck rest') (h : rawBytes ms ++ rest = rawBytes ms' ++ rest') :
    ms = ms' ∧ rest = rest' := by
  have hcons : ∀ (m : Message) ms, rawBytes (m :: ms) = m.raw ++ rawBytes ms := fun _ _ => rfl
  induction ms generalizing ms' with
  | nil =>
      cases ms' with
      | nil => exact ⟨rfl, h⟩
      | cons m' ms' =>
          rw [rawBytes_nil, List.nil_append, hcons, List.append_assoc] at h
          exact absurd ⟨_, h.symm⟩ (hrest m' (hms' m' List.mem_cons_self))
  | cons m ms ih =>
      cases ms' with
      | nil =>
          rw [rawBytes_nil, List.nil_append, hcons, List.append_assoc] at h
          exact absurd ⟨_, h⟩ (hrest' m (hms m List.mem_cons_self))
      | cons m' ms' =>
          rw [hcons, hcons, List.append_assoc, List.append_assoc] at h
          obtain ⟨rfl, htail⟩ := (hms m List.mem_cons_self).append_inj (hms' m' List.mem_cons_self) h
          obtain ⟨rfl, heq⟩ := ih (fun m hm => hms m (List.mem_cons_of_mem _ hm))
            (fun m hm => hms' m (List.mem_cons_of_mem _ hm)) htail
          exact ⟨rfl, heq⟩

theorem stuck_nil : Stuck [] := by
  intro m hm hprefix
  have hlength := length_of_frame hm
  rw [List.prefix_nil.1 hprefix, List.length_nil, headerLength] at hlength
  omega

/-- An unknown header stays at the front when more bytes come. -/
theorem StartsUnknown.append (h : StartsUnknown code bytes) (more : Bytes) :
    StartsUnknown code (bytes ++ more) := by
  obtain ⟨hcode, l2, l1, l0, rest, rfl⟩ := h
  exact ⟨hcode, l2, l1, l0, rest ++ more, rfl⟩

theorem StartsUnknown.readHeader? (h : StartsUnknown code bytes) :
    readHeader? bytes = .error (.unexpectedMessage (.unknownType code)) := by
  obtain ⟨hcode, l2, l1, l0, rest, rfl⟩ := h
  simp only [TlsHandshake.readHeader?, hcode]

theorem StartsUnknown.code_eq {code' : UInt8} (h : StartsUnknown code bytes)
    (h' : StartsUnknown code' bytes) : code' = code := by
  obtain ⟨-, l2, l1, l0, rest, rfl⟩ := h
  obtain ⟨-, l2', l1', l0', rest', heq⟩ := h'
  exact (List.cons.inj heq).1.symm

/-- Behind an unknown header no message is found. -/
theorem StartsUnknown.stuck (h : StartsUnknown code bytes) : Stuck bytes := by
  rintro m hm ⟨rest, rfl⟩
  have hheader := readHeader?_of_frame hm rest
  rw [h.readHeader?] at hheader
  cases hheader

/-- What can stand where a header is looked for: too little, a header of no known type, or a
    header. -/
theorem readHeader?_cases (bytes : Bytes) :
    readHeader? bytes = .ok none ∨ (∃ code, StartsUnknown code bytes)
    ∨ ∃ (type : MessageType) (n : Nat) (rest : Bytes), n < Bytes.capacity 3
      ∧ bytes = type.code :: Bytes.ofNat 3 n ++ rest ∧ readHeader? bytes = .ok (some (type, n)) := by
  match bytes with
  | [] | [_] | [_, _] | [_, _, _] => exact Or.inl rfl
  | code :: l2 :: l1 :: l0 :: rest =>
      cases htype : MessageType.ofCode? code with
      | none => exact Or.inr (Or.inl ⟨code, htype, l2, l1, l0, rest, rfl⟩)
      | some type =>
          refine Or.inr (Or.inr ⟨type, Bytes.toNat [l2, l1, l0], rest, Bytes.toNat_lt [l2, l1, l0],
            ?_, by simp only [readHeader?, htype]⟩)
          rw [MessageType.ofCode?_eq_some_iff.1 htype,
            show Bytes.ofNat 3 (Bytes.toNat [l2, l1, l0]) = [l2, l1, l0] from
              Bytes.ofNat_toNat [l2, l1, l0]]
          rfl

/-- A message at the front is taken. -/
theorem stuck_of_take? {stream' : ByteQueue} (h : Message.take? stream = .ok none stream') :
    Stuck stream.toBytes := by
  rintro m hm ⟨rest, hrest⟩
  rcases take?_of_frame hm (by rw [List.append_nil, hrest]) with ⟨_, htaken, _⟩ | ⟨_, _, _, hshort⟩
  · rw [h] at htaken
    cases htaken
  · rw [← hrest, List.length_append] at hshort
    omega

/-- A message is taken off the front, or nothing changes, because no message is whole or because of
    a header of no known type. -/
theorem take?_cases (stream : ByteQueue) :
    (∃ m stream', Message.take? stream = .ok (some m) stream' ∧ m.Framed
      ∧ stream.toBytes = m.raw ++ stream'.toBytes)
    ∨ (∃ stream', Message.take? stream = .ok none stream' ∧ stream'.toBytes = stream.toBytes
      ∧ Stuck stream.toBytes ∧ ∀ code, ¬ StartsUnknown code stream.toBytes)
    ∨ ∃ code stream', Message.take? stream
        = .error (.unexpectedMessage (.unknownType code)) stream'
      ∧ stream'.toBytes = stream.toBytes ∧ StartsUnknown code stream.toBytes := by
  have hknown : ∀ {found}, readHeader? stream.toBytes = .ok found →
      ∀ code, ¬ StartsUnknown code stream.toBytes := by
    intro found hfound code h
    rw [h.readHeader?] at hfound
    cases hfound
  have htake := take?_eq stream
  rcases readHeader?_cases stream.toBytes with
    hshort | ⟨code, hunknown⟩ | ⟨type, n, rest, hn, hbytes, hheader⟩
  · rw [hshort] at htake
    exact Or.inr (Or.inl ⟨_, htake, ByteQueue.toBytes_gather _ _, stuck_of_take? htake,
      hknown hshort⟩)
  · rw [hunknown.readHeader?] at htake
    exact Or.inr (Or.inr ⟨code, _, htake, ByteQueue.toBytes_gather _ _, hunknown⟩)
  · by_cases hwhole : n ≤ rest.length
    · -- the message is all there
      have hlength : (rest.take n).length = n := List.length_take_of_le hwhole
      let m : Message := ⟨type, rest.take n, type.code :: Bytes.ofNat 3 n ++ rest.take n⟩
      have hm : m.Framed := framed_iff.2 ⟨hlength.symm ▸ hn, by rw [hlength]⟩
      have hstream : stream.toBytes ++ [] = m.raw ++ rest.drop n := by
        rw [List.append_nil, hbytes, List.append_assoc, List.take_append_drop]
      rcases take?_of_frame hm hstream with ⟨stream', htaken, hrest⟩ | ⟨_, _, _, hshort⟩
      · rw [List.append_nil] at hrest hstream
        exact Or.inl ⟨m, stream', htaken, hm, hrest ▸ hstream⟩
      · rw [List.append_nil] at hstream
        rw [hstream, List.length_append] at hshort
        omega
    · have hqueue : (stream.gather headerLength).take? (headerLength + n) = none := by
        rw [ByteQueue.take?_eq_none_iff, ByteQueue.size_gather, ByteQueue.size_eq_length, hbytes,
          List.length_append, List.length_cons, Bytes.length_ofNat, headerLength]
        omega
      rw [hheader] at htake
      dsimp only at htake
      rw [hqueue] at htake
      exact Or.inr (Or.inl ⟨_, htake, ByteQueue.toBytes_gather _ _, stuck_of_take? htake,
        hknown hheader⟩)

end Take

/-! ## Actions at an end -/

/-- The other end of a link. -/
def End.other : End → End
  | .a => .b
  | .b => .a

theorem End.eq_other_of_ne {place writer : End} (h : place ≠ writer) : place = writer.other := by
  cases place <;> cases writer <;> first | rfl | exact absurd rfl h

/-- What can be done at an end of a link. -/
inductive Action where
  | add (message : Bytes)
  | inject (bytes : Bytes)
  | flush
  | setBlocked (blocked : Bool)
  | read
  deriving DecidableEq, Repr

/-- What an action answers. -/
inductive Reply where
  | done
  | flushed (answer : Awaited Unit)
  | read (answer : Except Error (Awaited Message))

namespace Socket

/-- Does an action. -/
def perform (s : Socket) : Action → Reply × Socket
  | .add message => (.done, s.addMessage message)
  | .inject bytes => (.done, s.inject bytes)
  | .flush => (.flushed s.flush.1, s.flush.2)
  | .setBlocked blocked => (.done, s.setBlocked blocked)
  | .read => (.read (answerOf readMessage s).1, (answerOf readMessage s).2)

end Socket

/-- An action that was done at an end, and its answer. -/
structure Transfer where
  place : End
  action : Action
  reply : Reply

namespace Link

/-- Does an action at an end. -/
def act (link : Link) (place : End) (action : Action) : Reply × Link :=
  let (reply, s) := (link.socket place).perform action
  (reply, link.setSocket place s)

/-- Does one action after the other. -/
def run (link : Link) : List (End × Action) → List Transfer × Link
  | [] => ([], link)
  | (place, action) :: moves =>
      let (reply, link) := link.act place action
      let (transfers, link) := link.run moves
      (⟨place, action, reply⟩ :: transfers, link)

end Link

/-! ## Traffic -/

/-- What has gone through one direction of a link. -/
structure Traffic where
  /-- All bytes added to the flight. -/
  added : Bytes := []
  /-- Those of them that were in a flight when it was flushed. -/
  flushed : Bytes := []
  /-- The bytes handed over, by flushes and past the flight, in the order of time. -/
  handed : Bytes := []
  /-- The messages delivered at the other end. -/
  delivered : List Message := []

namespace Traffic

/-- The traffic once something was done at the end it comes from. A flush that is ready hands over
    what has been added since the last one. -/
def write (traffic : Traffic) : Action → Reply → Traffic
  | .add message, _ => { traffic with added := traffic.added ++ message }
  | .inject bytes, _ => { traffic with handed := traffic.handed ++ bytes }
  | .flush, .flushed (.ready ()) =>
      { traffic with
        handed := traffic.handed ++ traffic.added.drop traffic.flushed.length
        flushed := traffic.added }
  | _, _ => traffic

/-- The traffic once something was done at the end it goes to. -/
def deliver (traffic : Traffic) : Reply → Traffic
  | .read (.ok (.ready m)) => { traffic with delivered := traffic.delivered ++ [m] }
  | _ => traffic

/-- The traffic in the direction that `writer` writes to, once something more has been done. -/
def enter (writer : End) (traffic : Traffic) (t : Transfer) : Traffic :=
  if t.place = writer then traffic.write t.action t.reply else traffic.deliver t.reply

/-- The traffic of what was done on a new link, by the actions and their answers alone. -/
def of (writer : End) (transfers : List Transfer) : Traffic := transfers.foldl (enter writer) {}

/-- The traffic agrees with what is at the writer's end. -/
structure Balances (traffic : Traffic) (s : Socket) : Prop where
  handed : rawBytes traffic.delivered ++ s.outgoing.stream.toBytes = traffic.handed
  added : traffic.added = traffic.flushed ++ s.outbox.flight.toBytes
  framed : ∀ m ∈ traffic.delivered, m.Framed

end Traffic

/-! ## Reads -/

namespace Socket

/-- What a read can answer, and what is left of the stream: a message is taken, or no bytes are. -/
inductive Reads (s : Socket) : Except Error (Awaited Message) → ByteQueue → Prop
  | ready (m : Message) {stream : ByteQueue} (framed : m.Framed)
      (taken : s.incoming.stream.toBytes = m.raw ++ stream.toBytes) : Reads s (.ok (.ready m)) stream
  | pending {stream : ByteQueue} (same : stream.toBytes = s.incoming.stream.toBytes)
      (stuck : Stuck s.incoming.stream.toBytes)
      (known : ∀ code, ¬ StartsUnknown code s.incoming.stream.toBytes) :
      Reads s (.ok .pending) stream
  | unknown {code : UInt8} {stream : ByteQueue}
      (same : stream.toBytes = s.incoming.stream.toBytes)
      (unknown : StartsUnknown code s.incoming.stream.toBytes) :
      Reads s (.error (.unexpectedMessage (.unknownType code))) stream

theorem readMessage_reads (s : Socket) :
    ∃ answer stream, answerOf readMessage s
        = (answer, { s with incoming := { s.incoming with stream := stream } })
      ∧ s.Reads answer stream := by
  unfold answerOf readMessage
  rcases take?_cases s.incoming.stream with
    ⟨m, stream, htake, hm, hbytes⟩ | ⟨stream, htake, hsame, hstuck, hknown⟩
      | ⟨code, stream, htake, hsame, hunknown⟩
  · rw [htake]
    exact ⟨_, stream, rfl, .ready m hm hbytes⟩
  · rw [htake]
    exact ⟨_, stream, rfl, .pending hsame hstuck hknown⟩
  · rw [htake]
    exact ⟨_, stream, rfl, .unknown hsame hunknown⟩

end Socket

namespace Socket

variable {s : Socket}

/-- Bytes come only behind those that are already on their way. -/
theorem outgoing_perform (s : Socket) (action : Action) :
    ∃ more, (s.perform action).2.outgoing.stream.toBytes
      = s.outgoing.stream.toBytes ++ more := by
  cases action with
  | add | setBlocked => exact ⟨[], (List.append_nil _).symm⟩
  | inject bytes => exact ⟨bytes, ByteQueue.toBytes_append _ _⟩
  | flush =>
      cases hblocked : s.outbox.blocked with
      | true =>
          simp only [perform, flush_of_blocked hblocked]
          exact ⟨[], (List.append_nil _).symm⟩
      | false =>
          simp only [perform, flush_of_unblocked hblocked]
          exact ⟨_, ByteQueue.toBytes_append _ _⟩
  | read =>
      obtain ⟨answer, stream, hread, _⟩ := s.readMessage_reads
      simp only [perform, hread]
      exact ⟨[], (List.append_nil _).symm⟩

/-- While no message is whole, an end takes no bytes. -/
theorem incoming_perform_of_stuck (h : Stuck s.incoming.stream.toBytes) (action : Action) :
    (s.perform action).2.incoming.stream.toBytes = s.incoming.stream.toBytes := by
  cases action with
  | add | setBlocked | inject => rfl
  | flush =>
      cases hblocked : s.outbox.blocked with
      | true => simp only [perform, flush_of_blocked hblocked]
      | false => simp only [perform, flush_of_unblocked hblocked]
  | read =>
      obtain ⟨answer, stream, hread, hreads⟩ := s.readMessage_reads
      simp only [perform, hread]
      cases hreads with
      | ready m hm hbytes => exact absurd ⟨_, hbytes.symm⟩ (h m hm)
      | pending hsame => exact hsame
      | unknown hsame => exact hsame

end Socket

/-! ## What a run keeps -/

namespace Traffic.Balances

variable {traffic : Traffic} {s : Socket}

/-- What is done at the writer's end. -/
theorem write (h : traffic.Balances s) (action : Action) :
    (traffic.write action (s.perform action).1).Balances (s.perform action).2 := by
  obtain ⟨hhanded, hadded, hframed⟩ := h
  cases action with
  | add message =>
      refine ⟨hhanded, ?_, hframed⟩
      simp only [Traffic.write, Socket.perform, Socket.addMessage, ByteQueue.toBytes_append]
      rw [hadded, List.append_assoc]
  | inject bytes =>
      refine ⟨?_, hadded, hframed⟩
      simp only [Traffic.write, Socket.perform, Socket.inject, ByteQueue.toBytes_append]
      rw [← List.append_assoc, hhanded]
  | flush =>
      cases hblocked : s.outbox.blocked with
      | true =>
          simp only [Socket.perform, Socket.flush_of_blocked hblocked]
          exact ⟨hhanded, hadded, hframed⟩
      | false =>
          simp only [Socket.perform, Socket.flush_of_unblocked hblocked]
          refine ⟨?_, (List.append_nil _).symm, hframed⟩
          simp only [Traffic.write, ByteQueue.toBytes_append, hadded, List.drop_left]
          rw [← List.append_assoc, hhanded]
  | setBlocked blocked => exact ⟨hhanded, hadded, hframed⟩
  | read =>
      obtain ⟨answer, stream, hread, _⟩ := s.readMessage_reads
      simp only [Socket.perform, hread]
      exact ⟨hhanded, hadded, hframed⟩

/-- What is done at the reader's end: `s` is seen from there. -/
theorem deliver {outbox : Outbox} (h : traffic.Balances ⟨outbox, s.outgoing, s.incoming⟩)
    (action : Action) :
    (traffic.deliver (s.perform action).1).Balances
      ⟨outbox, (s.perform action).2.outgoing, (s.perform action).2.incoming⟩ := by
  obtain ⟨hhanded, hadded, hframed⟩ := h
  cases action with
  | add | inject | setBlocked => exact ⟨hhanded, hadded, hframed⟩
  | flush =>
      cases hblocked : s.outbox.blocked with
      | true =>
          simp only [Socket.perform, Socket.flush_of_blocked hblocked]
          exact ⟨hhanded, hadded, hframed⟩
      | false =>
          simp only [Socket.perform, Socket.flush_of_unblocked hblocked]
          exact ⟨hhanded, hadded, hframed⟩
  | read =>
      obtain ⟨answer, stream, hread, hreads⟩ := s.readMessage_reads
      simp only [Socket.perform, hread]
      cases hreads with
      | ready m hm hbytes =>
          refine ⟨?_, hadded, fun m' hmem => ?_⟩
          · simp only [Traffic.deliver, rawBytes_append, rawBytes_singleton]
            rw [← hhanded, List.append_assoc, ← hbytes]
          · rcases List.mem_append.1 hmem with hmem | hmem
            · exact hframed m' hmem
            · exact List.mem_singleton.1 hmem ▸ hm
      | pending hsame | unknown hsame =>
          have hstream : rawBytes traffic.delivered ++ stream.toBytes = traffic.handed :=
            (congrArg (rawBytes traffic.delivered ++ ·) hsame).trans hhanded
          exact ⟨hstream, hadded, hframed⟩

end Traffic.Balances

namespace Link

variable {link : Link} {writer reader : End} {traffic : Traffic}

/-- What one end sends is what the other end receives. -/
theorem socket_other (link : Link) (e : End) :
    link.socket e
      = ⟨(link.socket e).outbox, (link.socket e.other).outgoing, (link.socket e.other).incoming⟩ := by
  cases e <;> rfl

theorem socket_setSocket_other (link : Link) (e : End) (s : Socket) :
    (link.setSocket e.other s).socket e = ⟨(link.socket e).outbox, s.outgoing, s.incoming⟩ := by
  cases e <;> rfl

/-- Every action keeps the traffic balanced. -/
theorem balances_act (h : traffic.Balances (link.socket writer)) (place : End) (action : Action) :
    (traffic.enter writer ⟨place, action, (link.act place action).1⟩).Balances
      ((link.act place action).2.socket writer) := by
  unfold Traffic.enter act
  by_cases hplace : place = writer
  · subst hplace
    rw [if_pos rfl, socket_setSocket]
    exact h.write action
  · obtain rfl := End.eq_other_of_ne hplace
    rw [if_neg hplace, socket_setSocket_other]
    exact (link.socket_other writer ▸ h).deliver action

/-- So every run does. -/
theorem balances_run (h : traffic.Balances (link.socket writer)) (moves : List (End × Action)) :
    ((link.run moves).1.foldl (Traffic.enter writer) traffic).Balances
      ((link.run moves).2.socket writer) := by
  induction moves generalizing link traffic with
  | nil => exact h
  | cons move moves ih => exact ih (balances_act h move.1 move.2)

theorem balances_new (moves : List (End × Action)) (writer : End) :
    (Traffic.of writer (run {} moves).1).Balances ((run {} moves).2.socket writer) := by
  have hnew : Traffic.Balances {} (({} : Link).socket writer) := by
    cases writer <;> exact ⟨rfl, rfl, fun _ hm => absurd hm List.not_mem_nil⟩
  exact balances_run hnew moves

/-! ## Reads that give nothing -/

/-- Two links have the same bytes on them and the same of everything else, though the bytes may be
    kept in other pieces. -/
structure Alike (link link' : Link) : Prop where
  outbox : ∀ e, (link'.socket e).outbox = (link.socket e).outbox
  stream : ∀ e, (link'.socket e).outgoing.stream.toBytes = (link.socket e).outgoing.stream.toBytes
  changeCipherSpecs : ∀ e, (link'.socket e).outgoing.changeCipherSpecs
    = (link.socket e).outgoing.changeCipherSpecs
  alerts : ∀ e, (link'.socket e).outgoing.alerts = (link.socket e).outgoing.alerts

/-- No message can be read at an end. -/
def Drained (link : Link) (reader : End) : Prop :=
  ∀ m, (link.act reader .read).1 ≠ .read (.ok (.ready m))

/-- A read at an end changes one stream only. -/
theorem act_read (link : Link) (reader : End) :
    ∃ answer stream, link.act reader .read
        = (.read answer, link.setSocket reader { link.socket reader with
            incoming := { (link.socket reader).incoming with stream := stream } })
      ∧ (link.socket reader).Reads answer stream := by
  obtain ⟨answer, stream, hread, hreads⟩ := (link.socket reader).readMessage_reads
  exact ⟨answer, stream, by simp only [act, Socket.perform, hread], hreads⟩

/-- A read that gives no message leaves everything as it was. -/
theorem Drained.alike (h : link.Drained reader) : link.Alike (link.act reader .read).2 := by
  obtain ⟨answer, stream, hact, hreads⟩ := link.act_read reader
  have hsame : stream.toBytes = (link.socket reader).incoming.stream.toBytes := by
    cases hreads with
    | ready m => exact absurd (congrArg Prod.fst hact) (h m)
    | pending hsame => exact hsame
    | unknown hsame => exact hsame
  rw [hact]
  cases reader <;> constructor <;> rintro (_ | _) <;> first | rfl | exact hsame

theorem drained_iff :
    link.Drained reader ↔ Stuck (link.socket reader).incoming.stream.toBytes := by
  obtain ⟨answer, stream, hact, hreads⟩ := link.act_read reader
  unfold Drained
  rw [hact]
  cases hreads with
  | ready m hm hbytes =>
      exact ⟨fun h => absurd rfl (h m), fun h => absurd ⟨_, hbytes.symm⟩ (h m hm)⟩
  | pending _ hstuck => exact ⟨fun _ => hstuck, fun _ => nofun⟩
  | unknown _ hunknown => exact ⟨fun _ => hunknown.stuck, fun _ => nofun⟩

/-- The bytes that wait at an end tell what the next read answers, unless that is a message. -/
theorem Drained.reply_eq {link' : Link} (h : link.Drained reader) (h' : link'.Drained reader)
    (hbytes : (link'.socket reader).incoming.stream.toBytes
      = (link.socket reader).incoming.stream.toBytes) :
    (link'.act reader .read).1 = (link.act reader .read).1 := by
  obtain ⟨answer, stream, hact, hreads⟩ := link.act_read reader
  obtain ⟨answer', stream', hact', hreads'⟩ := link'.act_read reader
  unfold Drained at h h'
  rw [hact] at h ⊢
  rw [hact'] at h' ⊢
  cases hreads with
  | ready m => exact absurd rfl (h m)
  | pending _ _ hknown =>
      cases hreads' with
      | ready m => exact absurd rfl (h' m)
      | pending => rfl
      | unknown _ hunknown => exact absurd (hbytes ▸ hunknown) (hknown _)
  | unknown _ hunknown =>
      cases hreads' with
      | ready m => exact absurd rfl (h' m)
      | pending _ _ hknown => exact absurd (hbytes ▸ hunknown) (hknown _)
      | unknown _ hunknown' =>
          rw [hbytes] at hunknown'
          rw [hunknown.code_eq hunknown']

/-- An unknown header at the front stays there, whatever is done. -/
theorem unknown_act {code : UInt8}
    (h : StartsUnknown code (link.socket reader).incoming.stream.toBytes) (place : End)
    (action : Action) :
    StartsUnknown code ((link.act place action).2.socket reader).incoming.stream.toBytes := by
  unfold act
  by_cases hplace : place = reader
  · subst hplace
    rw [socket_setSocket, Socket.incoming_perform_of_stuck h.stuck]
    exact h
  · obtain rfl := End.eq_other_of_ne hplace
    obtain ⟨more, hmore⟩ := (link.socket reader.other).outgoing_perform action
    rw [socket_setSocket_other]
    rw [socket_other] at h
    exact (congrArg (StartsUnknown code) hmore).mpr (h.append more)

/-- So every later read reports it. -/
theorem unknown_run {code : UInt8}
    (h : StartsUnknown code (link.socket reader).incoming.stream.toBytes)
    (moves : List (End × Action)) :
    ∀ t ∈ (link.run moves).1, t.place = reader → t.action = .read →
      t.reply = .read (.error (.unexpectedMessage (.unknownType code))) := by
  induction moves generalizing link with
  | nil => exact nofun
  | cons move moves ih =>
      rintro t (_ | ⟨_, hmem⟩) hplace haction
      · obtain ⟨place, action⟩ := move
        obtain rfl : place = reader := hplace
        obtain rfl : action = .read := haction
        obtain ⟨answer, stream, hact, hreads⟩ := link.act_read place
        change (link.act place .read).1 = _
        rw [hact]
        cases hreads with
        | ready m hm hbytes => exact absurd ⟨_, hbytes.symm⟩ (h.stuck m hm)
        | pending _ _ hknown => exact absurd h (hknown code)
        | unknown _ hunknown => rw [h.code_eq hunknown]
      · exact ih (unknown_act h move.1 move.2) t hmem hplace haction

/-- Reads enough come to the end of the messages. -/
theorem drained_reads {n : Nat}
    (h : (link.socket reader).incoming.stream.toBytes.length ≤ n
      ∨ Stuck (link.socket reader).incoming.stream.toBytes) :
    (link.run (List.replicate n (reader, .read))).2.Drained reader := by
  induction n generalizing link with
  | zero =>
      refine drained_iff.2 (h.elim (fun hlength => ?_) id)
      change Stuck (link.socket reader).incoming.stream.toBytes
      rw [List.length_eq_zero_iff.1 (Nat.le_zero.1 hlength)]
      exact stuck_nil
  | succ n ih =>
      change ((link.act reader .read).2.run (List.replicate n (reader, .read))).2.Drained reader
      refine ih ?_
      obtain ⟨answer, stream, hact, hreads⟩ := link.act_read reader
      rw [hact]
      simp only [socket_setSocket]
      cases hreads with
      | ready m hm hbytes =>
          -- a message is never empty
          have hlength := length_of_frame hm
          rw [headerLength] at hlength
          refine Or.inl (h.elim (fun hn => ?_) fun hstuck => absurd ⟨_, hbytes.symm⟩ (hstuck m hm))
          rw [hbytes, List.length_append] at hn
          omega
      | pending hsame hstuck => exact Or.inr (hsame ▸ hstuck)
      | unknown hsame hunknown => exact Or.inr (hsame ▸ hunknown.stuck)

/-- Whatever is done with a new link, in each direction the bytes of the messages delivered and then
    those left in the stream are the bytes handed over, in order; the bytes added are those flushed
    and then the flight; the messages delivered are framed; and a read that gives no message leaves
    everything as it was. Runs in which the same bytes are handed over, in whatever pieces and
    however they are read, deliver the same messages by the time that no more can be read, which
    reads enough bring about; then the next read answers the same in both, and if it is an error, it
    is one about a header of no known type, and all later reads report it again. -/
theorem traffic_kept (moves : List (End × Action)) (writer : End) :
    let link := (run {} moves).2
    let traffic := Traffic.of writer (run {} moves).1
    rawBytes traffic.delivered ++ (link.socket writer).outgoing.stream.toBytes = traffic.handed
    ∧ traffic.added = traffic.flushed ++ (link.socket writer).outbox.flight.toBytes
    ∧ (∀ m ∈ traffic.delivered, m.body.length < Bytes.capacity 3
      ∧ m.raw = m.type.code :: Bytes.ofNat 3 m.body.length ++ m.body)
    ∧ (∀ reader, link.Drained reader → link.Alike (link.act reader .read).2)
    ∧ (∀ moves' : List (End × Action),
      let link' := (run {} moves').2
      let traffic' := Traffic.of writer (run {} moves').1
      traffic'.handed = traffic.handed → link.Drained writer.other → link'.Drained writer.other →
        traffic'.delivered = traffic.delivered
        ∧ (link'.act writer.other .read).1 = (link.act writer.other .read).1)
    ∧ (∀ extra, (link.run (List.replicate
      ((link.socket writer).outgoing.stream.size + extra) (writer.other, .read))).2.Drained
        writer.other)
    ∧ ∀ err, (link.act writer.other .read).1 = .read (.error err) →
      (∃ code, MessageType.ofCode? code = none ∧ err = .unexpectedMessage (.unknownType code))
      ∧ ∀ later, ∀ t ∈ (link.run later).1, t.place = writer.other → t.action = .read →
        t.reply = .read (.error err) := by
  intro link traffic
  have hbalances : traffic.Balances (link.socket writer) := balances_new moves writer
  have hstream : (link.socket writer.other).incoming = (link.socket writer).outgoing := by
    cases writer <;> rfl
  refine ⟨hbalances.handed, hbalances.added, fun m hm => framed_iff.1 (hbalances.framed m hm),
    fun reader => Drained.alike, ?_, fun extra => drained_reads (Or.inl ?_), ?_⟩
  · intro moves' link' traffic' hhanded hdrained hdrained'
    have hbalances' : traffic'.Balances (link'.socket writer) := balances_new moves' writer
    have hstream' : (link'.socket writer.other).incoming = (link'.socket writer).outgoing := by
      cases writer <;> rfl
    -- both have divided the same bytes into messages, as far as that goes
    obtain ⟨hdelivered, hbytes⟩ := eq_of_rawBytes_append hbalances'.framed hbalances.framed
      (hstream' ▸ drained_iff.1 hdrained') (hstream ▸ drained_iff.1 hdrained)
      (hbalances'.handed.trans (hhanded.trans hbalances.handed.symm))
    refine ⟨hdelivered, hdrained.reply_eq hdrained' ?_⟩
    rw [hstream, hstream']
    exact hbytes
  · rw [hstream, ← ByteQueue.size_eq_length]
    exact Nat.le_add_right _ _
  · intro err herr
    obtain ⟨answer, stream, hact, hreads⟩ := link.act_read writer.other
    rw [hact] at herr
    cases hreads with
    | ready | pending => cases herr
    | unknown _ hunknown =>
        cases herr
        exact ⟨⟨_, hunknown.1, rfl⟩, unknown_run hunknown⟩

end Link

namespace Rehearsal

/-- A Finished, a KeyUpdate and a header of no known type, handed over message by message; a flush is
    put off before. -/
def wholeMoves : List (End × Action) :=
  [(.a, .add [20, 0, 0, 3, 1, 2, 3]), (.a, .setBlocked true), (.a, .flush), (.b, .read),
    (.a, .setBlocked false), (.a, .flush), (.b, .read), (.a, .inject [24, 0, 0, 1, 0, 99, 0, 0, 0]),
    (.b, .read)]

/-- The same bytes in other pieces: the first header is cut in two, and one flight ends within the
    second. -/
def cutMoves : List (End × Action) :=
  [(.a, .inject [20, 0]), (.b, .read), (.a, .inject [0, 3, 1]), (.a, .add [2, 3, 24, 0]),
    (.a, .flush), (.b, .read), (.a, .inject [0, 1, 0, 99]), (.b, .read), (.a, .inject [0, 0, 0])]

/-- Both deliver the two messages and stop at the header. -/
theorem wholeMoves_kept :
    (Traffic.of .a (Link.run {} cutMoves).1).delivered
      = [⟨.finished, [1, 2, 3], [20, 0, 0, 3, 1, 2, 3]⟩, ⟨.keyUpdate, [0], [24, 0, 0, 1, 0]⟩]
    ∧ ∀ t ∈ ((Link.run {} wholeMoves).2.run cutMoves).1, t.place = .b → t.action = .read →
      t.reply = .read (.error (.unexpectedMessage (.unknownType 99))) := by
  have hreply : ((Link.run {} wholeMoves).2.act .b .read).1
      = .read (.error (.unexpectedMessage (.unknownType 99))) := rfl
  have hreply' : ((Link.run {} cutMoves).2.act .b .read).1
      = .read (.error (.unexpectedMessage (.unknownType 99))) := rfl
  obtain ⟨-, -, -, -, hsame, -, hunknown⟩ := Link.traffic_kept wholeMoves .a
  obtain ⟨hdelivered, -⟩ := hsame cutMoves (by decide +kernel)
    (fun m h => by cases hreply.symm.trans h) (fun m h => by cases hreply'.symm.trans h)
  refine ⟨hdelivered.trans (by decide +kernel), ?_⟩
  exact (hunknown _ hreply).2 cutMoves

end Rehearsal

end TlsHandshake
