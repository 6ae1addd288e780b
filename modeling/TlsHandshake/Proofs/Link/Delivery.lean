import TlsHandshake.Memory.Station
import TlsHandshake.Proofs.Framing
import TlsHandshake.Proofs.History

set_option autoImplicit false

/-! # What gets to the other end

A message that is queued waits in the flight, then in the stream, and then it is read. `Delivery`
says that nothing else gets to the other end and that nothing is lost; the events of either end keep
it. -/

namespace TlsHandshake

/-! ## Events on a socket -/

/-- The bytes on their way to the peer: those handed over, and then those in the flight. -/
def Socket.outbound (s : Socket) : Bytes := s.outgoing.stream.toBytes ++ s.outbox.flight.toBytes

/-- What an event of a station does to its socket. -/
def Event.OnSocket (event : Event) (s s' : Socket) : Prop :=
  match event with
  | flushed answer => answer = .ok s.flush.1 ∧ s' = s.flush.2
  | flightExpected => s' = s.expectFlight
  | read answer => answerOf Socket.readMessage s = (answer, s')
  | readChangeCipherSpec answer =>
      answer = .ok s.readChangeCipherSpec.1 ∧ s' = s.readChangeCipherSpec.2
  | queued message answer => answer = .ok () ∧ s' = s.addMessage message
  | alerted alert => s' = s.sendAlert alert
  | computedMac .. | rotated .. | signed .. | completedSignature .. | storedTicket .. => s' = s

namespace Event.OnSocket

variable {event : Event} {s s' : Socket}

/-- What is neither flushed, queued nor sent as an alert changes nothing that goes to the peer. -/
theorem sendsNothing (h : event.OnSocket s s') (hflushed : ∀ answer, event ≠ .flushed answer)
    (hqueued : ∀ message answer, event ≠ .queued message answer)
    (halerted : ∀ a, event ≠ .alerted a) :
    s'.outgoing = s.outgoing ∧ s'.outbox.flight = s.outbox.flight
      ∧ s'.outbox.blocked = s.outbox.blocked ∧ s'.incoming.alerts = s.incoming.alerts := by
  cases event with
  | flushed answer => exact absurd rfl (hflushed answer)
  | queued message answer => exact absurd rfl (hqueued message answer)
  | alerted a => exact absurd rfl (halerted a)
  | read answer =>
      change answerOf Socket.readMessage s = (answer, s') at h
      unfold answerOf Socket.readMessage at h
      rcases htake : Message.take? s.incoming.stream with ⟨_ | m, stream⟩ | ⟨e, stream⟩ <;>
        rw [htake] at h <;> cases h <;> exact ⟨rfl, rfl, rfl, rfl⟩
  | readChangeCipherSpec answer =>
      obtain ⟨_, rfl⟩ := h
      unfold Socket.readChangeCipherSpec
      split <;> exact ⟨rfl, rfl, rfl, rfl⟩
  | _ =>
      obtain rfl := h
      exact ⟨rfl, rfl, rfl, rfl⟩

/-- Only reading takes anything off the incoming stream. -/
theorem takesNothing (h : event.OnSocket s s') (hread : ∀ answer, event ≠ .read answer) :
    s'.incoming.stream = s.incoming.stream := by
  cases event with
  | read answer => exact absurd rfl (hread answer)
  | flushed answer =>
      obtain ⟨_, rfl⟩ := h
      unfold Socket.flush
      split <;> rfl
  | readChangeCipherSpec answer =>
      obtain ⟨_, rfl⟩ := h
      unfold Socket.readChangeCipherSpec
      split <;> rfl
  | queued message answer =>
      obtain ⟨_, rfl⟩ := h
      rfl
  | _ =>
      obtain rfl := h
      rfl

end Event.OnSocket

section Station

variable {κ σ τ α : Type} {e e' : Station κ σ τ}

theorem answerOf_onSocket {act : Socket → α × Socket} {answer : Except Error α}
    (h : answerOf (Station.onSocket act) e = (answer, e')) :
    answer = .ok (act e.socket).1 ∧ e'.socket = (act e.socket).2 := by
  cases h
  exact ⟨rfl, rfl⟩

theorem answerOf_onKeys {act : EStateM Error κ α} {answer : Except Error α}
    (h : answerOf (Station.onKeys act) e = (answer, e')) :
    answerOf act e.keys = (answer, e'.keys) ∧ e' = { e with keys := e'.keys } := by
  unfold answerOf Station.onKeys at h
  unfold answerOf
  cases hact : act e.keys <;> rw [hact] at h <;> cases h <;> exact ⟨rfl, rfl⟩

theorem answerOf_readMessage {answer : Except Error (Awaited Message)}
    (h : answerOf Station.readMessage e = (answer, e')) :
    answerOf Socket.readMessage e.socket = (answer, e'.socket)
      ∧ e' = { e with socket := e'.socket } := by
  unfold answerOf Station.readMessage at h
  unfold answerOf
  cases hread : e.socket.readMessage <;> rw [hread] at h <;> cases h <;> exact ⟨rfl, rfl⟩

theorem of_onSigner {act : σ → SignResult × σ} {result : SignResult}
    (h : Station.onSigner act e = (result, e')) :
    e' = { e with signer := e'.signer }
      ∧ ∀ s, e.signer = some s → (act s).1 = result ∧ e'.signer = some (act s).2 := by
  unfold Station.onSigner at h
  cases hsigner : e.signer with
  | none =>
      rw [hsigner] at h
      cases h
      exact ⟨rfl, nofun⟩
  | some s =>
      rw [hsigner] at h
      cases h
      exact ⟨rfl, fun s' hs => by cases hs; exact ⟨rfl, rfl⟩⟩

/-- A ticket goes to the handler of the station, and is dropped where there is none. -/
theorem answerOf_storeTicket [TicketHandler τ] {body : Bytes} {session : Session}
    {answer : Except Error Unit}
    (h : answerOf (Station.storeTicket body session) e = (answer, e')) :
    e' = { e with tickets := e'.tickets }
      ∧ (e.tickets = none ∧ answer = .ok () ∧ e'.tickets = none
        ∨ ∃ handler after, e.tickets = some handler
          ∧ answerOf (TicketHandler.store body session) handler = (answer, after)
          ∧ e'.tickets = some after) := by
  unfold answerOf Station.storeTicket at h
  cases htickets : e.tickets with
  | none =>
      rw [htickets] at h
      cases h
      exact ⟨rfl, Or.inl ⟨rfl, rfl, htickets⟩⟩
  | some handler =>
      rw [htickets] at h
      unfold answerOf
      cases hstore : TicketHandler.store body session handler <;> simp only [hstore] at h <;>
        cases h <;> exact ⟨rfl, Or.inr ⟨handler, _, rfl, by rw [hstore], rfl⟩⟩

variable [KeySchedule κ] [SigningDevice σ] [TicketHandler τ]

/-- Only the socket of a station is shared with the peer. -/
theorem Event.Effect.onSocket {event : Event} (h : event.Effect e e') :
    event.OnSocket e.socket e'.socket := by
  cases event with
  | flushed | readChangeCipherSpec => exact answerOf_onSocket h
  | queued => exact ⟨(answerOf_onSocket h).1, (answerOf_onSocket h).2⟩
  | flightExpected | alerted => cases h; rfl
  | read => exact (answerOf_readMessage h).1
  | computedMac | rotated => exact (congrArg Station.socket (answerOf_onKeys h).2 :)
  | signed | completedSignature => exact (congrArg Station.socket (of_onSigner h).1 :)
  | storedTicket => exact (congrArg Station.socket (answerOf_storeTicket h).1 :)

end Station

/-! ## Delivery -/

/-- Of the messages sent, those read come first, and the bytes of the others are on their way. What
    was read is framed. -/
def Delivery (sent : List Bytes) (read : List Message) (onWay : Bytes) : Prop :=
  ∃ rest, sent = read.map Message.raw ++ rest ∧ onWay = rest.flatten ∧ ∀ m ∈ read, m.Framed

namespace Delivery

variable {sent : List Bytes} {read : List Message} {onWay later : Bytes} {s s' : Socket}
  {event : Event}

theorem nil : Delivery [] [] [] := ⟨[], rfl, rfl, nofun⟩

/-- Messages are sent. -/
theorem send (h : Delivery sent read onWay) (ms : List Bytes) :
    Delivery (sent ++ ms) read (onWay ++ ms.flatten) := by
  obtain ⟨rest, rfl, rfl, hframed⟩ := h
  exact ⟨rest ++ ms, by rw [List.append_assoc], by rw [List.flatten_append], hframed⟩

theorem raw_prefix (h : Delivery sent read onWay) : read.map Message.raw <+: sent := by
  obtain ⟨rest, rfl, _⟩ := h
  exact List.prefix_append _ _

/-- A read delivers the next message, if all of it is there. -/
theorem take? (h : Delivery sent read (s.incoming.stream.toBytes ++ later))
    (hsent : ∀ m ∈ sent, ∃ type, IsMessage type m) :
    (∃ m stream, Message.take? s.incoming.stream = .ok (some m) stream
      ∧ Delivery sent (read ++ [m]) (stream.toBytes ++ later))
    ∨ ∃ stream, Message.take? s.incoming.stream = .ok none stream
      ∧ stream.toBytes = s.incoming.stream.toBytes
      ∧ (later = [] → sent = read.map Message.raw) := by
  obtain ⟨rest, rfl, honway, hframed⟩ := h
  -- the next message is the first that has not been read; some of it may still be in the flight
  cases rest with
  | nil =>
      obtain ⟨hstream, hlater⟩ := List.append_eq_nil_iff.1 honway
      obtain ⟨stream, htake, hempty⟩ := take?_of_empty hstream
      exact Or.inr ⟨stream, htake, by rw [hempty, hstream], fun _ => List.append_nil _⟩
  | cons raw rest =>
      obtain ⟨type, body, hframe⟩ := hsent raw (by simp)
      have hm : Message.Framed ⟨type, body, raw⟩ := hframe
      rcases take?_of_frame hm honway with ⟨stream, htake, hrest⟩ | ⟨stream, htake, hsame, hlt⟩
      · refine Or.inl ⟨_, stream, htake, rest, ?_, hrest, ?_⟩
        · simp only [List.map_append, List.map_cons, List.map_nil, List.append_assoc,
            List.singleton_append]
        · intro m hmem
          rcases List.mem_append.1 hmem with hmem | hmem
          · exact hframed m hmem
          · rw [List.mem_singleton] at hmem
            exact hmem ▸ hm
      · refine Or.inr ⟨stream, htake, hsame, fun hlater => ?_⟩
        have hlength := congrArg List.length honway
        rw [hlater, List.append_nil, List.flatten_cons, List.length_append] at hlength
        change _ < raw.length at hlt
        omega

/-- An event of the reader. -/
theorem onReader (h : Delivery sent read (s.incoming.stream.toBytes ++ later))
    (hsent : ∀ m ∈ sent, ∃ type, IsMessage type m) (hevent : event.OnSocket s s') :
    Delivery sent (read ++ event.message?.toList) (s'.incoming.stream.toBytes ++ later)
      ∧ ∀ e, event ≠ .read (.error e) := by
  cases event with
  | read answer =>
      change answerOf Socket.readMessage s = (answer, s') at hevent
      unfold answerOf Socket.readMessage at hevent
      rcases h.take? hsent with ⟨m, stream, htake, hdelivery⟩ | ⟨stream, htake, hsame, _⟩
      · rw [htake] at hevent
        cases hevent
        exact ⟨hdelivery, nofun⟩
      · rw [htake] at hevent
        cases hevent
        refine ⟨?_, nofun⟩
        rw [show Event.message? (.read (.ok .pending)) = none from rfl, Option.toList_none,
          List.append_nil]
        exact hsame ▸ h
  | _ =>
      rw [hevent.takesNothing nofun]
      exact ⟨(List.append_nil read).symm ▸ h, nofun⟩

end Delivery

/-- An event of the sender. -/
theorem Event.OnSocket.outbound {event : Event} {s s' : Socket} (h : event.OnSocket s s') :
    s'.outbound = s.outbound ++ event.sent?.toList.flatten ∧ event.unsent? = none := by
  cases event with
  | flushed answer =>
      obtain ⟨_, rfl⟩ := h
      refine ⟨?_, rfl⟩
      rw [Socket.outbound, Socket.flush_stream_append_flight]
      exact (List.append_nil _).symm
  | queued message answer =>
      obtain ⟨rfl, rfl⟩ := h
      refine ⟨?_, rfl⟩
      simp [Socket.outbound, Socket.addMessage, sent?]
  | alerted a =>
      obtain rfl := h
      exact ⟨(List.append_nil _).symm, rfl⟩
  | _ =>
      obtain ⟨houtgoing, hflight, _⟩ := h.sendsNothing nofun nofun nofun
      rw [Socket.outbound, houtgoing, hflight]
      exact ⟨(List.append_nil _).symm, rfl⟩

/-! ## Runs of events -/

section Station

variable {κ σ τ : Type} [KeySchedule κ] [SigningDevice σ] [TicketHandler τ]
  {e e' : Station κ σ τ} {h : History} {sent : List Bytes} {read : List Message} {later : Bytes}

/-- All that a station queues is on its way. -/
theorem outbound_of_performs (hperforms : Performs e h e') :
    e'.socket.outbound = e.socket.outbound ++ h.messagesSent.flatten ∧ h.messagesUnsent = [] := by
  constructor
  · rw [h.flatten_messagesSent]
    exact hperforms.grows (fun e => e.socket.outbound)
      fun _ _ _ _ heffect => heffect.onSocket.outbound.1
  · refine List.filterMap_eq_nil_iff.2 fun event hmem => ?_
    obtain ⟨_, _, heffect⟩ := hperforms.effect_of_mem hmem
    exact heffect.onSocket.outbound.2

/-- What a station reads is delivered, and no read fails. -/
theorem delivery_of_performs (hperforms : Performs e h e')
    (hdelivery : Delivery sent read (e.socket.incoming.stream.toBytes ++ later))
    (hsent : ∀ m ∈ sent, ∃ type, IsMessage type m) :
    Delivery sent (read ++ h.messagesRead) (e'.socket.incoming.stream.toBytes ++ later)
      ∧ ∀ err, .read (.error err) ∉ h :=
  hperforms.reads (fun read e => Delivery sent read (e.socket.incoming.stream.toBytes ++ later))
    (fun heffect hdelivery => hdelivery.onReader hsent heffect.onSocket) hdelivery

end Station

end TlsHandshake
