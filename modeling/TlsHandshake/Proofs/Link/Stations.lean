import TlsHandshake.Memory.Desk
import TlsHandshake.Proofs.Link.Delivery
import TlsHandshake.Proofs.VerifyEncoding

set_option autoImplicit false

/-! # Stations with derived keys

What a station never does by itself: it does not change the keys its MACs are made with, and only
the signer's own answers change the signer. With derived keys every MAC can be computed and is
determined by them. -/

namespace TlsHandshake

namespace FinishedKeys

theorem mac_rotate (keys : FinishedKeys) (direction : Direction) :
    (keys.rotate direction).mac = keys.mac := by
  cases direction <;> rfl

/-- A MAC fits into a Finished message. -/
theorem encode_mac (keys : FinishedKeys) (sender : Role) (transcriptHash : Bytes) :
    ∃ f, Finished.encode (keys.mac sender transcriptHash) = .ok f := by
  have hlength : (keys.mac sender transcriptHash).length = keys.algorithm.outputLength :=
    HashAlgorithm.length_hmac _ _ _
  refine ⟨_, frame_eq_ok_iff.2 ⟨?_, rfl⟩⟩
  rw [hlength]
  cases keys.algorithm <;> decide

end FinishedKeys

namespace Event

variable {σ τ : Type} [SigningDevice σ] [TicketHandler τ] {e e' : Station FinishedKeys σ τ}
  {event : Event}

/-! ## Events -/

/-- No event changes what the MACs are made with, and only the signer changes the signer. -/
theorem Effect.collaborators (h : event.Effect e e') :
    e'.keys.mac = e.keys.mac ∧ (¬ event.IsSigning → e'.signer = e.signer) := by
  cases event with
  | flushed | readChangeCipherSpec | queued | flightExpected | alerted | computedMac =>
      cases h
      exact ⟨rfl, fun _ => rfl⟩
  | read =>
      rw [(answerOf_readMessage h).2]
      exact ⟨rfl, fun _ => rfl⟩
  | rotated direction answer =>
      cases h
      exact ⟨FinishedKeys.mac_rotate _ _, fun _ => rfl⟩
  | signed | completedSignature =>
      refine ⟨?_, fun hsigning => absurd trivial hsigning⟩
      rw [(of_onSigner h).1]
  | storedTicket =>
      rw [(answerOf_storeTicket h).1]
      exact ⟨rfl, fun _ => rfl⟩

/-- A MAC that was asked for is the one of the keys. -/
theorem Effect.computed_eq {sender : Role} {transcriptHash : Bytes} {answer : Except Error Bytes}
    (h : Effect e (.computedMac sender transcriptHash answer) e') :
    answer = .ok (e.keys.mac sender transcriptHash) := by
  cases h
  rfl

/-- A flush is only ever put off, and then the end is blocked; else the flight is handed over. -/
theorem Effect.flushed {answer : Except Error (Awaited Unit)} (h : Effect e (.flushed answer) e') :
    answer = .ok .pending ∧ e.socket.outbox.blocked = true
    ∨ answer = .ok (.ready ()) ∧ e'.socket.outbox.flight.toBytes = [] := by
  obtain ⟨rfl, hsocket⟩ := h.onSocket
  rw [hsocket]
  unfold Socket.flush
  split
  · exact Or.inl ⟨rfl, ‹_›⟩
  · exact Or.inr ⟨rfl, rfl⟩

/-- What an event leaves of a socket: whether it is blocked, the alerts unless it sends one, and an
    empty flight unless it queues a message. -/
structure Leaves (event : Event) (s s' : Socket) : Prop where
  blocked : s'.outbox.blocked = s.outbox.blocked
  received : s'.incoming.alerts = s.incoming.alerts
  alerts : (∀ a, event ≠ .alerted a) → s'.outgoing.alerts = s.outgoing.alerts
  flight : event.sent? = none → s.outbox.flight.toBytes = [] → s'.outbox.flight.toBytes = []

theorem OnSocket.leaves {s s' : Socket} (h : event.OnSocket s s') : event.Leaves s s' := by
  cases event with
  | flushed answer =>
      obtain ⟨_, rfl⟩ := h
      unfold Socket.flush
      split
      · exact ⟨rfl, rfl, fun _ => rfl, fun _ hempty => hempty⟩
      · exact ⟨rfl, rfl, fun _ => rfl, fun _ _ => rfl⟩
  | queued message answer =>
      obtain ⟨rfl, rfl⟩ := h
      exact ⟨rfl, rfl, fun _ => rfl, fun hsent => by cases hsent⟩
  | alerted a =>
      obtain rfl := h
      exact ⟨rfl, rfl, fun halerted => absurd rfl (halerted a), fun _ hempty => hempty⟩
  | _ =>
      obtain ⟨houtgoing, hflight, hblocked, halerts⟩ := h.sendsNothing nofun nofun nofun
      exact ⟨hblocked, halerts, fun _ => by rw [houtgoing], fun _ hempty => by rw [hflight, hempty]⟩

end Event

/-! ## Runs of events -/

section Performs

variable {σ τ : Type} [SigningDevice σ] [TicketHandler τ] {e e' : Station FinishedKeys σ τ}
  {h : History}

theorem mac_of_performs (hperforms : Performs e h e') : e'.keys.mac = e.keys.mac :=
  hperforms.preserves (fun e₁ => e₁.keys.mac = e.keys.mac)
    (fun _ _ _ _ heffect hmac => heffect.collaborators.1.trans hmac) rfl

/-- All MACs of a run are those of the keys. -/
theorem computed_of_performs (hperforms : Performs e h e') {sender : Role} {transcriptHash : Bytes}
    {answer : Except Error Bytes} (hmem : .computedMac sender transcriptHash answer ∈ h) :
    answer = .ok (e.keys.mac sender transcriptHash) := by
  obtain ⟨e₁, e₂, hmac, heffect⟩ :=
    hperforms.of_mem (fun e₁ => e₁.keys.mac = e.keys.mac)
      (fun _ _ _ heffect hmac => heffect.collaborators.1.trans hmac) rfl hmem
  rw [heffect.computed_eq, hmac]

theorem signer_of_performs (hperforms : Performs e h e')
    (hsigning : ∀ event ∈ h, ¬ event.IsSigning) : e'.signer = e.signer :=
  hperforms.preserves (fun e₁ => e₁.signer = e.signer)
    (fun event hmem _ _ heffect hsigner =>
      (heffect.collaborators.2 (hsigning event hmem)).trans hsigner) rfl

theorem blocked_of_performs (hperforms : Performs e h e') :
    e'.socket.outbox.blocked = e.socket.outbox.blocked :=
  hperforms.preserves (fun e₁ => e₁.socket.outbox.blocked = e.socket.outbox.blocked)
    (fun _ _ _ _ heffect hblocked => heffect.onSocket.leaves.blocked.trans hblocked) rfl

theorem alerts_of_performs (hperforms : Performs e h e') (halerted : ∀ a, .alerted a ∉ h) :
    e'.socket.outgoing.alerts = e.socket.outgoing.alerts
      ∧ e'.socket.incoming.alerts = e.socket.incoming.alerts := by
  refine hperforms.preserves (fun e₁ => e₁.socket.outgoing.alerts = e.socket.outgoing.alerts
    ∧ e₁.socket.incoming.alerts = e.socket.incoming.alerts) ?_ ⟨rfl, rfl⟩
  rintro event hmem e₁ e₂ heffect ⟨houtgoing, hincoming⟩
  have hleaves := heffect.onSocket.leaves
  have hkept := hleaves.alerts fun a heq => halerted a (heq ▸ hmem)
  exact ⟨hkept.trans houtgoing, hleaves.received.trans hincoming⟩

theorem flight_of_performs (hperforms : Performs e h e') (hsent : h.messagesSent = [])
    (hempty : e.socket.outbox.flight.toBytes = []) : e'.socket.outbox.flight.toBytes = [] := by
  refine hperforms.preserves (fun e₁ => e₁.socket.outbox.flight.toBytes = []) ?_ hempty
  intro event hmem e₁ e₂ heffect hflight
  refine heffect.onSocket.leaves.flight ?_ hflight
  cases hsome : event.sent? with
  | none => rfl
  | some m =>
      have hm : m ∈ h.messagesSent := List.mem_filterMap.2 ⟨event, hmem, hsome⟩
      rw [hsent] at hm
      cases hm

end Performs

end TlsHandshake
