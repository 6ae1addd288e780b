import TlsHandshake.Proofs.Flight.Progress

set_option autoImplicit false

/-! # What a round leaves behind

Which events settling a wait and a turn that goes on put into the history, and where they leave the
flight. -/

namespace TlsHandshake

/-! ## Settling -/

namespace Endpoint

variable {c c' : Context} {g : History} {o : Option Outcome}

theorem Settles.unsigned (hsettles : Settles c g o c') : ∀ event ∈ g, ¬ event.IsSigning := by
  have hreport : ∀ e, ∀ event ∈ History.report e, ¬ event.IsSigning := by
    intro e event hmem
    unfold History.report at hmem
    cases halert : Engine.transportAlert? e with
    | none =>
        rw [halert] at hmem
        cases hmem
    | some description =>
        rw [halert] at hmem
        obtain rfl := List.mem_singleton.1 hmem
        exact id
  cases hsettles <;> simp [Event.IsSigning] <;> exact hreport _

/-- Alerts are sent only with a fatal outcome. -/
theorem Settles.not_alerted (hsettles : Settles c g o c') (hfatal : ∀ e, o ≠ some (.fatal e))
    (alert : Alert) : .alerted alert ∉ g := by
  cases hsettles with
  | failed | flushFailed | readFailed | flushedThenFailed | changeCipherSpecFailed =>
      exact absurd rfl (hfatal _)
  | _ => simp

/-- A wait for a flush begins with one. -/
theorem Settles.flushes (hsettles : Settles c g o c')
    (hwait : c.wait = .flush ∨ c.wait = .flushAndReadMessage) :
    ∃ answer rest, g = .flushed answer :: rest
      ∧ (answer = .ok .pending → o ≠ none ∧ c'.wait = c.wait) := by
  cases hsettles with
  | flushDelayed => exact ⟨_, _, rfl, fun _ => ⟨nofun, rfl⟩⟩
  | flushed | flushFailed | flushedThenRead | flushedThenDelayed | flushedThenFailed =>
      exact ⟨_, _, rfl, nofun⟩
  | _ =>
      rw [‹c.wait = _›] at hwait
      rcases hwait with h | h <;> cases h

/-- A wait for a message is settled by one. -/
theorem Settles.message_isSome (hsettles : Settles c g none c') (hwait : c.wait = .readMessage) :
    c'.message.isSome = true := by
  cases hsettles with
  | messageRead => rfl
  | _ =>
      cases hwait.symm.trans ‹c.wait = _›

end Endpoint

/-! ## Turns -/

/-- What a turn of a phase may do with the surroundings: it queues a message if the phase is to send
    one, asks the signer if it is to sign, computes MACs and sends alerts. Whatever else there is, it
    does not: it reads nothing, moves no key on and hands over no ticket. -/
def Event.OfTurn (phase : Phase) : Event → Prop
  | queued .. => AuthFlow.sends phase
  | signed .. | completedSignature .. => phase = .sendCertificateVerify
  | computedMac .. | alerted _ => True
  | _ => False

theorem Event.ofTurn_signingEvent (c : Context) (scheme : SignatureScheme) (maxLength : Nat)
    (answer : SignResult) :
    Event.OfTurn .sendCertificateVerify (c.signingEvent scheme maxLength answer) := by
  rw [Context.signingEvent]
  split <;> rfl

/-- All that a turn of a phase has done is what it may do. -/
def History.OfTurn (phase : Phase) (h : History) : Prop := ∀ event ∈ h, event.OfTurn phase

namespace History.OfTurn

variable {phase : Phase} {g : History}

/-- A turn is blind to the events of a kind that no turn does. -/
theorem filterMap_eq_nil {α : Type} {f : Event → Option α} (hturn : g.OfTurn phase)
    (hnone : ∀ event : Event, event.OfTurn phase → f event = none) : g.filterMap f = [] :=
  List.filterMap_eq_nil_iff.2 fun event hmem => hnone event (hturn event hmem)

theorem messagesRead (hturn : g.OfTurn phase) : g.messagesRead = [] := by
  refine hturn.filterMap_eq_nil fun event hevent => ?_
  cases event with
  | read => exact hevent.elim
  | _ => rfl

theorem messagesSent (hturn : g.OfTurn phase) (hphase : ¬ AuthFlow.sends phase) :
    g.messagesSent = [] := by
  refine hturn.filterMap_eq_nil fun event hevent => ?_
  cases event with
  | queued => exact absurd hevent hphase
  | _ => rfl

theorem unsigned (hturn : g.OfTurn phase) (hphase : phase ≠ .sendCertificateVerify) :
    ∀ event ∈ g, ¬ event.IsSigning := by
  intro event hmem hsigning
  have hevent := hturn event hmem
  cases event with
  | signed | completedSignature => exact hphase hevent
  | _ => exact hsigning

end History.OfTurn

namespace AuthFlow

variable {role : Role} {signer? : Option SignerInfo} {phase phase' : Phase} {c c' : Context}
  {g : History} {turn : Turn} {wait : Wait}

theorem Advance.ofTurn (hadvance : Advance role signer? phase c g turn c') : g.OfTurn phase := by
  cases hadvance with
  | signatureDelayed | signatureSent =>
      exact List.forall_mem_cons.2
        ⟨Event.ofTurn_signingEvent c _ _ _, by simp [Event.OfTurn, sends]⟩
  | _ => simp [History.OfTurn, Event.OfTurn, sends]

theorem Failure.ofTurn {e : Error} (hfailure : Failure role signer? phase c g e c') :
    g.OfTurn phase := by
  cases hfailure with
  | signatureFailed | signatureTooLong | signatureUnencodable | signatureUnqueued =>
      exact List.forall_mem_cons.2
        ⟨Event.ofTurn_signingEvent c _ _ _, by simp [Event.OfTurn, sends]⟩
  | _ => simp [History.OfTurn, Event.OfTurn, sends]

/-- A turn that goes on sends no alert. -/
theorem Advance.not_alerted (hadvance : Advance role signer? phase c g turn c')
    (alert : Alert) : .alerted alert ∉ g := by
  have hsigning : ∀ scheme maxLength answer,
      .alerted alert ≠ c.signingEvent scheme maxLength answer := by
    intro scheme maxLength answer halert
    rw [Context.signingEvent] at halert
    split at halert <;> cases halert
  cases hadvance <;> simp [hsigning]

/-- Only the signing turn has to do with the signer. -/
theorem Advance.unsigned (hadvance : Advance role signer? phase c g turn c')
    (hphase : phase ≠ .sendCertificateVerify) :
    (∀ event ∈ g, ¬ event.IsSigning) ∧ c'.signaturePending = c.signaturePending := by
  refine ⟨hadvance.ofTurn.unsigned hphase, ?_⟩
  cases hadvance with
  | signatureDelayed | signatureSent => exact absurd rfl hphase
  | _ => simp

/-- An end that sends goes on sending. -/
theorem Advance.sends_next (hadvance : Advance role signer? phase c g (.next phase') c')
    (hphase : sends phase) : sends phase' := by
  generalize hturn : Turn.next phase' = turn at hadvance
  cases hadvance <;> cases hturn
  case certificateSent => split <;> simp [sends]
  case signatureSent => exact Or.inr (Or.inr rfl)
  all_goals rcases hphase with h | h | h <;> cases h

/-- An end comes to sign from its chain or from signing. -/
theorem Advance.of_signing (hadvance : Advance role signer? phase c g turn c')
    (hphase : turn.phase = .sendCertificateVerify) :
    phase = .sendCertificate ∨ phase = .sendCertificateVerify := by
  cases hadvance with
  | certificateSent => exact Or.inl rfl
  | signatureDelayed | signatureSent => exact Or.inr rfl
  | awaiting =>
      obtain rfl : _ = Phase.sendCertificateVerify := hphase
      exact Or.inr rfl
  | finishedAccepted | savedFinishedAccepted =>
      change afterFinished role c = .sendCertificateVerify at hphase
      unfold afterFinished at hphase
      split at hphase
      · cases hphase
      · split at hphase <;> cases hphase
  | _ => cases hphase

/-- A turn that waits has signed in part, or has gone forward, or there is nothing for it to do. -/
theorem Advance.wait_cases (hadvance : Advance role signer? phase c g (.wait phase' wait) c') :
    (phase = .sendCertificateVerify ∧ phase' = phase ∧ wait = .external .privateKeyOperation)
    ∨ (rank role phase' < rank role phase ∧ (wait = .flush ∨ wait = .flushAndReadMessage))
    ∨ phase' = phase ∧ (expected? phase).isSome = true ∧ c.message = none ∧ wait = .readMessage
    ∨ phase' = phase ∧ phase = .done ∧ wait = .ok := by
  generalize hturn : Turn.wait phase' wait = turn at hadvance
  cases hadvance <;> cases hturn
  case signatureDelayed => exact Or.inl ⟨rfl, rfl, rfl⟩
  case clientFinishedSent hrole _ =>
    subst hrole
    exact Or.inr (Or.inl ⟨by decide, Or.inl rfl⟩)
  case serverFinishedSent hrole _ _ =>
    subst hrole
    exact Or.inr (Or.inl ⟨by decide, Or.inr rfl⟩)
  case serverFinishedSaved hrole _ _ =>
    subst hrole
    exact Or.inr (Or.inl ⟨by decide, Or.inr rfl⟩)
  case awaiting hphase hmessage =>
    exact Or.inr (Or.inr (Or.inl ⟨rfl, by rw [hphase]; rfl, hmessage, rfl⟩))
  case done => exact Or.inr (Or.inr (Or.inr ⟨rfl, rfl, rfl⟩))

end AuthFlow

end TlsHandshake
