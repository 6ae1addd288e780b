import TlsHandshake.Proofs.Flight.Standing

set_option autoImplicit false

/-! # The log of a flight

The log of a history is the bytes of all messages read and queued, in the order in which they were
handled. `Logged` says between any two turns that the transcript has taken in the log, except for a
message that has been read and is still to be dealt with; `Paused` says that between calls there is
no such message. Neither asks anything of the chain hook. -/

namespace TlsHandshake

/-- The bytes of a message that was read or queued. -/
def Event.logged : Event → Bytes
  | read (.ok (.ready m)) => m.raw
  | queued message (.ok ()) => message
  | _ => []

namespace History

/-- The bytes of the messages read and queued, in the order in which they were handled. -/
def log (h : History) : Bytes := h.flatMap Event.logged

@[simp] theorem log_nil : log [] = [] := rfl

@[simp] theorem log_cons (e : Event) (h : History) : log (e :: h) = e.logged ++ log h := rfl

@[simp] theorem log_append (g h : History) : log (g ++ h) = log g ++ log h := List.flatMap_append

@[simp] theorem log_report (e : Error) : (report e).log = [] := by
  rw [report]
  cases Engine.transportAlert? e <;> rfl

/-! ## Places in a history -/

/-- `P` holds of every event of a history, with what comes before it and what comes after it. -/
def Each (P : History → Event → History → Prop) (h : History) : Prop :=
  ∀ g e rest, h = g ++ e :: rest → P g e rest

section Each

variable {P Q : History → Event → History → Prop} {g h : History} {e : Event}

@[simp] theorem each_nil : Each P [] := by
  intro g e rest heq
  cases g <;> cases heq

@[simp] theorem each_cons : Each P (e :: h) ↔ P [] e h ∧ Each (fun g => P (e :: g)) h := by
  constructor
  · intro heach
    refine ⟨heach [] e h rfl, fun g e' rest heq => heach (e :: g) e' rest ?_⟩
    rw [heq, List.cons_append]
  · rintro ⟨hfirst, hrest⟩ g e' rest heq
    cases g with
    | nil =>
        cases heq
        exact hfirst
    | cons first g =>
        obtain rfl := (List.cons.inj heq).1
        exact hrest g e' rest (List.cons.inj heq).2

@[simp] theorem each_append : Each P (g ++ h)
    ↔ Each (fun g' e rest => P g' e (rest ++ h)) g ∧ Each (fun g' => P (g ++ g')) h := by
  induction g generalizing P with
  | nil => simp
  | cons first g ih => simp only [List.cons_append, each_cons, ih, and_assoc]

theorem Each.mono (heach : h.Each P) (hmono : ∀ g e rest, e ∈ h → P g e rest → Q g e rest) :
    h.Each Q :=
  fun g e rest heq => hmono g e rest (by rw [heq]; simp) (heach g e rest heq)

/-- What holds of every event wherever it is. -/
theorem each_of_forall (hall : ∀ e ∈ h, ∀ g rest, P g e rest) : h.Each P :=
  fun g e rest heq => hall e (by rw [heq]; simp) g rest

/-- A report is no more than an alert. -/
theorem each_report (hall : ∀ g alert rest, P g (.alerted alert) rest) (err : Error) :
    (report err).Each P := by
  unfold report
  cases Engine.transportAlert? err with
  | none => exact each_nil
  | some => exact each_cons.2 ⟨hall _ _ _, each_nil⟩

end Each

end History

/-- The hash of the transcript once it has taken in the log of a history. -/
def Context.digestAfter (c : Context) (h : History) : Bytes :=
  c.digest (c.transcript.bytes ++ h.log)

@[simp] theorem Context.signingEvent_logged (c : Context) (scheme : SignatureScheme)
    (maxLength : Nat) (answer : SignResult) :
    (c.signingEvent scheme maxLength answer).logged = [] := by
  rw [Context.signingEvent]
  split <;> rfl

namespace Endpoint

/-! ## Settling -/

section Settles

variable {c c' : Context} {g : History}

/-- A suspended call leaves the message pending as it is. -/
theorem Settles.message_of_some {outcome : Outcome} (hsettles : Settles c g (some outcome) c') :
    c'.message = c.message := by
  generalize ho : some outcome = o at hsettles
  cases hsettles <;> first | rfl | cases ho

/-- A suspended call logs nothing. -/
theorem Settles.log_of_some {outcome : Outcome} (hsettles : Settles c g (some outcome) c') :
    g.log = [] := by
  generalize ho : some outcome = o at hsettles
  cases hsettles <;> cases ho <;> simp [Event.logged]

/-- Settling a wait logs the message that is pending then, and nothing else. -/
theorem Settles.log_of_none (hsettles : Settles c g none c') :
    (g.log = [] ∧ c'.message = c.message)
    ∨ ∃ m, ∃ g' : History, g = g' ++ [.read (.ok (.ready m))] ∧ g'.log = [] ∧ c'.message = some m
      ∧ AuthFlow.awaitsMessage c.wait := by
  cases hsettles with
  | messageRead hwait => exact Or.inr ⟨_, [], rfl, rfl, rfl, Or.inl hwait⟩
  | flushedThenRead hwait =>
      exact Or.inr ⟨_, [.flushed (.ok (.ready ())), .flightExpected], rfl, rfl, rfl, Or.inr hwait⟩
  | _ => exact Or.inl ⟨rfl, rfl⟩

end Settles

end Endpoint

namespace AuthFlow

open Endpoint

/-! ## Logged transcripts -/

/-- Where a context is between turns, `h` after it was `c₀`: its transcript has taken in the log of
    `h`, except for the message pending, and that is the one that has been read last. -/
structure Logged (c₀ : Context) (phase : Phase) (c : Context) (h : History) : Prop where
  settings : c₀.SameSettings c
  transcript : c.transcript.bytes ++ rawBytes c.message.toList = c₀.transcript.bytes ++ h.log
  pending : ∀ m, c.message = some m → ∃ g, h = g ++ [.read (.ok (.ready m))]
  message : expected? phase = none → c.message = none

/-- Where a context is between calls, if it has not failed. -/
structure Paused (c₀ : Context) (phase : Phase) (c : Context) (h : History) : Prop
    extends Logged c₀ phase c h where
  settled : c.message = none
  awaits : awaitsMessage c.wait → (expected? phase).isSome = true

section Logged

variable {c₀ c c' : Context} {phase phase' : Phase} {g h : History} {o : Option Outcome}
  {role : Role} {signer? : Option SignerInfo} {turn : Turn} {m : Message}

/-- Without a message pending the transcript is the log. -/
theorem Logged.transcript_of_none (hlogged : Logged c₀ phase c h) (hnone : c.message = none) :
    c.transcript.bytes = c₀.transcript.bytes ++ h.log := by
  have htranscript := hlogged.transcript
  rw [hnone, Option.toList_none, rawBytes_nil, List.append_nil] at htranscript
  exact htranscript

/-- With a message pending the transcript is the log before it. -/
theorem Logged.transcript_of_some (hlogged : Logged c₀ phase c h) (hsome : c.message = some m) :
    ∃ g : History, h = g ++ [.read (.ok (.ready m))]
      ∧ c.transcript.bytes = c₀.transcript.bytes ++ g.log := by
  obtain ⟨g, rfl⟩ := hlogged.pending m hsome
  have htranscript := hlogged.transcript
  rw [hsome, Option.toList_some, rawBytes_singleton, History.log_append, ← List.append_assoc]
    at htranscript
  refine ⟨g, rfl, List.append_cancel_right (htranscript.trans ?_)⟩
  rw [History.log_cons, History.log_nil, List.append_nil]
  rfl

/-- Accepting the message pending, if there is one, puts it into the transcript. -/
theorem bytes_accept (c : Context) :
    c.accept.transcript.bytes = c.transcript.bytes ++ rawBytes c.message.toList := by
  rw [Context.accept, Context.recordMessage]
  cases c.message with
  | none => exact (List.append_nil _).symm
  | some m =>
      rw [Option.toList_some, rawBytes_singleton]
      rfl

/-- The hash that a turn takes while a message is pending. -/
theorem Logged.hash_of_some (hlogged : Logged c₀ phase c h) (hsome : c.message = some m) :
    ∃ g : History, h = g ++ [.read (.ok (.ready m))] ∧ c.transcript.hash = c₀.digestAfter g := by
  obtain ⟨g, hg, hbytes⟩ := hlogged.transcript_of_some hsome
  exact ⟨g, hg, hlogged.settings.hash hbytes⟩

/-- A turn that does not fail deals with the message pending and puts what it queues into the
    transcript. -/
theorem Advance.logs (hadvance : Advance role signer? phase c g turn c')
    (hmessage : expected? phase = none → c.message = none) :
    c'.message = none
    ∧ c'.transcript.bytes = c.transcript.bytes ++ rawBytes c.message.toList ++ g.log := by
  cases hadvance with
  | certificateSent | clientFinishedSent | serverFinishedSent | serverFinishedSaved =>
      have hnone := hmessage rfl
      refine ⟨hnone, ?_⟩
      rw [hnone]
      simp [Context.record, Event.logged]
  | signatureDelayed | signatureSent =>
      have hnone := hmessage rfl
      refine ⟨hnone, ?_⟩
      rw [hnone, History.log_cons, Context.signingEvent_logged]
      simp [Context.record, Event.logged]
  | awaiting _ hnone =>
      rw [hnone]
      simp
  | done =>
      have hnone := hmessage rfl
      rw [hnone]
      simp
  | chainAccepted | anonymousAccepted | signatureAccepted | finishedAccepted
  | savedFinishedAccepted => exact ⟨rfl, (bytes_accept _).trans (List.append_nil _).symm⟩

theorem Advance.sameSettings (hadvance : Advance role signer? phase c g turn c')
    (hsettings : c₀.SameSettings c) : c₀.SameSettings c' := by
  cases hadvance with
  | chainAccepted | anonymousAccepted | signatureAccepted | finishedAccepted
  | savedFinishedAccepted => exact sameSettings_accept hsettings.keep
  | _ => exact hsettings.keep

theorem Logged.advance (hlogged : Logged c₀ phase c h)
    (hadvance : Advance role signer? phase c g turn c') :
    Logged c₀ turn.phase c' (h ++ g) ∧ c'.message = none := by
  obtain ⟨hnone, htranscript⟩ := hadvance.logs hlogged.message
  refine ⟨?_, hnone⟩
  exact
    { settings := hadvance.sameSettings hlogged.settings
      transcript := by
        rw [hnone, htranscript, hlogged.transcript, History.log_append, Option.toList_none,
          rawBytes_nil, List.append_nil, List.append_assoc]
      pending := by
        intro m hsome
        rw [hnone] at hsome
        cases hsome
      message := fun _ => hnone }

theorem SameSettings.of_sameFlight (hsettings : c₀.SameSettings c) (hsame : c.SameFlight c') :
    c₀.SameSettings c' :=
  hsettings.keep hsame.config hsame.peerSchemes hsame.ocspRequested hsame.sctsRequested
    hsame.certificateRequested (by rw [hsame.transcript])

/-- Nothing has been logged, and no message is pending. -/
theorem Logged.quiet (hlogged : Logged c₀ phase c h) (hsame : c.SameFlight c')
    (hlog : g.log = []) (hnone : c.message = none) (hnone' : c'.message = none) :
    Logged c₀ phase c' (h ++ g) where
  settings := SameSettings.of_sameFlight hlogged.settings hsame
  transcript := by
    rw [hnone', hsame.transcript, hlogged.transcript_of_none hnone, History.log_append, hlog,
      Option.toList_none, rawBytes_nil, List.append_nil, List.append_nil]
  pending := by
    intro m hsome
    rw [hnone'] at hsome
    cases hsome
  message _ := hnone'

theorem Paused.suspend {outcome : Outcome} (hpaused : Paused c₀ phase c h)
    (hsettles : Settles c g (some outcome) c') (hwait : c'.wait ≠ .error) :
    Paused c₀ phase c' (h ++ g) := by
  rcases hsettles.wait_of_some with herror | ⟨_, hmessage, hawaits⟩
  · exact absurd herror hwait
  · have hnone : c'.message = none := hmessage.trans hpaused.settled
    exact
      { hpaused.quiet hsettles.sameFlight hsettles.log_of_some hpaused.settled hnone with
        settled := hnone
        awaits := fun h => hpaused.awaits (hawaits h) }

theorem Paused.settle (hpaused : Paused c₀ phase c h) (hsettles : Settles c g none c') :
    Logged c₀ phase c' (h ++ g) := by
  have hsame := hsettles.sameFlight
  rcases hsettles.log_of_none with ⟨hlog, hmessage⟩ | ⟨m, g', rfl, hlog, hsome, hawaits⟩
  · exact hpaused.quiet hsame hlog hpaused.settled (hmessage.trans hpaused.settled)
  · exact
      { settings := SameSettings.of_sameFlight hpaused.settings hsame
        transcript := by
          rw [hsome, hsame.transcript, hpaused.transcript_of_none hpaused.settled,
            History.log_append, History.log_append, hlog]
          simp [Event.logged]
        pending := by
          intro m' hsome'
          obtain rfl := Option.some.inj (hsome.symm.trans hsome')
          exact ⟨h ++ g', (List.append_assoc _ _ _).symm⟩
        message := by
          intro hphase
          have hreads := hpaused.awaits hawaits
          rw [hphase] at hreads
          cases hreads }

theorem Logged.pause {wait : Wait} (hlogged : Logged c₀ phase c h)
    (hadvance : Advance role signer? phase c g (.wait phase' wait) c') :
    Paused c₀ phase' { c' with wait := wait } (h ++ g) := by
  obtain ⟨hlogged', hnone⟩ := hlogged.advance hadvance
  exact
    { settings := hlogged'.settings.keep
      transcript := hlogged'.transcript
      pending := hlogged'.pending
      message := hlogged'.message
      settled := hnone
      awaits := hadvance.waits.1 }

end Logged

end AuthFlow

end TlsHandshake
