import TlsHandshake.Message.KeyUpdate
import TlsHandshake.Proofs.Flight.Standing
import TlsHandshake.Proofs.Flight.Traces
import TlsHandshake.Proofs.Link.Streams

set_option autoImplicit false

/-! # What is in a channel

The messages that an end has queued and its peer has not dealt with are the rest of its flight and
then KeyUpdates (`Carries`). No KeyUpdate is queued before Finished, and Finished is read before any
KeyUpdate is; so an end that reads its flight reads no KeyUpdate, and one that has read Finished
reads nothing else. Main statements: a handshake keeps this, for the end as the sender of one channel
(`sends_kept`) and as the receiver of the other (`hears_kept`). -/

namespace TlsHandshake

/-- A KeyUpdate message that can be decoded. -/
def Message.IsUpdate (m : Message) : Prop :=
  m.type = .keyUpdate ∧ ∃ request, KeyUpdateRequest.decode m.body = .ok request

namespace AuthFlow

/-! ## Finished -/

/-- Whether an end has sent its Finished. -/
def FinishedSent : Role → Phase → Prop
  | .server, phase => ¬ sends phase
  | .client, phase => phase = .done

/-- Whether an end has dealt with the Finished of its peer. -/
def FinishedRead : Role → Phase → Prop
  | .server, phase => phase = .done
  | .client, phase => expected? phase = none

theorem finishedSent_done (role : Role) : FinishedSent role .done := by
  cases role with
  | server => rintro (h | h | h) <;> cases h
  | client => rfl

theorem finishedRead_done (role : Role) : FinishedRead role .done := by
  cases role <;> rfl

theorem not_finishedSent_new (role : Role) : ¬ FinishedSent (new role).role (new role).phase := by
  cases role with
  | server => exact not_not_intro (Or.inl rfl)
  | client => nofun

theorem not_finishedRead_new (role : Role) : ¬ FinishedRead (new role).role (new role).phase := by
  cases role <;> nofun

/-! ## Channels -/

/-- The rest of a flight and the KeyUpdates behind it, in a channel whose sender has or has not sent
    Finished and whose receiver has or has not dealt with it. -/
structure Carried (sent read : Prop) (flight updates : List Message) : Prop where
  noUpdate : ∀ m ∈ flight, m.type ≠ .keyUpdate
  last : ∀ init f rest, flight = init ++ f :: rest → f.type = .finished → rest = []
  finished : sent ↔ read ∨ ∃ f ∈ flight, f.type = .finished
  empty : read → flight = []
  isUpdate : ∀ m ∈ updates, m.IsUpdate
  updated : updates ≠ [] → sent

/-- The messages in a channel. For every KeyUpdate among them the sender is a generation ahead. -/
def Carries (sent read : Prop) (written heard : Nat) (ms : List Message) : Prop :=
  ∃ flight updates, Carried sent read flight updates ∧ ms = flight ++ updates
    ∧ written = heard + updates.length

namespace Carries

variable {sent sent' read read' : Prop} {written heard : Nat} {ms new : List Message} {m : Message}

theorem congr (h : Carries sent read written heard ms) (hsent : sent' ↔ sent)
    (hread : read' ↔ read) : Carries sent' read' written heard ms := by
  rw [propext hsent, propext hread]
  exact h

/-- A channel that has not been used. -/
theorem nil (hsent : ¬ sent) (hread : ¬ read) : Carries sent read heard heard [] := by
  refine ⟨[], [], ⟨nofun, fun init f rest heq => ?_, ?_, fun _ => rfl, nofun, nofun⟩, rfl, rfl⟩
  · simp at heq
  · simp [hsent, hread]

/-- As many messages are KeyUpdates as the sender is generations ahead. -/
theorem generations (h : Carries sent read written heard ms) :
    written = heard + ms.countP (·.type = .keyUpdate) := by
  obtain ⟨flight, updates, hcarried, rfl, rfl⟩ := h
  have hflight : flight.countP (·.type = .keyUpdate) = 0 :=
    List.countP_eq_zero.2 fun m hm => by simpa using hcarried.noUpdate m hm
  have hupdates : updates.countP (·.type = .keyUpdate) = updates.length :=
    List.countP_eq_length.2 fun m hm => by simpa using (hcarried.isUpdate m hm).1
  rw [List.countP_append, hflight, hupdates, Nat.zero_add]

/-- One more message of the flight is sent. -/
theorem sendFlight (h : Carries sent read written heard ms) (hsent : ¬ sent)
    (htype : m.type ≠ .keyUpdate) (hnext : sent' ↔ m.type = .finished) :
    Carries sent' read written heard (ms ++ [m]) := by
  obtain ⟨flight, updates, hcarried, rfl, hgenerations⟩ := h
  obtain ⟨hread, hunfinished⟩ := not_or.1 (mt hcarried.finished.2 hsent)
  obtain rfl : updates = [] := Classical.byContradiction fun hne => hsent (hcarried.updated hne)
  refine ⟨flight ++ [m], [], ⟨fun f hf => ?_, fun init f rest heq hf => ?_, ?_,
    fun h => absurd h hread, nofun, nofun⟩, by simp, hgenerations⟩
  · rcases List.mem_append.1 hf with hf | hf
    · exact hcarried.noUpdate f hf
    · exact List.mem_singleton.1 hf ▸ htype
  · rcases List.eq_nil_or_concat rest with rfl | ⟨rest, last, rfl⟩
    · rfl
    · -- a Finished before the last message would be in the flight already
      refine absurd ⟨f, ?_, hf⟩ hunfinished
      have hsplit : flight ++ [m] = (init ++ f :: rest) ++ [last] := by
        rw [heq]
        simp
      rw [(List.append_inj' hsplit rfl).1]
      simp
  · rw [hnext]
    refine ⟨fun hm => Or.inr ⟨m, by simp, hm⟩, ?_⟩
    rintro (hread' | ⟨f, hf, hfinished⟩)
    · exact absurd hread' hread
    · rcases List.mem_append.1 hf with hf | hf
      · exact absurd ⟨f, hf, hfinished⟩ hunfinished
      · exact List.mem_singleton.1 hf ▸ hfinished

/-- KeyUpdates are sent. -/
theorem sendUpdates (h : Carries sent read written heard ms) (hsent : sent)
    (hnew : ∀ m ∈ new, m.IsUpdate) :
    Carries sent read (written + new.length) heard (ms ++ new) := by
  obtain ⟨flight, updates, hcarried, rfl, rfl⟩ := h
  refine ⟨flight, updates ++ new, { hcarried with
    isUpdate := fun m hm => ?_
    updated := fun _ => hsent }, List.append_assoc _ _ _, ?_⟩
  · rcases List.mem_append.1 hm with hm | hm
    · exact hcarried.isUpdate m hm
    · exact hnew m hm
  · rw [List.length_append, Nat.add_assoc]

/-- One more message of the flight is dealt with. -/
theorem readFlight (h : Carries sent read written heard (m :: ms)) (hread : ¬ read)
    (htype : m.type ≠ .keyUpdate) (hnext : read' ↔ m.type = .finished) :
    Carries sent read' written heard ms := by
  obtain ⟨flight, updates, hcarried, hms, hgenerations⟩ := h
  cases flight with
  | nil =>
      have hm : m ∈ updates := by
        rw [List.nil_append] at hms
        exact hms ▸ List.mem_cons_self
      exact absurd (hcarried.isUpdate m hm).1 htype
  | cons f flight =>
      obtain ⟨rfl, rfl⟩ := List.cons.inj hms
      have hlast : m.type = .finished → flight = [] := hcarried.last [] m flight rfl
      refine ⟨flight, updates, { hcarried with
        noUpdate := fun f hf => hcarried.noUpdate f (List.mem_cons_of_mem _ hf)
        last := fun init f rest heq hf =>
          hcarried.last (m :: init) f rest (congrArg (m :: ·) heq) hf
        empty := fun h => hlast (hnext.1 h)
        finished := ?_ }, rfl, hgenerations⟩
      rw [hcarried.finished, hnext]
      constructor
      · rintro (h | ⟨f, hf, hfinished⟩)
        · exact absurd h hread
        · rcases List.mem_cons.1 hf with rfl | hf
          · exact Or.inl hfinished
          · exact Or.inr ⟨f, hf, hfinished⟩
      · rintro (hm | ⟨f, hf, hfinished⟩)
        · exact Or.inr ⟨m, List.mem_cons_self, hm⟩
        · exact Or.inr ⟨f, List.mem_cons_of_mem _ hf, hfinished⟩

/-- Whoever has read Finished reads a KeyUpdate, and is a generation further once it is dealt
    with. -/
theorem readUpdate (h : Carries sent read written heard (m :: ms)) (hread : read) :
    m.IsUpdate ∧ Carries sent read written (heard + 1) ms := by
  obtain ⟨flight, updates, hcarried, hms, rfl⟩ := h
  obtain rfl := hcarried.empty hread
  rw [List.nil_append] at hms
  subst hms
  refine ⟨hcarried.isUpdate m List.mem_cons_self, [], ms, { hcarried with
    isUpdate := fun m hm => hcarried.isUpdate m (List.mem_cons_of_mem _ hm)
    updated := fun _ => hcarried.updated (List.cons_ne_nil _ _) }, rfl, ?_⟩
  rw [List.length_cons]
  omega

end Carries

/-! ## Rounds of a handshake -/

end AuthFlow

section Rotations

open Endpoint AuthFlow

variable {direction : Direction} {c c' : Context} {h : History}

@[simp] theorem rotations_report (e : Error) : (History.report e).rotations direction = 0 := by
  rw [History.report]
  cases Engine.transportAlert? e <;> rfl

theorem Endpoint.Settles.rotations {o : Option Outcome} (hsettles : Settles c h o c') :
    h.rotations direction = 0 := by
  cases hsettles <;> simp [Event.rotates]

theorem History.OfTurn.rotations {phase : Phase} (hturn : h.OfTurn phase) :
    h.rotations direction = 0 := by
  refine List.countP_eq_zero.2 fun event hmem hrotates => ?_
  have hevent := hturn event hmem
  cases event with
  | rotated => exact hevent
  | _ => cases hrotates

end Rotations

namespace AuthFlow

open Endpoint

section Turns

variable {role : Role} {signer? : Option SignerInfo} {phase : Phase} {c c' : Context}
  {h : History} {turn : Turn}

/-- What a turn sends: nothing, or one message of the flight. -/
theorem Advance.sends_cases (hadvance : Advance role signer? phase c h turn c') :
    (h.messagesSent = [] ∧ (FinishedSent role turn.phase ↔ FinishedSent role phase))
    ∨ ¬ FinishedSent role phase ∧ ∃ m : Message, m.Framed ∧ h.messagesSent = [m.raw]
      ∧ m.type ≠ .keyUpdate ∧ (FinishedSent role turn.phase ↔ m.type = .finished) := by
  -- in each sending phase Finished has not been sent
  have hunsent : sends phase → ¬ FinishedSent role phase := by
    intro hphase
    cases role with
    | server => exact not_not_intro hphase
    | client => rintro rfl; rcases hphase with h | h | h <;> cases h
  cases hadvance with
  | certificateSent hencode =>
      obtain ⟨body, hframe⟩ := isMessage_chain hencode
      refine Or.inr ⟨hunsent (Or.inl rfl), ⟨.certificate, body, _⟩, hframe, rfl,
        (fun htype => by cases htype), ?_⟩
      cases role <;> simp only [Turn.phase] <;> split <;> simp [FinishedSent, sends]
  | signatureSent _ _ _ hencode =>
      obtain ⟨body, hframe⟩ := isMessage_verify hencode
      refine Or.inr ⟨hunsent (Or.inr (Or.inl rfl)), ⟨.certificateVerify, body, _⟩, hframe, ?_,
        (fun htype => by cases htype), ?_⟩
      · rw [History.messagesSent_cons, Context.signingEvent_sent?]
        rfl
      · cases role <;> simp [Turn.phase, FinishedSent, sends]
  | clientFinishedSent hrole hencode | serverFinishedSent hrole _ hencode
    | serverFinishedSaved hrole _ hencode =>
      subst hrole
      refine Or.inr ⟨hunsent (Or.inr (Or.inr rfl)), ⟨.finished, _, _⟩, hencode, rfl,
        (fun htype => by cases htype), ?_⟩
      simp [Turn.phase, FinishedSent, sends]
  | signatureDelayed =>
      refine Or.inl ⟨?_, Iff.rfl⟩
      rw [History.messagesSent_cons, Context.signingEvent_sent?]
      rfl
  | awaiting | done => exact Or.inl ⟨rfl, Iff.rfl⟩
  | chainAccepted | anonymousAccepted | signatureAccepted =>
      refine Or.inl ⟨rfl, ?_⟩
      cases role <;> simp [Turn.phase, FinishedSent, sends]
  | finishedAccepted | savedFinishedAccepted =>
      refine Or.inl ⟨rfl, ?_⟩
      cases role with
      | server => simp [Turn.phase, FinishedSent, sends, afterFinished]
      | client => simp only [Turn.phase, FinishedSent, afterFinished]; split <;> simp

/-- What a turn deals with: nothing, or one message of the peer's flight. None is left. -/
theorem Advance.hears_cases (hadvance : Advance role signer? phase c h turn c')
    (hmessage : c.message ≠ none → (expected? phase).isSome = true) :
    c'.message = none
    ∧ ((c.message = none ∧ (FinishedRead role turn.phase ↔ FinishedRead role phase))
      ∨ ¬ FinishedRead role phase ∧ ∃ m, c.message = some m ∧ m.type ≠ .keyUpdate
        ∧ (FinishedRead role turn.phase ↔ m.type = .finished)) := by
  have hnone : expected? phase = none → c.message = none := fun hphase =>
    Classical.byContradiction fun hsome => by
      have hexpected := hmessage hsome
      rw [hphase] at hexpected
      cases hexpected
  cases hadvance with
  | certificateSent =>
      refine ⟨hnone rfl, Or.inl ⟨hnone rfl, ?_⟩⟩
      cases role <;> simp only [Turn.phase] <;> split <;> simp [FinishedRead, expected?]
  | signatureDelayed | signatureSent | done =>
      refine ⟨hnone rfl, Or.inl ⟨hnone rfl, ?_⟩⟩
      cases role <;> simp [Turn.phase, FinishedRead, expected?]
  | clientFinishedSent hrole | serverFinishedSent hrole | serverFinishedSaved hrole =>
      subst hrole
      refine ⟨hnone rfl, Or.inl ⟨hnone rfl, ?_⟩⟩
      simp [Turn.phase, FinishedRead, expected?]
  | awaiting _ hnothing => exact ⟨hnothing, Or.inl ⟨hnothing, Iff.rfl⟩⟩
  | chainAccepted hsome htype | anonymousAccepted hsome htype | signatureAccepted hsome htype =>
      refine ⟨rfl, Or.inr ⟨?_, _, hsome, by rw [htype]; decide, ?_⟩⟩
      · cases role <;> simp [FinishedRead, expected?]
      · cases role <;> simp [Turn.phase, FinishedRead, expected?, htype]
  | finishedAccepted hsome htype | savedFinishedAccepted hsome htype =>
      refine ⟨rfl, Or.inr ⟨?_, _, hsome, by rw [htype]; decide, ?_⟩⟩
      · cases role <;> simp [FinishedRead, expected?]
      · cases role with
        | server => simp [Turn.phase, FinishedRead, afterFinished, htype]
        | client =>
            simp only [Turn.phase, FinishedRead, afterFinished]
            split <;> simp [expected?, htype]

/-- A turn that fails has sent nothing, unless a MAC could not be computed. -/
theorem Failure.messagesSent {e : Error} (hfailure : Failure role signer? phase c h e c')
    (hsucceeds : ∀ event ∈ h, event.Succeeds) : h.messagesSent = [] := by
  cases hfailure with
  | savedFinishedUncomputable =>
      exact (hsucceeds _ (List.mem_cons_of_mem _ (List.mem_cons_of_mem _ List.mem_cons_self))).elim
  | signatureFailed | signatureTooLong | signatureUnencodable | signatureUnqueued =>
      rw [History.messagesSent_cons, Context.signingEvent_sent?]
      rfl
  | _ => rfl

end Turns

/-! ## Both ends of a channel -/

section Ends

variable {σ τ : Type}

/-- An end of `role` is the sender of a channel whose receiver has or has not read Finished and whose
    receiving key is in the generation `heard`. -/
def Sends (role : Role) (read : Prop) (heard : Nat) (phase : Phase)
    (p : Endpoint (Station FinishedKeys σ τ)) : Prop :=
  ∃ ms, p.environment.socket.Sending ms
    ∧ Carries (FinishedSent role phase) read (p.environment.keys.generation .write) heard ms

/-- An end of `role` is the receiver of a channel whose sender has or has not sent Finished, has its
    sending key in the generation `written`, and has `queued` in its flight. -/
def Hears (role : Role) (sent : Prop) (written : Nat) (queued : List Message) (phase : Phase)
    (p : Endpoint (Station FinishedKeys σ τ)) : Prop :=
  ∃ streamed, p.environment.socket.incoming.stream.Holds streamed
    ∧ Carries sent (FinishedRead role phase) written (p.environment.keys.generation .read)
      (p.context.message.toList ++ streamed ++ queued)

/-- Between calls and while it waits, a receiver that has not failed has no message left to deal with,
    and it waits for one only in a phase that reads. -/
def Listens (role : Role) (sent : Prop) (written : Nat) (queued : List Message) (phase : Phase)
    (p : Endpoint (Station FinishedKeys σ τ)) : Prop :=
  p.context.wait ≠ .error → p.context.message = none
    ∧ (awaitsMessage p.context.wait → (expected? phase).isSome = true)
    ∧ Hears role sent written queued phase p

variable [SigningDevice σ] [TicketHandler τ] {role : Role} {sent read : Prop}
  {written heard : Nat} {queued : List Message} {phase phase' : Phase}
  {p q : Endpoint (Station FinishedKeys σ τ)} {h : History}

/-! ### The sender -/

/-- Nothing has been sent. -/
theorem Sends.quiet (hsends : Sends role read heard phase p)
    (hperforms : Performs p.environment h q.environment) (hsent : h.messagesSent = [])
    (hrotations : h.rotations .write = 0)
    (hphase : FinishedSent role phase' ↔ FinishedSent role phase) :
    Sends role read heard phase' q := by
  obtain ⟨ms, hsending, hcarries⟩ := hsends
  refine ⟨ms, ?_, ?_⟩
  · rw [← List.append_nil ms]
    exact sending_of_performs hperforms hsending hsent (List.forall_mem_nil _)
  · rw [generation_of_performs hperforms, hrotations]
    exact hcarries.congr hphase Iff.rfl

/-- A turn that goes on sends the flight. -/
theorem Sends.advance {turn : Turn} (hsends : Sends role read heard phase p)
    (hturn : Turns role phase p h (.ok turn) q) : Sends role read heard turn.phase q := by
  obtain ⟨hadvance, hperforms⟩ := hturn
  rcases hadvance.sends_cases with ⟨hnone, hsame⟩ | ⟨hunsent, m, hm, hone, htype, hnext⟩
  · exact hsends.quiet hperforms hnone hadvance.ofTurn.rotations hsame
  · obtain ⟨ms, hsending, hcarries⟩ := hsends
    refine ⟨ms ++ [m], sending_of_performs hperforms hsending hone (by simpa using hm), ?_⟩
    rw [generation_of_performs hperforms, hadvance.ofTurn.rotations]
    exact hcarries.sendFlight hunsent htype hnext

/-- A handshake keeps a sender one, whatever the receiver has done before. -/
theorem sends_kept (role : Role) (read : Prop) (heard : Nat) :
    Kept (ε := Station FinishedKeys σ τ) role (fun phase p _ => Sends role read heard phase p)
      (fun phase p _ => Sends role read heard phase p) where
  suspend hsends hsettled :=
    hsends.quiet hsettled.2 hsettled.1.messagesSent hsettled.1.rotations Iff.rfl
  settle hsends hsettled :=
    hsends.quiet hsettled.2 hsettled.1.messagesSent hsettled.1.rotations Iff.rfl
  next hsends hturn := hsends.advance hturn
  wait hsends hturn := hsends.advance hturn
  fail hsends hturn :=
    hsends.quiet hturn.2 (hturn.1.messagesSent (succeeds_of_performs hturn.2)) hturn.1.ofTurn.rotations
      Iff.rfl

/-! ### The receiver -/

/-- What is read is the first of the messages in the channel. -/
theorem Hears.performs (hhears : Hears role sent written queued phase p)
    (hperforms : Performs p.environment h q.environment) (hrotations : h.rotations .read = 0)
    (hmessage : q.context.message.toList = p.context.message.toList ++ h.messagesRead) :
    Hears role sent written queued phase q := by
  obtain ⟨streamed, hholds, hcarries⟩ := hhears
  obtain ⟨rest, hrest, rfl, _⟩ := reading_of_performs hperforms hholds
  refine ⟨rest, hrest, ?_⟩
  rw [generation_of_performs hperforms, hrotations, hmessage]
  rwa [← List.append_assoc] at hcarries

/-- Nothing has been read, and the end waits for what it has waited for. -/
theorem Listens.quiet (hlistens : Listens role sent written queued phase p)
    (hperforms : Performs p.environment h q.environment) (hread : h.messagesRead = [])
    (hrotations : h.rotations .read = 0) (hmessage : q.context.message = p.context.message)
    (hwait : q.context.wait = p.context.wait) : Listens role sent written queued phase q := by
  intro hlive
  rw [hwait] at hlive
  obtain ⟨hnone, hphase, hhears⟩ := hlistens hlive
  refine ⟨hmessage.trans hnone, hwait ▸ hphase, hhears.performs hperforms hrotations ?_⟩
  rw [hmessage, hread, List.append_nil]

/-- A turn that goes on has dealt with the message that was read. -/
theorem Hears.advance {turn : Turn} (hhears : Hears role sent written queued phase p)
    (hmessage : p.context.message ≠ none → (expected? phase).isSome = true)
    (hturn : Turns role phase p h (.ok turn) q) :
    q.context.message = none ∧ Hears role sent written queued turn.phase q := by
  obtain ⟨hadvance, hperforms⟩ := hturn
  obtain ⟨hnone, hcases⟩ := hadvance.hears_cases hmessage
  obtain ⟨streamed, hholds, hcarries⟩ := hhears
  obtain ⟨rest, hrest, rfl, _⟩ := reading_of_performs hperforms hholds
  rw [hadvance.ofTurn.messagesRead, List.nil_append] at hcarries
  refine ⟨hnone, rest, hrest, ?_⟩
  rw [generation_of_performs hperforms, hadvance.ofTurn.rotations, hnone]
  rcases hcases with ⟨hnothing, hsame⟩ | ⟨hunread, m, hsome, htype, hnext⟩
  · rw [hnothing] at hcarries
    exact hcarries.congr Iff.rfl hsame
  · rw [hsome] at hcarries
    exact hcarries.readFlight hunread htype hnext

/-- A handshake keeps a receiver one, whatever the sender has done before. -/
theorem hears_kept (role : Role) (sent : Prop) (written : Nat) (queued : List Message) :
    Kept (ε := Station FinishedKeys σ τ) role
      (fun phase p _ => Listens role sent written queued phase p)
      (fun phase p _ => (p.context.message ≠ none → (expected? phase).isSome = true)
        ∧ Hears role sent written queued phase p) where
  suspend := by
    intro phase p q g h outcome hlistens hsettled hwait
    rcases hsettled.1.wait_of_some with herror | ⟨hlive, hsame, hawaits⟩
    · exact absurd herror hwait
    · obtain ⟨hmessage, hphase, hhears⟩ := hlistens hlive
      refine ⟨hsame.trans hmessage, fun h => hphase (hawaits h),
        hhears.performs hsettled.2 hsettled.1.rotations ?_⟩
      rw [hsame, hsettled.1.messagesRead_of_some, List.append_nil]
  settle := by
    intro phase p q g h hlistens hsettled
    have hlive : p.context.wait ≠ .error := fun herror => by
      obtain ⟨_, hsome, _⟩ := hsettled.1.of_error herror
      cases hsome
    obtain ⟨hmessage, hphase, hhears⟩ := hlistens hlive
    rcases hsettled.1.messagesRead_of_none with ⟨hnone, hsame⟩ | ⟨m, hone, hsome, hawaits⟩
    · refine ⟨fun h => absurd (hsame.trans hmessage) h,
        hhears.performs hsettled.2 hsettled.1.rotations ?_⟩
      rw [hsame, hnone, List.append_nil]
    · refine ⟨fun _ => hphase hawaits, hhears.performs hsettled.2 hsettled.1.rotations ?_⟩
      rw [hsome, hmessage, hone]
      rfl
  next := by
    intro phase phase' p q g h hbusy hturn
    obtain ⟨hnone, hhears⟩ := hbusy.2.advance hbusy.1 hturn
    exact ⟨fun h => absurd hnone h, hhears⟩
  wait := by
    intro phase phase' p q g h wait hbusy hturn _
    obtain ⟨hnone, hhears⟩ := hbusy.2.advance hbusy.1 hturn
    exact ⟨hnone, hturn.1.waits.1, hhears⟩
  fail _ _ := fun hwait => absurd rfl hwait

end Ends

end AuthFlow

end TlsHandshake
