import TlsHandshake.Proofs.Link.Keeping

set_option autoImplicit false

/-! # Calls of an end that follows its plan

Between calls, and whenever it waits, an end that follows its plan has a certain amount of work left
(`Plan.Pauses`). Main statement: `Pauses.drives`, a call never fails, and it leaves less work, unless
flushing is blocked or the end can only wait for its peer or is done. -/

namespace TlsHandshake

open AuthFlow Endpoint

variable {σ τ : Type} [SigningDevice σ] {c c' : Context}

/-! ## Waits -/

/-- The waits that an end that follows its plan can have in a phase. -/
inductive Suits : Phase → Wait → Prop
  | ok {phase : Phase} : Suits phase .ok
  | flush : Suits .done .flush
  | readMessage {phase : Phase} (hphase : (expected? phase).isSome = true) : Suits phase .readMessage
  | flushAndReadMessage {phase : Phase} (hphase : (expected? phase).isSome = true) :
      Suits phase .flushAndReadMessage
  | signing : Suits .sendCertificateVerify (.external .privateKeyOperation)

/-- A turn waits for what suits the phase that it leaves. -/
theorem AuthFlow.Advance.suits {role : Role} {signer? : Option SignerInfo} {phase phase' : Phase}
    {g : History} {wait : Wait} (hadvance : Advance role signer? phase c g (.wait phase' wait) c') :
    Suits phase' wait := by
  generalize hturn : Turn.wait phase' wait = turn at hadvance
  cases hadvance <;> cases hturn
  case signatureDelayed => exact .signing
  case clientFinishedSent => exact .flush
  case serverFinishedSent | serverFinishedSaved => exact .flushAndReadMessage rfl
  case awaiting hphase _ => exact .readMessage (by rw [hphase]; rfl)
  case done => exact .ok

/-- What a wait adds to the work that is left: nothing once only the peer can go on. -/
def waitWork : Phase → Wait → Nat
  | _, .external _ => 2
  | _, .flush | _, .flushAndReadMessage => 1
  | .done, .ok => 0
  | _, .ok => 1
  | _, _ => 0

theorem Suits.reads {phase : Phase} (hsuits : Suits phase .readMessage) :
    (expected? phase).isSome = true := by
  cases hsuits
  assumption

theorem Suits.of_waitWork_eq_zero {phase : Phase} {wait : Wait} (hsuits : Suits phase wait)
    (hnone : waitWork phase wait = 0) :
    (expected? phase).isSome = true ∧ wait = .readMessage ∨ phase = .done ∧ wait = .ok := by
  cases hsuits with
  | ok =>
      cases phase with
      | done => exact Or.inr ⟨rfl, rfl⟩
      | _ => cases hnone
  | readMessage hphase => exact Or.inl ⟨hphase, rfl⟩
  | flush | flushAndReadMessage | signing => cases hnone

/-- Unless reading or flushing fails, a wait that cannot be settled yet stays as it is or goes on to
    the next one. -/
theorem Suits.suspend {phase : Phase} {g : History} {outcome : Outcome} (hsuits : Suits phase c.wait)
    (hsettles : Settles c g (some outcome) c') (hread : ∀ e, .read (.error e) ∉ g)
    (hflush : ∀ e, .flushed (.error e) ∉ g) :
    (∀ e, outcome ≠ .fatal e) ∧ Suits phase c'.wait ∧ c'.message = c.message
      ∧ (waitWork phase c'.wait < waitWork phase c.wait
        ∨ c' = c ∧ (g = [.flushed (.ok .pending)]
          ∨ c.wait = .readMessage ∧ g = [.read (.ok .pending)])) := by
  generalize ho : some outcome = o at hsettles
  cases hsettles <;> cases ho
  case flushDelayed => exact ⟨nofun, hsuits, rfl, Or.inr ⟨rfl, Or.inl rfl⟩⟩
  case readDelayed hwait => exact ⟨nofun, hsuits, rfl, Or.inr ⟨rfl, Or.inr ⟨hwait, rfl⟩⟩⟩
  case flushFailed => exact absurd List.mem_cons_self (hflush _)
  case readFailed => exact absurd List.mem_cons_self (hread _)
  case flushedThenFailed =>
    exact absurd (List.mem_cons_of_mem _ (List.mem_cons_of_mem _ List.mem_cons_self)) (hread _)
  case flushedThenDelayed hwait =>
    rw [hwait] at hsuits ⊢
    cases hsuits with
    | flushAndReadMessage hphase =>
        refine ⟨nofun, .readMessage hphase, rfl, Or.inl ?_⟩
        change waitWork phase .readMessage < waitWork phase .flushAndReadMessage
        cases phase <;> decide
  case worked hwait =>
    rw [hwait] at hsuits ⊢
    cases hsuits with
    | signing => exact ⟨nofun, .ok, rfl, Or.inl Nat.one_lt_two⟩
  all_goals
    rw [‹c.wait = _›] at hsuits
    cases hsuits

namespace Plan

/-- The work of a phase: the phases after it come first, and then the retries of the signer. -/
def work (plan : Plan σ) (phase : Phase) (left : Nat) : Nat :=
  (plan.retries + 1) * rank plan.start.role phase + left

theorem work_lt (plan : Plan σ) {phase phase' : Phase} (left : Nat) {left' : Nat}
    (hrank : rank plan.start.role phase' < rank plan.start.role phase)
    (hle : left' ≤ plan.retries) : plan.work phase' left' < plan.work phase left := by
  have hmul := Nat.mul_le_mul_left (plan.retries + 1) (Nat.succ_le_of_lt hrank)
  rw [Nat.mul_succ] at hmul
  unfold work
  omega

/-- An end that has kept to its plan waits, with so much work left. All that it has sent has been
    handed over, unless it waits for just that or is in the middle of sending. -/
structure Pauses (plan : Plan σ) (remaining : Nat) (phase : Phase)
    (p : Endpoint (Station FinishedKeys σ τ)) (h : History) : Prop where
  follows : ∃ left handled, plan.Follows left phase p.context p.environment h handled
    ∧ remaining = 3 * plan.work phase left + waitWork phase p.context.wait
  message : p.context.message = none
  wait : Suits phase p.context.wait
  flight : ¬ sends phase → p.context.wait ≠ .flush → p.context.wait ≠ .flushAndReadMessage →
    p.environment.socket.outbox.flight.toBytes = []

/-- An end that has kept to its plan is between turns. -/
structure Turning (plan : Plan σ) (remaining : Nat) (phase : Phase)
    (p : Endpoint (Station FinishedKeys σ τ)) (h : History) : Prop where
  follows : ∃ left handled, plan.Follows left phase p.context p.environment h handled
    ∧ remaining = plan.work phase left
  flight : ¬ sends phase → p.environment.socket.outbox.flight.toBytes = []

/-- What the peer has sent is the start of what is to be heard, and is delivered. -/
structure Listens (plan : Plan σ) (sent : List Bytes) (later : Bytes)
    (p : Endpoint (Station FinishedKeys σ τ)) (h : History) : Prop where
  planned : sent <+: plan.theirs
  delivery : Delivery sent h.messagesRead (p.environment.socket.incoming.stream.toBytes ++ later)

namespace Listens

variable {plan : Plan σ} {sent : List Bytes} {later : Bytes}
  {p q : Endpoint (Station FinishedKeys σ τ)} {g h : History}

theorem framed (hlistens : plan.Listens sent later p h) :
    ∀ m ∈ sent, ∃ type, IsMessage type m := fun m hm =>
  plan.theirs_shape.framed m (hlistens.planned.subset hm)

theorem heard (hlistens : plan.Listens sent later p h) :
    ∃ onWay, Delivery plan.theirs h.messagesRead onWay := by
  obtain ⟨rest, htheirs⟩ := hlistens.planned
  rw [← htheirs]
  exact ⟨_, hlistens.delivery.send rest⟩

variable [TicketHandler τ]

theorem performs (hlistens : plan.Listens sent later p h)
    (hperforms : Performs p.environment g q.environment) : plan.Listens sent later q (h ++ g) where
  planned := hlistens.planned
  delivery := by
    rw [History.messagesRead_append]
    exact (delivery_of_performs hperforms hlistens.delivery hlistens.framed).1

theorem not_readFailed (hlistens : plan.Listens sent later p h)
    (hperforms : Performs p.environment g q.environment) (e : Error) : .read (.error e) ∉ g :=
  (delivery_of_performs hperforms hlistens.delivery hlistens.framed).2 e

/-- Once there is no whole message to read, all that has reached the end has been read. -/
theorem read_pending {e' : Station FinishedKeys σ τ} (hlistens : plan.Listens sent later p h)
    (heffect : Event.Effect p.environment (.read (.ok .pending)) e') (hlater : later = []) :
    sent = h.messagesRead.map Message.raw := by
  have hread : answerOf Socket.readMessage p.environment.socket
    = (.ok .pending, e'.socket) := heffect.onSocket
  rcases hlistens.delivery.take? hlistens.framed with ⟨m, stream, htake, _⟩ | ⟨_, _, _, hall⟩
  · rw [answerOf, Socket.readMessage, htake] at hread
    cases hread
  · exact hall hlater

end Listens

/-! ## One round -/

section Rounds

variable {plan : Plan σ} {k b : Nat} {phase phase' : Phase} {sent : List Bytes} {later : Bytes}
  {p q : Endpoint (Station FinishedKeys σ τ)} {g h : History} {outcome : Outcome}

theorem Pauses.standing (hpauses : plan.Pauses k phase p h) :
    Standing plan.start (Planned plan.own) phase p.context h := by
  obtain ⟨⟨left, handled, hfollows, _⟩, hmessage, hwait, _⟩ := hpauses
  refine .live (fun herror => ?_) hmessage (fun hawaits => ?_) hfollows.progress
  · rw [herror] at hwait
    cases hwait
  · generalize p.context.wait = w at hwait hawaits
    cases hwait with
    | readMessage hphase | flushAndReadMessage hphase => exact hphase
    | _ => rcases hawaits with h | h <;> cases h

/-- An end waits for its peer alone if it is done or if it has read all that has reached it. -/
def Rests (sent : List Bytes) (later : Bytes) (phase : Phase)
    (p : Endpoint (Station FinishedKeys σ τ)) (h : History) : Prop :=
  phase = .done ∧ p.context.wait = .ok
    ∨ p.context.wait = .readMessage ∧ (later = [] → sent = h.messagesRead.map Message.raw)

variable [TicketHandler τ]

/-- Once it waits neither for a flush nor in the middle of sending, all that an end has sent has been
    handed over. -/
theorem Pauses.flight_of_settled {o : Option Outcome} (hpauses : plan.Pauses k phase p h)
    (hsettled : Settled p g o q) (hphase : ¬ sends phase)
    (hwait : o = none ∨ q.context.wait ≠ .flush ∧ q.context.wait ≠ .flushAndReadMessage) :
    q.environment.socket.outbox.flight.toBytes = [] := by
  obtain ⟨hsettles, hperforms⟩ := hsettled
  have hsent := hsettles.messagesSent
  -- a wait for a flush is over only once the flight has been handed over
  by_cases hflush : p.context.wait = .flush ∨ p.context.wait = .flushAndReadMessage
  · obtain ⟨answer, rest, rfl, hpending⟩ := hsettles.flushes hflush
    obtain ⟨between, heffect, hrest⟩ := hperforms
    rcases heffect.flushed with ⟨rfl, _⟩ | ⟨rfl, hempty⟩
    · obtain ⟨hsome, hsame⟩ := hpending rfl
      rw [hsame] at hwait
      rcases hwait with hnone | ⟨hne, hne'⟩
      · exact absurd hnone hsome
      · exact (hflush.elim hne hne').elim
    · exact flight_of_performs hrest hsent hempty
  · rw [not_or] at hflush
    exact flight_of_performs hperforms hsent (hpauses.flight hphase hflush.1 hflush.2)

/-- Settling a wait keeps to the plan. -/
theorem Follows.settles {left : Nat} {handled : List Message} {o : Option Outcome}
    (hfollows : plan.Follows left phase p.context p.environment h handled)
    (hlistens : plan.Listens sent later p h) (hsettled : Settled p g o q)
    (hfatal : ∀ e, o ≠ some (.fatal e))
    (hprogress : ∃ handled,
      Progress plan.start (Planned plan.own) phase q.context (h ++ g) handled) :
    ∃ handled, plan.Follows left phase q.context q.environment (h ++ g) handled := by
  obtain ⟨hsettles, hperforms⟩ := hsettled
  obtain ⟨handled', hprogress⟩ := hprogress
  exact ⟨handled', hfollows.sameFlight hsettles.sameFlight hperforms hsettles.unsigned
    (hsettles.not_alerted hfatal) hsettles.messagesSent hprogress (hlistens.performs hperforms).heard⟩

omit [TicketHandler τ] in
/-- What an end waits for makes no difference to where it is. -/
theorem Follows.waitFor [TicketHandler τ] {left : Nat} {handled : List Message}
    {e : Station FinishedKeys σ τ} (hfollows : plan.Follows left phase c e h handled) (wait : Wait) :
    plan.Follows left phase { c with wait := wait } e h handled := by
  have hsame : c.SameFlight { c with wait := wait } := {}
  have hread : (h ++ []).messagesRead = handled ++ c.message.toList := by
    rw [List.append_nil, hfollows.progress.read]
  have hheard : ∃ onWay, Delivery plan.theirs (h ++ []).messagesRead onWay := by
    rw [List.append_nil]
    exact hfollows.heard
  have hprogress := hfollows.progress.sameFlight hsame hread hfollows.progress.message rfl rfl
    fun _ => rfl
  have hnext := hfollows.sameFlight (g := []) hsame (Performs.nil e) (fun _ => nofun) nofun rfl
    hprogress hheard
  rwa [List.append_nil] at hnext

/-- A wait that is settled leaves less work, unless it was for a message or there is no more to do. -/
theorem Pauses.settle (hpauses : plan.Pauses k phase p h) (hlistens : plan.Listens sent later p h)
    (hsettled : Settled p g none q) :
    ∃ b, plan.Turning b phase q (h ++ g) ∧ 3 * b ≤ k ∧ (3 * b = k →
      (expected? phase).isSome = true ∧ q.context.message.isSome = true
        ∨ phase = .done ∧ p.context.wait = .ok) := by
  obtain ⟨left, handled, hfollows, rfl⟩ := hpauses.follows
  obtain ⟨handled', hnext⟩ := hfollows.settles hlistens hsettled nofun
    (hpauses.standing.settle hsettled.1)
  refine ⟨plan.work phase left, ⟨⟨left, handled', hnext, rfl⟩, fun hphase =>
    hpauses.flight_of_settled hsettled hphase (Or.inl rfl)⟩, Nat.le_add_right _ _, fun heq => ?_⟩
  have hnone : waitWork phase p.context.wait = 0 := by omega
  rcases hpauses.wait.of_waitWork_eq_zero hnone with ⟨hphase, hwait⟩ | hdone
  · exact Or.inl ⟨hphase, hsettled.1.message_isSome hwait⟩
  · exact Or.inr hdone

/-- A wait that cannot be settled yet leaves less work, unless flushing is blocked or the end
    rests. -/
theorem Pauses.suspend (hpauses : plan.Pauses k phase p h)
    (hlistens : plan.Listens sent later p h) (hsettled : Settled p g (some outcome) q) :
    (∀ e, outcome ≠ .fatal e) ∧ ∃ k', plan.Pauses k' phase q (h ++ g) ∧ k' ≤ k ∧ (k' = k →
      p.environment.socket.outbox.blocked = true
      ∨ Rests sent later phase p h ∧ Rests sent later phase q (h ++ g)) := by
  obtain ⟨left, handled, hfollows, rfl⟩ := hpauses.follows
  have hstanding := hpauses.standing.suspend hsettled.1
  have hflush : ∀ e, .flushed (.error e) ∉ g := fun e hmem => by
    obtain ⟨_, _, heffect⟩ := hsettled.2.effect_of_mem hmem
    rcases heffect.flushed with ⟨h, _⟩ | ⟨h, _⟩ <;> cases h
  obtain ⟨hfatal, hsuits, hmessage, hcases⟩ :=
    hpauses.wait.suspend hsettled.1 (hlistens.not_readFailed hsettled.2) hflush
  have hprogress : ∃ handled,
      Progress plan.start (Planned plan.own) phase q.context (h ++ g) handled := by
    cases hstanding with
    | failed hwait =>
        rw [hwait] at hsuits
        cases hsuits
    | live _ _ _ hprogress => exact ⟨_, hprogress⟩
  obtain ⟨handled', hnext⟩ :=
    hfollows.settles hlistens hsettled (fun e h => hfatal e (Option.some.inj h)) hprogress
  refine ⟨hfatal, _, ⟨⟨left, handled', hnext, rfl⟩, hmessage.trans hpauses.message, hsuits,
    fun hphase hne hne' => hpauses.flight_of_settled hsettled hphase (Or.inr ⟨hne, hne'⟩)⟩, ?_⟩
  -- only a blocked flush and a read without a whole message leave everything as it was
  rcases hcases with hlt | ⟨hsame, rfl | ⟨hwait, rfl⟩⟩
  · exact ⟨by omega, fun heq => by omega⟩
  · refine ⟨Nat.le_of_eq (by rw [hsame]), fun _ => Or.inl ?_⟩
    obtain ⟨_, heffect, _⟩ := hsettled.2
    rcases heffect.flushed with ⟨_, hblocked⟩ | ⟨h, _⟩
    · exact hblocked
    · cases h
  · obtain ⟨_, heffect, _⟩ := hsettled.2
    have hall := hlistens.read_pending heffect
    refine ⟨Nat.le_of_eq (by rw [hsame]), fun _ =>
      Or.inr ⟨Or.inr ⟨hwait, hall⟩, Or.inr ⟨by rw [hsame, hwait], fun hlater => ?_⟩⟩⟩
    rw [hall hlater, History.messagesRead_append]
    exact congrArg _ (List.append_nil _).symm

/-! ## Turns -/

theorem Turning.not_failed {e : Error} (hturning : plan.Turning b phase p h) :
    ¬ Turns plan.start.role phase p g (.error e) q := by
  obtain ⟨left, handled, hfollows, _⟩ := hturning.follows
  exact hfollows.not_failure

/-- A turn that goes on at once leaves less work. -/
theorem Turning.next (hturning : plan.Turning b phase p h)
    (hturn : Turns plan.start.role phase p g (.ok (.next phase')) q) :
    ∃ b' < b, plan.Turning b' phase' q (h ++ g) := by
  obtain ⟨⟨left, handled, hfollows, rfl⟩, hflight⟩ := hturning
  obtain ⟨left', handled', hnext, _⟩ := hfollows.advance hturn.1 hturn.2
  refine ⟨_, plan.work_lt left hturn.1.rank_lt hnext.left_le, ⟨left', handled', hnext, rfl⟩,
    fun hphase => ?_⟩
  have hbefore : ¬ sends phase := fun h => hphase (hturn.1.sends_next h)
  exact flight_of_performs hturn.2 (hturn.1.ofTurn.messagesSent hbefore) (hflight hbefore)

/-- A turn that waits leaves less work, unless there was no message to deal with or no more to do. -/
theorem Turning.wait {wait : Wait} (hturning : plan.Turning b phase p h)
    (hturn : Turns plan.start.role phase p g (.ok (.wait phase' wait)) q) :
    ∃ k, plan.Pauses k phase' (q.waitFor wait) (h ++ g) ∧ k ≤ 3 * b ∧ (k = 3 * b →
      (expected? phase).isSome = true ∧ p.context.message = none
        ∨ phase = .done ∧ wait = .ok) := by
  obtain ⟨⟨left, handled, hfollows, rfl⟩, hflight⟩ := hturning
  obtain ⟨left', handled', hnext, hretry⟩ := hfollows.advance hturn.1 hturn.2
  have hmessage := hfollows.progress.message_of_wait hturn.1
  have hpauses : plan.Pauses (3 * plan.work phase' left' + waitWork phase' wait) phase'
      (q.waitFor wait) (h ++ g) := by
    refine ⟨⟨left', handled', hnext.waitFor wait, rfl⟩, hmessage, hturn.1.suits,
      fun hphase hne hne' => ?_⟩
    have hsame : phase' = phase := by
      rcases hturn.1.wait_cases with ⟨_, hsame, _⟩ | ⟨_, hflush⟩ | ⟨hsame, _⟩ | ⟨hsame, _⟩
      · exact hsame
      · exact (hflush.elim hne hne').elim
      · exact hsame
      · exact hsame
    rw [hsame] at hphase
    exact flight_of_performs hturn.2 (hturn.1.ofTurn.messagesSent hphase) (hflight hphase)
  refine ⟨_, hpauses, ?_⟩
  -- while it signs, a retry is used up; a flush comes after the flight; else nothing was done
  rcases hturn.1.wait_cases with ⟨hphase, rfl, rfl⟩ | ⟨hrank, hwait⟩ | ⟨rfl, hreads, hnone, rfl⟩
    | ⟨rfl, hphase, rfl⟩
  · have hlt : left' < left := hretry hphase hphase
    have hwork : plan.work phase' left' + 1 ≤ plan.work phase' left := by
      unfold work
      omega
    have htwo : waitWork phase' (.external .privateKeyOperation) = 2 := rfl
    exact ⟨by omega, fun heq => by omega⟩
  · have hlt := plan.work_lt left hrank hnext.left_le
    have hone : waitWork phase' wait ≤ 1 := by
      rcases hwait with rfl | rfl <;> cases phase' <;> exact Nat.le_refl 1
    exact ⟨by omega, fun heq => by omega⟩
  · have hne : phase' ≠ .sendCertificateVerify := fun h => by
      rw [h] at hreads
      cases hreads
    have hzero : waitWork phase' .readMessage = 0 := by cases phase' <;> rfl
    rw [hfollows.left_eq hne, hnext.left_eq hne, hzero]
    exact ⟨Nat.le_refl _, fun _ => Or.inl ⟨hreads, hnone⟩⟩
  · subst hphase
    rw [hfollows.left_eq nofun, hnext.left_eq nofun]
    exact ⟨Nat.le_refl _, fun _ => Or.inr ⟨rfl, rfl⟩⟩

/-! ## Calls -/

/-- Turns that each go on at once leave less work. -/
theorem Turning.walks (hturning : plan.Turning b phase p h)
    (hwalks : Walks plan.start.role phase p g phase' q) :
    ∃ b' ≤ b, plan.Turning b' phase' q (h ++ g)
      ∧ (b' = b → phase' = phase ∧ q = p) := by
  induction hwalks generalizing b h with
  | here =>
      rw [List.append_nil]
      exact ⟨b, Nat.le_refl b, hturning, fun _ => ⟨rfl, rfl⟩⟩
  | next hturn _ ih =>
      obtain ⟨b₁, hlt, hnext⟩ := hturning.next hturn
      obtain ⟨b₂, hle, hrest, _⟩ := ih hnext
      rw [← List.append_assoc]
      exact ⟨b₂, by omega, hrest, fun heq => by omega⟩

/-- A round that has been settled leaves less work once it waits again, unless the handshake was done
    before. -/
theorem Pauses.round {p₁ p₂ p₃ : Endpoint (Station FinishedKeys σ τ)} {g₁ g₂ g₃ : History}
    {phase₁ phase₂ : Phase} {wait : Wait}
    (hpauses : plan.Pauses k phase p h) (hlistens : plan.Listens sent later p h)
    (hsettled : Settled p g₁ none p₁) (hwalks : Walks plan.start.role phase p₁ g₂ phase₁ p₂)
    (hturn : Turns plan.start.role phase₁ p₂ g₃ (.ok (.wait phase₂ wait)) p₃) :
    ∃ k' ≤ k, plan.Pauses k' phase₂ (p₃.waitFor wait) (h ++ (g₁ ++ g₂ ++ g₃))
      ∧ (k' = k → phase = .done ∧ p.context.wait = .ok ∧ wait = .ok) := by
  obtain ⟨b, hturning, hle, hsettles⟩ := hpauses.settle hlistens hsettled
  obtain ⟨b₁, hle₁, hturning₁, hstays⟩ := hturning.walks hwalks
  obtain ⟨k', hpauses', hle', hwaits⟩ := hturning₁.wait hturn
  simp only [← List.append_assoc]
  -- if no work was done, no turn went on, and then a message was read that no turn has dealt with
  refine ⟨k', by omega, hpauses', fun heq => ?_⟩
  obtain ⟨rfl, rfl⟩ := hstays (by omega)
  rcases hsettles (by omega) with ⟨hreads, hsome⟩ | ⟨rfl, hwait⟩
  · rcases hwaits (by omega) with ⟨_, hnone⟩ | ⟨hdone, _⟩
    · rw [hnone] at hsome
      cases hsome
    · rw [hdone] at hreads
      cases hreads
  · rcases hwaits (by omega) with ⟨hreads, _⟩ | ⟨_, hwait'⟩
    · cases hreads
    · exact ⟨rfl, hwait, hwait'⟩

/-- A call does not fail, and it leaves less work, unless flushing is blocked or the end rests. -/
theorem Pauses.drives (hpauses : plan.Pauses k phase p h)
    (hlistens : plan.Listens sent later p h)
    (hdrives : Drives plan.start.role phase p g outcome phase' q) :
    (∀ e, outcome ≠ .fatal e) ∧ ∃ k' ≤ k, plan.Pauses k' phase' q (h ++ g) ∧ (k' = k →
      p.environment.socket.outbox.blocked = true
      ∨ Rests sent later phase p h ∧ Rests sent later phase' q (h ++ g)) := by
  induction hdrives generalizing k h with
  | suspended hsettled =>
      obtain ⟨hfatal, k', hpauses', hle, heq⟩ := hpauses.suspend hlistens hsettled
      exact ⟨hfatal, k', hle, hpauses', heq⟩
  | succeeded hsettled hwalks hturn =>
      obtain ⟨k', hle, hpauses', heq⟩ := hpauses.round hlistens hsettled hwalks hturn
      refine ⟨nofun, k', hle, hpauses', fun h => Or.inr ?_⟩
      obtain ⟨hphase, hwait, _⟩ := heq h
      exact ⟨Or.inl ⟨hphase, hwait⟩, Or.inl ⟨hturn.1.done_of_ok, rfl⟩⟩
  | failed hsettled hwalks hturn =>
      obtain ⟨b, hturning, _, _⟩ := hpauses.settle hlistens hsettled
      obtain ⟨b', _, hturning', _⟩ := hturning.walks hwalks
      exact absurd hturn hturning'.not_failed
  | waited hsettled hwalks hturn hwait _ ih =>
      obtain ⟨k₁, hle, hpauses₁, heq⟩ := hpauses.round hlistens hsettled hwalks hturn
      have hperforms := (hsettled.2.append hwalks.performs).append hturn.2
      obtain ⟨hfatal, k₂, hle', hpauses₂, _⟩ := ih hpauses₁ (hlistens.performs hperforms)
      rw [← List.append_assoc]
      exact ⟨hfatal, k₂, by omega, hpauses₂, fun h => absurd (heq (by omega)).2.2 hwait⟩

/-! ## Between calls -/

/-- A flush between calls does no work. -/
theorem Pauses.flushed {answer : Except Error (Awaited Unit)} {context : Context}
    {e : Station FinishedKeys σ τ} (hpauses : plan.Pauses k phase p h)
    (hperforms : Performs p.environment [.flushed answer] e)
    (hcontext : context = p.context ∨ context = p.context.noteFlushed) :
    plan.Pauses k phase ⟨context, e⟩ (h ++ [.flushed answer]) := by
  obtain ⟨⟨left, handled, hfollows, rfl⟩, hmessage, hwait, hflight⟩ := hpauses
  have hsame : p.context.SameFlight context := by rcases hcontext with rfl | rfl <;> exact {}
  have hkept : context.wait = p.context.wait ∧ context.message = p.context.message := by
    rcases hcontext with rfl | rfl <;> exact ⟨rfl, rfl⟩
  have hread : (h ++ [Event.flushed answer]).messagesRead = h.messagesRead := by
    rw [History.messagesRead_append]
    exact List.append_nil _
  have hprogress := hfollows.progress.sameFlight (g := [Event.flushed answer]) hsame
    (by rw [hread, hkept.2, hfollows.progress.read]) (hkept.2 ▸ hfollows.progress.message) rfl rfl
    fun _ => rfl
  have hnext := hfollows.sameFlight hsame hperforms (by simp [Event.IsSigning]) (by simp) rfl
    hprogress (hread.symm ▸ hfollows.heard)
  refine ⟨⟨left, handled, hnext, by rw [hkept.1]⟩, hkept.2.trans hmessage, hkept.1 ▸ hwait, ?_⟩
  intro hphase hne hne'
  rw [hkept.1] at hne hne'
  exact flight_of_performs hperforms rfl (hflight hphase hne hne')

omit [TicketHandler τ] in
/-- What happens to the other end makes no difference. -/
theorem Pauses.withSocket {s : Socket} (hpauses : plan.Pauses k phase p h)
    (hflight : s.outbox.flight = p.environment.socket.outbox.flight) :
    plan.Pauses k phase ⟨p.context, OnLink.withSocket s p.environment⟩ h := by
  obtain ⟨⟨left, handled, hfollows, rfl⟩, hmessage, hwait, hempty⟩ := hpauses
  have hmoved : plan.Follows left phase p.context (OnLink.withSocket s p.environment) h handled :=
    { hfollows with }
  refine ⟨⟨left, handled, hmoved, rfl⟩, hmessage, hwait, fun hphase hne hne' => ?_⟩
  change s.outbox.flight.toBytes = []
  rw [hflight]
  exact hempty hphase hne hne'

end Rounds

end Plan

end TlsHandshake
