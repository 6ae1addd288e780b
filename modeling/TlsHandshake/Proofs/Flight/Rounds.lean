import TlsHandshake.Proofs.Flight.Listed

set_option autoImplicit false

/-! # Driving the flight

`Drives` describes a call of `drive` on the flight without its budgets: what the context waits for is
settled, turns follow until one waits or fails, and so on. Main statement: `drive_drives`, every call
is of this form, so the budgets always suffice. `Drives.preserves` is the rule by which invariants
are shown: one obligation for each way to settle a wait and for each way a turn can end. -/

namespace TlsHandshake

/-- The alert for an error of the record layer, if it has one. -/
def History.report (e : Error) : History :=
  match Engine.transportAlert? e with
  | some description => [.fatal description]
  | none => []

namespace Endpoint

/-! ## Settling -/

/-- The ways to settle a wait: the context before, the events, how the call ends if it is suspended,
    and the context after. -/
inductive Settles : Context → History → Option Outcome → Context → Prop
  | failed {c : Context} (hwait : c.wait = .error) :
      Settles c [] (some (.fatal .handshakeFailure)) c
  | flushed {c : Context} (hwait : c.wait = .flush) :
      Settles c [.flushed (.ok (.ready ()))] none c.noteFlushed
  | flushDelayed {c : Context} (hwait : c.wait = .flush ∨ c.wait = .flushAndReadMessage) :
      Settles c [.flushed (.ok .pending)] (some (.needsIo .flush)) c
  | flushFailed {c : Context} {e : Error}
      (hwait : c.wait = .flush ∨ c.wait = .flushAndReadMessage) :
      Settles c (.flushed (.error e) :: History.report e) (some (.fatal e))
        { c with wait := .error }
  | messageRead {c : Context} {m : Message} (hwait : c.wait = .readMessage) :
      Settles c [.read (.ok (.ready m))] none { c with message := some m }
  | readDelayed {c : Context} (hwait : c.wait = .readMessage) :
      Settles c [.read (.ok .pending)] (some (.needsIo .read)) c
  | readFailed {c : Context} {e : Error} (hwait : c.wait = .readMessage) :
      Settles c (.read (.error e) :: History.report e) (some (.fatal e)) { c with wait := .error }
  | flushedThenRead {c : Context} {m : Message} (hwait : c.wait = .flushAndReadMessage) :
      Settles c [.flushed (.ok (.ready ())), .flightExpected, .read (.ok (.ready m))] none
        { c.noteFlushed with wait := .readMessage, message := some m }
  | flushedThenDelayed {c : Context} (hwait : c.wait = .flushAndReadMessage) :
      Settles c [.flushed (.ok (.ready ())), .flightExpected, .read (.ok .pending)]
        (some (.needsIo .read)) { c.noteFlushed with wait := .readMessage }
  | flushedThenFailed {c : Context} {e : Error} (hwait : c.wait = .flushAndReadMessage) :
      Settles c (.flushed (.ok (.ready ())) :: .flightExpected :: .read (.error e)
        :: History.report e) (some (.fatal e)) { c.noteFlushed with wait := .error }
  | changeCipherSpecRead {c : Context} (hwait : c.wait = .readChangeCipherSpec) :
      Settles c [.readChangeCipherSpec (.ok (.ready ()))] none c
  | changeCipherSpecDelayed {c : Context} (hwait : c.wait = .readChangeCipherSpec) :
      Settles c [.readChangeCipherSpec (.ok .pending)] (some (.needsIo .changeCipherSpec)) c
  | changeCipherSpecFailed {c : Context} {e : Error} (hwait : c.wait = .readChangeCipherSpec) :
      Settles c (.readChangeCipherSpec (.error e) :: History.report e) (some (.fatal e))
        { c with wait := .error }
  | earlyDataReadable {c : Context} (hwait : c.wait = .readEndOfEarlyData)
      (hearly : c.canReadEarly = true) : Settles c [] (some .earlyReturn) c
  | earlyDataEnded {c : Context} (hwait : c.wait = .readEndOfEarlyData)
      (hearly : c.canReadEarly = false) : Settles c [] none { c with wait := .ok }
  | worked {c : Context} {work : ExternalWork} (hwait : c.wait = .external work) :
      Settles c [] (some (.needsExternal work)) { c with wait := .ok }
  | earlyDataRejected {c : Context} (hwait : c.wait = .earlyDataRejected) :
      Settles c [] (some .earlyDataRejected) { c with canWriteEarly := false }
  | idle {c : Context} (hwait : c.wait = .ok) : Settles c [] none c

section Settles

variable {c c' : Context} {h : History} {o : Option Outcome} {outcome : Outcome}

@[simp] theorem messagesRead_report (e : Error) : (History.report e).messagesRead = [] := by
  rw [History.report]
  cases Engine.transportAlert? e <;> rfl

@[simp] theorem messagesSent_report (e : Error) : (History.report e).messagesSent = [] := by
  rw [History.report]
  cases Engine.transportAlert? e <;> rfl

@[simp] theorem messagesUnsent_report (e : Error) : (History.report e).messagesUnsent = [] := by
  rw [History.report]
  cases Engine.transportAlert? e <;> rfl

@[simp] theorem macsOf_report (sender : Role) (e : Error) :
    (History.report e).macsOf sender = [] := by
  rw [History.report]
  cases Engine.transportAlert? e <;> rfl

theorem Settles.messagesSent (hsettles : Settles c h o c') : h.messagesSent = [] := by
  cases hsettles <;> first | rfl | simp [Event.sent?]

theorem Settles.messagesUnsent (hsettles : Settles c h o c') : h.messagesUnsent = [] := by
  cases hsettles <;> first | rfl | simp [Event.unsent?]

theorem Settles.macsOf (hsettles : Settles c h o c') (sender : Role) : h.macsOf sender = [] := by
  cases hsettles <;> first | rfl | simp [Event.mac?]

/-- A suspended call has read nothing. -/
theorem Settles.messagesRead_of_some (hsettles : Settles c h (some outcome) c') :
    h.messagesRead = [] := by
  generalize ho : some outcome = o at hsettles
  cases hsettles <;> cases ho <;> first | rfl | simp [Event.message?]

/-- Settling a wait reads one message if the wait is for one, and else none. -/
theorem Settles.messagesRead_of_none (hsettles : Settles c h none c') :
    (h.messagesRead = [] ∧ c'.message = c.message)
    ∨ ∃ m, h.messagesRead = [m] ∧ c'.message = some m
      ∧ (c.wait = .readMessage ∨ c.wait = .flushAndReadMessage) := by
  cases hsettles with
  | messageRead hwait => exact Or.inr ⟨_, rfl, rfl, Or.inl hwait⟩
  | flushedThenRead hwait => exact Or.inr ⟨_, rfl, rfl, Or.inr hwait⟩
  | _ => exact Or.inl ⟨rfl, rfl⟩

theorem Settles.sameFlight (hsettles : Settles c h o c') : c.SameFlight c' := by
  cases hsettles <;> exact {}

theorem Settles.wait_of_some (hsettles : Settles c h (some outcome) c') :
    c'.wait = .error ∨ c.wait ≠ .error ∧ c'.message = c.message
      ∧ (c'.wait = .readMessage ∨ c'.wait = .flushAndReadMessage →
          c.wait = .readMessage ∨ c.wait = .flushAndReadMessage) := by
  generalize ho : some outcome = o at hsettles
  cases hsettles with
  | failed hwait => exact Or.inl hwait
  | flushFailed | readFailed | flushedThenFailed | changeCipherSpecFailed => exact Or.inl rfl
  | flushDelayed hwait =>
      exact Or.inr ⟨by rcases hwait with h | h <;> rw [h] <;> nofun, rfl, fun h => h⟩
  | flushedThenDelayed hwait => exact Or.inr ⟨by rw [hwait]; nofun, rfl, fun _ => Or.inr hwait⟩
  | worked hwait =>
      exact Or.inr ⟨by rw [hwait]; nofun, rfl, fun h => by rcases h with h | h <;> cases h⟩
  | readDelayed hwait | changeCipherSpecDelayed hwait | earlyDataRejected hwait =>
      exact Or.inr ⟨by rw [hwait]; nofun, rfl, fun h => h⟩
  | earlyDataReadable hwait _ => exact Or.inr ⟨by rw [hwait]; nofun, rfl, fun h => h⟩
  | _ => cases ho

/-- A failed context is never gone on with. -/
theorem Settles.of_error (hsettles : Settles c h o c') (herror : c.wait = .error) :
    h = [] ∧ o = some (.fatal .handshakeFailure) ∧ c' = c := by
  cases hsettles with
  | failed => exact ⟨rfl, rfl, rfl⟩
  | flushDelayed hwait | flushFailed hwait =>
      rcases hwait with hwait | hwait <;> rw [hwait] at herror <;> cases herror
  | _ =>
      rw [‹c.wait = _›] at herror
      cases herror

end Settles

variable {ε α : Type} [Environment ε]

/-- Settling the wait of `p` performs the events of `h` and leaves `q`. -/
def Settled (p : Endpoint ε) (h : History) (outcome : Option Outcome) (q : Endpoint ε) : Prop :=
  Settles p.context h outcome q.context ∧ Performs p.environment h q.environment

theorem reportTransport_runs (e : Error) (p : Endpoint ε) :
    ∃ env, (Engine.reportTransport e).Runs p (History.report e) (.ok ()) ⟨p.context, env⟩ := by
  rw [Engine.reportTransport, History.report]
  cases Engine.transportAlert? e with
  | some description => exact ⟨_, rfl, _, rfl, rfl⟩
  | none => exact ⟨_, rfl, rfl⟩

/-- A poll is ready, not ready, or failed; `event` is the event of the polled operation. -/
theorem poll_cases (wait : IoWait) (act : EStateM Error ε (Awaited α))
    (onReady : α → Context → Context) (event : Except Error (Awaited α) → Event)
    (heffect : ∀ e answer e', (event answer).Effect e e' ↔ answerOf act e = (answer, e'))
    (p : Endpoint ε) :
    (∃ a env, p.poll wait act onReady = (none, ⟨onReady a p.context, env⟩)
      ∧ Performs p.environment [event (.ok (.ready a))] env)
    ∨ (∃ env, p.poll wait act onReady = (some (.needsIo wait), ⟨p.context, env⟩)
      ∧ Performs p.environment [event (.ok .pending)] env)
    ∨ ∃ e env, p.poll wait act onReady
        = (some (.fatal e), ⟨{ p.context with wait := .error }, env⟩)
      ∧ Performs p.environment (event (.error e) :: History.report e) env := by
  cases hact : act p.environment with
  | ok answer env =>
      have hevent : (event (.ok answer)).Effect p.environment env :=
        (heffect _ _ _).2 (answerOf_eq_ok_iff.2 hact)
      cases answer with
      | ready a =>
          refine Or.inl ⟨a, env, ?_, Performs.single hevent⟩
          simp only [poll, Engine.perform, hact]
      | pending =>
          refine Or.inr (Or.inl ⟨env, ?_, Performs.single hevent⟩)
          simp only [poll, Engine.perform, hact]
  | error e env =>
      have hevent : (event (.error e)).Effect p.environment env :=
        (heffect _ _ _).2 (answerOf_eq_error_iff.2 hact)
      -- before the call ends, the peer is told of the error if there is an alert for it
      obtain ⟨env', hreport, hperforms⟩ := reportTransport_runs e ⟨p.context, env⟩
      rw [answerOf_eq_ok_iff] at hreport
      refine Or.inr (Or.inr ⟨e, env', ?_, Performs.cons hevent hperforms⟩)
      simp only [poll, Engine.perform, hact, hreport]
      rfl

theorem flush_cases (p : Endpoint ε) :
    (∃ env, p.flush = (none, ⟨p.context.noteFlushed, env⟩)
      ∧ Performs p.environment [.flushed (.ok (.ready ()))] env)
    ∨ (∃ env, p.flush = (some (.needsIo .flush), ⟨p.context, env⟩)
      ∧ Performs p.environment [.flushed (.ok .pending)] env)
    ∨ ∃ e env, p.flush = (some (.fatal e), ⟨{ p.context with wait := .error }, env⟩)
      ∧ Performs p.environment (.flushed (.error e) :: History.report e) env := by
  rcases poll_cases .flush Environment.flushFlight (fun _ c => c.noteFlushed) .flushed
    (fun _ _ _ => Iff.rfl) p with ⟨_, h⟩ | h | h
  · exact Or.inl h
  · exact Or.inr (Or.inl h)
  · exact Or.inr (Or.inr h)

theorem read_cases (p : Endpoint ε) :
    (∃ m env, p.read = (none, ⟨{ p.context with message := some m }, env⟩)
      ∧ Performs p.environment [.read (.ok (.ready m))] env)
    ∨ (∃ env, p.read = (some (.needsIo .read), ⟨p.context, env⟩)
      ∧ Performs p.environment [.read (.ok .pending)] env)
    ∨ ∃ e env, p.read = (some (.fatal e), ⟨{ p.context with wait := .error }, env⟩)
      ∧ Performs p.environment (.read (.error e) :: History.report e) env :=
  poll_cases .read Environment.readMessage (fun m c => { c with message := some m }) .read
    (fun _ _ _ => Iff.rfl) p

/-- Every wait is settled in one of the ways listed. -/
theorem settle_settled (p : Endpoint ε) :
    ∃ h, Settled p h p.settle.1 p.settle.2 := by
  cases hwait : p.context.wait with
  | error =>
      rw [settle, hwait]
      exact ⟨[], .failed hwait, rfl⟩
  | flush =>
      rw [settle, hwait]
      rcases flush_cases p with ⟨env, h, hp⟩ | ⟨env, h, hp⟩ | ⟨e, env, h, hp⟩
      · exact ⟨_, by rw [h]; exact .flushed hwait, by rw [h]; exact hp⟩
      · exact ⟨_, by rw [h]; exact .flushDelayed (Or.inl hwait), by rw [h]; exact hp⟩
      · exact ⟨_, by rw [h]; exact .flushFailed (Or.inl hwait), by rw [h]; exact hp⟩
  | flushAndReadMessage =>
      rw [settle, hwait]
      rcases flush_cases p with ⟨env, h, hp⟩ | ⟨env, h, hp⟩ | ⟨e, env, h, hp⟩
      · -- the flush is ready, so the message is polled for in the same round
        simp only [h]
        have hexpect : Performs p.environment [.flushed (.ok (.ready ())), .flightExpected]
            (Environment.expectFlight env) := hp.append (Performs.single rfl)
        rcases read_cases ⟨{ p.context.noteFlushed with wait := .readMessage },
          Environment.expectFlight env⟩ with
          ⟨m, env', h', hp'⟩ | ⟨env', h', hp'⟩ | ⟨e, env', h', hp'⟩
        all_goals
          simp only [waitFor, h']
          refine ⟨_, ?_, hexpect.append hp'⟩
        · exact .flushedThenRead hwait
        · exact .flushedThenDelayed hwait
        · exact .flushedThenFailed hwait
      · exact ⟨_, by rw [h]; exact .flushDelayed (Or.inr hwait), by rw [h]; exact hp⟩
      · exact ⟨_, by rw [h]; exact .flushFailed (Or.inr hwait), by rw [h]; exact hp⟩
  | readMessage =>
      rw [settle, hwait]
      rcases read_cases p with ⟨m, env, h, hp⟩ | ⟨env, h, hp⟩ | ⟨e, env, h, hp⟩
      · exact ⟨_, by rw [h]; exact .messageRead hwait, by rw [h]; exact hp⟩
      · exact ⟨_, by rw [h]; exact .readDelayed hwait, by rw [h]; exact hp⟩
      · exact ⟨_, by rw [h]; exact .readFailed hwait, by rw [h]; exact hp⟩
  | readChangeCipherSpec =>
      rw [settle, hwait]
      rcases poll_cases .changeCipherSpec Environment.readChangeCipherSpec (fun _ c => c)
        .readChangeCipherSpec (fun _ _ _ => Iff.rfl) p with
        ⟨_, env, h, hp⟩ | ⟨env, h, hp⟩ | ⟨e, env, h, hp⟩
      · exact ⟨_, by rw [h]; exact .changeCipherSpecRead hwait, by rw [h]; exact hp⟩
      · exact ⟨_, by rw [h]; exact .changeCipherSpecDelayed hwait, by rw [h]; exact hp⟩
      · exact ⟨_, by rw [h]; exact .changeCipherSpecFailed hwait, by rw [h]; exact hp⟩
  | readEndOfEarlyData =>
      rw [settle, hwait]
      cases hearly : p.context.canReadEarly with
      | true => exact ⟨[], .earlyDataReadable hwait hearly, rfl⟩
      | false => exact ⟨[], .earlyDataEnded hwait hearly, rfl⟩
  | external work =>
      rw [settle, hwait]
      exact ⟨[], .worked hwait, rfl⟩
  | earlyDataRejected =>
      rw [settle, hwait]
      exact ⟨[], .earlyDataRejected hwait, rfl⟩
  | ok =>
      rw [settle, hwait]
      exact ⟨[], .idle hwait, rfl⟩

/-- The endpoint once its handshake has failed and the call has taken the error. -/
def failed (p : Endpoint ε) : Endpoint ε :=
  { p with context := { p.context with wait := .error, lastError := none } }

end Endpoint

namespace AuthFlow

variable {ε : Type} [Environment ε]

open Endpoint

/-! ## Runs of turns -/

/-- A turn from `p` performs the events of `h`, ends as `answer` says, and leaves `q`. -/
def Turns (role : Role) (phase : Phase) (p : Endpoint ε) (h : History)
    (answer : Except Error Turn) (q : Endpoint ε) : Prop :=
  Turned role (Environment.signer? p.environment) phase p.context h answer q.context
    ∧ Performs p.environment h q.environment

/-- Turns that each go on at once. -/
inductive Walks (role : Role) : Phase → Endpoint ε → History → Phase → Endpoint ε → Prop
  | here {phase : Phase} {p : Endpoint ε} : Walks role phase p [] phase p
  | next {phase phase' phase'' : Phase} {p q r : Endpoint ε} {g h : History}
      (hturn : Turns role phase p g (.ok (.next phase')) q)
      (hrest : Walks role phase' q h phase'' r) : Walks role phase p (g ++ h) phase'' r

/-- A call of `drive`: how it ends, the phase it leaves, and the endpoint. -/
inductive Drives (role : Role) :
    Phase → Endpoint ε → History → Outcome → Phase → Endpoint ε → Prop
  | suspended {phase : Phase} {p q : Endpoint ε} {h : History} {outcome : Outcome}
      (hsettled : Settled p h (some outcome) q) : Drives role phase p h outcome phase q
  | succeeded {phase₁ phase₂ phase₃ : Phase} {p₁ p₂ p₃ p₄ : Endpoint ε} {h₁ h₂ h₃ : History}
      (hsettled : Settled p₁ h₁ none p₂) (hwalks : Walks role phase₁ p₂ h₂ phase₂ p₃)
      (hturn : Turns role phase₂ p₃ h₃ (.ok (.wait phase₃ .ok)) p₄) :
      Drives role phase₁ p₁ (h₁ ++ h₂ ++ h₃) .success phase₃ (p₄.waitFor .ok)
  | failed {phase₁ phase₂ : Phase} {p₁ p₂ p₃ p₄ : Endpoint ε} {h₁ h₂ h₃ : History} {e : Error}
      (hsettled : Settled p₁ h₁ none p₂) (hwalks : Walks role phase₁ p₂ h₂ phase₂ p₃)
      (hturn : Turns role phase₂ p₃ h₃ (.error e) p₄) :
      Drives role phase₁ p₁ (h₁ ++ h₂ ++ h₃) (.fatal e) phase₂ p₄.failed
  | waited {phase₁ phase₂ phase₃ phase₄ : Phase} {p₁ p₂ p₃ p₄ p₅ : Endpoint ε}
      {h₁ h₂ h₃ h₄ : History} {wait : Wait} {outcome : Outcome}
      (hsettled : Settled p₁ h₁ none p₂) (hwalks : Walks role phase₁ p₂ h₂ phase₂ p₃)
      (hturn : Turns role phase₂ p₃ h₃ (.ok (.wait phase₃ wait)) p₄) (hwait : wait ≠ .ok)
      (hrest : Drives role phase₃ (p₄.waitFor wait) h₄ outcome phase₄ p₅) :
      Drives role phase₁ p₁ (h₁ ++ h₂ ++ h₃ ++ h₄) outcome phase₄ p₅

/-! ## Budgets -/

theorem rank_afterFinished_lt (role : Role) (c : Context) :
    rank role (afterFinished role c) < rank role .readFinished := by
  cases role with
  | server => exact Nat.zero_lt_one
  | client =>
      rw [afterFinished]
      split <;> decide

/-- Turns go forward in the order of the role. -/
theorem Advance.rank_lt {role : Role} {signer? : Option SignerInfo} {phase phase' : Phase}
    {c c' : Context} {h : History} (hadvance : Advance role signer? phase c h (.next phase') c') :
    rank role phase' < rank role phase := by
  generalize hturn : Turn.next phase' = turn at hadvance
  cases hadvance <;> cases hturn
  case certificateSent => cases role <;> split <;> decide
  case finishedAccepted => exact rank_afterFinished_lt role c
  case savedFinishedAccepted => exact rank_afterFinished_lt role c
  all_goals cases role <;> decide

/-- A turn never asks to wait for an error. -/
theorem Advance.wait_ne_error {role : Role} {signer? : Option SignerInfo} {phase phase' : Phase}
    {c c' : Context} {h : History} {wait : Wait}
    (hadvance : Advance role signer? phase c h (.wait phase' wait) c') : wait ≠ .error := by
  generalize hturn : Turn.wait phase' wait = turn at hadvance
  cases hadvance <;> cases hturn <;> decide

/-- Nothing is left to wait for only at the end. -/
theorem Advance.done_of_ok {role : Role} {signer? : Option SignerInfo} {phase phase' : Phase}
    {c c' : Context} {h : History} (hadvance : Advance role signer? phase c h (.wait phase' .ok) c') :
    phase' = .done := by
  generalize hturn : Turn.wait phase' .ok = turn at hadvance
  cases hadvance <;> cases hturn
  rfl

/-- How many rounds are enough for a flow that is in a phase, with or without a message. -/
def roundsLeft : Role → Phase → (hasMessage : Bool) → Nat
  | _, .done, _ => 1
  | .server, .readFinished, true => 1
  | .server, .readFinished, false => 2
  | .server, .readCertificateVerify, true => 2
  | .server, .readCertificateVerify, false => 3
  | .server, .readCertificate, true => 3
  | .server, _, _ => 4
  | .client, .readFinished, false => 3
  | .client, .readCertificateVerify, true => 3
  | .client, .readCertificateVerify, false => 4
  | .client, .readCertificate, true => 4
  | .client, .readCertificate, false => 5
  | .client, _, _ => 2

section Budgets

variable {role : Role} {signer? : Option SignerInfo} {phase phase' : Phase} {c c' : Context}
  {h : History} {wait : Wait}

theorem roundsLeft_pos (role : Role) (phase : Phase) (hasMessage : Bool) :
    1 ≤ roundsLeft role phase hasMessage := by
  cases role <;> cases phase <;> cases hasMessage <;> decide

theorem roundsLeft_le (role : Role) (phase : Phase) (hasMessage : Bool) :
    roundsLeft role phase hasMessage ≤ 5 := by
  cases role <;> cases phase <;> cases hasMessage <;> decide

theorem roundsLeft_afterFinished_le (role : Role) (c : Context) :
    roundsLeft role (afterFinished role c) false ≤ roundsLeft role .readFinished true := by
  cases role with
  | server => exact Nat.le_refl 1
  | client =>
      rw [afterFinished]
      split <;> decide

/-- Going on at once needs no more rounds than before. -/
theorem Advance.roundsLeft_next (hadvance : Advance role signer? phase c h (.next phase') c') :
    roundsLeft role phase' c'.message.isSome ≤ roundsLeft role phase c.message.isSome := by
  generalize hturn : Turn.next phase' = turn at hadvance
  cases hadvance <;> cases hturn
  case certificateSent =>
    change roundsLeft role _ c.message.isSome ≤ _
    cases role <;> cases c.message.isSome <;> split <;> decide
  case signatureSent =>
    change roundsLeft role _ c.message.isSome ≤ _
    cases role <;> cases c.message.isSome <;> decide
  all_goals rw [‹c.message = some _›]
  case chainAccepted =>
    change roundsLeft role .readCertificateVerify false ≤ roundsLeft role .readCertificate true
    cases role <;> decide
  case anonymousAccepted =>
    change roundsLeft role .readFinished false ≤ roundsLeft role .readCertificate true
    cases role <;> decide
  case signatureAccepted =>
    change roundsLeft role .readFinished false ≤ roundsLeft role .readCertificateVerify true
    cases role <;> decide
  case finishedAccepted => exact roundsLeft_afterFinished_le role c
  case savedFinishedAccepted => exact roundsLeft_afterFinished_le role c

/-- The rounds that are enough once a wait has been settled. -/
def roundsAfter (role : Role) (phase : Phase) (hasMessage : Bool) : Wait → Nat
  | .readMessage | .flushAndReadMessage => roundsLeft role phase true
  | .external _ => 1
  | _ => roundsLeft role phase hasMessage

theorem roundsAfter_pos (role : Role) (phase : Phase) (hasMessage : Bool) (wait : Wait) :
    0 < roundsAfter role phase hasMessage wait := by
  cases wait <;> first | exact roundsLeft_pos _ _ _ | exact Nat.zero_lt_one

theorem roundsAfter_le (role : Role) (phase : Phase) (hasMessage : Bool) (wait : Wait) :
    roundsAfter role phase hasMessage wait ≤ 5 := by
  cases wait <;> first | exact roundsLeft_le _ _ _ | exact Nat.le_add_left 1 4

/-- A turn that waits has used up a round. -/
theorem Advance.roundsAfter_lt (hadvance : Advance role signer? phase c h (.wait phase' wait) c')
    (hwait : wait ≠ .ok) : roundsAfter role phase' c'.message.isSome wait
      < roundsLeft role phase c.message.isSome := by
  generalize hturn : Turn.wait phase' wait = turn at hadvance
  cases hadvance <;> cases hturn
  case awaiting =>
    rw [‹c.message = none›]
    cases role <;> cases phase <;> cases ‹expected? _ = some _› <;> decide
  case done => exact absurd rfl hwait
  case signatureDelayed =>
    change roundsAfter role _ c.message.isSome _ < _
    cases role <;> cases c.message.isSome <;> decide
  case clientFinishedSent =>
    change roundsAfter role _ c.message.isSome _ < _
    cases ‹role = .client›
    cases c.message.isSome <;> decide
  all_goals
    change roundsAfter role _ c.message.isSome _ < _
    cases ‹role = .server›
    cases c.message.isSome <;> decide

/-- A wait that is settled leaves a message if it was for one. -/
theorem roundsLeft_of_settles (role : Role) (phase : Phase) (hsettles : Settles c h none c') :
    roundsLeft role phase c'.message.isSome
      ≤ roundsAfter role phase c.message.isSome c.wait := by
  cases hsettles <;> rw [‹c.wait = _›] <;> exact Nat.le_refl _

end Budgets

/-! ## Calls -/

section Calls

variable {role : Role} {phase phase' : Phase} {p q : Endpoint ε} {h : History}

/-- A walk needs no more rounds than before. -/
theorem Walks.roundsLeft_le (hwalks : Walks role phase p h phase' q) :
    roundsLeft role phase' q.context.message.isSome
      ≤ roundsLeft role phase p.context.message.isSome := by
  induction hwalks with
  | here => exact Nat.le_refl _
  | next hturn _ ih => exact Nat.le_trans ih hturn.1.roundsLeft_next

/-- A step walks as far as possible, and then a turn waits or fails. -/
theorem stepFor_walks (role : Role) (turns : Nat) (phase : Phase) (p : Endpoint ε)
    (hturns : rank role phase < turns) :
    ∃ g phase' q h answer r, Walks role phase p g phase' q ∧ Turns role phase' q h answer r
      ∧ match answer with
        | .ok (.next _) => False
        | .ok (.wait phase'' wait) => stepFor turns ⟨role, phase⟩ p = (wait, ⟨role, phase''⟩, r)
        | .error e => stepFor turns ⟨role, phase⟩ p
            = (.error, ⟨role, phase'⟩, { r with context := r.context.fail e }) := by
  induction turns generalizing phase p with
  | zero => exact absurd hturns (Nat.not_lt_zero _)
  | succ turns ih =>
      obtain ⟨h, answer, r, hruns, hturned⟩ := turn_listed ⟨role, phase⟩ p
      have hturn : Turns role phase p h answer r := ⟨hturned, hruns.2⟩
      rcases answer with e | ⟨phase'⟩ | ⟨phase', wait⟩
      · refine ⟨[], phase, p, h, .error e, r, .here, hturn, ?_⟩
        simp only [stepFor, answerOf_eq_error_iff.1 hruns.1]
      · -- the turn goes on in a later phase, for which the remaining turns are enough
        have hrank : rank role phase' < turns :=
          Nat.lt_of_lt_of_le hturn.1.rank_lt (Nat.le_of_lt_succ hturns)
        obtain ⟨g, phase'', q, h', answer, r', hwalks, hlast, hstep⟩ := ih phase' r hrank
        refine ⟨h ++ g, phase'', q, h', answer, r', .next hturn hwalks, hlast, ?_⟩
        simp only [stepFor, answerOf_eq_ok_iff.1 hruns.1]
        exact hstep
      · refine ⟨[], phase, p, h, .ok (.wait phase' wait), r, .here, hturn, ?_⟩
        simp only [stepFor, answerOf_eq_ok_iff.1 hruns.1]

/-- One round ends the call, or leaves a wait for the rounds that remain, of which fewer are
    needed. -/
theorem driveFor_round (role : Role) (rounds : Nat) (phase : Phase) (p : Endpoint ε) :
    (∃ h outcome phase' q,
      driveFor stage (rounds + 1) ⟨role, phase⟩ p = (some outcome, ⟨role, phase'⟩, q)
        ∧ Drives role phase p h outcome phase' q)
    ∨ ∃ g phase' q,
      driveFor stage (rounds + 1) ⟨role, phase⟩ p = driveFor stage rounds ⟨role, phase'⟩ q
        ∧ roundsAfter role phase' q.context.message.isSome q.context.wait
          < roundsAfter role phase p.context.message.isSome p.context.wait
        ∧ ∀ {h outcome phase'' r}, Drives role phase' q h outcome phase'' r →
          Drives role phase p (g ++ h) outcome phase'' r := by
  obtain ⟨g₁, hsettled⟩ := settle_settled p
  rcases hsettle : p.settle with ⟨_ | outcome, p₁⟩
  case some =>
    rw [hsettle] at hsettled
    refine Or.inl ⟨g₁, outcome, phase, p₁, ?_, .suspended hsettled⟩
    simp only [driveFor, hsettle]
  rw [hsettle] at hsettled
  obtain ⟨g₂, phase₂, p₂, g₃, answer, p₃, hwalks, hturn, hstep⟩ :=
    stepFor_walks role (rank role phase + 1) phase p₁ (Nat.lt_succ_self _)
  rcases answer with e | ⟨_⟩ | ⟨phase₃, wait⟩
  · refine Or.inl ⟨_, _, _, _, ?_, .failed hsettled hwalks hturn⟩
    simp only [driveFor, hsettle, stage, step, hstep]
    rfl
  · exact hstep.elim
  · by_cases hok : wait = .ok
    · subst hok
      refine Or.inl ⟨_, _, _, _, ?_, .succeeded hsettled hwalks hturn⟩
      simp only [driveFor, hsettle, stage, step, hstep]
    · -- the turn waits, and the wait is settled in the next round
      refine Or.inr ⟨_, phase₃, p₃.waitFor wait, ?_, ?_, .waited hsettled hwalks hturn hok⟩
      · have herror : wait ≠ .error := hturn.1.wait_ne_error
        simp only [driveFor, hsettle, stage, step, hstep]
      · calc roundsAfter role phase₃ p₃.context.message.isSome wait
            < roundsLeft role phase₂ p₂.context.message.isSome := hturn.1.roundsAfter_lt hok
          _ ≤ roundsLeft role phase p₁.context.message.isSome := hwalks.roundsLeft_le
          _ ≤ roundsAfter role phase p.context.message.isSome p.context.wait :=
            roundsLeft_of_settles role phase hsettled.1

/-- A call of `driveFor` that has rounds enough does not run out of them. -/
theorem driveFor_drives (role : Role) (rounds : Nat) (phase : Phase) (p : Endpoint ε)
    (hrounds : roundsAfter role phase p.context.message.isSome p.context.wait ≤ rounds) :
    ∃ h outcome phase' q,
      driveFor stage rounds ⟨role, phase⟩ p = (some outcome, ⟨role, phase'⟩, q)
      ∧ Drives role phase p h outcome phase' q := by
  induction rounds generalizing phase p with
  | zero => exact absurd hrounds (Nat.not_le_of_lt (roundsAfter_pos _ _ _ _))
  | succ rounds ih =>
      rcases driveFor_round role rounds phase p with hends | ⟨g, phase₂, q, hdrive, hlt, hextend⟩
      · exact hends
      · obtain ⟨h, outcome, phase₃, r, hrest, hdrives⟩ :=
          ih phase₂ q (Nat.le_of_lt_succ (Nat.lt_of_lt_of_le hlt hrounds))
        exact ⟨g ++ h, outcome, phase₃, r, hdrive.trans hrest, hextend hdrives⟩

/-- Every call of `drive` is a run of the flight that ends by itself; in particular its rounds
    suffice. -/
theorem drive_drives (flow : AuthFlow) (p : Endpoint ε) :
    ∃ h outcome phase q, p.drive stage flow = (outcome, ⟨flow.role, phase⟩, q)
      ∧ Drives flow.role flow.phase p h outcome phase q := by
  have hrounds : roundsAfter flow.role flow.phase p.context.message.isSome p.context.wait ≤ 6 :=
    Nat.le_trans (roundsAfter_le _ _ _ _) (by decide)
  -- a call that has its rounds does not get the default outcome
  obtain ⟨h, outcome, phase, q, hdrive, hdrives⟩ := driveFor_drives flow.role 6 flow.phase p hrounds
  refine ⟨h, outcome, phase, q, ?_, hdrives⟩
  change (match driveFor stage 6 ⟨flow.role, flow.phase⟩ p with
    | (outcome, s, p) => (outcome.getD (.fatal .handshakeFailure), s, p)) = _
  rw [hdrive]
  rfl

/-! ## Invariants -/

/-- A property of idle endpoints, between calls and while they wait, and one of busy endpoints,
    between turns, that are kept by all that a flow of `role` does. Both may refer to the history so
    far. -/
structure Kept (role : Role) (Idle Busy : Phase → Endpoint ε → History → Prop) : Prop where
  suspend {phase : Phase} {p q : Endpoint ε} {g h : History} {outcome : Outcome} :
    Idle phase p g → Settled p h (some outcome) q → Idle phase q (g ++ h)
  settle {phase : Phase} {p q : Endpoint ε} {g h : History} :
    Idle phase p g → Settled p h none q → Busy phase q (g ++ h)
  next {phase phase' : Phase} {p q : Endpoint ε} {g h : History} :
    Busy phase p g → Turns role phase p h (.ok (.next phase')) q → Busy phase' q (g ++ h)
  wait {phase phase' : Phase} {p q : Endpoint ε} {g h : History} {wait : Wait} :
    Busy phase p g → Turns role phase p h (.ok (.wait phase' wait)) q →
      Idle phase' (q.waitFor wait) (g ++ h)
  fail {phase : Phase} {p q : Endpoint ε} {g h : History} {e : Error} :
    Busy phase p g → Turns role phase p h (.error e) q → Idle phase q.failed (g ++ h)

variable {Idle Busy : Phase → Endpoint ε → History → Prop} {outcome : Outcome} {g : History}

theorem Kept.walks (hkept : Kept role Idle Busy) (hbusy : Busy phase p g)
    (hwalks : Walks role phase p h phase' q) : Busy phase' q (g ++ h) := by
  induction hwalks generalizing g with
  | here => rwa [List.append_nil]
  | next hturn _ ih =>
      rw [← List.append_assoc]
      exact ih (hkept.next hbusy hturn)

/-- What is kept by everything a flow does is kept by a call. -/
theorem Kept.drives (hkept : Kept role Idle Busy) (hidle : Idle phase p g)
    (hdrives : Drives role phase p h outcome phase' q) : Idle phase' q (g ++ h) := by
  induction hdrives generalizing g with
  | suspended hsettled => exact hkept.suspend hidle hsettled
  | succeeded hsettled hwalks hturn =>
      simp only [← List.append_assoc]
      exact hkept.wait (hkept.walks (hkept.settle hidle hsettled) hwalks) hturn
  | failed hsettled hwalks hturn =>
      simp only [← List.append_assoc]
      exact hkept.fail (hkept.walks (hkept.settle hidle hsettled) hwalks) hturn
  | waited hsettled hwalks hturn _ _ ih =>
      simp only [← List.append_assoc]
      exact ih (hkept.wait (hkept.walks (hkept.settle hidle hsettled) hwalks) hturn)

theorem Walks.performs (hwalks : Walks role phase p h phase' q) :
    Performs p.environment h q.environment := by
  induction hwalks with
  | here => exact Performs.nil _
  | next hturn _ ih => exact hturn.2.append ih

/-- A call performs the events of its history. -/
theorem Drives.performs (hdrives : Drives role phase p h outcome phase' q) :
    Performs p.environment h q.environment := by
  induction hdrives with
  | suspended hsettled => exact hsettled.2
  | succeeded hsettled hwalks hturn =>
      exact (hsettled.2.append hwalks.performs).append hturn.2
  | failed hsettled hwalks hturn =>
      exact (hsettled.2.append hwalks.performs).append hturn.2
  | waited hsettled hwalks hturn _ _ ih =>
      exact ((hsettled.2.append hwalks.performs).append hturn.2).append ih

/-- A call only succeeds at the end of the flight. -/
theorem Drives.done (hdrives : Drives role phase p h .success phase' q) :
    phase' = .done ∧ q.context.wait = .ok := by
  generalize houtcome : Outcome.success = outcome at hdrives
  induction hdrives with
  | suspended hsettled =>
      subst houtcome
      cases hsettled.1
  | succeeded _ _ hturn => exact ⟨hturn.1.done_of_ok, rfl⟩
  | failed => cases houtcome
  | waited _ _ _ _ _ ih => exact ih houtcome

end Calls

end AuthFlow

end TlsHandshake
