import TlsHandshake.Proofs.Alerts
import TlsHandshake.Proofs.Flight.Log

set_option autoImplicit false

/-! # The handshake calls of a run

Among the calls on a connection only those of `handshake` go on with the flight. The others may come
at any time and leave the flight where it is (`Called.rests`). Main statement:
`Connection.Fresh.rested`, whatever all that a flight does keeps to (`AuthFlow.Invariant`) holds
after every run, of the history of its handshake calls. -/

namespace TlsHandshake

/-! ## The other calls -/

/-- What a call other than `handshake` leaves of a context: the flight is where it was, the message
    pending is the same or there is none any more, and what is waited for is the same, unless the
    call has failed or a rejection of early data has been taken note of. -/
structure Context.Rests (c c' : Context) : Prop where
  same : c.SameFlight c' := by exact {}
  message : c'.message = c.message ∨ c'.message = none := by exact Or.inl rfl
  wait : c'.wait = c.wait ∨ c'.wait = .error ∨ c.wait = .earlyDataRejected ∧ c'.wait = .ok := by
    exact Or.inl rfl

/-- A call that is suspended without failing leaves a context that has not failed. -/
theorem Endpoint.Settles.wait_ne_error {c c' : Context} {h : History} {outcome : Outcome}
    (hsettles : Settles c h (some outcome) c') (hfatal : ∀ e, outcome ≠ .fatal e) :
    c'.wait ≠ .error := by
  generalize ho : some outcome = o at hsettles
  cases hsettles with
  | failed | flushFailed | readFailed | flushedThenFailed | changeCipherSpecFailed =>
      exact absurd (Option.some.inj ho) (hfatal _)
  | flushDelayed hwait => rcases hwait with h | h <;> rw [h] <;> nofun
  | flushedThenDelayed | worked => nofun
  | readDelayed hwait | changeCipherSpecDelayed hwait | earlyDataRejected hwait
  | earlyDataReadable hwait => exact fun herror => nomatch hwait.symm.trans herror
  | _ => cases ho

namespace AuthFlow

open Endpoint

/-! ## Invariants of the handshake calls -/

/-- What is known of a flight besides its log: `Live` between calls, `Busy` between turns, and `Over`
    once it has failed. All that a flight does keeps to it, and so do the calls that leave the flight
    where it is. -/
structure Invariant (c₀ : Context) (Live Busy : Phase → Context → History → Prop)
    (Over : Session → History → Prop) : Prop where
  ended {phase : Phase} {c : Context} {h : History} :
    Paused c₀ phase c h → Live phase c h → Over c.session h
  rests {phase : Phase} {c c' : Context} {h : History} :
    Paused c₀ phase c h → Live phase c h → c.Rests c' → c'.wait ≠ .error → Live phase c' h
  suspend {phase : Phase} {c c' : Context} {g h : History} {outcome : Outcome} :
    Paused c₀ phase c h → Live phase c h → Settles c g (some outcome) c' →
      Over c'.session (h ++ g) ∧ (c'.wait ≠ .error → Live phase c' (h ++ g))
  settle {phase : Phase} {c c' : Context} {g h : History} :
    Paused c₀ phase c h → Live phase c h → Settles c g none c' → Busy phase c' (h ++ g)
  next {phase phase' : Phase} {c c' : Context} {g h : History} {signer? : Option SignerInfo} :
    Logged c₀ phase c h → Busy phase c h → Advance c₀.role signer? phase c g (.next phase') c' →
      Busy phase' c' (h ++ g)
  wait {phase phase' : Phase} {c c' : Context} {g h : History} {signer? : Option SignerInfo}
    {wait : Wait} :
    Logged c₀ phase c h → Busy phase c h →
      Advance c₀.role signer? phase c g (.wait phase' wait) c' →
      Live phase' { c' with wait := wait } (h ++ g)
  fail {phase : Phase} {c c' : Context} {g h : History} {signer? : Option SignerInfo} {e : Error} :
    Logged c₀ phase c h → Busy phase c h → Failure c₀.role signer? phase c g e c' →
      Over c'.session (h ++ g)

/-- What an invariant says between calls. -/
inductive Rested (c₀ : Context) (Live : Phase → Context → History → Prop)
    (Over : Session → History → Prop) (phase : Phase) (c : Context) (h : History) : Prop
  | failed (hwait : c.wait = .error) (hover : Over c.session h)
  | live (hwait : c.wait ≠ .error) (hpaused : Paused c₀ phase c h) (hlive : Live phase c h)

section Invariant

variable {c₀ c c' : Context} {Live Busy : Phase → Context → History → Prop}
  {Over : Session → History → Prop} {phase : Phase} {h : History}

theorem Rested.ended (hrested : Rested c₀ Live Over phase c h)
    (hinvariant : Invariant c₀ Live Busy Over) : Over c.session h := by
  cases hrested with
  | failed _ hover => exact hover
  | live _ hpaused hlive => exact hinvariant.ended hpaused hlive

theorem Rested.rests (hrested : Rested c₀ Live Over phase c h)
    (hinvariant : Invariant c₀ Live Busy Over) (hrests : c.Rests c') :
    Rested c₀ Live Over phase c' h := by
  have hover := hrested.ended hinvariant
  rw [← hrests.same.session] at hover
  by_cases hwait' : c'.wait = .error
  · exact .failed hwait' hover
  cases hrested with
  | failed hwait =>
      rcases hrests.wait with hsame | herror | ⟨hrejected, _⟩
      · exact absurd (hsame.trans hwait) hwait'
      · exact absurd herror hwait'
      · rw [hwait] at hrejected
        cases hrejected
  | live _ hpaused hlive =>
      have hnone : c'.message = none := by
        rcases hrests.message with hsame | hnone
        · exact hsame.trans hpaused.settled
        · exact hnone
      have hlogged := hpaused.quiet (g := []) hrests.same rfl hpaused.settled hnone
      rw [List.append_nil] at hlogged
      refine .live hwait' { hlogged with settled := hnone, awaits := fun hawaits => ?_ }
        (hinvariant.rests hpaused hlive hrests hwait')
      rcases hrests.wait with hsame | herror | ⟨_, hok⟩
      · exact hpaused.awaits (hsame ▸ hawaits)
      · exact absurd herror hwait'
      · rw [hok] at hawaits
        rcases hawaits with h | h <;> cases h

/-- An invariant is kept by the calls of `handshake`. -/
theorem Invariant.kept {ε : Type} [Environment ε] (hinvariant : Invariant c₀ Live Busy Over) :
    Kept (ε := ε) c₀.role (fun phase p h => Rested c₀ Live Over phase p.context h)
      (fun phase p h => Logged c₀ phase p.context h ∧ Busy phase p.context h) where
  suspend := by
    intro phase p q g h outcome hrested hsettled
    cases hrested with
    | failed hwait hover =>
        obtain ⟨rfl, _, hcontext⟩ := hsettled.1.of_error hwait
        rw [List.append_nil, hcontext]
        exact .failed hwait hover
    | live _ hpaused hlive =>
        obtain ⟨hover, hlive'⟩ := hinvariant.suspend hpaused hlive hsettled.1
        by_cases hwait : q.context.wait = .error
        · exact .failed hwait hover
        · exact .live hwait (hpaused.suspend hsettled.1 hwait) (hlive' hwait)
  settle := by
    intro phase p q g h hrested hsettled
    cases hrested with
    | failed hwait =>
        obtain ⟨_, houtcome, _⟩ := hsettled.1.of_error hwait
        cases houtcome
    | live _ hpaused hlive =>
        exact ⟨hpaused.settle hsettled.1, hinvariant.settle hpaused hlive hsettled.1⟩
  next := by
    rintro phase phase' p q g h ⟨hlogged, hbusy⟩ hturn
    exact ⟨(hlogged.advance hturn.1).1, hinvariant.next hlogged hbusy hturn.1⟩
  wait := by
    rintro phase phase' p q g h wait ⟨hlogged, hbusy⟩ hturn
    exact .live hturn.1.wait_ne_error (hlogged.pause hturn.1)
      (hinvariant.wait hlogged hbusy hturn.1)
  fail := by
    rintro phase p q g h e ⟨hlogged, hbusy⟩ hturn
    have hover : Over q.context.session (g ++ h) := hinvariant.fail hlogged hbusy hturn.1
    exact .failed rfl hover

end Invariant

/-- A call that does not fail leaves a context that has not failed. -/
theorem Drives.wait_ne_error {ε : Type} [Environment ε] {role : Role} {phase phase' : Phase}
    {p q : Endpoint ε} {h : History} {outcome : Outcome}
    (hdrives : Drives role phase p h outcome phase' q) (hfatal : ∀ e, outcome ≠ .fatal e) :
    q.context.wait ≠ .error := by
  induction hdrives with
  | suspended hsettled => exact hsettled.1.wait_ne_error hfatal
  | succeeded => exact nofun
  | failed => exact absurd rfl (hfatal _)
  | waited _ _ _ _ _ ih => exact ih hfatal

end AuthFlow

namespace Connection

open AuthFlow Endpoint

variable {ε : Type} [Environment ε]

/-- The other calls leave the flight where it is. -/
theorem Called.rests {c c' : Connection ε} {call : Call} {h : History} {answer : Answer}
    (hcalled : Called c call h answer c') (hcall : call ≠ .handshake) :
    c'.flow = c.flow ∧ c.endpoint.context.Rests c'.endpoint.context := by
  cases hcalled with
  | handshake => exact absurd rfl hcall
  | processed _ _ hprocessed =>
      refine ⟨rfl, ?_⟩
      cases hprocessed with
      | delayed => exact {}
      | unread => exact { wait := Or.inr (Or.inl rfl) }
      | handled _ hhandled =>
          obtain ⟨count, pending, hcontext⟩ := hhandled.1.context
          rw [clear, hcontext]
          exact { message := Or.inr rfl }
      | refused _ hhandled =>
          obtain ⟨count, pending, hcontext⟩ := hhandled.1.context
          rw [waitFor, clear, hcontext]
          exact { message := Or.inr rfl, wait := Or.inr (Or.inl rfl) }
  | keyUpdateStarted _ hstarted =>
      obtain ⟨pending, hcontext⟩ := hstarted.1.context
      rw [hcontext]
      exact ⟨rfl, {}⟩
  | earlyDataReset hwait => exact ⟨rfl, { wait := Or.inr (Or.inr ⟨hwait, rfl⟩) }⟩
  | flushed | flushDelayed | flushFailed => exact ⟨rfl, {}⟩
  | postHandshakeTooEarly | keyUpdateTooEarly | earlyDataNotRejected => exact ⟨rfl, {}⟩

/-! ## Runs -/

/-- What a connection does to its surroundings during the handshake calls among `calls`. -/
def handshakeHistory (c : Connection ε) : List Call → History
  | [] => []
  | call :: calls =>
      (if call = .handshake then c.history [call] else [])
        ++ handshakeHistory (c.call call).2 calls

theorem handshakeHistory_append (c : Connection ε) (calls calls' : List Call) :
    c.handshakeHistory (calls ++ calls')
      = c.handshakeHistory calls ++ (c.run calls).2.handshakeHistory calls' := by
  induction calls generalizing c with
  | nil => rfl
  | cons call calls ih =>
      rw [List.cons_append, handshakeHistory, handshakeHistory, ih, List.append_assoc]
      rfl

/-- The events of a call, if it is one of `handshake`. -/
theorem handshakeHistory_singleton (c : Connection ε) (call : Call) :
    c.handshakeHistory [call] = if call = .handshake then c.history [call] else [] := by
  rw [handshakeHistory, handshakeHistory, List.append_nil]

/-- A call of `handshake` that does not fail leaves a context that has not failed. -/
theorem handshake_wait_ne_error (c : Connection ε) (hfatal : ∀ e, c.handshake.1 ≠ .fatal e) :
    c.handshake.2.endpoint.context.wait ≠ .error := by
  obtain ⟨h, hcalled⟩ := handshake_called c
  generalize c.handshake.1 = outcome at hcalled hfatal
  generalize c.handshake.2 = c' at hcalled
  cases hcalled with
  | handshake hdrives => exact hdrives.wait_ne_error hfatal

section Invariant

variable {c₀ : Context} {Live Busy : Phase → Context → History → Prop}
  {Over : Session → History → Prop} {c : Connection ε} {g : History}

theorem rested_call (hinvariant : Invariant c₀ Live Busy Over) (hrole : c.flow.role = c₀.role)
    (hrested : Rested c₀ Live Over c.flow.phase c.endpoint.context g) (call : Call) :
    (c.call call).2.flow.role = c₀.role
    ∧ Rested c₀ Live Over (c.call call).2.flow.phase (c.call call).2.endpoint.context
      (g ++ c.handshakeHistory [call]) := by
  obtain ⟨c', hcalled, hafter⟩ := history_called c call
  rw [handshakeHistory_singleton, hafter]
  by_cases hcall : call = .handshake
  · subst hcall
    rw [if_pos rfl]
    cases hcalled with
    | handshake hdrives =>
        have hrole' : c.recorded.flow.role = c₀.role := hrole
        rw [hrole'] at hdrives
        exact ⟨hrole, hinvariant.kept.drives (p := c.recorded.endpoint) hrested hdrives⟩
  · rw [if_neg hcall, List.append_nil]
    obtain ⟨hflow, hrests⟩ := hcalled.rests hcall
    change c'.flow.role = c₀.role ∧ Rested c₀ Live Over c'.flow.phase c'.endpoint.context g
    rw [hflow]
    exact ⟨hrole, hrested.rests hinvariant hrests⟩

/-- What all that a flight does keeps to holds after every run. -/
theorem rested_run (hinvariant : Invariant c₀ Live Busy Over) (hrole : c.flow.role = c₀.role)
    (hrested : Rested c₀ Live Over c.flow.phase c.endpoint.context g) (calls : List Call) :
    Rested c₀ Live Over (c.run calls).2.flow.phase (c.run calls).2.endpoint.context
      (g ++ c.handshakeHistory calls) := by
  induction calls generalizing c g with
  | nil =>
      rw [handshakeHistory, List.append_nil]
      exact hrested
  | cons call calls ih =>
      obtain ⟨hrole', hrested'⟩ := rested_call hinvariant hrole hrested call
      rw [← List.singleton_append, handshakeHistory_append, ← List.append_assoc]
      exact ih hrole' hrested'

omit [Environment ε] in
/-- A connection that is set up has logged nothing. -/
theorem Fresh.paused (hfresh : c.Fresh) :
    Paused c.endpoint.context c.flow.phase c.endpoint.context [] where
  settings := .refl _
  transcript := by
    rw [hfresh.message]
    rfl
  pending := by
    intro m hsome
    rw [hfresh.message] at hsome
    cases hsome
  message _ := hfresh.message
  settled := hfresh.message
  awaits hawaits := absurd hawaits hfresh.wait

/-- What holds of a connection that is set up, and is kept to by all that a flight does, holds after
    every run. -/
theorem Fresh.rested (hfresh : c.Fresh) (hinvariant : Invariant c.endpoint.context Live Busy Over)
    (hlive : Live c.flow.phase c.endpoint.context []) (calls : List Call) :
    Rested c.endpoint.context Live Over (c.run calls).2.flow.phase
      (c.run calls).2.endpoint.context (c.handshakeHistory calls) := by
  rw [← List.nil_append (c.handshakeHistory calls)]
  refine rested_run hinvariant hfresh.role ?_ calls
  by_cases hwait : c.endpoint.context.wait = .error
  · exact .failed hwait (hinvariant.ended hfresh.paused hlive)
  · exact .live hwait hfresh.paused hlive

end Invariant

end Connection

end TlsHandshake
