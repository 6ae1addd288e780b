import TlsHandshake.Proofs.Called
import TlsHandshake.Proofs.Flight.Traces

set_option autoImplicit false

/-! # One fatal alert for each failure

Whoever fails tells the peer so with one fatal alert, except where the record layer itself is broken,
and whoever does not fail sends no alert. The failures are found in many places; the relations that
list them say with which events each one goes. Main statement: `Connection.alerts_once`. -/

namespace TlsHandshake

namespace Event

/-- The alert that was sent. -/
def alert? : Event → Option Alert
  | alerted alert => some alert
  | _ => none

/-- The error with which the record layer has failed to flush or to read. -/
def fault? : Event → Option Error
  | flushed (.error e) | read (.error e) | readChangeCipherSpec (.error e) => some e
  | _ => none

end Event

namespace History

/-- The alerts sent, in order. -/
def alerts (h : History) : List Alert := h.filterMap Event.alert?

/-- The errors of the record layer when flushing or reading, in order. -/
def faults (h : History) : List Error := h.filterMap Event.fault?

@[simp] theorem alerts_nil : alerts [] = [] := rfl

@[simp] theorem alerts_cons (e : Event) (h : History) :
    alerts (e :: h) = e.alert?.toList ++ alerts h := by
  unfold alerts
  cases he : e.alert? <;> simp [he]

@[simp] theorem alerts_append (g h : History) : alerts (g ++ h) = alerts g ++ alerts h :=
  List.filterMap_append

@[simp] theorem faults_nil : faults [] = [] := rfl

@[simp] theorem faults_cons (e : Event) (h : History) :
    faults (e :: h) = e.fault?.toList ++ faults h := by
  unfold faults
  cases he : e.fault? <;> simp [he]

@[simp] theorem faults_append (g h : History) : faults (g ++ h) = faults g ++ faults h :=
  List.filterMap_append

@[simp] theorem faults_report (e : Error) : (report e).faults = [] := by
  rw [report]
  cases Engine.transportAlert? e <;> rfl

/-- Only a broken connection is not reported. -/
theorem alerts_report (e : Error) :
    ((∃ text, e = .io text) ∧ (report e).alerts = [])
    ∨ (¬ ∃ text, e = .io text) ∧ ∃ description, (report e).alerts = [.fatal description] := by
  cases e with
  | io text => exact Or.inl ⟨⟨text, rfl⟩, rfl⟩
  | _ => exact Or.inr ⟨nofun, _, rfl⟩

/-! ## How failures show -/

/-- Neither an alert nor a fault of the record layer. -/
structure Quiet (h : History) : Prop where
  alerts : h.alerts = []
  faults : h.faults = []

/-- The events of an operation that is not up to the record layer: one fatal alert if it fails. -/
inductive Tells {α : Type} (h : History) : Except Error α → Prop
  | quiet {a : α} (hquiet : h.Quiet) : Tells h (.ok a)
  | alerted {e : Error} (description : AlertDescription) (halerts : h.alerts = [.fatal description])
      (hfaults : h.faults = []) : Tells h (.error e)

/-- The events of a failure by `e`: either the record layer has failed with it and that has been
    reported, or something else has failed and an alert has been sent. -/
inductive Fails (h : History) (e : Error) : Prop
  | transport (halerts : h.alerts = (report e).alerts) (hfaults : h.faults = [e])
  | other (description : AlertDescription) (halerts : h.alerts = [.fatal description])
      (hfaults : h.faults = [])

/-- One fatal alert has been sent, unless the connection is broken, and then none. -/
def AlertsOnce (h : History) (broken : Prop) : Prop :=
  (broken ∧ h.alerts = []) ∨ (¬ broken ∧ ∃ description, h.alerts = [.fatal description])

/-- The error is an I/O error that the record layer has given when it was to flush or to read. -/
def Broken (h : History) (e : Error) : Prop := (∃ text, e = .io text) ∧ e ∈ h.faults

section Fails

variable {α : Type} {g h : History} {e : Error}

/-- What is quiet does not count for what comes after it. -/
theorem Quiet.before (hg : g.Quiet) (h : History) :
    (g ++ h).alerts = h.alerts ∧ (g ++ h).faults = h.faults := by
  rw [alerts_append, faults_append, hg.alerts, hg.faults]
  exact ⟨List.nil_append _, List.nil_append _⟩

theorem Quiet.append (hg : g.Quiet) (hh : h.Quiet) : (g ++ h).Quiet where
  alerts := (hg.before h).1.trans hh.alerts
  faults := (hg.before h).2.trans hh.faults

/-- Asking the signer is quiet. -/
theorem quiet_signingEvent (c : Context) (scheme : SignatureScheme) (maxLength : Nat)
    (answer : SignResult) : Quiet [c.signingEvent scheme maxLength answer] := by
  rw [Context.signingEvent]
  split <;> exact ⟨rfl, rfl⟩

theorem Fails.after (hfails : h.Fails e) (hg : g.Quiet) : (g ++ h).Fails e := by
  obtain ⟨halerts, hfaults⟩ := hg.before h
  cases hfails with
  | transport ha hf => exact .transport (halerts.trans ha) (hfaults.trans hf)
  | other d ha hf => exact .other d (halerts.trans ha) (hfaults.trans hf)

theorem Tells.after {answer : Except Error α} (htells : h.Tells answer) (hg : g.Quiet) :
    (g ++ h).Tells answer := by
  cases htells with
  | quiet hquiet => exact .quiet (hg.append hquiet)
  | alerted d ha hf =>
      obtain ⟨halerts, hfaults⟩ := hg.before h
      exact .alerted d (halerts.trans ha) (hfaults.trans hf)

theorem Tells.fails (htells : h.Tells (.error e : Except Error α)) : h.Fails e := by
  cases htells with
  | alerted d ha hf => exact .other d ha hf

theorem Fails.alertsOnce (hfails : h.Fails e) : h.AlertsOnce (h.Broken e) := by
  cases hfails with
  | transport ha hf =>
      have hmem : e ∈ h.faults := by rw [hf]; exact List.mem_singleton_self e
      rcases alerts_report e with ⟨hio, hnone⟩ | ⟨hio, d, hone⟩
      · exact Or.inl ⟨⟨hio, hmem⟩, ha.trans hnone⟩
      · exact Or.inr ⟨fun hbroken => hio hbroken.1, d, ha.trans hone⟩
  | other d ha hf =>
      refine Or.inr ⟨fun hbroken => ?_, d, ha⟩
      have hmem := hbroken.2
      rw [hf] at hmem
      cases hmem

theorem AlertsOnce.length_le {broken : Prop} (honce : h.AlertsOnce broken) :
    h.alerts.length ≤ 1 := by
  rcases honce with ⟨_, hnone⟩ | ⟨_, d, hone⟩
  · rw [hnone]
    exact Nat.zero_le 1
  · rw [hone]
    exact Nat.le_refl 1

end Fails

end History

/-! ## The handshake -/

namespace Endpoint

variable {c c' : Context} {h : History} {o : Option Outcome} {e : Error}

theorem Settles.quiet (hsettles : Settles c h o c') (hfatal : ∀ e, o ≠ some (.fatal e)) :
    h.Quiet := by
  cases hsettles with
  | failed | flushFailed | readFailed | flushedThenFailed | changeCipherSpecFailed =>
      exact absurd rfl (hfatal _)
  | _ => exact ⟨rfl, rfl⟩

/-- A wait that cannot be settled leaves its error reported and the context failed. -/
theorem Settles.fails (hsettles : Settles c h (some (.fatal e)) c') (hwait : c.wait ≠ .error) :
    h.Fails e ∧ c'.wait = .error := by
  generalize ho : some (Outcome.fatal e) = o at hsettles
  cases hsettles <;> cases ho
  case failed herror => exact absurd herror hwait
  all_goals
    refine ⟨.transport ?_ ?_, rfl⟩ <;>
      simp [Event.alert?, Event.fault?]

end Endpoint

namespace AuthFlow

open Endpoint

section Turns

variable {role : Role} {signer? : Option SignerInfo} {phase : Phase} {c c' : Context}
  {h : History} {answer : Except Error Turn}

theorem Advance.quiet {turn : Turn} (hadvance : Advance role signer? phase c h turn c') :
    h.Quiet := by
  cases hadvance with
  | signatureDelayed => exact History.quiet_signingEvent _ _ _ _
  | signatureSent =>
      exact (History.quiet_signingEvent _ _ _ _).append (h := [.queued _ _]) ⟨rfl, rfl⟩
  | _ => exact ⟨rfl, rfl⟩

/-- A turn that fails sends one alert, whatever it fails by. -/
theorem Failure.tells {e : Error} (hfailure : Failure role signer? phase c h e c') :
    h.Tells (.error e : Except Error Turn) := by
  cases hfailure with
  | signatureFailed | signatureTooLong | signatureUnencodable | signatureUnqueued =>
      exact History.Tells.after (.alerted .internalError rfl rfl)
        (History.quiet_signingEvent _ _ _ _)
  | _ => exact .alerted _ rfl rfl

end Turns

section Drives

variable {ε : Type} [Environment ε] {role : Role} {phase phase' : Phase} {p q : Endpoint ε}
  {h : History} {outcome : Outcome} {e : Error}

theorem Walks.quiet (hwalks : Walks role phase p h phase' q) : h.Quiet := by
  induction hwalks with
  | here => exact ⟨rfl, rfl⟩
  | next hturn _ ih => exact hturn.1.quiet.append ih

/-- A failed handshake is left as it is. -/
theorem Drives.of_error (hdrives : Drives role phase p h outcome phase' q)
    (hwait : p.context.wait = .error) :
    h = [] ∧ outcome = .fatal .handshakeFailure ∧ phase' = phase ∧ q = p := by
  cases hdrives with
  | suspended hsettled =>
      obtain ⟨rfl, houtcome, hcontext⟩ := hsettled.1.of_error hwait
      have henvironment : q.environment = p.environment := hsettled.2
      obtain ⟨context, environment⟩ := q
      obtain rfl : context = p.context := hcontext
      obtain rfl : environment = p.environment := henvironment
      exact ⟨rfl, Option.some.inj houtcome, rfl, rfl⟩
  | succeeded hsettled | failed hsettled | waited hsettled =>
      obtain ⟨_, houtcome, _⟩ := hsettled.1.of_error hwait
      cases houtcome

theorem Drives.quiet (hdrives : Drives role phase p h outcome phase' q)
    (hfatal : ∀ e, outcome ≠ .fatal e) : h.Quiet := by
  induction hdrives with
  | suspended hsettled =>
      exact hsettled.1.quiet fun e heq => hfatal e (Option.some.inj heq)
  | succeeded hsettled hwalks hturn =>
      exact ((hsettled.1.quiet nofun).append hwalks.quiet).append hturn.1.quiet
  | failed => exact absurd rfl (hfatal _)
  | waited hsettled hwalks hturn _ _ ih =>
      exact (((hsettled.1.quiet nofun).append hwalks.quiet).append hturn.1.quiet).append
        (ih hfatal)

/-- A call that fails leaves its error told and the context failed. -/
theorem Drives.fails (hdrives : Drives role phase p h (.fatal e) phase' q)
    (hwait : p.context.wait ≠ .error) : h.Fails e ∧ q.context.wait = .error := by
  generalize houtcome : Outcome.fatal e = outcome at hdrives
  induction hdrives with
  | suspended hsettled =>
      subst houtcome
      exact hsettled.1.fails hwait
  | succeeded => cases houtcome
  | failed hsettled hwalks hturn =>
      cases houtcome
      exact ⟨hturn.1.tells.fails.after ((hsettled.1.quiet nofun).append hwalks.quiet), rfl⟩
  | waited hsettled hwalks hturn _ _ ih =>
      obtain ⟨hfails, herror⟩ := ih hturn.1.wait_ne_error houtcome
      exact ⟨hfails.after (((hsettled.1.quiet nofun).append hwalks.quiet).append hturn.1.quiet),
        herror⟩

theorem Drives.wait_of_fatal (hdrives : Drives role phase p h (.fatal e) phase' q) :
    q.context.wait = .error := by
  by_cases hwait : p.context.wait = .error
  · obtain ⟨_, _, _, rfl⟩ := hdrives.of_error hwait
    exact hwait
  · exact (hdrives.fails hwait).2

end Drives

end AuthFlow

/-! ## After the handshake -/

namespace Engine

variable {c c' : Context} {h : History} {answer : Except Error Unit}

theorem QueuesUpdate.tells {request : KeyUpdateRequest}
    (hqueues : QueuesUpdate request c h answer c') : h.Tells answer := by
  cases hqueues with
  | unqueued | unrotated => exact .alerted _ rfl rfl
  | queued => exact .quiet ⟨rfl, rfl⟩

theorem StartsUpdate.tells {request : KeyUpdateRequest}
    (hstarts : StartsUpdate request c h answer c') : h.Tells answer := by
  cases hstarts with
  | pending => exact .quiet ⟨rfl, rfl⟩
  | started _ hqueues => exact hqueues.tells

theorem ReceivesUpdate.tells {body : Bytes} (hreceives : ReceivesUpdate body c h answer c') :
    h.Tells answer := by
  cases hreceives with
  | undecodable | unrotated => exact .alerted _ rfl rfl
  | noted => exact .quiet ⟨rfl, rfl⟩
  | answered _ hstarts => exact hstarts.tells.after (g := [.rotated .read (.ok ())]) ⟨rfl, rfl⟩

theorem Handles.tells {ticketed : Bool} {m : Message} (hhandles : Handles ticketed m c h answer c') :
    h.Tells answer := by
  cases hhandles with
  | tooMany | ticketRefused | outOfPlace => exact .alerted _ rfl rfl
  | ticketDropped | ticketStored => exact .quiet ⟨rfl, rfl⟩
  | keyUpdate _ _ hreceives => exact hreceives.tells

end Engine

namespace Endpoint

variable {ε : Type} [Environment ε] {p q : Endpoint ε} {h : History} {e : Error}

theorem Processed.quiet {answer : Awaited Unit} (hprocessed : Processed p h (.ok answer) q) :
    h.Quiet := by
  cases hprocessed with
  | delayed => exact ⟨rfl, rfl⟩
  | handled _ hhandled =>
      cases hhandled.1.tells with
      | quiet hquiet => exact .append (g := [.read _]) ⟨rfl, rfl⟩ hquiet

/-- A message that cannot be read or dealt with leaves its error told and the context failed. -/
theorem Processed.fails (hprocessed : Processed p h (.error e) q) :
    h.Fails e ∧ (e ∈ h.faults ↔ .read (.error e) ∈ h) ∧ q.context.wait = .error := by
  cases hprocessed with
  | unread => exact ⟨.transport (by simp [Event.alert?]) (by simp [Event.fault?]),
      by simp [Event.fault?], rfl⟩
  | @refused _ _ _ h _ _ hhandled =>
      refine ⟨hhandled.1.tells.fails.after (g := [.read _]) ⟨rfl, rfl⟩, ?_, rfl⟩
      cases hhandled.1.tells with
      | alerted _ _ hfaults =>
          have hnone : .read (.error e) ∉ h := fun hmem => by
            have hfault : e ∈ h.faults := List.mem_filterMap.2 ⟨_, hmem, rfl⟩
            rw [hfaults] at hfault
            cases hfault
          simp [Event.fault?, hfaults, hnone]

end Endpoint

/-! ## Connections -/

namespace Connection

variable {ε : Type} [Environment ε]

section Called

variable {c c' : Connection ε} {call : Call} {h : History} {answer : Answer}

/-- A call sends no alert, and then the connection does not recover, or it sends one, and then it
    has failed just now. -/
theorem Called.alerts (hcalled : Called c call h answer c')
    (hcall : call = .handshake ∨ call = .processPostHandshake) :
    (h.alerts = [] ∧ (c.endpoint.context.wait = .error → c'.endpoint.context.wait = .error))
    ∨ (c.endpoint.context.wait ≠ .error ∧ c'.endpoint.context.wait = .error
      ∧ h.alerts.length ≤ 1) := by
  cases hcalled with
  | @handshake h outcome phase q hdrives =>
      by_cases hwait : c.endpoint.context.wait = .error
      · obtain ⟨rfl, _, _, rfl⟩ := hdrives.of_error hwait
        exact Or.inl ⟨rfl, fun herror => herror⟩
      · cases outcome with
        | fatal e =>
            obtain ⟨hfails, herror⟩ := hdrives.fails hwait
            exact Or.inr ⟨hwait, herror, hfails.alertsOnce.length_le⟩
        | _ => exact Or.inl ⟨(hdrives.quiet nofun).alerts, fun herror => absurd herror hwait⟩
  | postHandshakeTooEarly => exact Or.inl ⟨rfl, fun herror => herror⟩
  | @processed h answer q _ hwait hprocessed =>
      cases answer with
      | ok answer => exact Or.inl ⟨hprocessed.quiet.alerts, fun herror => absurd herror hwait⟩
      | error e =>
          obtain ⟨hfails, _, herror⟩ := hprocessed.fails
          exact Or.inr ⟨hwait, herror, hfails.alertsOnce.length_le⟩
  | _ => rcases hcall with hcall | hcall <;> cases hcall

end Called

/-- A connection that is driven and fed sends at most one alert, and none once it has failed. -/
theorem Ran.alerts {c c' : Connection ε} {calls : List Call} {h : History} {answers : List Answer}
    (hran : Ran c calls h answers c')
    (hcalls : ∀ call ∈ calls, call = .handshake ∨ call = .processPostHandshake) :
    h.alerts.length ≤ 1 ∧ (c.endpoint.context.wait = .error → h.alerts = []) := by
  induction hran with
  | nil => exact ⟨Nat.zero_le 1, fun _ => rfl⟩
  | cons hcalled _ ih =>
      obtain ⟨hle, hnone⟩ := ih fun call hmem => hcalls call (List.mem_cons_of_mem _ hmem)
      rw [History.alerts_append, List.length_append]
      rcases hcalled.alerts (hcalls _ List.mem_cons_self) with
        ⟨hquiet, hkeeps⟩ | ⟨hwait, herror, hone⟩
      · rw [hquiet, List.length_nil, Nat.zero_add]
        exact ⟨hle, fun hwait => hnone (hkeeps hwait)⟩
      · rw [hnone herror, List.length_nil]
        exact ⟨hone, fun herror => absurd herror hwait⟩

/-- A handshake that fails sends exactly one fatal alert, unless the record layer is broken, and one
    that does not fail or has failed before sends none. The same goes for a message processed on a
    connection that is complete and has not failed; on any other none is sent. So a run of these two
    calls never sends a second alert. -/
theorem alerts_once (c : Connection ε) :
    let driven := c.history [.handshake]
    let processed := c.history [.processPostHandshake]
    let answer := (answerOf processPostHandshake c).1
    let failed := c.endpoint.context.wait = .error
    (∀ e, c.handshake.1 = .fatal e → ¬ failed → driven.AlertsOnce (driven.Broken e))
    ∧ ((∀ e, c.handshake.1 ≠ .fatal e) ∨ failed → driven.alerts = [])
    ∧ (∀ e, answer = .error e → c.complete = true → ¬ failed →
      processed.AlertsOnce ((∃ text, e = .io text) ∧ .read (.error e) ∈ processed))
    ∧ ((∀ e, answer ≠ .error e) ∨ c.complete = false ∨ failed → processed.alerts = [])
    ∧ ∀ calls : List Call, (∀ call ∈ calls, call = .handshake ∨ call = .processPostHandshake) →
      (c.history calls).alerts.length ≤ 1 := by
  intro driven processed answer failed
  obtain ⟨_, hdriven, _⟩ :
      ∃ c', Called c.recorded .handshake driven (.ended c.handshake.1) c' ∧ _ :=
    history_called c .handshake
  obtain ⟨_, hprocessed, _⟩ :
      ∃ c', Called c.recorded .processPostHandshake processed (.polled answer) c' ∧ _ :=
    history_called c .processPostHandshake
  clear_value driven processed answer
  refine ⟨?_, ?_, ?_, ?_, fun calls hcalls => ?_⟩
  · intro e houtcome hwait
    rw [houtcome] at hdriven
    cases hdriven with
    | handshake hdrives => exact (hdrives.fails hwait).1.alertsOnce
  · intro hquiet
    generalize c.handshake.1 = outcome at hdriven hquiet
    cases hdriven with
    | handshake hdrives =>
        rcases hquiet with hfatal | hwait
        · exact (hdrives.quiet hfatal).alerts
        · rw [(hdrives.of_error hwait).1]
          rfl
  · intro e hanswer hcomplete hwait
    rw [hanswer] at hprocessed
    cases hprocessed with
    | postHandshakeTooEarly hearly =>
        rcases hearly with hearly | hearly
        · cases hcomplete.symm.trans hearly
        · exact absurd hearly hwait
    | processed _ _ hprocessed =>
        obtain ⟨hfails, hread, _⟩ := hprocessed.fails
        rw [← hread]
        exact hfails.alertsOnce
  · intro hquiet
    cases hprocessed with
    | postHandshakeTooEarly => rfl
    | processed hcomplete hwait hprocessed =>
        cases answer with
        | ok answer => exact hprocessed.quiet.alerts
        | error e =>
            rcases hquiet with hanswer | hearly | hearly
            · exact absurd rfl (hanswer e)
            · cases hcomplete.symm.trans hearly
            · exact absurd hearly hwait
  · obtain ⟨_, hran, _⟩ := history_ran c calls
    exact (hran.alerts hcalls).1

end Connection

end TlsHandshake
