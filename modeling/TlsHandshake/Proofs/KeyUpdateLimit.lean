import Mathlib.Data.List.DropRight
import TlsHandshake.Proofs.Receipts

set_option autoImplicit false

/-! # How many KeyUpdates a connection takes

What a connection makes of the messages after its handshake, over a whole run: every call may be
made on it in any order, and its surroundings may change meanwhile. `Tally` says how a connection
stands by its receipts, and all that can happen to it keeps that (`Tally.meet`). Main statement:
`Connection.keyUpdates_limited`. -/

namespace TlsHandshake

open AuthFlow Endpoint Engine

/-! ## Lists of receipts -/

/-- The messages that were accepted, in order. -/
def acceptedMessages (received : List Receipt) : List Message :=
  (received.filter Receipt.accepted).map Receipt.message

/-- How many KeyUpdates come last in a list of messages, with no other message between them. -/
def updatesInRow (ms : List Message) : Nat :=
  (ms.rtakeWhile (·.type = .keyUpdate)).length

/-- The bodies of the session tickets in a list of messages. -/
def ticketBodies (ms : List Message) : List Bytes :=
  (ms.filter (·.type = .newSessionTicket)).map Message.body

section Receipts

variable {received : List Receipt} {r : Receipt} {ms : List Message} {m : Message}

theorem acceptedMessages_concat_of_accepted (h : r.accepted = true) :
    acceptedMessages (received ++ [r]) = acceptedMessages received ++ [r.message] := by
  simp [acceptedMessages, h]

theorem acceptedMessages_concat_of_refused (h : r.accepted = false) :
    acceptedMessages (received ++ [r]) = acceptedMessages received := by
  simp [acceptedMessages, h]

/-- If nothing was refused, all messages were accepted. -/
theorem acceptedMessages_eq (h : ∀ r ∈ received, r.accepted = true) :
    acceptedMessages received = received.map Receipt.message := by
  rw [acceptedMessages, List.filter_eq_self.2 h]

theorem updatesInRow_concat_of_update (ms : List Message) (h : m.type = .keyUpdate) :
    updatesInRow (ms ++ [m]) = updatesInRow ms + 1 := by
  rw [updatesInRow, List.rtakeWhile_concat_pos _ _ _ (by simpa using h), List.length_append]
  rfl

theorem updatesInRow_concat_of_other (ms : List Message) (h : m.type ≠ .keyUpdate) :
    updatesInRow (ms ++ [m]) = 0 := by
  rw [updatesInRow, List.rtakeWhile_concat_neg _ _ _ (by simpa using h)]
  rfl

/-- KeyUpdates and nothing else are all in a row. -/
theorem updatesInRow_eq_length (h : ∀ m ∈ ms, m.type = .keyUpdate) :
    updatesInRow ms = ms.length := by
  rw [updatesInRow, List.rtakeWhile_eq_self_iff.2 (by simpa using h)]

theorem ticketBodies_concat_of_ticket (h : m.type = .newSessionTicket) :
    ticketBodies (ms ++ [m]) = ticketBodies ms ++ [m.body] := by
  simp [ticketBodies, h]

theorem ticketBodies_concat_of_other (h : m.type ≠ .newSessionTicket) :
    ticketBodies (ms ++ [m]) = ticketBodies ms := by
  simp [ticketBodies, h]

end Receipts

/-! ## Runs -/

/-- What happens to a connection: a call on it, or a change of its surroundings from outside that
    leaves its keys and its tickets alone, as when bytes arrive. -/
inductive Incident {ε : Type} [Environment ε] (ledger : Ledger ε) where
  | call (call : Call)
  | outside (change : ε → ε)
      (hgeneration : ∀ e, ledger.generation (change e) = ledger.generation e)
      (htickets : ∀ e, ledger.tickets (change e) = ledger.tickets e)

namespace Connection

variable {ε : Type} [Environment ε] {ledger : Ledger ε}

/-- The receipts of what happens, and the connection after. -/
def meet (c : Connection ε) : Incident ledger → List Receipt × Connection ε
  | .call call => (c.receipts call, (c.call call).2)
  | .outside change _ _ => ([], c.onEnvironment change)

/-- The receipts of what happens one after the other, and the connection after. -/
def meetAll (c : Connection ε) : List (Incident ledger) → List Receipt × Connection ε
  | [] => ([], c)
  | incident :: incidents =>
      let (received, c) := c.meet incident
      let (more, c) := c.meetAll incidents
      (received ++ more, c)

/-- How the connection `d` stands by what has been received since it was `c`. While it is live it
    has accepted everything, so the row counts all that has come. -/
structure Tally (ledger : Ledger ε) (c : Connection ε) (received : List Receipt)
    (d : Connection ε) : Prop where
  config : d.endpoint.context.config = c.endpoint.context.config
  complete : d.endpoint.context.wait ≠ .error → ∀ r ∈ received, r.accepted = true
  count : d.endpoint.context.wait ≠ .error →
    d.endpoint.context.keyUpdateCount = updatesInRow (acceptedMessages received)
  generation : d.endpoint.context.wait ≠ .error →
    ledger.generation d.endpoint.environment = ledger.generation c.endpoint.environment
      + (acceptedMessages received).countP (·.type = .keyUpdate)
  inRow : updatesInRow (acceptedMessages received) ≤ maxKeyUpdates
  onServer : c.endpoint.context.isServer = true →
    ∀ m ∈ acceptedMessages received, m.type = .keyUpdate
  tickets : ledger.tickets d.endpoint.environment
    = (ledger.tickets c.endpoint.environment).map (· ++ ticketBodies (acceptedMessages received))

namespace Tally

variable {c d d' : Connection ε} {received : List Receipt} {h : History}

/-- Nothing has been received by a connection that no KeyUpdate has come to. -/
theorem start (hcount : c.endpoint.context.keyUpdateCount = 0) : Tally ledger c [] c where
  config := rfl
  complete _ := List.forall_mem_nil _
  count _ := hcount
  generation _ := rfl
  inRow := Nat.zero_le _
  onServer _ := List.forall_mem_nil _
  tickets := by
    cases ledger.tickets c.endpoint.environment <;> simp [acceptedMessages, ticketBodies]

/-- The role of a connection never changes. -/
theorem isServer (htally : Tally ledger c received d) :
    d.endpoint.context.isServer = c.endpoint.context.isServer := by
  rw [Context.isServer, Context.role, htally.config]
  rfl

theorem uncounted (htally : Tally ledger c received d)
    (huncounted : Uncounted d.endpoint.context h d'.endpoint.context)
    (hperforms : Performs d.endpoint.environment h d'.endpoint.environment)
    (hlive : d'.endpoint.context.wait ≠ .error → d.endpoint.context.wait ≠ .error) :
    Tally ledger c received d' where
  config := huncounted.config.trans htally.config
  complete hwait := htally.complete (hlive hwait)
  count hwait := huncounted.keyUpdateCount.trans (htally.count (hlive hwait))
  generation hwait := by
    rw [ledger.generation_performs hperforms, huncounted.rotations,
      htally.generation (hlive hwait)]
    rfl
  inRow := htally.inRow
  onServer := htally.onServer
  tickets := by
    rw [ledger.tickets_performs hperforms, huncounted.tickets, htally.tickets]
    simp [Function.comp_def]

section Handled

variable {m : Message} {env : ε} {q : Endpoint ε} {answer : Except Error Unit}

theorem config_handled (htally : Tally ledger c received d)
    (hhandled : Handled m ⟨d.endpoint.context, env⟩ h answer q) :
    q.context.config = c.endpoint.context.config := by
  obtain ⟨count, pending, hcontext⟩ := hhandled.1.context
  rw [hcontext]
  exact htally.config

/-- The generation once a message has been read and dealt with. -/
theorem generation_handled (htally : Tally ledger c received d)
    (hwait : d.endpoint.context.wait ≠ .error)
    (hread : Performs d.endpoint.environment [.read (.ok (.ready m))] env)
    (hhandled : Handled m ⟨d.endpoint.context, env⟩ h answer q) :
    ledger.generation q.environment = ledger.generation c.endpoint.environment
      + (acceptedMessages received).countP (·.type = .keyUpdate) + h.rotations .read := by
  rw [ledger.generation_performs (hread.append hhandled.2), htally.generation hwait]
  simp [Event.rotates]

/-- The stored tickets once a message has been read and dealt with. -/
theorem tickets_handled (htally : Tally ledger c received d)
    (hread : Performs d.endpoint.environment [.read (.ok (.ready m))] env)
    (hhandled : Handled m ⟨d.endpoint.context, env⟩ h answer q) :
    ledger.tickets q.environment = (ledger.tickets c.endpoint.environment).map
      (· ++ ticketBodies (acceptedMessages received) ++ h.ticketsTaken) := by
  rw [ledger.tickets_performs (hread.append hhandled.2), htally.tickets, Option.map_map]
  simp [Function.comp_def, Event.ticket?]

theorem complete_concat (htally : Tally ledger c received d)
    (hwait : d.endpoint.context.wait ≠ .error) :
    ∀ r ∈ received ++ [⟨m, .ok (.ready ())⟩], r.accepted = true := by
  intro r hr
  rcases List.mem_append.1 hr with hr | hr
  · exact htally.complete hwait r hr
  · rw [List.mem_singleton.1 hr]
    rfl

/-- One more KeyUpdate is accepted. -/
theorem update_accepted (htally : Tally ledger c received d)
    (hwait : d.endpoint.context.wait ≠ .error)
    (hread : Performs d.endpoint.environment [.read (.ok (.ready m))] env)
    (hhandled : Handled m ⟨d.endpoint.context, env⟩ h (.ok ()) q) (htype : m.type = .keyUpdate)
    (hcounted : q.context.keyUpdateCount = d.endpoint.context.countKeyUpdate.keyUpdateCount)
    (hlimit : q.context.keyUpdateCount ≤ maxKeyUpdates) (hrotations : h.rotations .read = 1)
    (hnone : h.ticketsTaken = []) :
    Tally ledger c (received ++ [⟨m, .ok (.ready ())⟩]) { d with endpoint := q.clear } := by
  have hmessages : acceptedMessages (received ++ [⟨m, .ok (.ready ())⟩])
      = acceptedMessages received ++ [m] := acceptedMessages_concat_of_accepted rfl
  have hconfig : q.context.config = c.endpoint.context.config := htally.config_handled hhandled
  have hrow := updatesInRow_concat_of_update (acceptedMessages received) htype
  have hother : m.type ≠ .newSessionTicket := by
    rw [htype]
    nofun
  -- the count is far from where it stays put
  have hcount : q.context.keyUpdateCount = updatesInRow (acceptedMessages received) + 1 := by
    have hbefore := htally.count hwait
    have hafter : q.context.keyUpdateCount = min 255 (d.endpoint.context.keyUpdateCount + 1) :=
      hcounted
    have hmax : maxKeyUpdates = 32 := rfl
    omega
  refine ⟨hconfig, fun _ => htally.complete_concat hwait, fun _ => ?_,
    fun _ => ?_, ?_, ?_, ?_⟩
  · rw [hmessages, hrow]
    exact hcount
  · -- its reading key is moved on once for it
    rw [hmessages, List.countP_append]
    refine (htally.generation_handled hwait hread hhandled).trans ?_
    rw [hrotations]
    simp [htype, Nat.add_assoc]
  · rw [hmessages, hrow, ← hcount]
    exact hlimit
  · intro hserver m' hm'
    rw [hmessages] at hm'
    rcases List.mem_append.1 hm' with hm' | hm'
    · exact htally.onServer hserver m' hm'
    · rw [List.mem_singleton.1 hm', htype]
  · rw [hmessages, ticketBodies_concat_of_other hother]
    refine (htally.tickets_handled hread hhandled).trans ?_
    rw [hnone]
    simp

/-- One more ticket is accepted. -/
theorem ticket_accepted (htally : Tally ledger c received d)
    (hwait : d.endpoint.context.wait ≠ .error)
    (hread : Performs d.endpoint.environment [.read (.ok (.ready m))] env)
    (hhandled : Handled m ⟨d.endpoint.context, env⟩ h (.ok ()) q)
    (htype : m.type = .newSessionTicket) (hclient : d.endpoint.context.isServer = false)
    (hcounted : q.context.keyUpdateCount = 0) (hrotations : h.rotations .read = 0)
    (htaken : h.ticketsTaken = if Environment.handlesTickets env then [m.body] else []) :
    Tally ledger c (received ++ [⟨m, .ok (.ready ())⟩]) { d with endpoint := q.clear } := by
  have hmessages : acceptedMessages (received ++ [⟨m, .ok (.ready ())⟩])
      = acceptedMessages received ++ [m] := acceptedMessages_concat_of_accepted rfl
  have hother : m.type ≠ .keyUpdate := by
    rw [htype]
    nofun
  have hconfig : q.context.config = c.endpoint.context.config := htally.config_handled hhandled
  have hrow := updatesInRow_concat_of_other (acceptedMessages received) hother
  refine ⟨hconfig, fun _ => htally.complete_concat hwait, fun _ => ?_,
    fun _ => ?_, ?_, ?_, ?_⟩
  · rw [hmessages, hrow]
    exact hcounted
  · rw [hmessages, List.countP_append]
    refine (htally.generation_handled hwait hread hhandled).trans ?_
    rw [hrotations]
    simp [htype]
  · rw [hmessages, hrow]
    exact Nat.zero_le _
  · intro hserver
    rw [htally.isServer, hserver] at hclient
    cases hclient
  · rw [hmessages, ticketBodies_concat_of_ticket htype]
    refine (htally.tickets_handled hread hhandled).trans ?_
    cases hstore : ledger.tickets c.endpoint.environment with
    | none => rfl
    | some stored =>
        -- there is a store, so the ticket was not dropped
        have hhandles : Environment.handlesTickets env = true := by
          apply ledger.handles
          rw [ledger.tickets_performs hread, htally.tickets, hstore]
          rfl
        rw [htaken, hhandles]
        simp

/-- One more message is refused, which ends the connection. -/
theorem refused {e : Error} (htally : Tally ledger c received d)
    (hread : Performs d.endpoint.environment [.read (.ok (.ready m))] env)
    (hhandled : Handled m ⟨d.endpoint.context, env⟩ h (.error e) q) :
    Tally ledger c (received ++ [⟨m, .error e⟩]) { d with endpoint := q.clear.waitFor .error } := by
  have hmessages : acceptedMessages (received ++ [⟨m, .error e⟩]) = acceptedMessages received :=
    acceptedMessages_concat_of_refused rfl
  have hconfig : q.context.config = c.endpoint.context.config := htally.config_handled hhandled
  refine ⟨hconfig, fun hlive => absurd rfl hlive,
    fun hlive => absurd rfl hlive, fun hlive => absurd rfl hlive, ?_, ?_, ?_⟩
  · rw [hmessages]
    exact htally.inRow
  · rw [hmessages]
    exact htally.onServer
  · rw [hmessages]
    refine (htally.tickets_handled hread hhandled).trans ?_
    rw [hhandled.1.of_error]
    simp

end Handled

theorem receives {receipts : List Receipt} (htally : Tally ledger c received d)
    (hreceives : Receives d h receipts d') : Tally ledger c (received ++ receipts) d' := by
  cases hreceives with
  | nothing _ huncounted hperforms hwait =>
      rw [List.append_nil]
      refine htally.uncounted huncounted hperforms fun hlive => ?_
      rcases hwait with herror | hsame
      · exact absurd herror hlive
      · exact hsame ▸ hlive
  | accepted hfaces hread hhandled =>
      have hwait := hfaces.wait
      rcases hhandled.1.of_ok with ⟨htype, hcounted, hlimit, hrotations, hnone⟩
        | ⟨htype, hclient, hcounted, hrotations, htaken⟩
      · exact htally.update_accepted hwait hread hhandled htype hcounted hlimit hrotations hnone
      · exact htally.ticket_accepted hwait hread hhandled htype hclient hcounted hrotations htaken
  | refused _ hread hhandled => exact htally.refused hread hhandled

/-- Whatever happens next is accounted for. -/
theorem meet (htally : Tally ledger c received d) (incident : Incident ledger) :
    Tally ledger c (received ++ (d.meet incident).1) (d.meet incident).2 := by
  cases incident with
  | call call =>
      by_cases hcall : call = .processPostHandshake
      · subst hcall
        exact htally.receives (process_receives d)
      · obtain ⟨hnone, h, huncounted, hperforms, hlive⟩ := d.call_uncounted hcall
        change Tally ledger c (received ++ d.receipts call) (d.call call).2
        rw [hnone, List.append_nil]
        exact htally.uncounted huncounted hperforms hlive
  | outside change hgeneration htickets =>
      change Tally ledger c (received ++ []) (d.onEnvironment change)
      rw [List.append_nil]
      exact { htally with
        generation := fun hwait => (hgeneration _).trans (htally.generation hwait)
        tickets := (htickets _).trans htally.tickets }

theorem meetAll (htally : Tally ledger c received d) (incidents : List (Incident ledger)) :
    Tally ledger c (received ++ (d.meetAll incidents).1) (d.meetAll incidents).2 := by
  -- the receipts so far grow along the run
  induction incidents generalizing received d with
  | nil =>
      rw [Connection.meetAll, List.append_nil]
      exact htally
  | cons incident incidents ih =>
      have hrest := ih (htally.meet incident)
      rw [List.append_assoc] at hrest
      exact hrest

end Tally

section Next

variable {c d : Connection ε} {received : List Receipt} {m : Message}

/-- The message that a connection faces is dealt with; if it is refused, the connection fails. -/
theorem Faces.handled (hfaces : d.Faces m) :
    ∃ (env : ε) (h : History) (answer : Except Error Unit) (q : Endpoint ε),
      Handled m ⟨d.endpoint.context, env⟩ h answer q
      ∧ d.history [.processPostHandshake] = .read (.ok (.ready m)) :: h
      ∧ (answer = .ok () ∧ (answerOf processPostHandshake d).1 = .ok (.ready ())
        ∨ ∃ e, answer = .error e ∧ (answerOf processPostHandshake d).1 = .error e
          ∧ (d.call .processPostHandshake).2.endpoint.context.wait = .error) := by
  have hreceives := process_receives d
  have hanswer := fun r => answer_of_mem_receipts (c := d) (r := r)
  -- what the call answers is known from its receipt only
  generalize d.receipts .processPostHandshake = receipts at hanswer hreceives
  generalize d.history [.processPostHandshake] = history at hreceives ⊢
  generalize (d.call .processPostHandshake).2 = after at hreceives ⊢
  cases hreceives with
  | nothing hnone => exact absurd hfaces (hnone m)
  | accepted hfaces' _ hhandled =>
      obtain rfl := hfaces.unique hfaces'
      have hok := (hanswer _ List.mem_cons_self).symm
      exact ⟨_, _, _, _, hhandled, rfl, Or.inl ⟨rfl, hok⟩⟩
  | refused hfaces' _ hhandled =>
      obtain rfl := hfaces.unique hfaces'
      have herror := (hanswer _ List.mem_cons_self).symm
      exact ⟨_, _, _, _, hhandled, rfl, Or.inr ⟨_, rfl, herror, rfl⟩⟩

/-- A connection that is live counts the next KeyUpdate by the row before it. -/
theorem Tally.countKeyUpdate (htally : Tally ledger c received d)
    (hwait : d.endpoint.context.wait ≠ .error) :
    d.endpoint.context.countKeyUpdate.keyUpdateCount
      = updatesInRow (received.map Receipt.message) + 1 := by
  have hcount := htally.count hwait
  have hrow := htally.inRow
  rw [acceptedMessages_eq (htally.complete hwait)] at hcount hrow
  have hmax : maxKeyUpdates = 32 := rfl
  change min 255 (d.endpoint.context.keyUpdateCount + 1) = _
  omega

/-- The next KeyUpdate, if it can be decoded and what it asks for can be done, is accepted just if
    the row before it is short of the limit. -/
theorem Tally.accepts_iff (htally : Tally ledger c received d) (hfaces : d.Faces m)
    (hupdate : m.IsUpdate)
    (hsucceeds : ∀ event ∈ d.history [.processPostHandshake], event.Succeeds) :
    (answerOf processPostHandshake d).1 = .ok (.ready ())
      ↔ updatesInRow (received.map Receipt.message) < maxKeyUpdates := by
  obtain ⟨env, h, answer, q, hhandled, hhistory, hends⟩ := hfaces.handled
  have hcount := htally.countKeyUpdate hfaces.wait
  rw [hhistory] at hsucceeds
  constructor
  · -- what was accepted was counted, and the count is within the limit
    intro haccepted
    rcases hends with ⟨rfl, _⟩ | ⟨e, _, hanswer, _⟩
    · rcases hhandled.1.of_ok with ⟨_, hcounted, hlimit, _⟩ | ⟨hticket, _⟩
      · change q.context.keyUpdateCount = d.endpoint.context.countKeyUpdate.keyUpdateCount
          at hcounted
        omega
      · exact absurd (hupdate.1.symm.trans hticket) nofun
    · exact absurd (hanswer.symm.trans haccepted) nofun
  · intro hrow
    have hlimit : d.endpoint.context.countKeyUpdate.keyUpdateCount ≤ maxKeyUpdates := by omega
    have hok := hhandled.1.of_isUpdate hupdate hlimit (List.forall_mem_cons.1 hsucceeds).2
    rcases hends with ⟨_, haccepted⟩ | ⟨e, herror, _⟩
    · exact haccepted
    · exact absurd (hok.symm.trans herror) nofun

/-- The next KeyUpdate is refused if the row before it is at the limit: nothing is queued, no key is
    moved on, and the connection fails. -/
theorem Tally.refuses (htally : Tally ledger c received d) (hfaces : d.Faces m)
    (hupdate : m.type = .keyUpdate)
    (hrow : maxKeyUpdates ≤ updatesInRow (received.map Receipt.message)) :
    (answerOf processPostHandshake d).1 = .error .tooManyKeyUpdates
    ∧ d.history [.processPostHandshake] = [.read (.ok (.ready m)), .fatal .unexpectedMessage]
    ∧ (d.call .processPostHandshake).2.endpoint.context.wait = .error := by
  obtain ⟨env, h, answer, q, hhandled, hhistory, hends⟩ := hfaces.handled
  have hlimit : maxKeyUpdates < d.endpoint.context.countKeyUpdate.keyUpdateCount := by
    rw [htally.countKeyUpdate hfaces.wait]
    omega
  obtain ⟨rfl, rfl⟩ := hhandled.1.of_tooMany hupdate hlimit
  rcases hends with ⟨hok, _⟩ | ⟨e, herror, hanswer, hfailed⟩
  · cases hok
  · cases herror
    exact ⟨hanswer, hhistory, hfailed⟩

/-- A server fails for the next message if it is no KeyUpdate. -/
theorem Tally.refuses_on_server (htally : Tally ledger c received d)
    (hserver : c.endpoint.context.isServer = true) (hfaces : d.Faces m)
    (hother : m.type ≠ .keyUpdate) :
    (∃ e, (answerOf processPostHandshake d).1 = .error e)
    ∧ (d.call .processPostHandshake).2.endpoint.context.wait = .error := by
  obtain ⟨env, h, answer, q, hhandled, hhistory, hends⟩ := hfaces.handled
  rcases hends with ⟨rfl, _⟩ | ⟨e, _, hanswer, hfailed⟩
  · rcases hhandled.1.of_ok with ⟨hupdate, _⟩ | ⟨_, hclient, _⟩
    · exact absurd hupdate hother
    · change d.endpoint.context.isServer = false at hclient
      rw [htally.isServer, hserver] at hclient
      cases hclient
  · exact ⟨⟨e, hanswer⟩, hfailed⟩

end Next

/-- How many KeyUpdates a connection takes, from when none has come to it, whatever else happens to
    it. While it is live, it counts the KeyUpdates since the last other message, at most
    `maxKeyUpdates`, and its reading key has been moved on for each that it accepted. The next one,
    if it can be decoded and what it asks for can be done, is accepted just if the row before it is
    short of the limit; else it is refused, nothing is queued, no key is moved on, and the
    connection fails. A server accepts no other message and so no more KeyUpdates than the limit in
    all. What the store has taken are the tickets accepted, in order. -/
theorem keyUpdates_limited (ledger : Ledger ε) {c : Connection ε}
    (hcount : c.endpoint.context.keyUpdateCount = 0) (incidents : List (Incident ledger)) :
    let received := (c.meetAll incidents).1
    let d := (c.meetAll incidents).2
    let accepted := acceptedMessages received
    let row := updatesInRow (received.map Receipt.message)
    let answer := (answerOf processPostHandshake d).1
    let after := (d.call .processPostHandshake).2
    (d.endpoint.context.wait ≠ .error →
      d.endpoint.context.keyUpdateCount = row ∧ row ≤ maxKeyUpdates
      ∧ ledger.generation d.endpoint.environment
        = ledger.generation c.endpoint.environment + accepted.countP (·.type = .keyUpdate))
    ∧ (∀ m, d.Faces m → m.IsUpdate →
      (∀ event ∈ d.history [.processPostHandshake], event.Succeeds) →
      (answer = .ok (.ready ()) ↔ row < maxKeyUpdates))
    ∧ (∀ m, d.Faces m → m.type = .keyUpdate → maxKeyUpdates ≤ row →
      answer = .error .tooManyKeyUpdates
      ∧ d.history [.processPostHandshake] = [.read (.ok (.ready m)), .fatal .unexpectedMessage]
      ∧ after.endpoint.context.wait = .error)
    ∧ (c.endpoint.context.isServer = true →
      (∀ m ∈ accepted, m.type = .keyUpdate) ∧ accepted.length ≤ maxKeyUpdates
      ∧ ∀ m, d.Faces m → m.type ≠ .keyUpdate →
        (∃ e, answer = .error e) ∧ after.endpoint.context.wait = .error)
    ∧ ledger.tickets d.endpoint.environment
      = (ledger.tickets c.endpoint.environment).map (· ++ ticketBodies accepted) := by
  have htally : Tally ledger c (c.meetAll incidents).1 (c.meetAll incidents).2 :=
    (Tally.start hcount).meetAll incidents
  refine ⟨fun hwait => ?_, fun m hfaces hupdate hsucceeds => ?_, fun m hfaces hupdate hrow => ?_,
    fun hserver => ⟨htally.onServer hserver, ?_, fun m hfaces hother => ?_⟩, htally.tickets⟩
  · rw [← acceptedMessages_eq (htally.complete hwait)]
    exact ⟨htally.count hwait, htally.inRow, htally.generation hwait⟩
  · exact htally.accepts_iff hfaces hupdate hsucceeds
  · exact htally.refuses hfaces hupdate hrow
  · rw [← updatesInRow_eq_length (htally.onServer hserver)]
    exact htally.inRow
  · exact htally.refuses_on_server hserver hfaces hother

end Connection

/-! ## A rehearsal

A client that has completed its handshake and is sent a ticket and then one KeyUpdate more than it
takes in a row. -/

namespace Rehearsal

/-- The client, with a ticket store. -/
def toldClient : Connection (Station FinishedKeys Signer TicketStore) where
  endpoint := ⟨.new { role := .client },
    { keys := { algorithm := .sha256, clientKey := [1], serverKey := [2] }, tickets := some {} }⟩
  flow := ⟨.client, .done⟩
  complete := true

/-- The body of the ticket. -/
def ticketBody : Bytes := List.replicate TicketStore.minimumLength 0

/-- What the client is sent. -/
def toldBytes : Bytes :=
  MessageType.newSessionTicket.code :: 0 :: 0 :: 13 :: ticketBody
    ++ (List.replicate 33 KeyUpdateRequest.notRequested.encode).flatten

/-- The bytes arrive, and the ticket and the first KeyUpdates are processed. -/
def storm (updates : Nat) : List (Incident (Station.ledger (σ := Signer))) :=
  .outside (fun s => { s with socket := s.socket.receive toldBytes }) (fun _ => rfl) (fun _ => rfl)
    :: List.replicate (updates + 1) (.call .processPostHandshake)

/-- The client once the first KeyUpdates have been processed. -/
def stormedClient (updates : Nat) : Connection (Station FinishedKeys Signer TicketStore) :=
  (toldClient.meetAll (storm updates)).2

set_option maxRecDepth 100000 in
/-- The client accepts as many KeyUpdates as fit in a row and fails for one more. -/
theorem toldClient_limited :
    toldClient.endpoint.context.keyUpdateCount = 0
    ∧ (answerOf Connection.processPostHandshake (stormedClient 31)).1 = .ok (.ready ())
    ∧ (stormedClient 32).endpoint.context.keyUpdateCount = 32
    ∧ (stormedClient 32).endpoint.environment.keys.readGeneration = 32
    ∧ (answerOf Connection.processPostHandshake (stormedClient 32)).1 = .error .tooManyKeyUpdates
    ∧ (stormedClient 32).history [.processPostHandshake]
      = [.read (.ok (.ready KeyUpdateRequest.notRequested.message)), .fatal .unexpectedMessage]
    ∧ (stormedClient 32).endpoint.environment.tickets.map TicketStore.tickets
      = some [ticketBody] := by
  have hfaces : ∀ updates ∈ [31, 32],
      (stormedClient updates).Faces KeyUpdateRequest.notRequested.message := by
    have h : ∀ updates ∈ [31, 32], (stormedClient updates).complete = true
        ∧ (stormedClient updates).endpoint.context.wait ≠ .error
        ∧ (answerOf Environment.readMessage (stormedClient updates).endpoint.environment).1
          = .ok (.ready KeyUpdateRequest.notRequested.message) := by decide +kernel
    exact fun updates hmem => ⟨(h updates hmem).1, (h updates hmem).2.1, (h updates hmem).2.2⟩
  have hrow : ∀ updates ∈ [31, 32],
      updatesInRow ((toldClient.meetAll (storm updates)).1.map Receipt.message) = updates := by
    decide +kernel
  have hupdate := KeyUpdateRequest.notRequested.message_isUpdate
  obtain ⟨_, haccepts, _⟩ :=
    Connection.keyUpdates_limited Station.ledger (c := toldClient) rfl (storm 31)
  obtain ⟨hlive, _, hrefuses, _, htickets⟩ :=
    Connection.keyUpdates_limited Station.ledger (c := toldClient) rfl (storm 32)
  have hfaces31 := hfaces 31 (by decide)
  have hfaces32 := hfaces 32 (by decide)
  obtain ⟨hcount, _, hgeneration⟩ := hlive hfaces32.wait
  have hroom : updatesInRow ((toldClient.meetAll (storm 31)).1.map Receipt.message)
      < maxKeyUpdates := by
    rw [hrow 31 (by decide)]
    decide
  have hfull : maxKeyUpdates
      ≤ updatesInRow ((toldClient.meetAll (storm 32)).1.map Receipt.message) := by
    rw [hrow 32 (by decide)]
    decide
  obtain ⟨hanswer, hhistory, _⟩ := hrefuses _ hfaces32 hupdate.1 hfull
  refine ⟨rfl, (haccepts _ hfaces31 hupdate (Connection.history_succeeds _ _)).2 hroom,
    hcount.trans (hrow 32 (by decide)), hgeneration.trans ?_, hanswer, hhistory,
    htickets.trans ?_⟩
  · decide +kernel
  · decide +kernel

end Rehearsal

end TlsHandshake
