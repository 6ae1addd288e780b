import TlsHandshake.Proofs.Link.KeysInStep

set_option autoImplicit false

/-! # Messages after the handshake and what they change

A connection keeps an account of the messages of its peer after the handshake: it counts KeyUpdates,
moves its reading key on, and hands tickets to a handler. `Uncounted` says that nothing of this is
touched, and `Ledger` where surroundings keep their part of it. A `Receipt` is a message that was
read after the handshake with what the call that read it returned. Main statements:
`Connection.process_receives`, the ways in which `processPostHandshake` ends, and
`Connection.call_uncounted`, no other call touches the account. -/

namespace TlsHandshake

open AuthFlow Endpoint Engine

/-! ## Tickets -/

/-- The body of a ticket that the handler has taken. -/
def Event.ticket? : Event → Option Bytes
  | storedTicket body _ (.ok ()) => some body
  | _ => none

/-- The bodies of the tickets that the handler has taken, in order. -/
def History.ticketsTaken (h : History) : List Bytes := h.filterMap Event.ticket?

@[simp] theorem History.ticketsTaken_nil : ticketsTaken [] = [] := rfl

@[simp] theorem History.ticketsTaken_cons (e : Event) (h : History) :
    ticketsTaken (e :: h) = e.ticket?.toList ++ ticketsTaken h := by
  unfold ticketsTaken
  cases he : e.ticket? <;> simp [he]

@[simp] theorem History.ticketsTaken_append (g h : History) :
    ticketsTaken (g ++ h) = ticketsTaken g ++ ticketsTaken h := List.filterMap_append

/-! ## Surroundings that keep count -/

/-- Where surroundings keep the generation of their reading key and, if there is one, the store of
    their tickets: the generation goes up with each rotation, and the store takes each ticket at its
    end. -/
structure Ledger (ε : Type) [Environment ε] where
  generation : ε → Nat
  tickets : ε → Option (List Bytes)
  handles : ∀ e, (tickets e).isSome → Environment.handlesTickets e = true
  generation_effect : ∀ {e e' : ε} {event : Event}, event.Effect e e' →
    generation e' = generation e + if event.rotates .read then 1 else 0
  tickets_effect : ∀ {e e' : ε} {event : Event}, event.Effect e e' →
    tickets e' = (tickets e).map (· ++ event.ticket?.toList)

namespace Ledger

variable {ε : Type} [Environment ε] (ledger : Ledger ε) {e e' : ε} {h : History}

theorem generation_performs (hperforms : Performs e h e') :
    ledger.generation e' = ledger.generation e + h.rotations .read :=
  hperforms.counts_rotations ledger.generation_effect

theorem tickets_performs (hperforms : Performs e h e') :
    ledger.tickets e' = (ledger.tickets e).map (· ++ h.ticketsTaken) := by
  induction h generalizing e with
  | nil =>
      obtain rfl : e' = e := hperforms
      simp
  | cons event h ih =>
      obtain ⟨between, heffect, hrest⟩ := hperforms
      rw [ih hrest, ledger.tickets_effect heffect, Option.map_map]
      simp [Function.comp_def]

end Ledger

section Stations

variable {σ : Type} {e e' : Station FinishedKeys σ TicketStore}

variable [SigningDevice σ] {event : Event}

/-- Only a ticket changes the store of a station. -/
theorem Event.Effect.tickets_eq (heffect : event.Effect e e')
    (hstored : ∀ body session answer, event ≠ .storedTicket body session answer) :
    e'.tickets = e.tickets := by
  cases event with
  | storedTicket body session answer => exact absurd rfl (hstored body session answer)
  | signed | completedSignature => exact (congrArg Station.tickets (of_onSigner heffect).1 :)
  | read => exact (congrArg Station.tickets (answerOf_readMessage heffect).2 :)
  | _ =>
      cases heffect
      rfl

/-- The store of a station, if it has one, takes the tickets handed to it at its end. -/
theorem Event.Effect.tickets (heffect : event.Effect e e') :
    e'.tickets.map TicketStore.tickets
      = (e.tickets.map TicketStore.tickets).map (· ++ event.ticket?.toList) := by
  by_cases hstored : ∃ body session answer, event = .storedTicket body session answer
  · obtain ⟨body, session, answer, rfl⟩ := hstored
    obtain ⟨-, ⟨hnone, -, hnone'⟩ | ⟨store, after, hsome, hstore, hsome'⟩⟩ :=
      answerOf_storeTicket heffect
    · rw [hnone, hnone']
      rfl
    · rw [hsome, hsome']
      simp only [answerOf, TicketHandler.store, TicketStore.store] at hstore
      by_cases hspans : body.spans TicketStore.minimumLength = true
      · simp only [hspans, if_true] at hstore
        cases hstore
        rfl
      · simp only [hspans] at hstore
        cases hstore
        simp [Event.ticket?]
  · have hticket : event.ticket? = none := by
      cases event with
      | storedTicket body session answer => exact absurd ⟨body, session, answer, rfl⟩ hstored
      | _ => rfl
    rw [heffect.tickets_eq fun body session answer heq => hstored ⟨body, session, answer, heq⟩,
      hticket]
    cases e.tickets <;> simp

/-- A station with derived keys and a ticket store keeps count, whatever its signer. -/
def Station.ledger : Ledger (Station FinishedKeys σ TicketStore) where
  generation s := s.keys.readGeneration
  tickets s := s.tickets.map TicketStore.tickets
  handles s hstore := by rwa [Option.isSome_map] at hstore
  generation_effect heffect := heffect.generation .read
  tickets_effect heffect := heffect.tickets

/-- On a station nothing fails but what is read and what is stored. -/
theorem Connection.history_succeeds {τ : Type} [TicketHandler τ]
    (c : Connection (Station FinishedKeys σ τ)) (calls : List Call) :
    ∀ event ∈ c.history calls, event.Succeeds := by
  obtain ⟨c', hran, _⟩ := history_ran c calls
  exact succeeds_of_performs (Recorded.performs_forget hran.performs)

end Stations

/-! ## Operations that do not count -/

/-- What has been done leaves alone what is kept about the messages of the peer. -/
structure Uncounted (c : Context) (h : History) (c' : Context) : Prop where
  config : c'.config = c.config := by rfl
  keyUpdateCount : c'.keyUpdateCount = c.keyUpdateCount := by rfl
  rotations : h.rotations .read = 0 := by rfl
  tickets : h.ticketsTaken = [] := by rfl

namespace Uncounted

variable {c c' c'' : Context} {g h : History}

theorem trans (hg : Uncounted c g c') (hh : Uncounted c' h c'') : Uncounted c (g ++ h) c'' where
  config := hh.config.trans hg.config
  keyUpdateCount := hh.keyUpdateCount.trans hg.keyUpdateCount
  rotations := by rw [History.rotations_append, hg.rotations, hh.rotations]
  tickets := by rw [History.ticketsTaken_append, hg.tickets, hh.tickets]; rfl

end Uncounted

@[simp] theorem ticketsTaken_report (e : Error) : (History.report e).ticketsTaken = [] := by
  rw [History.report]
  cases transportAlert? e <;> rfl

section Turns

variable {c c' : Context} {h : History} {role : Role} {signer? : Option SignerInfo} {phase : Phase}

theorem Endpoint.Settles.uncounted {o : Option Outcome} (hsettles : Settles c h o c') :
    Uncounted c h c' where
  config := hsettles.sameFlight.config
  keyUpdateCount := by cases hsettles <;> rfl
  rotations := hsettles.rotations
  tickets := by cases hsettles <;> simp [Event.ticket?]

theorem History.OfTurn.ticketsTaken (hturn : h.OfTurn phase) : h.ticketsTaken = [] := by
  refine hturn.filterMap_eq_nil fun event hevent => ?_
  cases event with
  | storedTicket => exact hevent.elim
  | _ => rfl

theorem Context.accept_uncounted (c : Context) : Uncounted c [] c.accept := by
  rw [accept, recordMessage]
  cases c.message <;> exact {}

theorem AuthFlow.Advance.uncounted {turn : Turn}
    (hadvance : Advance role signer? phase c h turn c') : Uncounted c h c' where
  config := by
    cases hadvance with
    | chainAccepted | anonymousAccepted | signatureAccepted | finishedAccepted
    | savedFinishedAccepted => exact (Context.accept_uncounted _).config
    | _ => rfl
  keyUpdateCount := by
    cases hadvance with
    | chainAccepted | anonymousAccepted | signatureAccepted | finishedAccepted
    | savedFinishedAccepted => exact (Context.accept_uncounted _).keyUpdateCount
    | _ => rfl
  rotations := hadvance.ofTurn.rotations
  tickets := hadvance.ofTurn.ticketsTaken

theorem AuthFlow.Failure.uncounted {e : Error} (hfailure : Failure role signer? phase c h e c') :
    Uncounted c h c' where
  config := by cases hfailure <;> rfl
  keyUpdateCount := by cases hfailure <;> rfl
  rotations := hfailure.ofTurn.rotations
  tickets := hfailure.ofTurn.ticketsTaken

/-- The handshake does not count. -/
theorem AuthFlow.uncounted_kept {ε : Type} [Environment ε] (role : Role) (c : Context) :
    Kept (ε := ε) role (fun _ p h => Uncounted c h p.context)
      (fun _ p h => Uncounted c h p.context) where
  suspend hbefore hsettled := hbefore.trans hsettled.1.uncounted
  settle hbefore hsettled := hbefore.trans hsettled.1.uncounted
  next hbefore hturn := hbefore.trans hturn.1.uncounted
  wait hbefore hturn := { hbefore.trans hturn.1.uncounted with }
  fail hbefore hturn := { hbefore.trans hturn.1.uncounted with }

end Turns

/-! ## One message -/

namespace Engine

variable {ticketed : Bool} {m : Message} {c c' : Context} {h : History}
  {answer : Except Error Unit} {request : KeyUpdateRequest}

/-- A key update of ours is not counted. -/
theorem StartsUpdate.uncounted (hstarts : StartsUpdate request c h answer c') :
    Uncounted c h c' := by
  cases hstarts with
  | pending => exact {}
  | started _ hqueues => cases hqueues <;> exact {}

theorem StartsUpdate.messagesRead (hstarts : StartsUpdate request c h answer c') :
    h.messagesRead = [] := by
  cases hstarts with
  | pending => rfl
  | started _ hqueues => cases hqueues <;> rfl

theorem Handles.messagesRead (hhandles : Handles ticketed m c h answer c') :
    h.messagesRead = [] := by
  cases hhandles with
  | keyUpdate _ _ hreceives =>
      cases hreceives with
      | answered _ hstarts =>
          rw [History.messagesRead_cons, hstarts.messagesRead]
          rfl
      | _ => rfl
  | _ => rfl

/-- A message that is taken is a KeyUpdate or, on a client, a ticket. -/
theorem Handles.of_ok (hhandles : Handles ticketed m c h (.ok ()) c') :
    (m.type = .keyUpdate ∧ c'.keyUpdateCount = c.countKeyUpdate.keyUpdateCount
      ∧ c'.keyUpdateCount ≤ maxKeyUpdates ∧ h.rotations .read = 1 ∧ h.ticketsTaken = [])
    ∨ (m.type = .newSessionTicket ∧ c.isServer = false ∧ c'.keyUpdateCount = 0
      ∧ h.rotations .read = 0 ∧ h.ticketsTaken = if ticketed then [m.body] else []) := by
  cases hhandles with
  | keyUpdate htype hcount hreceives =>
      left
      cases hreceives with
      | noted => exact ⟨htype, rfl, hcount, rfl, rfl⟩
      | answered _ hstarts =>
          have hupdate := hstarts.uncounted
          refine ⟨htype, hupdate.keyUpdateCount, hupdate.keyUpdateCount ▸ hcount, ?_, ?_⟩
          · rw [History.rotations_cons, hupdate.rotations]
            rfl
          · rw [History.ticketsTaken_cons, hupdate.tickets]
            rfl
  | ticketDropped htype hclient hhandler =>
      right
      rw [hhandler]
      exact ⟨htype, hclient, rfl, rfl, rfl⟩
  | ticketStored htype hclient hhandler =>
      right
      rw [hhandler]
      exact ⟨htype, hclient, rfl, rfl, rfl⟩

/-- No ticket is taken from a message that is refused. -/
theorem Handles.of_error {e : Error} (hhandles : Handles ticketed m c h (.error e) c') :
    h.ticketsTaken = [] := by
  cases hhandles with
  | keyUpdate _ _ hreceives =>
      cases hreceives with
      | answered _ hstarts =>
          rw [History.ticketsTaken_cons, hstarts.uncounted.tickets]
          rfl
      | _ => rfl
  | _ => rfl

/-- A KeyUpdate within the limit is taken, if it can be decoded and what it asks for can be done. -/
theorem Handles.of_isUpdate (hhandles : Handles ticketed m c h answer c') (hupdate : m.IsUpdate)
    (hcount : c.countKeyUpdate.keyUpdateCount ≤ maxKeyUpdates)
    (hsucceeds : ∀ event ∈ h, event.Succeeds) : answer = .ok () := by
  obtain ⟨htype, request, hdecoded⟩ := hupdate
  cases hhandles with
  | tooMany _ hmore => omega
  | keyUpdate _ _ hreceives =>
      cases hreceives with
      | undecodable hdecode =>
          rw [hdecoded] at hdecode
          cases hdecode
      | unrotated => exact (hsucceeds _ List.mem_cons_self).elim
      | noted => rfl
      | answered _ hstarts => exact (hstarts.updates (List.forall_mem_cons.1 hsucceeds).2).1
  | ticketDropped hticket | ticketStored hticket | ticketRefused hticket =>
      exact absurd (htype.symm.trans hticket) nofun
  | outOfPlace hother => exact absurd htype hother

/-- A KeyUpdate beyond the limit is refused before anything is done about it. -/
theorem Handles.of_tooMany (hhandles : Handles ticketed m c h answer c')
    (htype : m.type = .keyUpdate) (hcount : maxKeyUpdates < c.countKeyUpdate.keyUpdateCount) :
    answer = .error .tooManyKeyUpdates ∧ h = [.fatal .unexpectedMessage] := by
  cases hhandles with
  | tooMany => exact ⟨rfl, rfl⟩
  | keyUpdate _ hless => omega
  | ticketDropped hticket | ticketStored hticket | ticketRefused hticket =>
      exact absurd (htype.symm.trans hticket) nofun
  | outOfPlace hother => exact absurd htype hother

end Engine

/-! ## Receipts -/

/-- A message that was read after the handshake, with what the call that read it returned. -/
structure Receipt where
  message : Message
  answer : Except Error (Awaited Unit)

/-- Whether the message was accepted. -/
def Receipt.accepted (r : Receipt) : Bool :=
  match r.answer with
  | .ok (.ready ()) => true
  | _ => false

namespace Connection

variable {ε : Type} [Environment ε]

/-- What a call reads to process it after the handshake, with what it returns. -/
def receipts (c : Connection ε) : Call → List Receipt
  | .processPostHandshake =>
      (c.history [.processPostHandshake]).messagesRead.map fun m =>
        ⟨m, (answerOf processPostHandshake c).1⟩
  | _ => []

theorem answer_of_mem_receipts {c : Connection ε} {r : Receipt}
    (hr : r ∈ c.receipts .processPostHandshake) :
    r.answer = (answerOf processPostHandshake c).1 := by
  obtain ⟨m, _, rfl⟩ := List.mem_map.1 hr
  rfl

/-- `m` is what a call that processes a message after the handshake has to deal with. -/
structure Faces (c : Connection ε) (m : Message) : Prop where
  complete : c.complete = true
  wait : c.endpoint.context.wait ≠ .error
  read : (answerOf Environment.readMessage c.endpoint.environment).1 = .ok (.ready m)

theorem Faces.unique {c : Connection ε} {m m' : Message} (h : c.Faces m) (h' : c.Faces m') :
    m = m' := by
  have hread := h.read.symm.trans h'.read
  cases hread
  rfl

/-- The ways in which a call that processes a message after the handshake ends: what it does, its
    receipts, and the connection after. -/
inductive Receives (c : Connection ε) : History → List Receipt → Connection ε → Prop
  | nothing {h : History} {c' : Connection ε} (hnone : ∀ m, ¬ c.Faces m)
      (huncounted : Uncounted c.endpoint.context h c'.endpoint.context)
      (hperforms : Performs c.endpoint.environment h c'.endpoint.environment)
      (hwait : c'.endpoint.context.wait = .error
        ∨ c'.endpoint.context.wait = c.endpoint.context.wait) :
      Receives c h [] c'
  | accepted {m : Message} {env : ε} {h : History} {q : Endpoint ε} (hfaces : c.Faces m)
      (hread : Performs c.endpoint.environment [.read (.ok (.ready m))] env)
      (hhandled : Handled m ⟨c.endpoint.context, env⟩ h (.ok ()) q) :
      Receives c (.read (.ok (.ready m)) :: h) [⟨m, .ok (.ready ())⟩] { c with endpoint := q.clear }
  | refused {m : Message} {env : ε} {h : History} {q : Endpoint ε} {e : Error}
      (hfaces : c.Faces m)
      (hread : Performs c.endpoint.environment [.read (.ok (.ready m))] env)
      (hhandled : Handled m ⟨c.endpoint.context, env⟩ h (.error e) q) :
      Receives c (.read (.ok (.ready m)) :: h) [⟨m, .error e⟩]
        { c with endpoint := q.clear.waitFor .error }

theorem handled_forget {m : Message} {p q : Endpoint (Recorded ε)} {h : History}
    {answer : Except Error Unit} (hhandled : Handled m p h answer q) :
    Handled m p.forget h answer q.forget :=
  ⟨hhandled.1, Recorded.performs_forget hhandled.2⟩

/-- What has been read first is what there was to read. -/
theorem read_of_performs {e e' : ε} {answer : Except Error (Awaited Message)} {h : History}
    (hperforms : Performs e (.read answer :: h) e') :
    (answerOf Environment.readMessage e).1 = answer := by
  obtain ⟨between, heffect, _⟩ := hperforms
  change answerOf Environment.readMessage e = (answer, between) at heffect
  rw [heffect]

/-- Every call that processes a message after the handshake ends in one of the ways listed. -/
theorem process_receives (c : Connection ε) :
    Receives c (c.history [.processPostHandshake]) (c.receipts .processPostHandshake)
      (c.call .processPostHandshake).2 := by
  obtain ⟨c', hcalled, hafter⟩ := history_called c .processPostHandshake
  have hanswer : (c.call .processPostHandshake).1 = .polled (answerOf processPostHandshake c).1 :=
    rfl
  rw [hanswer] at hcalled
  rw [hafter, receipts]
  -- the history and the answer are fixed by the case, so they are freed first
  generalize c.history [.processPostHandshake] = h at hcalled ⊢
  generalize (answerOf processPostHandshake c).1 = answer at hcalled ⊢
  cases hcalled with
  | postHandshakeTooEarly hearly =>
      refine .nothing (fun m hfaces => ?_) {} rfl (Or.inr rfl)
      rcases hearly with hearly | hearly
      · cases hfaces.complete.symm.trans hearly
      · exact hfaces.wait hearly
  | processed hcomplete hwait hprocessed =>
      have hperforms := Recorded.performs_forget hprocessed.performs
      cases hprocessed with
      | delayed =>
          refine .nothing (fun m hfaces => ?_) {} hperforms (Or.inr rfl)
          cases hfaces.read.symm.trans (read_of_performs hperforms)
      | @unread env e =>
          have hnone : History.messagesRead (.read (.error e) :: History.report e) = [] := by
            simp [Event.message?]
          have huncounted : Uncounted c.endpoint.context (.read (.error e) :: History.report e)
              { c.endpoint.context with wait := .error } :=
            { rotations := by simp [Event.rotates], tickets := by simp [Event.ticket?] }
          rw [hnone]
          refine .nothing (fun m hfaces => ?_) huncounted hperforms (Or.inl rfl)
          cases hfaces.read.symm.trans (read_of_performs hperforms)
      | @handled q env m h hread hhandled =>
          have hfaces : c.Faces m := ⟨hcomplete, hwait, read_of_performs hperforms⟩
          have hreceives : Receives c (.read (.ok (.ready m)) :: h) [⟨m, .ok (.ready ())⟩]
              { c with endpoint := q.forget.clear } :=
            .accepted hfaces (Recorded.performs_forget hread) (handled_forget hhandled)
          rw [History.messagesRead_cons, hhandled.1.messagesRead]
          exact hreceives
      | @refused q env m h e hread hhandled =>
          have hfaces : c.Faces m := ⟨hcomplete, hwait, read_of_performs hperforms⟩
          have hreceives : Receives c (.read (.ok (.ready m)) :: h) [⟨m, .error e⟩]
              { c with endpoint := q.forget.clear.waitFor .error } :=
            .refused hfaces (Recorded.performs_forget hread) (handled_forget hhandled)
          rw [History.messagesRead_cons, hhandled.1.messagesRead]
          exact hreceives

/-- Every call but `processPostHandshake` leaves alone what is kept about the messages of the
    peer. -/
theorem Called.uncounted {c c' : Connection ε} {call : Call} {h : History} {answer : Answer}
    (hcalled : Called c call h answer c') (hcall : call ≠ .processPostHandshake) :
    Uncounted c.endpoint.context h c'.endpoint.context := by
  cases hcalled with
  | handshake hdrives =>
      -- the account starts with nothing done, whatever the handshake has left behind
      have hkept := uncounted_kept (ε := ε) c.flow.role c.endpoint.context
      exact hkept.drives (g := []) {} hdrives
  | keyUpdateStarted _ hstarted => exact hstarted.1.uncounted
  | postHandshakeTooEarly | processed => exact absurd rfl hcall
  | _ => exact {}

/-- Every call but `processPostHandshake` reads nothing to process it after the handshake, and a
    connection that it leaves live was live before. -/
theorem call_uncounted (c : Connection ε) {call : Call} (hcall : call ≠ .processPostHandshake) :
    c.receipts call = []
    ∧ ∃ h, Uncounted c.endpoint.context h (c.call call).2.endpoint.context
      ∧ Performs c.endpoint.environment h (c.call call).2.endpoint.environment
      ∧ ((c.call call).2.endpoint.context.wait ≠ .error → c.endpoint.context.wait ≠ .error) := by
  obtain ⟨h, hcalled⟩ := call_called c call
  refine ⟨?_, h, hcalled.uncounted hcall, hcalled.performs, fun hlive hwait => ?_⟩
  · cases call with
    | processPostHandshake => exact absurd rfl hcall
    | _ => rfl
  · -- a call on a failed connection leaves it failed
    exact hlive ((hcalled.of_failed hwait).1.wait.trans hwait)

/-- Until messages are processed after the handshake, no KeyUpdate is counted. -/
theorem run_uncounted (c : Connection ε) (calls : List Call)
    (hcalls : .processPostHandshake ∉ calls) :
    (c.run calls).2.endpoint.context.keyUpdateCount = c.endpoint.context.keyUpdateCount := by
  induction calls generalizing c with
  | nil => rfl
  | cons call calls ih =>
      obtain ⟨hcall, hrest⟩ := List.ne_and_not_mem_of_not_mem_cons hcalls
      obtain ⟨_, h, huncounted, _⟩ := c.call_uncounted hcall.symm
      exact (ih (c.call call).2 hrest).trans huncounted.keyUpdateCount

end Connection

end TlsHandshake
