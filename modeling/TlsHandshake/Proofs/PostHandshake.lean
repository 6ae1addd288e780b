import TlsHandshake.Connection
import TlsHandshake.Proofs.Flight.Rounds

set_option autoImplicit false

/-! # What can happen after the handshake

Key updates and the messages that come after the handshake, as relations: each lists all the ways
its operation can end, under which conditions, with which events, and what the context is
afterwards. Main statements: `processPostHandshake_processed` and `keyUpdate_started`, on a
connection that is complete the two operations are of these forms. -/

namespace TlsHandshake

/-- The context once a KeyUpdate of the peer has been counted. -/
def Context.countKeyUpdate (c : Context) : Context :=
  { c with keyUpdateCount := min 255 (c.keyUpdateCount + 1) }

/-- The context once another message of the peer has ended a row of KeyUpdates. -/
def Context.resetKeyUpdates (c : Context) : Context := { c with keyUpdateCount := 0 }

namespace Engine

/-! ## Key updates -/

/-- The ways in which a KeyUpdate of ours is queued: the context before, the events, the answer, and
    the context after. Where it fails, what has been done stays done. -/
inductive QueuesUpdate (request : KeyUpdateRequest) (c : Context) :
    History → Except Error Unit → Context → Prop
  | unqueued {e : Error} :
      QueuesUpdate request c [.queued request.encode (.error e), .fatal .internalError] (.error e) c
  | unrotated {e : Error} :
      QueuesUpdate request c
        [.queued request.encode (.ok ()), .rotated .write (.error e), .fatal .internalError]
        (.error e) c
  | queued :
      QueuesUpdate request c [.queued request.encode (.ok ()), .rotated .write (.ok ())] (.ok ())
        { c with keyUpdatePending := true }

/-- The ways in which a key update is started: not at all while one is to be flushed. -/
inductive StartsUpdate (request : KeyUpdateRequest) (c : Context) :
    History → Except Error Unit → Context → Prop
  | pending (hpending : c.keyUpdatePending = true) : StartsUpdate request c [] (.ok ()) c
  | started {h : History} {answer : Except Error Unit} {c' : Context}
      (hpending : c.keyUpdatePending = false) (hqueues : QueuesUpdate request c h answer c') :
      StartsUpdate request c h answer c'

/-- The ways in which a KeyUpdate of the peer with the given body is dealt with, once it has been
    counted. -/
inductive ReceivesUpdate (body : Bytes) (c : Context) :
    History → Except Error Unit → Context → Prop
  | undecodable {e : Error} (hdecode : KeyUpdateRequest.decode body = .error e) :
      ReceivesUpdate body c [.fatal .decodeError] (.error e) c
  | unrotated {request : KeyUpdateRequest} {e : Error}
      (hdecode : KeyUpdateRequest.decode body = .ok request) :
      ReceivesUpdate body c [.rotated .read (.error e), .fatal .internalError] (.error e) c
  | noted (hdecode : KeyUpdateRequest.decode body = .ok .notRequested) :
      ReceivesUpdate body c [.rotated .read (.ok ())] (.ok ()) c
  | answered {h : History} {answer : Except Error Unit} {c' : Context}
      (hdecode : KeyUpdateRequest.decode body = .ok .requested)
      (hstarts : StartsUpdate .notRequested c h answer c') :
      ReceivesUpdate body c (.rotated .read (.ok ()) :: h) answer c'

/-! ## Messages -/

/-- The ways in which a pending message is dealt with; `ticketed` says whether there is a ticket
    handler. -/
inductive Handles (ticketed : Bool) (m : Message) (c : Context) :
    History → Except Error Unit → Context → Prop
  | tooMany (htype : m.type = .keyUpdate)
      (hcount : maxKeyUpdates < c.countKeyUpdate.keyUpdateCount) :
      Handles ticketed m c [.fatal .unexpectedMessage] (.error .tooManyKeyUpdates) c.countKeyUpdate
  | keyUpdate {h : History} {answer : Except Error Unit} {c' : Context}
      (htype : m.type = .keyUpdate) (hcount : c.countKeyUpdate.keyUpdateCount ≤ maxKeyUpdates)
      (hreceives : ReceivesUpdate m.body c.countKeyUpdate h answer c') :
      Handles ticketed m c h answer c'
  | ticketDropped (htype : m.type = .newSessionTicket) (hclient : c.isServer = false)
      (hhandler : ticketed = false) : Handles ticketed m c [] (.ok ()) c.resetKeyUpdates
  | ticketStored (htype : m.type = .newSessionTicket) (hclient : c.isServer = false)
      (hhandler : ticketed = true) :
      Handles ticketed m c [.storedTicket m.body c.session (.ok ())] (.ok ()) c.resetKeyUpdates
  | ticketRefused {e : Error} (htype : m.type = .newSessionTicket) (hclient : c.isServer = false)
      (hhandler : ticketed = true) :
      Handles ticketed m c [.storedTicket m.body c.session (.error e), .fatal (ticketAlert e)]
        (.error e) c.resetKeyUpdates
  | outOfPlace (htype : m.type ≠ .keyUpdate)
      (hticket : m.type = .newSessionTicket → c.isServer = true) :
      Handles ticketed m c [.fatal .unexpectedMessage]
        (.error (.unexpectedMessage (.afterHandshake m.type))) c.resetKeyUpdates

section Contexts

variable {c c' : Context} {h : History} {answer : Except Error Unit}

/-- A key update touches nothing of the context but whether one is to be flushed. -/
theorem StartsUpdate.context {request : KeyUpdateRequest}
    (hstarts : StartsUpdate request c h answer c') :
    ∃ pending, c' = { c with keyUpdatePending := pending } := by
  cases hstarts with
  | pending => exact ⟨_, rfl⟩
  | started _ hqueues => cases hqueues <;> exact ⟨_, rfl⟩

/-- A message touches nothing of the context but what is kept about key updates. -/
theorem Handles.context {ticketed : Bool} {m : Message}
    (hhandles : Handles ticketed m c h answer c') :
    ∃ count pending, c' = { c with keyUpdateCount := count, keyUpdatePending := pending } := by
  cases hhandles with
  | keyUpdate _ _ hreceives =>
      cases hreceives with
      | answered _ hstarts =>
          obtain ⟨pending, rfl⟩ := hstarts.context
          exact ⟨_, pending, rfl⟩
      | _ => exact ⟨_, _, rfl⟩
  | _ => exact ⟨_, _, rfl⟩

end Contexts

variable {ε : Type} [Environment ε]

/-- An operation of the surroundings that answers nothing but whether it could be done, with the
    alert for its error. -/
theorem orAlert_perform_runs (descriptionOf : Error → AlertDescription)
    (act : EStateM Error ε Unit) (event : Except Error Unit → Event)
    (heffect : ∀ e answer e', (event answer).Effect e e' ↔ answerOf act e = (answer, e'))
    (p : Endpoint ε) :
    (∃ env, (orAlert descriptionOf (perform act)).Runs p [event (.ok ())] (.ok ())
      ⟨p.context, env⟩)
    ∨ ∃ e env, (orAlert descriptionOf (perform act)).Runs p
      [event (.error e), .fatal (descriptionOf e)] (.error e) ⟨p.context, env⟩ := by
  cases hact : act p.environment with
  | ok a env =>
      have hperform : Runs (perform act) p [event (.ok ())] (.ok ()) ⟨p.context, env⟩ := by
        refine ⟨?_, Performs.single ((heffect _ _ _).2 (answerOf_eq_ok_iff.2 hact))⟩
        simp only [answerOf, perform, hact]
      exact Or.inl ⟨env, hperform.orAlert_ok _⟩
  | error e env =>
      have hperform : Runs (perform act) p [event (.error e)] (.error e) ⟨p.context, env⟩ := by
        refine ⟨?_, Performs.single ((heffect _ _ _).2 (answerOf_eq_error_iff.2 hact))⟩
        simp only [answerOf, perform, hact]
      exact Or.inr ⟨e, _, hperform.orAlert_error _⟩

/-- Two things can fail one after the other: queueing the message and moving the key on. -/
theorem queueKeyUpdate_runs (request : KeyUpdateRequest) (p : Endpoint ε) :
    ∃ h answer q, (queueKeyUpdate request).Runs p h answer q
      ∧ QueuesUpdate request p.context h answer q.context := by
  rcases orAlert_perform_runs (fun _ => .internalError) (Environment.addMessage request.encode)
    (.queued request.encode) (fun _ _ _ => Iff.rfl) p with ⟨env, hadd⟩ | ⟨e, env, hadd⟩
  · rcases orAlert_perform_runs (fun _ => .internalError) (Environment.rotateTrafficKey .write)
      (.rotated .write) (fun _ _ _ => Iff.rfl) ⟨p.context, env⟩ with
      ⟨env', hrotate⟩ | ⟨e, env', hrotate⟩
    · have hmark : Runs (modifyContext fun c => { c with keyUpdatePending := true })
          ⟨p.context, env'⟩ [] (.ok ()) ⟨{ p.context with keyUpdatePending := true }, env'⟩ :=
        ⟨rfl, rfl⟩
      exact ⟨_, _, _, hadd.bind (hrotate.bind hmark), .queued⟩
    · exact ⟨_, _, _, hadd.bind hrotate.bind_error, .unrotated⟩
  · exact ⟨_, _, _, hadd.bind_error, .unqueued⟩

theorem sendKeyUpdate_runs (request : KeyUpdateRequest) (p : Endpoint ε) :
    ∃ h answer q, (sendKeyUpdate request).Runs p h answer q
      ∧ StartsUpdate request p.context h answer q.context := by
  cases hpending : p.context.keyUpdatePending with
  | true =>
      refine ⟨[], .ok (), p, (runs_pure ()).of_eq ?_, .pending hpending⟩
      simp only [sendKeyUpdate, context, Bind.bind, EStateM.bind, hpending]
      rfl
  | false =>
      obtain ⟨h, answer, q, hruns, hqueues⟩ := queueKeyUpdate_runs request p
      refine ⟨h, answer, q, hruns.of_eq ?_, .started hpending hqueues⟩
      simp only [sendKeyUpdate, context, Bind.bind, EStateM.bind, hpending]
      rfl

theorem receiveKeyUpdate_runs (p : Endpoint ε) :
    ∃ h answer q, receiveKeyUpdate.Runs p h answer q
      ∧ ReceivesUpdate p.context.messageBody p.context h answer q.context := by
  cases hdecode : KeyUpdateRequest.decode p.context.messageBody with
  | error e =>
      refine ⟨_, .error e, _, (runs_fatal .decodeError e).of_eq ?_, .undecodable hdecode⟩
      simp only [receiveKeyUpdate, context, Bind.bind, EStateM.bind, hdecode, orFatal]
      rfl
  | ok request =>
      -- a decoded request first moves the reading key on, whatever it asks for
      have hreceive : receiveKeyUpdate p = (do
          orAlert (fun _ => .internalError) (perform (Environment.rotateTrafficKey .read))
          if request = .requested && !p.context.keyUpdatePending then
            queueKeyUpdate .notRequested : Engine ε Unit) p := by
        simp only [receiveKeyUpdate, context, Bind.bind, EStateM.bind, hdecode, orFatal, Pure.pure,
          EStateM.pure]
      rcases orAlert_perform_runs (fun _ => .internalError) (Environment.rotateTrafficKey .read)
        (.rotated .read) (fun _ _ _ => Iff.rfl) p with ⟨env, hrotate⟩ | ⟨e, env, hrotate⟩
      · cases request with
        | notRequested =>
            exact ⟨_, _, _, (hrotate.bind (runs_pure ())).of_eq hreceive, .noted hdecode⟩
        | requested =>
            obtain ⟨h, answer, q, hsend, hstarts⟩ :=
              sendKeyUpdate_runs .notRequested (⟨p.context, env⟩ : Endpoint ε)
            have hrest : Runs (if KeyUpdateRequest.requested = .requested
                && !p.context.keyUpdatePending then queueKeyUpdate .notRequested else pure ())
                ⟨p.context, env⟩ h answer q := hsend.of_eq rfl
            exact ⟨_, answer, q, (hrotate.bind hrest).of_eq hreceive, .answered hdecode hstarts⟩
      · exact ⟨_, .error e, _, hrotate.bind_error.of_eq hreceive, .unrotated hdecode⟩

/-- A pending session ticket on a client goes to the handler, if there is one. -/
theorem receiveTicket_runs {m : Message} {c : Context} (p : Endpoint ε)
    (hcontext : p.context = c.resetKeyUpdates) (hmessage : c.message = some m)
    (htype : m.type = .newSessionTicket) (hclient : c.isServer = false) :
    ∃ h answer q, receiveTicket.Runs p h answer q
      ∧ Handles (Environment.handlesTickets p.environment) m c h answer q.context := by
  have hbody : p.context.messageBody = m.body := by
    rw [hcontext, Context.messageBody, Context.resetKeyUpdates, hmessage]
    rfl
  have hsession : p.context.session = c.session := by rw [hcontext]; rfl
  cases hhandler : Environment.handlesTickets p.environment with
  | false =>
      refine ⟨[], .ok (), p, (runs_pure ()).of_eq ?_, ?_⟩
      · simp only [receiveTicket, hhandler]
        rfl
      · rw [hcontext]
        exact .ticketDropped htype hclient rfl
  | true =>
      have hreceive : receiveTicket p = orAlert ticketAlert
          (perform (Environment.storeTicket m.body c.session)) p := by
        simp only [receiveTicket, hhandler, hbody, hsession, if_true]
      rcases orAlert_perform_runs ticketAlert (Environment.storeTicket m.body c.session)
        (.storedTicket m.body c.session) (fun _ _ _ => Iff.rfl) p with
        ⟨env, hstore⟩ | ⟨e, env, hstore⟩
      · refine ⟨_, .ok (), _, hstore.of_eq hreceive, ?_⟩
        rw [hcontext]
        exact .ticketStored htype hclient rfl
      · refine ⟨_, .error e, _, hstore.of_eq hreceive, ?_⟩
        rw [hcontext]
        exact .ticketRefused htype hclient rfl

section PostHandshake

variable {m : Message} {p : Endpoint ε}

theorem postHandshake_keyUpdate (hmessage : p.context.message = some m)
    (htype : m.type = .keyUpdate) :
    postHandshake p = (do
      if maxKeyUpdates < p.context.countKeyUpdate.keyUpdateCount then
        fatal .unexpectedMessage .tooManyKeyUpdates
      receiveKeyUpdate : Engine ε Unit) { p with context := p.context.countKeyUpdate } := by
  simp only [postHandshake, context, Bind.bind, EStateM.bind, hmessage, Option.map_some, htype]
  rfl

theorem postHandshake_other (hmessage : p.context.message = some m) (htype : m.type ≠ .keyUpdate) :
    postHandshake p = (if m.type = .newSessionTicket && !p.context.isServer then receiveTicket
      else fatal .unexpectedMessage (.unexpectedMessage (.afterHandshake m.type)) : Engine ε Unit)
      { p with context := p.context.resetKeyUpdates } := by
  simp only [postHandshake, context, Bind.bind, EStateM.bind, hmessage, Option.map_some]
  cases hm : m.type with
  | keyUpdate => exact absurd hm htype
  | _ => rfl

/-- A pending message is dealt with in one of the ways listed. -/
theorem postHandshake_runs (hmessage : p.context.message = some m) :
    ∃ h answer q, postHandshake.Runs p h answer q
      ∧ Handles (Environment.handlesTickets p.environment) m p.context h answer q.context := by
  by_cases hupdate : m.type = .keyUpdate
  · have hpost := postHandshake_keyUpdate hmessage hupdate
    by_cases hcount : maxKeyUpdates < p.context.countKeyUpdate.keyUpdateCount
    · refine ⟨_, .error _, _, (runs_fatal .unexpectedMessage .tooManyKeyUpdates).of_eq ?_,
        .tooMany hupdate hcount⟩
      rw [hpost, if_pos hcount]
      rfl
    · obtain ⟨h, answer, q, hreceive, hreceives⟩ :=
        receiveKeyUpdate_runs (⟨p.context.countKeyUpdate, p.environment⟩ : Endpoint ε)
      have hbody : p.context.countKeyUpdate.messageBody = m.body := by
        rw [Context.messageBody, Context.countKeyUpdate, hmessage]
        rfl
      rw [hbody] at hreceives
      refine ⟨h, answer, q, hreceive.of_eq ?_,
        .keyUpdate hupdate (Nat.le_of_not_lt hcount) hreceives⟩
      rw [hpost, if_neg hcount]
  · have hpost := postHandshake_other hmessage hupdate
    by_cases hticket : m.type = .newSessionTicket ∧ p.context.isServer = false
    · obtain ⟨h, answer, q, hreceive, hhandles⟩ := receiveTicket_runs
        (⟨p.context.resetKeyUpdates, p.environment⟩ : Endpoint ε) rfl hmessage hticket.1 hticket.2
      refine ⟨h, answer, q, hreceive.of_eq ?_, hhandles⟩
      rw [hpost, hticket.1, hticket.2]
      rfl
    · have hplace : m.type = .newSessionTicket → p.context.isServer = true := fun htype =>
        Bool.of_not_eq_false fun hclient => hticket ⟨htype, hclient⟩
      have hfails : ¬ (m.type = .newSessionTicket && !p.context.isServer) = true := by
        simpa using hplace
      refine ⟨_, .error _, _, (runs_fatal .unexpectedMessage _).of_eq ?_,
        .outOfPlace hupdate hplace⟩
      rw [hpost, if_neg hfails]
      rfl

end PostHandshake

end Engine

/-! ## Calls -/

namespace Endpoint

open Engine

variable {ε : Type} [Environment ε]

/-- Dealing with `m`, which `p` has read, performs the events of `h` and leaves `q`. -/
def Handled (m : Message) (p : Endpoint ε) (h : History) (answer : Except Error Unit)
    (q : Endpoint ε) : Prop :=
  Handles (Environment.handlesTickets p.environment) m { p.context with message := some m } h answer
    q.context ∧ Performs p.environment h q.environment

/-- The endpoint once it has dealt with its message. -/
def clear (p : Endpoint ε) : Endpoint ε := { p with context := { p.context with message := none } }

/-- The ways in which a call that processes one message after the handshake ends; if it fails, so
    does the connection. -/
inductive Processed : Endpoint ε → History → Except Error (Awaited Unit) → Endpoint ε → Prop
  | delayed {p : Endpoint ε} {env : ε}
      (hread : Performs p.environment [.read (.ok .pending)] env) :
      Processed p [.read (.ok .pending)] (.ok .pending) ⟨p.context, env⟩
  | unread {p : Endpoint ε} {env : ε} {e : Error}
      (hread : Performs p.environment (.read (.error e) :: History.report e) env) :
      Processed p (.read (.error e) :: History.report e) (.error e)
        (waitFor ⟨p.context, env⟩ .error)
  | handled {p q : Endpoint ε} {env : ε} {m : Message} {h : History}
      (hread : Performs p.environment [.read (.ok (.ready m))] env)
      (hhandled : Handled m ⟨p.context, env⟩ h (.ok ()) q) :
      Processed p (.read (.ok (.ready m)) :: h) (.ok (.ready ())) q.clear
  | refused {p q : Endpoint ε} {env : ε} {m : Message} {h : History} {e : Error}
      (hread : Performs p.environment [.read (.ok (.ready m))] env)
      (hhandled : Handled m ⟨p.context, env⟩ h (.error e) q) :
      Processed p (.read (.ok (.ready m)) :: h) (.error e) (q.clear.waitFor .error)

theorem Processed.performs {p q : Endpoint ε} {h : History} {answer : Except Error (Awaited Unit)}
    (hprocessed : Processed p h answer q) : Performs p.environment h q.environment := by
  cases hprocessed with
  | delayed hread | unread hread => exact hread
  | handled hread hhandled | refused hread hhandled => exact hread.append hhandled.2

/-- A key update of ours, started on `p`, performs the events of `h` and leaves `q`. -/
def Started (request : KeyUpdateRequest) (p : Endpoint ε) (h : History) (answer : Except Error Unit)
    (q : Endpoint ε) : Prop :=
  StartsUpdate request p.context h answer q.context ∧ Performs p.environment h q.environment

end Endpoint

namespace Connection

open Engine Endpoint

variable {ε : Type} [Environment ε]

/-- Dealing with a message leaves none to be dealt with, however it ends. -/
theorem dispatch_handled (m : Message) (p : Endpoint ε) :
    ∃ h answer q, (dispatch m).Runs p h answer (clear q) ∧ Handled m p h answer q := by
  obtain ⟨h, answer, q, ⟨hpost, hperforms⟩, hhandles⟩ := postHandshake_runs (m := m)
    (p := (⟨{ p.context with message := some m }, p.environment⟩ : Endpoint ε)) rfl
  refine ⟨h, answer, q, ⟨?_, hperforms⟩, hhandles, hperforms⟩
  cases answer with
  | ok a =>
      simp only [answerOf, dispatch, answerOf_eq_ok_iff.1 hpost]
      rfl
  | error e =>
      simp only [answerOf, dispatch, answerOf_eq_error_iff.1 hpost]
      rfl

/-- A message is there, or not yet, or it cannot be read, and then the peer is told. -/
theorem readPostHandshake_runs (p : Endpoint ε) :
    (∃ answer env, readPostHandshake.Runs p [.read (.ok answer)] (.ok answer) ⟨p.context, env⟩)
    ∨ ∃ e env, readPostHandshake.Runs p (.read (.error e) :: History.report e) (.error e)
      ⟨p.context, env⟩ := by
  cases hread : Environment.readMessage p.environment with
  | ok answer env =>
      refine Or.inl ⟨answer, env, ?_, Performs.single (answerOf_eq_ok_iff.2 hread)⟩
      simp only [answerOf, readPostHandshake, perform, hread]
  | error e env =>
      obtain ⟨env', hreport, hperforms⟩ := reportTransport_runs e ⟨p.context, env⟩
      refine Or.inr ⟨e, env', ?_, Performs.cons (answerOf_eq_error_iff.2 hread) hperforms⟩
      rw [answerOf_eq_ok_iff] at hreport
      simp only [answerOf, readPostHandshake, perform, hread, Bind.bind, EStateM.bind, hreport]
      rfl

/-! ### On a connection -/

section Act

variable {α : Type} {action : Engine ε α} {c : Connection ε} {h : History} {a : α} {e : Error}
  {q : Endpoint ε}

theorem answerOf_act {answer : Except Error α} (hruns : action.Runs c.endpoint h answer q) :
    answerOf (act action) c = (answer, { c with endpoint := q }) := by
  cases answer with
  | ok a => simp only [answerOf, act, answerOf_eq_ok_iff.1 hruns.1]
  | error e => simp only [answerOf, act, answerOf_eq_error_iff.1 hruns.1]

theorem answerOf_actFinally_ok (hruns : action.Runs c.endpoint h (.ok a) q) :
    answerOf (actFinally action) c = (.ok a, { c with endpoint := q }) := by
  simp only [answerOf, actFinally, act, answerOf_eq_ok_iff.1 hruns.1]

theorem answerOf_actFinally_error (hruns : action.Runs c.endpoint h (.error e) q) :
    answerOf (actFinally action) c = (.error e, { c with endpoint := q.waitFor .error }) := by
  simp only [answerOf, actFinally, act, answerOf_eq_error_iff.1 hruns.1]
  rfl

end Act

/-- On a connection that is complete and has not failed, a message is processed in one of the ways
    listed. -/
theorem processPostHandshake_processed {c : Connection ε} (hcomplete : c.complete = true)
    (hwait : c.endpoint.context.wait ≠ .error) :
    ∃ h answer q, answerOf processPostHandshake c = (answer, { c with endpoint := q })
      ∧ Processed c.endpoint h answer q := by
  have hearly : ¬ (!c.complete || c.endpoint.context.wait = .error) = true := by
    simp [hcomplete, hwait]
  simp only [answerOf, processPostHandshake, if_neg hearly]
  rcases readPostHandshake_runs c.endpoint with ⟨m | _, env, hread⟩ | ⟨e, env, hread⟩
  · obtain ⟨h, answer, q, hdispatch, hhandled⟩ := dispatch_handled m ⟨c.endpoint.context, env⟩
    cases answer with
    | ok a =>
        have hrest : Runs (do dispatch m; return Awaited.ready ()) ⟨c.endpoint.context, env⟩
            (h ++ []) (.ok (.ready ())) q.clear := hdispatch.bind (runs_pure _)
        rw [List.append_nil] at hrest
        exact ⟨_, _, _, answerOf_actFinally_ok (hread.bind hrest), .handled hread.2 hhandled⟩
    | error e =>
        exact ⟨_, _, _, answerOf_actFinally_error (hread.bind hdispatch.bind_error),
          .refused hread.2 hhandled⟩
  · exact ⟨_, _, _, answerOf_actFinally_ok (hread.bind (runs_pure Awaited.pending)),
      .delayed hread.2⟩
  · exact ⟨_, _, _, answerOf_actFinally_error hread.bind_error, .unread hread.2⟩

/-- On a connection that is complete a key update is started in one of the ways listed. -/
theorem keyUpdate_started {c : Connection ε} (hcomplete : c.complete = true)
    (request : KeyUpdateRequest) :
    ∃ h answer q, answerOf (keyUpdate request) c = (answer, { c with endpoint := q })
      ∧ Started request c.endpoint h answer q := by
  obtain ⟨h, answer, q, hsend, hstarts⟩ := sendKeyUpdate_runs request c.endpoint
  have hupdate : answerOf (keyUpdate request) c = answerOf (act (sendKeyUpdate request)) c := by
    rw [answerOf, keyUpdate, if_neg (by simp [hcomplete])]
    rfl
  exact ⟨h, answer, q, hupdate.trans (answerOf_act hsend), hstarts, hsend.2⟩

end Connection

end TlsHandshake
