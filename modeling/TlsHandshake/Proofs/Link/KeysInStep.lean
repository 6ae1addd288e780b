import TlsHandshake.Proofs.Failure
import TlsHandshake.Proofs.Link.Agreement
import TlsHandshake.Proofs.Link.Channel

set_option autoImplicit false

/-! # Keys in step

Two ends of a link that may be asked for anything in any order. In each direction the sending key is
ahead of the receiving key by as many generations as there are KeyUpdates on their way, unless the
receiver has failed; and an end that is complete and has not failed finds nothing wrong with what its
peer sends but too many KeyUpdates. `InStep` is the invariant: each end is the sender of one channel
(`Called.sends`) and the receiver of the other (`Called.listens`) whatever is called on it. Main
statement: `Pair.play_in_step`. -/

namespace TlsHandshake

open AuthFlow Endpoint

/-! ## Key updates -/

/-- The KeyUpdate message of a request. -/
def KeyUpdateRequest.message (request : KeyUpdateRequest) : Message :=
  ⟨.keyUpdate, [request.code], request.encode⟩

theorem KeyUpdateRequest.message_framed (request : KeyUpdateRequest) : request.message.Framed :=
  frame_keyUpdate request

theorem KeyUpdateRequest.message_isUpdate (request : KeyUpdateRequest) : request.message.IsUpdate :=
  ⟨rfl, request, by cases request <;> rfl⟩

/-- Only KeyUpdates are queued, and the sending key is moved on once for each. -/
def History.Updates (h : History) : Prop :=
  ∃ updates : List Message, (∀ m ∈ updates, m.Framed ∧ m.IsUpdate)
    ∧ h.messagesSent = updates.map Message.raw ∧ h.rotations .write = updates.length

namespace History.Updates

variable {h : History} {event : Event}

/-- Nothing is queued. -/
theorem none (hsent : h.messagesSent = []) (hrotations : h.rotations .write = 0) : h.Updates :=
  ⟨[], List.forall_mem_nil _, hsent, hrotations⟩

/-- One is queued. -/
theorem one (request : KeyUpdateRequest) :
    Updates [.queued request.encode (.ok ()), .rotated .write (.ok ())] :=
  ⟨[request.message],
    List.forall_mem_singleton.2 ⟨request.message_framed, request.message_isUpdate⟩, rfl, rfl⟩

theorem cons (hupdates : h.Updates) (hsent : event.sent? = Option.none)
    (hrotates : event.rotates .write = false) : Updates (event :: h) := by
  obtain ⟨updates, hnew, hmessages, hrotations⟩ := hupdates
  refine ⟨updates, hnew, ?_, ?_⟩
  · rw [messagesSent_cons, hsent, hmessages]
    rfl
  · rw [rotations_cons, hrotates, hrotations]
    rfl

end History.Updates

namespace Engine

variable {c c' : Context} {h : History} {answer : Except Error Unit} {request : KeyUpdateRequest}
  {m : Message}

/-- Where no operation fails a key update does nothing, or it queues a KeyUpdate and moves the key
    on. -/
theorem StartsUpdate.of_succeeds (hstarts : StartsUpdate request c h answer c')
    (hsucceeds : ∀ event ∈ h, event.Succeeds) :
    answer = .ok () ∧ (c.keyUpdatePending = true ∧ h = [] ∧ c' = c
      ∨ c.keyUpdatePending = false ∧ c' = { c with keyUpdatePending := true }
        ∧ h = [.queued request.encode (.ok ()), .rotated .write (.ok ())]) := by
  cases hstarts with
  | pending hpending => exact ⟨rfl, Or.inl ⟨hpending, rfl, rfl⟩⟩
  | started hpending hqueues =>
      cases hqueues with
      | unqueued => exact (hsucceeds _ List.mem_cons_self).elim
      | unrotated => exact (hsucceeds _ (List.mem_cons_of_mem _ List.mem_cons_self)).elim
      | queued => exact ⟨rfl, Or.inr ⟨hpending, rfl, rfl⟩⟩

/-- A key update succeeds if its operations do. -/
theorem StartsUpdate.updates (hstarts : StartsUpdate request c h answer c')
    (hsucceeds : ∀ event ∈ h, event.Succeeds) :
    answer = .ok () ∧ h.Updates ∧ h.rotations .read = 0 ∧ h.messagesRead = [] := by
  obtain ⟨rfl, ⟨_, rfl, _⟩ | ⟨_, _, rfl⟩⟩ := hstarts.of_succeeds hsucceeds
  · exact ⟨rfl, .none rfl rfl, rfl, rfl⟩
  · exact ⟨rfl, .one request, rfl, rfl⟩

/-- A KeyUpdate of the peer is one too many, or its reading key is moved on once. -/
theorem Handles.updates {ticketed : Bool} (hhandles : Handles ticketed m c h answer c')
    (hupdate : m.IsUpdate) (hsucceeds : ∀ event ∈ h, event.Succeeds) :
    h.Updates ∧ h.messagesRead = [] ∧ c'.wait = c.wait
    ∧ (answer = .error .tooManyKeyUpdates ∨ answer = .ok () ∧ h.rotations .read = 1) := by
  obtain ⟨htype, request, hdecoded⟩ := hupdate
  cases hhandles with
  | tooMany => exact ⟨.none rfl rfl, rfl, rfl, Or.inl rfl⟩
  | keyUpdate _ _ hreceives =>
      cases hreceives with
      | undecodable hdecode =>
          rw [hdecoded] at hdecode
          cases hdecode
      | unrotated => exact (hsucceeds _ List.mem_cons_self).elim
      | noted => exact ⟨.none rfl rfl, rfl, rfl, Or.inr ⟨rfl, rfl⟩⟩
      | answered _ hstarts =>
          have hrest := List.forall_mem_cons.1 hsucceeds
          obtain ⟨rfl, hupdates, hread, hmessages⟩ := hstarts.updates hrest.2
          obtain ⟨pending, rfl⟩ := hstarts.context
          refine ⟨hupdates.cons rfl rfl, hmessages, rfl, Or.inr ⟨rfl, ?_⟩⟩
          rw [History.rotations_cons, hread]
          rfl
  | ticketDropped hticket | ticketStored hticket | ticketRefused hticket =>
      rw [htype] at hticket
      cases hticket
  | outOfPlace hother => exact absurd htype hother

end Engine

/-! ## One end -/

section Ends

variable {σ τ : Type} [SigningDevice σ] [TicketHandler τ] {role : Role} {sent read : Prop}
  {written heard : Nat} {queued : List Message} {phase : Phase}
  {p q : Endpoint (Station FinishedKeys σ τ)} {h : History}

/-- Once Finished has been sent, only KeyUpdates are. -/
theorem AuthFlow.Sends.updates (hsends : Sends role read heard phase p)
    (hperforms : Performs p.environment h q.environment) (hsent : FinishedSent role phase)
    (hupdates : h.Updates) : Sends role read heard phase q := by
  obtain ⟨ms, hsending, hcarries⟩ := hsends
  obtain ⟨updates, hnew, hmessages, hrotations⟩ := hupdates
  refine ⟨ms ++ updates,
    sending_of_performs hperforms hsending hmessages fun m hm => (hnew m hm).1, ?_⟩
  rw [generation_of_performs hperforms, hrotations]
  exact hcarries.sendUpdates hsent fun m hm => (hnew m hm).2

/-- The message that is read by an end that has read Finished is a KeyUpdate: it is one too many, or
    the end is in step again. -/
theorem AuthFlow.Hears.handled {m : Message} {env : Station FinishedKeys σ τ}
    {answer : Except Error Unit} (hhears : Hears role sent written queued .done p)
    (hnone : p.context.message = none)
    (hread : Performs p.environment [.read (.ok (.ready m))] env)
    (hhandled : Handled m ⟨p.context, env⟩ h answer q) :
    h.Updates ∧ q.context.wait = p.context.wait
    ∧ (answer = .error .tooManyKeyUpdates
      ∨ answer = .ok () ∧ Hears role sent written queued .done q.clear) := by
  obtain ⟨streamed, hholds, hcarries⟩ := hhears
  obtain ⟨rest, hrest, rfl, _⟩ := reading_of_performs hread hholds
  rw [hnone] at hcarries
  obtain ⟨hupdate, hcarries⟩ := hcarries.readUpdate (m := m) (finishedRead_done role)
  obtain ⟨hhandles, hperforms⟩ := hhandled
  obtain ⟨hupdates, hmessages, hwait, hanswer⟩ :=
    hhandles.updates hupdate (succeeds_of_performs hperforms)
  refine ⟨hupdates, hwait, hanswer.imp_right fun ⟨hok, hrotated⟩ => ⟨hok, ?_⟩⟩
  obtain ⟨left, hleft, hsame, _⟩ := reading_of_performs hperforms hrest
  rw [hmessages, List.nil_append] at hsame
  refine ⟨left, hleft, ?_⟩
  change Carries _ _ _ (q.environment.keys.generation .read) _
  rw [generation_of_performs hperforms, generation_of_performs hread, hrotated, ← hsame]
  exact hcarries

/-- An end that has read Finished is sent KeyUpdates only. If it processes one, that is one too many,
    or the end goes on. -/
theorem Endpoint.Processed.in_step {answer : Except Error (Awaited Unit)}
    (hprocessed : Processed p h answer q) (hwait : p.context.wait ≠ .error)
    (hlistens : Listens role sent written queued .done p) :
    h.Updates ∧ (∀ e, answer = .error e → e = .tooManyKeyUpdates)
      ∧ Listens role sent written queued .done q := by
  obtain ⟨hnone, hphase, hhears⟩ := hlistens hwait
  cases hprocessed with
  | delayed hread =>
      exact ⟨.none rfl rfl, nofun, fun _ =>
        ⟨hnone, hphase, hhears.performs hread rfl (List.append_nil _).symm⟩⟩
  | unread hread =>
      obtain ⟨streamed, hholds, _⟩ := hhears
      obtain ⟨_, _, _, hreads⟩ := reading_of_performs hread hholds
      exact absurd List.mem_cons_self (hreads _)
  | handled hread hhandled =>
      obtain ⟨hupdates, hsame, hrefused | ⟨_, hhears⟩⟩ := hhears.handled hnone hread hhandled
      · cases hrefused
      · exact ⟨hupdates.cons rfl rfl, nofun, fun _ =>
          ⟨rfl, fun hawaits => hphase (hsame ▸ hawaits), hhears⟩⟩
  | refused hread hhandled =>
      obtain ⟨hupdates, _, hrefused | ⟨hok, _⟩⟩ := hhears.handled hnone hread hhandled
      · refine ⟨hupdates.cons rfl rfl, fun e he => ?_, fun hlive => absurd rfl hlive⟩
        rw [← Except.error.inj he]
        exact Except.error.inj hrefused
      · cases hok

end Ends

/-! ## Calls -/

namespace AuthFlow

theorem Advance.phase_of_done {role : Role} {signer? : Option SignerInfo} {c c' : Context}
    {h : History} {turn : Turn} (hadvance : Advance role signer? .done c h turn c') :
    turn.phase = .done := by
  cases hadvance <;> rfl

/-- A flow that is done stays so. -/
theorem done_kept {ε : Type} [Environment ε] (role : Role) :
    Kept (ε := ε) role (fun phase _ _ => phase = .done) (fun phase _ _ => phase = .done) where
  suspend hdone _ := hdone
  settle hdone _ := hdone
  next := by
    rintro _ _ _ _ _ _ rfl hturn
    exact Advance.phase_of_done hturn.1
  wait := by
    rintro _ _ _ _ _ _ _ rfl hturn
    exact Advance.phase_of_done hturn.1
  fail hdone _ := hdone

end AuthFlow

namespace Connection

/-- A connection is only complete at the end of its flight. -/
def DoneIfComplete {ε : Type} (c : Connection ε) : Prop := c.complete = true → c.flow.phase = .done

section Called

variable {ε : Type} [Environment ε] {c c' : Connection ε} {call : Call} {h : History}
  {answer : Answer}

theorem Called.doneIfComplete (hcalled : Called c call h answer c') (hdone : c.DoneIfComplete) :
    c'.DoneIfComplete := by
  cases hcalled with
  | handshake hdrives =>
      intro hcomplete
      rcases Bool.or_eq_true_iff.1 hcomplete with hbefore | hsuccess
      · exact (done_kept _).drives (g := []) (hdone hbefore) hdrives
      · obtain rfl := of_decide_eq_true hsuccess
        exact hdrives.done.1
  | _ => exact hdone

end Called

section Ends

variable {σ τ : Type}

/-- The connection is the sender of a channel, as `AuthFlow.Sends` says. -/
def Sends (c : Connection (Station FinishedKeys σ τ)) (read : Prop) (heard : Nat) : Prop :=
  AuthFlow.Sends c.flow.role read heard c.flow.phase c.endpoint

/-- The connection is the receiver of a channel, as `AuthFlow.Listens` says. -/
def Listens (c : Connection (Station FinishedKeys σ τ)) (sent : Prop) (written : Nat)
    (queued : List Message) : Prop :=
  AuthFlow.Listens c.flow.role sent written queued c.flow.phase c.endpoint

variable [SigningDevice σ] [TicketHandler τ] {sent read : Prop} {written heard : Nat}
  {queued : List Message} {c c' : Connection (Station FinishedKeys σ τ)} {call : Call} {h : History}
  {answer : Answer}

/-- Every call keeps the sender of a channel one. What it sends when it processes a message depends on
    what is sent to it. -/
theorem Called.sends (hcalled : Called c call h answer c') (hdone : c.DoneIfComplete)
    (hlistens : c.Listens sent written queued) (hsends : c.Sends read heard) :
    c'.Sends read heard := by
  -- a connection that is complete has sent Finished
  have hupdates : ∀ {h : History} {q : Endpoint (Station FinishedKeys σ τ)}, c.complete = true →
      Performs c.endpoint.environment h q.environment → h.Updates →
      Connection.Sends { c with endpoint := q } read heard := by
    intro h q hcomplete hperforms hupdates
    refine AuthFlow.Sends.updates hsends hperforms ?_ hupdates
    rw [hdone hcomplete]
    exact finishedSent_done _
  cases hcalled with
  | handshake hdrives => exact (sends_kept _ _ _).drives (g := []) hsends hdrives
  | processed hcomplete hwait hprocessed =>
      rw [Listens, hdone hcomplete] at hlistens
      exact hupdates hcomplete hprocessed.performs (hprocessed.in_step hwait hlistens).1
  | keyUpdateStarted hcomplete hstarted =>
      obtain ⟨hstarts, hperforms⟩ := hstarted
      obtain ⟨_, hnew, _⟩ := hstarts.updates (succeeds_of_performs hperforms)
      exact hupdates hcomplete hperforms hnew
  | flushed hflush | flushDelayed hflush | flushFailed hflush =>
      exact AuthFlow.Sends.quiet hsends hflush rfl rfl Iff.rfl
  | earlyDataReset => exact AuthFlow.Sends.quiet hsends (Performs.nil _) rfl rfl Iff.rfl
  | postHandshakeTooEarly | keyUpdateTooEarly | earlyDataNotRejected => exact hsends

/-- Every call keeps the receiver of a channel one. -/
theorem Called.listens (hcalled : Called c call h answer c') (hdone : c.DoneIfComplete)
    (hlistens : c.Listens sent written queued) : c'.Listens sent written queued := by
  cases hcalled with
  | handshake hdrives => exact (hears_kept _ _ _ _).drives (g := []) hlistens hdrives
  | processed hcomplete hwait hprocessed =>
      rw [Listens, hdone hcomplete] at hlistens
      change AuthFlow.Listens c.flow.role sent written queued c.flow.phase _
      rw [hdone hcomplete]
      exact (hprocessed.in_step hwait hlistens).2.2
  | keyUpdateStarted _ hstarted =>
      obtain ⟨hstarts, hperforms⟩ := hstarted
      obtain ⟨_, _, hrotations, hread⟩ := hstarts.updates (succeeds_of_performs hperforms)
      obtain ⟨pending, hcontext⟩ := hstarts.context
      exact AuthFlow.Listens.quiet hlistens hperforms hread hrotations (by rw [hcontext])
        (by rw [hcontext])
  | flushed hflush | flushDelayed hflush | flushFailed hflush =>
      exact AuthFlow.Listens.quiet hlistens hflush rfl rfl rfl rfl
  | earlyDataReset hwait =>
      intro _
      obtain ⟨hnone, _, hhears⟩ := hlistens (by rw [hwait]; nofun)
      refine ⟨hnone, fun hawaits => ?_, hhears⟩
      rcases hawaits with h | h <;> cases h
  | postHandshakeTooEarly | keyUpdateTooEarly | earlyDataNotRejected => exact hlistens

end Ends

end Connection

/-! ## Both ends -/

/-- What can be done on one side of a pair. -/
inductive Move where
  | call (call : Call)
  | setBlocked (blocked : Bool)
  deriving DecidableEq, Repr

/-- How many KeyUpdates a reader finds in a queue. -/
def ByteQueue.keyUpdates (q : ByteQueue) : Nat := q.messages.countP (·.type = .keyUpdate)

namespace Pair

section Moves

variable {ε : Type} [OnLink ε] [Environment ε]

/-- Makes a move on one side. -/
def move (pair : Pair ε) (role : Role) : Move → Pair ε
  | .call call => (pair.act role (·.call call)).2
  | .setBlocked blocked =>
      pair.setSide role ((pair.side role).withSocket ((pair.side role).socket.setBlocked blocked))

/-- Makes moves one after the other. -/
def play (pair : Pair ε) (moves : List (Role × Move)) : Pair ε :=
  moves.foldl (fun pair (role, move) => pair.move role move) pair

end Moves

variable {σ τ : Type}

/-- Two connections that have not begun, of whatever roles and configurations, with nothing on their
    link and the keys of both directions in step. -/
structure Unused (pair : Pair (Station FinishedKeys σ τ)) : Prop where
  fresh (r : Role) : (pair.side r).Fresh
  link : pair.link = {}
  keys (r : Role) : (pair.side r).endpoint.environment.keys.writeGeneration
    = (pair.side r.peer).endpoint.environment.keys.readGeneration

end Pair

/-- What holds of the channel from `x` to `y` as long as `y` has not failed. -/
def Channel {σ τ : Type} (x y : Connection (Station FinishedKeys σ τ)) : Prop :=
  y.endpoint.context.wait ≠ .error →
    y.endpoint.context.message = none
    ∧ (awaitsMessage y.endpoint.context.wait → (expected? y.flow.phase).isSome = true)
    ∧ x.Sends (FinishedRead y.flow.role y.flow.phase) (y.endpoint.environment.keys.generation .read)

namespace Channel

variable {σ τ : Type} {x y : Connection (Station FinishedKeys σ τ)} {queued : List Message}

/-- The channel as its receiver sees it. -/
theorem listens (hchannel : Channel x y) (hfacing : y.socket.incoming = x.socket.outgoing) :
    ∃ queued, (y.endpoint.context.wait ≠ .error → x.socket.outbox.flight.Holds queued)
      ∧ y.Listens (FinishedSent x.flow.role x.flow.phase)
        (x.endpoint.environment.keys.generation .write) queued := by
  by_cases hwait : y.endpoint.context.wait = .error
  · exact ⟨[], absurd hwait, absurd hwait⟩
  · obtain ⟨hnone, hphase, _, ⟨streamed, queued, hstream, hflight, rfl⟩, hcarries⟩ := hchannel hwait
    refine ⟨queued, fun _ => hflight, fun _ => ⟨hnone, hphase, streamed, ?_, ?_⟩⟩
    · change y.socket.incoming.stream.Holds streamed
      rw [hfacing]
      exact hstream
    · rw [hnone]
      exact hcarries

/-- What the receiver sees and what the sender has in its flight make the channel. -/
theorem of_listens
    (hqueued : y.endpoint.context.wait ≠ .error → x.socket.outbox.flight.Holds queued)
    (hlistens : y.Listens (FinishedSent x.flow.role x.flow.phase)
      (x.endpoint.environment.keys.generation .write) queued)
    (hfacing : y.socket.incoming = x.socket.outgoing) : Channel x y := by
  intro hwait
  obtain ⟨hnone, hphase, streamed, hstream, hcarries⟩ := hlistens hwait
  rw [hnone] at hcarries
  refine ⟨hnone, hphase, _, ⟨streamed, queued, ?_, hqueued hwait, rfl⟩, hcarries⟩
  change x.socket.outgoing.stream.Holds streamed
  rw [← hfacing]
  exact hstream

/-- What is on its way is whole messages, and the sending key is ahead by the KeyUpdates among
    them. -/
theorem generations (hchannel : Channel x y) (hwait : y.endpoint.context.wait ≠ .error) :
    (x.socket.outbox.flight.Holds x.socket.outbox.flight.messages
      ∧ x.socket.outgoing.stream.Holds x.socket.outgoing.stream.messages)
    ∧ x.endpoint.environment.keys.writeGeneration = y.endpoint.environment.keys.readGeneration
      + (x.socket.outbox.flight.keyUpdates + x.socket.outgoing.stream.keyUpdates) := by
  obtain ⟨_, _, _, ⟨streamed, queued, hstream, hflight, rfl⟩, hcarries⟩ := hchannel hwait
  change x.socket.outgoing.stream.Holds streamed at hstream
  change x.socket.outbox.flight.Holds queued at hflight
  refine ⟨⟨hflight.holds_messages, hstream.holds_messages⟩, ?_⟩
  have hgenerations := hcarries.generations
  rw [List.countP_append, ← hstream.messages_eq, ← hflight.messages_eq,
    Nat.add_comm (List.countP _ _)] at hgenerations
  exact hgenerations

end Channel

namespace Pair

variable {σ τ : Type} {pair : Pair (Station FinishedKeys σ τ)}

/-- What holds between any two moves: of both channels, and of each side by itself. -/
structure InStep (pair : Pair (Station FinishedKeys σ τ)) : Prop where
  done (r : Role) : (pair.side r).DoneIfComplete
  channel (r : Role) : Channel (pair.side r) (pair.side r.peer)

namespace InStep

/-- Nothing is on its way, and neither side has sent or read Finished. -/
theorem initial (hunused : pair.Unused) : pair.InStep where
  done r hcomplete := by
    rw [(hunused.fresh r).incomplete] at hcomplete
    cases hcomplete
  channel r _ := by
    have hsocket : (pair.side r).endpoint.environment.socket = {} := by
      cases r <;> simp only [side, hunused.link] <;> rfl
    have hsent : ¬ FinishedSent (pair.side r).flow.role (pair.side r).flow.phase := by
      rw [(hunused.fresh r).flow]
      exact not_finishedSent_new _
    have hread : ¬ FinishedRead (pair.side r.peer).flow.role (pair.side r.peer).flow.phase := by
      rw [(hunused.fresh r.peer).flow]
      exact not_finishedRead_new _
    refine ⟨(hunused.fresh r.peer).message, fun h => absurd h (hunused.fresh r.peer).wait, [], ?_,
      ?_⟩
    · rw [hsocket]
      exact ⟨[], [], ByteQueue.holds_empty, ByteQueue.holds_empty, rfl⟩
    · have hkeys : (pair.side r).endpoint.environment.keys.generation .write
          = (pair.side r.peer).endpoint.environment.keys.generation .read := hunused.keys r
      rw [hkeys]
      exact Carries.nil hsent hread

/-- What a side is the receiver of. -/
theorem listens (hstep : pair.InStep) (r : Role) :
    ∃ queued, ((pair.side r).endpoint.context.wait ≠ .error →
        (pair.side r.peer).socket.outbox.flight.Holds queued)
      ∧ (pair.side r).Listens
        (FinishedSent (pair.side r.peer).flow.role (pair.side r.peer).flow.phase)
        ((pair.side r.peer).endpoint.environment.keys.generation .write) queued := by
  have hchannel := hstep.channel r.peer
  have hfacing := pair.facing r.peer
  rw [Role.peer_peer] at hchannel hfacing
  exact hchannel.listens hfacing

/-- One side becomes `c`, by a move that keeps it the sender of one channel and the receiver of the
    other. -/
theorem replace {r : Role} {c : Connection (Station FinishedKeys σ τ)} (hstep : pair.InStep)
    (hdone : c.DoneIfComplete)
    (hfailed : (pair.side r).endpoint.context.wait = .error → c.endpoint.context.wait = .error)
    (hlistens : ∀ {sent written queued}, (pair.side r).Listens sent written queued →
      c.Listens sent written queued)
    (hsends : ∀ {sent written queued read heard}, (pair.side r).Listens sent written queued →
      (pair.side r).Sends read heard → c.Sends read heard) :
    (pair.setSide r c).InStep := by
  have hown : (pair.setSide r c).side r = c := side_setSide pair r c
  have hpeer := side_setSide_peer pair r c
  have hincoming := (pair.setSide r c).facing r.peer
  rw [Role.peer_peer, hown] at hincoming
  obtain ⟨queued, hqueued, hbefore⟩ := hstep.listens r
  -- the two channels as they are now
  have hto : Channel c ((pair.setSide r c).side r.peer) := by
    rw [hpeer]
    intro hwait
    obtain ⟨hnone, hphase, hsender⟩ := hstep.channel r hwait
    exact ⟨hnone, hphase, hsends hbefore hsender⟩
  have hfrom : Channel ((pair.setSide r c).side r.peer) c := by
    rw [hpeer] at hincoming ⊢
    exact .of_listens (fun hwait => hqueued (mt hfailed hwait)) (hlistens hbefore) hincoming
  constructor
  all_goals
    intro r'
    rcases Role.eq_or_eq_peer r r' with rfl | rfl
  · rwa [hown]
  · rw [hpeer]
    exact hstep.done r.peer
  · rwa [hown]
  · rwa [Role.peer_peer, hown]

variable [SigningDevice σ] [TicketHandler τ]

/-- Every move on one of the sides keeps the pair in step. -/
theorem move (hstep : pair.InStep) (r : Role) (move : Move) : (pair.move r move).InStep := by
  cases move with
  | call call =>
      obtain ⟨h, hcalled⟩ := (pair.side r).call_called call
      exact hstep.replace (hcalled.doneIfComplete (hstep.done r))
        (fun hwait => (hcalled.of_failed hwait).1.wait.trans hwait)
        (hcalled.listens (hstep.done r)) (hcalled.sends (hstep.done r))
  | setBlocked blocked =>
      refine hstep.replace (hstep.done r) (fun hwait => hwait) (fun hlistens => hlistens) ?_
      intro _ _ _ _ _ _ ⟨ms, hsending, hcarries⟩
      exact ⟨ms, hsending.of_eq rfl rfl, hcarries⟩

theorem play (hstep : pair.InStep) (moves : List (Role × Move)) : (pair.play moves).InStep := by
  induction moves generalizing pair with
  | nil => exact hstep
  | cons m moves ih => exact ih (hstep.move m.1 m.2)

/-- A side that is complete and has not failed refuses only a KeyUpdate that is one too many. -/
theorem refuses (hstep : pair.InStep) {r : Role} (hcomplete : (pair.side r).complete = true)
    (hwait : (pair.side r).endpoint.context.wait ≠ .error) {e : Error}
    {x : Connection (Station FinishedKeys σ τ)}
    (hanswer : answerOf Connection.processPostHandshake (pair.side r) = (.error e, x)) :
    e = .tooManyKeyUpdates := by
  obtain ⟨queued, _, hlistens⟩ := hstep.listens r
  rw [Connection.Listens, hstep.done r hcomplete] at hlistens
  obtain ⟨h, answer, q, hprocess, hprocessed⟩ :=
    Connection.processPostHandshake_processed hcomplete hwait
  obtain ⟨_, htooMany, _⟩ := hprocessed.in_step hwait hlistens
  exact htooMany e (Prod.mk.inj (hprocess.symm.trans hanswer)).1

end InStep

variable [SigningDevice σ] [TicketHandler τ]

/-- Whatever is done on the two sides in whatever order: what is on its way to a side that has not
    failed is whole messages, and the key with which the other side sends is ahead of the key with
    which this one receives by the KeyUpdates among them; and a side that is complete and has not
    failed refuses no message of its peer but a KeyUpdate that is one too many. -/
theorem play_in_step (hunused : pair.Unused) (moves : List (Role × Move)) (r : Role) :
    let x := (pair.play moves).side r
    let y := (pair.play moves).side r.peer
    let flight := x.socket.outbox.flight
    let stream := x.socket.outgoing.stream
    (y.endpoint.context.wait ≠ .error →
      (flight.Holds flight.messages ∧ stream.Holds stream.messages)
      ∧ x.endpoint.environment.keys.writeGeneration
        = y.endpoint.environment.keys.readGeneration + (flight.keyUpdates + stream.keyUpdates))
    ∧ (x.complete = true → x.endpoint.context.wait ≠ .error →
      ∀ e x', answerOf Connection.processPostHandshake x = (.error e, x') →
        e = .tooManyKeyUpdates) := by
  have hstep := (InStep.initial hunused).play moves
  exact ⟨(hstep.channel r).generations, fun hcomplete hwait _ _ => hstep.refuses hcomplete hwait⟩

end Pair

/-! ## A rehearsal -/

namespace Rehearsal

theorem unused_pair : pair.Unused where
  fresh := fresh_pair.fresh
  link := rfl
  keys r := by cases r <;> rfl

/-- Once both handshakes have succeeded, the client sends one KeyUpdate more than the server takes
    and queues another one; the server takes what it can. -/
def moves : List (Role × Move) :=
  requests.map (fun (role, _) => (role, .call .handshake))
    ++ (List.replicate (Engine.maxKeyUpdates + 1)
      [(.client, .call (.keyUpdate .notRequested)), (.client, .call .flush)]).flatten
    ++ [(.client, .call (.keyUpdate .requested))]
    ++ List.replicate Engine.maxKeyUpdates (.server, .call .processPostHandshake)

set_option maxRecDepth 100000 in
/-- The client is two generations ahead, and the server refuses the KeyUpdate that is left. -/
theorem pair_in_step :
    let x := (pair.play moves).side .client
    let y := (pair.play moves).side .server
    (x.endpoint.environment.keys.writeGeneration, y.endpoint.environment.keys.readGeneration)
      = (34, 32)
    ∧ x.endpoint.environment.keys.writeGeneration
      = y.endpoint.environment.keys.readGeneration
        + (x.socket.outbox.flight.keyUpdates + x.socket.outgoing.stream.keyUpdates)
    ∧ (answerOf Connection.processPostHandshake y).1 = .error .tooManyKeyUpdates := by
  have hstep := fun r => Pair.play_in_step unused_pair moves r
  have hstate :
      let x := (pair.play moves).side .client
      let y := (pair.play moves).side .server
      (x.endpoint.environment.keys.writeGeneration, y.endpoint.environment.keys.readGeneration)
        = (34, 32)
      ∧ y.complete = true ∧ y.endpoint.context.wait ≠ .error
      ∧ (answerOf Connection.processPostHandshake y).1.isOk = false := by
    decide +kernel
  -- nothing is computed from here on
  generalize pair.play moves = after at hstep hstate ⊢
  obtain ⟨hgenerations, hcomplete, hlive, hrefused⟩ := hstate
  refine ⟨hgenerations, ((hstep .client).1 hlive).2, ?_⟩
  have herror := (hstep .server).2 hcomplete hlive
  cases hanswer : answerOf Connection.processPostHandshake (after.side .server) with
  | mk answer y' =>
      rw [hanswer] at hrefused
      cases answer with
      | ok a => cases hrefused
      | error e => exact congrArg Except.error (herror e y' hanswer)

end Rehearsal

end TlsHandshake
