import Mathlib.Logic.Function.Basic
import TlsHandshake.Memory.Pair
import TlsHandshake.Proofs.Calls
import TlsHandshake.Proofs.Link.Delivery

set_option autoImplicit false

/-! # Two ends of a link

Requests to the two sides of a pair, in any order. `Linked` is what holds between any two of them:
each side stands somewhere in its flight, and each direction delivers. Main statement:
`Linked.run`. -/

namespace TlsHandshake

/-! ## Runs of a pair -/

/-- What can be asked of one side. -/
inductive Request where
  | handshake
  | flush
  | setBlocked (blocked : Bool)
  deriving DecidableEq, Repr

theorem Role.eq_or_eq_peer (r r' : Role) : r' = r ∨ r' = r.peer := by
  cases r <;> cases r' <;> simp [Role.peer]

namespace Connection

variable {ε : Type} [OnLink ε]

/-- The end of the link that a connection is at. -/
def socket (c : Connection ε) : Socket := OnLink.socket c.endpoint.environment

/-- The connection at another end. -/
def withSocket (socket : Socket) (c : Connection ε) : Connection ε :=
  c.onEnvironment (OnLink.withSocket socket)

@[simp] theorem socket_withSocket (s : Socket) (c : Connection ε) : (c.withSocket s).socket = s :=
  OnLink.socket_withSocket _ _

end Connection

namespace Pair

variable {ε : Type} [OnLink ε]

/-- Each side's incoming pipe is the other one's outgoing pipe. -/
theorem facing (pair : Pair ε) (role : Role) :
    (pair.side role.peer).socket.incoming = (pair.side role).socket.outgoing := by
  cases role <;> simp [side, Connection.socket, Connection.onEnvironment, Role.peer] <;> rfl

/-- What one side has done, the other one sees in its pipes and nowhere else. -/
theorem side_setSide_peer (pair : Pair ε) (role : Role) (c : Connection ε) :
    (pair.setSide role c).side role.peer
      = (pair.side role.peer).withSocket
          ⟨(pair.side role.peer).socket.outbox, c.socket.outgoing, c.socket.incoming⟩ := by
  cases role <;>
    simp [setSide, side, Connection.socket, Connection.withSocket, Connection.onEnvironment,
      Role.peer] <;> rfl

variable [Environment ε]

/-- Makes a request; a handshake tells how it ended. -/
def ask (pair : Pair ε) (role : Role) : Request → Option Outcome × Pair ε
  | .handshake =>
      let (outcome, pair) := pair.act role Connection.handshake
      (some outcome, pair)
  | .flush => (none, (pair.act role (answerOf Connection.flush)).2)
  | .setBlocked blocked =>
      (none, pair.setSide role
        ((pair.side role).withSocket ((pair.side role).socket.setBlocked blocked)))

/-- Makes requests one after the other, and gathers how the handshakes ended. -/
def run (pair : Pair ε) : List (Role × Request) → List (Role × Outcome) × Pair ε
  | [] => ([], pair)
  | (role, request) :: requests =>
      let (outcome?, pair) := pair.ask role request
      let (outcomes, pair) := pair.run requests
      ((outcome?.map (role, ·)).toList ++ outcomes, pair)

/-- A pair that is set up and has not begun, with nothing on its link yet. -/
structure Fresh (pair : Pair ε) : Prop where
  role (role : Role) : (pair.side role).endpoint.context.role = role
  fresh (role : Role) : (pair.side role).Fresh
  peerless (role : Role) : (pair.side role).endpoint.context.session.peerCertificates = none
  transcripts : pair.server.endpoint.context.transcript.bytes
    = pair.client.endpoint.context.transcript.bytes
  link : pair.link = {}

end Pair

/-! ## Whole flights -/

/-- Once Finished has been dealt with, the whole flight has been, and nothing is on its way. -/
theorem FlightShape.all_read {sent : List Bytes} {read ms pending : List Message} {f : Message}
    {onWay : Bytes} (hshape : FlightShape sent) (hdelivery : Delivery sent read onWay)
    (hread : read = ms ++ [f] ++ pending) (htype : f.type = .finished) :
    sent = (ms ++ [f]).map Message.raw ∧ pending = [] ∧ onWay = [] := by
  obtain ⟨rest, hsent, rfl, hframed⟩ := hdelivery
  have hfinished : IsMessage .finished f.raw :=
    ⟨f.body, htype ▸ hframed f (by rw [hread]; simp)⟩
  have hnone : pending.map Message.raw ++ rest = [] := by
    refine hshape.finished (ms.map Message.raw) f.raw _ ?_ hfinished
    rw [hsent, hread]
    simp only [List.map_append, List.map_cons, List.append_assoc, List.nil_append,
      List.cons_append]
  obtain ⟨hpending, rfl⟩ := List.append_eq_nil_iff.1 hnone
  obtain rfl := List.map_eq_nil_iff.1 hpending
  rw [List.append_nil] at hread
  refine ⟨?_, rfl, rfl⟩
  rw [hsent, hread, List.append_nil]

/-! ## The invariant -/

open AuthFlow

variable {κ σ τ : Type}

/-- Where a pair stands since its sides had the contexts of `start`; `h` is what each of them has
    done. -/
structure Linked (start : Role → Context) (pair : Pair (Station κ σ τ)) (h : Role → History) :
    Prop where
  role (r : Role) : (pair.side r).flow.role = r
  standing (r : Role) : Standing (start r) (fun _ _ => True) (pair.side r).flow.phase
    (pair.side r).endpoint.context (h r)
  unsent (r : Role) : (h r).messagesUnsent = []
  delivery (r : Role) : Delivery (h r).messagesSent (h r.peer).messagesRead
    (pair.side r).socket.outbound
  complete (r : Role) : (pair.side r).complete = true →
    (pair.side r).flow.phase = .done ∧ (pair.side r).endpoint.context.wait = .ok

namespace Linked

variable {start : Role → Context} {pair : Pair (Station κ σ τ)} {h : Role → History}

/-- A pair that has not begun. -/
theorem initial (hfresh : pair.Fresh) :
    Linked (fun r => (pair.side r).endpoint.context) pair fun _ => [] where
  role r := (hfresh.fresh r).role.trans (hfresh.role r)
  standing r := (hfresh.fresh r).standing _
  unsent _ := rfl
  delivery r := by
    have hempty : (pair.side r).socket.outbound = [] := by
      cases r <;> simp only [Pair.side, hfresh.link] <;> rfl
    rw [hempty]
    exact .nil
  complete r hcomplete := by
    rw [(hfresh.fresh r).incomplete] at hcomplete
    cases hcomplete

/-- One side becomes `c`, and what its socket sends and reads meanwhile is told by `g`. -/
theorem replace {r : Role} {c : Connection (Station κ σ τ)} {g : History}
    (hlinked : Linked start pair h) (hrole : c.flow.role = r)
    (hstanding : Standing (start r) (fun _ _ => True) c.flow.phase c.endpoint.context (h r ++ g))
    (hcomplete : c.complete = true → c.flow.phase = .done ∧ c.endpoint.context.wait = .ok)
    (hunsent : g.messagesUnsent = [])
    (houtbound : c.socket.outbound = (pair.side r).socket.outbound ++ g.messagesSent.flatten)
    (hinbound : ∀ {sent read later}, (∀ m ∈ sent, ∃ type, IsMessage type m) →
      Delivery sent read ((pair.side r).socket.incoming.stream.toBytes ++ later) →
      Delivery sent (read ++ g.messagesRead) (c.socket.incoming.stream.toBytes ++ later)) :
    Linked start (pair.setSide r c) (Function.update h r (h r ++ g)) := by
  have hown : (pair.setSide r c).side r = c := Pair.side_setSide pair r c
  have hpeer := Pair.side_setSide_peer pair r c
  have hne : r.peer ≠ r := r.peer_ne
  -- what this side has sent, and what it has read, each against the other side
  have hto : Delivery (h r ++ g).messagesSent (h r.peer).messagesRead c.socket.outbound := by
    rw [History.messagesSent_append]
    exact houtbound ▸ (hlinked.delivery r).send g.messagesSent
  have hfrom : Delivery (h r.peer).messagesSent (h r ++ g).messagesRead
      ((pair.setSide r c).side r.peer).socket.outbound := by
    have hdelivery := hlinked.delivery r.peer
    rw [Role.peer_peer, Socket.outbound, ← pair.facing r.peer, Role.peer_peer] at hdelivery
    obtain ⟨handled, houtline⟩ := (hlinked.standing r.peer).outline
    rw [hpeer, Connection.socket_withSocket, History.messagesRead_append]
    exact hinbound houtline.shape.framed hdelivery
  constructor
  all_goals
    intro r'
    rcases Role.eq_or_eq_peer r r' with rfl | rfl
  · rw [hown, hrole]
  · rw [hpeer]
    exact hlinked.role _
  · rw [hown, Function.update_self]
    exact hstanding
  · rw [hpeer, Function.update_of_ne hne]
    exact hlinked.standing _
  · rw [Function.update_self, History.messagesUnsent_append, hunsent, hlinked.unsent]
    rfl
  · rw [Function.update_of_ne hne]
    exact hlinked.unsent _
  · rw [hown, Function.update_self, Function.update_of_ne hne]
    exact hto
  · rw [Role.peer_peer, Function.update_self, Function.update_of_ne hne]
    exact hfrom
  · rw [hown]
    exact hcomplete
  · rw [hpeer]
    exact hlinked.complete _

variable [KeySchedule κ] [SigningDevice σ] [TicketHandler τ]

/-- One side becomes `c` by events that its station performs. -/
theorem act {r : Role} {c : Connection (Station κ σ τ)} {g : History}
    (hlinked : Linked start pair h) (hrole : c.flow.role = r)
    (hstanding : Standing (start r) (fun _ _ => True) c.flow.phase c.endpoint.context (h r ++ g))
    (hcomplete : c.complete = true → c.flow.phase = .done ∧ c.endpoint.context.wait = .ok)
    (hperforms : Performs (pair.side r).endpoint.environment g c.endpoint.environment) :
    Linked start (pair.setSide r c) (Function.update h r (h r ++ g)) :=
  hlinked.replace hrole hstanding hcomplete (outbound_of_performs hperforms).2
    (outbound_of_performs hperforms).1
    fun hsent hdelivery => (delivery_of_performs hperforms hdelivery hsent).1

/-- A side whose handshake is called. -/
theorem handshake {r : Role} {g : History} {outcome : Outcome} {phase : Phase}
    {q : Endpoint (Station κ σ τ)} (hlinked : Linked start pair h) (hstart : (start r).role = r)
    (hkeeps : (start r).config.KeepsPeer)
    (hdrive : (pair.side r).endpoint.drive stage (pair.side r).flow
      = (outcome, ⟨(pair.side r).flow.role, phase⟩, q))
    (hdrives : Drives (pair.side r).flow.role (pair.side r).flow.phase (pair.side r).endpoint g
      outcome phase q) :
    Linked start (pair.setSide r (pair.side r).handshake.2) (Function.update h r (h r ++ g)) := by
  have hrole := hlinked.role r
  have hhandshake : (pair.side r).handshake
      = (outcome, ⟨q, ⟨(pair.side r).flow.role, phase⟩,
        (pair.side r).complete || outcome = .success⟩) := by
    rw [Connection.handshake, hdrive]
  have hperforms := hdrives.performs
  rw [hrole.trans hstart.symm] at hdrives
  have hstanding := hdrives.standing hkeeps (fun _ _ => trivial) (hlinked.standing r)
  have hsides := hlinked.complete r
  rw [hhandshake]
  refine hlinked.act hrole hstanding (fun hcomplete => ?_) hperforms
  rcases Bool.or_eq_true_iff.1 hcomplete with hbefore | hsuccess
  · -- a side that was complete before does nothing when it is called
    obtain ⟨hphase, hwait⟩ := hsides hbefore
    have hdone := Connection.handshake_of_done hphase hwait
    rw [hhandshake] at hdone
    have hc := (Prod.mk.inj hdone).2
    change (Connection.mk q _ _).flow.phase = .done
      ∧ (Connection.mk q _ _).endpoint.context.wait = .ok
    rw [hc]
    exact ⟨hphase, hwait⟩
  · obtain rfl := of_decide_eq_true hsuccess
    exact hdrives.done

/-- A side that is flushed. -/
theorem flush {r : Role} {answer : Except Error (Awaited Unit)} {context : Context}
    {env : Station κ σ τ} (hlinked : Linked start pair h)
    (hperforms : Performs (pair.side r).endpoint.environment [.flushed answer] env)
    (hcontext : context = (pair.side r).endpoint.context
      ∨ context = (pair.side r).endpoint.context.noteFlushed) :
    Linked start (pair.setSide r { pair.side r with endpoint := ⟨context, env⟩ })
      (Function.update h r (h r ++ [.flushed answer])) := by
  have hsame : context.wait = (pair.side r).endpoint.context.wait := by
    rcases hcontext with rfl | rfl <;> rfl
  refine hlinked.act (hlinked.role r) ((hlinked.standing r).flushed hcontext) ?_ hperforms
  intro hcomplete
  obtain ⟨hphase, hwait⟩ := hlinked.complete r hcomplete
  exact ⟨hphase, hsame.trans hwait⟩

omit [KeySchedule κ] [SigningDevice σ] [TicketHandler τ] in
/-- A side that is blocked or unblocked. -/
theorem setBlocked (hlinked : Linked start pair h) (r : Role) (blocked : Bool) :
    Linked start (pair.setSide r
      ((pair.side r).withSocket ((pair.side r).socket.setBlocked blocked)))
      (Function.update h r (h r ++ [])) := by
  refine hlinked.replace (g := []) (hlinked.role r) ?_ (hlinked.complete r) rfl ?_ ?_
  · rw [List.append_nil]
    exact hlinked.standing r
  · rw [Connection.socket_withSocket]
    exact (List.append_nil _).symm
  · intro sent read later _ hdelivery
    rw [Connection.socket_withSocket]
    exact (List.append_nil read).symm ▸ hdelivery

/-- A request keeps a pair linked, and a side that has succeeded is complete. -/
theorem ask (hlinked : Linked start pair h) (hstart : ∀ r, (start r).role = r)
    (hkeeps : ∀ r, (start r).config.KeepsPeer) (r : Role) (request : Request) :
    ∃ h', Linked start (pair.ask r request).2 h' := by
  cases request with
  | handshake =>
      obtain ⟨g, outcome, phase, q, hdrive, hdrives⟩ :=
        drive_drives (pair.side r).flow (pair.side r).endpoint
      exact ⟨_, hlinked.handshake (hstart r) (hkeeps r) hdrive hdrives⟩
  | flush =>
      obtain ⟨answer, context, env, hflush, hperforms, hcontext⟩ :=
        Connection.flush_runs (pair.side r)
      change ∃ h', Linked start (pair.setSide r (answerOf Connection.flush (pair.side r)).2) h'
      rw [hflush]
      exact ⟨_, hlinked.flush hperforms hcontext⟩
  | setBlocked blocked => exact ⟨_, hlinked.setBlocked r blocked⟩

/-- Whatever is asked of a pair, it stays linked. -/
theorem run (hlinked : Linked start pair h) (hstart : ∀ r, (start r).role = r)
    (hkeeps : ∀ r, (start r).config.KeepsPeer) (requests : List (Role × Request)) :
    ∃ h', Linked start (pair.run requests).2 h' := by
  induction requests generalizing pair h with
  | nil => exact ⟨h, hlinked⟩
  | cons request requests ih =>
      obtain ⟨h', hnext⟩ := hlinked.ask hstart hkeeps request.1 request.2
      exact ih hnext

end Linked

/-! ## Completeness -/

namespace Pair

variable [KeySchedule κ] [SigningDevice σ] [TicketHandler τ]

/-- A side that is complete stays so, and one that succeeds becomes so. -/
theorem ask_complete (pair : Pair (Station κ σ τ)) (r r' : Role) (request : Request)
    (hcomplete : (pair.side r').complete = true
      ∨ (r', .success) ∈ ((pair.ask r request).1.map (r, ·)).toList) :
    ((pair.ask r request).2.side r').complete = true := by
  rcases Role.eq_or_eq_peer r r' with rfl | rfl
  · cases request with
    | handshake =>
        change ((pair.setSide r' (pair.side r').handshake.2).side r').complete = true
        rw [side_setSide]
        change ((pair.side r').complete || decide ((pair.side r').handshake.1 = .success)) = true
        rcases hcomplete with hbefore | hsuccess
        · rw [hbefore, Bool.true_or]
        · have houtcome : (pair.side r').handshake.1 = .success :=
            (Prod.mk.inj (List.mem_singleton.1 hsuccess)).2.symm
          rw [decide_eq_true houtcome, Bool.or_true]
    | flush =>
        obtain ⟨answer, context, env, hflush, _⟩ := Connection.flush_runs (pair.side r')
        change ((pair.setSide r' (answerOf Connection.flush (pair.side r')).2).side r').complete
          = true
        rw [side_setSide, hflush]
        exact hcomplete.resolve_right List.not_mem_nil
    | setBlocked blocked =>
        change ((pair.setSide r' _).side r').complete = true
        rw [side_setSide]
        exact hcomplete.resolve_right List.not_mem_nil
  · have hbefore : (pair.side r.peer).complete = true := by
      refine hcomplete.resolve_right fun hmem => ?_
      cases houtcome : (pair.ask r request).1 with
      | none =>
          rw [houtcome] at hmem
          exact List.not_mem_nil hmem
      | some outcome =>
          rw [houtcome] at hmem
          exact r.peer_ne (Prod.mk.inj (List.mem_singleton.1 hmem)).1
    have hother : ∀ c, ((pair.setSide r c).side r.peer).complete = true := fun c => by
      rw [side_setSide_peer]
      exact hbefore
    cases request <;> exact hother _

/-- A side that has succeeded is complete. -/
theorem run_complete (pair : Pair (Station κ σ τ)) (r : Role) (requests : List (Role × Request))
    (hcomplete : (pair.side r).complete = true ∨ (r, .success) ∈ (pair.run requests).1) :
    ((pair.run requests).2.side r).complete = true := by
  induction requests generalizing pair with
  | nil => exact hcomplete.resolve_right List.not_mem_nil
  | cons request requests ih =>
      rw [run, List.mem_append, ← or_assoc] at hcomplete
      exact ih _ (hcomplete.imp_left (ask_complete pair _ r request.2))

end Pair

end TlsHandshake
