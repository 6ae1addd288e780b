import TlsHandshake.Proofs.Link.Agreement
import TlsHandshake.Proofs.Link.Pausing

set_option autoImplicit false

/-! # Completeness

Two ends that suit each other succeed. Whatever is asked of them, no call fails and no alert is sent,
and once flushing is not blocked, calls made in turn come to an end: every call leaves less work,
until both ends rest, and two ends that rest are done. -/

namespace TlsHandshake

open AuthFlow

variable {σ τ : Type} [SigningDevice σ]

/-! ## Ends that keep to their plans -/

/-- Each side is to hear what the other one is to send. -/
structure Plan.Match (plan : Role → Plan σ) : Prop where
  role (r : Role) : (plan r).start.role = r
  theirs (r : Role) : (plan r).theirs = (plan r.peer).own

/-- A linked pair whose sides keep to their plans, each with so much work left, and have sent no
    alert. -/
structure Attuned (plan : Role → Plan σ) (pair : Pair (Station FinishedKeys σ τ))
    (h : Role → History) (k : Role → Nat) : Prop where
  linked : Linked (fun r => (plan r).start) pair h
  pauses (r : Role) : (plan r).Pauses (k r) (pair.side r).flow.phase (pair.side r).endpoint (h r)
  silent (r : Role) : (pair.side r).socket.outgoing.alerts = []

/-- Whether one side waits for the other one alone. -/
def Pair.Rests (pair : Pair (Station FinishedKeys σ τ)) (h : Role → History) (r : Role) : Prop :=
  Plan.Rests (h r.peer).messagesSent (pair.side r.peer).socket.outbox.flight.toBytes
    (pair.side r).flow.phase (pair.side r).endpoint (h r)

namespace Attuned

variable {plan : Role → Plan σ} {pair : Pair (Station FinishedKeys σ τ)} {h : Role → History}
  {k : Role → Nat}

theorem follows (hattuned : Attuned plan pair h k) (r : Role) :
    ∃ left handled, (plan r).Follows left (pair.side r).flow.phase (pair.side r).endpoint.context
      (pair.side r).endpoint.environment (h r) handled := by
  obtain ⟨left, handled, hfollows, _⟩ := (hattuned.pauses r).follows
  exact ⟨left, handled, hfollows⟩

/-- What one side has sent is on its way to the other one. -/
theorem listens (hattuned : Attuned plan pair h k) (hmatch : Plan.Match plan) (r : Role) :
    (plan r).Listens (h r.peer).messagesSent (pair.side r.peer).socket.outbox.flight.toBytes
      (pair.side r).endpoint (h r) where
  planned := by
    obtain ⟨left, handled, hfollows⟩ := hattuned.follows r.peer
    rw [hmatch.theirs]
    exact hfollows.sent_prefix
  delivery := by
    have hdelivery := hattuned.linked.delivery r.peer
    rw [Role.peer_peer, Socket.outbound, ← pair.facing r.peer, Role.peer_peer] at hdelivery
    exact hdelivery

/-- A side that rests has handed over all that it has sent. -/
theorem flight_of_rests (hattuned : Attuned plan pair h k) {r : Role} (hrests : pair.Rests h r) :
    (pair.side r).socket.outbox.flight.toBytes = [] := by
  have hpauses := hattuned.pauses r
  have hsuits := hpauses.wait
  rcases hrests with ⟨hphase, hwait⟩ | ⟨hwait, _⟩
  · refine hpauses.flight ?_ ?_ ?_
    · rw [hphase]
      rintro (h | h | h) <;> cases h
    all_goals
      rw [hwait]
      nofun
  · rw [hwait] at hsuits
    refine hpauses.flight (not_sends_of_reads hsuits.reads) ?_ ?_
    all_goals
      rw [hwait]
      nofun

/-- A side that rests is done or has read all that the other one has sent so far. -/
theorem done_or_reads (hattuned : Attuned plan pair h k) (hrests : ∀ r, pair.Rests h r) (r : Role) :
    ((pair.side r).flow.phase = .done ∧ (pair.side r).endpoint.context.wait = .ok)
    ∨ (expected? (pair.side r).flow.phase).isSome = true
      ∧ (h r.peer).messagesSent = (h r).messagesRead.map Message.raw := by
  rcases hrests r with hdone | ⟨hwait, hall⟩
  · exact Or.inl hdone
  · have hsuits := (hattuned.pauses r).wait
    rw [hwait] at hsuits
    exact Or.inr ⟨hsuits.reads, hall (hattuned.flight_of_rests (hrests r.peer))⟩

/-- A side that still reads has not heard all. -/
theorem not_all_heard (hattuned : Attuned plan pair h k) (hmatch : Plan.Match plan) {r : Role}
    (hphase : (expected? (pair.side r).flow.phase).isSome = true)
    (hsent : (h r.peer).messagesSent = (plan r.peer).own) :
    (h r.peer).messagesSent ≠ (h r).messagesRead.map Message.raw := by
  obtain ⟨left, handled, hfollows⟩ := hattuned.follows r
  obtain ⟨_, _, _, hframed⟩ := (hattuned.listens hmatch r).delivery
  have hread := hfollows.progress.read
  rw [(hattuned.pauses r).message, Option.toList_none, List.append_nil] at hread
  rw [hread] at hframed ⊢
  rw [hsent, ← hmatch.theirs]
  exact (plan r).not_all_heard hfollows.progress.peer hphase hframed

/-- Two sides that rest are done. -/
theorem done_of_rests (hattuned : Attuned plan pair h k) (hmatch : Plan.Match plan)
    (hrests : ∀ r, pair.Rests h r) (r : Role) :
    (pair.side r).flow.phase = .done ∧ (pair.side r).endpoint.context.wait = .ok := by
  have hsent : ∀ r, (pair.side r).flow.phase = .done
      ∨ (plan r).start.role = .server ∧ (expected? (pair.side r).flow.phase).isSome = true →
        (h r).messagesSent = (plan r).own := by
    intro r hphase
    obtain ⟨left, handled, hfollows⟩ := hattuned.follows r
    exact hfollows.sent_eq hphase
  -- the server has sent all whether it is done or reads, so a client that rests is done
  have hclient : (pair.side .client).flow.phase = .done
      ∧ (pair.side .client).endpoint.context.wait = .ok := by
    rcases hattuned.done_or_reads hrests .client with hdone | ⟨hreads, hall⟩
    · exact hdone
    · refine absurd hall (hattuned.not_all_heard hmatch hreads (hsent .server ?_))
      rcases hattuned.done_or_reads hrests .server with ⟨hdone, _⟩ | ⟨hphase, _⟩
      · exact Or.inl hdone
      · exact Or.inr ⟨hmatch.role .server, hphase⟩
  cases r with
  | client => exact hclient
  | server =>
      rcases hattuned.done_or_reads hrests .server with hdone | ⟨hreads, hall⟩
      · exact hdone
      · exact absurd hall
          (hattuned.not_all_heard hmatch hreads (hsent .client (Or.inl hclient.1)))

/-! ## Requests -/

/-- One side becomes `c` without an alert, and has work `k'` left. -/
theorem act {r : Role} {c : Connection (Station FinishedKeys σ τ)} {g : History} {k' : Nat}
    (hattuned : Attuned plan pair h k)
    (hlinked : Linked (fun r => (plan r).start) (pair.setSide r c) (Function.update h r (h r ++ g)))
    (hpauses : (plan r).Pauses k' c.flow.phase c.endpoint (h r ++ g))
    (hsilent : c.socket.outgoing.alerts = (pair.side r).socket.outgoing.alerts
      ∧ c.socket.incoming.alerts = (pair.side r).socket.incoming.alerts) :
    Attuned plan (pair.setSide r c) (Function.update h r (h r ++ g)) (Function.update k r k') := by
  have hpeer := Pair.side_setSide_peer pair r c
  have hne : r.peer ≠ r := r.peer_ne
  refine ⟨hlinked, fun r' => ?_, fun r' => ?_⟩ <;> rcases Role.eq_or_eq_peer r r' with rfl | rfl
  · rw [Pair.side_setSide, Function.update_self, Function.update_self]
    exact hpauses
  · rw [hpeer, Function.update_of_ne hne, Function.update_of_ne hne]
    exact (hattuned.pauses r.peer).withSocket rfl
  · rw [Pair.side_setSide, hsilent.1]
    exact hattuned.silent r'
  · rw [hpeer, Connection.socket_withSocket]
    have hfacing := pair.facing r.peer
    rw [Role.peer_peer] at hfacing
    change c.socket.incoming.alerts = []
    rw [hsilent.2, hfacing]
    exact hattuned.silent r.peer

variable [TicketHandler τ]

/-- A call does not fail, and it leaves less work, unless flushing is blocked or the side rests. -/
theorem handshake (hattuned : Attuned plan pair h k) (hmatch : Plan.Match plan) (r : Role) :
    (∀ e, (pair.side r).handshake.1 ≠ .fatal e) ∧ ∃ h' k' after,
      after = pair.setSide r (pair.side r).handshake.2
      ∧ Attuned plan after h' (Function.update k r k') ∧ k' ≤ k r
      ∧ (∀ r', (after.side r').socket.outbox.blocked = (pair.side r').socket.outbox.blocked)
      ∧ (k' = k r → (pair.side r).socket.outbox.blocked = true
        ∨ pair.Rests h r ∧ after.Rests h' r) := by
  obtain ⟨g, outcome, phase, q, hdrive, hdrives⟩ :=
    drive_drives (pair.side r).flow (pair.side r).endpoint
  have hperforms := hdrives.performs
  have hlinked := hattuned.linked.handshake (hmatch.role r) (plan r).keeps hdrive hdrives
  have hhandshake : (pair.side r).handshake
      = (outcome, ⟨q, ⟨(pair.side r).flow.role, phase⟩,
        (pair.side r).complete || outcome = .success⟩) := by
    rw [Connection.handshake, hdrive]
  rw [(hattuned.linked.role r).trans (hmatch.role r).symm] at hdrives
  obtain ⟨hfatal, k', hle, hpauses, heq⟩ :=
    (hattuned.pauses r).drives (hattuned.listens hmatch r) hdrives
  have halerts : ∀ a, .alerted a ∉ g := fun a hmem => by
    obtain ⟨left, handled, hfollows, _⟩ := hpauses.follows
    exact hfollows.alerts a (List.mem_append_right _ hmem)
  rw [hhandshake] at hlinked ⊢
  have hattuned' := hattuned.act hlinked hpauses (alerts_of_performs hperforms halerts)
  refine ⟨hfatal, _, k', _, rfl, hattuned', hle, fun r' => ?_, fun h => (heq h).imp_right ?_⟩
  · rcases Role.eq_or_eq_peer r r' with rfl | rfl
    · rw [Pair.side_setSide]
      exact blocked_of_performs hperforms
    · rw [Pair.side_setSide_peer, Connection.socket_withSocket]
  · rintro ⟨hbefore, hafter⟩
    refine ⟨hbefore, ?_⟩
    unfold Pair.Rests
    rw [Pair.side_setSide, Pair.side_setSide_peer, Connection.socket_withSocket,
      Function.update_self, Function.update_of_ne r.peer_ne]
    exact hafter

/-- Whatever is asked of a side, no call fails, and there is no more work than before. -/
theorem ask (hattuned : Attuned plan pair h k) (hmatch : Plan.Match plan) (r : Role)
    (request : Request) :
    (∀ e, (pair.ask r request).1 ≠ some (.fatal e)) ∧ ∃ h' k', k' ≤ k r
      ∧ Attuned plan (pair.ask r request).2 h' (Function.update k r k') := by
  cases request with
  | handshake =>
      obtain ⟨hfatal, h', k', _, rfl, hattuned', hle, _⟩ := hattuned.handshake hmatch r
      exact ⟨fun e heq => hfatal e (Option.some.inj heq), h', k', hle, hattuned'⟩
  | flush =>
      obtain ⟨answer, context, env, hflush, hperforms, hcontext⟩ :=
        Connection.flush_runs (pair.side r)
      have hattuned' := hattuned.act (hattuned.linked.flush hperforms hcontext)
        ((hattuned.pauses r).flushed hperforms hcontext) (alerts_of_performs hperforms (by simp))
      refine ⟨nofun, ?_⟩
      change ∃ h' k', k' ≤ k r ∧ Attuned plan
        (pair.setSide r (answerOf Connection.flush (pair.side r)).2) h' (Function.update k r k')
      rw [hflush]
      exact ⟨_, k r, Nat.le_refl _, hattuned'⟩
  | setBlocked blocked =>
      refine ⟨nofun, _, k r, Nat.le_refl _,
        hattuned.act (hattuned.linked.setBlocked r blocked) ?_ ?_⟩
      · rw [List.append_nil]
        exact (hattuned.pauses r).withSocket rfl
      · rw [Connection.socket_withSocket]
        exact ⟨rfl, rfl⟩

/-- Whatever is asked of a pair, no call fails, and there is no more work than before. -/
theorem run (hattuned : Attuned plan pair h k) (hmatch : Plan.Match plan)
    (requests : List (Role × Request)) :
    (∀ r e, (r, .fatal e) ∉ (pair.run requests).1) ∧ ∃ h' k', (∀ r, k' r ≤ k r)
      ∧ Attuned plan (pair.run requests).2 h' k' := by
  induction requests generalizing pair h k with
  | nil => exact ⟨fun _ _ => List.not_mem_nil, h, k, fun r => Nat.le_refl _, hattuned⟩
  | cons request requests ih =>
      obtain ⟨hfatal, h₁, k₁, hle, hattuned₁⟩ := hattuned.ask hmatch request.1 request.2
      obtain ⟨hfatal₂, h₂, k₂, hle₂, hattuned₂⟩ := ih hattuned₁
      refine ⟨fun r e hmem => ?_, h₂, k₂, fun r => ?_, hattuned₂⟩
      · rw [Pair.run, List.mem_append] at hmem
        rcases hmem with hmem | hmem
        · obtain ⟨outcome, hsome, heq⟩ := Option.map_eq_some_iff.1 (Option.mem_toList.1 hmem)
          rw [(Prod.mk.inj heq).2] at hsome
          exact hfatal e hsome
        · exact hfatal₂ r e hmem
      · refine Nat.le_trans (hle₂ r) ?_
        rcases Role.eq_or_eq_peer request.1 r with rfl | rfl
        · rw [Function.update_self]
          exact hle
        · rw [Function.update_of_ne request.1.peer_ne]

end Attuned

/-! ## Calls in turn -/

/-- Calls of `handshake` made in turn, beginning with one side. -/
def alternating : Role → Nat → List (Role × Request)
  | _, 0 => []
  | r, n + 1 => (r, .handshake) :: alternating r.peer n

namespace Pair

variable [TicketHandler τ]

/-- Two sides that are done succeed whenever they are called. -/
theorem run_of_done {pair : Pair (Station FinishedKeys σ τ)}
    (hdone : ∀ r, (pair.side r).flow.phase = .done ∧ (pair.side r).endpoint.context.wait = .ok)
    (first r : Role) {n : Nat} (hn : 2 ≤ n) :
    (r, .success) ∈ (pair.run (alternating first n)).1 := by
  obtain ⟨n, rfl⟩ := Nat.exists_eq_add_of_le' hn
  have hfirst := Connection.handshake_of_done (hdone first).1 (hdone first).2
  rcases Role.eq_or_eq_peer first r with rfl | rfl
  · refine List.mem_append_left _ ?_
    change (r, _) ∈ [(r, (pair.side r).handshake.1)]
    rw [hfirst]
    exact List.mem_singleton_self _
  · refine List.mem_append_right _ (List.mem_append_left _ ?_)
    have hpeer := side_setSide_peer pair first (pair.side first).handshake.2
    have hsecond := Connection.handshake_of_done
      (c := (pair.setSide first (pair.side first).handshake.2).side first.peer)
      (by rw [hpeer]; exact (hdone first.peer).1) (by rw [hpeer]; exact (hdone first.peer).2)
    change (first.peer, _) ∈ [(first.peer,
      ((pair.setSide first (pair.side first).handshake.2).side first.peer).handshake.1)]
    rw [hsecond]
    exact List.mem_singleton_self _

end Pair

namespace Attuned

variable [TicketHandler τ] {plan : Role → Plan σ} {pair : Pair (Station FinishedKeys σ τ)}
  {h : Role → History} {k : Role → Nat}

/-- A call that does not leave less work has found its side at rest, if flushing is not blocked. -/
theorem handshake_of_unblocked (hattuned : Attuned plan pair h k) (hmatch : Plan.Match plan)
    (hblocked : ∀ r, (pair.side r).socket.outbox.blocked = false) (r : Role) :
    ∃ (after : Pair (Station FinishedKeys σ τ)) (h' : Role → History) (k' : Role → Nat),
      (∀ requests, (pair.run ((r, .handshake) :: requests)).1
        = (r, (pair.side r).handshake.1) :: (after.run requests).1)
      ∧ Attuned plan after h' k' ∧ (∀ r, (after.side r).socket.outbox.blocked = false)
      ∧ (k' .server + k' .client < k .server + k .client
        ∨ k' = k ∧ pair.Rests h r ∧ after.Rests h' r) := by
  obtain ⟨_, h', k', _, rfl, hattuned', hle, hsame, heq⟩ := hattuned.handshake hmatch r
  refine ⟨_, h', _, fun _ => rfl, hattuned', fun r' => (hsame r').trans (hblocked r'), ?_⟩
  rcases Nat.lt_or_eq_of_le hle with hlt | rfl
  · refine Or.inl ?_
    cases r with
    | server =>
        rw [Function.update_self, Function.update_of_ne (by decide)]
        omega
    | client =>
        rw [Function.update_self, Function.update_of_ne (by decide)]
        omega
  · rcases heq rfl with htrue | hrests
    · rw [hblocked r] at htrue
      cases htrue
    · exact Or.inr ⟨Function.update_eq_self _ _, hrests⟩

/-- Calls in turn succeed on both sides before long. -/
theorem succeeds (hattuned : Attuned plan pair h k) (hmatch : Plan.Match plan)
    (hblocked : ∀ r, (pair.side r).socket.outbox.blocked = false) (first r : Role) {n : Nat}
    (hn : 2 * (k .server + k .client) + 3 ≤ n) :
    (r, .success) ∈ (pair.run (alternating first n)).1 := by
  generalize hwork : k .server + k .client = work at hn
  -- two calls leave less work, or both sides rest after the first of them
  induction work using Nat.strong_induction_on generalizing pair h k n first with
  | _ work ih =>
      obtain ⟨n, rfl⟩ := Nat.exists_eq_add_of_le' (Nat.le_trans (Nat.le_add_left 3 _) hn)
      obtain ⟨pair₁, h₁, k₁, hrun, hattuned₁, hblocked₁, hless⟩ :=
        hattuned.handshake_of_unblocked hmatch hblocked first
      rw [alternating, hrun]
      refine List.mem_cons_of_mem _ ?_
      rcases hless with hlt | ⟨rfl, _, hrests⟩
      · exact ih _ (hwork ▸ hlt) hattuned₁ hblocked₁ first.peer rfl (by omega)
      obtain ⟨pair₂, h₂, k₂, hrun₂, hattuned₂, hblocked₂, hless₂⟩ :=
        hattuned₁.handshake_of_unblocked hmatch hblocked₁ first.peer
      rcases hless₂ with hlt | ⟨_, hrests₂, _⟩
      · rw [alternating, hrun₂]
        refine List.mem_cons_of_mem _ ?_
        exact ih _ (hwork ▸ hlt) hattuned₂ hblocked₂ first.peer.peer rfl (by omega)
      · refine Pair.run_of_done (hattuned₁.done_of_rests hmatch fun r' => ?_) _ _ (by omega)
        rcases Role.eq_or_eq_peer first r' with rfl | rfl
        · exact hrests
        · exact hrests₂

end Attuned

/-! ## Compatible pairs -/

namespace Pair

variable {pair : Pair (Station FinishedKeys σ τ)}

/-- An end that has not begun keeps to its plan. -/
theorem Fresh.pauses (hfresh : pair.Fresh) (hcompatible : pair.Compatible) {r : Role}
    {plan : Plan σ} (hplan : plan.For pair r) :
    ∃ k, plan.Pauses k (pair.side r).flow.phase (pair.side r).endpoint [] := by
  have hprogress := (hfresh.fresh r).progress (Planned plan.own)
  rw [← hplan.start] at hprogress
  have hphase : (pair.side r).flow.phase ≠ .sendCertificateVerify := by
    rw [(hfresh.fresh r).flow]
    cases (pair.side r).endpoint.context.role <;> nofun
  have hfollows : plan.Follows 0 (pair.side r).flow.phase (pair.side r).endpoint.context
      (pair.side r).endpoint.environment [] [] := {
    progress := hplan.start ▸ hprogress
    heard := ⟨_, plan.theirs, rfl, rfl, nofun⟩
    macs := nofun
    alerts := nofun
    keys := hplan.mac.symm
    unsigned := fun _ => ⟨hplan.signer.symm, hcompatible.signaturePending r⟩
    signing := fun h => absurd h hphase
    left_le := Nat.zero_le _
    left_eq := fun _ => rfl }
  have hwait : (pair.side r).endpoint.context.wait = .ok := hcompatible.wait r
  refine ⟨_, ⟨0, [], hfollows, rfl⟩, (hfresh.fresh r).message, by rw [hwait]; exact .ok, ?_⟩
  intro _ _ _
  cases r <;> simp only [side, hfresh.link] <;> rfl

theorem Compatible.attuned (hcompatible : pair.Compatible) (hfresh : pair.Fresh)
    (hkeeps : ∀ r, (pair.side r).endpoint.context.config.KeepsPeer) :
    ∃ plan h k, Plan.Match plan ∧ Attuned plan pair h k := by
  obtain ⟨plan, hplan⟩ := hcompatible.plans hfresh hkeeps
  choose k hpauses using fun r => hfresh.pauses hcompatible (hplan r).1
  have hstart : (fun r => (plan r).start) = fun r => (pair.side r).endpoint.context :=
    funext fun r => (hplan r).1.start
  refine ⟨plan, fun _ => [], k, ⟨fun r => ?_, fun r => (hplan r).2⟩, ?_, hpauses, fun r => ?_⟩
  · rw [(hplan r).1.start]
    exact hfresh.role r
  · rw [hstart]
    exact .initial hfresh
  · cases r <;> simp only [side, hfresh.link] <;> rfl

/-! ### Other hooks -/

section Hooks

variable {hooks : Role → Option ChainHook}

/-- The pair with other chain hooks. -/
def withHooks (pair : Pair (Station FinishedKeys σ τ)) (hooks : Role → Option ChainHook) :
    Pair (Station FinishedKeys σ τ) where
  server := pair.server.setContext fun c =>
    { c with config := { c.config with chainHook := hooks .server } }
  client := pair.client.setContext fun c =>
    { c with config := { c.config with chainHook := hooks .client } }
  link := pair.link

omit [SigningDevice σ] in
theorem context_withHooks (pair : Pair (Station FinishedKeys σ τ)) (r : Role) :
    (pair.withHooks hooks).context r = { pair.context r with
      config := { (pair.context r).config with chainHook := hooks r } } := by
  cases r <;> rfl

theorem signs_withHooks {r : Role} {bytes : Bytes} {retries : Nat} {verify : CertificateVerify} :
    ((pair.withHooks hooks).context r).Signs ((pair.withHooks hooks).signer? r) bytes retries verify
      ↔ (pair.context r).Signs (pair.signer? r) bytes retries verify := by
  cases r <;> exact ⟨fun ⟨hsigner, hlength⟩ => ⟨hsigner, hlength⟩,
    fun ⟨hsigner, hlength⟩ => ⟨hsigner, hlength⟩⟩

omit [SigningDevice σ] in
theorem Fresh.withHooks (hfresh : pair.Fresh) : (pair.withHooks hooks).Fresh where
  role r := by
    have hrole := hfresh.role r
    cases r <;> exact hrole
  fresh r := by
    have hside := hfresh.fresh r
    cases r <;> exact ⟨hside.flow, hside.incomplete, hside.wait, hside.message⟩
  peerless r := by
    have hnone := hfresh.peerless r
    cases r <;> exact hnone
  transcripts := hfresh.transcripts
  link := hfresh.link

/-- The hooks have no part in what is signed. -/
theorem Signed.of_withHooks {r : Role} {bytes : Bytes}
    (hsigned : (pair.withHooks hooks).Signed r bytes) : pair.Signed r bytes := by
  induction hsigned with
  | server hencode => exact .server hencode
  | client _ hsigns hverify hfinished hencode ih =>
      exact .client ih (signs_withHooks.1 hsigns) hverify hfinished hencode

/-- Whether two ends suit each other is not a matter of the hooks they have, if these accept every
    chain. -/
theorem Compatible.withHooks (hcompatible : pair.Compatible)
    (haccepts : ∀ r hook, hooks r = some hook → ∀ s, (hook s).1 = .ok ()) :
    (pair.withHooks hooks).Compatible where
  wait r := by rw [context_withHooks]; exact hcompatible.wait r
  signaturePending r := by rw [context_withHooks]; exact hcompatible.signaturePending r
  algorithm := hcompatible.algorithm
  keys := hcompatible.keys
  serverChain := hcompatible.serverChain
  requested := hcompatible.requested
  clientChain := hcompatible.clientChain
  chain r hshows := by
    cases r with
    | server => exact hcompatible.chain .server hshows
    | client => exact hcompatible.chain .client hshows
  accepts r chain _ _ := by
    rw [context_withHooks, Context.AcceptsChain, Context.hooked]
    cases hsome : hooks r.peer with
    | none => rfl
    | some hook => exact haccepts r.peer hook hsome _
  signature r bytes hshows hchain hsigned := by
    simp only [signs_withHooks]
    cases r with
    | server => exact hcompatible.signature .server hshows hchain hsigned.of_withHooks
    | client => exact hcompatible.signature .client hshows hchain hsigned.of_withHooks

end Hooks

variable [TicketHandler τ]

/-- Whatever is asked of the two sides of a compatible pair in whatever order, no call of `handshake`
    is fatal and no alert is sent, as long as the chain hooks leave the peer in the session that they
    see; and wherever that leads, if flushing is blocked on neither side then calls in turn succeed on
    both sides, after a number of them that is bounded from the start. -/
theorem run_completes (hfresh : pair.Fresh) (hcompatible : pair.Compatible)
    (hkeeps : ∀ r, (pair.side r).endpoint.context.config.KeepsPeer) :
    (∀ requests,
      (∀ r e, (r, .fatal e) ∉ (pair.run requests).1)
      ∧ (pair.run requests).2.link.fromA.alerts = [] ∧ (pair.run requests).2.link.fromB.alerts = [])
    ∧ ∃ bound, ∀ requests,
      let after := (pair.run requests).2
      after.link.outboxA.blocked = false → after.link.outboxB.blocked = false →
        ∀ first n, bound ≤ n → ∀ r, (r, .success) ∈ (after.run (alternating first n)).1 := by
  obtain ⟨plan, h, k, hmatch, hattuned⟩ := hcompatible.attuned hfresh hkeeps
  refine ⟨fun requests => ?_, 2 * (k .server + k .client) + 3, fun requests => ?_⟩
  · obtain ⟨hfatal, h', k', _, hattuned'⟩ := hattuned.run hmatch requests
    exact ⟨hfatal, hattuned'.silent .server, hattuned'.silent .client⟩
  · intro after hserver hclient first n hn r
    obtain ⟨_, h', k', hle, hattuned'⟩ := hattuned.run hmatch requests
    have hblocked : ∀ r, (after.side r).socket.outbox.blocked = false := by
      intro r
      cases r with
      | server => exact hserver
      | client => exact hclient
    have hs := hle .server
    have hc := hle .client
    exact hattuned'.succeeds hmatch hblocked first r (by omega)

end Pair

/-! ## The rehearsal -/

namespace Rehearsal

/-- The Certificate message of an end. -/
def chainMessage (role : Role) : Bytes := (pair.context role).chainMessage.toOption.getD []

/-- The chain in it. -/
def chain (role : Role) : CertificateChain where
  certificates := [certificate (key role)]
  leafKey := some (.ed25519 (key role))

/-- What an end sends once it has signed. -/
def verify (role : Role) : CertificateVerify := ⟨.ed25519, signature role⟩

/-- The transcripts that the ends sign. -/
def transcript : Role → Bytes
  | .server => [0] ++ chainMessage .server
  | .client =>
      let bytes := [0] ++ chainMessage .server
        ++ (CertificateVerify.encode (verify .server)).toOption.getD []
      let mac := (station .server []).keys.mac .server ((pair.context .server).digest bytes)
      bytes ++ (Finished.encode mac).toOption.getD [] ++ chainMessage .client

set_option maxRecDepth 100000 in
theorem chainMessage_eq (role : Role) :
    (pair.context role).chainMessage = .ok (chainMessage role) := by
  cases role <;> decide +kernel

set_option maxRecDepth 100000 in
theorem reads_chain (role : Role) : pair.Reads role (chain role) := by
  refine ⟨(chainMessage role).drop 4, chainMessage role, chainMessage_eq role, ?_, ?_⟩ <;>
    cases role <;> decide +kernel

theorem reads_eq {role : Role} {chain' : CertificateChain} (hreads : pair.Reads role chain') :
    chain' = chain role := by
  obtain ⟨body, m, hencode, hframe, hdecode⟩ := hreads
  obtain ⟨body', m', hencode', hframe', hdecode'⟩ := reads_chain role
  obtain rfl := Except.ok.inj (hencode.symm.trans hencode')
  obtain ⟨_, rfl⟩ := frame_inj hframe hframe'
  exact Except.ok.inj (hdecode.symm.trans hdecode')

theorem signs (role : Role) (bytes : Bytes) :
    (pair.context role).Signs (pair.signer? role) bytes 0 (verify role) := by
  let signer : Signer := { key := .ed25519 [], fixed := some (signature role) }
  have hscheme : (pair.context role).config.signaturePolicy.choose? signer.info.schemes
      (pair.context role).peerSchemes = some .ed25519 := by
    cases role <;> decide +kernel
  have hlength : (verify role).signature.length = 64 := by cases role <;> decide +kernel
  have hsigner : pair.signer? role = some signer := by cases role <;> rfl
  exact ⟨⟨signer, signer.info, hsigner, .now rfl rfl, hscheme, hlength.le⟩, by omega⟩

theorem transcript_of_signed {role : Role} {bytes : Bytes} (hsigned : pair.Signed role bytes) :
    bytes = transcript role := by
  have hserver : ∀ {bytes}, pair.Signed .server bytes → bytes = transcript .server := by
    intro bytes hsigned
    cases hsigned with
    | server hencode =>
        obtain rfl := Except.ok.inj (hencode.symm.trans (chainMessage_eq .server))
        rfl
  cases hsigned with
  | server hencode => exact hserver (.server hencode)
  | client hbefore hsigns hverify hfinished hencode =>
      obtain rfl := hserver hbefore
      obtain rfl := hsigns.unique (signs .server _)
      obtain rfl := Except.ok.inj (hencode.symm.trans (chainMessage_eq .client))
      obtain rfl : _ = _ := congrArg (·.toOption.getD []) hverify
      obtain rfl : _ = _ := congrArg (·.toOption.getD []) hfinished
      rfl

set_option maxRecDepth 100000 in
theorem verifies (role : Role) :
    (PublicKey.ed25519 (key role)).verify .ed25519
      (signatureInput ((pair.context role).digest (transcript role)) (.ofRole role)) (signature role)
      = .ok true := by
  cases role <;> decide +kernel

theorem compatible_pair : pair.Compatible where
  wait r := by cases r <;> rfl
  signaturePending r := by cases r <;> rfl
  algorithm := rfl
  keys := rfl
  serverChain := nofun
  requested := rfl
  clientChain := nofun
  chain r _ := ⟨_, reads_chain r⟩
  accepts r _ _ _ := by cases r <;> rfl
  signature r bytes _ _ hsigned := by
    obtain rfl := transcript_of_signed hsigned
    refine ⟨0, verify r, signs r _, by cases r <;> rfl, fun chain' key' hreads hkey => ?_⟩
    rw [reads_eq hreads] at hkey
    obtain rfl := Option.some.inj hkey
    exact verifies r

set_option maxRecDepth 100000 in
/-- The two ends of the rehearsal succeed after a call of the client while it was blocked. -/
theorem pair_completes :
    let interrupted := [(.client, .setBlocked true), (.server, .handshake), (.client, .handshake),
      (.client, .setBlocked false)]
    ∃ n, ∀ r, (r, .success) ∈ ((pair.run interrupted).2.run (alternating .server n)).1 := by
  intro interrupted
  have hkeeps : ∀ r, (pair.side r).endpoint.context.config.KeepsPeer := by
    intro r
    cases r <;> exact nofun
  obtain ⟨_, bound, hbound⟩ := Pair.run_completes fresh_pair compatible_pair hkeeps
  exact ⟨bound, hbound interrupted (by decide +kernel) (by decide +kernel) .server bound
    (Nat.le_refl bound)⟩

/-- The pair with a client whose chain hook accepts every chain and then rewrites the session. -/
def rewritten (rewrite : Session → Session) : Pair (Station FinishedKeys Signer TicketStore) :=
  pair.withHooks fun
    | .server => none
    | .client => some fun s => (.ok (), rewrite s)

set_option maxRecDepth 100000 in
/-- A hook that accepts is not enough: the handshake of two ends that suit each other fails if the
    client's hook forgets the chain it has accepted, or the key. -/
theorem forgetful_fails :
    let requests := [(.server, .handshake), (.client, .handshake)]
    let chainless := rewritten ({ · with peerCertificates := none })
    let keyless := rewritten ({ · with peerKey := none })
    chainless.Fresh ∧ chainless.Compatible
      ∧ (chainless.run requests).1
        = [(.server, .needsIo .read), (.client, .fatal .noPeerCertificate)]
      ∧ (chainless.run requests).2.link.fromB.alerts ≠ []
    ∧ keyless.Fresh ∧ keyless.Compatible
      ∧ (keyless.run requests).1
        = [(.server, .needsIo .read), (.client, .fatal (.internal .noPeerKey))]
      ∧ (keyless.run requests).2.link.fromB.alerts ≠ [] := by
  have hcompatible : ∀ rewrite, (rewritten rewrite).Compatible := by
    intro rewrite
    refine compatible_pair.withHooks fun r hook hsome s => ?_
    cases r <;> cases hsome
    rfl
  exact ⟨fresh_pair.withHooks, hcompatible _, by decide +kernel, by decide +kernel,
    fresh_pair.withHooks, hcompatible _, by decide +kernel, by decide +kernel⟩

end Rehearsal

end TlsHandshake
