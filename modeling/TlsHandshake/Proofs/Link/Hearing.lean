import TlsHandshake.Proofs.Link.Plan

set_option autoImplicit false

/-! # What a plan has an end send and hear

What an end sends is the start of its plan's flight, whatever it has been up to. What it hears is the
next message of the flight in its plan, and that message convinces it. -/

namespace TlsHandshake

open AuthFlow

variable {σ τ : Type} [SigningDevice σ] {c c' : Context}

/-- A CertificateVerify message is the second one of a flight. -/
def Planned (flight : List Bytes) (_ : Bytes) (verify : CertificateVerify) : Prop :=
  ∃ v, CertificateVerify.encode verify = .ok v ∧ flight[1]? = some v

theorem Context.not_showsChain (hrole : c.role = .client)
    (hrequested : c.certificateRequested = false) : ¬ c.ShowsChain := by
  intro hshows
  have hasked := hshows hrole
  rw [hrequested] at hasked
  cases hasked

/-- Until it has been read whole, the peer's flight is without Finished. -/
theorem AuthFlow.PeerFlight.unfinished {before : Bytes} {phase : Phase} {handled : List Message}
    {s : Session} {macs : List (Bytes × Bytes)} {saved : Option Bytes}
    (hflight : PeerFlight c before phase handled s macs saved)
    (hphase : (expected? phase).isSome = true) : ∀ m ∈ handled, m.type ≠ .finished := by
  cases hflight with
  | waiting | unread | unasked => nofun
  | chain _ hchain | anonymous _ hchain =>
      intro m hm
      rw [List.mem_singleton.1 hm, hchain.type]
      decide
  | verified _ hchain _ _ _ hverify =>
      intro m hm
      simp only [List.mem_cons, List.not_mem_nil, or_false] at hm
      rcases hm with rfl | rfl
      · rw [hchain.type]
        decide
      · rw [hverify.type]
        decide
  | complete hdone =>
      rcases hdone with rfl | ⟨_, h | h | h⟩
      · cases hphase
      all_goals
        rw [h] at hphase
        cases hphase

namespace Plan

variable (plan : Plan σ)

/-! ## What is sent -/

/-- All that is sent before Finished is all that is shown. -/
theorem own_of_sendFinished {before : Bytes} {ms : List Bytes}
    (hflight : OwnFlight plan.start (Planned plan.own) before .sendFinished ms []) :
    ∃ f, Finished.encode (plan.mac plan.start.role
        (plan.start.digest (plan.start.ownStart plan.theirs ++ ms.flatten))) = .ok f
      ∧ plan.own = ms ++ [f] := by
  obtain ⟨shown, hshows, f, hf, hown⟩ := plan.shows
  generalize plan.retries = retries at hshows
  suffices hms : ms = shown by
    subst hms
    exact ⟨f, hf, hown⟩
  rcases hflight.at_sendFinished with
    ⟨hrole, hrequested, rfl⟩
    | ⟨m, hshown, hencode, ⟨hchain, rfl⟩ | ⟨hchain, v, verify, rfl, hv, hgood⟩⟩
  · cases hshows with
    | unasked => rfl
    | bare hshows | signed hshows => exact absurd hshows (Context.not_showsChain hrole hrequested)
  · cases hshows with
    | unasked hrole hrequested => exact absurd hshown (Context.not_showsChain hrole hrequested)
    | bare _ hencode' =>
        obtain rfl := Except.ok.inj (hencode.symm.trans hencode')
        rfl
    | signed _ _ hchain' => exact absurd hchain hchain'
  · cases hshows with
    | unasked hrole hrequested => exact absurd hshown (Context.not_showsChain hrole hrequested)
    | bare _ _ hchain' => exact absurd hchain' hchain
    | signed _ hencode' _ _ _ =>
        obtain rfl := Except.ok.inj (hencode.symm.trans hencode')
        obtain ⟨v', hv', hsecond⟩ := hgood
        obtain rfl := Except.ok.inj (hv.symm.trans hv')
        rw [hown] at hsecond
        obtain rfl := Option.some.inj hsecond
        rfl

/-- A flight that is complete is the planned one. -/
theorem own_of_done {sent : List Bytes} {macs : List (Bytes × Bytes)}
    (hflight : OwnFlight plan.start (Planned plan.own) (plan.start.ownStart plan.theirs)
      .done sent macs)
    (hmacs : ∀ p ∈ macs, p.2 = plan.mac plan.start.role p.1) : sent = plan.own := by
  obtain ⟨ms, f, mac, rfl, hencode, rfl, hms⟩ := hflight.at_done
  obtain ⟨f', hf', hown⟩ := plan.own_of_sendFinished hms
  rw [← show mac = plan.mac plan.start.role _ from hmacs _ List.mem_cons_self] at hf'
  rw [hown, Except.ok.inj (hencode.symm.trans hf')]

/-- Before that it is the start of the planned one. -/
theorem own_prefix {before : Bytes} {phase : Phase} {sent : List Bytes}
    {macs : List (Bytes × Bytes)}
    (hflight : OwnFlight plan.start (Planned plan.own) before phase sent macs)
    (hmacs : ∀ p ∈ macs, p.2 = plan.mac plan.start.role p.1)
    (hbefore : macs ≠ [] → before = plan.start.ownStart plan.theirs) : sent <+: plan.own := by
  have hshown : ∀ {ms : List Bytes},
      OwnFlight plan.start (Planned plan.own) before .sendFinished ms [] → ms <+: plan.own := by
    intro ms hms
    obtain ⟨f, _, hown⟩ := plan.own_of_sendFinished hms
    rw [hown]
    exact List.prefix_append _ _
  cases hflight with
  | waiting | unsent | unasked => exact List.nil_prefix
  | certificate hshows hencode hchain =>
      obtain ⟨shown, hshows', f, _, hown⟩ := plan.shows
      generalize plan.retries = retries at hshows'
      rw [hown]
      cases hshows' with
      | unasked hrole hrequested => exact absurd hshows (Context.not_showsChain hrole hrequested)
      | bare _ _ hchain' => exact absurd hchain' hchain
      | signed _ hencode' _ _ _ =>
          obtain rfl := Except.ok.inj (hencode.symm.trans hencode')
          exact List.prefix_append [_] _
  | bare hshows hencode hchain => exact hshown (.bare hshows hencode hchain)
  | signed hshows hencode hchain hverify hgood =>
      exact hshown (.signed hshows hencode hchain hverify hgood)
  | complete hdone hms hencode =>
      obtain rfl := hbefore (List.cons_ne_nil _ _)
      have hall : OwnFlight plan.start (Planned plan.own) (plan.start.ownStart plan.theirs)
          .done _ _ := .complete (Or.inl rfl) hms hencode
      exact plan.own_of_done hall hmacs ▸ List.prefix_rfl

/-! ## What is heard -/

/-- A framed message with the bytes of a frame is that frame's. -/
theorem of_raw_eq {m : Message} {type : MessageType} {body raw : Bytes} (hframed : m.Framed)
    (hraw : raw = m.raw) (hframe : frame type body = .ok raw) : m.type = type ∧ m.body = body := by
  subst hraw
  exact frame_inj hframed hframe

/-- What is heard is a flight: nothing comes after Finished. -/
theorem theirs_shape : FlightShape plan.theirs := by
  obtain ⟨shown, htrusts, f, hf, htheirs⟩ := plan.trusts
  rw [htheirs]
  refine .concat ?_ (isMessage_finished hf)
  intro m hm
  cases htrusts with
  | unasked => cases hm
  | anonymous _ hframe =>
      rw [List.mem_singleton] at hm
      exact ⟨.certificate, ⟨_, hm ▸ hframe⟩, by decide⟩
  | authenticated _ hframe _ _ _ hencode =>
      simp only [List.mem_cons, List.not_mem_nil, or_false] at hm
      rcases hm with rfl | rfl
      · exact ⟨.certificate, ⟨_, hframe⟩, by decide⟩
      · exact ⟨.certificateVerify, isMessage_verify hencode, by decide⟩

theorem chain_eq {m : Message} {chain chain' : CertificateChain} {body raw : Bytes}
    (hchain : c.ReadsChain m chain) (hframed : m.Framed) (hraw : raw = m.raw)
    (hframe : frame .certificate body = .ok raw)
    (hdecode : CertificateChain.decode c.certificateRules body = .ok chain') : chain = chain' := by
  obtain ⟨_, rfl⟩ := of_raw_eq hframed hraw hframe
  exact Except.ok.inj (hchain.decode.symm.trans hdecode)

section Hearing

variable {m v f : Message} {rest : List Message} {chain : CertificateChain} {onWay : Bytes}

/-- The first message is a chain, if one is asked for; the hook is content with it, and it may be
    empty only if that is allowed. -/
theorem hears_chain (hheard : Delivery plan.theirs (m :: rest) onWay)
    (hsaved : plan.start.usesSavedFinished plan.start.role = false) :
    ∃ chain, plan.start.ReadsChain m chain ∧ plan.start.AcceptsChain chain
      ∧ (chain.certificates = [] → plan.start.allowsAnonymous plan.start.role = true) := by
  obtain ⟨later, hsplit, _, hframed⟩ := hheard
  have hm := hframed m List.mem_cons_self
  obtain ⟨shown, htrusts, f, _, htheirs⟩ := plan.trusts
  rw [htheirs] at hsplit
  cases htrusts with
  | unasked hsaved' =>
      rw [hsaved] at hsaved'
      cases hsaved'
  | anonymous _ hframe hdecode hempty hallowed haccepts =>
      obtain ⟨htype, rfl⟩ := of_raw_eq hm (List.cons.inj hsplit).1 hframe
      exact ⟨_, ⟨htype, hdecode⟩, haccepts, fun _ => hallowed⟩
  | authenticated _ hframe hdecode hsome _ _ _ _ haccepts =>
      obtain ⟨htype, rfl⟩ := of_raw_eq hm (List.cons.inj hsplit).1 hframe
      exact ⟨_, ⟨htype, hdecode⟩, haccepts, fun hempty => absurd hempty hsome⟩

/-- After a chain that is not empty comes a signature of its leaf's key. -/
theorem hears_signature (hheard : Delivery plan.theirs (m :: v :: rest) onWay)
    (hchain : plan.start.ReadsChain m chain) (hsome : chain.certificates ≠ []) :
    ∃ key verify, chain.leafKey = some key ∧ v.type = .certificateVerify
      ∧ CertificateVerify.decode v.body = .ok verify
      ∧ plan.start.config.signaturePolicy.refusal? verify.scheme = none
      ∧ key.verify verify.scheme
        (signatureInput (plan.start.digest (plan.start.beforePeer plan.own ++ m.raw))
          (.ofRole plan.start.role.peer)) verify.signature = .ok true := by
  obtain ⟨later, hsplit, _, hframed⟩ := hheard
  have hm := hframed m List.mem_cons_self
  have hv := hframed v (List.mem_cons_of_mem _ List.mem_cons_self)
  obtain ⟨shown, htrusts, f, hf, htheirs⟩ := plan.trusts
  rw [htheirs] at hsplit
  cases htrusts with
  | unasked =>
      obtain ⟨htype, _⟩ := of_raw_eq hm (List.cons.inj hsplit).1 hf
      rw [hchain.type] at htype
      cases htype
  | anonymous _ hframe hdecode hempty =>
      obtain rfl := chain_eq hchain hm (List.cons.inj hsplit).1 hframe hdecode
      exact absurd hempty hsome
  | authenticated _ hframe hdecode _ hkey hencode hpolicy hverify =>
      obtain ⟨hraw, hsplit⟩ := List.cons.inj hsplit
      obtain rfl := chain_eq hchain hm hraw hframe hdecode
      obtain ⟨body, hbody⟩ := isMessage_verify hencode
      obtain ⟨htype, rfl⟩ := of_raw_eq hv (List.cons.inj hsplit).1 hbody
      rw [hraw] at hverify
      exact ⟨_, _, hkey, htype, decode_verify_of_encode hencode hbody, hpolicy, hverify⟩

/-- After all that is shown comes Finished, with the MAC over the transcript up to it. -/
theorem hears_finished {handled : List Message} {before : Bytes} {s : Session}
    {macs : List (Bytes × Bytes)} {saved : Option Bytes}
    (hheard : Delivery plan.theirs (handled ++ [f]) onWay)
    (hflight : PeerFlight plan.start before .readFinished handled s macs saved) :
    f.type = .finished ∧ f.body = plan.mac plan.start.role.peer
      (plan.start.digest (plan.start.beforePeer plan.own ++ rawBytes handled)) := by
  obtain ⟨later, hsplit, _, hframed⟩ := hheard
  have hf := hframed f (by simp)
  obtain ⟨shown, htrusts, finished, hfinished, htheirs⟩ := plan.trusts
  rw [htheirs] at hsplit
  -- what has been read is what was to be shown, so Finished is next
  suffices hshown : handled.map Message.raw = shown by
    subst hshown
    rw [List.map_append, List.append_assoc] at hsplit
    exact of_raw_eq hf (List.cons.inj (List.append_cancel_left hsplit)).1 hfinished
  cases hflight with
  | unasked hsaved =>
      cases htrusts with
      | unasked => rfl
      | anonymous hsaved' | authenticated hsaved' =>
          rw [hsaved] at hsaved'
          cases hsaved'
  | @anonymous m chain _ _ hsaved hchain hempty =>
      have hm := hframed m (by simp)
      cases htrusts with
      | unasked hsaved' =>
          rw [hsaved] at hsaved'
          cases hsaved'
      | anonymous => exact congrArg ([·]) (List.cons.inj hsplit).1.symm
      | authenticated _ hframe hdecode hsome =>
          obtain rfl := chain_eq hchain hm (List.cons.inj hsplit).1 hframe hdecode
          exact absurd hempty hsome
  | @verified m v chain _ _ _ _ hsaved hchain _ hsome =>
      have hm := hframed m (by simp)
      cases htrusts with
      | unasked hsaved' =>
          rw [hsaved] at hsaved'
          cases hsaved'
      | anonymous _ hframe hdecode hempty =>
          obtain rfl := chain_eq hchain hm (List.cons.inj hsplit).1 hframe hdecode
          exact absurd hempty hsome
      | authenticated =>
          obtain ⟨hraw, hsplit⟩ := List.cons.inj hsplit
          rw [hraw, (List.cons.inj hsplit).1]
          rfl
  | waiting _ hphase _ => rcases hphase with h | h | h <;> cases h
  | complete hdone => rcases hdone with h | ⟨_, h | h | h⟩ <;> cases h

/-- An end that still reads has not heard all. -/
theorem not_all_heard {handled : List Message} {before : Bytes} {phase : Phase} {s : Session}
    {macs : List (Bytes × Bytes)} {saved : Option Bytes}
    (hflight : PeerFlight plan.start before phase handled s macs saved)
    (hphase : (expected? phase).isSome = true) (hframed : ∀ m ∈ handled, m.Framed) :
    plan.theirs ≠ handled.map Message.raw := by
  intro hall
  obtain ⟨shown, _, f, hf, htheirs⟩ := plan.trusts
  have hmem : f ∈ handled.map Message.raw := by
    rw [← hall, htheirs]
    exact List.mem_append_right _ (List.mem_singleton_self f)
  obtain ⟨m, hm, rfl⟩ := List.mem_map.1 hmem
  exact hflight.unfinished hphase m hm (of_raw_eq (hframed m hm) rfl hf).1

end Hearing

end Plan

end TlsHandshake
