import TlsHandshake.Proofs.Flight.Traces
import TlsHandshake.Proofs.Link.Following

set_option autoImplicit false

/-! # Turns of an end that follows its plan

Such an end never fails (`Follows.not_failure`), since whatever it reads convinces it and whatever it
is to send it can send, and its turns keep to the plan (`Follows.advance`). -/

namespace TlsHandshake

open AuthFlow Endpoint

namespace Plan

namespace Follows

variable {σ τ : Type} [SigningDevice σ] [TicketHandler τ] {c c' : Context} {plan : Plan σ}
  {left : Nat} {phase : Phase} {e e' : Station FinishedKeys σ τ} {g h : History}
  {handled : List Message}

/-! ## No turn fails -/

variable {error : Error}

theorem not_failure_sendCertificate (hfollows : plan.Follows left .sendCertificate c e h handled)
    (hfailure : Failure plan.start.role (Environment.signer? e) .sendCertificate c g error c')
    (hperforms : Performs e g e') : False := by
  have hunsent := (outbound_of_performs hperforms).2
  cases hfailure with
  | certificateUnencodable hencode =>
      obtain ⟨message, hmessage⟩ := hfollows.chainMessage_eq
      rw [hmessage] at hencode
      cases hencode
  | certificateUnqueued => cases hunsent
  | outOfOrder hphase => cases hphase

theorem not_failure_sendCertificateVerify
    (hfollows : plan.Follows left .sendCertificateVerify c e h handled)
    (hfailure : Failure plan.start.role (Environment.signer? e) .sendCertificateVerify c g error c')
    (hperforms : Performs e g e') : False := by
  have hunsent := (outbound_of_performs hperforms).2
  obtain ⟨verify, info, hsigner, hscheme, hlength, ⟨v, hv, _⟩, hsigns⟩ := hfollows.signing_eq
  cases hfailure with
  | signerMissing hmissing =>
      rw [hsigner] at hmissing
      cases hmissing
  | schemeMissing hsigner' hscheme' =>
      obtain rfl := Option.some.inj (hsigner.symm.trans hsigner')
      rw [hscheme] at hscheme'
      cases hscheme'
  | outOfOrder hphase => cases hphase
  | signatureFailed hsigner' hscheme' =>
      obtain rfl := Option.some.inj (hsigner.symm.trans hsigner')
      obtain rfl := Option.some.inj (hscheme.symm.trans hscheme')
      obtain ⟨between, hevent, _⟩ := hperforms
      rcases hsigns hevent with h | ⟨h, _⟩ <;> cases h
  | signatureTooLong hsigner' hscheme' htoolong =>
      obtain rfl := Option.some.inj (hsigner.symm.trans hsigner')
      obtain rfl := Option.some.inj (hscheme.symm.trans hscheme')
      obtain ⟨between, hevent, _⟩ := hperforms
      rcases hsigns hevent with h | ⟨h, _⟩ <;> cases h
      exact absurd hlength (Nat.not_le_of_lt htoolong)
  | signatureUnencodable hsigner' hscheme' _ hencode =>
      obtain rfl := Option.some.inj (hsigner.symm.trans hsigner')
      obtain rfl := Option.some.inj (hscheme.symm.trans hscheme')
      obtain ⟨between, hevent, _⟩ := hperforms
      rcases hsigns hevent with h | ⟨h, _⟩ <;> cases h
      rw [hv] at hencode
      cases hencode
  | signatureUnqueued =>
      rw [History.messagesUnsent_cons, Context.signingEvent_unsent?] at hunsent
      cases hunsent

theorem not_failure_sendFinished {role : Role}
    (hfailure : Failure role (Environment.signer? e) .sendFinished c g error c')
    (hperforms : Performs e g e') : False := by
  have hunsent := (outbound_of_performs hperforms).2
  have hmacs : ∀ {sender : Role} {transcriptHash : Bytes} {answer : Except Error Bytes},
      .computedMac sender transcriptHash answer ∈ g →
        answer = .ok (e.keys.mac sender transcriptHash) := computed_of_performs hperforms
  cases hfailure with
  | finishedUncomputable => cases hmacs List.mem_cons_self
  | finishedUnencodable hencode =>
      obtain ⟨f, hf⟩ := e.keys.encode_mac c.role c.transcript.hash
      obtain rfl := Except.ok.inj (hmacs List.mem_cons_self)
      rw [hf] at hencode
      cases hencode
  | finishedUnqueued => cases hunsent
  | savedFinishedUncomputable =>
      cases hmacs (List.mem_cons_of_mem _ (List.mem_cons_of_mem _ List.mem_cons_self))
  | outOfOrder hphase => cases hphase

theorem not_failure_readCertificate (hfollows : plan.Follows left .readCertificate c e h handled)
    (hfailure : Failure plan.start.role (Environment.signer? e) .readCertificate c g error c') :
    False := by
  cases hfailure with
  | outOfOrder hphase hmessage htype => exact htype (hfollows.type_eq hmessage hphase)
  | chainUndecodable hmessage _ hdecode =>
      obtain ⟨_, chain, hchain, _⟩ := hfollows.reads_chain hmessage
      rw [hchain] at hdecode
      cases hdecode
  | chainRefused hmessage _ hdecode hhook =>
      obtain ⟨_, chain, hchain, haccepts⟩ := hfollows.reads_chain hmessage
      obtain rfl := Except.ok.inj (hchain.symm.trans hdecode)
      cases (haccepts hhook).1
  | anonymousRefused hmessage _ hdecode hhook hpeer hrefused =>
      obtain ⟨_, chain, hchain, haccepts⟩ := hfollows.reads_chain hmessage
      obtain rfl := Except.ok.inj (hchain.symm.trans hdecode)
      rw [(haccepts hhook).2 hpeer] at hrefused
      cases hrefused

theorem not_failure_readCertificateVerify
    (hfollows : plan.Follows left .readCertificateVerify c e h handled)
    (hfailure : Failure plan.start.role (Environment.signer? e) .readCertificateVerify c g error c') :
    False := by
  cases hfailure with
  | outOfOrder hphase hmessage htype => exact htype (hfollows.type_eq hmessage hphase)
  | keyMissing hmessage _ hmissing =>
      obtain ⟨_, key, verify, hkey, _⟩ := hfollows.reads_signature hmessage
      rw [hkey] at hmissing
      cases hmissing
  | verifyUndecodable hmessage _ _ hundecodable =>
      obtain ⟨_, key, verify, _, hdecode, _⟩ := hfollows.reads_signature hmessage
      rw [hdecode] at hundecodable
      cases hundecodable
  | schemeRefused hmessage _ _ hdecode' hrefused =>
      obtain ⟨_, key, verify, _, hdecode, hpolicy, _⟩ := hfollows.reads_signature hmessage
      obtain rfl := Except.ok.inj (hdecode.symm.trans hdecode')
      rw [hpolicy] at hrefused
      cases hrefused
  | signatureRefused hmessage _ hkey' hdecode' _ hrefused =>
      obtain ⟨_, key, verify, hkey, hdecode, _, hverify⟩ := hfollows.reads_signature hmessage
      obtain rfl := Option.some.inj (hkey.symm.trans hkey')
      obtain rfl := Except.ok.inj (hdecode.symm.trans hdecode')
      exact hrefused hverify

theorem not_failure_readFinished (hfollows : plan.Follows left .readFinished c e h handled)
    (hfailure : Failure plan.start.role (Environment.signer? e) .readFinished c g error c')
    (hperforms : Performs e g e') : False := by
  cases hfailure with
  | outOfOrder hphase hmessage htype => exact htype (hfollows.type_eq hmessage hphase)
  | savedFinishedMissing hmessage _ hsaved hmissing =>
      rcases hmissing with hclient | hnone
      · rw [Context.isServer, hfollows.progress.settings.role] at hclient
        rw [Context.usesSavedFinished] at hsaved
        cases hrole : plan.start.role <;> rw [hrole] at hclient hsaved
        · cases hsaved
        · cases hclient
      · rw [hfollows.saved_eq hsaved] at hnone
        cases hnone
  | savedFinishedRefused hmessage _ hsaved _ hmac hbody =>
      rw [hfollows.saved_eq hsaved] at hmac
      rw [(hfollows.reads_finished hmessage).2, Option.some.inj hmac] at hbody
      exact hbody rfl
  | peerFinishedUncomputable => cases computed_of_performs hperforms List.mem_cons_self
  | finishedRefused hmessage _ _ hbody =>
      have hmac := Except.ok.inj (computed_of_performs hperforms List.mem_cons_self)
      rw [hfollows.keys] at hmac
      rw [(hfollows.reads_finished hmessage).2, hmac] at hbody
      exact hbody rfl

/-- An end that keeps to its plan does not fail. -/
theorem not_failure {p q : Endpoint (Station FinishedKeys σ τ)}
    (hfollows : plan.Follows left phase p.context p.environment h handled) :
    ¬ Turns plan.start.role phase p g (.error error) q := by
  rintro ⟨hfailure, hperforms⟩
  cases phase with
  | sendCertificate => exact hfollows.not_failure_sendCertificate hfailure hperforms
  | sendCertificateVerify => exact hfollows.not_failure_sendCertificateVerify hfailure hperforms
  | sendFinished => exact not_failure_sendFinished hfailure hperforms
  | readCertificate => exact hfollows.not_failure_readCertificate hfailure
  | readCertificateVerify => exact hfollows.not_failure_readCertificateVerify hfailure
  | readFinished => exact hfollows.not_failure_readFinished hfailure hperforms
  | done =>
      generalize q.context = c' at hfailure
      cases hfailure with
      | outOfOrder hphase => cases hphase

/-! ## Turns keep to the plan -/

variable {turn : Turn}

/-- What happens leaves nothing to check but what is said of the signer, if no alert is sent and what is
    read is heard. -/
theorem step {left' : Nat} {phase' : Phase} {handled' : List Message}
    (hfollows : plan.Follows left phase c e h handled) (hperforms : Performs e g e')
    (halerts : ∀ a, .alerted a ∉ g)
    (hheard : ∃ onWay, Delivery plan.theirs (h ++ g).messagesRead onWay)
    (hprogress : Progress plan.start (Planned plan.own) phase' c' (h ++ g) handled')
    (hunsigned : (h ++ g).messagesSent = [] →
      e'.signer = plan.signer ∧ c'.signaturePending = false)
    (hsigning : phase' = .sendCertificateVerify → ∃ verify, c'.Obtains e'.signer c'.ask left' verify
      ∧ Planned plan.own c'.transcript.bytes verify)
    (hle : left' ≤ plan.retries) (heq : phase' ≠ .sendCertificateVerify → left' = 0) :
    plan.Follows left' phase' c' e' (h ++ g) handled' where
  progress := hprogress
  heard := hheard
  macs sender transcriptHash answer hmem := by
    rcases List.mem_append.1 hmem with hmem | hmem
    · exact hfollows.macs _ _ _ hmem
    · rw [computed_of_performs hperforms hmem, hfollows.keys]
  alerts a hmem := by
    rcases List.mem_append.1 hmem with hmem | hmem
    · exact hfollows.alerts a hmem
    · exact halerts a hmem
  keys := (mac_of_performs hperforms).trans hfollows.keys
  unsigned := hunsigned
  signing := hsigning
  left_le := hle
  left_eq := heq

omit [TicketHandler τ] in
/-- A turn that goes on reads nothing. -/
theorem heard_of_advance (hfollows : plan.Follows left phase c e h handled) {role : Role}
    {signer? : Option SignerInfo} (hadvance : Advance role signer? phase c g turn c') :
    ∃ onWay, Delivery plan.theirs (h ++ g).messagesRead onWay := by
  rw [History.messagesRead_append, hadvance.ofTurn.messagesRead, List.append_nil]
  exact hfollows.heard

/-- Nothing has happened but what changes the wait or the message. -/
theorem sameFlight {handled' : List Message} (hfollows : plan.Follows left phase c e h handled)
    (hsame : c.SameFlight c') (hperforms : Performs e g e')
    (hsigning : ∀ event ∈ g, ¬ event.IsSigning) (halerts : ∀ a, .alerted a ∉ g)
    (hsent : g.messagesSent = [])
    (hprogress : Progress plan.start (Planned plan.own) phase c' (h ++ g) handled')
    (hheard : ∃ onWay, Delivery plan.theirs (h ++ g).messagesRead onWay) :
    plan.Follows left phase c' e' (h ++ g) handled' := by
  have hsigner := signer_of_performs hperforms hsigning
  refine hfollows.step hperforms halerts hheard hprogress (fun hnone => ?_) (fun hphase => ?_)
    hfollows.left_le hfollows.left_eq
  · rw [History.messagesSent_append, hsent, List.append_nil] at hnone
    rw [hsigner, hsame.signaturePending]
    exact hfollows.unsigned hnone
  · obtain ⟨verify, ⟨⟨s, info, hs, hgives, hscheme, hlength⟩, hfits⟩, hplanned⟩ :=
      hfollows.signing hphase
    have hask : c'.ask (σ := σ) = c.ask := by
      funext scheme maxLength
      rw [Context.ask, Context.ask, hsame.signaturePending, Context.signatureInput,
        Context.signatureInput, hsame.transcript, Context.role, Context.role, hsame.config]
    rw [hsigner, hask]
    have hscheme' := hsame.config ▸ hsame.peerSchemes ▸ hscheme
    exact ⟨verify, ⟨⟨s, info, hs, hgives, hscheme', hlength⟩, hfits⟩, hplanned⟩

/-- A turn other than a signing one leaves the signer as it was. -/
theorem unsigned_of_ne (hfollows : plan.Follows left phase c e h handled)
    (hadvance : Advance plan.start.role (Environment.signer? e) phase c g turn c')
    (hperforms : Performs e g e') (hphase : phase ≠ .sendCertificateVerify)
    (hsent : (h ++ g).messagesSent = []) :
    e'.signer = plan.signer ∧ c'.signaturePending = false := by
  rw [History.messagesSent_append, List.append_eq_nil_iff] at hsent
  obtain ⟨hsigner, hpending⟩ := hfollows.unsigned hsent.1
  obtain ⟨hsigning, hsame⟩ := hadvance.unsigned hphase
  exact ⟨(signer_of_performs hperforms hsigning).trans hsigner, hsame.trans hpending⟩

omit [TicketHandler τ] in
/-- Once the chain has been sent, the signer owes the planned signature. -/
theorem signing_of_certificateSent {message : Bytes}
    (hfollows : plan.Follows left .sendCertificate c e h handled)
    (hencode : c.chainMessage = .ok message) (hchain : c.config.certificateChain ≠ [])
    (hsigner : e'.signer = e.signer) :
    ∃ verify, (c.record message).Obtains e'.signer (c.record message).ask plan.retries verify
      ∧ Planned plan.own (c.record message).transcript.bytes verify := by
  have hsettings := hfollows.progress.settings
  obtain ⟨hsent, _, hshows⟩ := hfollows.progress.own.at_sendCertificate
  obtain ⟨hsame, hpending⟩ := hfollows.unsigned hsent
  rw [hsettings.chainMessage] at hencode
  rw [hsettings.config] at hchain
  obtain ⟨shown, hshown, f, _, hown⟩ := plan.shows
  generalize hretries : plan.retries = retries at hshown
  cases hshown with
  | unasked hrole hrequested => exact absurd hshows (Context.not_showsChain hrole hrequested)
  | bare _ _ hempty => exact absurd hempty hchain
  | signed _ hencode' _ hsigns hverify =>
      obtain rfl := Except.ok.inj (hencode.symm.trans hencode')
      -- what is signed is the transcript once the chain is in it
      have hbytes : (c.record message).transcript.bytes
          = plan.start.ownStart plan.theirs ++ message := by
        change c.transcript.bytes ++ message = _
        rw [hfollows.progress.transcript_own (Or.inl rfl), hsent,
          hfollows.beforeOwn_eq fun _ => rfl, List.flatten_nil, List.append_nil]
      have hrecorded : plan.start.SameSettings (c.record message) := hsettings.keep
      have hask : (c.record message).ask = fun scheme maxLength => SigningDevice.sign (σ := σ) scheme
          (signatureInput (plan.start.digest (plan.start.ownStart plan.theirs ++ message))
            (.ofRole plan.start.role)) maxLength := by
        funext scheme maxLength
        rw [Context.ask, Context.record_signaturePending, hpending, hrecorded.signatureInput hbytes,
          hrecorded.role]
        rfl
      refine ⟨_, ?_, _, hverify, by rw [hown]; rfl⟩
      rw [hask, hsigner, hsame]
      obtain ⟨⟨s, info, hs, hgives, hscheme, hlength⟩, hfits⟩ := hsigns
      refine ⟨⟨s, info, hs, hgives, ?_, hlength⟩, hfits⟩
      rw [hrecorded.config, hrecorded.peerSchemes]
      exact hscheme

theorem advance_sendCertificate {handled' : List Message}
    (hfollows : plan.Follows left .sendCertificate c e h handled)
    (hadvance : Advance plan.start.role (Environment.signer? e) .sendCertificate c g turn c')
    (hperforms : Performs e g e')
    (hprogress : Progress plan.start (Planned plan.own) turn.phase c' (h ++ g) handled') :
    ∃ left', plan.Follows left' turn.phase c' e' (h ++ g) handled' := by
  have hne : Phase.sendCertificate ≠ .sendCertificateVerify := nofun
  have hunsigned := hfollows.unsigned_of_ne hadvance hperforms hne
  have hsigner := signer_of_performs hperforms (hadvance.unsigned hne).1
  have hkept := hadvance
  cases hadvance with
  | awaiting hphase => cases hphase
  | certificateSent hencode =>
      by_cases hchain : c.config.certificateChain = []
      · rw [hchain] at hprogress hkept ⊢
        exact ⟨0, hfollows.step hperforms hkept.not_alerted
          (hfollows.heard_of_advance hkept) hprogress hunsigned nofun (Nat.zero_le _)
          fun _ => rfl⟩
      · have hnext : (if c.config.certificateChain.isEmpty then Phase.sendFinished
            else .sendCertificateVerify) = .sendCertificateVerify := by
          rw [if_neg (by rwa [List.isEmpty_iff])]
        rw [hnext] at hprogress hkept ⊢
        exact ⟨plan.retries, hfollows.step hperforms hkept.not_alerted
          (hfollows.heard_of_advance hkept) hprogress hunsigned
          (fun _ => hfollows.signing_of_certificateSent hencode hchain hsigner) (Nat.le_refl _)
          fun h => absurd rfl h⟩

theorem advance_sendCertificateVerify {handled' : List Message}
    (hfollows : plan.Follows left .sendCertificateVerify c e h handled)
    (hadvance : Advance plan.start.role (Environment.signer? e) .sendCertificateVerify c g turn c')
    (hperforms : Performs e g e')
    (hprogress : Progress plan.start (Planned plan.own) turn.phase c' (h ++ g) handled') :
    ∃ left', plan.Follows left' turn.phase c' e' (h ++ g) handled'
      ∧ (turn.phase = .sendCertificateVerify → left' < left) := by
  obtain ⟨m, hsent, _⟩ := hfollows.progress.own.at_sendCertificateVerify
  have hunsigned : (h ++ g).messagesSent = [] →
      e'.signer = plan.signer ∧ c'.signaturePending = false := by
    intro hnone
    rw [History.messagesSent_append, hsent] at hnone
    cases hnone
  obtain ⟨verify, info, hsigner, hscheme, _, hplanned, hsigns⟩ := hfollows.signing_eq
  have hkept := hadvance
  cases hadvance with
  | awaiting hphase => cases hphase
  | signatureDelayed hsigner' hscheme' =>
      obtain rfl := Option.some.inj (hsigner.symm.trans hsigner')
      obtain rfl := Option.some.inj (hscheme.symm.trans hscheme')
      have hperforms' := hperforms
      obtain ⟨between, hevent, rfl⟩ := hperforms
      rcases hsigns hevent with h | ⟨_, left', rfl, howes⟩
      · cases h
      · have hle : left' ≤ plan.retries := Nat.le_of_succ_le hfollows.left_le
        exact ⟨left', hfollows.step hperforms' hkept.not_alerted
          (hfollows.heard_of_advance hkept) hprogress hunsigned
          (fun _ => ⟨verify, howes, hplanned⟩) hle (fun h => absurd rfl h),
          fun _ => Nat.lt_succ_self _⟩
  | signatureSent =>
      exact ⟨0, hfollows.step hperforms hkept.not_alerted
          (hfollows.heard_of_advance hkept) hprogress hunsigned nofun (Nat.zero_le _)
        (fun _ => rfl), nofun⟩

/-- A turn that does not fail keeps to the plan, and if it goes on signing, a retry is over. -/
theorem advance (hfollows : plan.Follows left phase c e h handled)
    (hadvance : Advance plan.start.role (Environment.signer? e) phase c g turn c')
    (hperforms : Performs e g e') :
    ∃ left' handled', plan.Follows left' turn.phase c' e' (h ++ g) handled'
      ∧ (phase = .sendCertificateVerify → turn.phase = .sendCertificateVerify → left' < left) := by
  -- a signature that is sent is the planned one, since the signer gives no other
  have hgood : ∀ info scheme signature message, phase = .sendCertificateVerify →
      Environment.signer? e = some info →
      c.config.signaturePolicy.choose? info.schemes c.peerSchemes = some scheme →
      g = [c.signingEvent scheme info.maxLength (.success signature), .queued message (.ok ())] →
        Planned plan.own c.transcript.bytes ⟨scheme, signature⟩ := by
    rintro info scheme signature message rfl hsigner hscheme rfl
    obtain ⟨verify, info', hsigner', hscheme', _, hplanned, hsigns⟩ := hfollows.signing_eq
    obtain rfl := Option.some.inj (hsigner.symm.trans hsigner')
    obtain rfl := Option.some.inj (hscheme.symm.trans hscheme')
    obtain ⟨between, hevent, _⟩ := hperforms
    rcases hsigns hevent with h | ⟨h, _⟩ <;> cases h
    exact hplanned
  obtain ⟨handled', hprogress⟩ := hfollows.progress.advance hadvance plan.keeps hgood
  by_cases hsigning : phase = .sendCertificateVerify
  · subst hsigning
    obtain ⟨left', hnext, hlt⟩ := hfollows.advance_sendCertificateVerify hadvance hperforms hprogress
    exact ⟨left', handled', hnext, fun _ => hlt⟩
  · by_cases hchain : phase = .sendCertificate
    · subst hchain
      obtain ⟨left', hnext⟩ := hfollows.advance_sendCertificate hadvance hperforms hprogress
      exact ⟨left', handled', hnext, fun h => absurd h hsigning⟩
    · -- no other turn comes to sign, so the signer is out of it
      have hnext : turn.phase ≠ .sendCertificateVerify := fun h =>
        (hadvance.of_signing h).elim hchain hsigning
      exact ⟨0, handled', hfollows.step hperforms hadvance.not_alerted
        (hfollows.heard_of_advance hadvance) hprogress
        (hfollows.unsigned_of_ne hadvance hperforms hsigning) (fun h => absurd h hnext)
        (Nat.zero_le _) (fun _ => rfl), fun h => absurd h hsigning⟩

end Follows

end Plan

end TlsHandshake
