import TlsHandshake.Proofs.Excuses
import TlsHandshake.Proofs.Link.KeysInStep
import TlsHandshake.Proofs.Link.Reliance

set_option autoImplicit false

/-! # No input of the peer is an internal error

An end that is well equipped and is called as one likes fails by no fault of its own, whatever comes
in. The defensive branches for such faults are ruled out by what has happened before: a chain is
only stored with a key (`Progress.peerKey`), a server that asks for no chain has saved the MAC it
needs (`Progress.savedFinished`), and a message is only dealt with once it has been read. A failed
call is traced back to the wait or the turn that it comes from (`Kept.origin`), and what holds there
is kept from call to call (`Connection.Intact`). Main statement: `Connection.no_internal_errors`. -/

namespace TlsHandshake

open AuthFlow Endpoint

/-! ## Failures that are no fault of this end -/

/-- The events and the error of a failure that is no fault of this end and is not reported as one. -/
structure History.Blameless (h : History) (e : Error) : Prop where
  error : e.isOwnFault = false
  alerts : ∀ alert ∈ h.alerts, alert.description ≠ .internalError

namespace History

variable {g h : History} {e : Error}

theorem Blameless.after (hblameless : h.Blameless e) (hg : g.Quiet) : (g ++ h).Blameless e where
  error := hblameless.error
  alerts := by
    rw [(hg.before h).1]
    exact hblameless.alerts

theorem blameless_of_alert {description : AlertDescription} (he : e.isOwnFault = false)
    (halerts : h.alerts = [.fatal description]) (hdescription : description ≠ .internalError) :
    h.Blameless e where
  error := he
  alerts alert hmem := by
    rw [halerts, List.mem_singleton] at hmem
    rw [hmem]
    exact hdescription

/-- A message of unknown type is reported as unexpected. -/
theorem blameless_of_unknownType {code : UInt8} (he : e = .unexpectedMessage (.unknownType code))
    (halerts : h.alerts = (report e).alerts) : h.Blameless e := by
  subst he
  exact blameless_of_alert rfl halerts nofun

end History

/-- Unless the handshake has failed before, only a message of unknown type keeps a wait from being
    settled. -/
theorem Endpoint.Settles.blameless {c c' : Context} {h : History} {e : Error}
    (hsettles : Settles c h (some (.fatal e)) c')
    (hfaults : ∀ err ∈ h.faults, ∃ code, err = .unexpectedMessage (.unknownType code)) :
    h.Blameless e := by
  generalize ho : some (Outcome.fatal e) = o at hsettles
  cases hsettles with
  | failed =>
      cases ho
      exact ⟨rfl, nofun⟩
  | flushFailed | readFailed | flushedThenFailed | changeCipherSpecFailed =>
      cases ho
      obtain ⟨code, he⟩ := hfaults e (by simp [Event.fault?])
      exact History.blameless_of_unknownType he (by simp [Event.alert?])
  | _ => cases ho

namespace AuthFlow

/-- A call that fails comes to a wait that cannot be settled or to a turn that fails, and is quiet
    before. What a flow keeps to holds there. -/
theorem Kept.origin {ε : Type} [Environment ε] {role : Role}
    {Idle Busy : Phase → Endpoint ε → History → Prop} (hkept : Kept role Idle Busy)
    {phase phase' : Phase} {p q : Endpoint ε} {g h : History} {e : Error} (hidle : Idle phase p g)
    (hdrives : Drives role phase p h (.fatal e) phase' q) :
    ∃ (before last : History) (phase₁ : Phase) (p₁ p₂ : Endpoint ε), h = before ++ last
      ∧ before.Quiet
      ∧ (Settled p₁ last (some (.fatal e)) p₂
        ∨ Busy phase₁ p₁ (g ++ before) ∧ Turns role phase₁ p₁ last (.error e) p₂
          ∧ q = p₂.failed) := by
  -- By induction on the waits of the call: all that comes before the last one goes into `g`.
  generalize houtcome : Outcome.fatal e = outcome at hdrives
  induction hdrives generalizing g with
  | @suspended phase p q h outcome hsettled =>
      subst houtcome
      exact ⟨[], h, phase, p, q, rfl, ⟨rfl, rfl⟩, Or.inl hsettled⟩
  | succeeded => cases houtcome
  | @failed _ phase₂ _ _ p₃ p₄ h₁ h₂ h₃ e' hsettled hwalks hturn =>
      obtain rfl : e = e' := Outcome.fatal.inj houtcome
      have hbusy := hkept.walks (hkept.settle hidle hsettled) hwalks
      rw [List.append_assoc] at hbusy
      exact ⟨h₁ ++ h₂, h₃, phase₂, p₃, p₄, rfl, (hsettled.1.quiet nofun).append hwalks.quiet,
        Or.inr ⟨hbusy, hturn, rfl⟩⟩
  | @waited _ _ _ _ _ _ _ _ _ h₁ h₂ h₃ h₄ _ _ hsettled hwalks hturn _ _ ih =>
      have hbusy := hkept.walks (hkept.settle hidle hsettled) hwalks
      obtain ⟨before, last, phase₁, p₁, p₂, rfl, hquiet, horigin⟩ :=
        ih (hkept.wait hbusy hturn) houtcome
      refine ⟨h₁ ++ h₂ ++ h₃ ++ before, last, phase₁, p₁, p₂, (List.append_assoc _ _ _).symm,
        (((hsettled.1.quiet nofun).append hwalks.quiet).append hturn.1.quiet).append hquiet, ?_⟩
      simpa only [List.append_assoc] using horigin

end AuthFlow

/-! ## Ends that are well equipped -/

/-- What a handshake needs of its settings not to fail by itself: the policy is that of a list, only
    the stored chain is checked, if anything, and the own chain can be encoded. -/
structure Context.Equipped (c : Context) : Prop where
  policy : ∃ schemes, c.config.signaturePolicy = .ofList schemes
  hook : c.config.chainHook = none ∨ c.config.chainHook = some ChainHook.x509
  chain : ∃ m, c.chainMessage = .ok m

namespace Context.Equipped

variable {c₀ c : Context}

theorem keepsPeer (hequipped : c₀.Equipped) : c₀.config.KeepsPeer := by
  rcases hequipped.hook with hnone | hx509
  · intro hook hhook
    rw [hnone] at hhook
    cases hhook
  · exact Config.keepsPeer_of_x509 hx509

/-- A scheme to sign with is one that the signer has. -/
theorem mem_schemes (hequipped : c₀.Equipped) (hsettings : c₀.SameSettings c)
    {own : List SignatureScheme} {scheme : SignatureScheme}
    (hchoose : c.config.signaturePolicy.choose? own c.peerSchemes = some scheme) :
    scheme ∈ own := by
  obtain ⟨schemes, hpolicy⟩ := hequipped.policy
  rw [hsettings.config, hpolicy] at hchoose
  have hfound := List.find?_some hchoose
  rw [Bool.and_eq_true] at hfound
  exact List.contains_iff_mem.1 hfound.1

/-- A scheme of the peer is refused as an illegal parameter. -/
theorem refusal (hequipped : c₀.Equipped) (hsettings : c₀.SameSettings c) {scheme : SignatureScheme}
    {description : AlertDescription}
    (hrefused : c.config.signaturePolicy.refusal? scheme = some description) :
    description = .illegalParameter := by
  obtain ⟨schemes, hpolicy⟩ := hequipped.policy
  rw [hsettings.config, hpolicy] at hrefused
  change (if schemes.contains scheme then none else some _) = some description at hrefused
  split at hrefused
  · cases hrefused
  · exact (Option.some.inj hrefused).symm

/-- A stored chain is refused for what is in it. -/
theorem hooked_excused (hequipped : c₀.Equipped) (hsettings : c₀.SameSettings c) (s : Session) :
    Excused (c.hooked s).1 := by
  rw [Context.hooked, hsettings.config]
  rcases hequipped.hook with hnone | hx509
  · rw [hnone]
    exact .ok ()
  · rw [hx509]
    exact ChainHook.checkChain_excused 0 _

end Context.Equipped

section CanSign

variable {σ τ : Type} [SigningDevice σ] [TicketHandler τ] {c₀ c : Context}
  {env env' : Station FinishedKeys σ τ} {h : History} {info : SignerInfo} {scheme : SignatureScheme}
  {answer : SignResult}

/-- An end that shows a chain has a signer that is reliable from where it is. -/
def CanSign (c₀ c : Context) (env : Station FinishedKeys σ τ) : Prop :=
  c₀.config.certificateChain ≠ [] → ∃ s, env.signer = some s ∧ Reliable c.signaturePending s

/-- What does not have to do with the signer leaves it as it is. -/
theorem CanSign.performs (hsigns : CanSign c₀ c env) (hperforms : Performs env h env')
    (hsigning : ∀ event ∈ h, ¬ event.IsSigning) {c' : Context}
    (hpending : c'.signaturePending = c.signaturePending) : CanSign c₀ c' env' := by
  intro hchain
  rw [signer_of_performs hperforms hsigning, hpending]
  exact hsigns hchain

/-- A reliable signer that is asked gives an answer that fits, and is reliable after that. -/
theorem CanSign.asked (hsigns : CanSign c₀ c env) (hequipped : c₀.Equipped)
    (hsettings : c₀.SameSettings c) (hchain : c₀.config.certificateChain ≠ [])
    (hsigner : Environment.signer? env = some info)
    (hscheme : c.config.signaturePolicy.choose? info.schemes c.peerSchemes = some scheme)
    (hperforms : Performs env (c.signingEvent scheme info.maxLength answer :: h) env')
    (hsigning : ∀ event ∈ h, ¬ event.IsSigning) :
    answer.Fits info.maxLength ∧ info.maxLength ≤ 65535
    ∧ ∃ s, env'.signer = some s ∧ Reliable (answer = .retry) s := by
  obtain ⟨s, hsome, hreliable⟩ := hsigns hchain
  obtain rfl : SigningDevice.info s = info := by
    change env.signer.map SigningDevice.info = some info at hsigner
    rw [hsome] at hsigner
    exact Option.some.inj hsigner
  obtain ⟨between, heffect, hrest⟩ := hperforms
  obtain ⟨s', hafter, hasked⟩ := heffect.asked hsome (hequipped.mem_schemes hsettings hscheme)
  refine ⟨hreliable.fits .here hasked, hreliable.bound .here, s', ?_, hreliable.asked hasked⟩
  rw [signer_of_performs hrest hsigning, hafter]

end CanSign

namespace AuthFlow

/-! ## What has happened before -/

section Progress

variable {c₀ c : Context} {Good : Bytes → CertificateVerify → Prop} {h : History}
  {handled : List Message}

/-- Before a signature of the peer is read, its key is stored. -/
theorem Progress.peerKey (hprogress : Progress c₀ Good .readCertificateVerify c h handled) :
    ∃ key, c.session.peerKey = some key := by
  obtain ⟨m, chain, _, _, _, hreads, hkey, hne, _⟩ := hprogress.peer.at_readCertificateVerify
  rw [hkey]
  exact CertificateChain.leafKey_of_decode hreads.decode hne

/-- Before Finished is judged by the MAC computed ahead, there is one. -/
theorem Progress.savedFinished (hprogress : Progress c₀ Good .readFinished c h handled)
    (hsaved : c.usesSavedFinished c₀.role = true) :
    c.isServer = true ∧ ∃ mac, c.expectedClientFinished = some mac := by
  rw [Context.usesSavedFinished, hprogress.settings.config] at hsaved
  obtain ⟨_, mac, _, hmac⟩ := hprogress.peer.macs_at_readFinished.2 hsaved
  refine ⟨?_, mac, hmac⟩
  rw [Context.isServer, hprogress.settings.role]
  rw [Bool.and_eq_true] at hsaved
  rw [of_decide_eq_true hsaved.1]
  rfl

end Progress

/-! ## Turns -/

section Failure

variable {σ τ : Type} [SigningDevice σ] [TicketHandler τ] {c₀ c c' : Context} {role : Role}
  {signer? : Option SignerInfo} {env env' : Station FinishedKeys σ τ}
  {Good : Bytes → CertificateVerify → Prop} {phase : Phase} {g h : History} {e : Error}
  {handled : List Message}

/-- There is nothing left to fail at the end. -/
theorem not_failure_done : ¬ Failure role signer? .done c h e c' := by
  intro hfailure
  cases hfailure with
  | outOfOrder hexpected => cases hexpected

/-- The own chain can be sent. -/
theorem not_failure_sendCertificate (hequipped : c₀.Equipped) (hsettings : c₀.SameSettings c)
    (hperforms : Performs env h env') : ¬ Failure role signer? .sendCertificate c h e c' := by
  intro hfailure
  obtain ⟨m, hchain⟩ := hequipped.chain
  rw [← hsettings.chainMessage] at hchain
  have hsucceeds := succeeds_of_performs hperforms
  cases hfailure with
  | certificateUnencodable hencode =>
      rw [hchain] at hencode
      cases hencode
  | certificateUnqueued => exact hsucceeds _ List.mem_cons_self
  | outOfOrder hphase => cases hphase

/-- The own Finished can be sent. -/
theorem not_failure_sendFinished (hperforms : Performs env h env') :
    ¬ Failure role signer? .sendFinished c h e c' := by
  intro hfailure
  have hsucceeds := succeeds_of_performs hperforms
  cases hfailure with
  | finishedUncomputable => exact hsucceeds _ List.mem_cons_self
  | finishedUnencodable hencode =>
      obtain rfl := Except.ok.inj (computed_of_performs hperforms List.mem_cons_self)
      obtain ⟨f, hf⟩ := env.keys.encode_mac c.role c.transcript.hash
      rw [hf] at hencode
      cases hencode
  | finishedUnqueued => exact hsucceeds _ (List.mem_cons_of_mem _ List.mem_cons_self)
  | savedFinishedUncomputable =>
      exact hsucceeds _ (List.mem_cons_of_mem _ (List.mem_cons_of_mem _ List.mem_cons_self))
  | outOfOrder hphase => cases hphase

/-- Signing fails only if there is no scheme to sign with. -/
theorem Failure.of_signing (hequipped : c₀.Equipped) (hsettings : c₀.SameSettings c)
    (hchain : c₀.config.certificateChain ≠ []) (hsigns : CanSign c₀ c env)
    (hperforms : Performs env h env')
    (hfailure : Failure role (Environment.signer? env) .sendCertificateVerify c h e c') :
    e = .noCommonScheme ∧ h = [.fatal .handshakeFailure] := by
  have halerted : ∀ event ∈ [Event.fatal .internalError], ¬ event.IsSigning :=
    List.forall_mem_singleton.2 id
  cases hfailure with
  | schemeMissing => exact ⟨rfl, rfl⟩
  | signerMissing hmissing =>
      obtain ⟨s, hsome, _⟩ := hsigns hchain
      change env.signer.map SigningDevice.info = none at hmissing
      rw [hsome] at hmissing
      cases hmissing
  | signatureFailed hsigner hscheme =>
      exact (hsigns.asked hequipped hsettings hchain hsigner hscheme hperforms halerted).1.elim
  | signatureTooLong hsigner hscheme hlength =>
      have hfits := (hsigns.asked hequipped hsettings hchain hsigner hscheme hperforms halerted).1
      exact absurd hfits (Nat.not_le_of_lt hlength)
  | @signatureUnencodable _ _ scheme signature _ hsigner hscheme hlength hencode =>
      obtain ⟨_, hbound, _⟩ :=
        hsigns.asked hequipped hsettings hchain hsigner hscheme hperforms halerted
      obtain ⟨v, hv⟩ := @CertificateVerify.encode_of_length_le ⟨scheme, signature⟩
        (Nat.le_trans hlength hbound)
      rw [hv] at hencode
      cases hencode
  | signatureUnqueued =>
      exact (succeeds_of_performs hperforms _ (List.mem_cons_of_mem _ List.mem_cons_self)).elim
  | outOfOrder hphase => cases hphase

/-- Reading fails by what has been read. -/
theorem Failure.blameless_of_reads (hequipped : c₀.Equipped)
    (hprogress : Progress c₀ Good phase c g handled) (hphase : (expected? phase).isSome = true)
    (hperforms : Performs env h env') (hfailure : Failure c₀.role signer? phase c h e c') :
    h.Blameless e := by
  have hsettings := hprogress.settings
  cases hfailure with
  | outOfOrder => exact History.blameless_of_alert rfl rfl nofun
  | chainUndecodable _ _ hdecode =>
      have herror := CertificateChain.decode_excused _ _ e hdecode
      exact History.blameless_of_alert herror rfl
        (CertificateChain.alertFor_ne_internalError herror)
  | chainRefused _ _ _ hhook =>
      have herror := hequipped.hooked_excused hsettings _ e (congrArg Prod.fst hhook)
      exact History.blameless_of_alert herror rfl nofun
  | anonymousRefused => exact History.blameless_of_alert rfl rfl nofun
  | keyMissing _ _ hmissing =>
      obtain ⟨key, hkey⟩ := hprogress.peerKey
      rw [hkey] at hmissing
      cases hmissing
  | verifyUndecodable _ _ _ hdecode =>
      have herror := CertificateVerify.decode_excused _ e hdecode
      exact History.blameless_of_alert herror rfl nofun
  | schemeRefused _ _ _ _ hpolicy =>
      obtain rfl := hequipped.refusal hsettings hpolicy
      exact History.blameless_of_alert rfl rfl nofun
  | signatureRefused => exact History.blameless_of_alert rfl rfl nofun
  | savedFinishedMissing _ _ hsaved hmissing =>
      obtain ⟨hserver, mac, hmac⟩ := hprogress.savedFinished hsaved
      rw [hserver, hmac] at hmissing
      rcases hmissing with h | h <;> cases h
  | savedFinishedRefused | finishedRefused => exact History.blameless_of_alert rfl rfl nofun
  | peerFinishedUncomputable => exact (succeeds_of_performs hperforms _ List.mem_cons_self).elim
  | _ => cases hphase

/-- Whichever turn fails, that is no fault of this end. -/
theorem Failure.blameless (hequipped : c₀.Equipped) (hprogress : Progress c₀ Good phase c g handled)
    (hsigns : CanSign c₀ c env) (hperforms : Performs env h env')
    (hfailure : Failure c₀.role (Environment.signer? env) phase c h e c') : h.Blameless e := by
  cases hphase : expected? phase with
  | some type =>
      exact hfailure.blameless_of_reads hequipped hprogress (by rw [hphase]; rfl) hperforms
  | none =>
      cases phase with
      | sendCertificate =>
          exact absurd hfailure (not_failure_sendCertificate hequipped hprogress.settings hperforms)
      | sendCertificateVerify =>
          obtain ⟨_, _, _, _, hchain, _⟩ := hprogress.own.at_sendCertificateVerify
          obtain ⟨rfl, rfl⟩ :=
            hfailure.of_signing hequipped hprogress.settings hchain hsigns hperforms
          exact History.blameless_of_alert rfl rfl nofun
      | sendFinished => exact absurd hfailure (not_failure_sendFinished hperforms)
      | done => exact absurd hfailure not_failure_done
      | _ => cases hphase

end Failure

/-! ## Calls of `handshake` -/

section Handshake

variable {σ τ : Type} [SigningDevice σ] [TicketHandler τ] {c₀ c c' : Context} {role : Role}
  {env env' : Station FinishedKeys σ τ} {phase phase' : Phase} {h : History} {turn : Turn}
  {p q : Endpoint (Station FinishedKeys σ τ)} {g : History} {e : Error}

/-- A turn that does not fail leaves a signer that is reliable. -/
theorem Advance.canSign (hadvance : Advance role (Environment.signer? env) phase c h turn c')
    (hequipped : c₀.Equipped) (hsettings : c₀.SameSettings c) (hsigns : CanSign c₀ c env)
    (hperforms : Performs env h env') : CanSign c₀ c' env' := by
  -- Only this phase asks the signer.
  by_cases hphase : phase = .sendCertificateVerify
  · subst hphase
    intro hchain
    cases hadvance with
    | signatureDelayed hsigner hscheme =>
        exact (hsigns.asked hequipped hsettings hchain hsigner hscheme hperforms
          (List.forall_mem_nil _)).2.2
    | signatureSent hsigner hscheme =>
        exact (hsigns.asked hequipped hsettings hchain hsigner hscheme hperforms
          (List.forall_mem_singleton.2 id)).2.2
    | awaiting hexpected => cases hexpected
  · obtain ⟨hsigning, hpending⟩ := hadvance.unsigned hphase
    exact hsigns.performs hperforms hsigning hpending

/-- Where a flight stands between calls with a signer that is reliable, if it has not failed. -/
structure StandsEquipped (c₀ : Context) (phase : Phase) (p : Endpoint (Station FinishedKeys σ τ))
    (h : History) : Prop where
  standing : Standing c₀ (fun _ _ => True) phase p.context h
  canSign : p.context.wait ≠ .error → CanSign c₀ p.context p.environment

/-- Where a flight is between turns with a signer that is reliable. -/
structure ProgressEquipped (c₀ : Context) (phase : Phase) (p : Endpoint (Station FinishedKeys σ τ))
    (h : History) : Prop where
  progress : ∃ handled, Progress c₀ (fun _ _ => True) phase p.context h handled
  canSign : CanSign c₀ p.context p.environment

theorem equipped_kept (hequipped : c₀.Equipped) :
    Kept (ε := Station FinishedKeys σ τ) c₀.role (StandsEquipped c₀) (ProgressEquipped c₀) := by
  have hstands : Kept (ε := Station FinishedKeys σ τ) c₀.role
      (fun phase p h => Standing c₀ (fun _ _ => True) phase p.context h) _ :=
    standing_kept hequipped.keepsPeer fun _ _ => trivial
  constructor
  case suspend =>
    rintro phase p q g h outcome ⟨hstanding, hsigns⟩ hsettled
    refine ⟨hstands.suspend hstanding hsettled, fun hwait => ?_⟩
    rcases hsettled.1.wait_of_some with herror | ⟨hlive, _⟩
    · exact absurd herror hwait
    · exact (hsigns hlive).performs hsettled.2 hsettled.1.unsigned
        hsettled.1.sameFlight.signaturePending
  case settle =>
    rintro phase p q g h ⟨hstanding, hsigns⟩ hsettled
    refine ⟨hstands.settle hstanding hsettled, ?_⟩
    have hlive : p.context.wait ≠ .error := fun herror => by
      cases (hsettled.1.of_error herror).2.1
    exact (hsigns hlive).performs hsettled.2 hsettled.1.unsigned
      hsettled.1.sameFlight.signaturePending
  case next =>
    rintro phase phase' p q g h ⟨hprogress, hsigns⟩ hturn
    obtain ⟨_, hsettings⟩ := hprogress.imp fun _ hprogress => hprogress.settings
    exact ⟨hstands.next hprogress hturn, hturn.1.canSign hequipped hsettings hsigns hturn.2⟩
  case wait =>
    rintro phase phase' p q g h wait ⟨hprogress, hsigns⟩ hturn
    obtain ⟨_, hsettings⟩ := hprogress.imp fun _ hprogress => hprogress.settings
    exact ⟨hstands.wait hprogress hturn,
      fun _ => hturn.1.canSign hequipped hsettings hsigns hturn.2⟩
  case fail =>
    -- Asking the signer may be what has failed, so nothing is said of it any more.
    rintro phase p q g h e ⟨hprogress, _⟩ hturn
    exact ⟨hstands.fail hprogress hturn, fun hwait => absurd rfl hwait⟩

/-- A flush between calls has nothing to do with the signer. -/
theorem StandsEquipped.flushed {answer : Except Error (Awaited Unit)}
    (hstands : StandsEquipped c₀ phase p g) (hcontext : c = p.context ∨ c = p.context.noteFlushed)
    (hflush : Performs p.environment [.flushed answer] env) :
    StandsEquipped c₀ phase ⟨c, env⟩ (g ++ [.flushed answer]) := by
  obtain ⟨hstanding, hsigns⟩ := hstands
  have hsigning : ∀ event ∈ [Event.flushed answer], ¬ event.IsSigning :=
    List.forall_mem_singleton.2 id
  refine ⟨hstanding.flushed hcontext, fun hwait => ?_⟩
  rcases hcontext with rfl | rfl
  · exact (hsigns hwait).performs hflush hsigning rfl
  · exact (hsigns hwait).performs hflush hsigning rfl

omit [TicketHandler τ] in
/-- Going on after early data has been rejected has nothing to do with the signer either. -/
theorem StandsEquipped.resetEarlyData (hstands : StandsEquipped c₀ phase p g)
    (hwait : p.context.wait = .earlyDataRejected) :
    StandsEquipped c₀ phase ⟨{ p.context with wait := .ok }, p.environment⟩ (g ++ []) := by
  obtain ⟨hstanding, hsigns⟩ := hstands
  refine ⟨hstanding.quiet {} rfl ?_ ?_ rfl rfl rfl fun _ => rfl, fun _ => hsigns ?_⟩
  · rw [hwait]
    exact ⟨nofun, nofun⟩
  · rintro (h | h) <;> cases h
  · rw [hwait]
    nofun

/-- A call of an equipped end fails by no fault of its own. -/
theorem Drives.blameless (hdrives : Drives c₀.role phase p h (.fatal e) phase' q)
    (hequipped : c₀.Equipped) (hstands : StandsEquipped c₀ phase p g) : h.Blameless e := by
  obtain ⟨before, last, _, p₁, p₂, rfl, hquiet, hsettled | ⟨⟨⟨_, hprogress⟩, hsigns⟩, hturn, _⟩⟩ :=
    (equipped_kept hequipped).origin hstands hdrives
  · exact (hsettled.1.blameless fun _ => fault_of_performs hsettled.2).after hquiet
  · exact (hturn.1.blameless hequipped hprogress hsigns hturn.2).after hquiet

/-- Once the flight is over, a call fails only by what it reads. -/
theorem Drives.blameless_of_done (hdrives : Drives role .done p h (.fatal e) phase' q) :
    h.Blameless e := by
  obtain ⟨before, last, _, p₁, p₂, rfl, hquiet, hsettled | ⟨rfl, hturn, _⟩⟩ :=
    (done_kept role).origin (g := []) rfl hdrives
  · exact (hsettled.1.blameless fun _ => fault_of_performs hsettled.2).after hquiet
  · exact absurd hturn.1 not_failure_done

end Handshake

end AuthFlow

/-! ## After the handshake -/

namespace Engine

variable {σ τ : Type} [SigningDevice σ] {c c' : Context} {h : History} {e : Error} {m : Message}
  {body : Bytes}

section Updates

variable [TicketHandler τ] {env env' : Station FinishedKeys σ τ}

/-- A KeyUpdate of the peer is refused for what is in it. -/
theorem ReceivesUpdate.blameless (hreceives : ReceivesUpdate body c h (.error e) c')
    (hsucceeds : ∀ event ∈ h, event.Succeeds) : h.Blameless e := by
  cases hreceives with
  | undecodable hdecode =>
      exact History.blameless_of_alert (KeyUpdateRequest.decode_excused _ e hdecode) rfl nofun
  | unrotated => exact (hsucceeds _ List.mem_cons_self).elim
  | answered _ hstarts =>
      cases (hstarts.updates (List.forall_mem_cons.1 hsucceeds).2).1

end Updates

/-- A message is refused for what it is. -/
theorem Handles.blameless {ticketed : Bool} {env env' : Station FinishedKeys σ TicketStore}
    (hhandles : Handles ticketed m c h (.error e) c') (hperforms : Performs env h env') :
    h.Blameless e := by
  cases hhandles with
  | tooMany | outOfPlace => exact History.blameless_of_alert rfl rfl nofun
  | keyUpdate _ _ hreceives => exact hreceives.blameless (succeeds_of_performs hperforms)
  | ticketRefused =>
      obtain rfl := stored_of_performs hperforms List.mem_cons_self
      exact History.blameless_of_alert rfl rfl nofun

end Engine

/-- Processing a message fails by what is read. -/
theorem Endpoint.Processed.blameless {σ : Type} [SigningDevice σ]
    {p q : Endpoint (Station FinishedKeys σ TicketStore)} {h : History} {e : Error}
    (hprocessed : Processed p h (.error e) q) : h.Blameless e := by
  cases hprocessed with
  | unread hread =>
      obtain ⟨code, he⟩ : ∃ code, e = .unexpectedMessage (.unknownType code) :=
        fault_of_performs hread List.mem_cons_self
      exact History.blameless_of_unknownType he rfl
  | refused _ hhandled =>
      exact (hhandled.1.blameless hhandled.2).after (g := [.read _]) ⟨rfl, rfl⟩

/-! ## Connections -/

/-- The error that a call has returned. -/
def Answer.error? : Answer → Option Error
  | .ended (.fatal e) | .polled (.error e) | .returned (.error e) => some e
  | _ => none

/-- What can happen to a connection: it is called, or the link changes from outside, as when the
    peer sends bytes (`Socket.receive`) or a ChangeCipherSpec record
    (`Socket.receiveChangeCipherSpec`) or flushing is blocked (`Socket.setBlocked`). -/
inductive Happening where
  | call (call : Call)
  | onLink (change : Socket → Socket)

namespace Connection

section Happenings

variable {ε : Type} [OnLink ε] [Environment ε]

/-- The connection once something has happened to it. -/
def undergo (c : Connection ε) : Happening → Connection ε
  | .call call => (c.call call).2
  | .onLink change => c.withSocket (change c.socket)

/-- The connection once things have happened to it one after the other. -/
def after (c : Connection ε) (happenings : List Happening) : Connection ε :=
  happenings.foldl undergo c

end Happenings

section EndsWell

variable {ε : Type} {c : Connection ε} {call : Call} {h : History} {answer : Answer}

/-- The calls that are made at the wrong time, with the errors by which they are refused. -/
inductive Untimely (c : Connection ε) : Call → Error → Prop
  | processPostHandshake (hearly : c.complete = false ∨ c.endpoint.context.wait = .error) :
      Untimely c .processPostHandshake (.internal .postHandshakeTooEarly)
  | keyUpdate {request : KeyUpdateRequest} (hearly : c.complete = false) :
      Untimely c (.keyUpdate request) (.internal .keyUpdateTooEarly)
  | resetEarlyDataReject (hwait : c.endpoint.context.wait ≠ .earlyDataRejected) :
      Untimely c .resetEarlyDataReject (.internal .earlyDataNotRejected)

/-- The ways in which a call ends that brings up no fault of this end but the call itself: it does
    not fail, it fails for what has come in, or it is refused as made at the wrong time. -/
inductive EndsWell (c : Connection ε) (call : Call) (h : History) (answer : Answer) : Prop
  | succeeded (herror : answer.error? = none) (hquiet : h.Quiet)
  | failed {e : Error} (herror : answer.error? = some e) (hblameless : h.Blameless e)
  | refused {e : Error} (herror : answer.error? = some e) (hnone : h = [])
      (huntimely : c.Untimely call e)

theorem EndsWell.alerts (hends : c.EndsWell call h answer) :
    ∀ alert ∈ h.alerts, alert.description ≠ .internalError := by
  cases hends with
  | succeeded _ hquiet =>
      rw [hquiet.alerts]
      nofun
  | failed _ hblameless => exact hblameless.alerts
  | refused _ hnone =>
      rw [hnone]
      nofun

theorem EndsWell.untimely {e : Error} (hends : c.EndsWell call h answer)
    (herror : answer.error? = some e) (hfault : e.isOwnFault = true) : c.Untimely call e := by
  cases hends with
  | succeeded hnone =>
      rw [hnone] at herror
      cases herror
  | failed hsome hblameless =>
      obtain rfl := Option.some.inj (hsome.symm.trans herror)
      cases hblameless.error.symm.trans hfault
  | refused hsome _ huntimely =>
      obtain rfl := Option.some.inj (hsome.symm.trans herror)
      exact huntimely

end EndsWell

section Equipped

variable {σ : Type} [SigningDevice σ]

/-- What holds of an equipped connection between any two happenings. -/
structure Intact (c₀ : Context) (c : Connection (Station FinishedKeys σ TicketStore)) : Prop where
  role : c.flow.role = c₀.role
  done : c.DoneIfComplete
  flight : c.complete = false → ∃ h, StandsEquipped c₀ c.flow.phase c.endpoint h

section Intact

variable {c₀ : Context} {c c' : Connection (Station FinishedKeys σ TicketStore)} {call : Call}
  {h : History} {answer : Answer}

theorem Fresh.intact (hfresh : c.Fresh)
    (hsigns : CanSign c.endpoint.context c.endpoint.context c.endpoint.environment) :
    Intact c.endpoint.context c where
  role := hfresh.role
  done hcomplete := by
    rw [hfresh.incomplete] at hcomplete
    cases hcomplete
  flight _ := ⟨[], hfresh.standing _, fun _ => hsigns⟩

/-- Whatever is called, the connection stays intact. -/
theorem Called.intact (hcalled : Called c call h answer c') (hequipped : c₀.Equipped)
    (hintact : c.Intact c₀) : c'.Intact c₀ := by
  refine ⟨?_, hcalled.doneIfComplete hintact.done, ?_⟩
  · cases hcalled <;> exact hintact.role
  cases hcalled with
  | handshake hdrives =>
      intro hincomplete
      obtain ⟨g, hstands⟩ := hintact.flight (Bool.or_eq_false_iff.1 hincomplete).1
      rw [hintact.role] at hdrives
      exact ⟨_, (equipped_kept hequipped).drives hstands hdrives⟩
  | processed hcomplete | keyUpdateStarted hcomplete =>
      intro hincomplete
      cases hcomplete.symm.trans hincomplete
  | flushed hflush =>
      intro hincomplete
      obtain ⟨_, hstands⟩ := hintact.flight hincomplete
      exact ⟨_, hstands.flushed (Or.inr rfl) hflush⟩
  | flushDelayed hflush | flushFailed hflush =>
      intro hincomplete
      obtain ⟨_, hstands⟩ := hintact.flight hincomplete
      exact ⟨_, hstands.flushed (Or.inl rfl) hflush⟩
  | earlyDataReset hwait =>
      intro hincomplete
      obtain ⟨_, hstands⟩ := hintact.flight hincomplete
      exact ⟨_, hstands.resetEarlyData hwait⟩
  | postHandshakeTooEarly | keyUpdateTooEarly | earlyDataNotRejected => exact hintact.flight

/-- Whatever happens to the link, the connection stays intact. -/
theorem Intact.withSocket (hintact : c.Intact c₀) (socket : Socket) :
    (c.withSocket socket).Intact c₀ where
  role := hintact.role
  done := hintact.done
  flight hincomplete := by
    obtain ⟨h, hstanding, hsigns⟩ := hintact.flight hincomplete
    exact ⟨h, hstanding, hsigns⟩

/-- Whatever happens, the connection stays intact. -/
theorem Intact.after (hintact : c.Intact c₀) (hequipped : c₀.Equipped)
    (happenings : List Happening) : (c.after happenings).Intact c₀ := by
  induction happenings generalizing c with
  | nil => exact hintact
  | cons happening happenings ih =>
      cases happening with
      | call call =>
          obtain ⟨_, hcalled⟩ := call_called c call
          exact ih (hcalled.intact hequipped hintact)
      | onLink change => exact ih (hintact.withSocket (change c.socket))

/-- A call of `handshake` that fails does so by no fault of this end. -/
theorem Intact.drives_blameless {phase : Phase} {e : Error}
    {q : Endpoint (Station FinishedKeys σ TicketStore)} (hintact : c.Intact c₀)
    (hequipped : c₀.Equipped)
    (hdrives : Drives c.flow.role c.flow.phase c.endpoint h (.fatal e) phase q) :
    h.Blameless e := by
  cases hcomplete : c.complete with
  | true =>
      rw [hintact.done hcomplete] at hdrives
      exact hdrives.blameless_of_done
  | false =>
      obtain ⟨_, hstands⟩ := hintact.flight hcomplete
      rw [hintact.role] at hdrives
      exact hdrives.blameless hequipped hstands

/-- Whatever is called, that ends in one of the three ways. -/
theorem Called.endsWell (hcalled : Called c call h answer c') (hequipped : c₀.Equipped)
    (hintact : c.Intact c₀) : c.EndsWell call h answer := by
  have hsucceeds := succeeds_of_performs hcalled.performs
  cases hcalled with
  | @handshake _ outcome _ _ hdrives =>
      cases outcome with
      | fatal e => exact .failed rfl (hintact.drives_blameless hequipped hdrives)
      | _ => exact .succeeded rfl (hdrives.quiet nofun)
  | @processed _ answer _ _ _ hprocessed =>
      cases answer with
      | error e => exact .failed rfl hprocessed.blameless
      | ok _ => exact .succeeded rfl hprocessed.quiet
  | flushed | flushDelayed | earlyDataReset => exact .succeeded rfl ⟨rfl, rfl⟩
  | @flushFailed e _ hflush =>
      obtain ⟨_, rfl⟩ : ∃ code, e = .unexpectedMessage (.unknownType code) :=
        fault_of_performs hflush List.mem_cons_self
      exact .failed rfl ⟨rfl, nofun⟩
  | keyUpdateStarted _ hstarted =>
      obtain ⟨rfl, _⟩ := hstarted.1.updates hsucceeds
      cases hstarted.1.tells with
      | quiet hquiet => exact .succeeded rfl hquiet
  | postHandshakeTooEarly hearly => exact .refused rfl rfl (.processPostHandshake hearly)
  | keyUpdateTooEarly hearly => exact .refused rfl rfl (.keyUpdate hearly)
  | earlyDataNotRejected hwait => exact .refused rfl rfl (.resetEarlyDataReject hwait)

end Intact

/-- However an equipped end is called, and whatever comes in between: neither a call of `handshake`
    nor, on a connection that is complete and has not failed, one of `processPostHandshake` fails by
    a fault of this end, of the connection below or of a key, and no alert reports an internal error.
    The only faults that any call brings up are calls made at the wrong time. -/
theorem no_internal_errors {c : Connection (Station FinishedKeys σ TicketStore)} (hfresh : c.Fresh)
    (hequipped : c.endpoint.context.Equipped)
    (hsigner : c.endpoint.context.config.certificateChain ≠ [] →
      ∃ s, c.endpoint.environment.signer = some s ∧ Reliable c.endpoint.context.signaturePending s)
    (happenings : List Happening) :
    let c' := c.after happenings
    (∀ e, c'.handshake.1 = .fatal e → e.isOwnFault = false)
    ∧ (c'.complete = true → c'.endpoint.context.wait ≠ .error →
      ∀ e, (answerOf processPostHandshake c').1 = .error e → e.isOwnFault = false)
    ∧ (∀ call, ∃ sent,
      (c'.call call).2.socket.outgoing.alerts = c'.socket.outgoing.alerts ++ sent
        ∧ ∀ alert ∈ sent, alert.description ≠ .internalError)
    ∧ ∀ call e, (c'.call call).1.error? = some e → e.isOwnFault = true → c'.Untimely call e := by
  intro c'
  have hintact : c'.Intact c.endpoint.context := (hfresh.intact hsigner).after hequipped happenings
  clear_value c'
  have hfaults (call : Call) (e : Error) (herror : (c'.call call).1.error? = some e)
      (hfault : e.isOwnFault = true) : c'.Untimely call e := by
    obtain ⟨_, hcalled⟩ := call_called c' call
    exact (hcalled.endsWell hequipped hintact).untimely herror hfault
  refine ⟨fun e hfatal => ?_, fun hcomplete hwait e herror => ?_, fun call => ?_, hfaults⟩
  · refine Bool.eq_false_iff.2 fun hfault => ?_
    have hended : (c'.call .handshake).1.error? = some e :=
      congrArg (fun outcome => (Answer.ended outcome).error?) hfatal
    cases hfaults .handshake e hended hfault
  · refine Bool.eq_false_iff.2 fun hfault => ?_
    have hpolled : (c'.call .processPostHandshake).1.error? = some e :=
      congrArg (fun answer => (Answer.polled answer).error?) herror
    cases hfaults .processPostHandshake e hpolled hfault with
    | processPostHandshake hearly =>
        rcases hearly with hearly | hearly
        · cases hcomplete.symm.trans hearly
        · exact hwait hearly
  · obtain ⟨h, hcalled⟩ := call_called c' call
    exact ⟨h.alerts, sentAlerts_of_performs hcalled.performs,
      (hcalled.endsWell hequipped hintact).alerts⟩

end Equipped

end Connection

namespace Rehearsal

theorem equipped_connection (role : Role) (incoming : Bytes) :
    (connection role incoming).endpoint.context.Equipped where
  policy := ⟨_, rfl⟩
  hook := Or.inl rfl
  chain := by
    cases role with
    | client => exact ⟨_, rfl⟩
    | server => exact ⟨_, rfl⟩

/-- The server of the rehearsal with a signer that computes its signatures, and takes its time. -/
def signingServer : Connection (Station FinishedKeys Signer TicketStore) :=
  (connection .server []).onEnvironment fun env =>
    { env with signer := some { key := .ed25519 (List.replicate 32 1), delays := 1 } }

theorem fresh_signingServer : signingServer.Fresh where
  flow := rfl
  incomplete := rfl
  wait := (fresh_connection .server []).wait
  message := rfl

/-- A peer that sends a signature without a chain before it, and then a message of no known type, does
    not bring up an internal error. -/
theorem signingServer_no_internal_errors :
    let c' := signingServer.after
      [.call .handshake, .onLink (Socket.receive [0x0f, 0, 0, 1, 7]), .call .handshake,
        .onLink (Socket.receive [0xff]), .call .handshake]
    (∀ e, c'.handshake.1 = .fatal e → e.isOwnFault = false)
    ∧ (c'.complete = true → c'.endpoint.context.wait ≠ .error →
      ∀ e, (answerOf Connection.processPostHandshake c').1 = .error e → e.isOwnFault = false)
    ∧ (∀ call, ∃ sent,
      (c'.call call).2.socket.outgoing.alerts = c'.socket.outgoing.alerts ++ sent
        ∧ ∀ alert ∈ sent, alert.description ≠ .internalError)
    ∧ ∀ call e, (c'.call call).1.error? = some e → e.isOwnFault = true → c'.Untimely call e :=
  Connection.no_internal_errors fresh_signingServer (equipped_connection .server [])
    (fun _ => ⟨_, rfl, Signer.reliable_ed25519 List.length_replicate 1⟩) _

end Rehearsal

end TlsHandshake
