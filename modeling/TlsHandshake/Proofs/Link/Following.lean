import TlsHandshake.Proofs.Link.Hearing

set_option autoImplicit false

/-! # Following a plan

`Plan.Follows` says that an end has so far sent and heard only what its plan says. Whatever such an
end has read convinces it, and whatever it is to send it can send. -/

namespace TlsHandshake

open AuthFlow Endpoint

variable {σ τ : Type} [SigningDevice σ] {c c' : Context}

/-! ## The signer -/

namespace Context

/-- How the signer is asked: for the outcome of what is under way, or for a new signature over the
    transcript as it is. -/
def ask (c : Context) (scheme : SignatureScheme) (maxLength : Nat) : σ → SignResult × σ :=
  if c.signaturePending then SigningDevice.complete maxLength
  else SigningDevice.sign scheme (c.signatureInput c.role) maxLength

/-- The signer of a station answers as it does when it is asked. -/
theorem ask_of_effect [TicketHandler τ] {e e' : Station FinishedKeys σ τ} {s : σ}
    {scheme : SignatureScheme} {maxLength : Nat} {answer : SignResult}
    (heffect : (c.signingEvent scheme maxLength answer).Effect e e') (hsigner : e.signer = some s) :
    ∃ s', c.ask scheme maxLength s = (answer, s') ∧ e'.signer = some s' := by
  rw [signingEvent] at heffect
  unfold ask
  split at heffect
  · obtain ⟨hanswer, hsigner'⟩ := (of_onSigner heffect).2 s hsigner
    rw [if_pos ‹_›]
    exact ⟨_, Prod.ext hanswer rfl, hsigner'⟩
  · obtain ⟨hanswer, hsigner'⟩ := (of_onSigner heffect).2 s hsigner
    rw [if_neg ‹_›]
    exact ⟨_, Prod.ext hanswer rfl, hsigner'⟩

end Context

/-- A signer that is asked gives the signature, or puts it off and still owes it. -/
theorem Gives.of_ask {info : SignerInfo} {signature : Bytes} {ask : σ → SignResult × σ}
    {retries : Nat} {s s' : σ} {answer : SignResult} (hgives : Gives info signature ask retries s)
    (hask : ask s = (answer, s')) :
    answer = .success signature ∨ answer = .retry ∧ ∃ left, retries = left + 1
      ∧ Gives info signature (SigningDevice.complete info.maxLength) left s' := by
  cases hgives with
  | now _ hnow =>
      obtain ⟨rfl, _⟩ := Prod.mk.inj (hask.symm.trans hnow)
      exact Or.inl rfl
  | later _ hlater hrest =>
      obtain ⟨rfl, rfl⟩ := Prod.mk.inj (hask.symm.trans hlater)
      exact Or.inr ⟨rfl, _, rfl, hrest⟩

/-- Every MAC in a history was computed there. -/
theorem computed_of_mem_macsOf {sender : Role} {h : History} {p : Bytes × Bytes}
    (hmem : p ∈ h.macsOf sender) : .computedMac sender p.1 (.ok p.2) ∈ h := by
  obtain ⟨event, hevent, hmac⟩ := List.mem_filterMap.1 hmem
  cases event with
  | computedMac who transcriptHash answer =>
      cases answer with
      | error e => cases hmac
      | ok mac =>
          by_cases hwho : who = sender
          · rw [hwho] at hmac
            rw [Event.mac?_computedMac] at hmac
            obtain rfl := Option.some.inj hmac
            exact hwho ▸ hevent
          · rw [Event.mac?_computedMac_of_ne hwho] at hmac
            cases hmac
  | _ => cases hmac

/-! ## Where an end is -/

namespace Plan

/-- An end has kept to its plan: `handled` are the messages dealt with, `h` is all that has happened,
    and `left` tells how often its signer will yet put it off while it signs. -/
structure Follows (plan : Plan σ) (left : Nat) (phase : Phase) (c : Context)
    (e : Station FinishedKeys σ τ) (h : History) (handled : List Message) : Prop where
  progress : Progress plan.start (Planned plan.own) phase c h handled
  heard : ∃ onWay, Delivery plan.theirs h.messagesRead onWay
  macs : ∀ sender transcriptHash answer, .computedMac sender transcriptHash answer ∈ h →
    answer = .ok (plan.mac sender transcriptHash)
  alerts : ∀ a, .alerted a ∉ h
  keys : e.keys.mac = plan.mac
  unsigned : h.messagesSent = [] → e.signer = plan.signer ∧ c.signaturePending = false
  signing : phase = .sendCertificateVerify → ∃ verify, c.Obtains e.signer c.ask left verify
    ∧ Planned plan.own c.transcript.bytes verify
  left_le : left ≤ plan.retries
  left_eq : phase ≠ .sendCertificateVerify → left = 0

namespace Follows

variable {plan : Plan σ} {left : Nat} {phase : Phase} {e e' : Station FinishedKeys σ τ}
  {g h : History} {handled : List Message} {m : Message} {type : MessageType}

theorem macsOf (hfollows : plan.Follows left phase c e h handled) (sender : Role) :
    ∀ p ∈ h.macsOf sender, p.2 = plan.mac sender p.1 := fun _ hmem =>
  Except.ok.inj (hfollows.macs _ _ _ (computed_of_mem_macsOf hmem))

theorem heard_pending (hfollows : plan.Follows left phase c e h handled)
    (hmessage : c.message = some m) : ∃ onWay, Delivery plan.theirs (handled ++ [m]) onWay := by
  obtain ⟨onWay, hheard⟩ := hfollows.heard
  rw [hfollows.progress.read, hmessage] at hheard
  exact ⟨onWay, hheard⟩

/-- A client that has read Finished has heard all that it is to hear. -/
theorem handled_eq (hfollows : plan.Follows left phase c e h handled)
    (hrole : plan.start.role = .client) (hphase : expected? phase = none) :
    plan.theirs = handled.map Message.raw := by
  obtain ⟨onWay, hheard⟩ := hfollows.heard
  obtain ⟨ms, f, rfl, htype⟩ := hfollows.progress.finished_read hrole hphase
  exact (plan.theirs_shape.all_read hheard hfollows.progress.read htype).1

/-- Where the own flight begins once it has ended. -/
theorem beforeOwn_eq (hfollows : plan.Follows left phase c e h handled)
    (hphase : plan.start.role = .client → expected? phase = none) :
    plan.start.beforeOwn handled = plan.start.ownStart plan.theirs := by
  unfold Context.beforeOwn Context.ownStart
  cases hrole : plan.start.role with
  | server => rfl
  | client =>
      rw [hfollows.handled_eq hrole (hphase hrole)]
      rfl

theorem sent_prefix (hfollows : plan.Follows left phase c e h handled) :
    h.messagesSent <+: plan.own := by
  -- a MAC has been computed only at the end of the flight, and a client begins with it later
  refine plan.own_prefix hfollows.progress.own (hfollows.macsOf _) fun hmacs => ?_
  refine hfollows.beforeOwn_eq fun hrole => ?_
  cases hphase : expected? phase with
  | none => rfl
  | some type =>
      exact absurd (hfollows.progress.own.of_client_reads hrole (by rw [hphase]; rfl)).2 hmacs

/-- A server that reads has sent all that it is to send, and so has an end that is done. -/
theorem sent_eq (hfollows : plan.Follows left phase c e h handled)
    (hphase : phase = .done ∨ plan.start.role = .server ∧ (expected? phase).isSome = true) :
    h.messagesSent = plan.own := by
  have hstart : plan.start.beforeOwn handled = plan.start.ownStart plan.theirs := by
    refine hfollows.beforeOwn_eq fun hrole => ?_
    rcases hphase with rfl | ⟨hserver, _⟩
    · rfl
    · rw [hrole] at hserver
      cases hserver
  have hown := hfollows.progress.own
  rw [hstart] at hown
  refine plan.own_of_done ?_ (hfollows.macsOf plan.start.role)
  rcases hphase with rfl | ⟨hserver, hreads⟩
  · exact hown
  · exact hown.of_server_reads hserver hreads

/-- Where the peer's flight begins while it is read. -/
theorem beforePeer_eq (hfollows : plan.Follows left phase c e h handled)
    (hphase : (expected? phase).isSome = true) :
    plan.start.beforePeer h.messagesSent = plan.start.beforePeer plan.own := by
  cases hrole : plan.start.role with
  | server => rw [hfollows.sent_eq (Or.inr ⟨hrole, hphase⟩)]
  | client => exact beforePeer_of_client hrole _ _

theorem transcript_eq (hfollows : plan.Follows left phase c e h handled)
    (hphase : (expected? phase).isSome = true) :
    c.transcript.bytes = plan.start.beforePeer plan.own ++ rawBytes handled := by
  rw [hfollows.progress.transcript_peer hphase, hfollows.beforePeer_eq hphase]

/-! ## What is read convinces -/

/-- The chain that is read is accepted by the hook, and if none is left of it then that is allowed. -/
theorem reads_chain (hfollows : plan.Follows left .readCertificate c e h handled)
    (hmessage : c.message = some m) :
    m.type = .certificate
      ∧ ∃ chain, CertificateChain.decode c.certificateRules m.body = .ok chain
        ∧ ∀ {result : Except Error Unit} {s : Session},
          c.hooked (c.withChain chain) = (result, s) → result = .ok ()
            ∧ (s.peerCertificates = none → c.allowsAnonymous plan.start.role = true) := by
  obtain ⟨rfl, _, hsaved, hsession⟩ := hfollows.progress.peer.at_readCertificate
  obtain ⟨onWay, hheard⟩ := hfollows.heard_pending hmessage
  obtain ⟨chain, hchain, haccepts, hallowed⟩ := plan.hears_chain hheard hsaved
  have hsettings := hfollows.progress.settings
  refine ⟨hchain.type, chain, hsettings.certificateRules ▸ hchain.decode, fun hhook => ⟨?_, ?_⟩⟩
  · rw [Context.AcceptsChain, ← hsettings.hooked_withChain hsession, hhook] at haccepts
    exact haccepts
  · intro hnone
    rw [Context.allowsAnonymous, hsettings.config]
    refine hallowed ?_
    rw [(hsettings.hooked plan.keeps hhook).2, Context.withChain, Session.storeChain] at hnone
    by_cases hempty : chain.certificates.isEmpty
    · exact List.isEmpty_iff.1 hempty
    · simp only [hempty] at hnone
      cases hnone

theorem reads_signature (hfollows : plan.Follows left .readCertificateVerify c e h handled)
    (hmessage : c.message = some m) :
    m.type = .certificateVerify ∧ ∃ key verify, c.session.peerKey = some key
      ∧ CertificateVerify.decode m.body = .ok verify
      ∧ c.config.signaturePolicy.refusal? verify.scheme = none
      ∧ key.verify verify.scheme (c.signatureInput c.role.peer) verify.signature = .ok true := by
  have htranscript := hfollows.transcript_eq rfl
  have hsettings := hfollows.progress.settings
  obtain ⟨m', chain, rfl, _, _, hchain, hkey, hsome, _⟩ :=
    hfollows.progress.peer.at_readCertificateVerify
  obtain ⟨onWay, hheard⟩ := hfollows.heard_pending hmessage
  obtain ⟨key, verify, hleaf, htype, hdecode, hpolicy, hverify⟩ :=
    plan.hears_signature hheard hchain hsome
  refine ⟨htype, key, verify, hkey.trans hleaf, hdecode, hsettings.config ▸ hpolicy, ?_⟩
  rw [rawBytes_singleton] at htranscript
  rw [hsettings.signatureInput htranscript, hsettings.role]
  exact hverify

theorem reads_finished (hfollows : plan.Follows left .readFinished c e h handled)
    (hmessage : c.message = some m) :
    m.type = .finished ∧ m.body = plan.mac c.role.peer c.transcript.hash := by
  obtain ⟨onWay, hheard⟩ := hfollows.heard_pending hmessage
  have hsettings := hfollows.progress.settings
  rw [hsettings.hash (hfollows.transcript_eq rfl), hsettings.role]
  exact plan.hears_finished hheard hfollows.progress.peer

/-- The MAC computed ahead is the one in Finished. -/
theorem saved_eq (hfollows : plan.Follows left .readFinished c e h handled)
    (hsaved : c.usesSavedFinished plan.start.role = true) :
    c.expectedClientFinished = some (plan.mac c.role.peer c.transcript.hash) := by
  have hsettings := hfollows.progress.settings
  rw [Context.usesSavedFinished, hsettings.config] at hsaved
  obtain ⟨rfl, mac, hmacs, hsome⟩ := hfollows.progress.peer.macs_at_readFinished.2 hsaved
  have hmac := hfollows.macsOf plan.start.role.peer _ (hmacs ▸ List.mem_cons_self)
  rw [hsome, hsettings.hash (hfollows.transcript_eq rfl), hsettings.role, rawBytes_nil,
    List.append_nil, ← hfollows.beforePeer_eq rfl]
  exact congrArg some hmac

/-- Whatever is read is of the type that is waited for. -/
theorem type_eq (hfollows : plan.Follows left phase c e h handled) (hmessage : c.message = some m)
    (hphase : expected? phase = some type) : m.type = type := by
  cases phase <;> cases hphase
  · exact (hfollows.reads_chain hmessage).1
  · exact (hfollows.reads_signature hmessage).1
  · exact (hfollows.reads_finished hmessage).1

/-! ## What is to be sent can be sent -/

theorem chainMessage_eq (hfollows : plan.Follows left .sendCertificate c e h handled) :
    ∃ message, c.chainMessage = .ok message := by
  obtain ⟨_, _, hshows⟩ := hfollows.progress.own.at_sendCertificate
  rw [hfollows.progress.settings.chainMessage]
  obtain ⟨shown, hshown, _⟩ := plan.shows
  generalize plan.retries = retries at hshown
  cases hshown with
  | unasked hrole hrequested => exact absurd hshows (Context.not_showsChain hrole hrequested)
  | bare _ hencode | signed _ hencode => exact ⟨_, hencode⟩

variable [TicketHandler τ]

/-- The signer, asked while it signs, gives the planned signature or still owes it. -/
theorem signing_eq (hfollows : plan.Follows left .sendCertificateVerify c e h handled) :
    ∃ verify info, Environment.signer? e = some info
      ∧ c.config.signaturePolicy.choose? info.schemes c.peerSchemes = some verify.scheme
      ∧ verify.signature.length ≤ info.maxLength
      ∧ Planned plan.own c.transcript.bytes verify
      ∧ ∀ {answer : SignResult} {e' : Station FinishedKeys σ τ},
        (c.signingEvent verify.scheme info.maxLength answer).Effect e e' →
          answer = .success verify.signature
          ∨ answer = .retry ∧ ∃ left', left = left' + 1
            ∧ Context.Obtains { c with signaturePending := true } e'.signer
              (Context.ask { c with signaturePending := true }) left' verify := by
  obtain ⟨verify, ⟨⟨s, info, hsome, hgives, hscheme, hlength⟩, hfits⟩, hplanned⟩ :=
    hfollows.signing rfl
  have hsigner : Environment.signer? e = some info := by
    change e.signer.map SigningDevice.info = some info
    rw [hsome, Option.map_some, hgives.info_eq]
  refine ⟨verify, info, hsigner, hscheme, hlength, hplanned, fun heffect => ?_⟩
  obtain ⟨s', hask, hsome'⟩ := Context.ask_of_effect heffect hsome
  rcases hgives.of_ask hask with hsuccess | ⟨hretry, left', hleft, hrest⟩
  · exact Or.inl hsuccess
  · exact Or.inr ⟨hretry, left', hleft, ⟨s', info, hsome', hrest, hscheme, hlength⟩, hfits⟩

end Follows

end Plan

end TlsHandshake
