import TlsHandshake.Proofs.Authentication
import TlsHandshake.Proofs.Suspension
import TlsHandshake.Proofs.VerifyEncoding

set_option autoImplicit false

/-! # The scheme that a CertificateVerify names

Three lists decide with which scheme an end signs, each in its own order: the configured one, the
one of the key, and the one of the peer, where none at all stands for any. `Preferred` says which
scheme that is, and `choose?_ofList_eq_some_iff` that it is the one that is chosen.

All that can come of signing is listed (`AuthFlow.SignOutcome`), and `addCertificateVerify` makes an
answer of the errors among it (`provesKey_listed`). So what becomes of a signature that is there is
read off the list, and so is what a failure leaves, whichever it is (`provesKey_failure`).

Main statement: `Endpoint.commonScheme_signed`. -/

namespace TlsHandshake

/-! ## Choosing -/

namespace SignaturePolicy

variable {configured own peer : List SignatureScheme} {scheme : SignatureScheme}

/-- A scheme that can be signed with: the own key has it, and the peer lists it or lists none. -/
def Usable (own peer : List SignatureScheme) (scheme : SignatureScheme) : Prop :=
  scheme ∈ own ∧ (peer = [] ∨ scheme ∈ peer)

/-- The first of the configured schemes that can be signed with. -/
def Preferred (configured own peer : List SignatureScheme) (scheme : SignatureScheme) : Prop :=
  ∃ before after, configured = before ++ scheme :: after ∧ Usable own peer scheme
    ∧ ∀ s ∈ before, ¬ Usable own peer s

theorem usable_iff :
    (own.contains scheme && (peer.isEmpty || peer.contains scheme)) = true
      ↔ Usable own peer scheme := by
  simp only [Usable, Bool.and_eq_true, Bool.or_eq_true, List.isEmpty_iff, List.contains_iff_mem]

theorem choose?_ofList_eq_some_iff :
    (ofList configured).choose? own peer = some scheme
      ↔ Preferred configured own peer scheme := by
  simp only [ofList, List.find?_eq_some_iff_append, Bool.not_eq_true', ← Bool.not_eq_true,
    usable_iff, Preferred]
  constructor
  · rintro ⟨husable, before, after, hconfigured, hbefore⟩
    exact ⟨before, after, hconfigured, husable, hbefore⟩
  · rintro ⟨before, after, hconfigured, husable, hbefore⟩
    exact ⟨husable, before, after, hconfigured, hbefore⟩

theorem choose?_ofList_eq_none_iff :
    (ofList configured).choose? own peer = none ↔ ∀ s ∈ configured, ¬ Usable own peer s := by
  simp only [ofList, List.find?_eq_none, usable_iff]

end SignaturePolicy

/-! ## Failures -/

/-- A failure to sign is one of queueing the message, or has no message in the transcript. -/
theorem AuthFlow.Failure.of_unqueued {role : Role} {signer? : Option SignerInfo} {h : History}
    {c c' : Context} {e : Error}
    (hfailure : AuthFlow.Failure role signer? .sendCertificateVerify c h e c')
    (hqueued : h.messagesUnsent = []) : c'.transcript = c.transcript ∧ h.messagesSent = [] := by
  cases hfailure with
  | signerMissing | schemeMissing => exact ⟨rfl, rfl⟩
  | signatureFailed | signatureTooLong | signatureUnencodable =>
      refine ⟨rfl, ?_⟩
      rw [History.messagesSent_cons, Context.signingEvent_sent?]
      rfl
  | signatureUnqueued =>
      rw [History.messagesUnsent_cons, Context.signingEvent_unsent?] at hqueued
      cases hqueued
  | outOfOrder hphase => cases hphase

/-! ## Proving possession -/

namespace Endpoint

open Engine AuthFlow SignaturePolicy

variable {ε : Type} [Environment ε] {p : Endpoint ε} {h : History} {result : SignResult}
  {c : Context}

/-- The endpoint, asked to sign its transcript, does all that is in `h` and nothing else, answers
    with `result`, and has the context `c` then. -/
def ProvesKey (p : Endpoint ε) (h : History) (result : SignResult) (c : Context) : Prop :=
  ∃ env, addCertificateVerify p.recorded = .ok result ⟨c, ⟨env, h⟩⟩

section

variable {e : Error} {env : ε}

theorem provesKey_of_ok
    (hsign : answerOf signTranscript p.recorded = (.ok result, ⟨c, ⟨env, h⟩⟩)) :
    p.ProvesKey h result c := by
  refine ⟨env, ?_⟩
  rw [addCertificateVerify, answerOf_eq_ok_iff.1 hsign]

theorem provesKey_of_error
    (hsign : answerOf signTranscript p.recorded = (.error e, ⟨c, ⟨env, h⟩⟩)) :
    p.ProvesKey h .failure { c with lastError := some e } := by
  refine ⟨env, ?_⟩
  rw [addCertificateVerify, answerOf_eq_error_iff.1 hsign]

end

/-- What signing comes to, with the record of it. -/
theorem signTranscript_recorded (p : Endpoint ε) :
    ∃ h answer c env, answerOf signTranscript p.recorded = (answer, ⟨c, ⟨env, h⟩⟩)
      ∧ Performs p.environment h env
      ∧ SignOutcome p.context.role (Environment.signer? p.environment) p.context h answer c := by
  obtain ⟨h, answer, c, ⟨env, history⟩, hruns, houtcome⟩ :=
    signTranscript_listed p.context.role p.recorded
  obtain rfl : history = h := Recorded.history_of_performs hruns.2
  exact ⟨history, answer, c, env, hruns.1, Recorded.performs_forget hruns.2, houtcome⟩

/-- A failure notes its error and, unless it is one of queueing the message, leaves the transcript
    as it was and queues nothing. -/
theorem provesKey_failure (hfailure : p.ProvesKey h .failure c) (hqueued : h.messagesUnsent = []) :
    c.transcript = p.context.transcript ∧ h.messagesSent = []
      ∧ ∃ e q, signTranscript p.recorded = .error e q ∧ c.lastError = some e := by
  obtain ⟨env, hrun⟩ := hfailure
  obtain ⟨h', answer, c', env', hsign, _, houtcome⟩ := signTranscript_recorded p
  cases houtcome with
  | delayed | sent =>
      rw [addCertificateVerify, answerOf_eq_ok_iff.1 hsign] at hrun
      cases hrun
  | failed hfailed =>
      have herror := answerOf_eq_error_iff.1 hsign
      rw [addCertificateVerify, herror] at hrun
      cases hrun
      obtain ⟨htranscript, hsent⟩ := hfailed.of_unqueued hqueued
      exact ⟨htranscript, hsent, _, _, herror, rfl⟩

/-- Nothing is under way, a scheme is chosen, and the signer answers with a signature under it. -/
structure HasSignature (p : Endpoint ε) (info : SignerInfo) (scheme : SignatureScheme)
    (signature : Bytes) : Prop where
  unasked : p.context.signaturePending = false
  signer : Environment.signer? p.environment = some info
  chosen : p.context.config.signaturePolicy.choose? info.schemes p.context.peerSchemes = some scheme
  answer : (Environment.sign scheme (p.context.signatureInput p.context.role) info.maxLength
    p.environment).1 = .success signature

section HasSignature

variable {info info' : SignerInfo} {scheme scheme' : SignatureScheme} {signature : Bytes}
  {answer : SignResult} {env : ε}

/-- However the signer is asked, it is under this scheme and for this signature. -/
theorem HasSignature.unique (hsignature : p.HasSignature info scheme signature)
    (hsigner : Environment.signer? p.environment = some info')
    (hscheme : p.context.config.signaturePolicy.choose? info'.schemes p.context.peerSchemes
      = some scheme')
    (hperforms : Performs p.environment
      (p.context.signingEvent scheme' info'.maxLength answer :: h) env) :
    info' = info ∧ scheme' = scheme ∧ answer = .success signature := by
  obtain rfl := Option.some.inj (hsigner.symm.trans hsignature.signer)
  obtain rfl := Option.some.inj (hscheme.symm.trans hsignature.chosen)
  obtain ⟨between, heffect, _⟩ := hperforms
  rw [Context.signingEvent, hsignature.unasked] at heffect
  exact ⟨rfl, rfl, (congrArg Prod.fst heffect).symm.trans hsignature.answer⟩

/-- A signature that is there is sent under the chosen scheme, or is too long. -/
theorem HasSignature.provesKey (hsignature : p.HasSignature info scheme signature) :
    let asked := p.context.signingEvent scheme info.maxLength (.success signature)
    let c := { p.context with signaturePending := false }
    (signature.length ≤ info.maxLength
      ∧ ∃ message, CertificateVerify.encode ⟨scheme, signature⟩ = .ok message
        ∧ (p.ProvesKey [asked, .queued message (.ok ())] (.success signature) (c.record message)
          ∨ ∃ e, p.ProvesKey [asked, .queued message (.error e), .fatal .internalError] .failure
            { c.record message with lastError := some e }))
    ∨ ((info.maxLength < signature.length ∨ 0xffff < signature.length)
      ∧ ∃ fault, p.ProvesKey [asked, .fatal .internalError] .failure
        { c with lastError := some (.internal fault) }) := by
  intro asked c
  obtain ⟨h, answer, c', env, hanswer, hperforms, houtcome⟩ := signTranscript_recorded p
  cases houtcome with
  | delayed hsigner hscheme =>
      obtain ⟨-, -, ⟨⟩⟩ := hsignature.unique hsigner hscheme hperforms
  | sent hsigner hscheme hlength hencode =>
      obtain ⟨rfl, rfl, ⟨⟩⟩ := hsignature.unique hsigner hscheme hperforms
      exact .inl ⟨hlength, _, hencode, .inl (provesKey_of_ok hanswer)⟩
  | failed hfailure =>
      have hfailed := provesKey_of_error hanswer
      cases hfailure with
      | signerMissing hnone => cases hnone.symm.trans hsignature.signer
      | schemeMissing hsigner hnone =>
          obtain rfl := Option.some.inj (hsigner.symm.trans hsignature.signer)
          cases hnone.symm.trans hsignature.chosen
      | signatureFailed hsigner hscheme =>
          obtain ⟨-, -, ⟨⟩⟩ := hsignature.unique hsigner hscheme hperforms
      | signatureTooLong hsigner hscheme hlength =>
          obtain ⟨rfl, rfl, ⟨⟩⟩ := hsignature.unique hsigner hscheme hperforms
          exact .inr ⟨.inl hlength, _, hfailed⟩
      | signatureUnencodable hsigner hscheme hlength hencode =>
          obtain ⟨rfl, rfl, ⟨⟩⟩ := hsignature.unique hsigner hscheme hperforms
          obtain ⟨hlong, rfl⟩ := CertificateVerify.encode_eq_error_iff.1 hencode
          exact .inr ⟨.inr hlong, _, hfailed⟩
      | signatureUnqueued hsigner hscheme hlength hencode =>
          obtain ⟨rfl, rfl, ⟨⟩⟩ := hsignature.unique hsigner hscheme hperforms
          exact .inl ⟨hlength, _, hencode, .inr ⟨_, hfailed⟩⟩
      | outOfOrder hphase => cases hphase

end HasSignature

/-- Without a scheme to sign with the signer is not asked. -/
theorem provesKey_of_none {info : SignerInfo}
    (hsigner : Environment.signer? p.environment = some info)
    (hnone : p.context.config.signaturePolicy.choose? info.schemes p.context.peerSchemes = none) :
    p.ProvesKey [.fatal .handshakeFailure] .failure
      { p.context with lastError := some .noCommonScheme } := by
  have hsigner : Environment.signer? p.recorded.environment = some info := hsigner
  have hnone : p.recorded.context.config.signaturePolicy.choose? info.schemes
      p.recorded.context.peerSchemes = none := hnone
  refine ⟨Environment.sendAlert (.fatal .handshakeFailure) p.environment, ?_⟩
  simp only [addCertificateVerify, signTranscript, signTranscript.go, hsigner, Bind.bind,
    EStateM.bind, Engine.context, hnone]
  rfl

/-- An end that signs by a list, has nothing under way and gets a signature when it asks for one
    asks once, under the first configured scheme that its key has and the peer takes, and over the
    transcript as it is. A signature within its bounds is sent in one message, which goes into the
    transcript and is read as this scheme and this signature; one that is too long is an internal
    error. Where no such scheme exists the signer is not asked. A failure notes its error and,
    unless it is one of queueing the message, leaves the transcript as it was and queues nothing. -/
theorem commonScheme_signed (p : Endpoint ε) {configured : List SignatureScheme}
    {info : SignerInfo} {signature : Bytes}
    (hpolicy : p.context.config.signaturePolicy = .ofList configured)
    (hpending : p.context.signaturePending = false)
    (hsigner : Environment.signer? p.environment = some info)
    (hanswer : ∀ scheme, Preferred configured info.schemes p.context.peerSchemes scheme →
      (Environment.sign scheme (signatureInput p.context.transcript.hash (.ofRole p.context.role))
        info.maxLength p.environment).1 = .success signature) :
    ((∃ s ∈ configured, Usable info.schemes p.context.peerSchemes s) →
      ∃ scheme, Preferred configured info.schemes p.context.peerSchemes scheme
        ∧ let asked := Event.signed scheme
            (signatureInput p.context.transcript.hash (.ofRole p.context.role)) info.maxLength
            (.success signature)
          (signature.length ≤ info.maxLength → signature.length ≤ 0xffff →
            ∃ message body, frame .certificateVerify body = .ok message
              ∧ CertificateVerify.decode body = .ok ⟨scheme, signature⟩
              ∧ (p.ProvesKey [asked, .queued message (.ok ())] (.success signature)
                  (p.context.record message)
                ∨ ∃ e, p.ProvesKey [asked, .queued message (.error e), .fatal .internalError]
                  .failure { p.context.record message with lastError := some e }))
          ∧ (info.maxLength < signature.length ∨ 0xffff < signature.length →
            ∃ fault, p.ProvesKey [asked, .fatal .internalError] .failure
              { p.context with lastError := some (.internal fault) }))
    ∧ ((∀ s ∈ configured, ¬ Usable info.schemes p.context.peerSchemes s) →
      p.ProvesKey [.fatal .handshakeFailure] .failure
        { p.context with lastError := some .noCommonScheme })
    ∧ ∀ h c, p.ProvesKey h .failure c → h.messagesUnsent = [] →
      c.transcript = p.context.transcript ∧ h.messagesSent = []
        ∧ ∃ e q, signTranscript p.recorded = .error e q ∧ c.lastError = some e := by
  refine ⟨fun husable => ?_, fun hnone => ?_, fun h c => provesKey_failure⟩
  · cases hscheme : p.context.config.signaturePolicy.choose? info.schemes p.context.peerSchemes with
    | none =>
        obtain ⟨s, hmem, hs⟩ := husable
        rw [hpolicy, choose?_ofList_eq_none_iff] at hscheme
        exact absurd hs (hscheme s hmem)
    | some scheme =>
        have hpreferred := hscheme
        rw [hpolicy, choose?_ofList_eq_some_iff] at hpreferred
        have hsignature : p.HasSignature info scheme signature :=
          ⟨hpending, hsigner, hscheme, hanswer scheme hpreferred⟩
        have hproves := hsignature.provesKey
        -- as nothing is under way, the context stays and the signer is asked for a new signature
        rw [← hpending, Context.signingEvent, if_neg (Bool.eq_false_iff.1 hpending)] at hproves
        refine ⟨scheme, hpreferred, ?_⟩
        rcases hproves with ⟨hlength, message, hencode, hsent⟩ | ⟨hlong, hrefused⟩
        · obtain ⟨hshort, hframe⟩ := CertificateVerify.encode_eq_ok_iff.1 hencode
          have hread := CertificateVerify.read_iff.2 ⟨hshort, rfl⟩
          refine ⟨fun _ _ => ⟨message, _, hframe, hread, hsent⟩, fun hlong => ?_⟩
          rcases hlong with hlong | hlong
          · exact absurd hlength (Nat.not_le.2 hlong)
          · exact absurd (lt_capacity_two_iff.1 hshort) (Nat.not_le.2 hlong)
        · refine ⟨fun hlength hshort => ?_, fun _ => hrefused⟩
          rcases hlong with hlong | hlong
          · exact absurd hlength (Nat.not_le.2 hlong)
          · exact absurd hshort (Nat.not_le.2 hlong)
  · refine provesKey_of_none hsigner ?_
    rw [hpolicy]
    exact choose?_ofList_eq_none_iff.2 hnone

end Endpoint

namespace Rehearsal

open SignaturePolicy

/-- The first of these schemes is none of the peer, and the second none of the key. -/
def listedSchemes : List SignatureScheme := [⟨0x0804⟩, .ecdsaP256Sha256, .ed25519]

/-- A server that signs by this list. -/
def listServer : Endpoint (Station FinishedKeys Signer TicketStore) :=
  let start := (connection .server []).endpoint
  { context := { start.context with
      config := { start.context.config with signaturePolicy := .ofList listedSchemes }
      peerSchemes := [.ecdsaP256Sha256, .ed25519] }
    environment := { start.environment with
      signer := some
        { key := .ed25519 []
          schemes := [.ed25519, ⟨0x0804⟩]
          fixed := some (signature .server) } } }

set_option maxRecDepth 100000 in
/-- It signs with the third scheme, and sends what it has signed. -/
theorem listServer_signs :
    let p := listServer
    let asked := Event.signed .ed25519 (signatureInput p.context.transcript.hash .server) 64
      (.success (signature .server))
    ∃ message body, frame .certificateVerify body = .ok message
      ∧ CertificateVerify.decode body = .ok ⟨.ed25519, signature .server⟩
      ∧ p.ProvesKey [asked, .queued message (.ok ())] (.success (signature .server))
        (p.context.record message) := by
  intro p asked
  have hpolicy : p.context.config.signaturePolicy = .ofList listedSchemes := rfl
  have hsigner : Environment.signer? p.environment = some ⟨[.ed25519, ⟨0x0804⟩], 64⟩ := rfl
  have hanswer (scheme : SignatureScheme)
      (_ : Preferred listedSchemes [.ed25519, ⟨0x0804⟩] p.context.peerSchemes scheme) :
      (Environment.sign scheme (signatureInput p.context.transcript.hash (.ofRole p.context.role))
        64 p.environment).1 = .success (signature .server) := rfl
  obtain ⟨hsigned, -, -⟩ := Endpoint.commonScheme_signed p hpolicy rfl hsigner hanswer
  have husable : Usable [.ed25519, ⟨0x0804⟩] p.context.peerSchemes .ed25519 :=
    ⟨by decide, .inr (by decide)⟩
  obtain ⟨scheme, hpreferred, hsent, -⟩ := hsigned ⟨.ed25519, by decide, husable⟩
  obtain rfl : SignatureScheme.ed25519 = scheme :=
    Option.some.inj (choose?_ofList_eq_some_iff.2 hpreferred)
  obtain ⟨message, body, hframe, hdecode, hproves⟩ := hsent (by decide) (by decide)
  refine ⟨message, body, hframe, hdecode, ?_⟩
  rcases hproves with hproves | ⟨e, env, hfailed⟩
  · exact hproves
  · have hsuccess : ∃ q, Engine.addCertificateVerify p.recorded
        = .ok (.success (signature .server)) q := ⟨_, rfl⟩
    obtain ⟨q, hsuccess⟩ := hsuccess
    cases hsuccess.symm.trans hfailed

end Rehearsal

end TlsHandshake
