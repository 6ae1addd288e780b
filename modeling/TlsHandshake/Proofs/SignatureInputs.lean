import TlsHandshake.Proofs.LeafKeys
import TlsHandshake.Proofs.Signer.CommonScheme

set_option autoImplicit false

/-! # What is signed, and what is checked

The two ends choose the label of what is signed apart from each other: the signer goes by its own
role, and the end that checks the signature by the role that is not its own. No label starts with
another, so what is signed tells who signs and over which transcript, however long the hash is
(`signatureInput_inj`).

What an end signs is in the record of what it asks its signer for (`Endpoint.SignsOver`). What it
checks leaves no record, as a key verifies without the surroundings. So
`Engine.processVerifyBy` has somebody else judge the signatures, and an end checks a signature over
those bytes for which the judgement makes a difference (`Endpoint.ChecksOver`). Main statement:
`Endpoint.signs_and_checks_over`. -/

namespace TlsHandshake

/-! ## Labels -/

/-- No label starts with the label of another signer. -/
theorem SignerContext.eq_of_label_prefix {s s' : SignerContext} (h : s.label <+: s'.label) :
    s = s' := by
  revert h
  cases s <;> cases s' <;> decide +kernel

theorem SignerContext.ofRole_inj {role role' : Role} : ofRole role = ofRole role' ↔ role = role' := by
  cases role <;> cases role' <;> simp [ofRole]

/-- The bytes that are signed tell who signs them and over which hash. -/
theorem signatureInput_inj {hash hash' : Bytes} {s s' : SignerContext} :
    signatureInput hash s = signatureInput hash' s' ↔ s = s' ∧ hash = hash' := by
  constructor
  · intro h
    unfold signatureInput at h
    rw [List.append_assoc, List.append_assoc] at h
    have h := List.append_cancel_left h
    -- both labels start the same bytes, so one of them starts with the other
    have hsame : s = s' := by
      have hprefix : s'.label <+: s.label ++ hash := ⟨hash', h.symm⟩
      rcases List.prefix_or_prefix_of_prefix (List.prefix_append s.label hash) hprefix with h | h
      · exact SignerContext.eq_of_label_prefix h
      · exact (SignerContext.eq_of_label_prefix h).symm
    subst hsame
    exact ⟨rfl, List.append_cancel_left h⟩
  · rintro ⟨rfl, rfl⟩
    rfl

/-! ## Judging a signature -/

namespace Engine

variable {ε : Type} [Environment ε]

/-- Somebody who says whether a key verifies a signature over a message under a scheme. -/
abbrev Judge (ε : Type) :=
  PublicKey → SignatureScheme → Bytes → Bytes → Engine ε (Except CryptoError Bool)

/-- Ends the handshake unless the signature is good or need not be; no answer is no. -/
def actOnVerdict (c : Context) (verdict : Except CryptoError Bool) : Engine ε Unit :=
  let verified :=
    match verdict with
    | .ok b => b
    | .error _ => false
  if !verified && !c.config.insecureFuzzing then fatal .decryptError .badSignature else pure ()

/-- Deals with the pending CertificateVerify message, but leaves the signature to a judge. -/
def processVerifyBy (judge : Judge ε) : Engine ε Unit := do
  let c ← context
  match c.session.peerKey with
  | none => fatal .internalError (.internal .noPeerKey)
  | some key =>
      let verify ← orFatal (fun _ => .decodeError) (CertificateVerify.decode c.messageBody)
      match c.config.signaturePolicy.refusal? verify.scheme with
      | some description => fatal description (.schemeRejected verify.scheme)
      | none =>
          modifySession fun s => { s with peerScheme := some verify.scheme }
          let verdict ← judge key verify.scheme (c.signatureInput c.role.peer) verify.signature
          actOnVerdict c verdict

/-- The message is dealt with in this way, with the keys themselves as the judges. -/
theorem processVerifyBy_keys :
    processVerifyBy (fun key scheme message signature => pure (key.verify scheme message signature))
      = (processCertificateVerify : Engine ε Unit) := rfl

end Engine

namespace Endpoint

open Engine AuthFlow

variable {ε : Type} [Environment ε] {p q : Endpoint ε} {input : Bytes}

/-- The endpoint has a CertificateVerify message to judge: it knows the key of its peer, and can read
    the message, the scheme of which it accepts. -/
structure Judges (q : Endpoint ε) (key : PublicKey) (verify : CertificateVerify) : Prop where
  peerKey : q.context.session.peerKey = some key
  read : CertificateVerify.decode q.context.messageBody = .ok verify
  accepted : q.context.config.signaturePolicy.refusal? verify.scheme = none

/-- What the endpoint does with its message depends on how a signature over `input` is judged. -/
def ChecksOver (q : Endpoint ε) (input : Bytes) : Prop :=
  ∃ judge judge' : Judge ε,
    (∀ key scheme message signature, message ≠ input →
      judge key scheme message signature = judge' key scheme message signature)
    ∧ processVerifyBy judge q ≠ processVerifyBy judge' q

section Judges

variable {key : PublicKey} {verify : CertificateVerify}

/-- One question is put to the judge. -/
theorem Judges.processVerifyBy (h : q.Judges key verify) (judge : Judge ε) :
    Engine.processVerifyBy judge q
      = (judge key verify.scheme (q.context.signatureInput q.context.role.peer) verify.signature
          >>= actOnVerdict q.context) ⟨noteScheme q.context verify, q.environment⟩ := by
  simp only [Engine.processVerifyBy, Engine.context, Bind.bind, EStateM.bind, h.peerKey, h.read, orFatal,
    Pure.pure, EStateM.pure, h.accepted]
  rfl

/-- Without a message to judge no question is put. -/
theorem processVerifyBy_unasked (h : ∀ key verify, ¬q.Judges key verify) (judge judge' : Judge ε) :
    processVerifyBy judge q = processVerifyBy judge' q := by
  cases hkey : q.context.session.peerKey with
  | none => simp only [processVerifyBy, Engine.context, Bind.bind, EStateM.bind, hkey]
  | some key =>
      cases hread : CertificateVerify.decode q.context.messageBody with
      | error e =>
          simp only [processVerifyBy, Engine.context, Bind.bind, EStateM.bind, hkey, hread, orFatal]
          rfl
      | ok verify =>
          cases haccepted : q.context.config.signaturePolicy.refusal? verify.scheme with
          | some description =>
              simp only [processVerifyBy, Engine.context, Bind.bind, EStateM.bind, hkey, hread, orFatal,
                Pure.pure, EStateM.pure, haccepted]
          | none => exact absurd ⟨hkey, hread, haccepted⟩ (h key verify)

end Judges

/-- An end with a message to judge checks a signature over what the other end signs, as of its own
    transcript, and over nothing else. -/
theorem checksOver_iff :
    q.ChecksOver input ↔ (∃ key verify, q.Judges key verify)
      ∧ input = q.context.signatureInput q.context.role.peer := by
  constructor
  · rintro ⟨judge, judge', hagree, hdiffer⟩
    have hjudges : ∃ key verify, q.Judges key verify := by
      by_contra hnone
      simp only [not_exists] at hnone
      exact hdiffer (processVerifyBy_unasked hnone judge judge')
    refine ⟨hjudges, ?_⟩
    obtain ⟨key, verify, hjudges⟩ := hjudges
    by_contra hne
    rw [hjudges.processVerifyBy, hjudges.processVerifyBy, hagree _ _ _ _ (Ne.symm hne)] at hdiffer
    exact hdiffer rfl
  · rintro ⟨⟨key, verify, hjudges⟩, rfl⟩
    -- one judge takes every signature, the other fails over this message
    refine ⟨fun _ _ _ _ => pure (.ok true), fun _ _ message _ =>
      if message = q.context.signatureInput q.context.role.peer then throw .noPeerCertificate
      else pure (.ok true), fun _ _ _ _ hne => (if_neg hne).symm, ?_⟩
    rw [hjudges.processVerifyBy, hjudges.processVerifyBy, if_pos rfl]
    intro h
    cases h

end Endpoint

/-! ## Asking for a signature -/

/-- The bytes that the signer is asked to sign. -/
def Event.toSign? : Event → Option Bytes
  | signed _ input _ _ => some input
  | _ => none

namespace Context

variable (c : Context)

/-- A new signature is to be asked for: none is under way, and there is a signer with which the
    policy has a scheme in common. -/
def AsksSigner (signer? : Option SignerInfo) : Prop :=
  c.signaturePending = false ∧ ∃ info scheme, signer? = some info
    ∧ c.config.signaturePolicy.choose? info.schemes c.peerSchemes = some scheme

@[simp] theorem signingEvent_toSign? (scheme : SignatureScheme) (maxLength : Nat)
    (answer : SignResult) : (c.signingEvent scheme maxLength answer).toSign?
      = if c.signaturePending then none else some (c.signatureInput c.role) := by
  rw [signingEvent]
  split <;> rfl

end Context

/-- The signer is asked to sign if there is a signature to ask for, and then over the transcript as
    it is and under the own label. -/
theorem AuthFlow.SignOutcome.mem_toSign_iff {role : Role} {signer? : Option SignerInfo}
    {c c' : Context} {h : History} {answer : Except Error SignResult} {input : Bytes}
    (houtcome : AuthFlow.SignOutcome role signer? c h answer c') :
    input ∈ h.filterMap Event.toSign?
      ↔ c.AsksSigner signer? ∧ input = c.signatureInput c.role := by
  -- most outcomes start with a question to the signer
  have hasked : ∀ {info : SignerInfo} {scheme : SignatureScheme} {answer : SignResult}
      {rest : History}, signer? = some info →
      c.config.signaturePolicy.choose? info.schemes c.peerSchemes = some scheme →
      rest.filterMap Event.toSign? = [] →
      (input ∈ (c.signingEvent scheme info.maxLength answer :: rest).filterMap Event.toSign?
        ↔ c.AsksSigner signer? ∧ input = c.signatureInput c.role) := by
    intro info scheme answer rest hsigner hscheme hrest
    rw [List.filterMap_cons, Context.signingEvent_toSign?, hrest]
    cases hpending : c.signaturePending with
    | true => simp [Context.AsksSigner, hpending]
    | false => simp [Context.AsksSigner, hpending, hsigner, hscheme]
  cases houtcome with
  | delayed hsigner hscheme => exact hasked hsigner hscheme rfl
  | sent hsigner hscheme => exact hasked hsigner hscheme rfl
  | failed hfailure =>
      cases hfailure with
      | signerMissing hnone => simp [Event.toSign?, Context.AsksSigner, hnone]
      | schemeMissing hsigner hnone => simp [Event.toSign?, Context.AsksSigner, hsigner, hnone]
      | signatureFailed hsigner hscheme => exact hasked hsigner hscheme rfl
      | signatureTooLong hsigner hscheme => exact hasked hsigner hscheme rfl
      | signatureUnencodable hsigner hscheme => exact hasked hsigner hscheme rfl
      | signatureUnqueued hsigner hscheme => exact hasked hsigner hscheme rfl
      | outOfOrder hphase => cases hphase

namespace Endpoint

open Engine

section Signs

variable {ε : Type} [Environment ε] {p : Endpoint ε} {input : Bytes}

/-- The endpoint, asked to sign its transcript, has its signer sign `input`. -/
def SignsOver (p : Endpoint ε) (input : Bytes) : Prop :=
  ∃ h result c, p.ProvesKey h result c ∧ input ∈ h.filterMap Event.toSign?

theorem signsOver_iff :
    p.SignsOver input ↔ p.context.AsksSigner (Environment.signer? p.environment)
      ∧ input = p.context.signatureInput p.context.role := by
  obtain ⟨h, answer, c, env, hsign, _, houtcome⟩ := signTranscript_recorded p
  rw [← houtcome.mem_toSign_iff]
  constructor
  · rintro ⟨h', result, c', ⟨env', hproves⟩, hmem⟩
    have hsame : h' = h := by
      cases answer with
      | ok result' =>
          rw [addCertificateVerify, answerOf_eq_ok_iff.1 hsign] at hproves
          cases hproves
          rfl
      | error e =>
          rw [addCertificateVerify, answerOf_eq_error_iff.1 hsign] at hproves
          cases hproves
          rfl
    exact hsame ▸ hmem
  · intro hmem
    cases answer with
    | ok result => exact ⟨h, result, c, provesKey_of_ok hsign, hmem⟩
    | error e => exact ⟨h, _, _, provesKey_of_error hsign, hmem⟩

end Signs

/-- An end with a signature to ask for asks for one over one input, and an end with a signature to
    judge checks it over one input. The two inputs are the same if the ends have different roles and
    the same transcript hash, and only then: what an end signs is never what an end of its own role
    checks, whichever their transcripts are. This is because an input tells who signs it and over
    which hash. -/
theorem signs_and_checks_over {ε ε' : Type} [Environment ε] [Environment ε'] (p : Endpoint ε)
    (q : Endpoint ε') :
    (∀ {hash hash' : Bytes} {s s' : SignerContext},
      signatureInput hash s = signatureInput hash' s' → s = s' ∧ hash = hash')
    ∧ (p.context.AsksSigner (Environment.signer? p.environment) → ∃! input, p.SignsOver input)
    ∧ ((∃ key verify, q.Judges key verify) → ∃! input, q.ChecksOver input)
    ∧ ∀ {input input' : Bytes}, p.SignsOver input → q.ChecksOver input' →
      (q.context.role = p.context.role.peer →
        (input = input' ↔ p.context.transcript.hash = q.context.transcript.hash))
      ∧ (q.context.role = p.context.role → input ≠ input') := by
  refine ⟨fun h => signatureInput_inj.1 h, fun hasks => ?_, fun hjudges => ?_, ?_⟩
  · refine ⟨_, signsOver_iff.2 ⟨hasks, rfl⟩, fun input hsigns => ?_⟩
    exact (signsOver_iff.1 hsigns).2
  · refine ⟨_, checksOver_iff.2 ⟨hjudges, rfl⟩, fun input hchecks => ?_⟩
    exact (checksOver_iff.1 hchecks).2
  · intro input input' hsigns hchecks
    obtain ⟨-, rfl⟩ := signsOver_iff.1 hsigns
    obtain ⟨-, rfl⟩ := checksOver_iff.1 hchecks
    simp only [Context.signatureInput, signatureInput_inj, SignerContext.ofRole_inj]
    constructor
    · intro hrole
      rw [hrole, Role.peer_peer]
      exact and_iff_right rfl
    · intro hrole hsame
      rw [hrole] at hsame
      have hlabel := (signatureInput_inj.1 hsame).1
      exact Role.peer_ne p.context.role (SignerContext.ofRole_inj.1 hlabel).symm

end Endpoint

/-! ## A client and what it checks -/

namespace Rehearsal

/-- The end of this role with the transcript of the client that is about to verify a signature. -/
def signingEnd (role : Role) : Endpoint (Station FinishedKeys Signer TicketStore) :=
  (connection role []).endpoint

theorem signingEnd_signsOver (role : Role) :
    (signingEnd role).SignsOver ((signingEnd role).context.signatureInput role) := by
  refine Endpoint.signsOver_iff.2 ⟨⟨rfl, _, .ed25519, rfl, ?_⟩, rfl⟩
  cases role <;> decide +kernel

set_option maxRecDepth 100000 in
/-- The client checks what the server signs, and not what a client with its transcript signs. -/
theorem verifyingClient_checks :
    let p := signingEnd .server
    let mirror := signingEnd .client
    p.context.transcript.hash = verifyingClient.context.transcript.hash
      ∧ mirror.context.transcript.hash = verifyingClient.context.transcript.hash
      ∧ verifyingClient.ChecksOver (p.context.signatureInput .server)
      ∧ mirror.context.signatureInput .client ≠ p.context.signatureInput .server := by
  intro p mirror
  have hjudges : verifyingClient.Judges (.ecdsaP256 P256.Point.base.encode)
      ⟨.ecdsaP256Sha256, baseSignature⟩ := ⟨rfl, by decide +kernel, by decide +kernel⟩
  have hsigns : p.SignsOver (p.context.signatureInput .server) := signingEnd_signsOver .server
  have hmirror : mirror.SignsOver (mirror.context.signatureInput .client) :=
    signingEnd_signsOver .client
  obtain ⟨-, -, hunique, hsides⟩ := Endpoint.signs_and_checks_over p verifyingClient
  obtain ⟨checked, hchecks, -⟩ := hunique ⟨_, _, hjudges⟩
  have hsame : p.context.signatureInput .server = checked :=
    ((hsides hsigns hchecks).1 rfl).2 rfl
  obtain ⟨-, -, -, hreflected⟩ := Endpoint.signs_and_checks_over mirror verifyingClient
  refine ⟨rfl, rfl, hsame ▸ hchecks, ?_⟩
  rw [hsame]
  exact (hreflected hmirror hchecks).2 rfl

end Rehearsal

end TlsHandshake
