import TlsHandshake.Proofs.Failure
import TlsHandshake.Proofs.Handshakes

set_option autoImplicit false

/-! # The transcript is the log

Whenever a call of `handshake` ends without a failure, the transcript is what it was at first and
then every message read and queued, in the order in which they were handled, each of them once. Every
signature and every MAC, made or checked, covers the transcript as it was right before the message
that it is in. The peer's messages are recorded by whoever deals with them and the own ones by
whoever queues them, between suspensions, requests to the signer, and a MAC that is computed ahead;
`Accounted` keeps the books. Main statement: `Connection.transcript_is_log`. -/

namespace TlsHandshake

/-! ## What a message covers -/

namespace History

/-- The signer has been asked to sign `input`, wants more time, and has not been asked to sign
    anything else since. -/
def AwaitsSignature (input : Bytes) (h : History) : Prop :=
  ∃ g scheme maxLength rest, h = g ++ .signed scheme input maxLength .retry :: rest
    ∧ ∀ scheme' input' maxLength' answer, .signed scheme' input' maxLength' answer ∉ rest

/-- What has happened last is that the signer has answered with a signature over `input`. -/
def SignedOver (input signature : Bytes) (h : History) : Prop :=
  (∃ g scheme maxLength, h = g ++ [.signed scheme input maxLength (.success signature)])
  ∨ ∃ g maxLength, h = g ++ [.completedSignature maxLength (.success signature)]
    ∧ AwaitsSignature input g

/-- The message that has been read and is still to be dealt with. -/
def unread (message : Option Message) : History :=
  message.toList.map fun m => .read (.ok (.ready m))

@[simp] theorem unread_none : unread none = [] := rfl

@[simp] theorem log_unread (message : Option Message) :
    (unread message).log = rawBytes message.toList := by
  cases message with
  | none => rfl
  | some m => simp [unread, Event.logged]

theorem AwaitsSignature.append {input : Bytes} {g h : History} (hawaits : AwaitsSignature input h)
    (hg : ∀ scheme' input' maxLength' answer, .signed scheme' input' maxLength' answer ∉ g) :
    AwaitsSignature input (h ++ g) := by
  obtain ⟨before, scheme, maxLength, rest, rfl, hrest⟩ := hawaits
  refine ⟨before, scheme, maxLength, rest ++ g, by simp, ?_⟩
  intro scheme' input' maxLength' answer hmem
  rcases List.mem_append.1 hmem with hmem | hmem
  · exact hrest _ _ _ _ hmem
  · exact hg _ _ _ _ hmem

end History

/-- `m` covers the transcript after `g` if it has to cover one at all: Finished has the MAC that has
    just been computed over it, and CertificateVerify the signature that has just been made. -/
structure Covers (c : Context) (g : History) (m : Bytes) : Prop where
  finished : IsMessage .finished m → ∃ g' mac, Finished.encode mac = .ok m
    ∧ g = g' ++ [.computedMac c.role (c.digestAfter g) (.ok mac)]
  signature : IsMessage .certificateVerify m → ∃ verify, CertificateVerify.encode verify = .ok m
    ∧ g.SignedOver (signatureInput (c.digestAfter g) (.ofRole c.role)) verify.signature

/-- `m`, read after `g`, has been accepted: its signature, by the peer's key, or its MAC covers the
    transcript after `g`, unless the checks are off. The MAC has been computed somewhere in `h`. -/
inductive Accepts (c : Context) (key? : Option PublicKey) (h g : History) (m : Message) : Prop
  | chain (htype : m.type = .certificate)
  | signature {key : PublicKey} {verify : CertificateVerify} (htype : m.type = .certificateVerify)
      (hkey : key? = some key) (hdecode : CertificateVerify.decode m.body = .ok verify)
      (hverify : key.verify verify.scheme
          (signatureInput (c.digestAfter g) (.ofRole c.role.peer)) verify.signature = .ok true
        ∨ c.config.insecureFuzzing = true)
  | finished {mac : Bytes} (htype : m.type = .finished)
      (hmac : (c.digestAfter g, mac) ∈ h.macsOf c.role.peer)
      (hbody : m.body = mac ∨ c.config.insecureFuzzing = true)

/-- `m`, read after `g`, has been refused, which has sent the alert in `rest`: before there was
    anything to check, or since its signature, by the peer's key, or its MAC does not cover the
    transcript after `g`. -/
inductive Refuses (c : Context) (key? : Option PublicKey) (h g : History) (m : Message)
    (rest : History) : Prop
  | outOfPlace (hrest : rest = [.fatal .unexpectedMessage])
  | chain {description : AlertDescription} (htype : m.type = .certificate)
      (hrest : rest = [.fatal description])
  | keyMissing (htype : m.type = .certificateVerify) (hkey : key? = none)
      (hrest : rest = [.fatal .internalError])
  | undecodable {e : Error} (htype : m.type = .certificateVerify)
      (hdecode : CertificateVerify.decode m.body = .error e) (hrest : rest = [.fatal .decodeError])
  | scheme {verify : CertificateVerify} {description : AlertDescription}
      (htype : m.type = .certificateVerify)
      (hdecode : CertificateVerify.decode m.body = .ok verify)
      (hpolicy : c.config.signaturePolicy.refusal? verify.scheme = some description)
      (hrest : rest = [.fatal description])
  | signature {key : PublicKey} {verify : CertificateVerify} (htype : m.type = .certificateVerify)
      (hkey : key? = some key) (hdecode : CertificateVerify.decode m.body = .ok verify)
      (hverify : key.verify verify.scheme
        (signatureInput (c.digestAfter g) (.ofRole c.role.peer)) verify.signature ≠ .ok true)
      (hrest : rest = [.fatal .decryptError])
  | uncomputable {e : Error} (htype : m.type = .finished)
      (hrest : rest = [.computedMac c.role.peer (c.digestAfter g) (.error e), .fatal .internalError])
  | finished {mac : Bytes} (htype : m.type = .finished)
      (hmac : (c.digestAfter g, mac) ∈ h.macsOf c.role.peer) (hbody : m.body ≠ mac)
      (hrest : rest.alerts = [.fatal .decryptError])

/-- What is known of an event after `g`, once all that came in has been accepted. -/
def Judged (c : Context) (key? : Option PublicKey) (h g : History) : Event → Prop
  | .read (.ok (.ready m)) => Accepts c key? h g m
  | .queued m _ => Covers c g m
  | _ => True

/-- What is known of an event between `g` and `rest`. -/
def Told (c : Context) (key? : Option PublicKey) (h g : History) (e : Event) (rest : History) :
    Prop :=
  match e with
  | .read (.ok (.ready m)) => Accepts c key? h g m ∨ Refuses c key? h g m rest
  | .queued m _ => Covers c g m
  | _ => True

section Judged

variable {c : Context} {key? key?' : Option PublicKey} {g h h' : History} {m : Bytes}
  {e : Event}

theorem digestAfter_append (c : Context) {g h : History} (hlog : g.log = []) :
    c.digestAfter (h ++ g) = c.digestAfter h := by
  rw [Context.digestAfter, Context.digestAfter, History.log_append, hlog, List.append_nil]

theorem covers_chain (hencode : c.chainMessage = .ok m) : Covers c g m where
  finished hfinished := nomatch (isMessage_chain hencode).type_eq hfinished
  signature hverify := nomatch (isMessage_chain hencode).type_eq hverify

theorem covers_finished {mac : Bytes} (hencode : Finished.encode mac = .ok m) :
    Covers c (h ++ [.computedMac c.role (c.digestAfter h) (.ok mac)]) m where
  finished _ := ⟨h, mac, hencode, by rw [digestAfter_append c rfl]⟩
  signature hverify := nomatch (isMessage_finished hencode).type_eq hverify

theorem covers_signature {verify : CertificateVerify}
    (hencode : CertificateVerify.encode verify = .ok m)
    (hsigned : g.SignedOver (signatureInput (c.digestAfter g) (.ofRole c.role)) verify.signature) :
    Covers c g m where
  finished hfinished := nomatch (isMessage_verify hencode).type_eq hfinished
  signature _ := ⟨verify, hencode, hsigned⟩

theorem Judged.mono (hjudged : Judged c key? h g e) (hsubset : ∀ mac ∈ h.macsOf c.role.peer,
    mac ∈ h'.macsOf c.role.peer) : Judged c key? h' g e := by
  cases e with
  | read answer =>
      rcases answer with _ | _ | _
      · trivial
      · cases hjudged with
        | chain htype => exact .chain htype
        | signature htype hkey hdecode hverify => exact .signature htype hkey hdecode hverify
        | finished htype hmac hbody => exact .finished htype (hsubset _ hmac) hbody
      · trivial
  | queued => exact hjudged
  | _ => trivial

/-- As long as nothing has been read, the peer's key does not matter. -/
theorem Judged.rekey (hjudged : Judged c key? h g e) (hread : e.message? = none) :
    Judged c key?' h g e := by
  cases e with
  | read answer =>
      rcases answer with _ | _ | _
      · trivial
      · cases hread
      · trivial
  | queued => exact hjudged
  | _ => trivial

theorem Judged.told {rest : History} (hjudged : Judged c key? h g e) : Told c key? h g e rest := by
  cases e with
  | read answer =>
      rcases answer with _ | _ | _
      · trivial
      · exact Or.inl hjudged
      · trivial
  | queued => exact hjudged
  | _ => trivial

end Judged

/-! ## Waits -/

/-- Neither a message, nor a request to the signer. -/
def Event.Idle : Event → Prop
  | .read (.ok (.ready _)) | .queued .. | .signed .. => False
  | _ => True

/-- Apart from the message that is pending then, what settling a wait does is idle. -/
theorem Endpoint.Settles.unread_last {c c' : Context} {g : History} {o : Option Outcome}
    (hsettles : Settles c g o c') (hnone : c.message = none) :
    ∃ g', g = g' ++ .unread c'.message ∧ ∀ event ∈ g', event.Idle := by
  have hreport : ∀ e, ∀ event ∈ History.report e, event.Idle := by
    intro e event hmem
    unfold History.report at hmem
    split at hmem
    · rw [List.mem_singleton.1 hmem]
      trivial
    · cases hmem
  have hsame : c'.message = none → (∀ event ∈ g, event.Idle) →
      ∃ g', g = g' ++ .unread c'.message ∧ ∀ event ∈ g', event.Idle := by
    intro hnone' hidle
    rw [hnone']
    exact ⟨g, (List.append_nil g).symm, hidle⟩
  cases hsettles with
  | messageRead => exact ⟨[], rfl, List.forall_mem_nil _⟩
  | flushedThenRead =>
      exact ⟨[.flushed (.ok (.ready ())), .flightExpected], rfl, by simp [Event.Idle]⟩
  | flushFailed | readFailed | flushedThenFailed | changeCipherSpecFailed =>
      exact hsame hnone (by simpa [Event.Idle] using hreport _)
  | _ => exact hsame hnone (by simp [Event.Idle])

namespace AuthFlow

open Endpoint

/-! ## The books -/

/-- The books of a flight between turns: all of `h` but a message still to be dealt with is `done`.
    A client's Finished that has been computed ahead covers the transcript as it is, and so does the
    signature that the signer has not finished. -/
structure Accounted (c₀ : Context) (phase : Phase) (c : Context) (h done : History) : Prop where
  history : h = done ++ .unread c.message
  judged : done.Each (fun g e _ => Judged c₀ c.session.peerKey done g e)
  unread : phase = .readCertificate ∨ c₀.role = .server ∧ sends phase → done.messagesRead = []
  asked : phase = .readCertificate ∨ phase = .readCertificateVerify →
    c₀.usesSavedFinished c₀.role = false
  saved : phase = .readFinished → c₀.usesSavedFinished c₀.role = true →
    ∃ mac, c.expectedClientFinished = some mac
      ∧ (c.transcript.hash, mac) ∈ done.macsOf c₀.role.peer
  signing : c.signaturePending = true → phase = .sendCertificateVerify
    ∧ done.AwaitsSignature (c.signatureInput c₀.role)

section Books

variable {c₀ c c' : Context} {phase phase' : Phase} {g h done : History} {o : Option Outcome}
  {signer? : Option SignerInfo} {turn : Turn} {e : Error} {m : Message}

/-- What is done is what is in the transcript. -/
theorem Accounted.hash (haccounted : Accounted c₀ phase c h done) (hlogged : Logged c₀ phase c h) :
    c.transcript.hash = c₀.digestAfter done := by
  refine hlogged.settings.hash (List.append_cancel_right (hlogged.transcript.trans ?_))
  rw [haccounted.history, History.log_append, History.log_unread, List.append_assoc]

theorem Accounted.done_eq (haccounted : Accounted c₀ phase c h done) (hnone : c.message = none) :
    h = done := by
  have hhistory := haccounted.history
  rw [hnone] at hhistory
  rw [hhistory]
  exact List.append_nil done

/-- Events that are judged are added to those that have been. -/
theorem judged_append {key? : Option PublicKey}
    (hdone : done.Each (fun a e _ => Judged c₀ key? done a e))
    (hg : g.Each (fun a e _ => Judged c₀ key? (done ++ g) (done ++ a) e)) :
    (done ++ g).Each (fun a e _ => Judged c₀ key? (done ++ g) a e) := by
  refine History.each_append.2 ⟨hdone.mono fun a e rest _ hjudged => hjudged.mono ?_, hg⟩
  intro mac hmem
  rw [History.macsOf_append]
  exact List.mem_append_left _ hmem

/-- What has been done while nothing was read is judged whatever the peer's key is. -/
theorem judged_rekey {key? key?' : Option PublicKey}
    (hdone : done.Each (fun a e _ => Judged c₀ key? done a e)) (hread : done.messagesRead = []) :
    done.Each (fun a e _ => Judged c₀ key?' done a e) := by
  refine hdone.mono fun a e rest hmem hjudged => hjudged.rekey ?_
  exact List.filterMap_eq_nil_iff.1 hread e hmem

/-- What an end asks of its signer, and the answer. -/
theorem Accounted.signed (haccounted : Accounted c₀ phase c h done) (scheme : SignatureScheme)
    (maxLength : Nat) (hrole : c.role = c₀.role) :
    History.AwaitsSignature (c.signatureInput c₀.role)
      (done ++ [c.signingEvent scheme maxLength .retry])
    ∧ ∀ signature, History.SignedOver (c.signatureInput c₀.role) signature
      (done ++ [c.signingEvent scheme maxLength (.success signature)]) := by
  simp only [Context.signingEvent, hrole]
  cases hpending : c.signaturePending with
  | true =>
      obtain ⟨_, hawaits⟩ := haccounted.signing hpending
      exact ⟨hawaits.append (by simp), fun signature => Or.inr ⟨_, _, rfl, hawaits⟩⟩
  | false =>
      exact ⟨⟨done, scheme, maxLength, [], rfl, by simp⟩,
        fun signature => Or.inl ⟨_, _, _, rfl⟩⟩

/-- The Finished that is queued has the MAC that has been computed right before. -/
theorem Accounted.covers_finished {mac message : Bytes}
    (haccounted : Accounted c₀ phase c h done) (hlogged : Logged c₀ phase c h)
    (hencode : Finished.encode mac = .ok message) :
    Covers c₀ (done ++ [.computedMac c.role c.transcript.hash (.ok mac)]) message := by
  rw [hlogged.settings.role, haccounted.hash hlogged]
  exact TlsHandshake.covers_finished hencode

/-- The CertificateVerify that is queued has the signature that the signer has just made. -/
theorem Accounted.covers_verify {scheme : SignatureScheme} {maxLength : Nat}
    {signature message : Bytes} (haccounted : Accounted c₀ phase c h done)
    (hlogged : Logged c₀ phase c h)
    (hencode : CertificateVerify.encode ⟨scheme, signature⟩ = .ok message) :
    Covers c₀ (done ++ [c.signingEvent scheme maxLength (.success signature)]) message := by
  refine covers_signature hencode ?_
  rw [digestAfter_append c₀ (by simp), ← haccounted.hash hlogged]
  exact (haccounted.signed scheme maxLength hlogged.settings.role).2 signature

theorem judged_signingEvent {key? : Option PublicKey} (scheme : SignatureScheme) (maxLength : Nat)
    (answer : SignResult) : Judged c₀ key? h g (c.signingEvent scheme maxLength answer) := by
  rw [Context.signingEvent]
  split <;> trivial

/-- What a turn does that goes on is judged by what came before it. -/
theorem Advance.judged (hadvance : Advance c₀.role signer? phase c g turn c')
    (haccounted : Accounted c₀ phase c h done) (hlogged : Logged c₀ phase c h)
    (key? : Option PublicKey) (h' : History) :
    g.Each (fun a e _ => Judged c₀ key? h' (h ++ a) e) := by
  cases hadvance with
  | certificateSent hencode =>
      rw [hlogged.settings.chainMessage] at hencode
      exact History.each_cons.2 ⟨covers_chain hencode, History.each_nil⟩
  | signatureDelayed => exact History.each_cons.2 ⟨judged_signingEvent _ _ _, History.each_nil⟩
  | signatureSent _ _ _ hencode =>
      obtain rfl := haccounted.done_eq (hlogged.message rfl)
      refine History.each_cons.2 ⟨judged_signingEvent _ _ _, History.each_cons.2 ⟨?_, ?_⟩⟩
      · exact haccounted.covers_verify hlogged hencode
      · exact History.each_nil
  | clientFinishedSent _ hencode | serverFinishedSent _ _ hencode
  | serverFinishedSaved _ _ hencode =>
      obtain rfl := haccounted.done_eq (hlogged.message rfl)
      refine History.each_cons.2 ⟨trivial, History.each_cons.2 ⟨?_, ?_⟩⟩
      · exact haccounted.covers_finished hlogged hencode
      · simp [Judged]
  | _ => simp [Judged]

/-- What a turn does that fails is judged by what came before it. -/
theorem Failure.judged (hfailure : Failure c₀.role signer? phase c g e c')
    (haccounted : Accounted c₀ phase c h done) (hlogged : Logged c₀ phase c h)
    (key? : Option PublicKey) (h' : History) :
    g.Each (fun a e _ => Judged c₀ key? h' (h ++ a) e) := by
  cases hfailure with
  | certificateUnqueued hencode =>
      rw [hlogged.settings.chainMessage] at hencode
      exact History.each_cons.2 ⟨covers_chain hencode, by simp [Judged]⟩
  | signatureFailed | signatureTooLong | signatureUnencodable =>
      exact History.each_cons.2 ⟨judged_signingEvent _ _ _, by simp [Judged]⟩
  | signatureUnqueued _ _ _ hencode =>
      obtain rfl := haccounted.done_eq (hlogged.message rfl)
      refine History.each_cons.2 ⟨judged_signingEvent _ _ _, History.each_cons.2 ⟨?_, ?_⟩⟩
      · exact haccounted.covers_verify hlogged hencode
      · simp [Judged]
  | finishedUnqueued hencode | savedFinishedUncomputable _ _ hencode =>
      obtain rfl := haccounted.done_eq (hlogged.message rfl)
      refine History.each_cons.2 ⟨trivial, History.each_cons.2 ⟨?_, ?_⟩⟩
      · exact haccounted.covers_finished hlogged hencode
      · simp [Judged]
  | _ => simp [Judged]

/-- What is computed for the peer's Finished covers what has been done. -/
theorem Accounted.mem_macsOf {mac : Bytes} (haccounted : Accounted c₀ phase c h done)
    (hlogged : Logged c₀ phase c h) (rest : History) :
    (c₀.digestAfter done, mac) ∈ History.macsOf c₀.role.peer
      (h ++ .computedMac c.role.peer c.transcript.hash (.ok mac) :: rest) := by
  rw [hlogged.settings.role, haccounted.hash hlogged]
  simp

/-- The Finished that has been computed ahead covers what has been done. -/
theorem Accounted.saved_mem_macsOf {mac : Bytes}
    (haccounted : Accounted c₀ .readFinished c h done) (hlogged : Logged c₀ .readFinished c h)
    (hsaved : c.usesSavedFinished c₀.role = true) (hmac : c.expectedClientFinished = some mac)
    (g : History) : (c₀.digestAfter done, mac) ∈ (h ++ g).macsOf c₀.role.peer := by
  rw [Context.usesSavedFinished, hlogged.settings.config] at hsaved
  obtain ⟨mac', hsome, hmem⟩ := haccounted.saved rfl hsaved
  obtain rfl : mac = mac' := Option.some.inj (hmac.symm.trans hsome)
  rw [← haccounted.hash hlogged, haccounted.history, History.macsOf_append, History.macsOf_append]
  exact List.mem_append_left _ (List.mem_append_left _ hmem)

/-- The message pending is accepted by a turn that goes on. -/
theorem Advance.accepts (hadvance : Advance c₀.role signer? phase c g turn c')
    (haccounted : Accounted c₀ phase c h done) (hlogged : Logged c₀ phase c h)
    (hmessage : c.message = some m) :
    Accepts c₀ c'.session.peerKey (h ++ g) done m := by
  cases hadvance with
  | chainAccepted hsome htype | anonymousAccepted hsome htype =>
      obtain rfl := Option.some.inj (hmessage.symm.trans hsome)
      exact .chain htype
  | signatureAccepted hsome htype hkey hdecode hpolicy hverify =>
      obtain rfl := Option.some.inj (hmessage.symm.trans hsome)
      rw [Context.signatureInput, haccounted.hash hlogged, hlogged.settings.role,
        hlogged.settings.config] at hverify
      rw [Context.accept_session]
      exact .signature htype hkey hdecode hverify
  | finishedAccepted hsome htype hsaved haccepts =>
      obtain rfl := Option.some.inj (hmessage.symm.trans hsome)
      rw [hlogged.settings.config] at haccepts
      exact .finished htype (haccounted.mem_macsOf hlogged []) haccepts
  | savedFinishedAccepted hsome htype hsaved hserver hmac haccepts =>
      obtain rfl := Option.some.inj (hmessage.symm.trans hsome)
      rw [hlogged.settings.config] at haccepts
      exact .finished htype (haccounted.saved_mem_macsOf hlogged hsaved hmac []) haccepts
  | awaiting _ hnone => cases hmessage.symm.trans hnone
  | _ => cases hmessage.symm.trans (hlogged.message rfl)

/-- The message pending is refused by a turn that fails. -/
theorem Failure.refuses (hfailure : Failure c₀.role signer? phase c g e c')
    (haccounted : Accounted c₀ phase c h done) (hlogged : Logged c₀ phase c h)
    (hmessage : c.message = some m) :
    Refuses c₀ c'.session.peerKey (h ++ g) done m g := by
  cases hfailure with
  | outOfOrder => exact .outOfPlace rfl
  | chainUndecodable hsome htype | chainRefused hsome htype | anonymousRefused hsome htype =>
      obtain rfl := Option.some.inj (hmessage.symm.trans hsome)
      exact .chain htype rfl
  | keyMissing hsome htype hkey =>
      obtain rfl := Option.some.inj (hmessage.symm.trans hsome)
      exact .keyMissing htype hkey rfl
  | verifyUndecodable hsome htype _ hdecode =>
      obtain rfl := Option.some.inj (hmessage.symm.trans hsome)
      exact .undecodable htype hdecode rfl
  | schemeRefused hsome htype _ hdecode hpolicy =>
      obtain rfl := Option.some.inj (hmessage.symm.trans hsome)
      rw [hlogged.settings.config] at hpolicy
      exact .scheme htype hdecode hpolicy rfl
  | signatureRefused hsome htype hkey hdecode _ hverify =>
      obtain rfl := Option.some.inj (hmessage.symm.trans hsome)
      rw [Context.signatureInput, haccounted.hash hlogged, hlogged.settings.role] at hverify
      exact .signature htype hkey hdecode hverify rfl
  | savedFinishedMissing hsome htype hsaved hmissing =>
      rw [Context.usesSavedFinished, hlogged.settings.config] at hsaved
      obtain ⟨mac, hmac, _⟩ := haccounted.saved rfl hsaved
      rcases hmissing with hclient | hnone
      · rw [Context.isServer, hlogged.settings.role] at hclient
        cases hrole : c₀.role with
        | client =>
            rw [hrole] at hsaved
            cases hsaved
        | server =>
            rw [hrole] at hclient
            cases hclient
      · cases hmac.symm.trans hnone
  | savedFinishedRefused hsome htype hsaved _ hmac hbody =>
      obtain rfl := Option.some.inj (hmessage.symm.trans hsome)
      exact .finished htype (haccounted.saved_mem_macsOf hlogged hsaved hmac _) hbody rfl
  | peerFinishedUncomputable hsome htype =>
      obtain rfl := Option.some.inj (hmessage.symm.trans hsome)
      rw [hlogged.settings.role, haccounted.hash hlogged]
      exact .uncomputable htype rfl
  | finishedRefused hsome htype _ hbody =>
      obtain rfl := Option.some.inj (hmessage.symm.trans hsome)
      exact .finished htype (haccounted.mem_macsOf hlogged _) hbody rfl
  | _ => cases hmessage.symm.trans (hlogged.message rfl)

/-- Only a chain changes the peer's key. -/
theorem Advance.peerKey (hadvance : Advance c₀.role signer? phase c g turn c') :
    c'.session.peerKey = c.session.peerKey ∨ phase = .readCertificate := by
  cases hadvance with
  | chainAccepted | anonymousAccepted => exact Or.inr rfl
  | signatureAccepted | finishedAccepted | savedFinishedAccepted =>
      rw [Context.accept_session]
      exact Or.inl rfl
  | _ => exact Or.inl rfl

theorem Failure.peerKey (hfailure : Failure c₀.role signer? phase c g e c') :
    c'.session.peerKey = c.session.peerKey ∨ phase = .readCertificate := by
  cases hfailure with
  | chainRefused | anonymousRefused => exact Or.inr rfl
  | _ => exact Or.inl rfl

/-- What has been done is judged by the new key as well. -/
theorem Accounted.judged_of_peerKey (haccounted : Accounted c₀ phase c h done)
    (hkey : c'.session.peerKey = c.session.peerKey ∨ phase = .readCertificate) :
    done.Each (fun a e _ => Judged c₀ c'.session.peerKey done a e) := by
  rcases hkey with hsame | hphase
  · rw [hsame]
    exact haccounted.judged
  · exact judged_rekey haccounted.judged (haccounted.unread (Or.inl hphase))

theorem Accounted.judged_advance (haccounted : Accounted c₀ phase c h done)
    (hlogged : Logged c₀ phase c h) (hadvance : Advance c₀.role signer? phase c g turn c') :
    (h ++ g).Each (fun a e _ => Judged c₀ c'.session.peerKey (h ++ g) a e) := by
  have hrest := hadvance.judged haccounted hlogged c'.session.peerKey (h ++ g)
  have hhistory : h ++ g = done ++ (.unread c.message ++ g) := by
    rw [haccounted.history, List.append_assoc]
  have haccepts : (History.unread c.message).Each
      (fun a e _ => Judged c₀ c'.session.peerKey (h ++ g) (done ++ a) e) := by
    cases hmessage : c.message with
    | none => exact History.each_nil
    | some m =>
        refine History.each_cons.2 ⟨?_, History.each_nil⟩
        rw [List.append_nil]
        exact hadvance.accepts haccounted hlogged hmessage
  rw [hhistory] at haccepts ⊢
  refine judged_append (haccounted.judged_of_peerKey hadvance.peerKey)
    (History.each_append.2 ⟨haccepts, ?_⟩)
  rw [hhistory, haccounted.history] at hrest
  simpa only [List.append_assoc] using hrest

/-- Once a flight has failed everything is told, with the message that it has failed at. -/
theorem Accounted.told_of_failure (haccounted : Accounted c₀ phase c h done)
    (hlogged : Logged c₀ phase c h) (hfailure : Failure c₀.role signer? phase c g e c') :
    (h ++ g).Each (Told c₀ c'.session.peerKey (h ++ g)) := by
  have hrest := hfailure.judged haccounted hlogged c'.session.peerKey (h ++ g)
  have hhistory : h ++ g = done ++ (.unread c.message ++ g) := by
    rw [haccounted.history, List.append_assoc]
  have hdone := haccounted.judged_of_peerKey hfailure.peerKey
  have hmacs : ∀ mac ∈ done.macsOf c₀.role.peer, mac ∈ (h ++ g).macsOf c₀.role.peer := by
    intro mac hmem
    rw [hhistory, History.macsOf_append]
    exact List.mem_append_left _ hmem
  have hrefuses : (History.unread c.message).Each (fun a e rest =>
      Told c₀ c'.session.peerKey (h ++ g) (done ++ a) e (rest ++ g)) := by
    cases hmessage : c.message with
    | none => exact History.each_nil
    | some m =>
        refine History.each_cons.2 ⟨Or.inr ?_, History.each_nil⟩
        rw [List.append_nil]
        exact hfailure.refuses haccounted hlogged hmessage
  have heach : (done ++ (.unread c.message ++ g)).Each
      (Told c₀ c'.session.peerKey (h ++ g)) := by
    refine History.each_append.2 ⟨?_, History.each_append.2 ⟨hrefuses, ?_⟩⟩
    · exact hdone.mono fun a e rest _ hjudged => (hjudged.mono hmacs).told
    · refine hrest.mono fun a e rest _ hjudged => ?_
      have hsplit : h ++ a = done ++ (.unread c.message ++ a) := by
        rw [haccounted.history, List.append_assoc]
      rw [hsplit] at hjudged
      exact hjudged.told
  rwa [← hhistory] at heach

/-- As long as an end has not failed, all it has read has been accepted. -/
theorem Accounted.told (haccounted : Accounted c₀ phase c h done) (hnone : c.message = none) :
    h.Each (Told c₀ c.session.peerKey h) := by
  obtain rfl := haccounted.done_eq hnone
  exact haccounted.judged.mono fun a e rest _ hjudged => hjudged.told

/-! ### Turns that go on -/

theorem expected?_afterFinished (role : Role) (c : Context) :
    expected? (afterFinished role c) = none := by
  cases role with
  | server => rfl
  | client =>
      rw [afterFinished]
      split <;> rfl

/-- A turn leads to a phase before all reading only from such a phase. -/
theorem Advance.unread (hadvance : Advance c₀.role signer? phase c g turn c')
    (hphase : turn.phase = .readCertificate ∨ c₀.role = .server ∧ sends turn.phase) :
    (phase = .readCertificate ∨ c₀.role = .server ∧ sends phase)
    ∧ (expected? phase = none ∨ c.message = none) := by
  cases hadvance with
  | certificateSent =>
      rcases hphase with h | ⟨hrole, _⟩
      · change (if _ then Phase.sendFinished else .sendCertificateVerify) = _ at h
        split at h <;> cases h
      · exact ⟨Or.inr ⟨hrole, Or.inl rfl⟩, Or.inl rfl⟩
  | signatureDelayed | signatureSent =>
      rcases hphase with h | ⟨hrole, _⟩
      · cases h
      · exact ⟨Or.inr ⟨hrole, Or.inr (Or.inl rfl)⟩, Or.inl rfl⟩
  | serverFinishedSent hrole | serverFinishedSaved hrole =>
      exact ⟨Or.inr ⟨hrole, Or.inr (Or.inr rfl)⟩, Or.inl rfl⟩
  | awaiting _ hnone => exact ⟨hphase, Or.inr hnone⟩
  | finishedAccepted | savedFinishedAccepted =>
      rcases hphase with h | ⟨hrole, h⟩
      · have hnone := expected?_afterFinished c₀.role c
        rw [show afterFinished c₀.role c = .readCertificate from h] at hnone
        cases hnone
      · rw [hrole] at h
        rcases h with h | h | h <;> cases h
  | _ => rcases hphase with h | ⟨_, h | h | h⟩ <;> cases h

/-- A server only comes to read a chain if it asks for one. -/
theorem Advance.asked (hadvance : Advance c₀.role signer? phase c g turn c')
    (hsettings : c₀.SameSettings c)
    (hphase : turn.phase = .readCertificate ∨ turn.phase = .readCertificateVerify) :
    (phase = .readCertificate ∨ phase = .readCertificateVerify)
    ∨ c₀.usesSavedFinished c₀.role = false := by
  cases hadvance with
  | certificateSent =>
      change (if _ then Phase.sendFinished else .sendCertificateVerify) = _
        ∨ (if _ then Phase.sendFinished else .sendCertificateVerify) = _ at hphase
      split at hphase <;> rcases hphase with h | h <;> cases h
  | serverFinishedSent _ hverify =>
      rw [hsettings.config] at hverify
      rw [Context.usesSavedFinished, hverify, Bool.not_true, Bool.and_false]
      exact Or.inr rfl
  | awaiting => exact Or.inl hphase
  | chainAccepted => exact Or.inl (Or.inl rfl)
  | finishedAccepted | savedFinishedAccepted =>
      have hnone := expected?_afterFinished c₀.role c
      rcases hphase with h | h <;> rw [show afterFinished c₀.role c = _ from h] at hnone <;>
        cases hnone
  | _ => rcases hphase with h | h <;> cases h

theorem Accounted.saved_advance (haccounted : Accounted c₀ phase c h done)
    (hadvance : Advance c₀.role signer? phase c g turn c') (hphase : turn.phase = .readFinished)
    (hsaved : c₀.usesSavedFinished c₀.role = true) :
    ∃ mac, c'.expectedClientFinished = some mac
      ∧ (c'.transcript.hash, mac) ∈ (h ++ g).macsOf c₀.role.peer := by
  cases hadvance with
  | serverFinishedSaved hrole =>
      refine ⟨_, rfl, ?_⟩
      rw [hrole, History.macsOf_append]
      refine List.mem_append_right _ ?_
      simp [Role.peer]
  | awaiting _ hnone =>
      obtain ⟨mac, hmac, hmem⟩ := haccounted.saved hphase hsaved
      rw [haccounted.done_eq hnone, List.append_nil]
      exact ⟨mac, hmac, hmem⟩
  | anonymousAccepted => cases hsaved.symm.trans (haccounted.asked (Or.inl rfl))
  | signatureAccepted => cases hsaved.symm.trans (haccounted.asked (Or.inr rfl))
  | certificateSent =>
      change (if _ then Phase.sendFinished else .sendCertificateVerify) = _ at hphase
      split at hphase <;> cases hphase
  | finishedAccepted | savedFinishedAccepted =>
      have hnone := expected?_afterFinished c₀.role c
      rw [show afterFinished c₀.role c = _ from hphase] at hnone
      cases hnone
  | _ => cases hphase

theorem Accounted.signing_advance (haccounted : Accounted c₀ phase c h done)
    (hlogged : Logged c₀ phase c h) (hadvance : Advance c₀.role signer? phase c g turn c')
    (hpending : c'.signaturePending = true) :
    turn.phase = .sendCertificateVerify
    ∧ (h ++ g).AwaitsSignature (c'.signatureInput c₀.role) := by
  by_cases hphase : phase = .sendCertificateVerify
  · subst hphase
    cases hadvance with
    | signatureDelayed =>
        rw [haccounted.done_eq (hlogged.message rfl)]
        exact ⟨rfl, (haccounted.signed _ _ hlogged.settings.role).1⟩
    | signatureSent => cases hpending
    | awaiting hexpected => cases hexpected
  · rw [(hadvance.unsigned hphase).2] at hpending
    exact absurd (haccounted.signing hpending).1 hphase

theorem Accounted.advance (haccounted : Accounted c₀ phase c h done)
    (hlogged : Logged c₀ phase c h) (hadvance : Advance c₀.role signer? phase c g turn c') :
    Accounted c₀ turn.phase c' (h ++ g) (h ++ g) where
  history := by
    rw [(hlogged.advance hadvance).2]
    exact (List.append_nil _).symm
  judged := haccounted.judged_advance hlogged hadvance
  unread := by
    intro hphase
    obtain ⟨hphase', hnone⟩ := hadvance.unread hphase
    have hnone' : c.message = none := by
      rcases hnone with hexpected | hnone
      · exact hlogged.message hexpected
      · exact hnone
    rw [haccounted.done_eq hnone', History.messagesRead_append, haccounted.unread hphase',
      hadvance.ofTurn.messagesRead]
    rfl
  asked := by
    intro hphase
    rcases hadvance.asked hlogged.settings hphase with hphase' | hsaved
    · exact haccounted.asked hphase'
    · exact hsaved
  saved := haccounted.saved_advance hadvance
  signing := haccounted.signing_advance hlogged hadvance

/-! ### Waits -/

/-- What is idle changes nothing in the books. -/
theorem Accounted.idle (haccounted : Accounted c₀ phase c h done) (hnone : c.message = none)
    (hsame : c.SameFlight c') (hidle : ∀ event ∈ g, event.Idle) :
    Accounted c₀ phase c' (h ++ (g ++ .unread c'.message)) (h ++ g) := by
  obtain rfl := haccounted.done_eq hnone
  have hread : g.messagesRead = [] := by
    refine List.filterMap_eq_nil_iff.2 fun event hmem => ?_
    have hevent := hidle event hmem
    cases event with
    | read answer => rcases answer with _ | _ | _ <;> first | rfl | exact hevent.elim
    | _ => rfl
  exact
    { history := (List.append_assoc _ _ _).symm
      judged := by
        rw [hsame.session]
        refine judged_append haccounted.judged (History.each_of_forall fun event hmem a _ => ?_)
        have hevent := hidle event hmem
        cases event with
        | read answer => rcases answer with _ | _ | _ <;> trivial
        | queued => exact hevent.elim
        | _ => trivial
      unread := by
        intro hphase
        rw [History.messagesRead_append, haccounted.unread hphase, hread]
        rfl
      asked := haccounted.asked
      saved := by
        intro hphase hsaved
        obtain ⟨mac, hmac, hmem⟩ := haccounted.saved hphase hsaved
        rw [hsame.expectedClientFinished, hsame.transcript, History.macsOf_append]
        exact ⟨mac, hmac, List.mem_append_left _ hmem⟩
      signing := by
        intro hpending
        rw [hsame.signaturePending] at hpending
        obtain ⟨hphase, hawaits⟩ := haccounted.signing hpending
        rw [Context.signatureInput, hsame.transcript]
        exact ⟨hphase, hawaits.append fun _ _ _ _ hmem => hidle _ hmem⟩ }

end Books

/-- All that a flight does keeps the books. -/
theorem booksInvariant (c₀ : Context) : Invariant c₀
    (fun phase c h => ∃ done, Accounted c₀ phase c h done)
    (fun phase c h => ∃ done, Accounted c₀ phase c h done)
    (fun s h => h.Each (Told c₀ s.peerKey h)) where
  ended := by
    rintro phase c h hpaused ⟨done, haccounted⟩
    exact haccounted.told hpaused.settled
  rests := by
    rintro phase c c' h hpaused ⟨done, haccounted⟩ hrests _
    have hnone : c'.message = none := by
      rcases hrests.message with hsame | hnone
      · exact hsame.trans hpaused.settled
      · exact hnone
    have hidle := haccounted.idle (g := []) hpaused.settled hrests.same (List.forall_mem_nil _)
    rw [hnone, History.unread_none, List.append_nil, List.append_nil] at hidle
    exact ⟨h, hidle⟩
  suspend := by
    rintro phase c c' g h outcome hpaused ⟨done, haccounted⟩ hsettles
    obtain ⟨g', hg, hidle⟩ := hsettles.unread_last hpaused.settled
    have haccounted' := haccounted.idle hpaused.settled hsettles.sameFlight hidle
    rw [← hg] at haccounted'
    have hsettled := hsettles.message_of_some.trans hpaused.settled
    exact ⟨haccounted'.told hsettled, fun _ => ⟨_, haccounted'⟩⟩
  settle := by
    rintro phase c c' g h hpaused ⟨done, haccounted⟩ hsettles
    obtain ⟨g', rfl, hidle⟩ := hsettles.unread_last hpaused.settled
    exact ⟨_, haccounted.idle hpaused.settled hsettles.sameFlight hidle⟩
  next := by
    rintro phase phase' c c' g h signer? hlogged ⟨done, haccounted⟩ hadvance
    exact ⟨_, haccounted.advance hlogged hadvance⟩
  wait := by
    rintro phase phase' c c' g h signer? wait hlogged ⟨done, haccounted⟩ hadvance
    have hnext := haccounted.advance hlogged hadvance
    exact ⟨_, { hnext with }⟩
  fail := by
    rintro phase c c' g h signer? e hlogged ⟨done, haccounted⟩ hfailure
    exact haccounted.told_of_failure hlogged hfailure

end AuthFlow

/-! ## Runs -/

namespace Connection

open AuthFlow

variable {ε : Type} [Environment ε]

omit [Environment ε] in
theorem Fresh.accounted {c : Connection ε} (hfresh : c.Fresh)
    (hpending : c.endpoint.context.signaturePending = false) :
    Accounted c.endpoint.context c.flow.phase c.endpoint.context [] [] where
  history := by
    rw [hfresh.message]
    rfl
  judged := History.each_nil
  unread _ := rfl
  asked := by
    intro hphase
    cases hrole : c.endpoint.context.role with
    | client => rfl
    | server =>
        rw [hfresh.flow, hrole] at hphase
        rcases hphase with h | h <;> cases h
  saved := by
    intro hphase
    rw [hfresh.flow] at hphase
    cases hrole : c.endpoint.context.role <;> rw [hrole] at hphase <;> cases hphase
  signing := by
    intro hpending'
    cases hpending.symm.trans hpending'

/-- Until the handshake has succeeded nothing but `handshake` reads or queues a message. -/
theorem log_of_incomplete (c : Connection ε) {call : Call} (hcall : call ≠ .handshake)
    (hcomplete : c.complete = false) : (c.history [call]).log = [] := by
  obtain ⟨c', hcalled, _⟩ := history_called c call
  generalize c.history [call] = h at hcalled ⊢
  generalize (c.call call).1 = answer at hcalled
  cases hcalled with
  | handshake => exact absurd rfl hcall
  | processed hdone => cases hcomplete.symm.trans hdone
  | keyUpdateStarted hdone => cases hcomplete.symm.trans hdone
  | _ => rfl

/-- The transcript is the log. Whenever a call of `handshake` does not fail, the transcript is what it
    was at first and then all messages read and queued by the calls of `handshake`, in the order in
    which they were handled; no message is left to be dealt with, and every one that was read has been
    accepted. Before the handshake has succeeded the other calls neither read nor queue anything. In
    every run, whether it fails or not, every Finished and CertificateVerify that is queued covers the
    transcript right before it, and so does every one that is read and has a MAC or a signature
    checked. -/
theorem transcript_is_log {c : Connection ε} (hfresh : c.Fresh)
    (hpending : c.endpoint.context.signaturePending = false) (calls : List Call) :
    let start := c.endpoint.context
    let h := c.handshakeHistory (calls ++ [.handshake])
    let outcome := (c.run calls).2.handshake.1
    let after := (c.run calls).2.handshake.2.endpoint.context
    ((∀ e, outcome ≠ .fatal e) → after.transcript.bytes = start.transcript.bytes ++ h.log
      ∧ after.message = none
      ∧ ∀ (g : History) m rest, h = g ++ .read (.ok (.ready m)) :: rest →
        Accepts start after.session.peerKey h g m)
    ∧ ((c.run calls).2.complete = false → ∀ call, call ≠ .handshake →
      ((c.run calls).2.history [call]).log = [])
    ∧ (∀ (g : History) m answer rest, h = g ++ .queued m answer :: rest → Covers start g m)
    ∧ ∀ (g : History) m rest, h = g ++ .read (.ok (.ready m)) :: rest →
      Accepts start after.session.peerKey h g m ∨ Refuses start after.session.peerKey h g m rest := by
  intro start h outcome after
  have hrested := hfresh.rested (booksInvariant start) ⟨[], hfresh.accounted hpending⟩
    (calls ++ [.handshake])
  rw [run_append] at hrested
  change Rested start _ _ _ after h at hrested
  have htold : h.Each (Told start after.session.peerKey h) := hrested.ended (booksInvariant start)
  refine ⟨fun hfatal => ?_, fun hcomplete call hcall => log_of_incomplete _ hcall hcomplete,
    fun g m answer rest heq => htold g (.queued m answer) rest heq,
    fun g m rest heq => htold g (.read (.ok (.ready m))) rest heq⟩
  cases hrested with
  | failed hwait => exact absurd hwait (handshake_wait_ne_error _ hfatal)
  | live _ hpaused hlive =>
      obtain ⟨done, haccounted⟩ := hlive
      refine ⟨hpaused.transcript_of_none hpaused.settled, hpaused.settled, fun g m rest heq => ?_⟩
      have hjudged := haccounted.judged
      rw [← haccounted.done_eq hpaused.settled] at hjudged
      exact hjudged g (.read (.ok (.ready m))) rest heq

set_option maxRecDepth 100000 in
/-- The transcript of a server without a chain that waits for its client's Finished. -/
theorem bareServer_is_logged :
    let server := Rehearsal.bareServer []
    let h := server.handshakeHistory [.handshake]
    let after := server.handshake.2.endpoint.context
    after.transcript.bytes = h.log ∧ after.message = none
    ∧ ∀ (g : History) m answer rest, h = g ++ .queued m answer :: rest →
      Covers server.endpoint.context g m :=
  have hfresh : (Rehearsal.bareServer []).Fresh :=
    ⟨rfl, rfl, (fun h => by rcases h with h | h <;> cases h), rfl⟩
  have houtcome : (Rehearsal.bareServer []).handshake.1 = .needsIo .read := by decide +kernel
  have hlogged := transcript_is_log hfresh rfl []
  have hlive := hlogged.1 fun e h => nomatch houtcome.symm.trans h
  ⟨hlive.1, hlive.2.1, hlogged.2.2.1⟩

end Connection

end TlsHandshake
