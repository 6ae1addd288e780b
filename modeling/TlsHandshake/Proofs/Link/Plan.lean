import TlsHandshake.Proofs.Codec
import TlsHandshake.Proofs.Link.Linked
import TlsHandshake.Proofs.Link.Stations

set_option autoImplicit false

/-! # What two honest ends say

Two ends that suit each other, with signers that sign, have only one way to shake hands. `Plan`
says what an end sends and what it hears on that way, and why it can. Main statement:
`Pair.Compatible.plans`, the two ends of a compatible pair have matching plans if their chain hooks
keep the peer that they see. -/

namespace TlsHandshake

variable {σ τ : Type} [SigningDevice σ]

/-! ## Signers that sign -/

/-- Asked as `ask` says, a signer puts off its answer `retries` times and then gives `signature`. What
    it says of itself stays `info`. -/
inductive Gives (info : SignerInfo) (signature : Bytes) :
    (ask : σ → SignResult × σ) → (retries : Nat) → σ → Prop
  | now {ask : σ → SignResult × σ} {s s' : σ} (hinfo : SigningDevice.info s = info)
      (hask : ask s = (.success signature, s')) : Gives info signature ask 0 s
  | later {ask : σ → SignResult × σ} {retries : Nat} {s s' : σ}
      (hinfo : SigningDevice.info s = info) (hask : ask s = (.retry, s'))
      (hrest : Gives info signature (SigningDevice.complete info.maxLength) retries s') :
      Gives info signature ask (retries + 1) s

theorem Gives.info_eq {info : SignerInfo} {signature : Bytes} {ask : σ → SignResult × σ}
    {retries : Nat} {s : σ} (hgives : Gives info signature ask retries s) :
    SigningDevice.info s = info := by
  cases hgives <;> assumption

/-- A signer that is asked gives one signature. -/
theorem Gives.unique {info info' : SignerInfo} {signature signature' : Bytes}
    {ask : σ → SignResult × σ} {retries retries' : Nat} {s : σ}
    (hgives : Gives info signature ask retries s) (hgives' : Gives info' signature' ask retries' s) :
    signature = signature' := by
  induction hgives generalizing retries' with
  | now _ hask =>
      cases hgives' with
      | now _ hask' =>
          cases hask.symm.trans hask'
          rfl
      | later _ hask' => cases hask.symm.trans hask'
  | later hinfo hask _ ih =>
      cases hgives' with
      | now _ hask' => cases hask.symm.trans hask'
      | later hinfo' hask' hrest' =>
          obtain ⟨_, rfl⟩ := Prod.mk.inj (hask.symm.trans hask')
          obtain rfl := hinfo.symm.trans hinfo'
          exact ih hrest'

namespace Context

/-- An end whose signer is asked as `ask` says obtains `verify` after some retries: its policy chooses
    the scheme, and the signature is neither longer than its signer says nor than its field. -/
structure Obtains (c : Context) (signer : Option σ)
    (ask : SignatureScheme → (maxLength : Nat) → σ → SignResult × σ) (retries : Nat)
    (verify : CertificateVerify) : Prop where
  signer : ∃ s info, signer = some s
    ∧ Gives info verify.signature (ask verify.scheme info.maxLength) retries s
    ∧ c.config.signaturePolicy.choose? info.schemes c.peerSchemes = some verify.scheme
    ∧ verify.signature.length ≤ info.maxLength
  length : verify.signature.length ≤ 65535

/-- An end obtains one signature. -/
theorem Obtains.unique {c : Context} {signer : Option σ}
    {ask : SignatureScheme → (maxLength : Nat) → σ → SignResult × σ} {retries retries' : Nat}
    {verify verify' : CertificateVerify} (hobtains : c.Obtains signer ask retries verify)
    (hobtains' : c.Obtains signer ask retries' verify') : verify = verify' := by
  obtain ⟨⟨s, info, rfl, hgives, hscheme, _⟩, _⟩ := hobtains
  obtain ⟨⟨s', info', hsome, hgives', hscheme', _⟩, _⟩ := hobtains'
  obtain rfl := Option.some.inj hsome
  obtain rfl := hgives.info_eq.symm.trans hgives'.info_eq
  have hsame := Option.some.inj (hscheme.symm.trans hscheme')
  rw [← hsame] at hgives'
  cases verify
  cases verify'
  obtain rfl := hsame
  exact congrArg (CertificateVerify.mk _) (hgives.unique hgives')

/-- An end that asks its signer to sign a transcript of `bytes` obtains `verify`. -/
def Signs (c : Context) (signer : Option σ) (bytes : Bytes) (retries : Nat)
    (verify : CertificateVerify) : Prop :=
  c.Obtains signer (fun scheme maxLength => SigningDevice.sign scheme
    (TlsHandshake.signatureInput (c.digest bytes) (.ofRole c.role)) maxLength) retries verify

/-! ## Flights -/

/-- Whether an end shows its chain: a server does, and a client if it is asked to. -/
def ShowsChain (c : Context) : Prop := c.role = .client → c.certificateRequested = true

/-- What an end shows of itself if its flight comes after `before` in the transcript, and how many
    times its signer puts it off. -/
inductive Shows (c : Context) (signer : Option σ) (before : Bytes) :
    (retries : Nat) → List Bytes → Prop
  | unasked (hrole : c.role = .client) (hrequested : c.certificateRequested = false) :
      Shows c signer before 0 []
  | bare {m : Bytes} (hshows : c.ShowsChain) (hencode : c.chainMessage = .ok m)
      (hchain : c.config.certificateChain = []) : Shows c signer before 0 [m]
  | signed {retries : Nat} {m v : Bytes} {verify : CertificateVerify} (hshows : c.ShowsChain)
      (hencode : c.chainMessage = .ok m) (hchain : c.config.certificateChain ≠ [])
      (hsigns : c.Signs signer (before ++ m) retries verify)
      (hverify : CertificateVerify.encode verify = .ok v) : Shows c signer before retries [m, v]

/-- The chain hook is content with the session that a chain makes. -/
def AcceptsChain (c : Context) (chain : CertificateChain) : Prop :=
  (c.hooked (c.withChain chain)).1 = .ok ()

/-- What convinces an end if it comes after `before` in the transcript. -/
inductive Trusts (c : Context) (before : Bytes) : List Bytes → Prop
  | unasked (hsaved : c.usesSavedFinished c.role = true) : Trusts c before []
  | anonymous {m body : Bytes} {chain : CertificateChain}
      (hsaved : c.usesSavedFinished c.role = false) (hframe : frame .certificate body = .ok m)
      (hdecode : CertificateChain.decode c.certificateRules body = .ok chain)
      (hempty : chain.certificates = []) (hallowed : c.allowsAnonymous c.role = true)
      (haccepts : c.AcceptsChain chain) : Trusts c before [m]
  | authenticated {m v body : Bytes} {chain : CertificateChain} {key : PublicKey}
      {verify : CertificateVerify} (hsaved : c.usesSavedFinished c.role = false)
      (hframe : frame .certificate body = .ok m)
      (hdecode : CertificateChain.decode c.certificateRules body = .ok chain)
      (hsome : chain.certificates ≠ []) (hkey : chain.leafKey = some key)
      (hencode : CertificateVerify.encode verify = .ok v)
      (hpolicy : c.config.signaturePolicy.refusal? verify.scheme = none)
      (hverify : key.verify verify.scheme
        (TlsHandshake.signatureInput (c.digest (before ++ m)) (.ofRole c.role.peer))
        verify.signature = .ok true)
      (haccepts : c.AcceptsChain chain) : Trusts c before [m, v]

/-- A flight that comes after `before` in the transcript is what has been shown and Finished. -/
def Concludes (c : Context) (mac : Role → Bytes → Bytes) (sender : Role) (before : Bytes)
    (shown flight : List Bytes) : Prop :=
  ∃ f, Finished.encode (mac sender (c.digest (before ++ shown.flatten))) = .ok f
    ∧ flight = shown ++ [f]

/-- The bytes of the transcript before the own flight, if `theirs` is the peer's. -/
def ownStart (c : Context) (theirs : List Bytes) : Bytes :=
  match c.role with
  | .server => c.transcript.bytes
  | .client => c.transcript.bytes ++ theirs.flatten

end Context

/-- What an end sends and what it hears when all goes well, with its context and its signer before it
    begins, the MACs of both ends, and how many times its signer puts it off. -/
structure Plan (σ : Type) [SigningDevice σ] where
  start : Context
  signer : Option σ
  mac : Role → Bytes → Bytes
  retries : Nat
  own : List Bytes
  theirs : List Bytes
  keeps : start.config.KeepsPeer
  shows : ∃ shown, start.Shows signer (start.ownStart theirs) retries shown
    ∧ start.Concludes mac start.role (start.ownStart theirs) shown own
  trusts : ∃ shown, start.Trusts (start.beforePeer own) shown
    ∧ start.Concludes mac start.role.peer (start.beforePeer own) shown theirs

/-- A plan for one side of a pair. -/
structure Plan.For (plan : Plan σ) (pair : Pair (Station FinishedKeys σ τ)) (r : Role) :
    Prop where
  start : plan.start = (pair.side r).endpoint.context
  signer : plan.signer = (pair.side r).endpoint.environment.signer
  mac : plan.mac = (pair.side r).endpoint.environment.keys.mac

/-! ## Compatible pairs -/

namespace Pair

/-- The context of one side. -/
abbrev context (pair : Pair (Station FinishedKeys σ τ)) (r : Role) : Context :=
  (pair.side r).endpoint.context

/-- The signer of one side. -/
abbrev signer? (pair : Pair (Station FinishedKeys σ τ)) (r : Role) : Option σ :=
  (pair.side r).endpoint.environment.signer

/-- The chain that one side shows, as the other side reads it. -/
def Reads (pair : Pair (Station FinishedKeys σ τ)) (r : Role) (chain : CertificateChain) : Prop :=
  ∃ body m, (pair.context r).chainMessage = .ok m ∧ frame .certificate body = .ok m
    ∧ CertificateChain.decode (pair.context r.peer).certificateRules body = .ok chain

/-- The transcripts that the sides sign: the server's up to its own chain, the client's up to its own
    chain after the whole flight of the server. -/
inductive Signed (pair : Pair (Station FinishedKeys σ τ)) : Role → Bytes → Prop
  | server {m : Bytes} (hencode : (pair.context .server).chainMessage = .ok m) :
      Signed pair .server ((pair.context .server).transcript.bytes ++ m)
  | client {bytes v f m : Bytes} {retries : Nat} {verify : CertificateVerify}
      (hserver : Signed pair .server bytes)
      (hsigns : (pair.context .server).Signs (pair.signer? .server) bytes retries verify)
      (hverify : CertificateVerify.encode verify = .ok v)
      (hfinished : Finished.encode ((pair.side .server).endpoint.environment.keys.mac .server
        ((pair.context .server).digest (bytes ++ v))) = .ok f)
      (hencode : (pair.context .client).chainMessage = .ok m) :
      Signed pair .client (bytes ++ v ++ f ++ m)

/-- Two ends that suit each other. They have the same hash and the same keys; the server has a chain;
    the client is asked for one exactly if it is told so, and has one unless it may do without; each
    chain that is shown is read by the other side and accepted by its chain hook, if there is one; and
    each signer that has to sign does so, after some retries, under a scheme that the other side accepts
    and with a signature that the shown leaf's key verifies. -/
structure Compatible (pair : Pair (Station FinishedKeys σ τ)) : Prop where
  wait (r : Role) : (pair.context r).wait = .ok
  signaturePending (r : Role) : (pair.context r).signaturePending = false
  algorithm : (pair.context .server).transcript.algorithm
    = (pair.context .client).transcript.algorithm
  keys : (pair.side .server).endpoint.environment.keys.mac
    = (pair.side .client).endpoint.environment.keys.mac
  serverChain : (pair.context .server).config.certificateChain ≠ []
  requested : (pair.context .client).certificateRequested
    = (pair.context .server).config.verifyClient
  clientChain : (pair.context .client).config.certificateChain = [] →
    (pair.context .server).config.requireClient = false
  chain (r : Role) : (pair.context r).ShowsChain → ∃ chain, pair.Reads r chain
  accepts (r : Role) {chain : CertificateChain} : (pair.context r).ShowsChain →
    pair.Reads r chain → (pair.context r.peer).AcceptsChain chain
  signature (r : Role) {bytes : Bytes} : (pair.context r).ShowsChain →
    (pair.context r).config.certificateChain ≠ [] → pair.Signed r bytes →
      ∃ retries verify, (pair.context r).Signs (pair.signer? r) bytes retries verify
        ∧ (pair.context r.peer).config.signaturePolicy.refusal? verify.scheme = none
        ∧ ∀ chain key, pair.Reads r chain → chain.leafKey = some key →
          key.verify verify.scheme
            (signatureInput ((pair.context r).digest bytes) (.ofRole r)) verify.signature = .ok true

namespace Compatible

variable {pair : Pair (Station FinishedKeys σ τ)}

theorem digest_eq (hcompatible : pair.Compatible) (r : Role) (bytes : Bytes) :
    (pair.context r.peer).digest bytes = (pair.context r).digest bytes := by
  have halgorithm : (pair.context r.peer).transcript.algorithm
      = (pair.context r).transcript.algorithm := by
    cases r with
    | server => exact hcompatible.algorithm.symm
    | client => exact hcompatible.algorithm
  rw [Context.digest, Context.digest, halgorithm]

/-- A side with a chain that is asked for shows it, with a signature, and convinces the other side. -/
theorem shows_signed (hcompatible : pair.Compatible) {r : Role} {before : Bytes}
    (hrole : (pair.context r.peer).role = r.peer) (hshows : (pair.context r).ShowsChain)
    (hchain : (pair.context r).config.certificateChain ≠ [])
    (hsaved : (pair.context r.peer).usesSavedFinished (pair.context r.peer).role = false)
    (hsigned : ∀ m, (pair.context r).chainMessage = .ok m → pair.Signed r (before ++ m)) :
    ∃ m v retries verify, (pair.context r).chainMessage = .ok m
      ∧ CertificateVerify.encode verify = .ok v
      ∧ (pair.context r).Signs (pair.signer? r) (before ++ m) retries verify
      ∧ (pair.context r.peer).Trusts before [m, v] := by
  obtain ⟨chain, body, m, hencode, hframe, hdecode⟩ := hcompatible.chain r hshows
  obtain ⟨retries, verify, hsigns, hpolicy, hverify⟩ :=
    hcompatible.signature r hshows hchain (hsigned m hencode)
  obtain ⟨v, hv⟩ := CertificateVerify.encode_of_length_le hsigns.length
  -- what is read has the certificates that were sent, so it is not empty and its leaf has a key
  have hcertificates := CertificateChain.certificates_of_encode hencode hframe hdecode
  have hsome : chain.certificates ≠ [] := hcertificates ▸ hchain
  obtain ⟨key, hkey⟩ := CertificateChain.leafKey_of_decode hdecode hsome
  have hverified := hverify chain key ⟨body, m, hencode, hframe, hdecode⟩ hkey
  rw [← hcompatible.digest_eq] at hverified
  refine ⟨m, v, retries, verify, hencode, hv, hsigns, ?_⟩
  refine .authenticated hsaved hframe hdecode hsome hkey hv hpolicy ?_
    (hcompatible.accepts r hshows ⟨body, m, hencode, hframe, hdecode⟩)
  rw [hrole, Role.peer_peer]
  exact hverified

/-- The flight of the server. -/
theorem server_flight (hcompatible : pair.Compatible) (hfresh : pair.Fresh) :
    ∃ retries m v f verify, (pair.context .server).chainMessage = .ok m
      ∧ CertificateVerify.encode verify = .ok v
      ∧ (pair.context .server).Signs (pair.signer? .server)
        ((pair.context .server).transcript.bytes ++ m) retries verify
      ∧ (pair.context .client).Trusts (pair.context .client).transcript.bytes [m, v]
      ∧ Finished.encode ((pair.side .server).endpoint.environment.keys.mac .server
        ((pair.context .server).digest ((pair.context .server).transcript.bytes ++ m ++ v)))
        = .ok f := by
  have hshows : (pair.context .server).ShowsChain := fun hrole => by
    rw [hfresh.role .server] at hrole
    cases hrole
  obtain ⟨m, v, retries, verify, hencode, hv, hsigns, htrusts⟩ :=
    hcompatible.shows_signed (r := .server) (hfresh.role .client) hshows hcompatible.serverChain
      (Context.usesSavedFinished_of_client (hfresh.role .client)) (fun m hm => .server hm)
  obtain ⟨f, hf⟩ := (pair.side .server).endpoint.environment.keys.encode_mac .server
    ((pair.context .server).digest ((pair.context .server).transcript.bytes ++ m ++ v))
  exact ⟨retries, m, v, f, verify, hencode, hv, hsigns, hfresh.transcripts ▸ htrusts, hf⟩

/-- What the client shows after a flight of the server convinces the server. -/
theorem client_shows (hcompatible : pair.Compatible) (hfresh : pair.Fresh) {before : Bytes}
    (hsigned : ∀ m, (pair.context .client).chainMessage = .ok m → pair.Signed .client (before ++ m)) :
    ∃ retries shown, (pair.context .client).Shows (pair.signer? .client) before retries shown
      ∧ (pair.context .server).Trusts before shown := by
  have hsaved := Context.usesSavedFinished_of_server (hfresh.role .server)
  have hrequested := hcompatible.requested
  cases hverify : (pair.context .server).config.verifyClient with
  | false =>
      rw [hverify] at hsaved hrequested
      exact ⟨0, [], .unasked (hfresh.role .client) hrequested, .unasked hsaved⟩
  | true =>
      rw [hverify] at hsaved hrequested
      have hshows : (pair.context .client).ShowsChain := fun _ => hrequested
      by_cases hchain : (pair.context .client).config.certificateChain = []
      · obtain ⟨chain, body, m, hencode, hframe, hdecode⟩ := hcompatible.chain .client hshows
        have hempty := CertificateChain.certificates_of_encode hencode hframe hdecode
        refine ⟨0, [m], .bare hshows hencode hchain,
          .anonymous hsaved hframe hdecode (hempty.trans hchain) ?_
            (hcompatible.accepts .client hshows ⟨body, m, hencode, hframe, hdecode⟩)⟩
        rw [Context.allowsAnonymous_of_server (hfresh.role .server), hcompatible.clientChain hchain]
        rfl
      · obtain ⟨m, v, retries, verify, hencode, hv, hsigns, htrusts⟩ :=
          hcompatible.shows_signed (r := .client) (hfresh.role .server) hshows hchain hsaved hsigned
        exact ⟨retries, [m, v], .signed hshows hencode hchain hsigns hv, htrusts⟩

/-- The two ends have plans, and each one is to hear what the other one is to send. -/
theorem plans (hcompatible : pair.Compatible) (hfresh : pair.Fresh)
    (hkeeps : ∀ r, (pair.context r).config.KeepsPeer) :
    ∃ plan : Role → Plan σ, ∀ r, (plan r).For pair r ∧ (plan r).theirs = (plan r.peer).own := by
  -- the server goes first, and its flight is the start of what the client signs
  obtain ⟨retries, m, v, f, verify, hencode, hv, hsigns, htrusts, hf⟩ :=
    hcompatible.server_flight hfresh
  let keys := (pair.side .server).endpoint.environment.keys
  let before := (pair.context .server).transcript.bytes ++ [m, v, f].flatten
  have hsrole := hfresh.role .server
  have hcrole := hfresh.role .client
  have hserver : (pair.context .server).Shows (pair.signer? .server)
      (pair.context .server).transcript.bytes retries [m, v] :=
    .signed (fun hrole => by rw [hsrole] at hrole; cases hrole) hencode hcompatible.serverChain
      hsigns hv
  have hsigned : ∀ m', (pair.context .client).chainMessage = .ok m' →
      pair.Signed .client (before ++ m') := by
    intro m' hm'
    have hsigned := Signed.client (.server hencode) hsigns hv hf hm'
    simpa [before] using hsigned
  obtain ⟨retries', shown, hclient, htrusts'⟩ := hcompatible.client_shows hfresh hsigned
  obtain ⟨f', hf'⟩ := keys.encode_mac .client
    ((pair.context .client).digest (before ++ shown.flatten))
  have hdigest : (pair.context .client).digest = (pair.context .server).digest :=
    funext (hcompatible.digest_eq .server)
  have htranscripts : (pair.context .client).transcript.bytes
      = (pair.context .server).transcript.bytes := hfresh.transcripts.symm
  have hbefore : (pair.context .client).transcript.bytes ++ [m, v, f].flatten = before := by
    rw [htranscripts]
  let server : Plan σ := {
    start := pair.context .server
    signer := pair.signer? .server
    mac := keys.mac
    retries := retries
    own := [m, v, f]
    theirs := shown ++ [f']
    keeps := hkeeps .server
    shows := by
      refine ⟨[m, v], ?_, f, ?_, rfl⟩
      · simpa only [Context.ownStart, hsrole] using hserver
      · simpa only [Context.ownStart, hsrole, List.flatten_cons, List.flatten_nil, List.append_nil,
          List.append_assoc] using hf
    trusts := by
      refine ⟨shown, ?_, f', ?_, rfl⟩
      · simpa only [Context.beforePeer, hsrole] using htrusts'
      · simpa only [Context.beforePeer, hsrole, Role.peer, ← hdigest] using hf' }
  let client : Plan σ := {
    start := pair.context .client
    signer := pair.signer? .client
    mac := keys.mac
    retries := retries'
    own := shown ++ [f']
    theirs := [m, v, f]
    keeps := hkeeps .client
    shows := by
      refine ⟨shown, ?_, f', ?_, rfl⟩
      · simpa only [Context.ownStart, hcrole, hbefore] using hclient
      · simpa only [Context.ownStart, hcrole, hbefore] using hf'
    trusts := by
      refine ⟨[m, v], ?_, f, ?_, rfl⟩
      · simpa only [Context.beforePeer, hcrole] using htrusts
      · simpa only [Context.beforePeer, hcrole, Role.peer, hdigest, htranscripts,
          List.flatten_cons, List.flatten_nil, List.append_nil, List.append_assoc] using hf }
  refine ⟨fun | .server => server | .client => client, fun r => ?_⟩
  cases r with
  | server => exact ⟨⟨rfl, rfl, rfl⟩, rfl⟩
  | client => exact ⟨⟨rfl, rfl, hcompatible.keys⟩, rfl⟩

end Compatible

end Pair

end TlsHandshake
