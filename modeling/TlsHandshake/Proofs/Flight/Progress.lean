import TlsHandshake.Proofs.Flight.Rounds

set_option autoImplicit false

/-! # The progress of a flight

What an end has sent and what it has dealt with, phase by phase, and how its transcript and its
session come from that. `Progress` is the invariant between any two turns; `Progress.next` and
`Progress.wait` are its steps. What is known about the signatures of this end is left open: `Good`
is any property that they are known to have. -/

namespace TlsHandshake

/-! ## Settings -/

/-- `c` has the settings of `c₀`: all that a flight reads and never changes. -/
structure Context.SameSettings (c₀ c : Context) : Prop where
  config : c.config = c₀.config
  peerSchemes : c.peerSchemes = c₀.peerSchemes
  ocspRequested : c.ocspRequested = c₀.ocspRequested
  sctsRequested : c.sctsRequested = c₀.sctsRequested
  certificateRequested : c.certificateRequested = c₀.certificateRequested
  algorithm : c.transcript.algorithm = c₀.transcript.algorithm

/-- The chain hook, if there is one, leaves the peer's key and chain in every session as they are.
    One that leaves whole sessions as they are is such a hook. -/
def Config.KeepsPeer (config : Config) : Prop :=
  ∀ hook, config.chainHook = some hook → ∀ s, (hook s).2.peerKey = s.peerKey
    ∧ (hook s).2.peerCertificates = s.peerCertificates

/-- The hook that checks the stored certificates is such a hook. -/
theorem Config.keepsPeer_of_x509 {config : Config}
    (h : config.chainHook = some ChainHook.x509) : config.KeepsPeer := by
  intro hook hhook s
  obtain rfl := Option.some.inj (h.symm.trans hhook)
  exact ⟨rfl, rfl⟩

namespace Context

/-- The hash of a transcript of the given bytes. -/
def digest (c : Context) (bytes : Bytes) : Bytes := c.transcript.algorithm.digest bytes

namespace SameSettings

variable {c₀ c : Context}

theorem refl (c : Context) : SameSettings c c := ⟨rfl, rfl, rfl, rfl, rfl, rfl⟩

/-- Changes elsewhere leave the settings as they are. -/
theorem keep {c' : Context} (h : SameSettings c₀ c) (hconfig : c'.config = c.config := by rfl)
    (hpeerSchemes : c'.peerSchemes = c.peerSchemes := by rfl)
    (hocsp : c'.ocspRequested = c.ocspRequested := by rfl)
    (hscts : c'.sctsRequested = c.sctsRequested := by rfl)
    (hrequested : c'.certificateRequested = c.certificateRequested := by rfl)
    (halgorithm : c'.transcript.algorithm = c.transcript.algorithm := by rfl) :
    SameSettings c₀ c' :=
  ⟨hconfig.trans h.config, hpeerSchemes.trans h.peerSchemes, hocsp.trans h.ocspRequested,
    hscts.trans h.sctsRequested, hrequested.trans h.certificateRequested,
    halgorithm.trans h.algorithm⟩

theorem role (h : SameSettings c₀ c) : c.role = c₀.role := by
  rw [Context.role, Context.role, h.config]

theorem certificateRules (h : SameSettings c₀ c) : c.certificateRules = c₀.certificateRules := by
  rw [Context.certificateRules, Context.certificateRules, Context.isServer, Context.isServer, h.role,
    h.config]

theorem chainMessage (h : SameSettings c₀ c) : c.chainMessage = c₀.chainMessage := by
  rw [Context.chainMessage, Context.chainMessage, staples, staples, h.config, h.ocspRequested,
    h.sctsRequested]

theorem hash (h : SameSettings c₀ c) {bytes : Bytes} (hbytes : c.transcript.bytes = bytes) :
    c.transcript.hash = c₀.digest bytes := by
  rw [Transcript.hash_eq, digest, h.algorithm, hbytes]

theorem signatureInput (h : SameSettings c₀ c) {bytes : Bytes}
    (hbytes : c.transcript.bytes = bytes) (signer : Role) :
    c.signatureInput signer = TlsHandshake.signatureInput (c₀.digest bytes) (.ofRole signer) := by
  rw [Context.signatureInput, h.hash hbytes]

/-- The hook answers the same for the same session. -/
theorem hooked_withChain (h : SameSettings c₀ c) (hsession : c.session = c₀.session)
    (chain : CertificateChain) : c.hooked (c.withChain chain) = c₀.hooked (c₀.withChain chain) := by
  rw [Context.hooked, Context.hooked, Context.withChain, Context.withChain, Context.isServer,
    Context.isServer, h.role, h.config, hsession]

/-- A hook that keeps the peer keeps the one it sees. -/
theorem hooked (h : SameSettings c₀ c) (hkeeps : c₀.config.KeepsPeer)
    {result : Except Error Unit} {s s' : Session} (hanswer : c.hooked s = (result, s')) :
    s'.peerKey = s.peerKey ∧ s'.peerCertificates = s.peerCertificates := by
  rw [Context.hooked, h.config] at hanswer
  cases hsome : c₀.config.chainHook with
  | none =>
      rw [hsome] at hanswer
      obtain rfl : s = s' := (Prod.mk.inj hanswer).2
      exact ⟨rfl, rfl⟩
  | some hook =>
      rw [hsome] at hanswer
      obtain rfl : (hook s).2 = s' := congrArg Prod.snd hanswer
      exact hkeeps hook hsome s

end SameSettings

end Context

/-! ## The peer's flight -/

/-- The bytes of messages, in order. -/
def rawBytes (messages : List Message) : Bytes := (messages.map Message.raw).flatten

@[simp] theorem rawBytes_nil : rawBytes [] = [] := rfl

@[simp] theorem rawBytes_append (ms ms' : List Message) :
    rawBytes (ms ++ ms') = rawBytes ms ++ rawBytes ms' := by
  simp only [rawBytes, List.map_append, List.flatten_append]

@[simp] theorem rawBytes_singleton (m : Message) : rawBytes [m] = m.raw := by
  simp only [rawBytes, List.map_cons, List.map_nil, List.flatten_cons, List.flatten_nil,
    List.append_nil]

theorem rawBytes_pair (m m' : Message) : rawBytes [m, m'] = m.raw ++ m'.raw := by
  rw [← List.singleton_append, rawBytes_append, rawBytes_singleton, rawBytes_singleton]

namespace Context

/-- A Certificate message that decodes to `chain` under the settings of `c`. -/
structure ReadsChain (c : Context) (m : Message) (chain : CertificateChain) : Prop where
  type : m.type = .certificate
  decode : CertificateChain.decode c.certificateRules m.body = .ok chain

/-- A CertificateVerify message with a scheme that is accepted and a signature of the peer's key over
    a transcript of the given bytes. -/
structure ReadsSignature (c : Context) (key : PublicKey) (bytes : Bytes) (m : Message)
    (verify : CertificateVerify) : Prop where
  type : m.type = .certificateVerify
  decode : CertificateVerify.decode m.body = .ok verify
  accepted : c.config.signaturePolicy.refusal? verify.scheme = none
  verified : key.verify verify.scheme
      (TlsHandshake.signatureInput (c.digest bytes) (.ofRole c.role.peer)) verify.signature = .ok true
    ∨ c.config.insecureFuzzing = true

end Context

namespace AuthFlow

/-- Whether an end sends in a phase. -/
def sends (phase : Phase) : Prop :=
  phase = .sendCertificate ∨ phase = .sendCertificateVerify ∨ phase = .sendFinished

/-- What an end has read of its peer's flight, phase by phase: the messages dealt with, the session,
    the MACs computed for the peer's Finished, and the one kept for later. The peer's flight comes
    after `before` in the transcript. -/
inductive PeerFlight (c₀ : Context) (before : Bytes) :
    Phase → List Message → Session → List (Bytes × Bytes) → Option Bytes → Prop
  | waiting {phase : Phase} {s : Session} {saved : Option Bytes} (hrole : c₀.role = .server)
      (hphase : sends phase) (hsession : s = c₀.session) : PeerFlight c₀ before phase [] s [] saved
  | unread {s : Session} {saved : Option Bytes} (hsaved : c₀.usesSavedFinished c₀.role = false)
      (hsession : s = c₀.session) : PeerFlight c₀ before .readCertificate [] s [] saved
  | unasked {s : Session} {mac : Bytes} (hsaved : c₀.usesSavedFinished c₀.role = true)
      (hsession : s = c₀.session) :
      PeerFlight c₀ before .readFinished [] s [(c₀.digest before, mac)] (some mac)
  | chain {m : Message} {chain : CertificateChain} {s : Session} {saved : Option Bytes}
      (hsaved : c₀.usesSavedFinished c₀.role = false) (hchain : c₀.ReadsChain m chain)
      (hkey : s.peerKey = chain.leafKey) (hsome : chain.certificates ≠ [])
      (hpeer : s.peerCertificates = some chain.certificates) :
      PeerFlight c₀ before .readCertificateVerify [m] s [] saved
  | anonymous {m : Message} {chain : CertificateChain} {s : Session} {saved : Option Bytes}
      (hsaved : c₀.usesSavedFinished c₀.role = false) (hchain : c₀.ReadsChain m chain)
      (hempty : chain.certificates = []) (hallowed : c₀.allowsAnonymous c₀.role = true)
      (hpeer : s.peerCertificates = none) : PeerFlight c₀ before .readFinished [m] s [] saved
  | verified {m v : Message} {chain : CertificateChain} {key : PublicKey}
      {verify : CertificateVerify} {s : Session} {saved : Option Bytes}
      (hsaved : c₀.usesSavedFinished c₀.role = false) (hchain : c₀.ReadsChain m chain)
      (hkey : chain.leafKey = some key) (hsome : chain.certificates ≠ [])
      (hpeer : s.peerCertificates = some chain.certificates)
      (hverify : c₀.ReadsSignature key (before ++ m.raw) v verify) :
      PeerFlight c₀ before .readFinished [m, v] s [] saved
  | complete {phase : Phase} {ms : List Message} {f : Message} {mac : Bytes} {s : Session}
      {macs : List (Bytes × Bytes)} {saved saved' : Option Bytes}
      (hphase : phase = .done ∨ c₀.role = .client ∧ sends phase)
      (hflight : PeerFlight c₀ before .readFinished ms s macs saved) (htype : f.type = .finished)
      (hbody : f.body = mac ∨ c₀.config.insecureFuzzing = true) :
      PeerFlight c₀ before phase (ms ++ [f]) s [(c₀.digest (before ++ rawBytes ms), mac)] saved'

section PeerFlight

variable {c₀ : Context} {before before' : Bytes} {phase phase' : Phase} {handled : List Message}
  {s : Session} {macs : List (Bytes × Bytes)} {saved saved' : Option Bytes}

theorem not_sends_of_reads (hphase : (expected? phase).isSome = true) : ¬ sends phase := by
  rintro (rfl | rfl | rfl) <;> cases hphase

/-- A server that is sending has read nothing. -/
theorem PeerFlight.of_server_sends (hflight : PeerFlight c₀ before phase handled s macs saved)
    (hrole : c₀.role = .server) (hphase : sends phase) :
    handled = [] ∧ macs = [] ∧ s = c₀.session := by
  cases hflight with
  | waiting _ _ hsession => exact ⟨rfl, rfl, hsession⟩
  | complete hdone _ _ _ =>
      rcases hdone with rfl | ⟨hclient, _⟩
      · rcases hphase with h | h | h <;> cases h
      · rw [hrole] at hclient
        cases hclient
  | _ => rcases hphase with h | h | h <;> cases h

/-- Sending leaves what has been read as it is. -/
theorem PeerFlight.send (hflight : PeerFlight c₀ before phase handled s macs saved)
    (hphase : sends phase) (hphase' : sends phase') (hbefore : c₀.role = .client → before' = before) :
    PeerFlight c₀ before' phase' handled s macs saved' := by
  cases hflight with
  | waiting hrole _ hsession => exact .waiting hrole hphase' hsession
  | complete hdone hflight htype hbody =>
      rcases hdone with rfl | ⟨hclient, _⟩
      · rcases hphase with h | h | h <;> cases h
      · rw [hbefore hclient]
        exact .complete (Or.inr ⟨hclient, hphase'⟩) hflight htype hbody
  | _ => rcases hphase with h | h | h <;> cases h

/-- A client that is sending has read everything. -/
theorem PeerFlight.of_client_sends (hflight : PeerFlight c₀ before phase handled s macs saved)
    (hrole : c₀.role = .client) (hphase : sends phase) :
    PeerFlight c₀ before .done handled s macs saved := by
  cases hflight with
  | waiting hserver _ _ =>
      rw [hrole] at hserver
      cases hserver
  | complete _ hflight htype hbody => exact .complete (Or.inl rfl) hflight htype hbody
  | _ => rcases hphase with h | h | h <;> cases h

end PeerFlight

/-! ## The own flight -/

/-- What an end has sent of its own flight, phase by phase, and the MACs computed for it. The own
    flight comes after `before` in the transcript. -/
inductive OwnFlight (c₀ : Context) (Good : Bytes → CertificateVerify → Prop) (before : Bytes) :
    Phase → List Bytes → List (Bytes × Bytes) → Prop
  | waiting {phase : Phase} {type : MessageType} (hrole : c₀.role = .client)
      (hphase : expected? phase = some type) : OwnFlight c₀ Good before phase [] []
  | unsent (hrequested : c₀.role = .client → c₀.certificateRequested = true) :
      OwnFlight c₀ Good before .sendCertificate [] []
  | certificate {m : Bytes} (hrequested : c₀.role = .client → c₀.certificateRequested = true)
      (hencode : c₀.chainMessage = .ok m) (hchain : c₀.config.certificateChain ≠ []) :
      OwnFlight c₀ Good before .sendCertificateVerify [m] []
  | unasked (hrole : c₀.role = .client) (hrequested : c₀.certificateRequested = false) :
      OwnFlight c₀ Good before .sendFinished [] []
  | bare {m : Bytes} (hrequested : c₀.role = .client → c₀.certificateRequested = true)
      (hencode : c₀.chainMessage = .ok m) (hchain : c₀.config.certificateChain = []) :
      OwnFlight c₀ Good before .sendFinished [m] []
  | signed {m v : Bytes} {verify : CertificateVerify}
      (hrequested : c₀.role = .client → c₀.certificateRequested = true)
      (hencode : c₀.chainMessage = .ok m) (hchain : c₀.config.certificateChain ≠ [])
      (hverify : CertificateVerify.encode verify = .ok v) (hgood : Good (before ++ m) verify) :
      OwnFlight c₀ Good before .sendFinished [m, v] []
  | complete {phase : Phase} {ms : List Bytes} {f mac : Bytes}
      (hphase : phase = .done ∨ c₀.role = .server ∧ (expected? phase).isSome = true)
      (hflight : OwnFlight c₀ Good before .sendFinished ms [])
      (hencode : Finished.encode mac = .ok f) :
      OwnFlight c₀ Good before phase (ms ++ [f]) [(c₀.digest (before ++ ms.flatten), mac)]

section OwnFlight

variable {c₀ : Context} {Good : Bytes → CertificateVerify → Prop} {before before' : Bytes}
  {phase phase' : Phase} {sent : List Bytes} {macs : List (Bytes × Bytes)}

/-- A client that is reading has sent nothing. -/
theorem OwnFlight.of_client_reads (hflight : OwnFlight c₀ Good before phase sent macs)
    (hrole : c₀.role = .client) (hphase : (expected? phase).isSome = true) :
    sent = [] ∧ macs = [] := by
  cases hflight with
  | waiting => exact ⟨rfl, rfl⟩
  | complete hdone _ _ =>
      rcases hdone with rfl | ⟨hserver, _⟩
      · cases hphase
      · rw [hrole] at hserver
        cases hserver
  | _ => cases hphase

/-- Reading leaves what has been sent as it is. -/
theorem OwnFlight.read (hflight : OwnFlight c₀ Good before phase sent macs)
    (hphase : (expected? phase).isSome = true) (hphase' : (expected? phase').isSome = true)
    (hbefore : c₀.role = .server → before' = before) :
    OwnFlight c₀ Good before' phase' sent macs := by
  cases hflight with
  | waiting hrole _ => exact .waiting hrole (Option.get_mem hphase')
  | complete hdone hflight hencode =>
      rcases hdone with rfl | ⟨hserver, _⟩
      · cases hphase
      · rw [hbefore hserver]
        exact .complete (Or.inr ⟨hserver, hphase'⟩) hflight hencode
  | _ => cases hphase

/-- A server that is reading has sent everything. -/
theorem OwnFlight.of_server_reads (hflight : OwnFlight c₀ Good before phase sent macs)
    (hrole : c₀.role = .server) (hphase : (expected? phase).isSome = true) :
    OwnFlight c₀ Good before .done sent macs := by
  cases hflight with
  | waiting hclient _ =>
      rw [hrole] at hclient
      cases hclient
  | complete _ hflight hencode => exact .complete (Or.inl rfl) hflight hencode
  | _ => cases hphase

theorem OwnFlight.macs_of_sends (hflight : OwnFlight c₀ Good before phase sent macs)
    (hphase : sends phase) : macs = [] := by
  cases hflight with
  | complete hdone _ _ =>
      rcases hdone with rfl | ⟨_, hexpected⟩
      · rcases hphase with h | h | h <;> cases h
      · rcases hphase with rfl | rfl | rfl <;> cases hexpected
  | _ => rfl

theorem OwnFlight.at_sendCertificate
    (hflight : OwnFlight c₀ Good before .sendCertificate sent macs) :
    sent = [] ∧ macs = [] ∧ (c₀.role = .client → c₀.certificateRequested = true) := by
  cases hflight with
  | unsent hrequested => exact ⟨rfl, rfl, hrequested⟩
  | waiting _ hphase => cases hphase
  | complete hdone => rcases hdone with h | ⟨_, h⟩ <;> cases h

theorem OwnFlight.at_sendCertificateVerify
    (hflight : OwnFlight c₀ Good before .sendCertificateVerify sent macs) :
    ∃ m, sent = [m] ∧ macs = [] ∧ c₀.chainMessage = .ok m ∧ c₀.config.certificateChain ≠ []
      ∧ (c₀.role = .client → c₀.certificateRequested = true) := by
  cases hflight with
  | certificate hrequested hencode hchain => exact ⟨_, rfl, rfl, hencode, hchain, hrequested⟩
  | waiting _ hphase => cases hphase
  | complete hdone => rcases hdone with h | ⟨_, h⟩ <;> cases h

/-- A flight that is complete ends with Finished. -/
theorem OwnFlight.at_done (hflight : OwnFlight c₀ Good before .done sent macs) :
    ∃ ms f mac, sent = ms ++ [f] ∧ Finished.encode mac = .ok f
      ∧ macs = [(c₀.digest (before ++ ms.flatten), mac)]
      ∧ OwnFlight c₀ Good before .sendFinished ms [] := by
  cases hflight with
  | waiting _ hphase => cases hphase
  | complete _ hflight hencode => exact ⟨_, _, _, rfl, hencode, rfl, hflight⟩

/-- What has been sent before Finished: nothing if no chain was asked for, else the chain, and a
    signature if the chain is not empty. -/
theorem OwnFlight.at_sendFinished (hflight : OwnFlight c₀ Good before .sendFinished sent macs) :
    (c₀.role = .client ∧ c₀.certificateRequested = false ∧ sent = [])
    ∨ ∃ m, (c₀.role = .client → c₀.certificateRequested = true) ∧ c₀.chainMessage = .ok m
      ∧ ((c₀.config.certificateChain = [] ∧ sent = [m])
        ∨ c₀.config.certificateChain ≠ [] ∧ ∃ v verify, sent = [m, v]
          ∧ CertificateVerify.encode verify = .ok v ∧ Good (before ++ m) verify) := by
  cases hflight with
  | unasked hrole hrequested => exact Or.inl ⟨hrole, hrequested, rfl⟩
  | bare hrequested hencode hchain =>
      exact Or.inr ⟨_, hrequested, hencode, Or.inl ⟨hchain, rfl⟩⟩
  | signed hrequested hencode hchain hverify hgood =>
      exact Or.inr ⟨_, hrequested, hencode, Or.inr ⟨hchain, _, _, rfl, hverify, hgood⟩⟩
  | waiting _ hphase => cases hphase
  | complete hdone => rcases hdone with h | ⟨_, h⟩ <;> cases h

end OwnFlight

end AuthFlow

/-! ## Transcripts -/

namespace Context

/-- The bytes of the transcript before the own flight, once `handled` has been read. -/
def beforeOwn (c₀ : Context) (handled : List Message) : Bytes :=
  match c₀.role with
  | .server => c₀.transcript.bytes
  | .client => c₀.transcript.bytes ++ rawBytes handled

/-- The bytes of the transcript before the peer's flight, once `sent` has been sent. -/
def beforePeer (c₀ : Context) (sent : List Bytes) : Bytes :=
  match c₀.role with
  | .server => c₀.transcript.bytes ++ sent.flatten
  | .client => c₀.transcript.bytes

/-- The bytes of the transcript: the server's flight comes first. -/
def afterBoth (c₀ : Context) (handled : List Message) (sent : List Bytes) : Bytes :=
  match c₀.role with
  | .server => c₀.transcript.bytes ++ sent.flatten ++ rawBytes handled
  | .client => c₀.transcript.bytes ++ rawBytes handled ++ sent.flatten

end Context

/-- The phase that a turn leaves. -/
def Turn.phase : Turn → Phase
  | .next phase | .wait phase _ => phase

namespace AuthFlow

/-- The state of a flight between turns: `handled` are the messages dealt with, `h` is all that has
    happened since the context was `c₀`. -/
structure Progress (c₀ : Context) (Good : Bytes → CertificateVerify → Prop) (phase : Phase)
    (c : Context) (h : History) (handled : List Message) : Prop where
  settings : c₀.SameSettings c
  read : h.messagesRead = handled ++ c.message.toList
  unsent : h.messagesUnsent = []
  transcript : c.transcript.bytes = c₀.afterBoth handled h.messagesSent
  peer : PeerFlight c₀ (c₀.beforePeer h.messagesSent) phase handled c.session
    (h.macsOf c₀.role.peer) c.expectedClientFinished
  own : OwnFlight c₀ Good (c₀.beforeOwn handled) phase h.messagesSent (h.macsOf c₀.role)
  message : expected? phase = none → c.message = none

section Progress

variable {c₀ c c' : Context} {Good : Bytes → CertificateVerify → Prop} {phase phase' : Phase}
  {g h : History} {handled : List Message} {m : Bytes} {type : MessageType}

theorem Progress.transcript_own (hprogress : Progress c₀ Good phase c h handled)
    (hphase : sends phase) :
    c.transcript.bytes = c₀.beforeOwn handled ++ h.messagesSent.flatten := by
  rw [hprogress.transcript, Context.afterBoth, Context.beforeOwn]
  cases hrole : c₀.role with
  | client => rfl
  | server =>
      obtain ⟨rfl, _, _⟩ := hprogress.peer.of_server_sends hrole hphase
      simp only [rawBytes_nil, List.append_nil]

theorem Progress.transcript_peer (hprogress : Progress c₀ Good phase c h handled)
    (hphase : (expected? phase).isSome = true) :
    c.transcript.bytes = c₀.beforePeer h.messagesSent ++ rawBytes handled := by
  rw [hprogress.transcript, Context.afterBoth, Context.beforePeer]
  cases hrole : c₀.role with
  | server => rfl
  | client =>
      rw [(hprogress.own.of_client_reads hrole hphase).1]
      simp only [List.flatten_nil, List.append_nil]

/-- Nothing that a flight goes by has changed, and nothing has happened that it counts, but that a
    message may have been read. -/
theorem Progress.still (hprogress : Progress c₀ Good phase c h handled)
    (hsettings : c₀.SameSettings c') (htranscript : c'.transcript.bytes = c.transcript.bytes)
    (hsession : c'.session = c.session)
    (hsaved : c'.expectedClientFinished = c.expectedClientFinished)
    (hread : (h ++ g).messagesRead = handled ++ c'.message.toList)
    (hmessage : expected? phase = none → c'.message = none) (hsent : g.messagesSent = [])
    (hunsent : g.messagesUnsent = []) (hmacs : ∀ sender, g.macsOf sender = []) :
    Progress c₀ Good phase c' (h ++ g) handled where
  settings := hsettings
  read := hread
  unsent := by rw [History.messagesUnsent_append, hunsent, List.append_nil, hprogress.unsent]
  transcript := by
    rw [htranscript, History.messagesSent_append, hsent, List.append_nil, hprogress.transcript]
  peer := by
    rw [History.messagesSent_append, hsent, History.macsOf_append, hmacs, List.append_nil,
      List.append_nil, hsession, hsaved]
    exact hprogress.peer
  own := by
    rw [History.messagesSent_append, hsent, History.macsOf_append, hmacs, List.append_nil,
      List.append_nil]
    exact hprogress.own
  message := hmessage

/-- Not even a message has been read. -/
theorem Progress.idle (hprogress : Progress c₀ Good phase c h handled)
    (hsettings : c₀.SameSettings c') (htranscript : c'.transcript.bytes = c.transcript.bytes)
    (hsession : c'.session = c.session)
    (hsaved : c'.expectedClientFinished = c.expectedClientFinished)
    (hmessage : c'.message = c.message) (hread : g.messagesRead = []) (hsent : g.messagesSent = [])
    (hunsent : g.messagesUnsent = []) (hmacs : ∀ sender, g.macsOf sender = []) :
    Progress c₀ Good phase c' (h ++ g) handled := by
  refine hprogress.still hsettings htranscript hsession hsaved ?_ ?_ hsent hunsent hmacs
  · rw [History.messagesRead_append, hread, List.append_nil, hmessage, hprogress.read]
  · rw [hmessage]
    exact hprogress.message

/-- A message of the own flight is sent. -/
theorem Progress.send (hprogress : Progress c₀ Good phase c h handled) (hphase : sends phase)
    (hsettings : c₀.SameSettings c') (htranscript : c'.transcript.bytes = c.transcript.bytes ++ m)
    (hmessage : c'.message = c.message) (hread : g.messagesRead = [])
    (hsent : g.messagesSent = [m]) (hunsent : g.messagesUnsent = [])
    (hpeer : PeerFlight c₀ (c₀.beforePeer (h.messagesSent ++ [m])) phase' handled c'.session
      ((h ++ g).macsOf c₀.role.peer) c'.expectedClientFinished)
    (hown : OwnFlight c₀ Good (c₀.beforeOwn handled) phase' (h.messagesSent ++ [m])
      ((h ++ g).macsOf c₀.role)) :
    Progress c₀ Good phase' c' (h ++ g) handled where
  settings := hsettings
  read := by rw [History.messagesRead_append, hread, List.append_nil, hmessage, hprogress.read]
  unsent := by rw [History.messagesUnsent_append, hunsent, List.append_nil, hprogress.unsent]
  transcript := by
    rw [htranscript, hprogress.transcript_own hphase, History.messagesSent_append, hsent,
      Context.afterBoth, Context.beforeOwn]
    cases hrole : c₀.role with
    | client => simp only [List.flatten_append, List.flatten_cons, List.flatten_nil,
        List.append_nil, List.append_assoc]
    -- a server sends before it reads, so what it sends goes to the end
    | server =>
        obtain ⟨rfl, _, _⟩ := hprogress.peer.of_server_sends hrole hphase
        simp only [List.flatten_append, List.flatten_cons, List.flatten_nil, List.append_nil,
          List.append_assoc, rawBytes_nil]
  peer := by
    rw [History.messagesSent_append, hsent]
    exact hpeer
  own := by
    rw [History.messagesSent_append, hsent]
    exact hown
  message _ := by
    rw [hmessage]
    exact hprogress.message (by rcases hphase with rfl | rfl | rfl <;> rfl)

/-- The pending message has been dealt with. -/
theorem Progress.receive {m : Message} (hprogress : Progress c₀ Good phase c h handled)
    (hphase : (expected? phase).isSome = true) (hmessage : c.message = some m)
    (hsettings : c₀.SameSettings c') (htranscript : c'.transcript.bytes = c.transcript.bytes ++ m.raw)
    (hnone : c'.message = none) (hread : g.messagesRead = []) (hsent : g.messagesSent = [])
    (hunsent : g.messagesUnsent = [])
    (hpeer : PeerFlight c₀ (c₀.beforePeer h.messagesSent) phase' (handled ++ [m]) c'.session
      ((h ++ g).macsOf c₀.role.peer) c'.expectedClientFinished)
    (hown : OwnFlight c₀ Good (c₀.beforeOwn (handled ++ [m])) phase' h.messagesSent
      ((h ++ g).macsOf c₀.role)) :
    Progress c₀ Good phase' c' (h ++ g) (handled ++ [m]) where
  settings := hsettings
  read := by
    rw [History.messagesRead_append, hread, List.append_nil, hprogress.read, hmessage, hnone]
    simp only [Option.toList_some, Option.toList_none, List.append_nil]
  unsent := by rw [History.messagesUnsent_append, hunsent, List.append_nil, hprogress.unsent]
  transcript := by
    rw [htranscript, hprogress.transcript_peer hphase, History.messagesSent_append, hsent,
      List.append_nil, Context.afterBoth, Context.beforePeer]
    cases hrole : c₀.role with
    | server => simp only [rawBytes_append, rawBytes_singleton, List.append_assoc]
    -- a client reads before it sends, so what it reads goes to the end
    | client =>
        rw [(hprogress.own.of_client_reads hrole hphase).1]
        simp only [rawBytes_append, rawBytes_singleton, List.append_assoc, List.flatten_nil,
          List.append_nil]
  peer := by
    rw [History.messagesSent_append, hsent, List.append_nil]
    exact hpeer
  own := by
    rw [History.messagesSent_append, hsent, List.append_nil]
    exact hown
  message _ := hnone

/-! ### The ways to go on -/

theorem Progress.certificateSent (hprogress : Progress c₀ Good .sendCertificate c h handled)
    (hencode : c.chainMessage = .ok m) :
    Progress c₀ Good
      (if c.config.certificateChain.isEmpty then .sendFinished else .sendCertificateVerify)
      (c.record m) (h ++ [.queued m (.ok ())]) handled := by
  obtain ⟨hsent, hmacs, hrequested⟩ := hprogress.own.at_sendCertificate
  have hsends : sends (if c.config.certificateChain.isEmpty then Phase.sendFinished
      else .sendCertificateVerify) := by
    split
    · exact Or.inr (Or.inr rfl)
    · exact Or.inr (Or.inl rfl)
  refine hprogress.send (Or.inl rfl) hprogress.settings.keep rfl rfl rfl rfl rfl ?_ ?_
  · rw [History.macsOf_append, show History.macsOf _ [_] = [] from rfl, List.append_nil]
    refine hprogress.peer.send (Or.inl rfl) hsends ?_
    intro hrole
    simp only [Context.beforePeer, hrole]
  · rw [History.macsOf_append, hmacs, hsent]
    rw [hprogress.settings.chainMessage] at hencode
    rw [hprogress.settings.config]
    split
    · exact .bare hrequested hencode (List.isEmpty_iff.1 ‹_›)
    · exact .certificate hrequested hencode (by rwa [List.isEmpty_iff] at *)

theorem beforePeer_of_client (hrole : c₀.role = .client) (sent sent' : List Bytes) :
    c₀.beforePeer sent = c₀.beforePeer sent' := by
  simp only [Context.beforePeer, hrole]

theorem beforeOwn_of_server (hrole : c₀.role = .server) (ms ms' : List Message) :
    c₀.beforeOwn ms = c₀.beforeOwn ms' := by
  simp only [Context.beforeOwn, hrole]

theorem Progress.signatureSent {scheme : SignatureScheme} {maxLength : Nat} {signature : Bytes}
    (hprogress : Progress c₀ Good .sendCertificateVerify c h handled)
    (hencode : CertificateVerify.encode ⟨scheme, signature⟩ = .ok m)
    (hgood : Good c.transcript.bytes ⟨scheme, signature⟩) :
    Progress c₀ Good .sendFinished (Context.record { c with signaturePending := false } m)
      (h ++ [c.signingEvent scheme maxLength (.success signature), .queued m (.ok ())])
      handled := by
  obtain ⟨chain, hsent, hmacs, hchain, hne, hrequested⟩ := hprogress.own.at_sendCertificateVerify
  have hsends : sends .sendCertificateVerify := Or.inr (Or.inl rfl)
  rw [hprogress.transcript_own hsends, hsent, List.flatten_singleton] at hgood
  -- asking the signer is neither a message nor a MAC, however it is asked
  have hnone : ∀ sender, History.macsOf sender
      [c.signingEvent scheme maxLength (.success signature), .queued m (.ok ())] = [] := by
    intro sender
    rw [History.macsOf_cons, Context.signingEvent_mac?]
    rfl
  refine hprogress.send hsends hprogress.settings.keep rfl rfl ?_ ?_ ?_ ?_ ?_
  · rw [History.messagesRead_cons, Context.signingEvent_message?]
    rfl
  · rw [History.messagesSent_cons, Context.signingEvent_sent?]
    rfl
  · rw [History.messagesUnsent_cons, Context.signingEvent_unsent?]
    rfl
  · rw [History.macsOf_append, hnone, List.append_nil]
    exact hprogress.peer.send hsends (Or.inr (Or.inr rfl)) fun hrole =>
      beforePeer_of_client hrole _ _
  · rw [History.macsOf_append, hnone, hmacs, hsent]
    exact .signed hrequested hchain hne hencode hgood

/-- The own Finished is sent; its MAC covers the transcript so far. -/
theorem Progress.finishedSent {mac : Bytes} (phase' : Phase)
    (hprogress : Progress c₀ Good .sendFinished c h handled) (hencode : Finished.encode mac = .ok m)
    (hphase : phase' = .done ∨ c₀.role = .server ∧ (expected? phase').isSome = true) :
    OwnFlight c₀ Good (c₀.beforeOwn handled) phase' (h.messagesSent ++ [m])
      (h.macsOf c₀.role ++ [(c.transcript.hash, mac)]) := by
  have hsends : sends .sendFinished := Or.inr (Or.inr rfl)
  have hmacs := hprogress.own.macs_of_sends hsends
  have hown := hprogress.own
  rw [hprogress.settings.hash (hprogress.transcript_own hsends), hmacs]
  rw [hmacs] at hown
  exact .complete hphase hown hencode

theorem Progress.clientFinishedSent {mac : Bytes}
    (hprogress : Progress c₀ Good .sendFinished c h handled) (hrole : c₀.role = .client)
    (hencode : Finished.encode mac = .ok m) :
    Progress c₀ Good .done (c.record m)
      (h ++ [.computedMac c.role c.transcript.hash (.ok mac), .queued m (.ok ())]) handled := by
  have hsends : sends .sendFinished := Or.inr (Or.inr rfl)
  refine hprogress.send hsends hprogress.settings.keep rfl rfl rfl rfl rfl ?_ ?_
  · have hpeer := hprogress.peer.of_client_sends hrole hsends
    rw [beforePeer_of_client hrole _ h.messagesSent]
    simpa [hprogress.settings.role, Event.mac?_computedMac_of_ne (Role.peer_ne c₀.role).symm]
      using hpeer
  · simpa [hprogress.settings.role] using hprogress.finishedSent .done hencode (Or.inl rfl)

theorem Progress.serverFinishedSent {mac : Bytes}
    (hprogress : Progress c₀ Good .sendFinished c h handled) (hrole : c₀.role = .server)
    (hverify : c.config.verifyClient = true) (hencode : Finished.encode mac = .ok m) :
    Progress c₀ Good .readCertificate (c.record m)
      (h ++ [.computedMac c.role c.transcript.hash (.ok mac), .queued m (.ok ())]) handled := by
  have hsends : sends .sendFinished := Or.inr (Or.inr rfl)
  obtain ⟨rfl, hmacs, hsession⟩ := hprogress.peer.of_server_sends hrole hsends
  have hsaved : c₀.usesSavedFinished c₀.role = false := by
    rw [Context.usesSavedFinished, ← hprogress.settings.config, hverify, Bool.not_true,
      Bool.and_false]
  refine hprogress.send hsends hprogress.settings.keep rfl rfl rfl rfl rfl ?_ ?_
  · simpa [hprogress.settings.role, Event.mac?_computedMac_of_ne (Role.peer_ne c₀.role).symm,
      hmacs] using PeerFlight.unread hsaved hsession
  · simpa [hprogress.settings.role] using
      hprogress.finishedSent .readCertificate hencode (Or.inr ⟨hrole, rfl⟩)

theorem Progress.serverFinishedSaved {mac saved : Bytes}
    (hprogress : Progress c₀ Good .sendFinished c h handled) (hrole : c₀.role = .server)
    (hverify : c.config.verifyClient = false) (hencode : Finished.encode mac = .ok m) :
    Progress c₀ Good .readFinished { c.record m with expectedClientFinished := some saved }
      (h ++ [.computedMac c.role c.transcript.hash (.ok mac), .queued m (.ok ()),
        .computedMac .client (c.record m).transcript.hash (.ok saved)]) handled := by
  have hsends : sends .sendFinished := Or.inr (Or.inr rfl)
  obtain ⟨rfl, hmacs, hsession⟩ := hprogress.peer.of_server_sends hrole hsends
  have hsaved : c₀.usesSavedFinished c₀.role = true := by
    rw [Context.usesSavedFinished, ← hprogress.settings.config, hverify, hrole]
    rfl
  have hbytes : (c.record m).transcript.bytes = c₀.beforePeer (h.messagesSent ++ [m]) := by
    change c.transcript.bytes ++ m = _
    rw [hprogress.transcript_own hsends, Context.beforeOwn, Context.beforePeer, hrole]
    simp only [List.flatten_append, List.flatten_singleton, List.append_assoc]
  have hsettings : c₀.SameSettings (c.record m) := hprogress.settings.keep
  have hhash := hsettings.hash hbytes
  have hclient : Role.client = c₀.role.peer := by rw [hrole]; rfl
  have hne : c₀.role ≠ c₀.role.peer := (Role.peer_ne c₀.role).symm
  refine hprogress.send hsends hprogress.settings.keep rfl rfl rfl rfl rfl ?_ ?_
  · rw [hhash, hclient]
    simpa [hprogress.settings.role, Event.mac?_computedMac_of_ne hne, hmacs] using
      PeerFlight.unasked hsaved hsession
  · rw [hhash, hclient]
    simpa [hprogress.settings.role, Event.mac?_computedMac_of_ne hne.symm] using
      hprogress.finishedSent .readFinished hencode (Or.inr ⟨hrole, rfl⟩)

/-- A context whose pending message has been dealt with, apart from what that changed. -/
theorem transcript_accept (c' : Context) {m : Message} (hmessage : c'.message = some m) :
    c'.accept.transcript.bytes = c'.transcript.bytes ++ m.raw := by
  rw [Context.accept_eq hmessage]
  rfl

theorem sameSettings_accept (hsettings : c₀.SameSettings c) : c₀.SameSettings c.accept := by
  rw [Context.accept, Context.recordMessage]
  cases c.message <;> exact hsettings.keep

/-- What a flow has read before a chain. -/
theorem PeerFlight.at_readCertificate {before : Bytes} {s : Session} {macs : List (Bytes × Bytes)}
    {saved : Option Bytes} (hflight : PeerFlight c₀ before .readCertificate handled s macs saved) :
    handled = [] ∧ macs = [] ∧ c₀.usesSavedFinished c₀.role = false ∧ s = c₀.session := by
  cases hflight with
  | unread hsaved hsession => exact ⟨rfl, rfl, hsaved, hsession⟩
  | waiting _ hphase _ => rcases hphase with h | h | h <;> cases h
  | complete hdone _ _ _ =>
      rcases hdone with h | ⟨_, h | h | h⟩ <;> cases h

theorem Progress.chainAccepted {m : Message} {chain : CertificateChain} {s : Session}
    (hprogress : Progress c₀ Good .readCertificate c h handled)
    (hkeeps : c₀.config.KeepsPeer) (hmessage : c.message = some m)
    (htype : m.type = .certificate)
    (hdecode : CertificateChain.decode c.certificateRules m.body = .ok chain)
    (hhook : c.hooked (c.withChain chain) = (.ok (), s)) (hpeer : s.peerCertificates.isSome) :
    Progress c₀ Good .readCertificateVerify (Context.accept { c with session := s }) (h ++ [])
      (handled ++ [m]) := by
  obtain ⟨rfl, hmacs, hsaved, _⟩ := hprogress.peer.at_readCertificate
  obtain ⟨hkey, hcertificates⟩ := hprogress.settings.hooked hkeeps hhook
  rw [hprogress.settings.certificateRules] at hdecode
  have hsome : chain.certificates ≠ [] := by
    intro hempty
    rw [hcertificates, Context.withChain, Session.storeChain, hempty] at hpeer
    cases hpeer
  refine hprogress.receive rfl hmessage (sameSettings_accept hprogress.settings.keep)
    (transcript_accept { c with session := s } hmessage) rfl rfl rfl rfl ?_ ?_
  · rw [List.append_nil, hmacs, Context.accept_session]
    refine .chain hsaved ⟨htype, hdecode⟩ hkey hsome ?_
    rw [hcertificates]
    simp only [Context.withChain, Session.storeChain, List.isEmpty_iff, hsome, if_false]
  · rw [List.append_nil]
    exact hprogress.own.read rfl rfl fun hrole => beforeOwn_of_server hrole _ _

theorem Progress.anonymousAccepted {m : Message} {chain : CertificateChain} {s : Session}
    (hprogress : Progress c₀ Good .readCertificate c h handled)
    (hkeeps : c₀.config.KeepsPeer) (hmessage : c.message = some m)
    (htype : m.type = .certificate)
    (hdecode : CertificateChain.decode c.certificateRules m.body = .ok chain)
    (hhook : c.hooked (c.withChain chain) = (.ok (), s)) (hpeer : s.peerCertificates = none)
    (hallowed : c.allowsAnonymous c₀.role = true) :
    Progress c₀ Good .readFinished
      (Context.accept { c with session := { s with verifyResult := .ok } }) (h ++ [])
      (handled ++ [m]) := by
  obtain ⟨rfl, hmacs, hsaved, _⟩ := hprogress.peer.at_readCertificate
  obtain ⟨_, hcertificates⟩ := hprogress.settings.hooked hkeeps hhook
  rw [hprogress.settings.certificateRules] at hdecode
  rw [Context.allowsAnonymous, hprogress.settings.config] at hallowed
  have hempty : chain.certificates = [] := by
    by_cases h : chain.certificates.isEmpty
    · exact List.isEmpty_iff.1 h
    · simp only [hcertificates, Context.withChain, Session.storeChain, h] at hpeer
      cases hpeer
  refine hprogress.receive rfl hmessage (sameSettings_accept hprogress.settings.keep)
    (transcript_accept { c with session := { s with verifyResult := .ok } } hmessage)
    rfl rfl rfl rfl ?_ ?_
  · rw [List.append_nil, hmacs, Context.accept_session]
    exact .anonymous hsaved ⟨htype, hdecode⟩ hempty hallowed hpeer
  · rw [List.append_nil]
    exact hprogress.own.read rfl rfl fun hrole => beforeOwn_of_server hrole _ _

/-- What a flow has read before a signature. -/
theorem PeerFlight.at_readCertificateVerify {before : Bytes} {s : Session}
    {macs : List (Bytes × Bytes)} {saved : Option Bytes}
    (hflight : PeerFlight c₀ before .readCertificateVerify handled s macs saved) :
    ∃ m chain, handled = [m] ∧ macs = [] ∧ c₀.usesSavedFinished c₀.role = false
      ∧ c₀.ReadsChain m chain ∧ s.peerKey = chain.leafKey ∧ chain.certificates ≠ []
      ∧ s.peerCertificates = some chain.certificates := by
  cases hflight with
  | chain hsaved hchain hkey hsome hpeer =>
      exact ⟨_, _, rfl, rfl, hsaved, hchain, hkey, hsome, hpeer⟩
  | waiting _ hphase _ => rcases hphase with h | h | h <;> cases h
  | complete hdone _ _ _ =>
      rcases hdone with h | ⟨_, h | h | h⟩ <;> cases h

theorem Progress.signatureAccepted {m : Message} {key : PublicKey} {verify : CertificateVerify}
    (hprogress : Progress c₀ Good .readCertificateVerify c h handled)
    (hmessage : c.message = some m) (htype : m.type = .certificateVerify)
    (hkey : c.session.peerKey = some key) (hdecode : CertificateVerify.decode m.body = .ok verify)
    (hpolicy : c.config.signaturePolicy.refusal? verify.scheme = none)
    (hverify : key.verify verify.scheme (c.signatureInput c.role.peer) verify.signature = .ok true
      ∨ c.config.insecureFuzzing = true) :
    Progress c₀ Good .readFinished
      (Context.accept { c with session := { c.session with peerScheme := some verify.scheme } })
      (h ++ []) (handled ++ [m]) := by
  have htranscript := hprogress.transcript_peer (h := h) rfl
  obtain ⟨m', chain, rfl, hmacs, hsaved, hchain, hleaf, hsome, hpeer⟩ :=
    hprogress.peer.at_readCertificateVerify
  rw [rawBytes_singleton] at htranscript
  rw [hprogress.settings.signatureInput htranscript, hprogress.settings.role,
    hprogress.settings.config] at hverify
  rw [hprogress.settings.config] at hpolicy
  refine hprogress.receive rfl hmessage (sameSettings_accept hprogress.settings.keep)
    (transcript_accept { c with
      session := { c.session with peerScheme := some verify.scheme } } hmessage)
    rfl rfl rfl rfl ?_ ?_
  · rw [List.append_nil, hmacs, Context.accept_session]
    exact .verified hsaved hchain (hleaf.symm.trans hkey) hsome hpeer
      ⟨htype, hdecode, hpolicy, hverify⟩
  · rw [List.append_nil]
    exact hprogress.own.read rfl rfl fun hrole => beforeOwn_of_server hrole _ _

/-- What a flow has read before Finished. -/
theorem PeerFlight.macs_at_readFinished {before : Bytes} {s : Session}
    {macs : List (Bytes × Bytes)} {saved : Option Bytes}
    (hflight : PeerFlight c₀ before .readFinished handled s macs saved) :
    (c₀.usesSavedFinished c₀.role = false → macs = [])
    ∧ (c₀.usesSavedFinished c₀.role = true →
        handled = [] ∧ ∃ mac, macs = [(c₀.digest before, mac)] ∧ saved = some mac) := by
  cases hflight with
  | unasked hsaved _ =>
      rw [hsaved]
      exact ⟨fun h => Bool.noConfusion h, fun _ => ⟨rfl, _, rfl, rfl⟩⟩
  | anonymous hsaved _ _ _ _ =>
      rw [hsaved]
      exact ⟨fun _ => rfl, fun h => Bool.noConfusion h⟩
  | verified hsaved _ _ _ _ _ =>
      rw [hsaved]
      exact ⟨fun _ => rfl, fun h => Bool.noConfusion h⟩
  | waiting _ hphase _ => rcases hphase with h | h | h <;> cases h
  | complete hdone _ _ _ =>
      rcases hdone with h | ⟨_, h | h | h⟩ <;> cases h

/-- What a flow goes on with once it has read everything. -/
theorem done_or_sends_afterFinished (c₀ c : Context) :
    afterFinished c₀.role c = .done ∨ c₀.role = .client ∧ sends (afterFinished c₀.role c) := by
  cases hrole₀ : c₀.role with
  | server => exact Or.inl rfl
  | client =>
      refine Or.inr ⟨rfl, ?_⟩
      rw [afterFinished]
      split
      · exact Or.inl rfl
      · exact Or.inr (Or.inr rfl)

/-- The own flight once the peer's has been read. -/
theorem Progress.own_afterFinished
    (hprogress : Progress c₀ Good .readFinished c h handled) (before : Bytes)
    (hbefore : c₀.role = .server → before = c₀.beforeOwn handled) :
    OwnFlight c₀ Good before (afterFinished c₀.role c) h.messagesSent (h.macsOf c₀.role) := by
  have hown := hprogress.own
  cases hrole : c₀.role with
  | server =>
      have hdone := hown.of_server_reads hrole rfl
      rw [← hbefore hrole, hrole] at hdone
      exact hdone
  | client =>
      obtain ⟨hsent, hmacs⟩ := hown.of_client_reads hrole rfl
      rw [hrole] at hmacs
      rw [hsent, hmacs, afterFinished, hprogress.settings.certificateRequested]
      split
      · exact .unsent fun _ => ‹_›
      · exact .unasked hrole (Bool.eq_false_iff.2 ‹_›)

theorem Progress.finishedAccepted {m : Message} {mac : Bytes}
    (hprogress : Progress c₀ Good .readFinished c h handled) (hmessage : c.message = some m)
    (htype : m.type = .finished) (hsaved : c.usesSavedFinished c₀.role = false)
    (haccepts : m.body = mac ∨ c.config.insecureFuzzing = true) :
    Progress c₀ Good (afterFinished c₀.role c) c.accept
      (h ++ [.computedMac c.role.peer c.transcript.hash (.ok mac)]) (handled ++ [m]) := by
  rw [Context.usesSavedFinished, hprogress.settings.config] at hsaved
  have hmacs := hprogress.peer.macs_at_readFinished.1 hsaved
  have hpeer := hprogress.peer
  rw [hmacs] at hpeer
  rw [hprogress.settings.config] at haccepts
  have hne : c₀.role.peer ≠ c₀.role := Role.peer_ne c₀.role
  refine hprogress.receive rfl hmessage (sameSettings_accept hprogress.settings)
    (transcript_accept c hmessage) rfl rfl rfl rfl ?_ ?_
  · rw [hprogress.settings.hash (hprogress.transcript_peer rfl), hprogress.settings.role,
      Context.accept_session]
    simpa [hmacs] using
      PeerFlight.complete (done_or_sends_afterFinished c₀ c) hpeer htype haccepts
  · rw [hprogress.settings.role]
    simpa [Event.mac?_computedMac_of_ne hne] using
      hprogress.own_afterFinished _ fun hrole => beforeOwn_of_server hrole _ _

theorem Progress.savedFinishedAccepted {m : Message} {mac : Bytes}
    (hprogress : Progress c₀ Good .readFinished c h handled) (hmessage : c.message = some m)
    (htype : m.type = .finished) (hsaved : c.usesSavedFinished c₀.role = true)
    (hmac : c.expectedClientFinished = some mac)
    (haccepts : m.body = mac ∨ c.config.insecureFuzzing = true) :
    Progress c₀ Good (afterFinished c₀.role c)
      (Context.accept { c with expectedClientFinished := none }) (h ++ []) (handled ++ [m]) := by
  rw [Context.usesSavedFinished, hprogress.settings.config] at hsaved
  obtain ⟨rfl, mac', hmacs, hsome⟩ := hprogress.peer.macs_at_readFinished.2 hsaved
  obtain rfl : mac = mac' := Option.some.inj (hmac.symm.trans hsome)
  have hpeer := hprogress.peer
  rw [hprogress.settings.config] at haccepts
  refine hprogress.receive rfl hmessage (sameSettings_accept hprogress.settings.keep)
    (transcript_accept { c with expectedClientFinished := none } hmessage)
    rfl rfl rfl rfl ?_ ?_
  · rw [List.append_nil, hmacs, Context.accept_session]
    simpa using PeerFlight.complete (done_or_sends_afterFinished c₀ c) hpeer htype haccepts
  · rw [List.append_nil]
    exact hprogress.own_afterFinished _ fun hrole => beforeOwn_of_server hrole _ _

/-- Every turn that does not fail goes on with the flight. -/
theorem Progress.advance {signer? : Option SignerInfo} {turn : Turn}
    (hprogress : Progress c₀ Good phase c h handled)
    (hadvance : Advance c₀.role signer? phase c g turn c')
    (hkeeps : c₀.config.KeepsPeer)
    (hgood : ∀ info scheme signature message, phase = .sendCertificateVerify →
      signer? = some info →
      c.config.signaturePolicy.choose? info.schemes c.peerSchemes = some scheme →
      g = [c.signingEvent scheme info.maxLength (.success signature), .queued message (.ok ())] →
        Good c.transcript.bytes ⟨scheme, signature⟩) :
    ∃ handled', Progress c₀ Good turn.phase c' (h ++ g) handled' := by
  cases hadvance with
  | certificateSent hencode => exact ⟨handled, hprogress.certificateSent hencode⟩
  | signatureDelayed hsigner hscheme =>
      refine ⟨handled, hprogress.idle hprogress.settings.keep rfl rfl rfl rfl ?_ ?_ ?_ ?_⟩
      · rw [History.messagesRead_cons, Context.signingEvent_message?]
        rfl
      · rw [History.messagesSent_cons, Context.signingEvent_sent?]
        rfl
      · rw [History.messagesUnsent_cons, Context.signingEvent_unsent?]
        rfl
      · intro sender
        rw [History.macsOf_cons, Context.signingEvent_mac?]
        rfl
  | signatureSent hsigner hscheme hlength hencode =>
      exact ⟨handled, hprogress.signatureSent hencode
        (hgood _ _ _ _ rfl hsigner hscheme rfl)⟩
  | clientFinishedSent hrole hencode =>
      exact ⟨handled, hprogress.clientFinishedSent hrole hencode⟩
  | serverFinishedSent hrole hverify hencode =>
      exact ⟨handled, hprogress.serverFinishedSent hrole hverify hencode⟩
  | serverFinishedSaved hrole hverify hencode =>
      exact ⟨handled, hprogress.serverFinishedSaved hrole hverify hencode⟩
  | awaiting hphase hmessage =>
      exact ⟨handled, hprogress.idle (g := []) hprogress.settings rfl rfl rfl rfl rfl rfl rfl
        fun _ => rfl⟩
  | chainAccepted hmessage htype hdecode hhook hpeer =>
      exact ⟨_, hprogress.chainAccepted hkeeps hmessage htype hdecode hhook hpeer⟩
  | anonymousAccepted hmessage htype hdecode hhook hpeer hallowed =>
      exact ⟨_, hprogress.anonymousAccepted hkeeps hmessage htype hdecode hhook hpeer hallowed⟩
  | signatureAccepted hmessage htype hkey hdecode hpolicy hverify =>
      exact ⟨_, hprogress.signatureAccepted hmessage htype hkey hdecode hpolicy hverify⟩
  | finishedAccepted hmessage htype hsaved haccepts =>
      exact ⟨_, hprogress.finishedAccepted hmessage htype hsaved haccepts⟩
  | savedFinishedAccepted hmessage htype hsaved hserver hmac haccepts =>
      exact ⟨_, hprogress.savedFinishedAccepted hmessage htype hsaved hmac haccepts⟩
  | done =>
      exact ⟨handled, hprogress.idle (g := []) hprogress.settings rfl rfl rfl rfl rfl rfl rfl
        fun _ => rfl⟩

end Progress

end AuthFlow

end TlsHandshake
