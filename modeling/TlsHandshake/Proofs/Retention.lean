import TlsHandshake.Proofs.Authentication
import TlsHandshake.Proofs.Handshakes

set_option autoImplicit false

/-! # What is retained of the peer's chain

A server may be set up to retain the SHA-256 of its client's leaf. The hash is stored beside the chain
and does not take its place: whether it is retained or not, the session keeps the chain that has been
read. What the session has of the chain is followed through the flight (`retentionInvariant`). Main
statement: `Connection.chain_retained`; `Rehearsal` shows a server that keeps both. -/

namespace TlsHandshake

/-! ## Chains in sessions -/

/-- The chain hook, if there is one, leaves what a session has of the peer's chain as it is. -/
def Config.KeepsChain (config : Config) : Prop :=
  ∀ hook, config.chainHook = some hook → ∀ s, (hook s).2.peerCertificates = s.peerCertificates
    ∧ (hook s).2.peerLeafHash = s.peerLeafHash

/-- Whether an end is to retain the hash of its peer's leaf. -/
def Context.retainsHash (c : Context) : Bool := c.isServer && c.config.retainLeafHash

namespace Session

/-- There is nothing of a chain of the peer in the session. -/
structure Bare (s : Session) : Prop where
  peerCertificates : s.peerCertificates = none
  peerLeafHash : s.peerLeafHash = none

/-- A chain of the peer is in the session, unless it is empty, with the hash of its leaf if that is to
    be retained. -/
structure HasChain (s : Session) (retainsHash : Bool) (chain : CertificateChain) : Prop where
  peerCertificates : s.peerCertificates
    = if chain.certificates.isEmpty then none else some chain.certificates
  peerLeafHash : s.peerLeafHash
    = if retainsHash then chain.certificates.head?.map sha256 else none

/-- There is no hash in a session unless it is to be retained. -/
def HashesIf (s : Session) (retainsHash : Bool) : Prop :=
  retainsHash = false → s.peerLeafHash = none

end Session

/-- A chain of the peer is in the session once it has been stored and the hook has run. -/
theorem Context.SameSettings.hasChain {c₀ c : Context} (hsettings : c₀.SameSettings c)
    (hkeeps : c₀.config.KeepsChain) (hhashes : c.session.HashesIf c₀.retainsHash)
    {chain : CertificateChain} {result : Except Error Unit} {s : Session}
    (hhook : c.hooked (c.withChain chain) = (result, s)) : s.HasChain c₀.retainsHash chain := by
  have hretains : (c.isServer && c.config.retainLeafHash) = c₀.retainsHash := by
    rw [Context.retainsHash, Context.isServer, hsettings.role, hsettings.config]
    rfl
  have hstored : (c.withChain chain).HasChain c₀.retainsHash chain := by
    refine ⟨rfl, ?_⟩
    rw [Context.withChain, hretains, Session.storeChain]
    cases hflag : c₀.retainsHash with
    | true => rfl
    | false => exact hhashes hflag
  rw [Context.hooked, hsettings.config] at hhook
  cases hsome : c₀.config.chainHook with
  | none =>
      rw [hsome] at hhook
      obtain rfl : c.withChain chain = s := (Prod.mk.inj hhook).2
      exact hstored
  | some hook =>
      rw [hsome] at hhook
      obtain rfl : (hook (c.withChain chain)).2 = s := congrArg Prod.snd hhook
      obtain ⟨hcertificates, hhash⟩ := hkeeps hook hsome (c.withChain chain)
      exact ⟨hcertificates.trans hstored.peerCertificates, hhash.trans hstored.peerLeafHash⟩

namespace AuthFlow

open Endpoint

/-! ## The flight -/

section Flight

variable {c₀ c c' : Context} {s s' : Session} {signer? : Option SignerInfo} {phase phase' : Phase}
  {g h : History} {turn : Turn} {e : Error}

/-- A chain that has been read is in the session. -/
def HasRead (c₀ : Context) (s : Session) (h : History) : Prop :=
  ∃ m ∈ h.messagesRead, ∃ chain, c₀.ReadsChain m chain ∧ s.HasChain c₀.retainsHash chain

/-- What is in the session of the chain: one that has been read, or nothing; then no Certificate has
    been read, except perhaps as the last message. -/
def Retained (c₀ : Context) (s : Session) (h : History) : Prop :=
  s.Bare ∧ (∀ m ∈ h.messagesRead, m.type = .certificate → h.messagesRead.getLast? = some m)
    ∨ HasRead c₀ s h

/-- The same between turns: as long as there is nothing of a chain in the session, no Certificate has
    been read, except for the message that is pending. -/
def RetainedLive (c₀ : Context) (c : Context) (h : History) : Prop :=
  c.session.Bare ∧ (∀ m ∈ h.messagesRead, m.type = .certificate → c.message = some m)
    ∨ HasRead c₀ c.session h

/-- The message that is pending is the last one read. -/
theorem RetainedLive.retained (hlive : RetainedLive c₀ c h)
    (hlast : ∀ m, c.message = some m → h.messagesRead.getLast? = some m) :
    Retained c₀ c.session h :=
  hlive.imp_left fun ⟨hbare, hpending⟩ =>
    ⟨hbare, fun m hmem htype => hlast m (hpending m hmem htype)⟩

/-- There is only a hash that is to be retained. -/
theorem RetainedLive.hashesIf (hlive : RetainedLive c₀ c h) :
    c.session.HashesIf c₀.retainsHash := by
  intro hflag
  rcases hlive with ⟨hbare, _⟩ | ⟨_, _, _, _, hchain⟩
  · exact hbare.peerLeafHash
  · rw [hchain.peerLeafHash, hflag]
    rfl

/-- The session is still the same, as far as the chain goes. -/
structure SameChain (s s' : Session) : Prop where
  peerCertificates : s'.peerCertificates = s.peerCertificates := by rfl
  peerLeafHash : s'.peerLeafHash = s.peerLeafHash := by rfl

theorem HasRead.append (hread : HasRead c₀ s h) (hsame : SameChain s s') :
    HasRead c₀ s' (h ++ g) := by
  obtain ⟨m, hmem, chain, hchain, hstored⟩ := hread
  rw [HasRead, History.messagesRead_append]
  exact ⟨m, List.mem_append_left _ hmem, chain, hchain,
    hsame.peerCertificates.trans hstored.peerCertificates,
    hsame.peerLeafHash.trans hstored.peerLeafHash⟩

theorem Retained.append (hretained : Retained c₀ s h) (hsame : SameChain s s')
    (hread : g.messagesRead = []) : Retained c₀ s' (h ++ g) := by
  refine hretained.imp (fun ⟨hbare, hlast⟩ => ⟨⟨hsame.peerCertificates.trans hbare.peerCertificates,
    hsame.peerLeafHash.trans hbare.peerLeafHash⟩, ?_⟩) fun hstored => hstored.append hsame
  rw [History.messagesRead_append, hread, List.append_nil]
  exact hlast

/-- Nothing is read, and no message is pending that is a Certificate. -/
theorem RetainedLive.append (hlive : RetainedLive c₀ c h) (hsame : SameChain c.session c'.session)
    (hread : g.messagesRead = [])
    (hmessage : ∀ m, c.message = some m → m.type = .certificate → c'.message = some m) :
    RetainedLive c₀ c' (h ++ g) := by
  refine hlive.imp (fun ⟨hbare, hpending⟩ => ⟨⟨hsame.peerCertificates.trans hbare.peerCertificates,
    hsame.peerLeafHash.trans hbare.peerLeafHash⟩, fun m hmem htype => ?_⟩)
    fun hread => hread.append hsame
  rw [History.messagesRead_append, hread, List.append_nil] at hmem
  exact hmessage m (hpending m hmem htype) htype

theorem Logged.getLast?_messagesRead (hlogged : Logged c₀ phase c h) (m : Message)
    (hmessage : c.message = some m) : h.messagesRead.getLast? = some m := by
  obtain ⟨before, rfl⟩ := hlogged.pending m hmessage
  rw [History.messagesRead_append]
  exact List.getLast?_concat

/-- A chain that is accepted has been read. -/
theorem Logged.hasRead (hlogged : Logged c₀ phase c h) (hkeeps : c₀.config.KeepsChain)
    (hlive : RetainedLive c₀ c h) {m : Message} {chain : CertificateChain}
    {result : Except Error Unit} (hmessage : c.message = some m) (htype : m.type = .certificate)
    (hdecode : CertificateChain.decode c.certificateRules m.body = .ok chain)
    (hhook : c.hooked (c.withChain chain) = (result, s)) : HasRead c₀ s h := by
  rw [hlogged.settings.certificateRules] at hdecode
  exact ⟨m, List.mem_of_getLast? (hlogged.getLast?_messagesRead m hmessage), chain,
    ⟨htype, hdecode⟩, hlogged.settings.hasChain hkeeps hlive.hashesIf hhook⟩

theorem RetainedLive.advance (hlive : RetainedLive c₀ c h) (hlogged : Logged c₀ phase c h)
    (hkeeps : c₀.config.KeepsChain) (hadvance : Advance c₀.role signer? phase c g turn c') :
    RetainedLive c₀ c' (h ++ g) := by
  have hread := hadvance.ofTurn.messagesRead
  cases hadvance with
  | chainAccepted hmessage htype hdecode hhook =>
      have hstored := hlogged.hasRead hkeeps hlive hmessage htype hdecode hhook
      exact Or.inr (hstored.append (by rw [Context.accept_session]; exact {}))
  | anonymousAccepted hmessage htype hdecode hhook =>
      have hstored := hlogged.hasRead hkeeps hlive hmessage htype hdecode hhook
      exact Or.inr (hstored.append (by rw [Context.accept_session]; exact {}))
  | signatureAccepted hmessage htype | finishedAccepted hmessage htype
  | savedFinishedAccepted hmessage htype =>
      refine hlive.append (by rw [Context.accept_session]; exact {}) hread fun m' hsome htype' => ?_
      obtain rfl := Option.some.inj (hmessage.symm.trans hsome)
      cases htype.symm.trans htype'
  | _ => exact hlive.append {} hread fun _ hsome _ => hsome

theorem RetainedLive.fail (hlive : RetainedLive c₀ c h) (hlogged : Logged c₀ phase c h)
    (hkeeps : c₀.config.KeepsChain) (hfailure : Failure c₀.role signer? phase c g e c') :
    Retained c₀ c'.session (h ++ g) := by
  have hread := hfailure.ofTurn.messagesRead
  cases hfailure with
  | chainRefused hmessage htype hdecode hhook | anonymousRefused hmessage htype hdecode hhook =>
      exact Or.inr ((hlogged.hasRead hkeeps hlive hmessage htype hdecode hhook).append {})
  | _ => exact (hlive.retained hlogged.getLast?_messagesRead).append {} hread

/-- All that a flight does keeps to what is retained of the chain. -/
theorem retentionInvariant (hkeeps : c₀.config.KeepsChain) :
    Invariant c₀ (fun _ c h => RetainedLive c₀ c h) (fun _ c h => RetainedLive c₀ c h)
      (Retained c₀) where
  ended hpaused hlive := hlive.retained fun _ hsome => nomatch hpaused.settled.symm.trans hsome
  rests := by
    intro phase c c' h hpaused hlive hrests _
    rw [← List.append_nil h]
    refine hlive.append ⟨by rw [hrests.same.session], by rw [hrests.same.session]⟩ rfl ?_
    intro m hsome
    cases hpaused.settled.symm.trans hsome
  suspend := by
    intro phase c c' g h outcome hpaused hlive hsettles
    have hsession := hsettles.sameFlight.session
    have hretained : Retained c₀ c.session h :=
      hlive.retained fun _ hsome => nomatch hpaused.settled.symm.trans hsome
    refine ⟨hretained.append ⟨by rw [hsession], by rw [hsession]⟩ hsettles.messagesRead_of_some,
      fun _ => ?_⟩
    refine hlive.append ⟨by rw [hsession], by rw [hsession]⟩ hsettles.messagesRead_of_some ?_
    intro m hsome
    cases hpaused.settled.symm.trans hsome
  settle := by
    intro phase c c' g h hpaused hlive hsettles
    have hsession := hsettles.sameFlight.session
    have hsame : SameChain c.session c'.session := ⟨by rw [hsession], by rw [hsession]⟩
    rcases hsettles.messagesRead_of_none with ⟨hread, hmessage⟩ | ⟨m, hread, hsome, _⟩
    · refine hlive.append hsame hread fun m hpending _ => ?_
      rw [hmessage, hpending]
    · -- the message read is the one pending; what was read before is no Certificate
      refine hlive.imp (fun ⟨hbare, hpending⟩ => ⟨⟨hsame.peerCertificates.trans
        hbare.peerCertificates, hsame.peerLeafHash.trans hbare.peerLeafHash⟩,
        fun m' hmem htype => ?_⟩) fun hstored => hstored.append hsame
      rw [History.messagesRead_append, hread] at hmem
      rcases List.mem_append.1 hmem with hbefore | hlast
      · cases hpaused.settled.symm.trans (hpending m' hbefore htype)
      · rw [List.mem_singleton.1 hlast, hsome]
  next hlogged hlive hadvance := hlive.advance hlogged hkeeps hadvance
  wait hlogged hlive hadvance := by
    have hafter := hlive.advance hlogged hkeeps hadvance
    exact hafter
  fail hlogged hlive hfailure := hlive.fail hlogged hkeeps hfailure

end Flight

end AuthFlow

/-! ## Runs -/

namespace Connection

open AuthFlow

/-- At every point of every run there is in the session either nothing of a chain of the peer or one
    that has been read, and after the hash is stored the chain is still there: a server that is to
    retain the hash of its client's leaf has both, and every other end has the chain and no hash.
    Once a Certificate has been read there is a chain in the session, unless the connection has failed
    before it read another message. -/
theorem chain_retained {ε : Type} [Environment ε] {c : Connection ε} (hfresh : c.Fresh)
    (hkeeps : c.endpoint.context.config.KeepsChain) (hbare : c.endpoint.context.session.Bare)
    (calls : List Call) :
    let start := c.endpoint.context
    let after := (c.run calls).2.endpoint.context
    let read := (c.handshakeHistory calls).messagesRead
    let stored := ∃ m ∈ read, ∃ chain, start.ReadsChain m chain
      ∧ after.session.HasChain (start.isServer && start.config.retainLeafHash) chain
    (after.session.Bare ∨ stored)
    ∧ ∀ m ∈ read, m.type = .certificate →
      stored ∨ after.wait = .error ∧ read.getLast? = some m := by
  intro start after read stored
  have hstart : RetainedLive start start [] := Or.inl ⟨hbare, fun _ hmem => nomatch hmem⟩
  have hrested := hfresh.rested (retentionInvariant hkeeps) hstart calls
  have hretained : Retained start after.session (c.handshakeHistory calls) :=
    hrested.ended (retentionInvariant hkeeps)
  refine ⟨hretained.imp_left And.left, fun m hmem htype => ?_⟩
  cases hrested with
  | failed herror =>
      exact hretained.symm.imp_right fun ⟨_, hlast⟩ => ⟨herror, hlast m hmem htype⟩
  | live _ hpaused hlive =>
      refine hlive.symm.imp_right fun ⟨_, hpending⟩ => ?_
      cases hpaused.settled.symm.trans (hpending m hmem htype)

end Connection

namespace Rehearsal

/-- The server, set up to retain the hash of its client's leaf. -/
def retainingServer : Connection (Station FinishedKeys Signer TicketStore) :=
  server.setContext fun context =>
    { context with config := { context.config with retainLeafHash := true } }

set_option maxRecDepth 100000 in
/-- The retaining server reads a chain and succeeds, with the hash and the chain in its session. -/
theorem retainingServer_done :
    let done := retainingServer.handshake
    (∃ m ∈ (retainingServer.handshakeHistory [.handshake]).messagesRead, m.type = .certificate)
    ∧ (retainingServer.run [.handshake]).2.endpoint.context.wait ≠ .error
    ∧ done.1 = .success
    ∧ done.2.endpoint.context.session.peerLeafHash = some (sha256 (certificate (key .client)))
    ∧ done.2.endpoint.context.session.peerCertificates = some [certificate (key .client)] := by
  decide +kernel

/-- After the retaining server has read the client's chain, the chain is in its session. -/
theorem retainingServer_stored :
    let start := retainingServer.endpoint.context
    let session := (retainingServer.run [.handshake]).2.endpoint.context.session
    ∃ m ∈ (retainingServer.handshakeHistory [.handshake]).messagesRead, ∃ chain,
      start.ReadsChain m chain ∧ session.HasChain true chain := by
  have hfresh : retainingServer.Fresh := ⟨rfl, rfl, (nomatch ·), rfl⟩
  obtain ⟨⟨m, hmem, htype⟩, hwait, _⟩ := retainingServer_done
  obtain ⟨_, hstored⟩ := Connection.chain_retained hfresh nofun ⟨rfl, rfl⟩ [.handshake]
  exact (hstored m hmem htype).resolve_right fun ⟨herror, _⟩ => hwait herror

/-- The retaining server succeeds with the hash of the client's leaf in its session, and the chain is
    in it too. -/
theorem retainingServer_keeps_chain :
    let done := retainingServer.handshake
    done.1 = .success
    ∧ retainingServer.endpoint.context.config.verifyClient = true
    ∧ retainingServer.endpoint.context.config.retainLeafHash = true
    ∧ done.2.endpoint.context.session.peerLeafHash = some (sha256 (certificate (key .client)))
    ∧ done.2.endpoint.context.session.peerCertificates = some [certificate (key .client)] := by
  obtain ⟨_, _, hsuccess, hhash, hchain⟩ := retainingServer_done
  exact ⟨hsuccess, rfl, rfl, hhash, hchain⟩

end Rehearsal

end TlsHandshake
