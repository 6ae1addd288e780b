import TlsHandshake.Memory.Desk
import TlsHandshake.Proofs.Mirror

set_option autoImplicit false

/-! # What success means

Once a handshake succeeds, the peer has authenticated itself, whatever messages arrived and however
the calls were made. The flight of the peer at the end of a handshake is read off its `Progress`. -/

namespace TlsHandshake

/-! ## Authentication -/

/-- `certificate` and `verify` authenticate the peer of an end with the settings of `c`: the first one
    has a chain with a key in it, and the second one has a signature of that key over the transcript
    up to the first one. The transcript before them is `before`. -/
structure Context.Authenticates (c : Context) (before : Bytes) (certificate verify : Message)
    (chain : CertificateChain) (key : PublicKey) (signature : CertificateVerify) : Prop where
  chainType : certificate.type = .certificate
  chainDecodes : CertificateChain.decode c.certificateRules certificate.body = .ok chain
  chainNonempty : chain.certificates ≠ []
  leafKey : chain.leafKey = some key
  verifyType : verify.type = .certificateVerify
  verifyDecodes : CertificateVerify.decode verify.body = .ok signature
  schemeAccepted : c.config.signaturePolicy.refusal? signature.scheme = none
  verifies : key.verify signature.scheme
    (TlsHandshake.signatureInput (c.digest (before ++ certificate.raw)) (.ofRole c.role.peer))
    signature.signature = .ok true

namespace AuthFlow

/-! ## The peer's flight -/

section PeerFlight

variable {c₀ : Context} {before : Bytes} {handled : List Message} {s : Session}
  {macs : List (Bytes × Bytes)} {saved : Option Bytes}

/-- Once everything is done, all of the peer's flight has been read, and Finished came last. -/
theorem PeerFlight.at_done (hflight : PeerFlight c₀ before .done handled s macs saved) :
    ∃ ms finished mac earlier saved', handled = ms ++ [finished] ∧ finished.type = .finished
      ∧ macs = [(c₀.digest (before ++ rawBytes ms), mac)]
      ∧ (finished.body = mac ∨ c₀.config.insecureFuzzing = true)
      ∧ PeerFlight c₀ before .readFinished ms s earlier saved' := by
  cases hflight with
  | waiting _ hphase => rcases hphase with h | h | h <;> cases h
  | complete _ hflight htype hbody => exact ⟨_, _, _, _, _, rfl, htype, rfl, hbody, hflight⟩

/-- What has been read before Finished. -/
theorem PeerFlight.at_readFinished
    (hflight : PeerFlight c₀ before .readFinished handled s macs saved)
    (hsecure : c₀.config.insecureFuzzing = false) :
    (c₀.usesSavedFinished c₀.role = true ∧ handled = [])
    ∨ (c₀.usesSavedFinished c₀.role = false
      ∧ ((∃ certificate chain, handled = [certificate] ∧ c₀.ReadsChain certificate chain
          ∧ chain.certificates = [] ∧ c₀.allowsAnonymous c₀.role = true)
        ∨ ∃ certificate verify chain key signature, handled = [certificate, verify]
          ∧ c₀.Authenticates before certificate verify chain key signature)) := by
  cases hflight with
  | unasked hsaved _ => exact Or.inl ⟨hsaved, rfl⟩
  | anonymous hsaved hchain hempty hallowed _ =>
      exact Or.inr ⟨hsaved, Or.inl ⟨_, _, rfl, hchain, hempty, hallowed⟩⟩
  | verified hsaved hchain hkey hsome _ hverify =>
      have hverified := hverify.verified
      rw [hsecure, Bool.false_eq_true, or_false] at hverified
      exact Or.inr ⟨hsaved, Or.inr ⟨_, _, _, _, _, rfl, ⟨hchain.type, hchain.decode, hsome, hkey,
        hverify.type, hverify.decode, hverify.accepted, hverified⟩⟩⟩
  | waiting _ hphase _ => rcases hphase with h | h | h <;> cases h
  | complete hdone => rcases hdone with h | ⟨_, h | h | h⟩ <;> cases h

end PeerFlight

end AuthFlow

/-! ## A rehearsal

Two ends that authenticate each other, with keys and signatures that were recorded once. -/

namespace Rehearsal

/-- A DER element with a content of fewer than 128 bytes. -/
def element (tag : UInt8) (content : Bytes) : Bytes := tag :: UInt8.ofNat content.length :: content

/-- A certificate with an Ed25519 key and nothing else in it that is looked at. -/
def certificate (key : Bytes) : Bytes :=
  let algorithm := element 0x30 (element 0x06 PublicKey.ed25519Id)
  let name := element 0x30 []
  let time := element 0x17
    [0x32, 0x36, 0x30, 0x31, 0x30, 0x31, 0x30, 0x30, 0x30, 0x30, 0x30, 0x30, 0x5a]
  let body := element 0x02 [1] ++ algorithm ++ name ++ element 0x30 (time ++ time) ++ name
    ++ element 0x30 (algorithm ++ element 0x03 (0 :: key))
  element 0x30 (element 0x30 body ++ algorithm ++ element 0x03 [0])

/-- The public keys, those of the seeds that repeat the byte 1 and the byte 2. -/
def key : Role → Bytes
  | .server => .ofNat 32 0x8a88e3dd7409f195fd52db2d3cba5d72ca6709bf1d94121bf3748801b40f6f5c
  | .client => .ofNat 32 0x8139770ea87d175f56a35466c34c7ecccb8d8a91b4ee37a25df60f5b8fc9b394

/-- The signatures of these keys over the transcripts of the rehearsal. -/
def signature : Role → Bytes
  | .server => Bytes.ofNat 32 0xc7e92b40d20e87da9d1ca854c01ed076d13168939b6e2d5d54df1ef69464e0bc
      ++ Bytes.ofNat 32 0x41d070677cc49634467ef3d03ed2f5079cd0b21c846bd23d481afbf5fad81404
  | .client => Bytes.ofNat 32 0x345064f6dbe10d291f0fba7f744f1f9b1b9381589bb07c8bcbbf32a1637ff0d0
      ++ Bytes.ofNat 32 0x1dac881e999273d58df929dd3680a49cf19e6650176badcf96fc53a14918080c

/-- The surroundings of an end that has `incoming` to read. -/
def station (role : Role) (incoming : Bytes) : Station FinishedKeys Signer TicketStore where
  socket := { incoming := { stream := .ofBytes incoming } }
  keys := { algorithm := .sha256, clientKey := [1], serverKey := [2] }
  signer := some { key := .ed25519 [], fixed := some (signature role) }

/-- An end that shows a chain and asks for one; there is a byte in its transcript already. -/
def connection (role : Role) (incoming : Bytes) :
    Connection (Station FinishedKeys Signer TicketStore) :=
  Connection.setContext
    (.new
      { role := role, certificateChain := [certificate (key role)], verifyClient := true,
        requireClient := true }
      (station role incoming))
    fun context => { context.record [0] with certificateRequested := true }

/-- What an end hands to its peer during its first call of `handshake`. -/
def flight (role : Role) (incoming : Bytes) : Bytes :=
  (connection role incoming).handshake.2.endpoint.environment.socket.outgoing.stream.toBytes

/-- The client, with the whole flight of the server to read. -/
def client : Connection (Station FinishedKeys Signer TicketStore) :=
  connection .client (flight .server [])

/-- The server, with the whole flight of the client to read. -/
def server : Connection (Station FinishedKeys Signer TicketStore) :=
  connection .server (flight .client (flight .server []))

theorem fresh_connection (role : Role) (incoming : Bytes) : (connection role incoming).Fresh where
  flow := rfl
  incomplete := rfl
  wait h := by rcases h with h | h <;> cases h
  message := rfl

end Rehearsal

/-! ## Success -/

namespace Connection

open AuthFlow

variable {ε : Type} [Environment ε]

/-- The calls do not have the handshake succeed, and one more call of `handshake` does. -/
structure SucceedsAfter (c : Connection ε) (calls : List Call) : Prop where
  first : Answer.ended .success ∉ (c.run calls).1
  success : (c.run calls).2.handshake.1 = .success

/-- At its first success a handshake is through with both flights. -/
theorem SucceedsAfter.progress {c : Connection ε} {calls : List Call} (hfresh : c.Fresh)
    (hkeeps : c.endpoint.context.config.KeepsPeer) (hsucceeds : c.SucceedsAfter calls) :
    ∃ context handled, context.message = none
      ∧ Progress c.endpoint.context (fun _ _ => True) .done context
        (c.history (calls ++ [.handshake])) handled := by
  obtain ⟨hfirst, hsuccess⟩ := hsucceeds
  rw [run_recorded] at hfirst hsuccess
  rw [handshake_forget] at hsuccess
  have hcomplete := run_complete c.recorded calls hfresh.incomplete hfirst
  obtain ⟨hstanding, hwait⟩ :=
    ((hfresh.stands.run hkeeps calls).handshake hkeeps).2 hcomplete hsuccess
  have hhistory : (c.recorded.run calls).2.handshake.2.endpoint.environment.history
      = c.history (calls ++ [.handshake]) := by
    rw [history, run_append]
    rfl
  rw [hhistory] at hstanding
  cases hstanding with
  | failed hfailed =>
      rw [hwait] at hfailed
      cases hfailed
  | live _ hmessage _ hprogress => exact ⟨_, _, hmessage, hprogress⟩

/-- At its first success a handshake has read a whole flight of the peer, and the MAC in the peer's
    Finished is the one computed over the transcript before it. -/
theorem SucceedsAfter.peerFlight {c : Connection ε} {calls : List Call} (hfresh : c.Fresh)
    (hsecure : c.endpoint.context.config.insecureFuzzing = false)
    (hkeeps : c.endpoint.context.config.KeepsPeer) (hsucceeds : c.SucceedsAfter calls) :
    let h := c.history (calls ++ [.handshake])
    let start := c.endpoint.context
    ∃ ms finished s macs saved, h.messagesRead = ms ++ [finished] ∧ finished.type = .finished
      ∧ h.macsOf start.role.peer
        = [(start.digest (start.beforePeer h.messagesSent ++ rawBytes ms), finished.body)]
      ∧ PeerFlight start (start.beforePeer h.messagesSent) .readFinished ms s macs saved := by
  intro h start
  obtain ⟨context, handled, hmessage, hprogress⟩ := hsucceeds.progress hfresh hkeeps
  obtain ⟨ms, finished, mac, macs, saved, rfl, htype, hmacs, hbody, hflight⟩ :=
    hprogress.peer.at_done
  rw [hsecure, Bool.false_eq_true, or_false] at hbody
  rw [← hbody] at hmacs
  have hread := hprogress.read
  rw [hmessage, Option.toList_none, List.append_nil] at hread
  exact ⟨ms, finished, _, macs, saved, hread, htype, hmacs, hflight⟩

/-- A client whose handshake succeeds has read exactly a chain, a signature and Finished of its
    server; they authenticate the server, and the MAC in Finished is the one that the key schedule
    has answered for the transcript up to the signature. -/
theorem client_authenticates_server {c : Connection ε} (calls : List Call) (hfresh : c.Fresh)
    (hrole : c.endpoint.context.role = .client)
    (hsecure : c.endpoint.context.config.insecureFuzzing = false)
    (hkeeps : c.endpoint.context.config.KeepsPeer) (hsucceeds : c.SucceedsAfter calls) :
    let h := c.history (calls ++ [.handshake])
    let start := c.endpoint.context
    let before := start.transcript.bytes
    ∃ certificate verify finished chain key signature,
      h.messagesRead = [certificate, verify, finished]
      ∧ start.Authenticates before certificate verify chain key signature
      ∧ finished.type = .finished
      ∧ h.macsOf .server
        = [(start.digest (before ++ certificate.raw ++ verify.raw), finished.body)] := by
  intro h start before
  obtain ⟨ms, finished, s, macs, saved, hread, htype, hmacs, hflight⟩ :=
    hsucceeds.peerFlight hfresh hsecure hkeeps
  have hbefore : start.beforePeer h.messagesSent = before := by
    simp only [Context.beforePeer, start, before, hrole]
  have hpeer : start.role.peer = .server := by
    rw [show start.role = .client from hrole]
    rfl
  rw [hbefore] at hflight
  rcases hflight.at_readFinished hsecure with
    ⟨hsaved, _⟩ | ⟨_, ⟨_, _, _, _, _, hallowed⟩ | hverified⟩
  · rw [Context.usesSavedFinished_of_client hrole] at hsaved
    cases hsaved
  · rw [Context.allowsAnonymous_of_client hrole] at hallowed
    cases hallowed
  · obtain ⟨certificate, verify, chain, key, signature, rfl, hauthenticates⟩ := hverified
    refine ⟨certificate, verify, finished, chain, key, signature, hread, hauthenticates, htype, ?_⟩
    rw [List.append_assoc, ← rawBytes_pair, ← hbefore, ← hpeer]
    exact hmacs

set_option maxRecDepth 100000 in
/-- The client of the rehearsal authenticates its server. -/
theorem rehearsal_authenticates_server :
    let h := Rehearsal.client.history [.handshake]
    let start := Rehearsal.client.endpoint.context
    ∃ certificate verify finished chain key signature,
      h.messagesRead = [certificate, verify, finished]
      ∧ start.Authenticates [0] certificate verify chain key signature
      ∧ finished.type = .finished
      ∧ h.macsOf .server
        = [(start.digest ([0] ++ certificate.raw ++ verify.raw), finished.body)] :=
  have hsucceeds : Rehearsal.client.SucceedsAfter [] := ⟨List.not_mem_nil, by decide +kernel⟩
  client_authenticates_server [] (Rehearsal.fresh_connection _ _) rfl rfl nofun hsucceeds

/-- A server whose handshake succeeds has read what it asks for, after its own flight. Without client
    authentication that is Finished alone, with the MAC that the key schedule has answered for the
    transcript up to the own Finished. With it that is also a chain and a signature that authenticate
    the client, or an empty chain if that is allowed, and the MAC covers those too. -/
theorem server_authenticates_client {c : Connection ε} (calls : List Call) (hfresh : c.Fresh)
    (hrole : c.endpoint.context.role = .server)
    (hsecure : c.endpoint.context.config.insecureFuzzing = false)
    (hkeeps : c.endpoint.context.config.KeepsPeer) (hsucceeds : c.SucceedsAfter calls) :
    let h := c.history (calls ++ [.handshake])
    let start := c.endpoint.context
    let before := start.transcript.bytes ++ h.messagesSent.flatten
    (start.config.verifyClient = false →
      ∃ finished, h.messagesRead = [finished] ∧ finished.type = .finished
        ∧ h.macsOf .client = [(start.digest before, finished.body)])
    ∧ (start.config.verifyClient = true →
      (∃ certificate verify finished chain key signature,
        h.messagesRead = [certificate, verify, finished]
        ∧ start.Authenticates before certificate verify chain key signature
        ∧ finished.type = .finished
        ∧ h.macsOf .client
          = [(start.digest (before ++ certificate.raw ++ verify.raw), finished.body)])
      ∨ ∃ certificate finished chain, h.messagesRead = [certificate, finished]
        ∧ start.ReadsChain certificate chain ∧ chain.certificates = []
        ∧ start.config.requireClient = false ∧ finished.type = .finished
        ∧ h.macsOf .client = [(start.digest (before ++ certificate.raw), finished.body)]) := by
  intro h start before
  obtain ⟨ms, finished, s, macs, saved, hread, htype, hmacs, hflight⟩ :=
    hsucceeds.peerFlight hfresh hsecure hkeeps
  have hbefore : start.beforePeer h.messagesSent = before := by
    simp only [Context.beforePeer, start, before, hrole]
  have hpeer : start.role.peer = .client := by
    rw [show start.role = .server from hrole]
    rfl
  change h.macsOf start.role.peer
    = [(start.digest (start.beforePeer h.messagesSent ++ _), _)] at hmacs
  rw [hbefore] at hflight
  rw [hpeer, hbefore] at hmacs
  rcases hflight.at_readFinished hsecure with
    ⟨hsaved, rfl⟩ | ⟨hsaved, ⟨certificate, chain, rfl, hchain, hempty, hallowed⟩ | hverified⟩
  · rw [Context.usesSavedFinished_of_server hrole, Bool.not_eq_true'] at hsaved
    rw [rawBytes_nil, List.append_nil] at hmacs
    exact ⟨fun _ => ⟨finished, hread, htype, hmacs⟩, fun hasked => by
      rw [hsaved] at hasked
      cases hasked⟩
  · rw [Context.usesSavedFinished_of_server hrole, Bool.not_eq_false'] at hsaved
    rw [Context.allowsAnonymous_of_server hrole, Bool.not_eq_true'] at hallowed
    rw [rawBytes_singleton] at hmacs
    exact ⟨fun hasked => (by rw [hsaved] at hasked; cases hasked), fun _ => Or.inr
      ⟨certificate, finished, chain, hread, hchain, hempty, hallowed, htype, hmacs⟩⟩
  · obtain ⟨certificate, verify, chain, key, signature, rfl, hauthenticates⟩ := hverified
    rw [Context.usesSavedFinished_of_server hrole, Bool.not_eq_false'] at hsaved
    refine ⟨fun hasked => (by rw [hsaved] at hasked; cases hasked), fun _ => Or.inl
      ⟨certificate, verify, finished, chain, key, signature, hread, hauthenticates, htype, ?_⟩⟩
    rw [List.append_assoc, ← rawBytes_pair]
    exact hmacs

set_option maxRecDepth 100000 in
/-- The server of the rehearsal authenticates its client. -/
theorem rehearsal_authenticates_client :
    let h := Rehearsal.server.history [.handshake]
    let start := Rehearsal.server.endpoint.context
    let before := [0] ++ h.messagesSent.flatten
    (∃ certificate verify finished chain key signature,
      h.messagesRead = [certificate, verify, finished]
      ∧ start.Authenticates before certificate verify chain key signature
      ∧ finished.type = .finished
      ∧ h.macsOf .client
        = [(start.digest (before ++ certificate.raw ++ verify.raw), finished.body)])
    ∨ ∃ certificate finished chain, h.messagesRead = [certificate, finished]
      ∧ start.ReadsChain certificate chain ∧ chain.certificates = []
      ∧ start.config.requireClient = false ∧ finished.type = .finished
      ∧ h.macsOf .client = [(start.digest (before ++ certificate.raw), finished.body)] :=
  have hsucceeds : Rehearsal.server.SucceedsAfter [] := ⟨List.not_mem_nil, by decide +kernel⟩
  (server_authenticates_client [] (Rehearsal.fresh_connection _ _) rfl rfl nofun hsucceeds).2 rfl

end Connection

end TlsHandshake
