import Mathlib.Data.List.Infix
import TlsHandshake.Proofs.Authentication
import TlsHandshake.Proofs.Codec
import TlsHandshake.Proofs.Link.Linked

set_option autoImplicit false

/-! # Agreement

Two ends of a link never disagree about what has been said: one transcript always starts with the
other, and once both handshakes have succeeded they are the same, nothing is left on the link, and
each end knows the chain that the other one has shown. The key is that a client has read the whole
flight of its server before it sends anything (`FlightShape.all_read`). -/

namespace TlsHandshake

namespace AuthFlow

/-! ## Transcripts -/

section Outlines

variable {sc cc s c : Context} {hs hc : History} {read read' : List Message} {w w' : Bytes}

/-- One transcript starts with the other, wherever the two flights are. -/
theorem Outline.prefix_or_prefix (hserver : Outline sc s hs read) (hclient : Outline cc c hc read')
    (hsrole : sc.role = .server) (hcrole : cc.role = .client)
    (hstart : sc.transcript.bytes = cc.transcript.bytes) (hsunsent : hs.messagesUnsent = [])
    (hcunsent : hc.messagesUnsent = []) (hto : Delivery hs.messagesSent hc.messagesRead w)
    (hfrom : Delivery hc.messagesSent hs.messagesRead w') :
    c.transcript.bytes <+: s.transcript.bytes ∨ s.transcript.bytes <+: c.transcript.bytes := by
  obtain ⟨pending, hsread⟩ := hserver.read
  obtain ⟨pending', hcread⟩ := hclient.read
  have hhandled : read.map Message.raw <+: hc.messagesSent := by
    refine List.IsPrefix.trans ?_ hfrom.raw_prefix
    rw [hsread, List.map_append]
    exact List.prefix_append _ _
  have hhandled' : read'.map Message.raw <+: hs.messagesSent := by
    refine List.IsPrefix.trans ?_ hto.raw_prefix
    rw [hcread, List.map_append]
    exact List.prefix_append _ _
  have hstranscript := hserver.transcript
  have hctranscript := hclient.transcript
  simp only [Context.afterBoth, hsrole, hsunsent, List.append_nil] at hstranscript
  simp only [Context.afterBoth, hcrole, hcunsent, List.append_nil] at hctranscript
  rw [hstranscript, hctranscript, hstart, rawBytes, rawBytes]
  by_cases hsent : hc.messagesSent = []
  · -- the client has only read, and what it has read is the start of what the server has sent
    left
    rw [hsent, List.prefix_nil] at hhandled
    rw [hsent, hhandled, List.flatten_nil, List.append_nil, List.append_nil]
    exact List.prefix_append_right_inj _ |>.2 hhandled'.flatten
  · -- the client has read all of the server's flight, and the server some of the client's
    right
    obtain ⟨ms, f, rfl, htype⟩ := hclient.finished hcrole (by rwa [hcunsent, List.append_nil])
    obtain ⟨hall, _, _⟩ := hserver.shape.all_read hto hcread htype
    rw [← hall]
    exact List.prefix_append_right_inj _ |>.2 hhandled.flatten

end Outlines

/-! ## Certificates -/

section Flights

variable {c₁ c₂ : Context} {Good : Bytes → CertificateVerify → Prop} {before before' : Bytes}
  {sent : List Bytes} {read : List Message} {s : Session} {macs : List (Bytes × Bytes)}
  {saved : Option Bytes}

/-- The chain that has been read is the one that has been sent. -/
theorem ReadsChain.certificates {m : Message} {raw : Bytes} {chain : CertificateChain}
    (hchain : c₂.ReadsChain m chain) (hframed : m.Framed) (hraw : m.raw = raw)
    (hencode : c₁.chainMessage = .ok raw) : chain.certificates = c₁.config.certificateChain := by
  subst hraw
  have hframe : frame .certificate m.body = .ok m.raw := hchain.type ▸ hframed
  exact CertificateChain.certificates_of_encode hencode hframe hchain.decode

/-- The chain in the session of the reader: none if it has not asked for one or if the sender's is
    empty, and else the sender's. -/
theorem PeerFlight.peerCertificates
    (hread : PeerFlight c₂ before' .readFinished read s macs saved)
    (hsent : OwnFlight c₁ Good before .sendFinished sent []) (hraw : sent = read.map Message.raw)
    (hframed : ∀ m ∈ read, m.Framed) :
    (c₂.usesSavedFinished c₂.role = true → s = c₂.session)
    ∧ (c₂.usesSavedFinished c₂.role = false → s.peerCertificates
        = if c₁.config.certificateChain = [] then none else some c₁.config.certificateChain)
    ∧ (c₁.config.certificateChain = [] → c₂.usesSavedFinished c₂.role = false →
        c₂.allowsAnonymous c₂.role = true) := by
  cases hread with
  | unasked hsaved hsession =>
      rw [hsaved]
      exact ⟨fun _ => hsession, Bool.noConfusion, fun _ => Bool.noConfusion⟩
  | @anonymous m chain _ _ hsaved hchain hempty hallowed hpeer =>
      rcases hsent.at_sendFinished with
        ⟨_, _, rfl⟩ | ⟨raw, _, hencode, ⟨hown, rfl⟩ | ⟨_, v, verify, rfl, _⟩⟩
      · cases hraw
      · rw [hsaved, if_pos hown]
        exact ⟨Bool.noConfusion, fun _ => hpeer, fun _ _ => hallowed⟩
      · cases hraw
  | @verified m v chain key verify _ _ hsaved hchain hkey hsome hpeer hverify =>
      rcases hsent.at_sendFinished with
        ⟨_, _, rfl⟩ | ⟨raw, _, hencode, ⟨_, rfl⟩ | ⟨hown, v', verify', rfl, _⟩⟩
      · cases hraw
      · cases hraw
      · have hsame := ReadsChain.certificates hchain (hframed m List.mem_cons_self)
          (List.cons.inj hraw).1.symm hencode
        rw [hsaved, if_neg hown, ← hsame]
        exact ⟨Bool.noConfusion, fun _ => hpeer, fun hempty => absurd (hsame ▸ hempty) hown⟩
  | waiting _ hphase _ => rcases hphase with h | h | h <;> cases h
  | complete hdone => rcases hdone with h | ⟨_, h | h | h⟩ <;> cases h

end Flights

end AuthFlow

/-! ## Linked pairs -/

open AuthFlow

namespace Linked

variable {κ σ τ : Type} {start : Role → Context} {pair : Pair (Station κ σ τ)} {h : Role → History}

/-- A side that is complete has read all that its peer has sent. -/
theorem complete_side (hlinked : Linked start pair h) {r : Role}
    (hcomplete : (pair.side r).complete = true) :
    ∃ ms f, Progress (start r) (fun _ _ => True) .done (pair.side r).endpoint.context (h r)
        (ms ++ [f])
      ∧ (h r.peer).messagesSent = (ms ++ [f]).map Message.raw
      ∧ (pair.side r.peer).socket.outbound = [] ∧ ∀ m ∈ ms, m.Framed := by
  obtain ⟨hphase, hwait⟩ := hlinked.complete r hcomplete
  have hstanding := hlinked.standing r
  rw [hphase] at hstanding
  cases hstanding with
  | failed hfailed =>
      rw [hwait] at hfailed
      cases hfailed
  | live _ hmessage _ hprogress =>
      obtain ⟨ms, f, mac, _, _, rfl, htype, _⟩ := hprogress.peer.at_done
      have hread := hprogress.read
      rw [hmessage, Option.toList_none] at hread
      have hdelivery := hlinked.delivery r.peer
      rw [Role.peer_peer] at hdelivery
      obtain ⟨_, hpeer⟩ := (hlinked.standing r.peer).outline
      obtain ⟨hsent, _, hway⟩ := hpeer.shape.all_read hdelivery hread htype
      obtain ⟨_, _, _, hframed⟩ := hdelivery
      refine ⟨ms, f, hprogress, hsent, hway, fun m hm => hframed m ?_⟩
      rw [hread, List.append_nil]
      exact List.mem_append_left _ hm

/-- Once both sides are complete, each knows the chain of the other. -/
theorem peerCertificates (hlinked : Linked start pair h)
    (hcomplete : ∀ r, (pair.side r).complete = true) (r : Role) :
    ((start r).usesSavedFinished (start r).role = true →
      (pair.side r).endpoint.context.session = (start r).session)
    ∧ ((start r).usesSavedFinished (start r).role = false →
      (pair.side r).endpoint.context.session.peerCertificates
        = if (start r.peer).config.certificateChain = [] then none
          else some (start r.peer).config.certificateChain)
    ∧ ((start r.peer).config.certificateChain = [] →
      (start r).usesSavedFinished (start r).role = false →
        (start r).allowsAnonymous (start r).role = true) := by
  obtain ⟨ms, f, hprogress, hsent, _, hframed⟩ := hlinked.complete_side (hcomplete r)
  obtain ⟨_, _, hpeer, _⟩ := hlinked.complete_side (hcomplete r.peer)
  obtain ⟨ms', f', _, hsent', _, _, hown⟩ := hpeer.own.at_done
  obtain ⟨ms'', f'', _, _, _, hread, _, _, _, hflight⟩ := hprogress.peer.at_done
  obtain ⟨rfl, rfl⟩ : ms = ms'' ∧ f = f'' := by simpa using hread
  rw [hsent, List.map_append] at hsent'
  exact hflight.peerCertificates hown (List.append_inj' hsent' rfl).1.symm hframed

end Linked

namespace Pair

variable {κ σ τ : Type} [KeySchedule κ] [SigningDevice σ] [TicketHandler τ]

/-- Two ends that agree: their transcripts are the same, nothing is left in a flight or in a stream,
    and each has the chain that the other one has shown. -/
structure Agrees (pair : Pair (Station κ σ τ)) (server client : Config) : Prop where
  transcript : pair.server.endpoint.context.transcript.bytes
    = pair.client.endpoint.context.transcript.bytes
  flights : pair.link.outboxA.flight.toBytes = [] ∧ pair.link.outboxB.flight.toBytes = []
  streams : pair.link.fromA.stream.toBytes = [] ∧ pair.link.fromB.stream.toBytes = []
  serverChain : pair.client.endpoint.context.session.peerCertificates = some server.certificateChain
  clientChain : pair.server.endpoint.context.session.peerCertificates
    = if server.verifyClient = true ∧ client.certificateChain ≠ [] then some client.certificateChain
      else none

/-- Whatever is asked of the two sides in whatever order, one transcript starts with the other, and
    once both handshakes have succeeded, the two sides agree. -/
theorem run_agrees {pair : Pair (Station κ σ τ)} (hfresh : pair.Fresh)
    (hkeeps : ∀ r, (pair.side r).endpoint.context.config.KeepsPeer)
    (requests : List (Role × Request)) :
    let outcomes := (pair.run requests).1
    let after := (pair.run requests).2
    (after.client.endpoint.context.transcript.bytes <+: after.server.endpoint.context.transcript.bytes
      ∨ after.server.endpoint.context.transcript.bytes
        <+: after.client.endpoint.context.transcript.bytes)
    ∧ ((.server, .success) ∈ outcomes → (.client, .success) ∈ outcomes →
      after.Agrees pair.server.endpoint.context.config pair.client.endpoint.context.config) := by
  intro outcomes after
  obtain ⟨h, hlinked⟩ := (Linked.initial hfresh).run hfresh.role hkeeps requests
  change Linked _ after h at hlinked
  refine ⟨?_, fun hserver hclient => ?_⟩
  · obtain ⟨read, hs⟩ := (hlinked.standing .server).outline
    obtain ⟨read', hc⟩ := (hlinked.standing .client).outline
    exact hs.prefix_or_prefix hc (hfresh.role .server) (hfresh.role .client) hfresh.transcripts
      (hlinked.unsent .server) (hlinked.unsent .client) (hlinked.delivery .server)
      (hlinked.delivery .client)
  -- from here on both sides have succeeded, so each has read all that the other one has sent
  have hcomplete : ∀ r, (after.side r).complete = true := by
    intro r
    cases r with
    | server => exact run_complete pair .server requests (Or.inr hserver)
    | client => exact run_complete pair .client requests (Or.inr hclient)
  obtain ⟨ms, f, hs, hcsent, hcway, _⟩ := hlinked.complete_side (hcomplete .server)
  obtain ⟨ms', f', hc, hssent, hsway, _⟩ := hlinked.complete_side (hcomplete .client)
  obtain ⟨hsstream, hsflight⟩ := List.append_eq_nil_iff.1 hsway
  obtain ⟨hcstream, hcflight⟩ := List.append_eq_nil_iff.1 hcway
  obtain ⟨hsession, hsome, _⟩ := hlinked.peerCertificates hcomplete .server
  obtain ⟨_, hsome', hnonempty⟩ := hlinked.peerCertificates hcomplete .client
  refine ⟨?_, ⟨hsflight, hcflight⟩, ⟨hsstream, hcstream⟩, ?_, ?_⟩
  · have hstranscript := hs.transcript
    have hctranscript := hc.transcript
    rw [Context.afterBoth, hfresh.role .server] at hstranscript
    rw [Context.afterBoth, hfresh.role .client] at hctranscript
    change (h .client).messagesSent = _ at hcsent
    change (h .server).messagesSent = _ at hssent
    change after.server.endpoint.context.transcript.bytes = _ at hstranscript
    change after.client.endpoint.context.transcript.bytes = _ at hctranscript
    dsimp only at hstranscript hctranscript
    rw [hstranscript, hctranscript, hcsent, hssent]
    exact congrArg (· ++ _ ++ _) hfresh.transcripts
  · have hclient := Context.usesSavedFinished_of_client (hfresh.role .client)
    have hne : pair.server.endpoint.context.config.certificateChain ≠ [] := fun hempty => by
      have hallowed := hnonempty hempty hclient
      rw [Context.allowsAnonymous_of_client (hfresh.role .client)] at hallowed
      cases hallowed
    exact (hsome' hclient).trans (if_neg hne)
  · have hserver := Context.usesSavedFinished_of_server (hfresh.role .server)
    cases hverify : pair.server.endpoint.context.config.verifyClient with
    | false =>
        rw [if_neg (fun h => Bool.noConfusion h.1)]
        have hsame := hsession (hserver.trans (congrArg not hverify))
        exact (congrArg Session.peerCertificates hsame).trans (hfresh.peerless .server)
    | true =>
        have hchain := hsome (hserver.trans (congrArg not hverify))
        by_cases hempty : pair.client.endpoint.context.config.certificateChain = []
        · rw [if_neg fun h => h.2 hempty]
          exact hchain.trans (if_pos hempty)
        · rw [if_pos ⟨rfl, hempty⟩]
          exact hchain.trans (if_neg hempty)

end Pair

/-! ## A rehearsal -/

namespace Rehearsal

/-- Both ends, with nothing on their link yet. -/
def pair : Pair (Station FinishedKeys Signer TicketStore) where
  server := connection .server []
  client := connection .client []

theorem fresh_pair : pair.Fresh where
  role r := by cases r <;> rfl
  fresh r := by
    cases r with
    | server => exact fresh_connection .server []
    | client => exact fresh_connection .client []
  peerless r := by cases r <;> rfl
  transcripts := rfl
  link := rfl

/-- The two ends, called in turn. -/
def requests : List (Role × Request) :=
  [(.server, .handshake), (.client, .handshake), (.server, .handshake)]

set_option maxRecDepth 100000 in
/-- The two ends of the rehearsal agree. -/
theorem pair_agrees :
    (pair.run requests).2.Agrees pair.server.endpoint.context.config
      pair.client.endpoint.context.config := by
  have houtcomes : (pair.run requests).1
      = [(.server, .needsIo .read), (.client, .success), (.server, .success)] := by decide +kernel
  refine (Pair.run_agrees fresh_pair (fun r => ?_) requests).2 ?_ ?_
  · cases r <;> exact nofun
  · rw [houtcomes]
    decide
  · rw [houtcomes]
    decide

end Rehearsal

end TlsHandshake
