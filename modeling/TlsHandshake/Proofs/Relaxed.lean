import TlsHandshake.Proofs.Handshakes
import TlsHandshake.Proofs.InternalErrors

set_option autoImplicit false

/-! # Fuzzing mode

In fuzzing mode a signature of the peer need not verify and its Finished need not match, and nothing
else is any different. Two runs that differ in this mode alone are compared call by call: a call that
differs is one in which the strict end refuses what the peer proves itself with (`call_relaxed`).
Main statement: `Connection.run_relaxed`, as long as that does not happen the two runs are the
same. -/

namespace TlsHandshake

/-! ## The mode -/

/-- The context in fuzzing mode. -/
def Context.relaxed (c : Context) : Context :=
  { c with config := { c.config with insecureFuzzing := true } }

/-- The connection in fuzzing mode. -/
def Connection.relaxed {ε : Type} (c : Connection ε) : Connection ε := c.setContext Context.relaxed

theorem resultIn_id {σ α : Type} (r : EStateM.Result Error σ α) : resultIn id r = r := by
  cases r <;> rfl

/-- The same surroundings, with the endpoint in fuzzing mode. -/
def View.relaxing (ε : Type) [Environment ε] : View ε ε where
  environment := id
  loose := true
  flushFlight _ := (resultIn_id _).symm
  expectFlight _ := rfl
  readMessage _ := (resultIn_id _).symm
  readChangeCipherSpec _ := (resultIn_id _).symm
  addMessage _ _ := (resultIn_id _).symm
  sendAlert _ _ := rfl
  finishedMac _ _ _ := (resultIn_id _).symm
  rotateTrafficKey _ _ := (resultIn_id _).symm
  signer? _ := rfl
  sign _ _ _ _ := rfl
  completeSignature _ _ := rfl
  handlesTickets _ := rfl
  storeTicket _ _ _ := (resultIn_id _).symm

/-! ## Peers that do not prove themselves -/

/-- The message pending is one with which the peer does not prove itself, and the error tells which:
    a CertificateVerify with a signature that the peer's key does not verify, though its scheme is
    accepted, or a Finished other than one that is expected. -/
inductive Context.Unproven (c : Context) (Expected : Bytes → Prop) : Error → Prop
  | signature {m : Message} {key : PublicKey} {verify : CertificateVerify}
      (hmessage : c.message = some m) (htype : m.type = .certificateVerify)
      (hkey : c.session.peerKey = some key) (hdecode : CertificateVerify.decode m.body = .ok verify)
      (haccepted : c.config.signaturePolicy.refusal? verify.scheme = none)
      (hverify : key.verify verify.scheme (c.signatureInput c.role.peer) verify.signature
        ≠ .ok true) : Unproven c Expected .badSignature
  | finished {m : Message} {mac : Bytes} (hmessage : c.message = some m)
      (htype : m.type = .finished) (hexpected : Expected mac) (hbody : m.body ≠ mac) :
      Unproven c Expected .finishedMismatch

/-- The MACs by which the peer's Finished may be judged: the one saved at first, and those that are
    computed. -/
def Context.Expects (c : Context) (h : History) (mac : Bytes) : Prop :=
  c.expectedClientFinished = some mac ∨ ∃ transcriptHash, (transcriptHash, mac) ∈ h.macsOf c.role.peer

/-- A wait that cannot be settled is reported by its error, unless the call had failed before. -/
theorem Endpoint.Settles.alerts_of_fatal {c c' : Context} {h : History} {e : Error}
    (hsettles : Settles c h (some (.fatal e)) c') :
    h.alerts = [] ∨ h.alerts = (History.report e).alerts := by
  generalize houtcome : some (Outcome.fatal e) = o at hsettles
  cases hsettles <;> cases houtcome
  case failed => exact Or.inl rfl
  all_goals exact Or.inr (by simp [Event.alert?])

namespace AuthFlow

open Endpoint

variable {c₀ c c' : Context} {role : Role} {signer? : Option SignerInfo} {phase phase' : Phase}
  {g h : History} {e : Error}

/-- The settings are the ones of the start, and so is the MAC that is saved, unless it has been
    computed since. -/
structure SavedSince (c₀ : Context) (c : Context) (h : History) : Prop where
  settings : c₀.SameSettings c
  saved : ∀ mac, c.expectedClientFinished = some mac →
    c₀.expectedClientFinished = some mac ∨ ∃ transcriptHash, (transcriptHash, mac) ∈ h.macsOf .client

theorem SavedSince.start (c : Context) : SavedSince c c [] := ⟨.refl c, fun _ hmac => Or.inl hmac⟩

/-- What is saved stays where it is, or is used up. -/
theorem SavedSince.keep (hsince : SavedSince c₀ c h) (hsettings : c₀.SameSettings c')
    (hsaved : c'.expectedClientFinished = c.expectedClientFinished
      ∨ c'.expectedClientFinished = none) : SavedSince c₀ c' (h ++ g) := by
  refine ⟨hsettings, fun mac hmac => ?_⟩
  rcases hsaved with hsame | hnone
  · refine (hsince.saved mac (hsame ▸ hmac)).imp id fun ⟨transcriptHash, hmem⟩ => ?_
    rw [History.macsOf_append]
    exact ⟨transcriptHash, List.mem_append_left _ hmem⟩
  · rw [hnone] at hmac
    cases hmac

theorem SavedSince.settles {o : Option Outcome} (hsince : SavedSince c₀ c h)
    (hsettles : Settles c g o c') : SavedSince c₀ c' (h ++ g) :=
  have hsame := hsettles.sameFlight
  hsince.keep (SameSettings.of_sameFlight hsince.settings hsame) (Or.inl hsame.expectedClientFinished)

theorem SavedSince.advance {turn : Turn} (hsince : SavedSince c₀ c h)
    (hadvance : Advance role signer? phase c g turn c') : SavedSince c₀ c' (h ++ g) := by
  have hsettings := hadvance.sameSettings hsince.settings
  cases hadvance with
  | @serverFinishedSaved _ _ message =>
      refine ⟨hsettings, fun mac hmac => Or.inr ⟨(c.record message).transcript.hash, ?_⟩⟩
      obtain rfl := Option.some.inj hmac
      rw [History.macsOf_append]
      exact List.mem_append_right _ (by simp)
  | savedFinishedAccepted =>
      exact hsince.keep hsettings (Or.inr (Context.accept_expectedClientFinished _))
  | chainAccepted | anonymousAccepted | signatureAccepted | finishedAccepted =>
      exact hsince.keep hsettings (Or.inl (Context.accept_expectedClientFinished _))
  | _ => exact hsince.keep hsettings (Or.inl rfl)

theorem SavedSince.fail (hsince : SavedSince c₀ c h)
    (hfailure : Failure role signer? phase c g e c') : SavedSince c₀ c' (h ++ g) := by
  cases hfailure with
  | savedFinishedMissing | savedFinishedRefused =>
      exact hsince.keep hsince.settings.keep (Or.inr rfl)
  | _ => exact hsince.keep hsince.settings.keep (Or.inl rfl)

theorem savedSince_kept (ε : Type) [Environment ε] (c₀ : Context) (role : Role) :
    Kept (ε := ε) role (fun _ p h => SavedSince c₀ p.context h)
      (fun _ p h => SavedSince c₀ p.context h) where
  suspend hsince hsettled := hsince.settles hsettled.1
  settle hsince hsettled := hsince.settles hsettled.1
  next hsince hturn := hsince.advance hturn.1
  wait hsince hturn :=
    have hafter := hsince.advance hturn.1
    ⟨hafter.settings.keep, hafter.saved⟩
  fail hsince hturn :=
    have hafter := hsince.fail hturn.1
    ⟨hafter.settings.keep, hafter.saved⟩

/-- Only a peer that does not prove itself is told that what it has sent cannot be decrypted. -/
theorem Failure.unproven (hfailure : Failure role signer? phase c g e c')
    (hsince : SavedSince c₀ c h) (he : e = .badSignature ∨ e = .finishedMismatch)
    (halert : .fatal .decryptError ∈ g.alerts) : c'.Unproven (c₀.Expects (h ++ g)) e := by
  have hrole : c.role = c₀.role := hsince.settings.role
  cases hfailure with
  | signatureRefused hmessage htype hkey hdecode hpolicy hverify =>
      exact .signature hmessage htype hkey hdecode hpolicy hverify
  | savedFinishedRefused hmessage htype _ hserver hmac hbody =>
      refine .finished hmessage htype ?_ hbody
      refine (hsince.saved _ hmac).imp id fun ⟨transcriptHash, hmem⟩ => ⟨transcriptHash, ?_⟩
      have hpeer : c₀.role.peer = .client := by
        rw [← hrole]
        rw [Context.isServer] at hserver
        cases hc : c.role with
        | server => rfl
        | client => rw [hc] at hserver; cases hserver
      rw [hpeer, History.macsOf_append]
      exact List.mem_append_left _ hmem
  | finishedRefused hmessage htype _ hbody =>
      refine .finished hmessage htype (Or.inr ⟨c.transcript.hash, ?_⟩) hbody
      rw [hrole, History.macsOf_append]
      exact List.mem_append_right _ (by simp)
  | schemeRefused => rcases he with he | he <;> cases he
  | chainUndecodable => rcases he with rfl | rfl <;> exact absurd halert (by decide)
  | signatureFailed | signatureTooLong | signatureUnencodable | signatureUnqueued =>
      rw [← List.singleton_append, ((History.quiet_signingEvent _ _ _ _).before _).1] at halert
      simp [Event.alert?, Alert.fatal] at halert
  | _ => simp [Event.alert?, Alert.fatal] at halert

/-- A call fails by a peer that does not prove itself only where such a peer's message is pending. -/
theorem Drives.unproven {ε : Type} [Environment ε] {p q : Endpoint ε}
    (hdrives : Drives role phase p h (.fatal e) phase' q)
    (he : e = .badSignature ∨ e = .finishedMismatch) (halert : .fatal .decryptError ∈ h.alerts) :
    q.context.Unproven (p.context.Expects h) e := by
  obtain ⟨before, last, phase₁, p₁, p₂, rfl, hquiet, horigin⟩ :=
    (savedSince_kept ε p.context role).origin (SavedSince.start p.context) hdrives
  rw [(hquiet.before last).1] at halert
  rcases horigin with hsettled | ⟨hsince, hturn, rfl⟩
  · rcases hsettled.1.alerts_of_fatal with hnone | hreport
    · rw [hnone] at halert
      cases halert
    · -- an error of the record layer is reported as what it is, whatever error it is
      rw [hreport] at halert
      rcases he with rfl | rfl <;> cases List.mem_singleton.1 halert
  · rw [List.nil_append] at hsince
    have hunproven := Failure.unproven hturn.1 hsince he halert
    cases hunproven with
    | signature hmessage htype hkey hdecode haccepted hverify =>
        exact .signature hmessage htype hkey hdecode haccepted hverify
    | finished hmessage htype hexpected hbody => exact .finished hmessage htype hexpected hbody

end AuthFlow

/-! ## Runs -/

namespace Connection

variable {ε : Type} [Environment ε]

/-- Going on with the handshake ends with an alert, since with the message then pending the peer does
    not prove itself. -/
def RefusesPeer (c : Connection ε) : Prop :=
  ∃ e, c.handshake.1 = .fatal e ∧ .fatal .decryptError ∈ (c.history [.handshake]).alerts
    ∧ c.handshake.2.endpoint.context.Unproven
      (c.endpoint.context.Expects (c.history [.handshake])) e

/-- None of the calls ends with the peer refused. -/
def NeverRefuses (c : Connection ε) : List Call → Prop
  | [] => True
  | call :: calls => (call = .handshake → ¬ c.RefusesPeer) ∧ NeverRefuses (c.call call).2 calls

/-- A call in which a proof of the peer is refused where fuzzing mode would not is one of
    `handshake`. -/
theorem refusesPeer_of_refused {c : Connection ε} {call : Call} {e : Error} {env : Recorded ε}
    (he : e = .badSignature ∨ e = .finishedMismatch)
    (hanswer : (c.recorded.call call).1 = .ended (.fatal e))
    (hsent : (c.recorded.call call).2.endpoint.environment
      = Environment.sendAlert (.fatal .decryptError) env) :
    call = .handshake ∧ c.RefusesPeer := by
  cases call with
  | handshake =>
      have hhandshake : c.handshake.1 = .fatal e := by
        rw [← forget_recorded c, handshake_forget]
        exact Answer.ended.inj hanswer
      have halert : Alert.fatal .decryptError ∈ (c.history [.handshake]).alerts := by
        change _ ∈ (c.recorded.call .handshake).2.endpoint.environment.history.alerts
        rw [hsent]
        change _ ∈ (env.history ++ [Event.fatal .decryptError]).alerts
        rw [History.alerts_append]
        exact List.mem_append_right _ (List.mem_singleton_self _)
      refine ⟨rfl, e, hhandshake, halert, ?_⟩
      obtain ⟨c', hcalled, hafter⟩ := history_called c .handshake
      change c.handshake.2 = c'.forget at hafter
      rw [hafter]
      rw [show (c.call .handshake).1 = .ended (.fatal e) from congrArg Answer.ended hhandshake]
        at hcalled
      generalize c.history [.handshake] = h at hcalled halert ⊢
      cases hcalled with
      | handshake hdrives => exact hdrives.unproven he halert
  | processPostHandshake | flush | keyUpdate _ | resetEarlyDataReject => cases hanswer

/-- In fuzzing mode a call does the same, unless the peer is refused. -/
theorem call_relaxed (c : Connection ε) (call : Call) :
    (c.relaxed.call call = ((c.call call).1, (c.call call).2.relaxed)
      ∧ c.relaxed.history [call] = c.history [call])
    ∨ call = .handshake ∧ c.RefusesPeer := by
  rcases (View.relaxing (Recorded ε)).call_mirrors c.recorded call with
    h | ⟨e, env, hrefused, hanswer, hsent⟩
  · have h : c.relaxed.recorded.call call
      = ((c.recorded.call call).1, (c.recorded.call call).2.relaxed) := h
    have hrelaxed : c.relaxed.call call = ((c.relaxed.recorded.call call).1,
      (c.relaxed.recorded.call call).2.forget) := call_forget c.relaxed.recorded call
    have hplain : c.call call = ((c.recorded.call call).1, (c.recorded.call call).2.forget) :=
      call_forget c.recorded call
    refine Or.inl ⟨?_, ?_⟩
    · rw [hrelaxed, hplain, h]
      rfl
    · change (c.relaxed.recorded.call call).2.endpoint.environment.history = _
      rw [h]
      rfl
  · exact Or.inr (refusesPeer_of_refused hrefused.2 hanswer hsent)

/-- Fuzzing mode makes no difference to a run in which the peer is never refused for a signature that
    does not verify or a Finished that does not match: the answers are the same, so is all that is
    done to the surroundings, and what is left is the same but for the mode. -/
theorem run_relaxed (c : Connection ε) (calls : List Call) (hnever : c.NeverRefuses calls) :
    c.relaxed.run calls = ((c.run calls).1, (c.run calls).2.relaxed)
    ∧ c.relaxed.history calls = c.history calls := by
  induction calls generalizing c with
  | nil => exact ⟨rfl, rfl⟩
  | cons call calls ih =>
      obtain ⟨hfirst, hrest⟩ := hnever
      obtain ⟨hcall, hhistory⟩ :=
        (c.call_relaxed call).resolve_right fun ⟨hhandshake, hrefuses⟩ =>
          hfirst hhandshake hrefuses
      obtain ⟨hrun, hrests⟩ := ih (c.call call).2 hrest
      constructor
      · simp only [run, hcall, hrun]
      · rw [history_cons, history_cons c, hhistory, hcall, hrests]

end Connection

namespace Rehearsal

/-- The server, with a KeyUpdate of the client where its Finished should be. -/
def misledServer : Connection Desk := bareServer KeyUpdateRequest.notRequested.encode

set_option maxRecDepth 100000 in
/-- The misled server fails in fuzzing mode as it does without, and fails again. -/
theorem misledServer_relaxed :
    misledServer.NeverRefuses [.handshake, .handshake]
    ∧ misledServer.relaxed.run [.handshake, .handshake]
      = ((misledServer.run [.handshake, .handshake]).1,
        (misledServer.run [.handshake, .handshake]).2.relaxed)
    ∧ misledServer.relaxed.history [.handshake, .handshake]
      = misledServer.history [.handshake, .handshake] := by
  have hfirst : misledServer.handshake.1
      = .fatal (.unexpectedMessage (.outOfOrder .finished .keyUpdate)) := by decide +kernel
  have hsecond : (misledServer.call .handshake).2.handshake.1 = .fatal .handshakeFailure := by
    decide +kernel
  have hnever : misledServer.NeverRefuses [.handshake, .handshake] := by
    refine ⟨fun _ ⟨e, hanswer, _, hunproven⟩ => ?_, fun _ ⟨e, hanswer, _, hunproven⟩ => ?_, trivial⟩
    · obtain rfl := Outcome.fatal.inj (hfirst.symm.trans hanswer)
      cases hunproven
    · obtain rfl := Outcome.fatal.inj (hsecond.symm.trans hanswer)
      cases hunproven
  exact ⟨hnever, Connection.run_relaxed _ _ hnever⟩

end Rehearsal

end TlsHandshake
