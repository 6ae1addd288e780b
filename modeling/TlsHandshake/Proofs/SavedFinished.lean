import TlsHandshake.Proofs.Authentication
import TlsHandshake.Proofs.Link.Stations
import TlsHandshake.Proofs.Underway

set_option autoImplicit false

/-! # The MAC computed ahead is never stale

A server that asks for no chain computes the client's Finished ahead, when it has sent its own, and
uses it when the client's comes. In between it flushes, may be suspended any number of times, and
reads. Where the MACs go by the sender and the transcript hash (`ComputesBy`), what it has kept is
at every point the MAC that it would compute then: `SavedKept` is the invariant, and says where the
MAC has come from. So it makes no difference which of the two a Finished is judged by
(`judgesAlike_of_saved`).

Main statement: `Connection.saved_finished_current`. -/

namespace TlsHandshake

/-! ## MACs that go by the hash -/

section ComputesBy

variable {ε : Type} [Environment ε] {f : Role → Bytes → Except Error Bytes} {e e' : ε}
  {h : History} {sender : Role} {transcriptHash : Bytes} {answer : Except Error Bytes}

/-- The MACs of the surroundings, whatever is done with them before, are those of `f`. -/
def ComputesBy (f : Role → Bytes → Except Error Bytes) (e : ε) : Prop :=
  ∀ h e', Performs e h e' → ∀ sender transcriptHash,
    (answerOf (Environment.finishedMac sender transcriptHash) e').1 = f sender transcriptHash

theorem ComputesBy.performs (hcomputes : ComputesBy f e) (hperforms : Performs e h e') :
    ComputesBy f e' :=
  fun h' e'' hperforms' => hcomputes (h ++ h') e'' (hperforms.append hperforms')

/-- Every MAC that was computed is the one of `f`. -/
theorem ComputesBy.computed (hcomputes : ComputesBy f e) (hperforms : Performs e h e')
    (hmem : .computedMac sender transcriptHash answer ∈ h) : answer = f sender transcriptHash := by
  obtain ⟨e₁, e₂, hcomputes₁, heffect⟩ :=
    hperforms.of_mem (ComputesBy f) (fun event e₁ e₂ heffect hcomputes₁ =>
      hcomputes₁.performs (Performs.single heffect)) hcomputes hmem
  have heffect : answerOf (Environment.finishedMac sender transcriptHash) e₁ = (answer, e₂) :=
    heffect
  rw [← hcomputes₁ [] e₁ (Performs.nil e₁), heffect]

/-- So are those of the handshake calls of a run. -/
theorem Connection.computed_of_handshakeHistory {c : Connection ε} {calls : List Call}
    (hcomputes : ComputesBy f c.endpoint.environment)
    (hmem : .computedMac sender transcriptHash answer ∈ c.handshakeHistory calls) :
    answer = f sender transcriptHash := by
  induction calls generalizing c with
  | nil => cases hmem
  | cons call calls ih =>
      have hperforms := c.history_performs call
      rcases List.mem_append.1 hmem with hfirst | hrest
      · split at hfirst
        · exact hcomputes.computed hperforms hfirst
        · cases hfirst
      · exact ih (hcomputes.performs hperforms) hrest

theorem ComputesBy.run {c : Connection ε} (hcomputes : ComputesBy f c.endpoint.environment)
    (calls : List Call) : ComputesBy f (c.run calls).2.endpoint.environment := by
  obtain ⟨h, hran⟩ := c.run_ran calls
  exact hcomputes.performs hran.performs

end ComputesBy

namespace AuthFlow

open Endpoint Engine

/-! ## What is kept -/

section SavedKept

variable {c₀ c c' : Context} {signer? : Option SignerInfo} {phase : Phase} {g h : History}
  {turn : Turn}

/-- In the phases of a server that asks for no chain a MAC is kept just while the client's Finished
    is awaited, and it has been computed over the transcript as it is. -/
structure SavedKept (phase : Phase) (c : Context) (h : History) : Prop where
  noChain : phase ≠ .readCertificate ∧ phase ≠ .readCertificateVerify
  saved : phase = .readFinished → ∃ mac, c.expectedClientFinished = some mac
    ∧ .computedMac .client c.transcript.hash (.ok mac) ∈ h
  unsaved : phase ≠ .readFinished → c.expectedClientFinished = none

/-- More events make no difference. -/
theorem SavedKept.append (hkept : SavedKept phase c h)
    (htranscript : c'.transcript = c.transcript)
    (hsaved : c'.expectedClientFinished = c.expectedClientFinished) (g : History) :
    SavedKept phase c' (h ++ g) where
  noChain := hkept.noChain
  saved hphase := by
    obtain ⟨mac, hmac, hmem⟩ := hkept.saved hphase
    rw [htranscript, hsaved]
    exact ⟨mac, hmac, List.mem_append_left g hmem⟩
  unsaved hphase := hsaved.trans (hkept.unsaved hphase)

/-- A turn keeps the MAC, computes it or uses it up. -/
theorem SavedKept.advance (hkept : SavedKept phase c h) (hrole : c₀.role = .server)
    (hverify : c.config.verifyClient = false)
    (hadvance : Advance c₀.role signer? phase c g turn c') :
    SavedKept turn.phase c' (h ++ g) := by
  have huses : c.usesSavedFinished c₀.role = true := by
    rw [Context.usesSavedFinished, hrole, hverify]
    rfl
  -- in the phases that send nothing has been kept yet
  have hsends : ∀ {phase'}, phase ≠ .readFinished → phase' ≠ .readFinished →
      phase' ≠ .readCertificate ∧ phase' ≠ .readCertificateVerify →
      c'.expectedClientFinished = c.expectedClientFinished → SavedKept phase' c' (h ++ g) :=
    fun hphase hphase' hnoChain hsaved =>
      ⟨hnoChain, fun h => absurd h hphase', fun _ => hsaved.trans (hkept.unsaved hphase)⟩
  cases hadvance with
  | certificateSent =>
      refine hsends (by decide) ?_ ?_ rfl <;> split <;> decide
  | signatureDelayed | signatureSent => exact hsends (by decide) (by decide) (by decide) rfl
  | serverFinishedSaved =>
      refine ⟨by decide, fun _ => ⟨_, rfl, List.mem_append_right h ?_⟩, fun h => absurd rfl h⟩
      exact List.mem_cons_of_mem _ (List.mem_cons_of_mem _ List.mem_cons_self)
  | awaiting | done => exact hkept.append rfl rfl []
  | savedFinishedAccepted =>
      have hdone : afterFinished c₀.role c = .done := by rw [hrole]; rfl
      rw [Turn.phase, hdone]
      exact ⟨by decide, fun h => absurd h (by decide),
        fun _ => Context.accept_expectedClientFinished _⟩
  | clientFinishedSent hclient => cases hrole.symm.trans hclient
  | serverFinishedSent _ hasks => cases hverify.symm.trans hasks
  | chainAccepted | anonymousAccepted => exact absurd rfl hkept.noChain.1
  | signatureAccepted => exact absurd rfl hkept.noChain.2
  | finishedAccepted _ _ hcomputes => cases huses.symm.trans hcomputes

/-- All that the flight of such a server does keeps to it. -/
theorem savedInvariant (hrole : c₀.role = .server) (hverify : c₀.config.verifyClient = false) :
    Invariant c₀ SavedKept SavedKept (fun _ _ => True) where
  ended _ _ := trivial
  rests _ hlive hrests _ := by
    have hkept := hlive.append hrests.same.transcript hrests.same.expectedClientFinished []
    rwa [List.append_nil] at hkept
  suspend _ hlive hsettles := ⟨trivial, fun _ => hlive.append hsettles.sameFlight.transcript
    hsettles.sameFlight.expectedClientFinished _⟩
  settle _ hlive hsettles := hlive.append hsettles.sameFlight.transcript
    hsettles.sameFlight.expectedClientFinished _
  next hlogged hbusy hadvance :=
    hbusy.advance hrole (by rw [hlogged.settings.config, hverify]) hadvance
  wait hlogged hbusy hadvance := by
    have hkept := hbusy.advance hrole (by rw [hlogged.settings.config, hverify]) hadvance
    exact ⟨hkept.noChain, hkept.saved, hkept.unsaved⟩
  fail _ _ _ := trivial

end SavedKept

end AuthFlow

/-! ## Judging by either -/

namespace Endpoint

open AuthFlow Engine

variable {ε : Type} [Environment ε] {f : Role → Bytes → Except Error Bytes} {p : Endpoint ε}
  {mac : Bytes} {phase : Phase} {h : History}

/-- The endpoint with another message pending. -/
def withMessage (p : Endpoint ε) (m : Message) : Endpoint ε :=
  { p with context := { p.context with message := some m } }

/-- `m` is judged by the MAC computed ahead as it is by one that is computed now: the answer and the
    alerts are the same, and it is accepted if it has the MAC of `f` in it or all are. -/
def JudgesAlike (f : Role → Bytes → Except Error Bytes) (p : Endpoint ε) (m : Message) : Prop :=
  let saved := answerOf (processFinished true) (p.withMessage m).recorded
  let computed := answerOf (processFinished false) (p.withMessage m).recorded
  saved.1 = computed.1
  ∧ saved.2.environment.history.alerts = computed.2.environment.history.alerts
  ∧ (saved.1 = .ok () ↔ f .client p.context.transcript.hash = .ok m.body
    ∨ p.context.config.insecureFuzzing = true)

/-- How a Finished is judged does not depend on the surroundings. -/
theorem judgeFinished_alike {m : Message} (mac : Bytes) (hmessage : p.context.message = some m) :
    ∃ h answer, (answer = .ok () ↔ m.body = mac ∨ p.context.config.insecureFuzzing = true)
      ∧ ∀ q : Endpoint ε, ∃ r, (judgeFinished p.context mac).Runs q h answer r := by
  by_cases haccepts : m.body = mac ∨ p.context.config.insecureFuzzing = true
  · refine ⟨[], .ok (), by simp [haccepts], fun q => ⟨q, ?_⟩⟩
    rcases judgeFinished_runs mac q hmessage with ⟨_, hruns⟩ | ⟨⟨hbody, hstrict⟩, _⟩
    · exact hruns
    · rcases haccepts with hmac | hloose
      · exact absurd hmac hbody
      · cases hstrict.symm.trans hloose
  · refine ⟨[.fatal .decryptError], .error .finishedMismatch, by simp [haccepts], fun q =>
      ⟨alerted q .decryptError, ?_⟩⟩
    rcases judgeFinished_runs mac q hmessage with ⟨haccepted, _⟩ | ⟨_, hruns⟩
    · exact absurd haccepted haccepts
    · exact hruns

/-- The record of an action that is the first one recorded. -/
theorem history_of_runs {α : Type} {act : Engine (Recorded ε) α} {answer : Except Error α}
    {q : Endpoint (Recorded ε)} (hruns : act.Runs p.recorded h answer q) :
    (answerOf act p.recorded).1 = answer
    ∧ (answerOf act p.recorded).2.environment.history = h := by
  rw [hruns.1]
  exact ⟨rfl, Recorded.history_of_performs hruns.2⟩

/-- Where the MAC computed ahead is the one that would be computed now, it makes no difference. -/
theorem judgesAlike_of_saved (hcomputes : ComputesBy f p.environment)
    (hrole : p.context.role = .server) (hsaved : p.context.expectedClientFinished = some mac)
    (hcurrent : f .client p.context.transcript.hash = .ok mac) (m : Message) :
    p.JudgesAlike f m := by
  let q : Endpoint (Recorded ε) := (p.withMessage m).recorded
  have hserver : q.context.isServer = true := congrArg Role.isServer hrole
  have hpeer : q.context.role.peer = .client := congrArg Role.peer hrole
  obtain ⟨h, answer, haccepts, hjudge⟩ :=
    judgeFinished_alike (p := q) mac (rfl : q.context.message = some m)
  -- by the MAC computed ahead
  obtain ⟨_, hjudged⟩ := hjudge ⟨{ q.context with expectedClientFinished := none }, q.environment⟩
  have htaken : takeSavedFinished.Runs q [] (.ok mac) _ := takeSavedFinished_runs hserver hsaved
  have htaken : (processFinished true).Runs q h answer _ := (htaken.bind hjudged).of_eq rfl
  -- by one computed now
  obtain ⟨result, env, hmac⟩ := finishedMac_runs q.context.role.peer q
  have hresult : result = .ok mac := by
    have hcomputed := hcomputes.computed (Recorded.performs_forget hmac.2) List.mem_cons_self
    rw [hcomputed, hpeer]
    exact hcurrent
  subst hresult
  obtain ⟨_, hjudged⟩ := hjudge ⟨q.context, env⟩
  have hcomputed : (processFinished false).Runs q _ answer _ :=
    ((hmac.orAlert_ok fun _ => .internalError).bind hjudged).of_eq rfl
  obtain ⟨hanswer, hhistory⟩ := history_of_runs htaken
  obtain ⟨hanswer', hhistory'⟩ := history_of_runs hcomputed
  refine ⟨hanswer.trans hanswer'.symm, ?_, ?_⟩
  · rw [hhistory, hhistory']
    rfl
  · rw [hanswer, haccepts, hcurrent, Except.ok.injEq, eq_comm]
    rfl

/-- The MAC computed ahead is there just while the client's Finished is awaited, and then it is the
    one that `f` gives for the transcript as it is, so that nothing is judged differently by it. -/
structure FinishedCurrent (f : Role → Bytes → Except Error Bytes) (phase : Phase)
    (p : Endpoint ε) : Prop where
  saved : phase = .readFinished → ∃ mac, p.context.expectedClientFinished = some mac
    ∧ f .client p.context.transcript.hash = .ok mac
  unsaved : phase ≠ .readFinished → p.context.expectedClientFinished = none
  judges : phase = .readFinished → ∀ m, p.JudgesAlike f m

theorem finishedCurrent_of_kept (hkept : SavedKept phase p.context h)
    (hcomputed : ∀ sender transcriptHash answer,
      .computedMac sender transcriptHash answer ∈ h → answer = f sender transcriptHash)
    (hcomputes : ComputesBy f p.environment) (hrole : p.context.role = .server) :
    FinishedCurrent f phase p where
  saved hphase := by
    obtain ⟨mac, hmac, hmem⟩ := hkept.saved hphase
    exact ⟨mac, hmac, (hcomputed _ _ _ hmem).symm⟩
  unsaved := hkept.unsaved
  judges hphase m := by
    obtain ⟨mac, hmac, hmem⟩ := hkept.saved hphase
    exact judgesAlike_of_saved hcomputes hrole hmac (hcomputed _ _ _ hmem).symm m

end Endpoint

/-! ## Runs -/

namespace Connection

open AuthFlow Endpoint

variable {ε : Type} [Environment ε] {f : Role → Bytes → Except Error Bytes} {c : Connection ε}

/-- A server that asks for no chain, with MACs that go by the sender and the hash, has the client's
    Finished saved just while it is to read it, and then it is never stale: this holds after every
    run that has not failed, and at every point of the call of `handshake` that comes next. -/
theorem saved_finished_current (hfresh : c.Fresh) (hrole : c.endpoint.context.role = .server)
    (hverify : c.endpoint.context.config.verifyClient = false)
    (hnone : c.endpoint.context.expectedClientFinished = none)
    (hcomputes : ComputesBy f c.endpoint.environment) (calls : List Call) :
    let after := (c.run calls).2
    (after.endpoint.context.wait ≠ .error →
      FinishedCurrent f after.flow.phase after.endpoint)
    ∧ ∀ flow p, Underway after.flow after.endpoint flow p → FinishedCurrent f flow.phase p := by
  intro after
  have hinvariant := savedInvariant hrole hverify
  have hstart : SavedKept c.flow.phase c.endpoint.context [] := by
    rw [hfresh.flow, hrole]
    exact ⟨by decide, fun h => absurd h (by decide), fun _ => hnone⟩
  constructor
  · intro hwait
    cases hfresh.rested hinvariant hstart calls with
    | failed herror => exact absurd herror hwait
    | live _ hpaused hkept =>
        exact finishedCurrent_of_kept hkept
          (fun _ _ _ hmem => computed_of_handshakeHistory hcomputes hmem) (hcomputes.run calls)
          (hpaused.settings.role.trans hrole)
  · intro flow p hunderway
    obtain ⟨h, _, hperforms, hlogged, hkept⟩ :=
      hfresh.underway hinvariant hstart calls hunderway
    refine finishedCurrent_of_kept hkept (fun _ _ _ hmem => ?_)
      ((hcomputes.run calls).performs hperforms) (hlogged.settings.role.trans hrole)
    rcases List.mem_append.1 hmem with hbefore | hduring
    · exact computed_of_handshakeHistory hcomputes hbefore
    · exact (hcomputes.run calls).computed hperforms hduring

end Connection

namespace Rehearsal

open Endpoint

/-- A server that asks for no chain and is never answered. -/
def waitingForFinished : Connection (Station FinishedKeys Signer TicketStore) :=
  .new { role := .server } (station .server [])

/-- The MACs of its keys. -/
def finishedOf (sender : Role) (transcriptHash : Bytes) : Except Error Bytes :=
  .ok ((station .server []).keys.mac sender transcriptHash)

theorem computesBy_finishedOf : ComputesBy finishedOf waitingForFinished.endpoint.environment := by
  intro h e' hperforms sender transcriptHash
  have hmac := mac_of_performs hperforms
  exact congrArg (fun mac => Except.ok (mac sender transcriptHash)) hmac

set_option maxRecDepth 100000 in
/-- Suspended before the client's Finished it has saved what this must be. -/
theorem waitingForFinished_saved :
    let after := (waitingForFinished.run [.handshake]).2
    after.flow.phase = .readFinished ∧ FinishedCurrent finishedOf .readFinished after.endpoint := by
  intro after
  have hphase : after.flow.phase = .readFinished := by decide +kernel
  have hwait : after.endpoint.context.wait ≠ .error := by decide +kernel
  have hfresh : waitingForFinished.Fresh :=
    { flow := rfl, incomplete := rfl, message := rfl,
      wait := fun hawaits => by rcases hawaits with h | h <;> cases h }
  obtain ⟨hcurrent, _⟩ := Connection.saved_finished_current hfresh rfl rfl rfl
    computesBy_finishedOf [.handshake]
  rw [← hphase]
  exact ⟨rfl, hcurrent hwait⟩

end Rehearsal

end TlsHandshake
