import TlsHandshake.Proofs.Handshakes
import TlsHandshake.Proofs.PendingUpdate

set_option autoImplicit false

/-! # What success leaves alone

Once its handshake has succeeded, a connection only deals with the messages that come after it. They
pass through the same context as those of the handshake, but what the handshake has established stays
as it is, whatever comes in and whatever fails: each call keeps to that (`Concluded.called`), and so
does a run. Main statement: `Connection.untouched_after_success`. -/

namespace TlsHandshake

theorem Context.SameFlight.trans {c c' c'' : Context} (h : c.SameFlight c')
    (h' : c'.SameFlight c'') : c.SameFlight c'' where
  config := h'.config.trans h.config
  peerSchemes := h'.peerSchemes.trans h.peerSchemes
  ocspRequested := h'.ocspRequested.trans h.ocspRequested
  sctsRequested := h'.sctsRequested.trans h.sctsRequested
  certificateRequested := h'.certificateRequested.trans h.certificateRequested
  transcript := h'.transcript.trans h.transcript
  session := h'.session.trans h.session
  signaturePending := h'.signaturePending.trans h.signaturePending
  expectedClientFinished := h'.expectedClientFinished.trans h.expectedClientFinished

namespace Connection

open AuthFlow Endpoint

section Concluded

variable {ε : Type} {c c' c'' : Connection ε} {call : Call} {h : History} {answer : Answer}

/-- A connection that has ended its flight and has dealt with every message that it has read. -/
structure Concluded (c : Connection ε) : Prop extends Ended c where
  message : c.endpoint.context.message = none

/-- `c'` has all that the handshake of `c` has established. -/
structure Untouched (c c' : Connection ε) : Prop where
  same : c.endpoint.context.SameFlight c'.endpoint.context := by exact {}
  flow : c'.flow = c.flow := by rfl
  complete : c'.complete = c.complete := by rfl

theorem Untouched.trans (h : Untouched c c') (h' : Untouched c' c'') : Untouched c c'' where
  same := h.same.trans h'.same
  flow := h'.flow.trans h.flow
  complete := h'.complete.trans h.complete

variable [Environment ε]

/-- Only `handshake` makes a connection complete. -/
theorem Called.complete_eq (hcalled : Called c call h answer c') (hcall : call ≠ .handshake) :
    c'.complete = c.complete := by
  cases hcalled with
  | handshake => exact absurd rfl hcall
  | _ => rfl

/-- There is nothing left for `handshake` to do. -/
theorem Concluded.handshake_called (hconcluded : c.Concluded)
    (hcalled : Called c .handshake h answer c') : c' = c := by
  obtain ⟨⟨hcomplete, hphase, hwait⟩, _⟩ := hconcluded
  cases hcalled with
  | @handshake _ outcome phase q hdrives =>
      rw [hphase] at hdrives
      obtain ⟨rfl, rfl⟩ : phase = .done ∧ q = c.endpoint := by
        rcases hwait with hok | herror
        · obtain ⟨hdone, hsame, _⟩ := (idle_kept _ _ hok).drives (g := []) ⟨rfl, rfl, rfl⟩ hdrives
          exact ⟨hdone, hsame⟩
        · obtain ⟨_, _, hdone, hsame⟩ := hdrives.of_error herror
          exact ⟨hdone, hsame⟩
      rw [hcomplete, Bool.true_or, ← hphase, ← hcomplete]

/-- No call touches what the handshake has established. -/
theorem Concluded.called (hconcluded : c.Concluded) (hcalled : Called c call h answer c') :
    c'.Concluded ∧ Untouched c c' := by
  by_cases hcall : call = .handshake
  · subst hcall
    rw [hconcluded.handshake_called hcalled]
    exact ⟨hconcluded, {}⟩
  · obtain ⟨hflow, hrests⟩ := hcalled.rests hcall
    have hcomplete := hcalled.complete_eq hcall
    have hmessage : c'.endpoint.context.message = none := by
      rcases hrests.message with hsame | hnone
      · rw [hsame, hconcluded.message]
      · exact hnone
    have hwait : c'.endpoint.context.wait = .ok ∨ c'.endpoint.context.wait = .error := by
      rcases hrests.wait with hsame | herror | ⟨_, hok⟩
      · rw [hsame]
        exact hconcluded.wait
      · exact Or.inr herror
      · exact Or.inl hok
    refine ⟨⟨⟨?_, ?_, hwait⟩, hmessage⟩, hrests.same, hflow, hcomplete⟩
    · rw [hcomplete, hconcluded.complete]
    · rw [hflow, hconcluded.phase]

/-- Neither do calls made one after the other. -/
theorem Concluded.run (hconcluded : c.Concluded) (calls : List Call) :
    (c.run calls).2.Concluded ∧ Untouched c (c.run calls).2 := by
  induction calls generalizing c with
  | nil => exact ⟨hconcluded, {}⟩
  | cons call calls ih =>
      obtain ⟨h, hcalled⟩ := call_called c call
      obtain ⟨hconcluded', huntouched⟩ := hconcluded.called hcalled
      obtain ⟨hrun, hrest⟩ := ih hconcluded'
      exact ⟨hrun, huntouched.trans hrest⟩

/-- Unless it has failed since, going on with a handshake that has succeeded succeeds again and does
    nothing. -/
theorem Concluded.handshake (hconcluded : c.Concluded)
    (hwait : c.endpoint.context.wait ≠ .error) :
    c.handshake = (.success, c) ∧ c.history [.handshake] = [] := by
  have hok : c.endpoint.context.wait = .ok := hconcluded.wait.resolve_right hwait
  have hsame : { c with complete := true } = c := by rw [← hconcluded.complete]
  constructor
  · rw [handshake_of_done hconcluded.phase hok, hsame]
  · have hrecorded : c.recorded.handshake = (.success, { c.recorded with complete := true }) :=
      handshake_of_done hconcluded.phase hok
    change c.recorded.handshake.2.endpoint.environment.history = []
    rw [hrecorded]
    rfl

/-- A flight keeps to its log, if nothing else is asked of it. -/
theorem log_invariant (c₀ : Context) :
    Invariant c₀ (fun _ _ _ => True) (fun _ _ _ => True) (fun _ _ => True) where
  ended _ _ := trivial
  rests _ _ _ _ := trivial
  suspend _ _ _ := ⟨trivial, fun _ => trivial⟩
  settle _ _ _ := trivial
  next _ _ _ := trivial
  wait _ _ _ := trivial
  fail _ _ _ := trivial

/-- Unless it has failed, a connection is paused between calls. -/
theorem Fresh.paused_run (hfresh : c.Fresh) (calls : List Call)
    (hwait : (c.run calls).2.endpoint.context.wait ≠ .error) :
    Paused c.endpoint.context (c.run calls).2.flow.phase (c.run calls).2.endpoint.context
      (c.handshakeHistory calls) := by
  cases hfresh.rested (log_invariant c.endpoint.context) trivial calls with
  | failed herror => exact absurd herror hwait
  | live _ hpaused => exact hpaused

/-- A handshake that has just succeeded is concluded. -/
theorem Fresh.concluded (hfresh : c.Fresh) (calls : List Call)
    (hsuccess : (c.run calls).2.handshake.1 = .success) :
    (c.run calls).2.handshake.2.Concluded := by
  -- the last call ends the flight, and between calls no message is ever pending
  obtain ⟨h, hcalled⟩ := Connection.handshake_called (c.run calls).2
  have hpaused := hfresh.paused_run (calls ++ [.handshake])
  rw [run_append] at hpaused
  change (c.run calls).2.handshake.2.endpoint.context.wait ≠ .error →
    Paused _ (c.run calls).2.handshake.2.flow.phase (c.run calls).2.handshake.2.endpoint.context _
    at hpaused
  rw [hsuccess] at hcalled
  generalize (c.run calls).2.handshake.2 = c' at hcalled hpaused ⊢
  cases hcalled with
  | handshake hdrives =>
      obtain ⟨rfl, hwait⟩ := hdrives.done
      refine ⟨⟨by simp, rfl, Or.inl hwait⟩, ?_⟩
      exact (hpaused (by rw [hwait]; nofun)).settled

end Concluded

/-! ## Before success -/

section Incomplete

variable {ε : Type} [Environment ε] {c : Connection ε}

theorem processPostHandshake_of_incomplete (hcomplete : c.complete = false) :
    c.call .processPostHandshake = (.polled (.error (.internal .postHandshakeTooEarly)), c) := by
  simp only [Connection.call, answerOf, processPostHandshake, hcomplete, Bool.not_false,
    Bool.true_or, if_true]

theorem keyUpdate_of_incomplete (request : KeyUpdateRequest) (hcomplete : c.complete = false) :
    c.call (.keyUpdate request) = (.returned (.error (.internal .keyUpdateTooEarly)), c) := by
  simp only [Connection.call, answerOf, keyUpdate, hcomplete, Bool.not_false, if_true]

end Incomplete

/-! ## The whole life of a connection -/

/-- Until a handshake succeeds, no message after it is processed and no key is updated: the calls for
    that fail and do nothing. Once it has succeeded, no calls touch the transcript, the session, the
    phase and the completeness it has left, no message stays pending, and unless the connection fails
    the handshake succeeds again whenever it is gone on with, without doing anything. -/
theorem untouched_after_success {ε : Type} [Environment ε] {c : Connection ε} (hfresh : c.Fresh)
    (calls : List Call) :
    (Answer.ended .success ∉ (c.run calls).1 →
      let before := (c.run calls).2
      before.call .processPostHandshake
          = (.polled (.error (.internal .postHandshakeTooEarly)), before)
        ∧ before.history [.processPostHandshake] = []
        ∧ ∀ request, before.call (.keyUpdate request)
            = (.returned (.error (.internal .keyUpdateTooEarly)), before)
          ∧ before.history [.keyUpdate request] = [])
    ∧ ((c.run calls).2.handshake.1 = .success → ∀ more,
      let done := (c.run calls).2.handshake.2
      let after := (done.run more).2
      after.endpoint.context.transcript = done.endpoint.context.transcript
        ∧ after.endpoint.context.session = done.endpoint.context.session
        ∧ after.flow = done.flow ∧ after.flow.phase = .done
        ∧ after.complete = done.complete ∧ after.complete = true
        ∧ after.endpoint.context.message = none
        ∧ (after.endpoint.context.wait ≠ .error →
          after.handshake = (.success, after) ∧ after.history [.handshake] = [])) := by
  constructor
  · intro hanswers before
    have hcomplete : before.complete = false := run_complete c calls hfresh.incomplete hanswers
    refine ⟨processPostHandshake_of_incomplete hcomplete, ?_, fun request =>
      ⟨keyUpdate_of_incomplete request hcomplete, ?_⟩⟩
    · change (before.recorded.call .processPostHandshake).2.endpoint.environment.history = []
      rw [processPostHandshake_of_incomplete (c := before.recorded) hcomplete]
      rfl
    · change (before.recorded.call (.keyUpdate request)).2.endpoint.environment.history = []
      rw [keyUpdate_of_incomplete (c := before.recorded) request hcomplete]
      rfl
  · intro hsuccess more done after
    obtain ⟨hconcluded, huntouched⟩ := (hfresh.concluded calls hsuccess).run more
    exact ⟨huntouched.same.transcript, huntouched.same.session, huntouched.flow, hconcluded.phase,
      huntouched.complete, hconcluded.complete, hconcluded.message, hconcluded.handshake⟩

end Connection

namespace Rehearsal

/-- The server whose client has sent its Finished and then asks for a key update. -/
def updatedServer : Connection Desk :=
  bareServer (clientFinished ++ KeyUpdateRequest.requested.encode)

set_option maxRecDepth 100000 in
/-- The server answers the key update, and nothing of its handshake is touched. -/
theorem updatedServer_untouched :
    let done := updatedServer.handshake.2
    let after := (done.run [.processPostHandshake, .flush]).2
    updatedServer.call .processPostHandshake
        = (.polled (.error (.internal .postHandshakeTooEarly)), updatedServer)
      ∧ updatedServer.history [.processPostHandshake] = []
      ∧ after.endpoint.context.transcript = done.endpoint.context.transcript
      ∧ after.endpoint.context.session = done.endpoint.context.session
      ∧ after.flow = done.flow ∧ after.complete = true
      ∧ after.endpoint.context.message = none
      ∧ after.handshake = (.success, after) ∧ after.history [.handshake] = [] := by
  have hfresh : updatedServer.Fresh := ⟨rfl, rfl, (nomatch ·), rfl⟩
  have hdone : updatedServer.handshake.1 = .success
      ∧ (updatedServer.handshake.2.run [.processPostHandshake, .flush]).2.endpoint.context.wait
        ≠ .error := by
    decide +kernel
  have huntouched := Connection.untouched_after_success hfresh []
  simp only [Connection.run_nil] at huntouched
  obtain ⟨hbefore, hafter⟩ := huntouched
  obtain ⟨hearly, hsilent, _⟩ := hbefore List.not_mem_nil
  obtain ⟨htranscript, hsession, hflow, _, _, hcomplete, hmessage, hagain⟩ :=
    hafter hdone.1 [.processPostHandshake, .flush]
  exact ⟨hearly, hsilent, htranscript, hsession, hflow, hcomplete, hmessage, hagain hdone.2⟩

end Rehearsal

end TlsHandshake
