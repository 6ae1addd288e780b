import TlsHandshake.Connection
import TlsHandshake.Proofs.Engine

set_option autoImplicit false

/-! # Recorded surroundings

`Recorded ε` is the surroundings `ε` with a record of every operation and its answer. What an
endpoint does is the same with the record as without it: an action on recorded surroundings mirrors
the same action on plain ones, rule by rule. -/

namespace TlsHandshake

/-- Surroundings with a record of what has been done with them. -/
structure Recorded (ε : Type) where
  environment : ε
  history : History := []

namespace Recorded

variable {ε α : Type}

/-- Performs an operation and records it with its answer. -/
def record (act : EStateM Error ε α) (event : Except Error α → Event) :
    EStateM Error (Recorded ε) α := fun r =>
  match act r.environment with
  | .ok a e => .ok a ⟨e, r.history ++ [event (.ok a)]⟩
  | .error err e => .error err ⟨e, r.history ++ [event (.error err)]⟩

/-- Performs an operation that cannot fail and records it with its answer. -/
def recordPure (act : ε → α × ε) (event : α → Event) (r : Recorded ε) : α × Recorded ε :=
  let (a, e) := act r.environment
  (a, ⟨e, r.history ++ [event a]⟩)

instance [Environment ε] : Environment (Recorded ε) where
  flushFlight := record Environment.flushFlight .flushed
  expectFlight r := ⟨Environment.expectFlight r.environment, r.history ++ [.flightExpected]⟩
  readMessage := record Environment.readMessage .read
  readChangeCipherSpec := record Environment.readChangeCipherSpec .readChangeCipherSpec
  addMessage m := record (Environment.addMessage m) (.queued m)
  sendAlert a r := ⟨Environment.sendAlert a r.environment, r.history ++ [.alerted a]⟩
  finishedMac sender transcriptHash :=
    record (Environment.finishedMac sender transcriptHash) (.computedMac sender transcriptHash)
  rotateTrafficKey direction := record (Environment.rotateTrafficKey direction) (.rotated direction)
  signer? r := Environment.signer? r.environment
  sign scheme input maxLength :=
    recordPure (Environment.sign scheme input maxLength) (.signed scheme input maxLength)
  completeSignature maxLength :=
    recordPure (Environment.completeSignature maxLength) (.completedSignature maxLength)
  handlesTickets r := Environment.handlesTickets r.environment
  storeTicket body session :=
    record (Environment.storeTicket body session) (.storedTicket body session)

/-! ## The record is complete -/

theorem history_of_record {act : EStateM Error ε α} {event : Except Error α → Event}
    {answer : Except Error α} {r r' : Recorded ε}
    (h : answerOf (record act event) r = (answer, r')) :
    r'.history = r.history ++ [event answer] := by
  unfold answerOf record at h
  cases hact : act r.environment <;> rw [hact] at h <;> cases h <;> rfl

theorem history_of_recordPure {act : ε → α × ε} {event : α → Event} {answer : α}
    {r r' : Recorded ε} (h : recordPure act event r = (answer, r')) :
    r'.history = r.history ++ [event answer] := by
  cases h
  rfl

variable [Environment ε] {r r' : Recorded ε}

theorem history_of_effect {event : Event} (h : event.Effect r r') :
    r'.history = r.history ++ [event] := by
  cases event with
  | flightExpected | alerted => cases h; rfl
  | signed | completedSignature => exact history_of_recordPure h
  | _ => exact history_of_record h

/-- Whatever recorded surroundings perform is added to the record. -/
theorem history_of_performs {h : History} (hperforms : Performs r h r') :
    r'.history = r.history ++ h := by
  rw [hperforms.grows history fun _ _ _ _ heffect => history_of_effect heffect,
    List.flatMap_singleton']

/-! ## The record changes nothing -/

omit [Environment ε] in
theorem answerOf_of_record {act : EStateM Error ε α} {event : Except Error α → Event}
    {answer : Except Error α} {r r' : Recorded ε}
    (h : answerOf (record act event) r = (answer, r')) :
    answerOf act r.environment = (answer, r'.environment) := by
  unfold answerOf record at h
  unfold answerOf
  cases hact : act r.environment <;> rw [hact] at h <;> cases h <;> rfl

omit [Environment ε] in
theorem answer_of_recordPure {act : ε → α × ε} {event : α → Event} {answer : α}
    {r r' : Recorded ε} (h : recordPure act event r = (answer, r')) :
    act r.environment = (answer, r'.environment) := by
  cases h
  rfl

/-- What recorded surroundings perform, the plain ones perform. -/
theorem effect_forget {event : Event} (h : event.Effect r r') :
    event.Effect r.environment r'.environment := by
  cases event with
  | flightExpected | alerted => cases h; rfl
  | signed | completedSignature => exact answer_of_recordPure h
  | _ => exact answerOf_of_record h

theorem performs_forget {h : History} (hperforms : Performs r h r') :
    Performs r.environment h r'.environment := by
  induction h generalizing r with
  | nil =>
      obtain rfl : r' = r := hperforms
      exact Performs.nil _
  | cons event h ih =>
      obtain ⟨between, heffect, hrest⟩ := hperforms
      exact Performs.cons (effect_forget heffect) (ih hrest)

end Recorded

end TlsHandshake
