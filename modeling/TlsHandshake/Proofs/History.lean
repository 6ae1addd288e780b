import TlsHandshake.Handshake.Context
import TlsHandshake.Handshake.Engine

set_option autoImplicit false

/-! # Histories

What an endpoint does to its surroundings and what it learns from them is a list of events, each an
operation with its answer. `Performs e h e'` says that the surroundings `e` give the answers of `h`,
one after the other, and end up as `e'`. -/

namespace TlsHandshake

/-! ## Events -/

/-- One operation of the surroundings, with its answer. -/
inductive Event where
  | flushed (answer : Except Error (Awaited Unit))
  | flightExpected
  | read (answer : Except Error (Awaited Message))
  | readChangeCipherSpec (answer : Except Error (Awaited Unit))
  | queued (message : Bytes) (answer : Except Error Unit)
  | alerted (alert : Alert)
  | computedMac (sender : Role) (transcriptHash : Bytes) (answer : Except Error Bytes)
  | rotated (direction : Direction) (answer : Except Error Unit)
  | signed (scheme : SignatureScheme) (input : Bytes) (maxLength : Nat) (answer : SignResult)
  | completedSignature (maxLength : Nat) (answer : SignResult)
  | storedTicket (body : Bytes) (session : Session) (answer : Except Error Unit)

/-- The fatal alert of a description. -/
abbrev Event.fatal (description : AlertDescription) : Event := .alerted (.fatal description)

/-- The operations of a run with their answers, the first one first. -/
abbrev History := List Event

namespace Event

/-- The message that a read delivered. -/
def message? : Event → Option Message
  | read (.ok (.ready m)) => some m
  | _ => none

/-- The message that was queued. -/
def sent? : Event → Option Bytes
  | queued message (.ok ()) => some message
  | _ => none

/-- The message whose queueing failed. -/
def unsent? : Event → Option Bytes
  | queued message (.error _) => some message
  | _ => none

/-- The MAC that was computed for the Finished of `sender`, with the transcript hash it covers. -/
def mac? (sender : Role) : Event → Option (Bytes × Bytes)
  | computedMac who transcriptHash (.ok mac) =>
      if who = sender then some (transcriptHash, mac) else none
  | _ => none

/-- Whether an event is an answer of the signer. -/
def IsSigning : Event → Prop
  | signed .. | completedSignature .. => True
  | _ => False

@[simp] theorem mac?_computedMac (sender : Role) (transcriptHash mac : Bytes) :
    mac? sender (computedMac sender transcriptHash (.ok mac)) = some (transcriptHash, mac) :=
  if_pos rfl

theorem mac?_computedMac_of_ne {who sender : Role} (h : who ≠ sender) (transcriptHash mac : Bytes) :
    mac? sender (computedMac who transcriptHash (.ok mac)) = none :=
  if_neg h

@[simp] theorem mac?_queued (sender : Role) (message : Bytes) (answer : Except Error Unit) :
    mac? sender (queued message answer) = none := rfl

end Event

namespace History

/-- The messages read, in order. -/
def messagesRead (h : History) : List Message := h.filterMap Event.message?

/-- The messages queued, in order. -/
def messagesSent (h : History) : List Bytes := h.filterMap Event.sent?

/-- The messages that could not be queued. -/
def messagesUnsent (h : History) : List Bytes := h.filterMap Event.unsent?

/-- The transcript hashes and MACs computed for the Finished of `sender`, in order. -/
def macsOf (sender : Role) (h : History) : List (Bytes × Bytes) := h.filterMap (Event.mac? sender)

@[simp] theorem messagesRead_nil : messagesRead [] = [] := rfl

@[simp] theorem messagesRead_cons (e : Event) (h : History) :
    messagesRead (e :: h) = e.message?.toList ++ messagesRead h := by
  unfold messagesRead
  cases he : e.message? <;> simp [he]

@[simp] theorem messagesRead_append (g h : History) :
    messagesRead (g ++ h) = messagesRead g ++ messagesRead h := List.filterMap_append

@[simp] theorem messagesSent_nil : messagesSent [] = [] := rfl

@[simp] theorem messagesSent_cons (e : Event) (h : History) :
    messagesSent (e :: h) = e.sent?.toList ++ messagesSent h := by
  unfold messagesSent
  cases he : e.sent? <;> simp [he]

@[simp] theorem messagesSent_append (g h : History) :
    messagesSent (g ++ h) = messagesSent g ++ messagesSent h := List.filterMap_append

/-- The bytes queued, event by event. -/
theorem flatten_messagesSent (h : History) :
    (messagesSent h).flatten = h.flatMap (·.sent?.toList.flatten) := by
  induction h with
  | nil => rfl
  | cons event h ih => rw [messagesSent_cons, List.flatten_append, ih, List.flatMap_cons]

@[simp] theorem messagesUnsent_nil : messagesUnsent [] = [] := rfl

@[simp] theorem messagesUnsent_cons (e : Event) (h : History) :
    messagesUnsent (e :: h) = e.unsent?.toList ++ messagesUnsent h := by
  unfold messagesUnsent
  cases he : e.unsent? <;> simp [he]

@[simp] theorem messagesUnsent_append (g h : History) :
    messagesUnsent (g ++ h) = messagesUnsent g ++ messagesUnsent h := List.filterMap_append

@[simp] theorem macsOf_nil (sender : Role) : macsOf sender [] = [] := rfl

@[simp] theorem macsOf_cons (sender : Role) (e : Event) (h : History) :
    macsOf sender (e :: h) = (e.mac? sender).toList ++ macsOf sender h := by
  unfold macsOf
  cases he : e.mac? sender <;> simp [he]

@[simp] theorem macsOf_append (sender : Role) (g h : History) :
    macsOf sender (g ++ h) = macsOf sender g ++ macsOf sender h := List.filterMap_append

end History

/-! ## What surroundings perform -/

/-- What an operation answers, and the state it leaves. -/
def answerOf {σ α : Type} (act : EStateM Error σ α) (s : σ) : Except Error α × σ :=
  match act s with
  | .ok a s => (.ok a, s)
  | .error e s => (.error e, s)

section Answers

variable {σ α : Type} {act : EStateM Error σ α} {s s' : σ}

theorem answerOf_eq_ok_iff {a : α} : answerOf act s = (.ok a, s') ↔ act s = .ok a s' := by
  unfold answerOf
  cases act s <;> simp

theorem answerOf_eq_error_iff {e : Error} :
    answerOf act s = (.error e, s') ↔ act s = .error e s' := by
  unfold answerOf
  cases act s <;> simp

end Answers

section Performs

variable {ε : Type} [Environment ε]

/-- The surroundings `e` perform an event and become `e'`. -/
def Event.Effect (e : ε) (event : Event) (e' : ε) : Prop :=
  match event with
  | flushed answer => answerOf Environment.flushFlight e = (answer, e')
  | flightExpected => Environment.expectFlight e = e'
  | read answer => answerOf Environment.readMessage e = (answer, e')
  | readChangeCipherSpec answer => answerOf Environment.readChangeCipherSpec e = (answer, e')
  | queued message answer => answerOf (Environment.addMessage message) e = (answer, e')
  | alerted alert => Environment.sendAlert alert e = e'
  | computedMac sender transcriptHash answer =>
      answerOf (Environment.finishedMac sender transcriptHash) e = (answer, e')
  | rotated direction answer =>
      answerOf (Environment.rotateTrafficKey direction) e = (answer, e')
  | signed scheme input maxLength answer =>
      Environment.sign scheme input maxLength e = (answer, e')
  | completedSignature maxLength answer =>
      Environment.completeSignature maxLength e = (answer, e')
  | storedTicket body session answer =>
      answerOf (Environment.storeTicket body session) e = (answer, e')

/-- The surroundings `e` perform the events of a history in order and become `e'`. -/
def Performs (e : ε) : History → ε → Prop
  | [], e' => e' = e
  | event :: h, e' => ∃ between, event.Effect e between ∧ Performs between h e'

theorem Performs.nil (e : ε) : Performs e [] e := rfl

theorem Performs.single {e e' : ε} {event : Event} (h : event.Effect e e') :
    Performs e [event] e' := ⟨e', h, rfl⟩

theorem Performs.cons {e₁ e₂ e₃ : ε} {event : Event} {h : History} (hevent : event.Effect e₁ e₂)
    (hrest : Performs e₂ h e₃) : Performs e₁ (event :: h) e₃ := ⟨e₂, hevent, hrest⟩

theorem Performs.append {e₁ e₂ e₃ : ε} {g h : History} (hg : Performs e₁ g e₂)
    (hh : Performs e₂ h e₃) : Performs e₁ (g ++ h) e₃ := by
  induction g generalizing e₁ with
  | nil =>
      obtain rfl : e₂ = e₁ := hg
      exact hh
  | cons event g ih =>
      obtain ⟨between, hevent, hrest⟩ := hg
      exact ⟨between, hevent, ih hrest⟩

/-- What every event of a history keeps, the history keeps. -/
theorem Performs.preserves {e e' : ε} {h : History} (hperforms : Performs e h e') (Inv : ε → Prop)
    (hstep : ∀ event ∈ h, ∀ e e', event.Effect e e' → Inv e → Inv e') (he : Inv e) : Inv e' := by
  induction h generalizing e with
  | nil =>
      obtain rfl : e' = e := hperforms
      exact he
  | cons event h ih =>
      obtain ⟨between, hevent, hrest⟩ := hperforms
      have hbetween := hstep event List.mem_cons_self e between hevent he
      exact ih hrest (fun event hmem => hstep event (List.mem_cons_of_mem _ hmem)) hbetween

/-- What grows at its end with each event has grown by all that the events add. -/
theorem Performs.grows {α : Type} {added : Event → List α} {e e' : ε} {h : History}
    (hperforms : Performs e h e') (value : ε → List α)
    (hstep : ∀ event ∈ h, ∀ e e', event.Effect e e' → value e' = value e ++ added event) :
    value e' = value e ++ h.flatMap added := by
  induction h generalizing e with
  | nil =>
      obtain rfl : e' = e := hperforms
      exact (List.append_nil _).symm
  | cons event h ih =>
      obtain ⟨between, hevent, hrest⟩ := hperforms
      rw [ih hrest fun event hmem => hstep event (List.mem_cons_of_mem _ hmem),
        hstep event List.mem_cons_self e between hevent, List.flatMap_cons, List.append_assoc]

/-- What goes from one event to the next with the messages that are read, if none of them fails a
    read, goes through a run. -/
theorem Performs.reads {e e' : ε} {h : History} {read : List Message}
    (hperforms : Performs e h e') (Rel : List Message → ε → Prop)
    (hstep : ∀ {event : Event} {e e' : ε} {read}, event.Effect e e' → Rel read e →
      Rel (read ++ event.message?.toList) e' ∧ ∀ err, event ≠ .read (.error err))
    (he : Rel read e) : Rel (read ++ h.messagesRead) e' ∧ ∀ err, .read (.error err) ∉ h := by
  induction h generalizing e read with
  | nil =>
      obtain rfl : e' = e := hperforms
      exact ⟨(List.append_nil read).symm ▸ he, fun _ => List.not_mem_nil⟩
  | cons event h ih =>
      obtain ⟨between, hevent, hrest⟩ := hperforms
      obtain ⟨hfirst, hread⟩ := hstep hevent he
      obtain ⟨hrest, hreads⟩ := ih hrest hfirst
      refine ⟨?_, fun err hmem => ?_⟩
      · rwa [History.messagesRead_cons, ← List.append_assoc]
      · rcases List.mem_cons.1 hmem with heq | hmem
        · exact hread err heq.symm
        · exact hreads err hmem

/-- An event of a history happens in surroundings that have what all events keep. -/
theorem Performs.of_mem {e e' : ε} {h : History} {event : Event} (hperforms : Performs e h e')
    (Inv : ε → Prop)
    (hstep : ∀ (event : Event) e e', event.Effect e e' → Inv e → Inv e') (he : Inv e)
    (hmem : event ∈ h) :
    ∃ e₁ e₂, Inv e₁ ∧ event.Effect e₁ e₂ := by
  induction h generalizing e with
  | nil => cases hmem
  | cons first h ih =>
      obtain ⟨between, hfirst, hrest⟩ := hperforms
      rcases List.mem_cons.1 hmem with rfl | hmem
      · exact ⟨e, between, he, hfirst⟩
      · exact ih hrest (hstep first e between hfirst he) hmem

theorem Performs.effect_of_mem {e e' : ε} {h : History} {event : Event}
    (hperforms : Performs e h e') (hmem : event ∈ h) : ∃ e₁ e₂ : ε, event.Effect e₁ e₂ := by
  obtain ⟨e₁, e₂, _, heffect⟩ :=
    hperforms.of_mem (fun _ => True) (fun _ _ _ _ _ => trivial) trivial hmem
  exact ⟨e₁, e₂, heffect⟩

end Performs

end TlsHandshake
