import TlsHandshake.Message.SctList
import TlsHandshake.Proofs.Grammar

set_option autoImplicit false

/-! # Well-framed timestamp lists

A list is accepted if it is what would be written for some timestamps (`isValid_eq_true_iff`), each
of them behind its length and all of them behind theirs.

`entriesValid` recurses on the bytes that are left. Where the bytes stand in one place, the same
check goes by a position that moves over them; `round?` is one round of it, which comes to nothing
if it looks at a byte that is not there or counts from behind the end. Neither happens: from any
position that the walk comes to, the bytes from there on decide the round (`round?_append`), so it
walks to an answer, and this is the answer of `entriesValid` (`walks_entriesValid`).

Main statement: `accepts_wellFramed`. -/

namespace TlsHandshake.SctList

variable {bytes entries : Bytes} {timestamps : List Bytes} {valid : Bool}

/-! ## Lengths in two bytes -/

theorem cons_cons_eq_field {l1 l0 : UInt8} {body : Bytes}
    (hlength : Bytes.toNat [l1, l0] = body.length) : l1 :: l0 :: body = field 2 body := by
  have hnumber : Bytes.ofNat 2 (Bytes.toNat [l1, l0]) = [l1, l0] := Bytes.ofNat_toNat [l1, l0]
  rw [field, ← hlength, hnumber]
  rfl

theorem exists_field_eq {body : Bytes} (hlength : body.length < Bytes.capacity 2) :
    ∃ l1 l0, field 2 body = l1 :: l0 :: body ∧ Bytes.toNat [l1, l0] = body.length := by
  refine ⟨_, _, rfl, ?_⟩
  have hnumber := Bytes.toNat_ofNat 2 body.length
  rwa [Nat.mod_eq_of_lt hlength] at hnumber

/-! ## What is accepted -/

/-- One timestamp behind its length, before others. -/
theorem entriesValid_field_append {timestamp : Bytes}
    (hlength : timestamp.length < Bytes.capacity 2) (rest : Bytes) :
    entriesValid (field 2 timestamp ++ rest) = (!timestamp.isEmpty && entriesValid rest) := by
  obtain ⟨l1, l0, hfield, hnumber⟩ := exists_field_eq hlength
  rw [hfield, List.cons_append, List.cons_append, entriesValid]
  simp only [hnumber, List.drop_left', Bytes.spans_eq_decide, List.length_append, Nat.le_add_right,
    decide_true, Bool.and_true]
  cases timestamp <;> rfl

theorem entriesValid_eq_true_iff :
    entriesValid entries = true
      ↔ ∃ timestamps : List Bytes,
        (∀ t ∈ timestamps, t ≠ [] ∧ t.length < Bytes.capacity 2)
        ∧ entries = timestamps.flatMap (field 2) := by
  constructor
  · intro h
    fun_induction entriesValid entries with
    | case1 => exact ⟨[], List.forall_mem_nil _, rfl⟩
    | case2 l1 l0 rest length ih =>
        simp only [Bool.and_eq_true, bne_iff_ne, ne_eq, Bytes.spans_iff] at h
        obtain ⟨⟨hne, hle⟩, hrest⟩ := h
        obtain ⟨timestamps, htimestamps, hdrop⟩ := ih hrest
        have htake : (rest.take length).length = length := List.length_take_of_le hle
        refine ⟨rest.take length :: timestamps, List.forall_mem_cons.2 ⟨⟨?_, ?_⟩, htimestamps⟩, ?_⟩
        · rw [← List.length_pos_iff, htake]
          exact Nat.pos_of_ne_zero hne
        · rw [htake]
          exact Bytes.toNat_lt [l1, l0]
        · rw [List.flatMap_cons, ← hdrop, ← cons_cons_eq_field htake.symm, List.cons_append,
            List.cons_append, List.take_append_drop]
    | case3 => cases h
  · rintro ⟨timestamps, htimestamps, rfl⟩
    induction timestamps with
    | nil => rw [List.flatMap_nil, entriesValid]
    | cons timestamp timestamps ih =>
        rw [List.forall_mem_cons] at htimestamps
        obtain ⟨⟨hne, hlength⟩, hothers⟩ := htimestamps
        rw [List.flatMap_cons, entriesValid_field_append hlength, ih hothers]
        simp [hne]

theorem flatMap_field_eq_nil_iff : timestamps.flatMap (field 2) = [] ↔ timestamps = [] := by
  cases timestamps with
  | nil => exact ⟨fun _ => rfl, fun _ => rfl⟩
  | cons timestamp timestamps =>
      refine ⟨fun h => ?_, nofun⟩
      have hlength := congrArg List.length h
      rw [List.flatMap_cons, List.length_append, length_field, List.length_nil] at hlength
      omega

theorem isValid_cons_cons (l1 l0 : UInt8) (entries : Bytes) :
    isValid (l1 :: l0 :: entries) = true
      ↔ entries.length = Bytes.toNat [l1, l0] ∧ entries ≠ [] ∧ entriesValid entries = true := by
  simp only [isValid, Bool.and_eq_true, beq_iff_eq, Bool.not_eq_true', List.isEmpty_eq_false_iff,
    and_assoc, eq_comm (a := Bytes.toNat [l1, l0])]

/-- A list is accepted if it is written for timestamps, at least one and none of them empty. -/
theorem isValid_eq_true_iff :
    isValid bytes = true
      ↔ ∃ timestamps : List Bytes, timestamps ≠ []
        ∧ (∀ t ∈ timestamps, t ≠ [] ∧ t.length < Bytes.capacity 2)
        ∧ (timestamps.flatMap (field 2)).length < Bytes.capacity 2
        ∧ bytes = field 2 (timestamps.flatMap (field 2)) := by
  constructor
  · intro h
    match bytes with
    | l1 :: l0 :: entries =>
        obtain ⟨hlength, hne, hvalid⟩ := (isValid_cons_cons l1 l0 entries).1 h
        obtain ⟨timestamps, htimestamps, rfl⟩ := entriesValid_eq_true_iff.1 hvalid
        refine ⟨timestamps, fun hnil => hne (flatMap_field_eq_nil_iff.2 hnil), htimestamps, ?_,
          cons_cons_eq_field hlength.symm⟩
        rw [hlength]
        exact Bytes.toNat_lt [l1, l0]
  · rintro ⟨timestamps, hne, htimestamps, hlength, rfl⟩
    obtain ⟨l1, l0, hfield, hnumber⟩ := exists_field_eq hlength
    rw [hfield, isValid_cons_cons]
    exact ⟨hnumber.symm, fun hnil => hne (flatMap_field_eq_nil_iff.1 hnil),
      entriesValid_eq_true_iff.2 ⟨timestamps, htimestamps, rfl⟩⟩

/-! ## The check in place -/

/-- What a round comes to: an answer, or the position of the next timestamp. -/
inductive Round where
  | answer (valid : Bool)
  | goOn (position : Nat)

/-- How many bytes there are from a position on; nothing, if it is behind the end. -/
def left? (entries : Bytes) (position : Nat) : Option Nat :=
  if position ≤ entries.length then some (entries.length - position) else none

/-- One round at a position; nothing, if it would look at a byte that is not there, or count from
    behind the end. -/
def round? (entries : Bytes) (position : Nat) : Option Round :=
  if position < entries.length then do
    if (← left? entries position) < 2 then
      return .answer false
    let length := Bytes.toNat [← entries[position]?, ← entries[position + 1]?]
    let start := position + 2
    if length = 0 then
      return .answer false
    if (← left? entries start) < length then
      return .answer false
    return .goOn (start + length)
  else return .answer true

/-- From a position, round after round comes to something, and the last one to an answer. -/
inductive Walks (entries : Bytes) : (position : Nat) → (valid : Bool) → Prop
  | answers {position : Nat} {valid : Bool}
      (hround : round? entries position = some (.answer valid)) : Walks entries position valid
  | goesOn {position next : Nat} {valid : Bool}
      (hround : round? entries position = some (.goOn next)) (hrest : Walks entries next valid) :
      Walks entries position valid

/-- The whole check in place: the length, which must be that of what follows it, and the walk over
    what follows. -/
inductive Checks (bytes : Bytes) : Bool → Prop
  | noLength (hshort : bytes.length < 2) : Checks bytes false
  | misfit {l1 l0 : UInt8} (h1 : bytes[0]? = some l1) (h0 : bytes[1]? = some l0)
      (hlength : (bytes.drop 2).length ≠ Bytes.toNat [l1, l0] ∨ bytes.drop 2 = []) :
      Checks bytes false
  | walks {l1 l0 : UInt8} {valid : Bool} (h1 : bytes[0]? = some l1) (h0 : bytes[1]? = some l0)
      (hlength : (bytes.drop 2).length = Bytes.toNat [l1, l0]) (hne : bytes.drop 2 ≠ [])
      (hwalks : Walks (bytes.drop 2) 0 valid) : Checks bytes valid

/-- What a round comes to is decided by the bytes from its position on. -/
theorem round?_append (before rest : Bytes) :
    round? (before ++ rest) before.length = some (match rest with
      | [] => .answer true
      | l1 :: l0 :: rest =>
          let length := Bytes.toNat [l1, l0]
          if length = 0 ∨ rest.length < length then .answer false
          else .goOn (before.length + 2 + length)
      | _ => .answer false) := by
  match rest with
  | [] => simp [round?]
  | [_] => simp [round?, left?]
  | l1 :: l0 :: rest =>
      have h1 : (before ++ l1 :: l0 :: rest)[before.length]? = some l1 := by simp
      have h0 : (before ++ l1 :: l0 :: rest)[before.length + 1]? = some l0 := by simp
      have hlength : (before ++ l1 :: l0 :: rest).length = before.length + 2 + rest.length := by
        simp only [List.length_append, List.length_cons]
        omega
      have hall : left? (before ++ l1 :: l0 :: rest) before.length = some (rest.length + 2) := by
        rw [left?, if_pos (by omega)]
        congr 1
        omega
      have hrest : left? (before ++ l1 :: l0 :: rest) (before.length + 2) = some rest.length := by
        rw [left?, if_pos (by omega)]
        congr 1
        omega
      rw [round?, if_pos (by omega)]
      simp only [hall, h1, h0, hrest, Option.bind_eq_bind, Option.bind_some]
      by_cases hzero : Bytes.toNat [l1, l0] = 0
      · simp [hzero]
      · by_cases hshort : rest.length < Bytes.toNat [l1, l0] <;> simp [hzero, hshort]

theorem Walks.unique {position : Nat} {valid' : Bool} (h : Walks entries position valid)
    (h' : Walks entries position valid') : valid = valid' := by
  induction h with
  | answers hround =>
      cases h' with
      | answers hround' => cases hround.symm.trans hround'; rfl
      | goesOn hround' => cases hround.symm.trans hround'
  | goesOn hround _ ih =>
      cases h' with
      | answers hround' => cases hround.symm.trans hround'
      | goesOn hround' hrest' => cases hround.symm.trans hround'; exact ih hrest'

/-- The walk over what is left comes to the answer of the recursion on it. -/
theorem walks_entriesValid (before rest : Bytes) :
    Walks (before ++ rest) before.length (entriesValid rest) := by
  fun_induction entriesValid rest generalizing before with
  | case1 => exact .answers (round?_append before [])
  | case2 l1 l0 rest length ih =>
      have hround := round?_append before (l1 :: l0 :: rest)
      by_cases hends : length = 0 ∨ rest.length < length
      · have hinvalid : (length != 0 && Bytes.spans length rest) = false := by
          rw [Bytes.spans_eq_decide]
          rcases hends with hzero | hshort
          · simp [hzero]
          · simp [Nat.not_le.2 hshort]
        rw [hinvalid, Bool.false_and]
        exact .answers (hround.trans (congrArg some (if_pos hends)))
      · have hfits : length ≠ 0 ∧ length ≤ rest.length := by
          rwa [not_or, Nat.not_lt] at hends
        have hvalid : (length != 0 && Bytes.spans length rest) = true := by
          rw [Bytes.spans_eq_decide]
          simp [hfits]
        rw [hvalid, Bool.true_and]
        refine .goesOn (hround.trans (congrArg some (if_neg hends))) ?_
        -- the next position is behind the length and the timestamp
        have hnext := ih (before ++ l1 :: l0 :: rest.take length)
        have hposition : (before ++ l1 :: l0 :: rest.take length).length
            = before.length + 2 + length := by
          simp only [List.length_append, List.length_cons, List.length_take_of_le hfits.2]
          omega
        rwa [hposition, List.append_assoc, List.cons_append, List.cons_append,
          List.take_append_drop] at hnext
  | case3 rest hnil hcons =>
      match rest with
      | [] => exact absurd rfl hnil
      | [b] => exact .answers (round?_append before [b])
      | l1 :: l0 :: rest => exact absurd rfl (hcons l1 l0 rest)

theorem checks_isValid (bytes : Bytes) : Checks bytes (isValid bytes) := by
  match bytes with
  | [] => exact .noLength Nat.zero_lt_two
  | [b] => exact .noLength Nat.one_lt_two
  | l1 :: l0 :: entries =>
      by_cases hlength : entries.length = Bytes.toNat [l1, l0]
      · by_cases hnil : entries = []
        · have hinvalid : isValid (l1 :: l0 :: entries) = false := by
            rw [Bool.eq_false_iff, ne_eq, isValid_cons_cons]
            exact fun h => h.2.1 hnil
          rw [hinvalid]
          exact .misfit rfl rfl (.inr hnil)
        · have hvalid : isValid (l1 :: l0 :: entries) = entriesValid entries := by
            rw [Bool.eq_iff_iff, isValid_cons_cons]
            exact ⟨fun h => h.2.2, fun h => ⟨hlength, hnil, h⟩⟩
          rw [hvalid]
          exact .walks rfl rfl hlength hnil (walks_entriesValid [] entries)
      · have hinvalid : isValid (l1 :: l0 :: entries) = false := by
          rw [Bool.eq_false_iff, ne_eq, isValid_cons_cons]
          exact fun h => hlength h.1
        rw [hinvalid]
        exact .misfit rfl rfl (.inl hlength)

theorem Checks.unique {valid' : Bool} (h : Checks bytes valid) (h' : Checks bytes valid') :
    valid = valid' := by
  have hlong {b : UInt8} (h0 : bytes[1]? = some b) : ¬ bytes.length < 2 :=
    Nat.not_lt.2 (List.getElem?_eq_some_iff.1 h0).1
  cases h with
  | noLength hshort =>
      cases h' with
      | noLength => rfl
      | misfit => rfl
      | walks _ h0 => exact absurd hshort (hlong h0)
  | misfit h1 h0 hmisfit =>
      cases h' with
      | noLength => rfl
      | misfit => rfl
      | walks h1' h0' hlength hne =>
          cases h1.symm.trans h1'
          cases h0.symm.trans h0'
          exact absurd hmisfit (not_or.2 ⟨fun hfit => hfit hlength, hne⟩)
  | walks h1 h0 hlength hne hwalks =>
      cases h' with
      | noLength hshort => exact absurd hshort (hlong h0)
      | misfit h1' h0' hmisfit =>
          cases h1.symm.trans h1'
          cases h0.symm.trans h0'
          exact absurd hmisfit (not_or.2 ⟨fun hfit => hfit hlength, hne⟩)
      | walks _ _ _ _ hwalks' => exact hwalks.unique hwalks'

/-- The check in place comes to one answer on every list, that of `isValid`. -/
theorem checks_iff : Checks bytes valid ↔ isValid bytes = valid := by
  constructor
  · exact fun h => (checks_isValid bytes).unique h
  · rintro rfl
    exact checks_isValid bytes

/-! ## Both together -/

/-- A list is accepted if and only if it is the length of the entries and the entries, and these are
    some timestamps, at least one and none of them empty, each behind its length. And the check in
    place comes to its answer on every list, and looks at no byte that is not there. -/
theorem accepts_wellFramed :
    (∀ bytes, isValid bytes = true
      ↔ ∃ timestamps : List Bytes, timestamps ≠ []
        ∧ (∀ t ∈ timestamps, t ≠ [] ∧ t.length ≤ 0xffff)
        ∧ (timestamps.flatMap (field 2)).length ≤ 0xffff
        ∧ bytes = field 2 (timestamps.flatMap (field 2)))
    ∧ ∀ bytes valid, Checks bytes valid ↔ isValid bytes = valid := by
  refine ⟨fun bytes => ?_, fun _ _ => checks_iff⟩
  simp only [isValid_eq_true_iff, lt_capacity_two_iff]

end TlsHandshake.SctList
