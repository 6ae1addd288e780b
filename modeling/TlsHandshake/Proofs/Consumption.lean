import TlsHandshake.Proofs.Grammar

set_option autoImplicit false

/-! # What readers consume

A reader that fails may have consumed something before, and what is read next starts behind that. So
it is said of each way to read what is got and which bytes are gone then (`Getter.Reads`), for a
failure as for a success. `Getter.run_eq_iff` says that this is what happens and nothing else.

Reads follow one another, whether they fail or not: what they consume, one after the other, and what
is left are the bytes that were there (`Getter.runAll_eq_iff`). Main statement:
`Reader.consumed_in_order`. -/

namespace TlsHandshake

/-- One read of a field, of any of the kinds there are. -/
inductive Getter where
  | take (n : Nat)
  | uint (width : Nat)
  | vector (width : Nat)
  deriving DecidableEq, Repr

/-- What a read gets. -/
inductive Got where
  | bytes (bytes : Bytes)
  | number (n : Nat)
  deriving DecidableEq, Repr

section

variable {bytes rest : Bytes}

/-! ## Reads that fail -/

theorem run_take_eq_none_iff {n : Nat} :
    (Reader.take n).run bytes = (none, rest) ↔ bytes.length < n ∧ rest = bytes := by
  rw [Reader.run_take]
  split
  · rename_i hle
    simp [Nat.not_lt.2 hle]
  · rename_i hlt
    simp [Nat.not_le.1 hlt, eq_comm]

theorem run_uint_eq_none_iff {width : Nat} :
    (Reader.uint width).run bytes = (none, rest) ↔ bytes.length < width ∧ rest = bytes := by
  rw [Reader.run_uint]
  split
  · rename_i hle
    simp [Nat.not_lt.2 hle]
  · rename_i hlt
    simp [Nat.not_le.1 hlt, eq_comm]

/-- A length-prefixed field is not there if its length is not; or its length is there, and gone then,
    and less than so many bytes follow. -/
theorem run_vector_eq_none_iff {width : Nat} :
    (Reader.vector width).run bytes = (none, rest)
      ↔ bytes.length < width ∧ rest = bytes
        ∨ ∃ length, length < Bytes.capacity width ∧ bytes = Bytes.ofNat width length ++ rest
          ∧ rest.length < length := by
  rw [Reader.run_vector]
  split
  · rename_i hle
    rw [run_take_eq_none_iff]
    constructor
    · rintro ⟨hshort, rfl⟩
      refine .inr ⟨Bytes.toNat (bytes.take width), ?_, ?_, hshort⟩
      · have hlt := Bytes.toNat_lt (bytes.take width)
        rwa [List.length_take_of_le hle] at hlt
      · have hlength := Bytes.ofNat_toNat (bytes.take width)
        rw [List.length_take_of_le hle] at hlength
        rw [hlength, List.take_append_drop]
    · rintro (⟨hlt, _⟩ | ⟨length, hlength, rfl, hshort⟩)
      · exact absurd hle (Nat.not_le.2 hlt)
      · have hnumber : Bytes.toNat (Bytes.ofNat width length) = length := by
          rw [Bytes.toNat_ofNat, Nat.mod_eq_of_lt hlength]
        simp [List.take_left', List.drop_left', hnumber, hshort]
  · rename_i hlt
    constructor
    · intro h
      exact .inl ⟨Nat.not_le.1 hlt, (Prod.mk.inj h).2.symm⟩
    · rintro (⟨_, rfl⟩ | ⟨length, _, rfl, _⟩)
      · rfl
      · simp at hlt

end

/-! ## One read -/

namespace Getter

variable {getter : Getter} {getters : List Getter} {got : Option Got} {gots : List (Option Got)}
  {bytes consumed rest : Bytes}

/-- The reader of a field. -/
def reader : Getter → Reader Got
  | take n => do return .bytes (← Reader.take n)
  | uint width => do return .number (← Reader.uint width)
  | vector width => do return .bytes (← Reader.vector width)

/-- All that a read can come to: what is got, the bytes consumed, and the bytes behind them. -/
inductive Reads : Getter → Option Got → Bytes → Bytes → Prop
  | taken {taken rest : Bytes} : Reads (.take taken.length) (some (.bytes taken)) taken rest
  | untaken {n : Nat} {rest : Bytes} (hshort : rest.length < n) : Reads (.take n) none [] rest
  | number {width n : Nat} {rest : Bytes} (hfits : n < Bytes.capacity width) :
      Reads (.uint width) (some (.number n)) (Bytes.ofNat width n) rest
  | numberless {width : Nat} {rest : Bytes} (hshort : rest.length < width) :
      Reads (.uint width) none [] rest
  | vector {width : Nat} {body rest : Bytes} (hfits : body.length < Bytes.capacity width) :
      Reads (.vector width) (some (.bytes body)) (field width body) rest
  | lengthless {width : Nat} {rest : Bytes} (hshort : rest.length < width) :
      Reads (.vector width) none [] rest
  | bodiless {width length : Nat} {rest : Bytes} (hfits : length < Bytes.capacity width)
      (hshort : rest.length < length) :
      Reads (.vector width) none (Bytes.ofNat width length) rest

theorem run_return_eq_iff {α : Type} {r : Reader α} {f : α → Got} :
    Reader.run (do return f (← r)) bytes = (got, rest)
      ↔ ∃ answer, r.run bytes = (answer, rest) ∧ got = answer.map f := by
  rw [run_bind]
  rcases r.run bytes with ⟨_ | a, left⟩ <;> simp [run_pure, and_comm, eq_comm]

theorem reads_of_run (h : getter.reader.run bytes = (got, rest)) :
    ∃ consumed, Reads getter got consumed rest ∧ bytes = consumed ++ rest := by
  cases getter with
  | take n =>
      obtain ⟨_ | taken, hrun, rfl⟩ := run_return_eq_iff.1 h
      · obtain ⟨hshort, rfl⟩ := run_take_eq_none_iff.1 hrun
        exact ⟨[], .untaken hshort, rfl⟩
      · obtain ⟨rfl, rfl⟩ := run_take_eq_iff.1 hrun
        exact ⟨taken, .taken, rfl⟩
  | uint width =>
      obtain ⟨_ | n, hrun, rfl⟩ := run_return_eq_iff.1 h
      · obtain ⟨hshort, rfl⟩ := run_uint_eq_none_iff.1 hrun
        exact ⟨[], .numberless hshort, rfl⟩
      · obtain ⟨hfits, rfl⟩ := run_uint_eq_iff.1 hrun
        exact ⟨_, .number hfits, rfl⟩
  | vector width =>
      obtain ⟨_ | body, hrun, rfl⟩ := run_return_eq_iff.1 h
      · rcases run_vector_eq_none_iff.1 hrun with ⟨hshort, rfl⟩ | ⟨length, hfits, rfl, hshort⟩
        · exact ⟨[], .lengthless hshort, rfl⟩
        · exact ⟨_, .bodiless hfits hshort, rfl⟩
      · obtain ⟨hfits, rfl⟩ := run_vector_eq_iff.1 hrun
        exact ⟨_, .vector hfits, rfl⟩

theorem Reads.run_append (h : Reads getter got consumed rest) :
    getter.reader.run (consumed ++ rest) = (got, rest) := by
  cases h with
  | taken => exact run_return_eq_iff.2 ⟨some _, run_take_eq_iff.2 ⟨rfl, rfl⟩, rfl⟩
  | untaken hshort => exact run_return_eq_iff.2 ⟨none, run_take_eq_none_iff.2 ⟨hshort, rfl⟩, rfl⟩
  | number hfits => exact run_return_eq_iff.2 ⟨some _, run_uint_eq_iff.2 ⟨hfits, rfl⟩, rfl⟩
  | numberless hshort => exact run_return_eq_iff.2 ⟨none, run_uint_eq_none_iff.2 ⟨hshort, rfl⟩, rfl⟩
  | vector hfits => exact run_return_eq_iff.2 ⟨some _, run_vector_eq_iff.2 ⟨hfits, rfl⟩, rfl⟩
  | lengthless hshort =>
      exact run_return_eq_iff.2 ⟨none, run_vector_eq_none_iff.2 (.inl ⟨hshort, rfl⟩), rfl⟩
  | bodiless hfits hshort =>
      exact run_return_eq_iff.2
        ⟨none, run_vector_eq_none_iff.2 (.inr ⟨_, hfits, rfl, hshort⟩), rfl⟩

/-- A read comes to something that is listed, at the bytes it consumes and those behind them. -/
theorem run_eq_iff :
    getter.reader.run bytes = (got, rest)
      ↔ ∃ consumed, Reads getter got consumed rest ∧ bytes = consumed ++ rest := by
  constructor
  · exact reads_of_run
  · rintro ⟨consumed, hreads, rfl⟩
    exact hreads.run_append

/-! ## Reads one after the other -/

/-- What some getters get, one after the other whether they get something or not, and the bytes
    they leave. -/
def runAll : List Getter → Bytes → List (Option Got) × Bytes
  | [], bytes => ([], bytes)
  | getter :: getters, bytes =>
      let (got, rest) := getter.reader.run bytes
      let (gots, rest) := runAll getters rest
      (got :: gots, rest)

/-- All that reads one after the other can come to: what each gets, the bytes each consumes, and the
    bytes behind them. -/
inductive ReadsAll : List Getter → List (Option Got) → List Bytes → Bytes → Prop
  | nil {rest : Bytes} : ReadsAll [] [] [] rest
  | cons {getter : Getter} {getters : List Getter} {got : Option Got} {gots : List (Option Got)}
      {first : Bytes} {others : List Bytes} {rest : Bytes}
      (hfirst : Reads getter got first (others.flatten ++ rest))
      (hothers : ReadsAll getters gots others rest) :
      ReadsAll (getter :: getters) (got :: gots) (first :: others) rest

/-- Reads one after the other come to something that is listed, where what they consume is all that
    was there up to the bytes behind. -/
theorem runAll_eq_iff :
    runAll getters bytes = (gots, rest)
      ↔ ∃ consumed, ReadsAll getters gots consumed rest ∧ bytes = consumed.flatten ++ rest := by
  induction getters generalizing bytes gots with
  | nil =>
      constructor
      · intro h
        obtain ⟨rfl, rfl⟩ := Prod.mk.inj h
        exact ⟨[], .nil, rfl⟩
      · rintro ⟨_, ⟨⟩, rfl⟩
        rfl
  | cons getter getters ih =>
      rw [runAll]
      constructor
      · intro h
        obtain ⟨rfl, rfl⟩ := Prod.mk.inj h
        obtain ⟨first, hfirst, hbytes⟩ := run_eq_iff.1 (Eq.refl (getter.reader.run bytes))
        obtain ⟨others, hothers, hmid⟩ := ih.1 (Eq.refl (runAll getters (getter.reader.run bytes).2))
        refine ⟨first :: others, .cons (hmid ▸ hfirst) hothers, ?_⟩
        rw [List.flatten_cons, List.append_assoc, ← hmid]
        exact hbytes
      · rintro ⟨_, @⟨⟩ | ⟨hfirst, hothers⟩, rfl⟩
        rw [List.flatten_cons, List.append_assoc, hfirst.run_append]
        simp only [ih.2 ⟨_, hothers, rfl⟩]

-- the length of the field that is not there is gone
example : runAll [.vector 3, .uint 1] [0, 0, 3, 1, 2] = ([none, some (.number 1)], [2]) := by decide

end Getter

namespace Reader

/-- Fields that are read one after the other take the bytes one after the other: none is passed over
    and none is read twice. A read of so many bytes or of a number fails if there are too few, and
    consumes nothing then. A length-prefixed field is got if its length and the field are there, and
    both are consumed; if it is not got, either nothing is consumed or the length alone. -/
theorem consumed_in_order :
    (∀ getters bytes gots rest, Getter.runAll getters bytes = (gots, rest)
      ↔ ∃ consumed, Getter.ReadsAll getters gots consumed rest ∧ bytes = consumed.flatten ++ rest)
    ∧ (∀ n bytes rest, (take n).run bytes = (none, rest) ↔ bytes.length < n ∧ rest = bytes)
    ∧ (∀ width bytes rest,
        (uint width).run bytes = (none, rest) ↔ bytes.length < width ∧ rest = bytes)
    ∧ ∀ width bytes rest,
        (∀ body, (vector width).run bytes = (some body, rest)
          ↔ body.length < Bytes.capacity width
            ∧ bytes = Bytes.ofNat width body.length ++ body ++ rest)
        ∧ ((vector width).run bytes = (none, rest)
          ↔ bytes.length < width ∧ rest = bytes
            ∨ ∃ length, length < Bytes.capacity width ∧ bytes = Bytes.ofNat width length ++ rest
              ∧ rest.length < length) :=
  ⟨fun _ _ _ _ => Getter.runAll_eq_iff, fun _ _ _ => run_take_eq_none_iff,
    fun _ _ _ => run_uint_eq_none_iff,
    fun _ _ _ => ⟨fun _ => run_vector_eq_iff, run_vector_eq_none_iff⟩⟩

end Reader

end TlsHandshake
