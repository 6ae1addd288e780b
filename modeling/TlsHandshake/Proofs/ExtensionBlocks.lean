import TlsHandshake.Proofs.ChainEncoding

set_option autoImplicit false

/-! # Reading an extension block undoes writing it

The reader of a block walks over it by the lengths that it finds there; the writer lays one
extension after the other. `readAll_eq_ok_iff` says which blocks the reader takes for which
extensions, with no bound on the length of the block, and `encodeAll_eq_error_iff` when the writer
gives up: at the first extension whose data has no length in two bytes.

Main statement: `parse_inverts_encodeAll`. -/

namespace TlsHandshake.Extension

variable {policy : ExtensionPolicy} {seen : List ExtensionType} {body : Bytes}
  {extensions : List Extension}

/-- The length of what was read stood in two bytes. -/
theorem length_data_lt_of_readAll (h : readAll policy seen body = .ok extensions) :
    ∀ e ∈ extensions, e.data.length < Bytes.capacity 2 := by
  fun_induction readAll policy seen body generalizing extensions with
  | case1 seen =>
      obtain rfl : [] = extensions := Except.ok.inj h
      exact List.forall_mem_nil _
  | case2 seen t1 t0 l1 l0 rest type length =>
      rename_i ih
      obtain ⟨_, hcheck, h⟩ := bind_eq_ok_iff.1 h
      obtain ⟨others, hothers, h⟩ := bind_eq_ok_iff.1 h
      obtain rfl : ⟨type, rest.take length⟩ :: others = extensions := Except.ok.inj h
      rw [List.forall_mem_cons]
      refine ⟨?_, ih hothers⟩
      calc (rest.take length).length ≤ length := List.length_take_le _ _
        _ < Bytes.capacity 2 := Bytes.toNat_lt [l1, l0]
  | case3 => cases h

/-- What is written for extensions is read as these, if they are admitted, and nothing else is. -/
theorem readAll_eq_ok_iff :
    readAll policy seen body = .ok extensions
      ↔ encodeAll extensions = .ok body ∧ Admitted policy seen extensions := by
  rw [encodeAll_eq_ok_iff]
  constructor
  · intro h
    obtain ⟨hbody, hadmitted⟩ := block_of_readAll h
    exact ⟨⟨length_data_lt_of_readAll h, hbody⟩, hadmitted⟩
  · rintro ⟨⟨hdata, rfl⟩, hadmitted⟩
    exact readAll_block hadmitted hdata

/-- At the start of a block no type has been seen. -/
theorem admitted_nil_seen_iff :
    Admitted policy [] extensions
      ↔ (extensions.map Extension.type).Nodup
        ∧ ∀ e ∈ extensions, policy.recognizes e.type = true := by
  constructor
  · intro h
    exact ⟨h.distinct, h.recognized⟩
  · rintro ⟨hdistinct, hrecognized⟩
    exact ⟨hrecognized, hdistinct, fun _ _ => List.not_mem_nil⟩

/-! ## When a block cannot be written -/

theorem encode_eq_error_iff {e : Extension} {error : Error} :
    e.encode = .error error
      ↔ Bytes.capacity 2 ≤ e.data.length
        ∧ error = .internal (.fieldOverflow 16 e.data.length) := by
  by_cases hlength : e.data.length < Bytes.capacity 2
  · have hwritten : e.encode = .ok e.bytes := encode_eq_ok_iff.2 ⟨hlength, rfl⟩
    simp [hwritten, Nat.not_le.2 hlength]
  · have hfails : e.encode = .error (.internal (.fieldOverflow 16 e.data.length)) := by
      rw [encode, writeVector, if_neg hlength]
      rfl
    simp [hfails, Nat.not_lt.1 hlength, eq_comm]

/-- A block cannot be written if its first extension cannot, or else the others cannot. -/
theorem encodeAll_cons_eq_error_iff {first : Extension} {others : List Extension} {error : Error} :
    encodeAll (first :: others) = .error error
      ↔ first.encode = .error error
        ∨ first.data.length < Bytes.capacity 2 ∧ encodeAll others = .error error := by
  rw [encodeAll]
  cases hfirst : first.encode with
  | error e =>
      have htooLong := (encode_eq_error_iff.1 hfirst).1
      simp [Bind.bind, Except.bind, Nat.not_lt.2 htooLong]
  | ok written =>
      have hlength := (encode_eq_ok_iff.1 hfirst).1
      cases encodeAll others <;> simp [Bind.bind, Except.bind, Pure.pure, Except.pure, hlength]

/-- The first extension that cannot be written is the one that is complained of. -/
theorem encodeAll_eq_error_iff {error : Error} :
    encodeAll extensions = .error error
      ↔ ∃ before e after, extensions = before ++ e :: after
        ∧ (∀ e' ∈ before, e'.data.length < Bytes.capacity 2)
        ∧ Bytes.capacity 2 ≤ e.data.length
        ∧ error = .internal (.fieldOverflow 16 e.data.length) := by
  induction extensions with
  | nil =>
      constructor
      · intro h
        cases h
      · rintro ⟨before, e, after, heq, _⟩
        simp at heq
  | cons first others ih =>
      rw [encodeAll_cons_eq_error_iff, encode_eq_error_iff, ih]
      constructor
      · rintro (⟨htooLong, rfl⟩ | ⟨hfirst, before, e, after, rfl, hbefore, htooLong⟩)
        · exact ⟨[], first, others, rfl, List.forall_mem_nil _, htooLong, rfl⟩
        · exact ⟨first :: before, e, after, rfl, List.forall_mem_cons.2 ⟨hfirst, hbefore⟩, htooLong⟩
      · rintro ⟨before, e, after, heq, hbefore, htooLong⟩
        cases before with
        | nil =>
            obtain ⟨rfl, rfl⟩ := List.cons.inj heq
            exact Or.inl htooLong
        | cons _ before =>
            obtain ⟨rfl, rfl⟩ := List.cons.inj heq
            rw [List.forall_mem_cons] at hbefore
            exact Or.inr ⟨hbefore.1, before, e, after, rfl, hbefore.2, htooLong⟩

/-- A byte string is read as extensions exactly if it is what is written for them, their types are
    distinct and the policy recognizes each. Extensions can be written if the data of each fits a
    length in two bytes; otherwise the first that does not fit is an internal error. -/
theorem parse_inverts_encodeAll :
    (∀ policy body extensions,
      parse policy body = .ok extensions
        ↔ encodeAll extensions = .ok body
          ∧ (extensions.map Extension.type).Nodup
          ∧ ∀ e ∈ extensions, policy.recognizes e.type = true)
    ∧ (∀ extensions,
        (∃ body, encodeAll extensions = .ok body)
          ↔ ∀ e ∈ extensions, e.data.length ≤ 0xffff)
    ∧ ∀ extensions error,
        encodeAll extensions = .error error
          ↔ ∃ before e after, extensions = before ++ e :: after
            ∧ (∀ e' ∈ before, e'.data.length ≤ 0xffff)
            ∧ 0xffff < e.data.length
            ∧ error = .internal (.fieldOverflow 16 e.data.length) := by
  have hfits (length : Nat) : length < Bytes.capacity 2 ↔ length ≤ 0xffff := by
    have hcapacity : Bytes.capacity 2 = 0xffff + 1 := rfl
    omega
  have htooLong (length : Nat) : Bytes.capacity 2 ≤ length ↔ 0xffff < length := by
    rw [← Nat.not_lt, hfits, Nat.not_le]
  refine ⟨fun policy body extensions => ?_, fun extensions => ?_, fun extensions error => ?_⟩
  · rw [parse, readAll_eq_ok_iff, admitted_nil_seen_iff]
  · simp only [encodeAll_eq_ok_iff, hfits, exists_and_left, exists_eq, and_true]
  · simp only [encodeAll_eq_error_iff, hfits, htooLong]

end TlsHandshake.Extension
