set_option autoImplicit false

/-! # Ranges of code points

A set of code points, kept as its maximal ranges in ascending order. Main statement: with the ranges
in order, looking a code point up answers whether a range holds it. -/

namespace TlsHandshake

/-- Ranges of code points, each by its first and its last. -/
abbrev CodeRanges := List (Nat × Nat)

namespace CodeRanges

/-- Whether each range ends before the next one starts. -/
def isAscending : CodeRanges → Bool
  | [] => true
  | [r] => r.1 ≤ r.2
  | r :: s :: rest => r.1 ≤ r.2 && r.2 < s.1 && isAscending (s :: rest)

/-- Whether a code point is in one of the ranges: those that start after it need no look. -/
def contains : CodeRanges → Nat → Bool
  | [], _ => false
  | (first, last) :: rest, n => first ≤ n && (n ≤ last || contains rest n)

theorem isAscending_tail {r : Nat × Nat} {rest : CodeRanges} (h : isAscending (r :: rest)) :
    isAscending rest := by
  cases rest with
  | nil => rfl
  | cons s rest =>
    simp only [isAscending, Bool.and_eq_true] at h
    exact h.2

theorem first_le_of_mem {r s : Nat × Nat} {rest : CodeRanges} (h : isAscending (r :: rest))
    (hs : s ∈ rest) : r.1 ≤ s.1 := by
  induction rest generalizing r with
  | nil => cases hs
  | cons t rest ih =>
    have ht : r.1 ≤ t.1 := by
      simp only [isAscending, Bool.and_eq_true, decide_eq_true_eq] at h
      omega
    rcases List.mem_cons.1 hs with rfl | hs
    · exact ht
    · exact Nat.le_trans ht (ih (isAscending_tail h) hs)

theorem contains_iff {ranges : CodeRanges} (n : Nat) (h : ranges.isAscending) :
    ranges.contains n ↔ ∃ r ∈ ranges, r.1 ≤ n ∧ n ≤ r.2 := by
  induction ranges with
  | nil => simp [contains]
  | cons r rest ih =>
    simp only [contains, Bool.and_eq_true, Bool.or_eq_true, decide_eq_true_eq,
      ih (isAscending_tail h), List.mem_cons, exists_eq_or_imp]
    constructor
    · rintro ⟨hr, hn | hn⟩
      · exact .inl ⟨hr, hn⟩
      · exact .inr hn
    · rintro (⟨hr, hn⟩ | ⟨s, hs, hr, hn⟩)
      · exact ⟨hr, .inl hn⟩
      · exact ⟨Nat.le_trans (first_le_of_mem h hs) hr, .inr ⟨s, hs, hr, hn⟩⟩

end CodeRanges

end TlsHandshake
