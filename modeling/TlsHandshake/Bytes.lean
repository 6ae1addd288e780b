set_option autoImplicit false

/-! # Byte strings and big-endian numbers

A byte string is a list of bytes. `Bytes.toNat` reads one as a number, most significant byte first,
and `Bytes.ofNat` writes a number into a field of a given width. The two are inverse to each other
on numbers below the field's `capacity` (`toNat_ofNat`) and on every field (`ofNat_toNat`). -/

namespace TlsHandshake

/-- A byte string. -/
abbrev Bytes := List UInt8

namespace Bytes

/-! ## Numbers -/

/-- How many numbers a field of `width` bytes holds. -/
def capacity (width : Nat) : Nat := 1 <<< (8 * width)

theorem capacity_succ (width : Nat) : capacity (width + 1) = capacity width * 256 := by
  simp only [capacity, Nat.one_shiftLeft, Nat.mul_add, Nat.pow_add]

@[simp] theorem capacity_zero : capacity 0 = 1 := rfl

theorem capacity_pos (width : Nat) : 0 < capacity width := by
  rw [capacity, Nat.one_shiftLeft]
  exact Nat.pow_pos (by decide)

/-- The number a byte string spells, most significant byte first. -/
def toNat (bs : Bytes) : Nat := bs.foldl (fun n b => n * 256 + b.toNat) 0

/-- The `width` bytes that spell `n` modulo the field's capacity, most significant byte first. -/
def ofNat : (width : Nat) → (n : Nat) → Bytes
  | 0, _ => []
  | width + 1, n => UInt8.ofNat (n / capacity width) :: ofNat width n

@[simp] theorem length_ofNat (width n : Nat) : (ofNat width n).length = width := by
  induction width with
  | zero => rfl
  | succ w ih => simp [ofNat, ih]

private theorem foldl_toNat (bs : Bytes) (n : Nat) :
    bs.foldl (fun n b => n * 256 + b.toNat) n = n * capacity bs.length + toNat bs := by
  induction bs generalizing n with
  | nil => simp [toNat]
  | cons b bs ih =>
      simp only [toNat, List.foldl_cons, List.length_cons]
      rw [ih, ih (0 * 256 + b.toNat), capacity_succ]
      simp only [Nat.zero_mul, Nat.zero_add, Nat.add_mul, Nat.mul_assoc, Nat.mul_comm 256,
        Nat.add_assoc]

@[simp] theorem toNat_nil : toNat [] = 0 := rfl

theorem toNat_cons (b : UInt8) (bs : Bytes) :
    toNat (b :: bs) = b.toNat * capacity bs.length + toNat bs := by
  have h := foldl_toNat bs (0 * 256 + b.toNat)
  simpa [toNat] using h

theorem toNat_lt (bs : Bytes) : toNat bs < capacity bs.length := by
  induction bs with
  | nil => simp
  | cons b bs ih =>
      rw [toNat_cons, List.length_cons, capacity_succ]
      have hb : b.toNat ≤ 255 := Nat.le_of_lt_succ b.toNat_lt
      have := Nat.mul_le_mul_right (capacity bs.length) hb
      omega

theorem toNat_ofNat (width n : Nat) : toNat (ofNat width n) = n % capacity width := by
  induction width with
  | zero => simp [ofNat, Nat.mod_one]
  | succ w ih =>
      rw [ofNat, toNat_cons, length_ofNat, ih, UInt8.toNat_ofNat', capacity_succ, Nat.mod_mul,
        Nat.add_comm, Nat.mul_comm]

/-- Writing the number of a field gives the field back. -/
theorem ofNat_toNat (bs : Bytes) : ofNat bs.length (toNat bs) = bs := by
  suffices h : ∀ m, ofNat bs.length (m * capacity bs.length + toNat bs) = bs by simpa using h 0
  induction bs with
  | nil => intro m; rfl
  | cons b bs ih =>
      intro m
      have hpos := capacity_pos bs.length
      have hlt := toNat_lt bs
      rw [List.length_cons, ofNat, toNat_cons]
      have hsum : m * capacity (bs.length + 1) + (b.toNat * capacity bs.length + toNat bs)
          = (m * 256 + b.toNat) * capacity bs.length + toNat bs := by
        rw [capacity_succ, Nat.add_mul, Nat.mul_assoc, Nat.mul_comm 256, Nat.add_assoc]
      rw [hsum, ih]
      congr 1
      rw [Nat.mul_comm, Nat.mul_add_div hpos, Nat.div_eq_of_lt hlt, Nat.add_zero]
      apply UInt8.toNat.inj
      rw [UInt8.toNat_ofNat']
      have := b.toNat_lt
      omega

/-! ## Lengths -/

/-- Whether there are at least `n` bytes. Looks at no more than `n` of them; only a number that no
    field of four bytes holds is compared with the length as a whole. -/
def spans (n : Nat) (bs : Bytes) : Bool :=
  if n < capacity 4 then n == 0 || !(bs.drop (n - 1)).isEmpty else n ≤ bs.length

@[simp] theorem spans_iff (n : Nat) (bs : Bytes) : spans n bs = true ↔ n ≤ bs.length := by
  unfold spans
  split
  · rw [Bool.or_eq_true, beq_iff_eq, Bool.not_eq_true', List.isEmpty_eq_false_iff, ne_eq,
      List.drop_eq_nil_iff]
    omega
  · exact decide_eq_true_iff

theorem spans_eq_decide (n : Nat) (bs : Bytes) : spans n bs = decide (n ≤ bs.length) := by
  rw [Bool.eq_iff_iff]
  simp

/-- The first `n` bytes and what follows them, if there are so many. Nothing is copied when nothing
    follows. -/
def cut? (n : Nat) (bs : Bytes) : Option (Bytes × Bytes) :=
  if spans n bs then
    let rest := bs.drop n
    some (if rest.isEmpty then bs else bs.take n, rest)
  else none

theorem cut?_eq (n : Nat) (bs : Bytes) :
    cut? n bs = if n ≤ bs.length then some (bs.take n, bs.drop n) else none := by
  have h : (if (bs.drop n).isEmpty then bs else bs.take n) = bs.take n := by
    split
    · rename_i hrest
      rw [List.isEmpty_iff, List.drop_eq_nil_iff] at hrest
      exact (List.take_of_length_le hrest).symm
    · rfl
  simp only [cut?, h, spans_iff]

end Bytes

end TlsHandshake
