import TlsHandshake.Bytes

set_option autoImplicit false

/-! # Queues of bytes

Bytes go in at the end, in pieces of any size, and come out at the front in pieces of other sizes.
A queue stands for the byte string `toBytes`; pieces are put together only when bytes are taken
that are not all in the first of them.

Main statements: `append` adds at the end (`toBytes_append`), and `take?` takes exactly the bytes
asked for off the front, if there are so many (`take?_eq_none_iff`, `toBytes_of_take?`). -/

namespace TlsHandshake

/-- A queue of bytes. -/
structure ByteQueue where
  front : Bytes
  /-- The pieces behind the front, the last one first. -/
  back : List Bytes
  /-- Bytes in the queue. -/
  size : Nat
  size_eq : size = (front ++ back.reverse.flatten).length
  deriving DecidableEq, Repr

namespace ByteQueue

/-- The queue of one byte string. -/
def ofBytes (bytes : Bytes) : ByteQueue := ⟨bytes, [], bytes.length, by simp⟩

def empty : ByteQueue := ofBytes []

/-- All bytes, from the front to the end. -/
def toBytes (q : ByteQueue) : Bytes :=
  match q.back with
  | [] => q.front
  | back => q.front ++ back.reverse.flatten

theorem toBytes_eq (q : ByteQueue) : q.toBytes = q.front ++ q.back.reverse.flatten := by
  unfold toBytes
  split <;> simp_all

@[simp] theorem toBytes_ofBytes (bytes : Bytes) : (ofBytes bytes).toBytes = bytes := rfl

@[simp] theorem toBytes_empty : empty.toBytes = [] := rfl

theorem size_eq_length (q : ByteQueue) : q.size = q.toBytes.length := by
  rw [q.size_eq, toBytes_eq]

/-! ## Putting in -/

/-- The queue with more bytes at its end. -/
def append (q : ByteQueue) (bytes : Bytes) : ByteQueue :=
  if bytes.isEmpty then q
  else if q.size = 0 then ofBytes bytes
  else ⟨q.front, bytes :: q.back, q.size + bytes.length, by simp [q.size_eq, Nat.add_assoc]⟩

@[simp] theorem toBytes_append (q : ByteQueue) (bytes : Bytes) :
    (q.append bytes).toBytes = q.toBytes ++ bytes := by
  unfold append
  split
  · simp_all
  · split
    · have h : q.toBytes = [] := by rw [← List.length_eq_zero_iff, ← size_eq_length]; assumption
      simp [h]
    · simp [toBytes_eq]

/-! ## Taking out -/

/-- The same bytes, with the first `n` of them in the front, or all if there are fewer. -/
def gather (n : Nat) (q : ByteQueue) : ByteQueue :=
  if Bytes.spans n q.front || q.back.isEmpty then q else ofBytes q.toBytes

@[simp] theorem toBytes_gather (n : Nat) (q : ByteQueue) : (q.gather n).toBytes = q.toBytes := by
  unfold gather
  split <;> simp

@[simp] theorem size_gather (n : Nat) (q : ByteQueue) : (q.gather n).size = q.size := by
  rw [size_eq_length, size_eq_length, toBytes_gather]

theorem le_length_front_gather {n : Nat} {q : ByteQueue} (h : n ≤ q.size) :
    n ≤ (q.gather n).front.length := by
  unfold gather
  split
  · rename_i hq
    rcases Bool.or_eq_true_iff.1 hq with hq | hq
    · exact (Bytes.spans_iff _ _).1 hq
    · have hback : q.back = [] := List.isEmpty_iff.1 hq
      rwa [q.size_eq, hback, List.reverse_nil, List.flatten_nil, List.append_nil] at h
  · rw [size_eq_length] at h
    exact h

/-- The first `n` bytes and the queue without them; nothing if there are fewer. -/
def take? (n : Nat) (q : ByteQueue) : Option (Bytes × ByteQueue) :=
  if h : n ≤ q.size then
    let gathered := q.gather n
    some (gathered.front.take n, {
      front := gathered.front.drop n
      back := gathered.back
      size := q.size - n
      size_eq := by
        have hn : n ≤ gathered.front.length := le_length_front_gather h
        have hsize := gathered.size_eq
        rw [size_gather, List.length_append] at hsize
        rw [List.length_append, List.length_drop]
        omega })
  else none

theorem take?_eq_none_iff {n : Nat} {q : ByteQueue} : q.take? n = none ↔ q.size < n := by
  simp only [take?, dite_eq_right_iff, reduceCtorEq, imp_false, Nat.not_le]

theorem toBytes_of_take? {n : Nat} {q rest : ByteQueue} {bytes : Bytes}
    (h : q.take? n = some (bytes, rest)) :
    bytes = q.toBytes.take n ∧ rest.toBytes = q.toBytes.drop n := by
  unfold take? at h
  split at h
  · rename_i hsize
    have hn := le_length_front_gather hsize
    obtain ⟨rfl, rfl⟩ := Prod.mk.inj (Option.some.inj h)
    rw [← toBytes_gather n q, toBytes_eq, toBytes_eq, List.take_append_of_le_length hn,
      List.drop_append_of_le_length hn]
    exact ⟨rfl, rfl⟩
  · cases h

end ByteQueue

end TlsHandshake
