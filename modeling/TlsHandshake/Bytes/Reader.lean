import TlsHandshake.Bytes

set_option autoImplicit false

/-! # Reading fields off untrusted bytes

A `Reader α` looks at the unread bytes, answers with a value or with nothing, and leaves what is
still unread. It never reads past the end. A reader that answers nothing keeps what its parts have
consumed before: when the body of a length-prefixed field is short, the length is gone.

Each reader is described by one equation on the unread bytes (`run_take`, `run_uint`,
`run_vector`). -/

namespace TlsHandshake

/-- A reader of values of type `α`: an answer, if there is one, and the bytes left unread. -/
abbrev Reader (α : Type) := OptionT (StateM Bytes) α

namespace Reader

/-- The answer of a reader on `bytes`, and what it leaves unread. -/
def run {α : Type} (r : Reader α) (bytes : Bytes) : Option α × Bytes :=
  (OptionT.run r bytes : Id _)

/-! ## Fields -/

/-- The next `n` bytes. -/
def take (n : Nat) : Reader Bytes := fun bytes =>
  match bytes.cut? n with
  | some (taken, rest) => (some taken, rest)
  | none => (none, bytes)

/-- The next `width` bytes as a big-endian number. -/
def uint (width : Nat) : Reader Nat := do
  let field ← take width
  return field.toNat

/-- A field preceded by its length in `width` bytes. -/
def vector (width : Nat) : Reader Bytes := do
  let length ← uint width
  take length

/-- Whether nothing is left to read. -/
def atEnd : Reader Bool := fun bytes => (some bytes.isEmpty, bytes)

/-! ## What each reader does -/

theorem run_take (n : Nat) (bytes : Bytes) :
    (take n).run bytes
      = if n ≤ bytes.length then (some (bytes.take n), bytes.drop n) else (none, bytes) := by
  simp only [run, take, OptionT.run, Bytes.cut?_eq]
  split <;> rename_i h <;> split at h <;> simp_all

theorem run_uint (width : Nat) (bytes : Bytes) :
    (uint width).run bytes
      = if width ≤ bytes.length then (some (Bytes.toNat (bytes.take width)), bytes.drop width)
        else (none, bytes) := by
  have h := run_take width bytes
  simp only [run, OptionT.run] at h
  simp only [run, uint, OptionT.run, bind, OptionT.bind, OptionT.mk, StateT.bind, h]
  split <;> rfl

theorem run_vector (width : Nat) (bytes : Bytes) :
    (vector width).run bytes
      = if width ≤ bytes.length then
          (take (Bytes.toNat (bytes.take width))).run (bytes.drop width)
        else (none, bytes) := by
  have h := run_uint width bytes
  simp only [run, OptionT.run] at h
  simp only [run, vector, OptionT.run, bind, OptionT.bind, OptionT.mk, StateT.bind, h]
  split <;> rfl

end Reader

end TlsHandshake
