import TlsHandshake.Bytes

set_option autoImplicit false

/-! # SHA-2

The SHA-2 hash functions on byte strings. SHA-256 works on 32-bit words, SHA-384 and SHA-512 on
64-bit words; `Sha2Word` holds what the two families do not share (the rotation amounts, the number
of rounds, the width of a word), and the block function, the padding and the output are written once
over it. The constants of the 32-bit family are the upper halves of those of the 64-bit family, so
there is one table of each kind.

A message is absorbed block by block straight off the list. It may come in pieces: `Running` is a
message on its way, and where it is cut does not matter (`Running.append_append`). -/

namespace TlsHandshake

/-! ## Words -/

/-- The word arithmetic of one SHA-2 family. -/
class Sha2Word (W : Type) extends Add W, XorOp W, AndOp W, Complement W where
  /-- Bytes in a word. -/
  width : Nat
  zero : W
  /-- The word moved up by a byte, with a new least significant byte. -/
  push : W → UInt8 → W
  toNat : W → Nat
  /-- A word from its most significant half (or whole) of a 64-bit constant. -/
  ofConstant : UInt64 → W
  /-- The round function's rotation mix of its first word. -/
  mixA : W → W
  /-- The round function's rotation mix of its fifth word. -/
  mixE : W → W
  /-- The schedule's mix of the word fifteen back. -/
  spread15 : W → W
  /-- The schedule's mix of the word two back. -/
  spread2 : W → W
  /-- The number of rounds of the block function. -/
  rounds : Nat

private def rotateRight32 (x : UInt32) (n : UInt32) : UInt32 := (x >>> n) ||| (x <<< (32 - n))

private def rotateRight64 (x : UInt64) (n : UInt64) : UInt64 := (x >>> n) ||| (x <<< (64 - n))

instance : Sha2Word UInt32 where
  width := 4
  zero := 0
  push w b := (w <<< 8) ||| b.toUInt32
  toNat := UInt32.toNat
  ofConstant c := (c >>> 32).toUInt32
  mixA x := rotateRight32 x 2 ^^^ rotateRight32 x 13 ^^^ rotateRight32 x 22
  mixE x := rotateRight32 x 6 ^^^ rotateRight32 x 11 ^^^ rotateRight32 x 25
  spread15 x := rotateRight32 x 7 ^^^ rotateRight32 x 18 ^^^ (x >>> 3)
  spread2 x := rotateRight32 x 17 ^^^ rotateRight32 x 19 ^^^ (x >>> 10)
  rounds := 64

instance : Sha2Word UInt64 where
  width := 8
  zero := 0
  push w b := (w <<< 8) ||| b.toUInt64
  toNat := UInt64.toNat
  ofConstant c := c
  mixA x := rotateRight64 x 28 ^^^ rotateRight64 x 34 ^^^ rotateRight64 x 39
  mixE x := rotateRight64 x 14 ^^^ rotateRight64 x 18 ^^^ rotateRight64 x 41
  spread15 x := rotateRight64 x 1 ^^^ rotateRight64 x 8 ^^^ (x >>> 7)
  spread2 x := rotateRight64 x 19 ^^^ rotateRight64 x 61 ^^^ (x >>> 6)
  rounds := 80

namespace Sha2

/-! ## Constants -/

/-- The fractional parts of the cube roots of the first eighty primes. -/
def roundConstants : List UInt64 :=
  [0x428a2f98d728ae22, 0x7137449123ef65cd, 0xb5c0fbcfec4d3b2f, 0xe9b5dba58189dbbc,
   0x3956c25bf348b538, 0x59f111f1b605d019, 0x923f82a4af194f9b, 0xab1c5ed5da6d8118,
   0xd807aa98a3030242, 0x12835b0145706fbe, 0x243185be4ee4b28c, 0x550c7dc3d5ffb4e2,
   0x72be5d74f27b896f, 0x80deb1fe3b1696b1, 0x9bdc06a725c71235, 0xc19bf174cf692694,
   0xe49b69c19ef14ad2, 0xefbe4786384f25e3, 0x0fc19dc68b8cd5b5, 0x240ca1cc77ac9c65,
   0x2de92c6f592b0275, 0x4a7484aa6ea6e483, 0x5cb0a9dcbd41fbd4, 0x76f988da831153b5,
   0x983e5152ee66dfab, 0xa831c66d2db43210, 0xb00327c898fb213f, 0xbf597fc7beef0ee4,
   0xc6e00bf33da88fc2, 0xd5a79147930aa725, 0x06ca6351e003826f, 0x142929670a0e6e70,
   0x27b70a8546d22ffc, 0x2e1b21385c26c926, 0x4d2c6dfc5ac42aed, 0x53380d139d95b3df,
   0x650a73548baf63de, 0x766a0abb3c77b2a8, 0x81c2c92e47edaee6, 0x92722c851482353b,
   0xa2bfe8a14cf10364, 0xa81a664bbc423001, 0xc24b8b70d0f89791, 0xc76c51a30654be30,
   0xd192e819d6ef5218, 0xd69906245565a910, 0xf40e35855771202a, 0x106aa07032bbd1b8,
   0x19a4c116b8d2d0c8, 0x1e376c085141ab53, 0x2748774cdf8eeb99, 0x34b0bcb5e19b48a8,
   0x391c0cb3c5c95a63, 0x4ed8aa4ae3418acb, 0x5b9cca4f7763e373, 0x682e6ff3d6b2b8a3,
   0x748f82ee5defb2fc, 0x78a5636f43172f60, 0x84c87814a1f0ab72, 0x8cc702081a6439ec,
   0x90befffa23631e28, 0xa4506cebde82bde9, 0xbef9a3f7b2c67915, 0xc67178f2e372532b,
   0xca273eceea26619c, 0xd186b8c721c0c207, 0xeada7dd6cde0eb1e, 0xf57d4f7fee6ed178,
   0x06f067aa72176fba, 0x0a637dc5a2c898a6, 0x113f9804bef90dae, 0x1b710b35131c471b,
   0x28db77f523047d84, 0x32caab7b40c72493, 0x3c9ebe0a15c9bebc, 0x431d67c49c100d4c,
   0x4cc5d4becb3e42b6, 0x597f299cfc657e2a, 0x5fcb6fab3ad6faec, 0x6c44198c4a475817]

/-- The fractional parts of the square roots of the first eight primes. -/
def initialWords : List UInt64 :=
  [0x6a09e667f3bcc908, 0xbb67ae8584caa73b, 0x3c6ef372fe94f82b, 0xa54ff53a5f1d36f1,
   0x510e527fade682d1, 0x9b05688c2b3e6c1f, 0x1f83d9abfb41bd6b, 0x5be0cd19137e2179]

/-- The fractional parts of the square roots of the ninth to the sixteenth prime. -/
def initialWords384 : List UInt64 :=
  [0xcbbb9d5dc1059ed8, 0x629a292a367cd507, 0x9159015a3070dd17, 0x152fecd8f70e5939,
   0x67332667ffc00b31, 0x8eb44a8768581511, 0xdb0c2e0d64f98fa7, 0x47b5481dbefa4fa4]

/-! ## The block function -/

/-- The chaining value: eight words. -/
structure Chain (W : Type) where
  a : W
  b : W
  c : W
  d : W
  e : W
  f : W
  g : W
  h : W
  deriving DecidableEq, Repr

variable {W : Type}

namespace Chain

/-- The words of a chaining value, in order. -/
def toList (s : Chain W) : List W := [s.a, s.b, s.c, s.d, s.e, s.f, s.g, s.h]

/-- Word-wise sum. -/
@[specialize] def add [Sha2Word W] (s t : Chain W) : Chain W :=
  ⟨s.a + t.a, s.b + t.b, s.c + t.c, s.d + t.d, s.e + t.e, s.f + t.f, s.g + t.g, s.h + t.h⟩

/-- The chaining value that eight words spell; absent words are zero. -/
@[specialize] def ofConstants [Sha2Word W] (cs : List UInt64) : Chain W :=
  let word := fun i => Sha2Word.ofConstant (cs.getD i 0)
  ⟨word 0, word 1, word 2, word 3, word 4, word 5, word 6, word 7⟩

end Chain

/-- The round constants of a family. -/
@[specialize] def constants (W : Type) [Sha2Word W] : List W :=
  (roundConstants.take (Sha2Word.rounds W)).map Sha2Word.ofConstant

/-- The words that the next `left` bytes complete, where `word` has been read in part. -/
@[specialize] def words [Sha2Word W] : (left : Nat) → (word : W) → Bytes → List W
  | left + 1, word, b :: bs =>
      let word := Sha2Word.push word b
      if left % Sha2Word.width W = 0 then word :: words left Sha2Word.zero bs
      else words left word bs
  | _, _, _ => []

/-- One round for each constant. The sixteen words of the schedule that matter, `w0` to `w15`, move
    along by one each round; the next word comes from four of them. -/
@[specialize] def rounds [Sha2Word W] : (constants : List W) →
    (w0 w1 w2 w3 w4 w5 w6 w7 w8 w9 w10 w11 w12 w13 w14 w15 a b c d e f g h : W) → Chain W
  | [], _, _, _, _, _, _, _, _, _, _, _, _, _, _, _, _, a, b, c, d, e, f, g, h =>
      ⟨a, b, c, d, e, f, g, h⟩
  | k :: ks, w0, w1, w2, w3, w4, w5, w6, w7, w8, w9, w10, w11, w12, w13, w14, w15,
      a, b, c, d, e, f, g, h =>
      let choice := (e &&& f) ^^^ (~~~e &&& g)
      let majority := (a &&& b) ^^^ (a &&& c) ^^^ (b &&& c)
      let t1 := h + Sha2Word.mixE e + choice + k + w0
      let t2 := Sha2Word.mixA a + majority
      let next := Sha2Word.spread2 w14 + w9 + Sha2Word.spread15 w1 + w0
      rounds ks w1 w2 w3 w4 w5 w6 w7 w8 w9 w10 w11 w12 w13 w14 w15 next
        (t1 + t2) a b c (d + t1) e f g

/-- Bytes in a block: sixteen words. -/
def blockLength (W : Type) [Sha2Word W] : Nat := 16 * Sha2Word.width W

/-- The chaining value after the block that the bytes start with. -/
@[specialize] def compress [Sha2Word W] (s : Chain W) (bs : Bytes) : Chain W :=
  match words (blockLength W) Sha2Word.zero bs with
  | [w0, w1, w2, w3, w4, w5, w6, w7, w8, w9, w10, w11, w12, w13, w14, w15] =>
      s.add (rounds (constants W) w0 w1 w2 w3 w4 w5 w6 w7 w8 w9 w10 w11 w12 w13 w14 w15
        s.a s.b s.c s.d s.e s.f s.g s.h)
  | _ => s

/-! ## Blocks -/

/-- The chaining value after the first `count` blocks of `bs`. -/
@[specialize] def absorb [Sha2Word W] : (count : Nat) → Chain W → Bytes → Chain W
  | 0, s, _ => s
  | count + 1, s, bs => absorb count (compress s bs) (bs.drop (blockLength W))

section Absorb

variable [Sha2Word W]

theorem words_append {left : Nat} (word : W) {bs : Bytes} (cs : Bytes) (h : left ≤ bs.length) :
    words left word (bs ++ cs) = words left word bs := by
  induction left generalizing word bs with
  | zero => simp [words]
  | succ left ih =>
      cases bs with
      | nil => simp at h
      | cons b bs =>
          have h' : left ≤ bs.length := by simpa using h
          simp only [List.cons_append, words, ih _ h']

theorem compress_append (s : Chain W) {bs : Bytes} (cs : Bytes) (h : blockLength W ≤ bs.length) :
    compress s (bs ++ cs) = compress s bs := by
  simp only [compress, words_append _ cs h]

/-- Only the blocks that are absorbed are looked at. -/
theorem absorb_append {count : Nat} (s : Chain W) {bs : Bytes} (cs : Bytes)
    (h : count * blockLength W ≤ bs.length) : absorb count s (bs ++ cs) = absorb count s bs := by
  induction count generalizing s bs with
  | zero => rfl
  | succ count ih =>
      rw [Nat.succ_mul] at h
      have hblock : blockLength W ≤ bs.length := by omega
      rw [absorb, absorb, compress_append s cs hblock, List.drop_append_of_le_length hblock]
      exact ih _ (by rw [List.length_drop]; omega)

theorem absorb_add (m n : Nat) (s : Chain W) (bs : Bytes) :
    absorb (m + n) s bs = absorb n (absorb m s bs) (bs.drop (m * blockLength W)) := by
  induction m generalizing s bs with
  | zero => simp [absorb]
  | succ m ih =>
      rw [Nat.add_right_comm, absorb, absorb, ih, List.drop_drop, Nat.succ_mul,
        Nat.add_comm (m * _)]

end Absorb

/-! ## Messages -/

/-- What follows a message of `length` bytes to fill its last block: a one bit, zero bits, and the
    message's length in bits over the width of two words. -/
def padding (W : Type) [Sha2Word W] (length : Nat) : Bytes :=
  let size := blockLength W
  let field := 2 * Sha2Word.width W
  let zeros := (2 * size - 1 - field - length % size) % size
  0x80 :: List.replicate zeros 0 ++ Bytes.ofNat field (8 * length)

/-- A message that is being hashed. -/
structure Running (W : Type) where
  /-- The chaining value after the last whole block. -/
  chain : Chain W
  /-- What has come after that block. -/
  pending : Bytes
  /-- Bytes so far. -/
  length : Nat
  deriving DecidableEq, Repr

namespace Running

/-- The empty message, under the words to start from. -/
@[specialize] def start [Sha2Word W] (constants : List UInt64) : Running W :=
  ⟨.ofConstants constants, [], 0⟩

/-- The message with more bytes at its end. -/
@[specialize] def append [Sha2Word W] (r : Running W) (bytes : Bytes) : Running W :=
  let unread := r.pending ++ bytes
  let blocks := unread.length / blockLength W
  ⟨absorb blocks r.chain unread, unread.drop (blocks * blockLength W), r.length + bytes.length⟩

/-- The chaining value of the whole message, written as bytes. -/
@[specialize] def finish [Sha2Word W] (r : Running W) : Bytes :=
  let tail := r.pending ++ padding W r.length
  let final := absorb (tail.length / blockLength W) r.chain tail
  final.toList.flatMap fun w => Bytes.ofNat (Sha2Word.width W) (Sha2Word.toNat w)

theorem length_finish [Sha2Word W] (r : Running W) :
    r.finish.length = 8 * Sha2Word.width W := by
  simp only [finish, Chain.toList, List.flatMap_cons, List.flatMap_nil, List.length_append,
    Bytes.length_ofNat, List.length_nil]
  omega

/-- It does not matter in which pieces a message comes. -/
theorem append_append [Sha2Word W] (r : Running W) (a b : Bytes) :
    (r.append a).append b = r.append (a ++ b) := by
  simp only [append]
  generalize hu : r.pending ++ a = u
  have hall : r.pending ++ (a ++ b) = u ++ b := by rw [← hu, List.append_assoc]
  have hlength : (a ++ b).length = a.length + b.length := List.length_append
  have hle : u.length / blockLength W * blockLength W ≤ u.length := Nat.div_mul_le_self _ _
  have hblocks : (u ++ b).length / blockLength W = u.length / blockLength W
      + (u.drop (u.length / blockLength W * blockLength W) ++ b).length / blockLength W := by
    rcases Nat.eq_zero_or_pos (blockLength W) with h | h
    · simp [h]
    · rw [Nat.add_comm (u.length / _), ← Nat.add_mul_div_right _ _ h, List.length_append,
        List.length_append, List.length_drop]
      congr 1
      omega
  rw [hall, hblocks, absorb_add, absorb_append _ b hle, List.drop_append_of_le_length hle,
    Nat.add_mul, ← List.drop_drop, List.drop_append_of_le_length hle, hlength, Nat.add_assoc]

end Running

end Sha2

/-! ## The three hash functions -/

/-- SHA-256: 32 bytes. -/
def sha256 (message : Bytes) : Bytes :=
  ((Sha2.Running.start (W := UInt32) Sha2.initialWords).append message).finish

/-- SHA-384: the first 48 bytes of the 64-bit family from its own start. -/
def sha384 (message : Bytes) : Bytes :=
  ((Sha2.Running.start (W := UInt64) Sha2.initialWords384).append message).finish.take 48

/-- SHA-512: 64 bytes. -/
def sha512 (message : Bytes) : Bytes :=
  ((Sha2.Running.start (W := UInt64) Sha2.initialWords).append message).finish

end TlsHandshake
