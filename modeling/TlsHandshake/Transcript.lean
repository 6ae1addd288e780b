import TlsHandshake.Hash.Algorithm

set_option autoImplicit false

/-! # Transcripts

The transcript of a handshake is the bytes of its messages in order; its hash can be taken at any
time without disturbing what follows. The bytes are hashed as they come: of the bytes themselves
nothing is needed to go on. Main statement: the hash is that of all bytes so far (`hash_eq`). -/

namespace TlsHandshake

/-- The messages of a handshake, under the hash of the connection. -/
structure Transcript where
  algorithm : HashAlgorithm
  /-- All bytes so far, put together only when they are asked for. -/
  content : Thunk Bytes
  running : HashAlgorithm.Running
  running_eq : running = algorithm.start.append content.get

namespace Transcript

/-- The transcript without any bytes. -/
def new (algorithm : HashAlgorithm) : Transcript where
  algorithm := algorithm
  content := ⟨fun _ => []⟩
  running := algorithm.start.append []
  running_eq := rfl

/-- All bytes so far. -/
def bytes (t : Transcript) : Bytes := t.content.get

/-- The transcript with more bytes at its end. -/
def append (t : Transcript) (bytes : Bytes) : Transcript where
  algorithm := t.algorithm
  content := ⟨fun _ => t.content.get ++ bytes⟩
  running := t.running.append bytes
  running_eq := by rw [t.running_eq, HashAlgorithm.Running.append_append]; rfl

/-- The hash of all bytes so far. -/
def hash (t : Transcript) : Bytes := t.running.digest

@[simp] theorem bytes_new (alg : HashAlgorithm) : (new alg).bytes = [] := rfl

@[simp] theorem algorithm_new (alg : HashAlgorithm) : (new alg).algorithm = alg := rfl

@[simp] theorem bytes_append (t : Transcript) (b : Bytes) : (t.append b).bytes = t.bytes ++ b := rfl

@[simp] theorem algorithm_append (t : Transcript) (b : Bytes) :
    (t.append b).algorithm = t.algorithm := rfl

theorem hash_eq (t : Transcript) : t.hash = t.algorithm.digest t.bytes := by
  rw [hash, t.running_eq, HashAlgorithm.digest_append_start, bytes]

/-- A transcript is its algorithm and its bytes. -/
@[ext] theorem ext {s t : Transcript} (halg : s.algorithm = t.algorithm)
    (hbytes : s.bytes = t.bytes) : s = t := by
  obtain ⟨alg, content, running, h⟩ := s
  obtain ⟨alg', content', running', h'⟩ := t
  obtain rfl : alg = alg' := halg
  obtain rfl : content = content' := Thunk.ext hbytes
  obtain rfl : running = running' := h.trans h'.symm
  rfl

end Transcript

end TlsHandshake
