import TlsHandshake.Hash.Sha2

set_option autoImplicit false

/-! # Hash algorithms of a connection

The hash functions a cipher suite can name, and HMAC over them (RFC 2104). -/

namespace TlsHandshake

/-- A negotiated hash function. -/
inductive HashAlgorithm where
  | sha256
  | sha384
  | sha512
  deriving DecidableEq, Repr

namespace HashAlgorithm

/-- Bytes in a digest. -/
def outputLength : HashAlgorithm → Nat
  | sha256 => 32
  | sha384 => 48
  | sha512 => 64

/-- Bytes in a block of the hash function. -/
def blockLength : HashAlgorithm → Nat
  | sha256 => 64
  | sha384 => 128
  | sha512 => 128

/-- The digest of a message. -/
def digest : HashAlgorithm → Bytes → Bytes
  | sha256 => TlsHandshake.sha256
  | sha384 => TlsHandshake.sha384
  | sha512 => TlsHandshake.sha512

theorem length_digest (alg : HashAlgorithm) (message : Bytes) :
    (alg.digest message).length = alg.outputLength := by
  cases alg with
  | sha256 => exact Sha2.Running.length_finish _
  | sha384 =>
      rw [digest, TlsHandshake.sha384, List.length_take, Sha2.Running.length_finish]
      rfl
  | sha512 => exact Sha2.Running.length_finish _

/-! ## Messages in pieces -/

/-- A message that is being hashed. -/
inductive Running where
  | sha256 (message : Sha2.Running UInt32)
  | sha384 (message : Sha2.Running UInt64)
  | sha512 (message : Sha2.Running UInt64)
  deriving DecidableEq, Repr

/-- The empty message. -/
def start : HashAlgorithm → Running
  | sha256 => .sha256 (.start Sha2.initialWords)
  | sha384 => .sha384 (.start Sha2.initialWords384)
  | sha512 => .sha512 (.start Sha2.initialWords)

namespace Running

/-- The message with more bytes at its end. -/
def append (bytes : Bytes) : Running → Running
  | sha256 message => .sha256 (message.append bytes)
  | sha384 message => .sha384 (message.append bytes)
  | sha512 message => .sha512 (message.append bytes)

/-- The digest of the message so far. -/
def digest : Running → Bytes
  | sha256 message => message.finish
  | sha384 message => message.finish.take 48
  | sha512 message => message.finish

theorem append_append (r : Running) (a b : Bytes) :
    (r.append a).append b = r.append (a ++ b) := by
  cases r <;> simp only [append, Sha2.Running.append_append]

end Running

theorem digest_append_start (alg : HashAlgorithm) (message : Bytes) :
    (alg.start.append message).digest = alg.digest message := by
  cases alg <;> rfl

/-! ## HMAC -/

/-- An HMAC key brought to the length of a block: a longer one is hashed, a shorter one filled up
    with zeros. -/
def macKey (alg : HashAlgorithm) (key : Bytes) : Bytes :=
  let short := if key.length ≤ alg.blockLength then key else alg.digest key
  short ++ List.replicate (alg.blockLength - short.length) 0

/-- `HMAC(key, message)`; keys may have any length. -/
def hmac (alg : HashAlgorithm) (key message : Bytes) : Bytes :=
  let block := alg.macKey key
  let inner := alg.digest (block.map (· ^^^ 0x36) ++ message)
  alg.digest (block.map (· ^^^ 0x5c) ++ inner)

theorem length_hmac (alg : HashAlgorithm) (key message : Bytes) :
    (alg.hmac key message).length = alg.outputLength := length_digest _ _

end HashAlgorithm

end TlsHandshake
