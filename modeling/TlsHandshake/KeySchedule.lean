import TlsHandshake.Error
import TlsHandshake.Hash.Algorithm
import TlsHandshake.Role

set_option autoImplicit false

/-! # Key schedules (RFC 8446 §4.4.4, §7.2)

The part of a key schedule that the handshake asks for: the MAC of a Finished message and the next
generation of a traffic key. Here the finished keys are already derived, and a generation is a
count. -/

namespace TlsHandshake

/-- The direction of traffic, seen from this end. -/
inductive Direction where
  | read
  | write
  deriving DecidableEq, Repr

/-- The finished keys of both ends and the generations of the traffic keys. A generation is counted
    without a bound: of a counter of 64 bits it is assumed that there are fewer than `2 ^ 64`
    rotations. -/
structure FinishedKeys where
  algorithm : HashAlgorithm
  clientKey : Bytes
  serverKey : Bytes
  readGeneration : Nat := 0
  writeGeneration : Nat := 0
  deriving DecidableEq, Repr

namespace FinishedKeys

/-- The body of a Finished message: `HMAC(finished key, transcript hash)`. -/
def verifyData (alg : HashAlgorithm) (key transcriptHash : Bytes) : Bytes :=
  alg.hmac key transcriptHash

/-- The MAC of one end's Finished over a transcript hash. -/
def mac (keys : FinishedKeys) (sender : Role) (transcriptHash : Bytes) : Bytes :=
  verifyData keys.algorithm
    (match sender with | .client => keys.clientKey | .server => keys.serverKey) transcriptHash

/-- The keys with the next generation in one direction. -/
def rotate (keys : FinishedKeys) : Direction → FinishedKeys
  | .read => { keys with readGeneration := keys.readGeneration + 1 }
  | .write => { keys with writeGeneration := keys.writeGeneration + 1 }

end FinishedKeys

end TlsHandshake
