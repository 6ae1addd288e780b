import TlsHandshake.Bytes.Reader

set_option autoImplicit false

/-! # SignedCertificateTimestampList framing (RFC 6962 §3.3)

The list is a vector of vectors: its length in two bytes, then one or more timestamps, each behind
its own length in two bytes and none of them empty. Their contents are not looked at. -/

namespace TlsHandshake.SctList

/-- Whether the bytes are a sequence of non-empty timestamps, each behind its length. -/
def entriesValid : Bytes → Bool
  | [] => true
  | l1 :: l0 :: rest =>
      let length := Bytes.toNat [l1, l0]
      length != 0 && Bytes.spans length rest && entriesValid (rest.drop length)
  | _ => false
termination_by bs => bs.length

/-- Whether the bytes are a well-framed, non-empty list. -/
def isValid : Bytes → Bool
  | l1 :: l0 :: entries =>
      Bytes.toNat [l1, l0] == entries.length && !entries.isEmpty && entriesValid entries
  | _ => false

end TlsHandshake.SctList
