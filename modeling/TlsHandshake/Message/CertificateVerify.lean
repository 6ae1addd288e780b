import TlsHandshake.Message.Framing

set_option autoImplicit false

/-! # CertificateVerify (RFC 8446 §4.4.3)

The body is a signature scheme in two bytes and the signature behind its length in two bytes. -/

namespace TlsHandshake

/-- A signature over the transcript, with the scheme it was made with. -/
structure CertificateVerify where
  scheme : SignatureScheme
  signature : Bytes
  deriving DecidableEq, Repr

namespace CertificateVerify

/-- The fields of a body. -/
def fields : Reader CertificateVerify := do
  let scheme ← Reader.uint 2
  let signature ← Reader.vector 2
  return ⟨⟨UInt16.ofNat scheme⟩, signature⟩

/-- Reads a body; nothing may be left over. -/
def decode (body : Bytes) : Except Error CertificateVerify :=
  match fields.run body with
  | (some verify, []) => .ok verify
  | _ => .error (.decode .certificateVerify)

/-- The whole message, header included. -/
def encode (verify : CertificateVerify) : Except Error Bytes := do
  let signature ← writeVector 2 verify.signature
  frame .certificateVerify (Bytes.ofNat 2 verify.scheme.code.toNat ++ signature)

end CertificateVerify

end TlsHandshake
