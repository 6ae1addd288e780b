import TlsHandshake.Error
import TlsHandshake.X509.Time

set_option autoImplicit false

/-! # X.509 certificates (RFC 5280 §4.1)

What the handshake needs of a certificate: the key in it and whether the key may sign. The structure
is walked from end to end, but names and the contents of extensions are not looked into, signatures
are not verified, and bytes after the certificate are left over. -/

namespace TlsHandshake.X509

/-- An extension of a certificate. -/
structure Extension where
  id : Bytes
  value : Bytes
  deriving DecidableEq, Repr

/-- The parts of a certificate that are used. -/
structure Certificate where
  /-- The object identifier of the key's algorithm. -/
  keyAlgorithm : Bytes
  keyBits : Bytes
  extensions : List Extension
  deriving DecidableEq, Repr

namespace Certificate

open Tlv

/-! ## Structure -/

/-- The optional version `[0]`. -/
def version : Tlv Unit := fun bytes =>
  match bytes with
  | [] => some ((), [])
  | _ => do
      let (e, rest) ← element bytes
      if e.number != 0 then return ((), bytes)
      if e.tagClass != 2 then none
      let _ ← within e.content small
      return ((), rest)

/-- An algorithm's object identifier. Its parameters, if there are any, are an element that is not
    looked into. -/
def algorithm : Tlv Bytes := sequence do
  let id ← objectId
  if (← get) != [] then
    let _ ← element
  return id

/-- The period of validity: two times, in either order. -/
def validity : Tlv Unit := sequence (do Time.time; Time.time)

/-- The key and its algorithm. -/
def keyInfo : Tlv (Bytes × Bytes) := sequence (do return (← algorithm, ← bitString))

/-- The optional unique identifier `[number]`, which is not empty. -/
def uniqueId (number : Nat) : Tlv Unit := fun bytes =>
  match bytes with
  | [] => some ((), [])
  | _ => do
      let ((_, tag), _) ← header bytes
      if tag.number != number then return ((), bytes)
      let (e, rest) ← element bytes
      if e.tagClass != 2 || e.content = [] then none
      return ((), rest)

/-- The criticality of an extension, absent or a BOOLEAN of one byte. -/
def critical : Tlv Unit := fun bytes => do
  let (e, _) ← tag bytes
  if e.number != 1 then return ((), bytes)
  match ← element bytes with
  | (⟨_, _, _, [_]⟩, rest) => return ((), rest)
  | _ => none

/-- One extension. -/
def extension : Tlv Extension := sequence do
  let id ← objectId
  critical
  return ⟨id, (← primitive 4).content⟩

/-- Extensions to the end of the content, after those in `before`, the last one first; the fuel
    bounds how many. -/
def extensionsIn : (fuel : Nat) → (before : List Extension) → Bytes → Option (List Extension)
  | _, before, [] => some before.reverse
  | 0, _, _ => none
  | fuel + 1, before, bytes =>
      match extension bytes with
      | none => none
      | some (e, rest) => extensionsIn fuel (e :: before) rest

/-- The optional extensions `[3]`, which end the body: the sequence in them must reach its end. -/
def extensionBlock : Tlv (List Extension) := fun bytes =>
  match bytes with
  | [] => some ([], [])
  | _ => do
      let ((_, tag), inner) ← header bytes
      if tag.number != 3 then none
      let (e, rest) ← numbered 16 inner
      if rest != [] then none
      return (← extensionsIn e.content.length [] e.content, [])

/-- The body of a certificate. -/
def body : Tlv Certificate := sequence do
  version
  skipNumbered 2
  let _ ← algorithm
  let _ ← numbered 16
  validity
  let _ ← numbered 16
  let (keyAlgorithm, keyBits) ← keyInfo
  uniqueId 1
  uniqueId 2
  return ⟨keyAlgorithm, keyBits, ← extensionBlock⟩

/-- A certificate. -/
def certificate : Tlv Certificate := sequence do
  let c ← body
  let _ ← algorithm
  let _ ← bitString
  return c

/-- The certificate at the start of the bytes, and what follows it. -/
def parse? (der : Bytes) : Option (Certificate × Bytes) := certificate der

/-! ## Key usage -/

/-- The object identifier of the key usage extension, `2.5.29.15`. -/
def keyUsageId : Bytes := [0x55, 0x1d, 0x0f]

/-- Whether the key may sign: it may unless a key usage extension is present that does not say so.
    Two such extensions, or one that is not a bit string, are a fault. -/
def maySign (c : Certificate) : Except CertificateFault Bool :=
  match c.extensions.filter (·.id == keyUsageId) with
  | [] => .ok true
  | [e] =>
      match within e.value flags with
      | none => .error .keyUsage
      | some bits => .ok (bits.head?.any (0x80 ≤ ·))
  | _ => .error .keyUsage

end Certificate

end TlsHandshake.X509
