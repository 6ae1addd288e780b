import TlsHandshake.Message.Framing

set_option autoImplicit false

/-! # Extensions of a certificate entry (RFC 8446 §4.2)

An extension block is a sequence of extensions, each a type in two bytes and its data behind a
length in two bytes. A block is read under a policy that lists the types it may hold; no type may
appear twice. -/

namespace TlsHandshake

/-- An extension type, known or not. -/
structure ExtensionType where
  code : UInt16
  deriving DecidableEq, Repr

namespace ExtensionType

/-- A stapled certificate status (RFC 6066). -/
def statusRequest : ExtensionType := ⟨5⟩

/-- A list of signed certificate timestamps (RFC 6962). -/
def signedCertificateTimestamp : ExtensionType := ⟨18⟩

end ExtensionType

/-- An extension with its data. -/
structure Extension where
  type : ExtensionType
  data : Bytes
  deriving DecidableEq, Repr

/-- The extension types a certificate entry may hold. -/
structure ExtensionPolicy where
  recognized : List ExtensionType := [.statusRequest, .signedCertificateTimestamp]
  deriving DecidableEq, Repr

namespace ExtensionPolicy

/-- Whether a type may appear. -/
def recognizes (policy : ExtensionPolicy) (type : ExtensionType) : Bool :=
  policy.recognized.contains type

/-- The policy that also recognizes `type`, listed last if it is new. -/
def allow (policy : ExtensionPolicy) (type : ExtensionType) : ExtensionPolicy :=
  if policy.recognizes type then policy else ⟨policy.recognized ++ [type]⟩

end ExtensionPolicy

namespace Extension

/-! ## Reading -/

/-- Judges the extension of type `type` whose header has been read and whose data starts `rest`,
    after the types in `seen`. -/
def check (policy : ExtensionPolicy) (seen : List ExtensionType) (type : ExtensionType)
    (length : Nat) (rest : Bytes) : Except Error Unit :=
  if !Bytes.spans length rest then .error (.decode (.extensionBody type.code))
  else if !policy.recognizes type then .error (.unexpectedExtension type.code)
  else if seen.contains type then .error (.decode (.duplicateExtension type.code))
  else .ok ()

/-- Reads the rest of a block after extensions of the types in `seen`. -/
def readAll (policy : ExtensionPolicy) (seen : List ExtensionType) (block : Bytes) :
    Except Error (List Extension) :=
  match block with
  | [] => .ok []
  | t1 :: t0 :: l1 :: l0 :: rest => do
      let type : ExtensionType := ⟨UInt16.ofNat (Bytes.toNat [t1, t0])⟩
      let length := Bytes.toNat [l1, l0]
      check policy seen type length rest
      let others ← readAll policy (type :: seen) (rest.drop length)
      return ⟨type, rest.take length⟩ :: others
  | _ => .error (.decode .extensionHeader)
termination_by block.length

/-- The extensions of a block, in order. -/
def parse (policy : ExtensionPolicy) (block : Bytes) : Except Error (List Extension) :=
  readAll policy [] block

/-! ## Writing -/

/-- One extension as it stands in a block. -/
def encode (e : Extension) : Except Error Bytes := do
  return Bytes.ofNat 2 e.type.code.toNat ++ (← writeVector 2 e.data)

/-- The block that holds the given extensions, in order. -/
def encodeAll : List Extension → Except Error Bytes
  | [] => .ok []
  | e :: es => do
      let first ← e.encode
      return first ++ (← encodeAll es)

end Extension

end TlsHandshake
