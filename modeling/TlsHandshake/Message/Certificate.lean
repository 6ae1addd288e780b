import TlsHandshake.Alert
import TlsHandshake.Key.Public
import TlsHandshake.Message.Extension

set_option autoImplicit false

/-! # Certificate (RFC 8446 §4.4.2)

The body is a request context, empty during the handshake, and a list of entries, each a certificate
and its extensions. The first entry, the leaf, must hold a usable key that may sign. Extensions are
judged in every entry, always the stapled status first, and kept of the leaf alone. -/

namespace TlsHandshake

/-- What a chain is judged by when it is read. -/
structure CertificateRules where
  /-- This end is the server; its peer may not staple anything. -/
  isServer : Bool
  ocspStapling : Bool
  signedCertTimestamps : Bool
  extensions : ExtensionPolicy
  /-- Which timestamp lists are well formed. -/
  sctListValid : Bytes → Bool

/-- What the leaf's extensions carry. -/
structure Staples where
  ocspResponse : Option Bytes := none
  sctList : Option Bytes := none
  deriving DecidableEq, Repr

/-- A chain with what is known about its leaf. -/
structure CertificateChain where
  /-- The certificates, the leaf first. -/
  certificates : List Bytes := []
  leafKey : Option PublicKey := none
  staples : Staples := {}
  deriving DecidableEq, Repr

/-! ## Stapled data -/

namespace Staples

/-- The response in a certificate status: the type of OCSP, and the response, not empty, behind its
    length in three bytes. -/
def statusFields : Reader (Nat × Bytes) := do
  let type ← Reader.uint 1
  if type != 1 then failure
  return (type, ← Reader.vector 3)

/-- The response that a certificate status holds. -/
def statusResponse? (data : Bytes) : Option Bytes :=
  match statusFields.run data with
  | (some (_, response), []) => if response.isEmpty then none else some response
  | _ => none

/-- The data of the extension of a type. -/
def find? (extensions : List Extension) (type : ExtensionType) : Option Bytes :=
  (extensions.find? (·.type = type)).map Extension.data

/-- Judges the stapled status of an entry. -/
def readStatus (rules : CertificateRules) (extensions : List Extension) :
    Except Error (Option Bytes) :=
  match find? extensions .statusRequest with
  | none => .ok none
  | some data =>
      if rules.isServer || !rules.ocspStapling then
        .error (.unexpectedExtension ExtensionType.statusRequest.code)
      else match statusResponse? data with
        | none => .error (.decode .statusRequest)
        | some response => .ok (some response)

/-- Judges the timestamps of an entry. -/
def readSctList (rules : CertificateRules) (extensions : List Extension) :
    Except Error (Option Bytes) :=
  match find? extensions .signedCertificateTimestamp with
  | none => .ok none
  | some data =>
      if rules.isServer || !rules.signedCertTimestamps then
        .error (.unexpectedExtension ExtensionType.signedCertificateTimestamp.code)
      else if !rules.sctListValid data then .error (.extension .sctList)
      else .ok (some data)

/-- Reads and judges the extension block of an entry. -/
def read (rules : CertificateRules) (block : Bytes) : Except Error Staples := do
  let extensions ← Extension.parse rules.extensions block
  let ocspResponse ← readStatus rules extensions
  let sctList ← readSctList rules extensions
  return ⟨ocspResponse, sctList⟩

/-- The certificate status that holds a response. -/
def encodeStatus (response : Bytes) : Except Error Bytes := do
  return 1 :: (← writeVector 3 response)

/-- The extensions that carry the staples: timestamps, then the status. -/
def toExtensions (staples : Staples) : Except Error (List Extension) := do
  let sct := staples.sctList.map (Extension.mk .signedCertificateTimestamp)
  let status ← staples.ocspResponse.mapM encodeStatus
  return sct.toList ++ (status.map (Extension.mk .statusRequest)).toList

end Staples

/-! ## Reading -/

namespace CertificateChain

/-- One entry: a certificate and its extension block. -/
def entryFields : Reader (Bytes × Bytes) := do
  let certificate ← Reader.vector 3
  let block ← Reader.vector 2
  return (certificate, block)

/-- The first entry of a list, which must not be empty, and the rest of the list. -/
def readEntry (list : Bytes) : Except Error (Bytes × Bytes × Bytes) :=
  match entryFields.run list with
  | (some (certificate, block), rest) =>
      if certificate.isEmpty then .error .certificateLength else .ok (certificate, block, rest)
  | (none, _) => .error .certificateLength

/-- The key of a leaf certificate, which must be allowed to sign. -/
def readLeafKey (der : Bytes) : Except Error PublicKey := do
  let keyFault := fun fault => Error.decode (.leafPublicKey fault)
  let leaf ← (PublicKey.readCertificate der).mapError keyFault
  let key ← (PublicKey.ofCertificate leaf).mapError keyFault
  match leaf.maySign with
  | .error fault => throw (.decode (.certificate fault))
  | .ok false => throw (.illegalParameter .leafKeyUsage)
  | .ok true => return key

/-- Reads the entries after the leaf; `before` are the certificates so far, the last one first. An
    entry takes at least six bytes, so the length of the list is fuel enough. -/
def readIssuers (rules : CertificateRules) :
    (fuel : Nat) → (before : List Bytes) → (list : Bytes) → Except Error (List Bytes)
  | _, before, [] => .ok before.reverse
  | 0, _, _ => .error .certificateLength
  | fuel + 1, before, list =>
      match readEntry list with
      | .error e => .error e
      | .ok (certificate, block, rest) =>
          match Staples.read rules block with
          | .error e => .error e
          | .ok _ => readIssuers rules fuel (certificate :: before) rest

/-- Reads the list of entries. -/
def readList (rules : CertificateRules) (list : Bytes) : Except Error CertificateChain :=
  match list with
  | [] => .ok {}
  | _ => do
      let (leaf, block, rest) ← readEntry list
      let key ← readLeafKey leaf
      let staples ← Staples.read rules block
      let certificates ← readIssuers rules rest.length [leaf] rest
      return ⟨certificates, some key, staples⟩

/-- Reads a body. -/
def decode (rules : CertificateRules) (body : Bytes) : Except Error CertificateChain :=
  match (Reader.vector 1).run body with
  | (none, _) => .error (.decode .truncatedContext)
  | (some context, rest) =>
      if !context.isEmpty then .error (.decode .requestContext)
      else match (Reader.vector 3).run rest with
        | (none, _) => .error (.decode .truncatedList)
        | (some list, []) => readList rules list
        | (some _, _) => .error (.decode .trailingData)

/-! ## Writing -/

/-- One entry, with what is stapled to it. -/
def encodeEntry (certificate : Bytes) (staples : Staples) : Except Error Bytes := do
  let certificate ← writeVector 3 certificate
  let extensions ← staples.toExtensions
  let block ← writeVector 2 (← Extension.encodeAll extensions)
  return certificate ++ block

/-- The entries of a chain; the staples are the leaf's. -/
def encodeList (staples : Staples) : List Bytes → Except Error Bytes
  | [] => .ok []
  | leaf :: issuers => do
      let first ← encodeEntry leaf staples
      let others ← issuers.mapM (encodeEntry · {})
      return first ++ others.flatten

/-- The whole message of a chain, header included. -/
def encode (chain : List Bytes) (staples : Staples) : Except Error Bytes := do
  let list ← writeVector 3 (← encodeList staples chain)
  frame .certificate (0 :: list)

/-! ## Alerts -/

/-- The alert that tells the peer why its chain was refused. -/
def alertFor : Error → AlertDescription
  | .unexpectedExtension _ => .unsupportedExtension
  | .illegalParameter _ => .illegalParameter
  | .noPeerCertificate => .certificateRequired
  | .internal _ => .internalError
  | _ => .decodeError

end CertificateChain

end TlsHandshake
