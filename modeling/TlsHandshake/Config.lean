import TlsHandshake.Alert
import TlsHandshake.Hash.Algorithm
import TlsHandshake.Message.Extension
import TlsHandshake.Message.SctList
import TlsHandshake.Role
import TlsHandshake.Session

set_option autoImplicit false

/-! # Configuration of an endpoint

The policies are functions, so any rule can be plugged in; the defaults are the list policy over the
configured schemes and the structural check of timestamp lists. -/

namespace TlsHandshake

/-! ## Signature policies -/

/-- Which schemes an endpoint accepts from its peer and which it signs with. -/
structure SignaturePolicy where
  /-- The alert with which a scheme of the peer is refused, if it is. -/
  refusal? : SignatureScheme → Option AlertDescription
  /-- The scheme to sign with, given those of the own key and those the peer lists. -/
  choose? : (own peer : List SignatureScheme) → Option SignatureScheme

namespace SignaturePolicy

/-- The policy of a list: a scheme is accepted if it is listed, and the first listed scheme is
    chosen that the own key has and the peer lists; a peer that lists none takes all. -/
def ofList (schemes : List SignatureScheme) : SignaturePolicy where
  refusal? s := if schemes.contains s then none else some .illegalParameter
  choose? own peer := schemes.find? fun s => own.contains s && (peer.isEmpty || peer.contains s)

/-- The policy that gives the same answers to everything. -/
def constant (refusal : Option AlertDescription) (choice : Option SignatureScheme) :
    SignaturePolicy where
  refusal? _ := refusal
  choose? _ _ := choice

end SignaturePolicy

/-! ## Configurations -/

/-- The settings of an endpoint. -/
structure Config where
  role : Role := .client
  /-- The own chain, the leaf first. -/
  certificateChain : List Bytes := []
  /-- Stapled to the own leaf if the peer asks for it. -/
  ocspResponse : Option Bytes := none
  /-- Stapled to the own leaf if the peer asks for it. -/
  sctList : Option Bytes := none
  /-- The peer may staple a status. -/
  ocspStapling : Bool := false
  /-- The peer may staple timestamps. -/
  signedCertTimestamps : Bool := false
  /-- A server keeps the hash of the client's leaf. -/
  retainLeafHash : Bool := false
  signatureSchemes : List SignatureScheme := SignatureScheme.verifiable
  signaturePolicy : SignaturePolicy := .ofList signatureSchemes
  sctListValid : Bytes → Bool := SctList.isValid
  chainHook : Option ChainHook := none
  certificateExtensions : ExtensionPolicy := {}
  hash : HashAlgorithm := .sha256
  /-- A server asks its client for a chain. -/
  verifyClient : Bool := false
  /-- A server refuses a client without a chain. -/
  requireClient : Bool := false
  /-- Signatures and Finished MACs that do not match are let through. -/
  insecureFuzzing : Bool := false

end TlsHandshake
