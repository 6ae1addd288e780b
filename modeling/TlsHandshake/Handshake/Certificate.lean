import TlsHandshake.Handshake.Engine
import TlsHandshake.Message.Certificate

set_option autoImplicit false

/-! # Exchanging certificates

The peer's chain is judged under the own settings and stored in the session; the own chain is sent
with what the peer asked to have stapled. -/

namespace TlsHandshake

variable {ε : Type}

/-! ## Receiving -/

/-- What the peer's chain is judged by. -/
def Context.certificateRules (c : Context) : CertificateRules where
  isServer := c.isServer
  ocspStapling := c.config.ocspStapling
  signedCertTimestamps := c.config.signedCertTimestamps
  extensions := c.config.certificateExtensions
  sctListValid := c.config.sctListValid

/-- The session with the peer's chain in it. Staples of an earlier chain stay unless there are new
    ones; the hash of the leaf is written only where it is to be retained. -/
def Session.storeChain (s : Session) (retainHash : Bool) (chain : CertificateChain) : Session :=
  { s with
    peerLeafHash := if retainHash then chain.certificates.head?.map sha256 else s.peerLeafHash
    peerKey := chain.leafKey
    ocspResponse := chain.staples.ocspResponse.or s.ocspResponse
    sctList := chain.staples.sctList.or s.sctList
    peerCertificates := if chain.certificates.isEmpty then none else some chain.certificates }

namespace Engine

/-- Runs the chain hook on the session. -/
def runChainHook : Engine ε Unit := fun p =>
  match p.context.config.chainHook with
  | none => .ok () p
  | some hook =>
      let (result, session) := hook p.context.session
      let p := { p with context := { p.context with session := session } }
      match result with
      | .ok () => .ok () p
      | .error e => .error e p

variable [Environment ε]

/-- Deals with the pending Certificate message. A peer without a chain is an error unless it may
    stay anonymous; then there is nothing to verify. -/
def processCertificate (allowAnonymous : Bool) : Engine ε Unit := do
  let c ← context
  let chain ← orFatal CertificateChain.alertFor
    (CertificateChain.decode c.certificateRules c.messageBody)
  modifySession (·.storeChain (c.isServer && c.config.retainLeafHash) chain)
  orAlert (fun _ => .decodeError) runChainHook
  if (← context).session.peerCertificates.isNone then
    if allowAnonymous then
      modifySession fun s => { s with verifyResult := .ok }
    else
      fatal (CertificateChain.alertFor .noPeerCertificate) .noPeerCertificate

/-! ## Sending -/

/-- Sends the own chain. -/
def addCertificate : Engine ε Unit := do
  let c ← context
  let staples : Staples :=
    { ocspResponse := if c.ocspRequested then c.config.ocspResponse else none
      sctList := if c.sctsRequested then c.config.sctList else none }
  let message ← orFatal (fun _ => .internalError)
    (CertificateChain.encode c.config.certificateChain staples)
  queue message

end Engine

end TlsHandshake
