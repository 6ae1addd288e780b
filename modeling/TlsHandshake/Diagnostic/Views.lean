import TlsHandshake.Connection
import TlsHandshake.Diagnostic.Form
import TlsHandshake.Diagnostic.Names

set_option autoImplicit false

/-! # Diagnostic texts of the library's values

What a log shows of configurations, contexts and connections. Keys, messages and sessions are never
part of it, and a function is shown only as present. -/

namespace TlsHandshake

open Form

def SignatureScheme.form (s : SignatureScheme) : Form :=
  .tagged "SignatureScheme" (.ofNat s.code.toNat)

def ExtensionPolicy.form (policy : ExtensionPolicy) : Form :=
  .record "CertificateExtensionPolicy"
    [("recognized", .list (policy.recognized.map fun t =>
      .tagged "ExtensionType" (.ofNat t.code.toNat)))] true

/-! ## Errors -/

def CryptoError.form (e : CryptoError) : Form :=
  match e with
  | .unsupportedScheme s => .tagged e.kind (.ofNat s.code.toNat)
  | _ => .word e.kind

def Error.form (e : Error) : Form :=
  match e with
  | .decode fault => .tagged e.kind (.text fault.message)
  | .unexpectedExtension t => .tagged e.kind (.ofNat t.toNat)
  | .extension fault => .tagged e.kind (.text fault.message)
  | .illegalParameter fault => .tagged e.kind (.text fault.message)
  | .unexpectedMessage fault => .tagged e.kind (.text fault.message)
  | .schemeRejected s => .tagged e.kind (.ofNat s.code.toNat)
  | .internal fault => .tagged e.kind (.text fault.message)
  | .io reason =>
      .tagged e.kind
        (.record "Custom" [("kind", .word "BrokenPipe"), ("error", .text reason)] true)
  | .crypto c => .tagged e.kind c.form
  | _ => .word e.kind

/-! ## Configurations -/

/-- A configuration. -/
def Config.form (c : Config) : Form :=
  .record "HandshakeConfig"
    [("role", .word c.role.name),
      ("certificate_chain_len", .ofNat c.certificateChain.length),
      ("ocsp_response", .ofOption (c.ocspResponse.map fun r => .text s!"[{r.length} bytes]")),
      ("ocsp_stapling", .ofBool c.ocspStapling),
      ("signed_cert_timestamps", .ofBool c.signedCertTimestamps),
      ("signature_algorithms", .list (c.signatureSchemes.map SignatureScheme.form)),
      ("session_cache", .ofOption (c.chainHook.map fun _ => .text "<callback>")),
      ("certificate_extensions", c.certificateExtensions.form),
      ("hash_algorithm", .word c.hash.name),
      ("verify_client_cert", .ofBool c.verifyClient),
      ("require_client_cert", .ofBool c.requireClient)] false

/-- A configuration that is still being put together. -/
def Config.draftForm (c : Config) : Form :=
  .record "HandshakeConfigBuilder"
    [("role", .word c.role.name),
      ("signature_algorithms", .list (c.signatureSchemes.map SignatureScheme.form))] false

/-! ## Contexts and connections -/

def Transcript.form (t : Transcript) : Form :=
  .record "TranscriptHash" [("alg", .word t.algorithm.name)] false

def FinishedKeys.form (k : FinishedKeys) : Form :=
  .record "DerivedFinishedKeys"
    [("alg", .word k.algorithm.name),
      ("read_generation", .ofNat k.readGeneration),
      ("write_generation", .ofNat k.writeGeneration)] false

def Context.form (c : Context) : Form :=
  .record "HandshakeContext"
    [("role", .word c.role.name),
      ("wait", .word c.wait.name),
      ("transcript", c.transcript.form),
      ("pending_private_key_op", .ofBool c.signaturePending),
      ("key_update_count", .ofNat c.keyUpdateCount),
      ("key_update_pending", .ofBool c.keyUpdatePending),
      ("last_error", .ofOption (c.lastError.map Error.form))] false

def AuthFlow.form (f : AuthFlow) : Form :=
  .record "AuthFlow" [("role", .word f.role.name), ("phase", .word f.phase.name)] true

def Connection.form {ε : Type} (c : Connection ε) : Form :=
  .record "HandshakeConnection"
    [("hs", c.endpoint.context.form),
      ("flow", c.flow.form),
      ("complete", .ofBool c.complete)] false

end TlsHandshake
