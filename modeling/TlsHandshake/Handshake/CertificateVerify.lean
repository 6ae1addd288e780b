import TlsHandshake.Handshake.Engine
import TlsHandshake.Message.CertificateVerify

set_option autoImplicit false

/-! # Proving possession of a certificate's key (RFC 8446 §4.4.3)

The signature covers 64 spaces, a label that tells who signs, and the hash of the transcript up to
but not including the CertificateVerify message. The labels differ, so a signature of one end never
serves for the other. -/

namespace TlsHandshake

/-! ## What is signed -/

/-- Who signs, or what for. -/
inductive SignerContext where
  | server
  | client
  | channelId
  deriving DecidableEq, Repr

namespace SignerContext

/-- The label of a signer, with the zero byte that ends it. -/
def label (s : SignerContext) : Bytes :=
  let text := match s with
    | server => "TLS 1.3, server CertificateVerify"
    | client => "TLS 1.3, client CertificateVerify"
    | channelId => "TLS 1.3, Channel ID"
  text.toList.map (fun c => UInt8.ofNat c.toNat) ++ [0]

/-- The context in which an end signs. -/
def ofRole : Role → SignerContext
  | .server => server
  | .client => client

/-- The context of a code. -/
def ofCode : UInt8 → Except Error SignerContext
  | 0 => .ok server
  | 1 => .ok client
  | 2 => .ok channelId
  | code => .error (.internal (.unknownSigner code))

end SignerContext

/-- The bytes that a CertificateVerify signature covers. -/
def signatureInput (transcriptHash : Bytes) (signer : SignerContext) : Bytes :=
  List.replicate 64 0x20 ++ signer.label ++ transcriptHash

/-- What an end signs over the transcript as it is. -/
def Context.signatureInput (c : Context) (signer : Role) : Bytes :=
  TlsHandshake.signatureInput c.transcript.hash (.ofRole signer)

namespace Engine

variable {ε : Type} [Environment ε]

/-! ## Receiving -/

/-- Deals with the pending CertificateVerify message: the peer's key must verify it under a scheme
    the policy accepts. -/
def processCertificateVerify : Engine ε Unit := do
  let c ← context
  match c.session.peerKey with
  | none => fatal .internalError (.internal .noPeerKey)
  | some key =>
      let verify ← orFatal (fun _ => .decodeError) (CertificateVerify.decode c.messageBody)
      match c.config.signaturePolicy.refusal? verify.scheme with
      | some description => fatal description (.schemeRejected verify.scheme)
      | none =>
          modifySession fun s => { s with peerScheme := some verify.scheme }
          let verified :=
            match key.verify verify.scheme (c.signatureInput c.role.peer) verify.signature with
            | .ok b => b
            | .error _ => false
          if !verified && !c.config.insecureFuzzing then
            fatal .decryptError .badSignature

/-! ## Sending -/

/-- Asks the signer, which must exist, for a signature or for the outcome of one under way. -/
def askSigner (c : Context) (scheme : SignatureScheme) (maxLength : Nat) : Engine ε SignResult :=
  if c.signaturePending then
    performPure (Environment.completeSignature maxLength)
  else
    performPure (Environment.sign scheme (c.signatureInput c.role) maxLength)

/-- Signs the transcript and sends the CertificateVerify. The answer is the signature, or that the
    signer is not done. -/
def signTranscript : Engine ε SignResult := fun p => go (Environment.signer? p.environment) p
where
  /-- Signs with a known signer. -/
  go : Option SignerInfo → Engine ε SignResult
    | none => fatal .internalError (.internal .noPrivateKey)
    | some signer => do
        let c ← context
        match c.config.signaturePolicy.choose? signer.schemes c.peerSchemes with
        | none => fatal .handshakeFailure .noCommonScheme
        | some scheme =>
            let result ← askSigner c scheme signer.maxLength
            modifyContext fun c => { c with signaturePending := result = .retry }
            match result with
            | .retry => return .retry
            | .failure => fatal .internalError (.crypto .signFailed)
            | .success signature =>
                if signer.maxLength < signature.length then
                  fatal .internalError (.internal .signatureTooLong)
                let message ← orFatal (fun _ => .internalError)
                  (CertificateVerify.encode ⟨scheme, signature⟩)
                queue message
                return .success signature

/-- As `signTranscript`, but a failure is an answer and its error is left in the context. -/
def addCertificateVerify : Engine ε SignResult := fun p =>
  match signTranscript p with
  | .ok result p => .ok result p
  | .error e p => .ok .failure { p with context := { p.context with lastError := some e } }

end Engine

end TlsHandshake
