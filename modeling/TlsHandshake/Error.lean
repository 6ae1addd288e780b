import TlsHandshake.Message.Type
import TlsHandshake.SignatureScheme

set_option autoImplicit false

/-! # Errors

An error records its cause. Causes that share a kind of error (a body that cannot be decoded, a
fault of this endpoint, a message out of place) are gathered in a type of their own, and the wording
is in one function for each such type. A collaborator that fails may bring its own wording: that is
the cause `reported`. -/

namespace TlsHandshake

/-! ## Causes -/

/-- Why a signature operation or a key was refused. -/
inductive CryptoError where
  | invalidKey
  | invalidSignature
  | unsupportedScheme (scheme : SignatureScheme)
  | signFailed
  | invalidMacKey
  deriving DecidableEq, Repr

/-- Why a certificate gave no usable key. -/
inductive CertificateFault where
  /-- The bytes are not a certificate. -/
  | malformed
  /-- The key usage appears twice or is not a bit string. -/
  | keyUsage
  | ed25519KeyLength
  | invalidP256Point
  | emptyPublicKey
  deriving DecidableEq, Repr

/-- Why bytes could not be decoded. -/
inductive DecodeFault where
  | certificate (fault : CertificateFault)
  /-- The leaf certificate of a Certificate message gave no usable key. -/
  | leafPublicKey (fault : CertificateFault)
  | truncatedContext
  | requestContext
  | truncatedList
  | trailingData
  | statusRequest
  | extensionHeader
  | extensionBody (type : UInt16)
  | duplicateExtension (type : UInt16)
  | certificateVerify
  | keyUpdateRequest (value : UInt8)
  | keyUpdateLength (length : Nat)
  | shortTicket
  /-- The certificate at a place in a stored chain does not parse. -/
  | chainCertificate (index : Nat)
  /-- The certificate at a place in a stored chain is followed by other bytes. -/
  | chainTrailingData (index : Nat)
  | reported (text : String)
  deriving DecidableEq, Repr

/-- Why an extension's content was refused. -/
inductive ExtensionFault where
  | sctList
  | reported (text : String)
  deriving DecidableEq, Repr

/-- Why a well-formed value was refused. -/
inductive ParameterFault where
  | leafKeyUsage
  | reported (text : String)
  deriving DecidableEq, Repr

/-- How a message is out of place. -/
inductive MessageFault where
  | unknownType (code : UInt8)
  | outOfOrder (expected got : MessageType)
  | afterHandshake (type : MessageType)
  | reported (text : String)
  deriving DecidableEq, Repr

/-- A fault of this endpoint or of its caller. -/
inductive InternalFault where
  /-- `length` bytes do not fit a field whose length is written in `bits` bits. -/
  | fieldOverflow (bits length : Nat)
  | noPeerKey
  | noPrivateKey
  | signatureTooLong
  | noSavedFinished
  | noPostHandshakeMessage
  | unknownSigner (code : UInt8)
  | earlyDataNotRejected
  | postHandshakeTooEarly
  | keyUpdateTooEarly
  | reported (text : String)
  deriving DecidableEq, Repr

/-- Why a handshake operation failed. -/
inductive Error where
  | decode (fault : DecodeFault)
  | certificateLength
  | unexpectedExtension (type : UInt16)
  | extension (fault : ExtensionFault)
  | illegalParameter (fault : ParameterFault)
  | noPeerCertificate
  | tooManyKeyUpdates
  | unexpectedMessage (fault : MessageFault)
  | badSignature
  | finishedMismatch
  | schemeRejected (scheme : SignatureScheme)
  | internal (fault : InternalFault)
  | noCommonScheme
  | handshakeFailure
  /-- The connection below broke; `text` is its own wording. -/
  | io (text : String)
  | crypto (error : CryptoError)
  deriving DecidableEq, Repr

/-! ## Wording -/

def CryptoError.message : CryptoError → String
  | invalidKey => "invalid key"
  | invalidSignature => "malformed signature"
  | unsupportedScheme s => s!"unsupported signature scheme: {s.hexCode}"
  | signFailed => "signing operation failed"
  | invalidMacKey => "invalid mac key length"

def CertificateFault.message : CertificateFault → String
  | malformed => "certificate parse: malformed"
  | keyUsage => "keyUsage: not one bit string"
  | ed25519KeyLength => "Ed25519 key length"
  | invalidP256Point => "invalid P-256 point"
  | emptyPublicKey => "empty public key"

def DecodeFault.message : DecodeFault → String
  | certificate fault => fault.message
  | leafPublicKey fault => s!"Certificate: leaf public key: decode error: {fault.message}"
  | truncatedContext => "Certificate: truncated context"
  | requestContext => "Certificate: non-empty request context"
  | truncatedList => "Certificate: truncated list"
  | trailingData => "Certificate: trailing data"
  | statusRequest => "Certificate: malformed status_request"
  | extensionHeader => "extension header truncated"
  | extensionBody t => s!"extension {t} body truncated"
  | duplicateExtension t => s!"duplicate extension {t}"
  | certificateVerify => "CertificateVerify: malformed body"
  | keyUpdateRequest v => s!"KeyUpdate: undefined request value {v}"
  | keyUpdateLength n => s!"KeyUpdate: body length {n}"
  | shortTicket => "NewSessionTicket: too short"
  | chainCertificate i => s!"certificate {i}: malformed"
  | chainTrailingData i => s!"certificate {i}: trailing data"
  | reported text => text

def ExtensionFault.message : ExtensionFault → String
  | sctList => "invalid SignedCertificateTimestampList"
  | reported text => text

def ParameterFault.message : ParameterFault → String
  | leafKeyUsage => "leaf certificate lacks digitalSignature key usage"
  | reported text => text

def MessageFault.message : MessageFault → String
  | unknownType c => s!"unknown handshake type: {c}"
  | outOfOrder expected got => s!"expected {expected.name}, got {got.name}"
  | afterHandshake t => s!"{t.name} after handshake"
  | reported text => text

def InternalFault.message : InternalFault → String
  | fieldOverflow bits length => s!"length {length} exceeds {bits}-bit field"
  | noPeerKey => "CertificateVerify without a peer key"
  | noPrivateKey => "no private key for CertificateVerify"
  | signatureTooLong => "signature exceeds key bound"
  | noSavedFinished => "no saved client Finished"
  | noPostHandshakeMessage => "no post-handshake message"
  | unknownSigner c => s!"unknown CertificateVerify context {c}"
  | earlyDataNotRejected => "early data was not rejected"
  | postHandshakeTooEarly => "post-handshake processing before the handshake completed"
  | keyUpdateTooEarly => "key update before the handshake completed"
  | reported text => text

/-- The one-line text of an error. -/
def Error.message : Error → String
  | decode fault => s!"decode error: {fault.message}"
  | certificateLength => "certificate length mismatch"
  | unexpectedExtension t => s!"unexpected extension: {t}"
  | extension fault => s!"error parsing extension: {fault.message}"
  | illegalParameter fault => s!"illegal parameter: {fault.message}"
  | noPeerCertificate => "peer did not return a certificate"
  | tooManyKeyUpdates => "too many key updates"
  | unexpectedMessage fault => s!"unexpected message: {fault.message}"
  | badSignature => "bad signature"
  | finishedMismatch => "digest check failed"
  | schemeRejected s => s!"signature algorithm rejected: {s.hexCode}"
  | internal fault => s!"internal error: {fault.message}"
  | noCommonScheme => "no signature algorithm in common with the peer"
  | handshakeFailure => "handshake failure"
  | io text => s!"io error: {text}"
  | crypto error => s!"crypto error: {error.message}"

/-! ## Classes -/

/-- A coarse sorting of errors. -/
inductive ErrorClass where
  | decode
  | policyViolation
  | cryptoFailure
  | resourceFailure
  deriving DecidableEq, Repr

/-- The class of an error. -/
def Error.errorClass : Error → ErrorClass
  | decode _ | certificateLength | extension _ => .decode
  | unexpectedExtension _ | illegalParameter _ | noPeerCertificate | tooManyKeyUpdates
  | unexpectedMessage _ | schemeRejected _ | noCommonScheme => .policyViolation
  | badSignature | finishedMismatch | crypto _ => .cryptoFailure
  | internal _ | handshakeFailure | io _ => .resourceFailure

end TlsHandshake
