import TlsHandshake.Handshake.AuthFlow
import TlsHandshake.Message.KeyUpdate

set_option autoImplicit false

/-! # Names for logs

The name under which a value without inner structure appears in a log: one capitalised word for each
constructor. An error is named by its kind alone. Where a name is also read back, `all` lists the
values it may stand for. -/

namespace TlsHandshake

def Role.name : Role → String
  | client => "Client"
  | server => "Server"

def HashAlgorithm.name : HashAlgorithm → String
  | sha256 => "Sha256"
  | sha384 => "Sha384"
  | sha512 => "Sha512"

def KeyUpdateRequest.name : KeyUpdateRequest → String
  | notRequested => "UpdateNotRequested"
  | requested => "UpdateRequested"

def SignerContext.name : SignerContext → String
  | server => "Server"
  | client => "Client"
  | channelId => "ChannelId"

/-! ## Alerts -/

def AlertLevel.name : AlertLevel → String
  | warning => "Warning"
  | fatal => "Fatal"

def AlertDescription.name : AlertDescription → String
  | closeNotify => "CloseNotify"
  | unexpectedMessage => "UnexpectedMessage"
  | badRecordMac => "BadRecordMac"
  | recordOverflow => "RecordOverflow"
  | handshakeFailure => "HandshakeFailure"
  | badCertificate => "BadCertificate"
  | unsupportedCertificate => "UnsupportedCertificate"
  | certificateRevoked => "CertificateRevoked"
  | certificateExpired => "CertificateExpired"
  | certificateUnknown => "CertificateUnknown"
  | illegalParameter => "IllegalParameter"
  | unknownCa => "UnknownCa"
  | accessDenied => "AccessDenied"
  | decodeError => "DecodeError"
  | decryptError => "DecryptError"
  | protocolVersion => "ProtocolVersion"
  | insufficientSecurity => "InsufficientSecurity"
  | internalError => "InternalError"
  | inappropriateFallback => "InappropriateFallback"
  | userCanceled => "UserCanceled"
  | missingExtension => "MissingExtension"
  | unsupportedExtension => "UnsupportedExtension"
  | unrecognizedName => "UnrecognizedName"
  | badCertificateStatusResponse => "BadCertificateStatusResponse"
  | unknownPskIdentity => "UnknownPskIdentity"
  | certificateRequired => "CertificateRequired"
  | noApplicationProtocol => "NoApplicationProtocol"

def AlertDescription.all : List AlertDescription :=
  [closeNotify, unexpectedMessage, badRecordMac, recordOverflow, handshakeFailure, badCertificate,
    unsupportedCertificate, certificateRevoked, certificateExpired, certificateUnknown,
    illegalParameter, unknownCa, accessDenied, decodeError, decryptError, protocolVersion,
    insufficientSecurity, internalError, inappropriateFallback, userCanceled, missingExtension,
    unsupportedExtension, unrecognizedName, badCertificateStatusResponse, unknownPskIdentity,
    certificateRequired, noApplicationProtocol]

theorem AlertDescription.mem_all (d : AlertDescription) : d ∈ all := by
  cases d <;> simp [all]

/-! ## Errors -/

def CryptoError.kind : CryptoError → String
  | invalidKey => "InvalidKey"
  | invalidSignature => "InvalidSignature"
  | unsupportedScheme _ => "UnsupportedScheme"
  | signFailed => "SignFailed"
  | invalidMacKey => "InvalidMacKey"

def Error.kind : Error → String
  | decode _ => "DecodeError"
  | certificateLength => "CertLengthMismatch"
  | unexpectedExtension _ => "UnexpectedExtension"
  | extension _ => "ExtensionParse"
  | illegalParameter _ => "IllegalParameter"
  | noPeerCertificate => "PeerDidNotReturnCertificate"
  | tooManyKeyUpdates => "TooManyKeyUpdates"
  | unexpectedMessage _ => "UnexpectedMessage"
  | badSignature => "BadSignature"
  | finishedMismatch => "DigestCheckFailed"
  | schemeRejected _ => "SignatureAlgorithmRejected"
  | internal _ => "InternalError"
  | noCommonScheme => "NoCommonSignatureAlgorithm"
  | handshakeFailure => "HandshakeFailure"
  | io _ => "IoError"
  | crypto _ => "CryptoError"

def ErrorClass.name : ErrorClass → String
  | decode => "Decode"
  | policyViolation => "PolicyViolation"
  | cryptoFailure => "CryptoFailure"
  | resourceFailure => "ResourceFailure"

/-! ## Waiting and phases -/

def ExternalWork.name : ExternalWork → String
  | x509Lookup => "X509Lookup"
  | channelIdLookup => "ChannelIdLookup"
  | privateKeyOperation => "PrivateKeyOperation"
  | pendingTicket => "PendingTicket"
  | certificateVerify => "CertificateVerify"

/-- An endpoint that waits for external work is named by the work; a certificate's verification is
    then marked as pending. -/
def Wait.name : Wait → String
  | error => "Error"
  | flush => "Flush"
  | flushAndReadMessage => "FlushAndReadMessage"
  | readMessage => "ReadMessage"
  | readChangeCipherSpec => "ReadChangeCipherSpec"
  | readEndOfEarlyData => "ReadEndOfEarlyData"
  | external .certificateVerify => "CertificateVerifyPending"
  | external work => work.name
  | earlyDataRejected => "EarlyDataRejected"
  | ok => "Ok"

def Wait.all : List Wait :=
  [error, flush, flushAndReadMessage, readMessage, readChangeCipherSpec, readEndOfEarlyData,
    external .x509Lookup, external .channelIdLookup, external .privateKeyOperation,
    external .pendingTicket, external .certificateVerify, earlyDataRejected, ok]

theorem Wait.mem_all (w : Wait) : w ∈ all := by
  rcases w with _ | _ | _ | _ | _ | _ | (_ | _ | _ | _ | _) | _ | _ <;> simp [all]

def IoWait.name : IoWait → String
  | flush => "Flush"
  | read => "Read"
  | changeCipherSpec => "ChangeCipherSpec"

def Phase.name : Phase → String
  | sendCertificate => "SendCertificate"
  | sendCertificateVerify => "SendCertificateVerify"
  | sendFinished => "SendFinished"
  | readCertificate => "ReadCertificate"
  | readCertificateVerify => "ReadCertificateVerify"
  | readFinished => "ReadFinished"
  | done => "Done"

end TlsHandshake
