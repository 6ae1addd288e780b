set_option autoImplicit false

/-! # Alerts (RFC 8446 §6)

An alert tells the peer why a connection ends. On the wire it is its level and its description, one
byte each. -/

namespace TlsHandshake

/-- How serious an alert is. -/
inductive AlertLevel where
  | warning
  | fatal
  deriving DecidableEq, Repr

/-- What an alert reports. -/
inductive AlertDescription where
  | closeNotify
  | unexpectedMessage
  | badRecordMac
  | recordOverflow
  | handshakeFailure
  | badCertificate
  | unsupportedCertificate
  | certificateRevoked
  | certificateExpired
  | certificateUnknown
  | illegalParameter
  | unknownCa
  | accessDenied
  | decodeError
  | decryptError
  | protocolVersion
  | insufficientSecurity
  | internalError
  | inappropriateFallback
  | userCanceled
  | missingExtension
  | unsupportedExtension
  | unrecognizedName
  | badCertificateStatusResponse
  | unknownPskIdentity
  | certificateRequired
  | noApplicationProtocol
  deriving DecidableEq, Repr

/-- An alert of a level. -/
structure Alert where
  level : AlertLevel
  description : AlertDescription
  deriving DecidableEq, Repr

/-- The byte of a level. -/
def AlertLevel.code : AlertLevel → UInt8
  | warning => 1
  | fatal => 2

/-- The byte of a description. -/
def AlertDescription.code : AlertDescription → UInt8
  | closeNotify => 0
  | unexpectedMessage => 10
  | badRecordMac => 20
  | recordOverflow => 22
  | handshakeFailure => 40
  | badCertificate => 42
  | unsupportedCertificate => 43
  | certificateRevoked => 44
  | certificateExpired => 45
  | certificateUnknown => 46
  | illegalParameter => 47
  | unknownCa => 48
  | accessDenied => 49
  | decodeError => 50
  | decryptError => 51
  | protocolVersion => 70
  | insufficientSecurity => 71
  | internalError => 80
  | inappropriateFallback => 86
  | userCanceled => 90
  | missingExtension => 109
  | unsupportedExtension => 110
  | unrecognizedName => 112
  | badCertificateStatusResponse => 113
  | unknownPskIdentity => 115
  | certificateRequired => 116
  | noApplicationProtocol => 120

/-- The fatal alert of a description. -/
def Alert.fatal (description : AlertDescription) : Alert := ⟨.fatal, description⟩

/-- The two bytes of an alert. -/
def Alert.toBytes (a : Alert) : List UInt8 := [a.level.code, a.description.code]

end TlsHandshake
