set_option autoImplicit false

/-! # Handshake message types (RFC 8446 §4)

`MessageType.ofCode?` reads exactly the codes that `MessageType.code` writes
(`ofCode?_eq_some_iff`). -/

namespace TlsHandshake

/-- What a handshake message is. -/
inductive MessageType where
  | clientHello
  | serverHello
  | newSessionTicket
  | endOfEarlyData
  | encryptedExtensions
  | certificate
  | certificateRequest
  | certificateVerify
  | finished
  | keyUpdate
  | messageHash
  deriving DecidableEq, Repr

namespace MessageType

/-- The byte of a message type. -/
def code : MessageType → UInt8
  | clientHello => 1
  | serverHello => 2
  | newSessionTicket => 4
  | endOfEarlyData => 5
  | encryptedExtensions => 8
  | certificate => 11
  | certificateRequest => 13
  | certificateVerify => 15
  | finished => 20
  | keyUpdate => 24
  | messageHash => 254

/-- Every message type. -/
def all : List MessageType :=
  [clientHello, serverHello, newSessionTicket, endOfEarlyData, encryptedExtensions, certificate,
    certificateRequest, certificateVerify, finished, keyUpdate, messageHash]

/-- The message type of a byte. -/
def ofCode? (c : UInt8) : Option MessageType := all.find? (·.code == c)

/-- The name the protocol gives the message. -/
def name : MessageType → String
  | clientHello => "ClientHello"
  | serverHello => "ServerHello"
  | newSessionTicket => "NewSessionTicket"
  | endOfEarlyData => "EndOfEarlyData"
  | encryptedExtensions => "EncryptedExtensions"
  | certificate => "Certificate"
  | certificateRequest => "CertificateRequest"
  | certificateVerify => "CertificateVerify"
  | finished => "Finished"
  | keyUpdate => "KeyUpdate"
  | messageHash => "MessageHash"

theorem mem_all (t : MessageType) : t ∈ all := by cases t <;> decide

@[simp] theorem ofCode?_code (t : MessageType) : ofCode? t.code = some t := by cases t <;> rfl

theorem ofCode?_eq_some_iff {c : UInt8} {t : MessageType} : ofCode? c = some t ↔ t.code = c := by
  constructor
  · intro h
    simpa using List.find?_some h
  · rintro rfl
    exact ofCode?_code t

end MessageType

end TlsHandshake
