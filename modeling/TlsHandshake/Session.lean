import TlsHandshake.Error
import TlsHandshake.Key.Public

set_option autoImplicit false

/-! # Sessions

What a handshake establishes about the peer, and the hook that looks at a chain once it is
stored. -/

namespace TlsHandshake

/-- Whether the peer's chain has been verified. -/
inductive VerifyResult where
  | notVerified
  /-- Verified, or the peer was free to stay anonymous. -/
  | ok
  | rejected (reason : String)
  deriving DecidableEq, Repr

/-- What is known about the peer. -/
structure Session where
  /-- The peer's chain, the leaf first; nothing if it sent none. -/
  peerCertificates : Option (List Bytes) := none
  peerKey : Option PublicKey := none
  peerScheme : Option SignatureScheme := none
  verifyResult : VerifyResult := .notVerified
  /-- The SHA-256 of the peer's leaf, if it is to be retained. -/
  peerLeafHash : Option Bytes := none
  ocspResponse : Option Bytes := none
  sctList : Option Bytes := none
  deriving DecidableEq, Repr

namespace Session

/-- The peer's leaf certificate. -/
def peerLeaf (s : Session) : Option Bytes := s.peerCertificates.bind List.head?

/-- How many certificates the peer sent. -/
def peerChainLength (s : Session) : Nat := (s.peerCertificates.getD []).length

end Session

/-! ## Chain hooks -/

/-- A hook that runs on the session once the peer's chain is stored; it may change the session, also
    when it fails. -/
abbrev ChainHook := Session → Except Error Unit × Session

namespace ChainHook

/-- Judges the certificate at place `index` of a chain: X.509 and nothing after it. -/
def checkCertificate (index : Nat) (der : Bytes) : Except Error Unit :=
  match X509.Certificate.parse? der with
  | none => .error (.decode (.chainCertificate index))
  | some (_, []) => .ok ()
  | some _ => .error (.decode (.chainTrailingData index))

/-- Judges the certificates of a chain from place `index` on. -/
def checkChain : (index : Nat) → List Bytes → Except Error Unit
  | _, [] => .ok ()
  | index, der :: rest => do
      checkCertificate index der
      checkChain (index + 1) rest

/-- The hook that asks of every stored certificate to be X.509 with nothing after it. -/
def x509 : ChainHook := fun s => (checkChain 0 (s.peerCertificates.getD []), s)

/-- The hook that always fails. -/
def failing (e : Error) : ChainHook := fun s => (.error e, s)

end ChainHook

/-! ## Tickets -/

/-- The bodies of the session tickets received, in order. -/
structure TicketStore where
  tickets : List Bytes := []
  deriving DecidableEq, Repr

namespace TicketStore

/-- The fixed fields of a ticket (RFC 8446 §4.6.1): lifetime, age mask, and the lengths of nonce,
    ticket and extensions. -/
def minimumLength : Nat := 4 + 4 + 1 + 2 + 2

/-- Keeps the body of a ticket, unless it is shorter than any ticket. -/
def store (body : Bytes) : EStateM Error TicketStore Unit := fun s =>
  if body.spans minimumLength then .ok () ⟨s.tickets ++ [body]⟩
  else .error (.decode .shortTicket) s

end TicketStore

end TlsHandshake
