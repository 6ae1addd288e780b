import TlsHandshake.Memory.Socket

set_option autoImplicit false

/-! # Surroundings over a link in memory

A record layer in memory, any key schedule, and perhaps a signer and a ticket handler, together as
an `Environment`. The record layer is one end of a link, so what the other end does shows up in
it. -/

namespace TlsHandshake

/-! ## Collaborators -/

/-- What an endpoint asks of a key schedule. -/
class KeySchedule (κ : Type) where
  /-- The MAC of one end's Finished over a transcript hash. -/
  finishedMac : (sender : Role) → (transcriptHash : Bytes) → EStateM Error κ Bytes
  /-- Installs the next traffic key of a direction. -/
  rotate : Direction → EStateM Error κ Unit

/-- What an endpoint asks of a signer. -/
class SigningDevice (σ : Type) where
  info : σ → SignerInfo
  /-- Starts to sign. -/
  sign : SignatureScheme → (input : Bytes) → (maxLength : Nat) → σ → SignResult × σ
  /-- Asks for the outcome of a signature that was started. -/
  complete : (maxLength : Nat) → σ → SignResult × σ

/-- What a client asks of a ticket handler. -/
class TicketHandler (τ : Type) where
  /-- Takes the body of a session ticket. -/
  store : (body : Bytes) → Session → EStateM Error τ Unit

/-! ## Stations -/

/-- One end of a link with the collaborators of the endpoint there. -/
structure Station (κ σ τ : Type) where
  socket : Socket := {}
  keys : κ
  signer : Option σ := none
  tickets : Option τ := none

namespace Station

variable {κ σ τ α : Type}

/-- An action on the socket that cannot fail. -/
def onSocket (act : Socket → α × Socket) : EStateM Error (Station κ σ τ) α := fun s =>
  let (a, socket) := act s.socket
  .ok a { s with socket := socket }

/-- Reads a message from the socket. -/
def readMessage : EStateM Error (Station κ σ τ) (Awaited Message) := fun s =>
  match s.socket.readMessage with
  | .ok m socket => .ok m { s with socket := socket }
  | .error e socket => .error e { s with socket := socket }

/-- Lets the key schedule act. -/
def onKeys (act : EStateM Error κ α) : EStateM Error (Station κ σ τ) α := fun s =>
  match act s.keys with
  | .ok a keys => .ok a { s with keys := keys }
  | .error e keys => .error e { s with keys := keys }

/-- Lets the signer act; without one there is no signature. -/
def onSigner (act : σ → SignResult × σ) (s : Station κ σ τ) : SignResult × Station κ σ τ :=
  match s.signer with
  | none => (.failure, s)
  | some signer =>
      let (result, signer) := act signer
      (result, { s with signer := some signer })

/-- Hands a ticket to the handler, if there is one. -/
def storeTicket [TicketHandler τ] (body : Bytes) (session : Session) :
    EStateM Error (Station κ σ τ) Unit := fun s =>
  match s.tickets with
  | none => .ok () s
  | some handler =>
      match TicketHandler.store body session handler with
      | .ok () handler => .ok () { s with tickets := some handler }
      | .error e handler => .error e { s with tickets := some handler }

instance [KeySchedule κ] [SigningDevice σ] [TicketHandler τ] : Environment (Station κ σ τ) where
  flushFlight := onSocket Socket.flush
  expectFlight s := { s with socket := s.socket.expectFlight }
  readMessage := readMessage
  readChangeCipherSpec := onSocket Socket.readChangeCipherSpec
  addMessage m := onSocket fun s => ((), s.addMessage m)
  sendAlert a s := { s with socket := s.socket.sendAlert a }
  finishedMac sender transcriptHash := onKeys (KeySchedule.finishedMac sender transcriptHash)
  rotateTrafficKey direction := onKeys (KeySchedule.rotate direction)
  signer? s := s.signer.map SigningDevice.info
  sign scheme input maxLength := onSigner (SigningDevice.sign scheme input maxLength)
  completeSignature maxLength := onSigner (SigningDevice.complete maxLength)
  handlesTickets s := s.tickets.isSome
  storeTicket := storeTicket

end Station

/-! ## One end of a link -/

/-- Surroundings with one end of a link among them, which can be replaced. -/
class OnLink (ε : Type) where
  socket : ε → Socket
  withSocket : Socket → ε → ε
  socket_withSocket (s : Socket) (e : ε) : socket (withSocket s e) = s
  withSocket_socket (e : ε) : withSocket (socket e) e = e
  withSocket_withSocket (s s' : Socket) (e : ε) :
    withSocket s (withSocket s' e) = withSocket s e

attribute [simp] OnLink.socket_withSocket OnLink.withSocket_socket OnLink.withSocket_withSocket

instance {κ σ τ : Type} : OnLink (Station κ σ τ) where
  socket := Station.socket
  withSocket socket s := { s with socket := socket }
  socket_withSocket _ _ := rfl
  withSocket_socket _ := rfl
  withSocket_withSocket _ _ _ := rfl

end TlsHandshake
