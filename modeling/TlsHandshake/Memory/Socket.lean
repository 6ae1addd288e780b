import TlsHandshake.Environment

set_option autoImplicit false

/-! # Record layers in memory

Two ends are joined by two pipes, one for each direction. An end gathers its outgoing messages into
a flight and hands the flight to its pipe when it flushes; the reader at the other end takes
complete messages off the front of the pipe, whatever pieces they were handed over in.

A `Socket` is one end with both of its pipes; a `Link` is both ends. -/

namespace TlsHandshake

/-- One direction of a link. -/
structure Pipe where
  /-- The handshake bytes handed over and not yet read. -/
  stream : ByteQueue := .empty
  /-- The ChangeCipherSpec records not yet read. -/
  changeCipherSpecs : Nat := 0
  /-- All alerts sent. -/
  alerts : List Alert := []
  deriving DecidableEq, Repr

/-- What belongs to one end alone. The flights are counted without a bound, as the generations of the
    keys are. -/
structure Outbox where
  /-- The bytes queued for the next flush. -/
  flight : ByteQueue := .empty
  /-- While this is set, a flush is not ready and keeps the flight. -/
  blocked : Bool := false
  flightsFlushed : Nat := 0
  flightsExpected : Nat := 0
  deriving DecidableEq, Repr

/-- One end with its pipes. -/
structure Socket where
  outbox : Outbox := {}
  incoming : Pipe := {}
  outgoing : Pipe := {}
  deriving DecidableEq, Repr

namespace Socket

/-! ## As a record layer -/

/-- Hands the flight to the peer, unless flushing is blocked. -/
def flush (s : Socket) : Awaited Unit × Socket :=
  if s.outbox.blocked then (.pending, s)
  else
    (.ready (),
      { s with
        outbox := { s.outbox with flight := .empty, flightsFlushed := s.outbox.flightsFlushed + 1 }
        outgoing := { s.outgoing with
          stream := s.outgoing.stream.append s.outbox.flight.toBytes } })

/-- A flush moves bytes from the flight to the end of the stream and loses none. -/
theorem flush_stream_append_flight (s : Socket) :
    s.flush.2.outgoing.stream.toBytes ++ s.flush.2.outbox.flight.toBytes
      = s.outgoing.stream.toBytes ++ s.outbox.flight.toBytes := by
  unfold flush
  split <;> simp

theorem flush_of_blocked {s : Socket} (h : s.outbox.blocked = true) : s.flush = (.pending, s) :=
  if_pos h

theorem flush_of_unblocked {s : Socket} (h : s.outbox.blocked = false) :
    s.flush = (.ready (), { s with
      outbox := { s.outbox with flight := .empty, flightsFlushed := s.outbox.flightsFlushed + 1 }
      outgoing := { s.outgoing with
        stream := s.outgoing.stream.append s.outbox.flight.toBytes } }) :=
  if_neg (by rw [h]; exact Bool.false_ne_true)

/-- Counts a flight that is expected. -/
def expectFlight (s : Socket) : Socket :=
  { s with outbox := { s.outbox with flightsExpected := s.outbox.flightsExpected + 1 } }

/-- Takes a complete message off the incoming stream. A message of no known type stays there. -/
def readMessage : EStateM Error Socket (Awaited Message) := fun s =>
  let left := fun stream => { s with incoming := { s.incoming with stream := stream } }
  match Message.take? s.incoming.stream with
  | .error e stream => .error e (left stream)
  | .ok none stream => .ok .pending (left stream)
  | .ok (some m) stream => .ok (.ready m) (left stream)

/-- Takes a ChangeCipherSpec record off the incoming pipe. -/
def readChangeCipherSpec (s : Socket) : Awaited Unit × Socket :=
  match s.incoming.changeCipherSpecs with
  | 0 => (.pending, s)
  | n + 1 => (.ready (), { s with incoming := { s.incoming with changeCipherSpecs := n } })

/-- Adds a message to the flight. -/
def addMessage (message : Bytes) (s : Socket) : Socket :=
  { s with outbox := { s.outbox with flight := s.outbox.flight.append message } }

/-- Sends an alert. -/
def sendAlert (a : Alert) (s : Socket) : Socket :=
  { s with outgoing := { s.outgoing with alerts := s.outgoing.alerts ++ [a] } }

/-! ## From outside -/

/-- Sets whether flushing is blocked. -/
def setBlocked (blocked : Bool) (s : Socket) : Socket :=
  { s with outbox := { s.outbox with blocked := blocked } }

/-- Hands bytes to the peer past the flight. -/
def inject (bytes : Bytes) (s : Socket) : Socket :=
  { s with outgoing := { s.outgoing with stream := s.outgoing.stream.append bytes } }

/-- Sends a ChangeCipherSpec record to the peer. -/
def sendChangeCipherSpec (s : Socket) : Socket :=
  { s with
    outgoing := { s.outgoing with changeCipherSpecs := s.outgoing.changeCipherSpecs + 1 } }

/-- Puts bytes at the end of what there is to read. -/
def receive (bytes : Bytes) (s : Socket) : Socket :=
  { s with incoming := { s.incoming with stream := s.incoming.stream.append bytes } }

/-- Puts a ChangeCipherSpec record into what there is to read. -/
def receiveChangeCipherSpec (s : Socket) : Socket :=
  { s with
    incoming := { s.incoming with changeCipherSpecs := s.incoming.changeCipherSpecs + 1 } }

end Socket

/-! ## Links -/

/-- The two ends of a link. -/
inductive End where
  | a
  | b
  deriving DecidableEq, Repr

/-- Both ends and what is between them. -/
structure Link where
  outboxA : Outbox := {}
  outboxB : Outbox := {}
  fromA : Pipe := {}
  fromB : Pipe := {}
  deriving DecidableEq, Repr

namespace Link

/-- One end's view of a link. -/
def socket (link : Link) : End → Socket
  | .a => ⟨link.outboxA, link.fromB, link.fromA⟩
  | .b => ⟨link.outboxB, link.fromA, link.fromB⟩

/-- The link once one end's view has changed. -/
def setSocket (link : Link) : End → Socket → Link
  | .a, s => { link with outboxA := s.outbox, fromB := s.incoming, fromA := s.outgoing }
  | .b, s => { link with outboxB := s.outbox, fromA := s.incoming, fromB := s.outgoing }

@[simp] theorem socket_setSocket (link : Link) (e : End) (s : Socket) :
    (link.setSocket e s).socket e = s := by
  cases e <;> rfl

end Link

end TlsHandshake
