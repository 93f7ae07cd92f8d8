import BusTransport.Connection.Timer
import BusTransport.Connection.Window
import BusTransport.Profile.Transport
import BusTransport.Wire.DeviceAddress

/-! # Connections

A device has at most one connection, to one peer, with two windows, two timers and a repeat counter.
While the connection is closed only its state has a meaning; opening it sets all the rest anew.
-/

namespace BusTransport

inductive ConnectionState where
  | closed
  /-- Connected, and no answer is outstanding. -/
  | openIdle
  /-- Connected, and one answer waits for its acknowledgement. -/
  | openWait
  deriving DecidableEq, Repr

namespace ConnectionState

def isOpen (s : ConnectionState) : Bool := s ≠ closed

def text : ConnectionState → String
  | closed => "CLOSED"
  | openIdle => "OPEN_IDLE"
  | openWait => "OPEN_WAIT"

end ConnectionState

structure Connection where
  state : ConnectionState := .closed
  lastPeer : Option DeviceAddress := none
  sendWindow : SendWindow := {}
  receiveWindow : ReceiveWindow := {}
  idleTimer : Timer
  ackTimer : Timer
  repeats : Repetitions
  deriving DecidableEq, Repr

namespace Connection

def ofProfile (p : TransportProfile) : Connection where
  idleTimer := { timeout := p.connectionTimeout }
  ackTimer := { timeout := p.ackTimeout }
  repeats := { limit := p.maxRepetitions }

/-- Open the connection to a peer, with both sequence numbers at zero. -/
def connectTo (c : Connection) (peer : DeviceAddress) (now : Instant) : Connection :=
  { c with
    state := .openIdle
    lastPeer := some peer
    sendWindow := {}
    receiveWindow := {}
    idleTimer := c.idleTimer.start now
    ackTimer := c.ackTimer.stop
    repeats := c.repeats.reset }

def close (c : Connection) : Connection :=
  { c with
    state := .closed
    lastPeer := none
    idleTimer := c.idleTimer.stop
    ackTimer := c.ackTimer.stop
    repeats := c.repeats.reset }

def touch (c : Connection) (now : Instant) : Connection :=
  { c with idleTimer := c.idleTimer.start now }

def isOpen (c : Connection) : Bool := c.state.isOpen

def peer? (c : Connection) : Option DeviceAddress := if c.isOpen then c.lastPeer else none

def isPeer (c : Connection) (a : DeviceAddress) : Bool := c.peer? = some a

/-- The number of the answer that is outstanding or next. -/
def sendSequence (c : Connection) : SequenceNumber := c.sendWindow.current

/-- The number that the next request of the peer has to carry. -/
def receiveSequence (c : Connection) : SequenceNumber := c.receiveWindow.expected

def mayRepeat (c : Connection) : Bool := c.repeats.mayRepeat

def idleOverdue (c : Connection) (now : Instant) : Bool := c.isOpen && c.idleTimer.isExpired now

def ackOverdue (c : Connection) (now : Instant) : Bool :=
  c.state = .openWait && c.ackTimer.isExpired now

def acceptRequest (c : Connection) (n : SequenceNumber) (now : Instant) : Connection :=
  { c with receiveWindow := (c.receiveWindow.accept n).2 }.touch now

/-- An answer was sent for the first time: its acknowledgement is awaited. -/
def awaitAck (c : Connection) (now : Instant) : Connection :=
  { c with ackTimer := c.ackTimer.start now, repeats := c.repeats.reset }.touch now

def repeated (c : Connection) (now : Instant) : Connection :=
  { c with ackTimer := c.ackTimer.start now, repeats := c.repeats.increment }.touch now

def acknowledged (c : Connection) (now : Instant) : Connection :=
  { c with
    sendWindow := (c.sendWindow.acknowledge c.sendSequence).2
    ackTimer := c.ackTimer.stop
    repeats := c.repeats.reset }.touch now

@[simp] theorem peer?_connectTo (c : Connection) (peer : DeviceAddress) (now : Instant) :
    (c.connectTo peer now).peer? = some peer := rfl

@[simp] theorem peer?_close (c : Connection) : c.close.peer? = none := rfl

theorem isPeer_iff (c : Connection) (a : DeviceAddress) : c.isPeer a = true ↔ c.peer? = some a := by
  simp [isPeer]

end Connection

end BusTransport
