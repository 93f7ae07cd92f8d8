import BusTransport.Connection.Basic

/-! # Decisions

What a connection does about an event, and the state it takes, depend on its own record alone.
The exception is new data, which is accepted only if there is room for an answer.
-/

namespace BusTransport

inductive Event where
  | connect (sender : DeviceAddress)
  | disconnect (sender : DeviceAddress)
  | ack (sender : DeviceAddress) (sequence : SequenceNumber)
  | nack (sender : DeviceAddress) (sequence : SequenceNumber)
  | data (sender : DeviceAddress) (sequence : SequenceNumber)
  | idleTimeout
  | answerReady
  | ackTimeout
  | userDisconnect
  deriving DecidableEq, Repr

inductive Action where
  | ignore
  | connect (peer : DeviceAddress)
  /-- Acknowledge new data and hand it to the application. -/
  | deliver (sequence : SequenceNumber)
  /-- Acknowledge data that was delivered before. -/
  | ackAgain (sequence : SequenceNumber)
  /-- Refuse data whose number is out of window. -/
  | refuse (sequence : SequenceNumber)
  /-- Close without a frame. -/
  | closeSilently
  /-- Close and send a disconnect to the peer. -/
  | closeAndTell
  | sendAnswer
  | finishAnswer
  | repeatAnswer
  /-- Send a disconnect to a device that is not the peer. -/
  | reject (sender : DeviceAddress)
  deriving DecidableEq, Repr

namespace Action

/-- The number of the action in the state tables of the protocol. -/
def code : Action → String
  | ignore => "A00"
  | connect _ => "A01"
  | deliver _ => "A02"
  | ackAgain _ => "A03"
  | refuse _ => "A04"
  | closeSilently => "A05"
  | closeAndTell => "A06"
  | sendAnswer => "A07"
  | finishAnswer => "A08"
  | repeatAnswer => "A09"
  | reject _ => "A10"

def withField (name field value : String) : String :=
  name ++ " \x7b " ++ field ++ ": " ++ value ++ " \x7d"

def withAddress (name field : String) (a : DeviceAddress) : String :=
  withField name field s!"IndividualAddress({a.raw.toNat})"

def withSequence (name : String) (n : SequenceNumber) : String :=
  withField name "sequence" s!"SequenceNumber({n.val})"

def description : Action → String
  | ignore => "Nothing"
  | connect peer => withAddress "Connect" "peer" peer
  | deliver n => withSequence "AckAndDispatch" n
  | ackAgain n => withSequence "ReAck" n
  | refuse n => withSequence "SendNack" n
  | closeSilently => "DisconnectLocal"
  | closeAndTell => "DisconnectAndClose"
  | sendAnswer => "SendQueuedResponse"
  | finishAnswer => "AdvanceSendSeq"
  | repeatAnswer => "RepeatLast"
  | reject sender => withAddress "DisconnectOther" "address" sender

def text (a : Action) : String := a.code ++ " " ++ a.description

end Action

structure Decision where
  state : ConnectionState
  action : Action
  deriving DecidableEq, Repr

namespace Connection

def stay (c : Connection) (action : Action) : Decision := ⟨c.state, action⟩

/-- Repeat the outstanding answer, or give the connection up when no repetition is left. -/
def retry (c : Connection) : Decision :=
  if c.mayRepeat then c.stay .repeatAnswer else ⟨.closed, .closeAndTell⟩

def reactToData (c : Connection) (hasRoom : Bool) (n : SequenceNumber) : Decision :=
  match c.receiveWindow.check n with
  | .expected => c.stay (if c.state = .openIdle ∧ hasRoom then .deliver n else .ignore)
  | .duplicate => c.stay (.ackAgain n)
  | .outOfWindow => c.stay (.refuse n)

/-- The decision about an event; `hasRoom` tells whether one more answer can be queued. -/
def react (c : Connection) (hasRoom : Bool) : Event → Decision
  | .connect sender =>
    if c.state = .closed then ⟨.openIdle, .connect sender⟩
    else if c.isPeer sender then c.stay .ignore
    else c.stay (.reject sender)
  | .disconnect sender =>
    if c.isOpen && c.isPeer sender then ⟨.closed, .closeSilently⟩ else c.stay .ignore
  | .ack sender n =>
    if c.state = .openWait ∧ c.isPeer sender then
      if c.sendWindow.fits n then ⟨.openIdle, .finishAnswer⟩ else ⟨.closed, .closeAndTell⟩
    else c.stay .ignore
  | .nack sender n =>
    if c.state = .openWait ∧ c.isPeer sender ∧ c.sendWindow.fits n then c.retry
    else c.stay .ignore
  | .data sender n =>
    if c.isOpen && c.isPeer sender then c.reactToData hasRoom n else c.stay .ignore
  | .idleTimeout | .userDisconnect =>
    if c.isOpen then ⟨.closed, .closeAndTell⟩ else c.stay .ignore
  | .answerReady =>
    if c.state = .openIdle then ⟨.openWait, .sendAnswer⟩ else c.stay .ignore
  | .ackTimeout => if c.state = .openWait then c.retry else c.stay .ignore

end Connection

end BusTransport
