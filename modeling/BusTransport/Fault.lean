import BusTransport.Outbound.SlotState
import BusTransport.Wire.Octet

/-! # Faults

Each group of causes belongs to one part of the stack: link, wire formats, profiles, outbound path,
endpoint. A fault is one of these causes, and its kind and message are functions of the cause.
-/

namespace BusTransport

inductive LinkFault where
  | transmitting
  | failed (reason : String)
  deriving DecidableEq, Repr

/-- Why octets are no telegram, or a telegram cannot be built. -/
inductive FrameFault where
  | tooShort (length : Nat)
  | notStandard (control : UInt8)
  | lengthMismatch (declared actual : Nat)
  | empty
  | checksumMismatch (expected actual : UInt8)
  | payloadTooLong (length : Nat)
  | missingCommand
  deriving DecidableEq, Repr

inductive ControlFault where
  | unknown (octet : UInt8)
  deriving DecidableEq, Repr

inductive AddressFault where
  | badText (text : String)
  | badPart (text : String)
  | outOfRange (area line : UInt8)
  deriving DecidableEq, Repr

inductive ProfileFault where
  | malformedTransport
  | malformedDevice
  | zeroConnectionTimeout
  | zeroAckTimeout
  | zeroPollLimit
  | zeroPollInterval
  deriving DecidableEq, Repr

/-- What is occupied on the way to or from the link. -/
inductive BusyFault where
  | slot (state : SlotState) (sending : Bool)
  | linkSending
  | receiveBuffer
  | answerQueue
  deriving DecidableEq, Repr

inductive ActionFault where
  | noTelegram
  | noQueuedAnswer
  | noOutstandingAnswer
  deriving DecidableEq, Repr

inductive Fault where
  | link (cause : LinkFault)
  | frame (cause : FrameFault)
  | control (cause : ControlFault)
  | address (cause : AddressFault)
  | profile (cause : ProfileFault)
  | busy (cause : BusyFault)
  | action (cause : ActionFault)
  | notConnected
  | timeout
  deriving DecidableEq, Repr

/-- The class under which a fault is reported. -/
inductive FaultKind where
  | link
  | protocol
  | frameInvalid
  | invalidData
  | slotBusy
  | notConnected
  | timeout
  | serialization
  deriving DecidableEq, Repr

/-- The report of a fault; the kinds without a cause of their own ignore the detail. -/
def FaultKind.message (detail : String) : FaultKind → String
  | .link => "Link error: " ++ detail
  | .protocol => "Protocol error: " ++ detail
  | .frameInvalid => "Frame invalid: " ++ detail
  | .invalidData => "Invalid data: " ++ detail
  | .slotBusy => "Outbound slot busy: " ++ detail
  | .notConnected => "Not connected"
  | .timeout => "Timeout"
  | .serialization => "Serialization error: " ++ detail

def LinkFault.kind : LinkFault → FaultKind
  | .transmitting => .slotBusy
  | .failed _ => .link

def LinkFault.detail : LinkFault → String
  | .transmitting => "A transmission is still running"
  | .failed reason => reason

def FrameFault.detail : FrameFault → String
  | .tooShort length => s!"Frame too short: {length} octets"
  | .notStandard control => "Not a standard frame: control 0x" ++ hexPair control
  | .lengthMismatch declared actual =>
    s!"Length mismatch: header declares {declared} octets, got {actual}"
  | .empty => "Empty frame"
  | .checksumMismatch expected actual =>
    "Checksum mismatch: expected 0x" ++ hexPair expected ++ ", got 0x" ++ hexPair actual
  | .payloadTooLong length => s!"Payload too long: {length} octets (max 15)"
  | .missingCommand => "data frame without APCI"

def ControlFault.detail : ControlFault → String
  | .unknown octet => "Unknown transport control field: 0x" ++ hexPair octet

def AddressFault.detail : AddressFault → String
  | .badText text => "Invalid individual address: " ++ text
  | .badPart text => "Invalid address part in: " ++ text
  | .outOfRange area line => s!"Address part out of range: area={area}, line={line} (max 15)"

def ProfileFault.kind : ProfileFault → FaultKind
  | .malformedTransport | .malformedDevice => .serialization
  | .zeroConnectionTimeout | .zeroAckTimeout | .zeroPollLimit | .zeroPollInterval => .invalidData

def ProfileFault.detail : ProfileFault → String
  | .malformedTransport => "Invalid transport settings: "
  | .malformedDevice => "Invalid device settings: "
  | .zeroConnectionTimeout => "connection_timeout must be greater than zero"
  | .zeroAckTimeout => "ack_timeout must be greater than zero"
  | .zeroPollLimit => "control_slot_poll_limit must be at least 1"
  | .zeroPollInterval => "poll_interval must be greater than zero"

def BusyFault.detail : BusyFault → String
  | .slot state busy =>
    "control slot is " ++ state.text ++ ", link sending: " ++ toString busy
  | .linkSending => "cannot send disconnect while the link is sending"
  | .receiveBuffer => "receive buffer occupied"
  | .answerQueue => "response queue is full"

def ActionFault.detail : ActionFault → String
  | .noTelegram => "data event without a telegram"
  | .noQueuedAnswer => "no queued response"
  | .noOutstandingAnswer => "no outstanding response to repeat"

namespace Fault

def kind : Fault → FaultKind
  | .link cause => cause.kind
  | .frame _ => .frameInvalid
  | .control _ | .action _ => .protocol
  | .address _ => .invalidData
  | .profile cause => cause.kind
  | .busy _ => .slotBusy
  | .notConnected => .notConnected
  | .timeout => .timeout

def detail : Fault → String
  | .link cause => cause.detail
  | .frame cause => cause.detail
  | .control cause => cause.detail
  | .address cause => cause.detail
  | .profile cause => cause.detail
  | .busy cause => cause.detail
  | .action cause => cause.detail
  | .notConnected | .timeout => ""

def message (fault : Fault) : String := fault.kind.message fault.detail

end Fault

end BusTransport
