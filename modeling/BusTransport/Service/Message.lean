import BusTransport.Wire.SequenceNumber
import BusTransport.Wire.Telegram

/-! # Requests and answers

A command has ten bits, two in the transport control octet and eight in the first octet of the
payload. The rest of the payload is data.
-/

namespace BusTransport

/-- A command with its data as it reaches the application; without connection there is no number. -/
structure Request where
  command : UInt16
  source : DeviceAddress
  sequence : Option SequenceNumber
  priority : Priority
  data : List UInt8
  deriving DecidableEq, Repr

/-- The request in a telegram, if there is an octet for the low part of its command. -/
def Request.ofTelegram? (t : Telegram) (sequence : Option SequenceNumber) : Option Request :=
  match t.payload with
  | [] => none
  | low :: data =>
    some {
      command := UInt16.ofNat (t.tpci.toNat % 4 * 256 + low.toNat)
      source := t.source
      sequence
      priority := t.priority
      data }

structure Answer where
  command : UInt16
  data : List UInt8
  deriving DecidableEq, Repr

namespace Answer

def ofCommand (command : UInt16) (data : List UInt8) : Answer :=
  ⟨UInt16.ofNat (command.toNat % 1024), data⟩

def commandHigh (a : Answer) : UInt8 := UInt8.ofNat (a.command.toNat / 256 % 4)

def payload (a : Answer) : List UInt8 := UInt8.ofNat (a.command.toNat % 256) :: a.data

end Answer

end BusTransport
