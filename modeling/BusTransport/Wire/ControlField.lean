import BusTransport.Fault
import BusTransport.Wire.SequenceNumber

/-! # Transport control field

The two highest bits of the octet tell control from data and numbered from unnumbered frames. The
next four bits hold the sequence number, and the two lowest hold a control code or, in data, the
high bits of the command.
-/

namespace BusTransport

inductive ControlField where
  | connect
  | disconnect
  | ack (sequence : SequenceNumber)
  | nack (sequence : SequenceNumber)
  | numbered (sequence : SequenceNumber) (commandHigh : UInt8)
  | unnumbered (commandHigh : UInt8)
  deriving DecidableEq, Repr

namespace ControlField

/-- The octet of a field; of the high command bits only two have a place in it. -/
def encode : ControlField → UInt8
  | connect => 0x80
  | disconnect => 0x81
  | ack n => UInt8.ofNat (0xC2 + 4 * n.val)
  | nack n => UInt8.ofNat (0xC3 + 4 * n.val)
  | numbered n high => UInt8.ofNat (0x40 + 4 * n.val + high.toNat % 4)
  | unnumbered high => UInt8.ofNat (high.toNat % 4)

/-- Read a control octet: connect and disconnect are exact values, ack and nack carry any number. -/
def decode (octet : UInt8) : Except ControlFault ControlField :=
  let sequence : SequenceNumber := Fin.ofNat 16 (octet.toNat / 4)
  let code := octet.toNat % 4
  match octet.toNat / 64 with
  | 0 => .ok (unnumbered (UInt8.ofNat code))
  | 1 => .ok (numbered sequence (UInt8.ofNat code))
  | 2 =>
    if octet = 0x80 then .ok connect
    else if octet = 0x81 then .ok disconnect
    else .error (.unknown octet)
  | _ =>
    if code = 2 then .ok (ack sequence)
    else if code = 3 then .ok (nack sequence)
    else .error (.unknown octet)

def isControl : ControlField → Bool
  | connect | disconnect | ack _ | nack _ => true
  | numbered .. | unnumbered _ => false

def text : ControlField → String
  | connect => "T_CONNECT"
  | disconnect => "T_DISCONNECT"
  | ack n => "T_ACK " ++ SequenceNumber.text n
  | nack n => "T_NACK " ++ SequenceNumber.text n
  | numbered n _ => "T_DATA_CONNECTED " ++ SequenceNumber.text n
  | unnumbered _ => "T_DATA_INDIVIDUAL"

end ControlField

end BusTransport
