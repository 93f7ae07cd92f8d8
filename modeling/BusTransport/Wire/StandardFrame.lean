import BusTransport.Wire.Checksum
import BusTransport.Wire.Telegram

/-! # Standard frames

Octet 0 holds the frame type, the repeat mark and the priority; octets 1 to 4 the addresses; octet 5
the group mark, the routing counter and the payload length; octet 6 the transport control field. The
payload and the checksum follow. A destination of zero is a broadcast whatever the group mark says.
-/

namespace BusTransport

namespace StandardFrame

/-- The first octet; bit 5 is clear in a repeated frame. -/
def controlOctet (priority : Priority) (repeated : Bool) : UInt8 :=
  UInt8.ofNat (0x90 + (if repeated then 0 else 32) + 4 * priority.bits)

def isStandard (control : UInt8) : Bool := control &&& 0xD3 = 0x90

def priorityOf (control : UInt8) : Priority := Priority.ofBits (control.toNat / 4)

def repeatedOf (control : UInt8) : Bool := control.toNat / 32 % 2 = 0

def networkOctet (group : Bool) (routing : Fin 8) (length : Nat) : UInt8 :=
  UInt8.ofNat ((if group then 128 else 0) + 16 * routing.val + length % 16)

def groupOf (network : UInt8) : Bool := network.toNat / 128 = 1

def routingOf (network : UInt8) : Fin 8 := Fin.ofNat 8 (network.toNat / 16)

def lengthOf (network : UInt8) : Nat := network.toNat % 16

def destinationWord : Destination → DeviceAddress × Bool
  | .individual address => (address, false)
  | .group raw => (⟨raw⟩, true)
  | .broadcast => (⟨0⟩, true)

def destinationOf (word : DeviceAddress) (group : Bool) : Destination :=
  if word.raw = 0 then .broadcast
  else if group then .group word.raw
  else .individual word

end StandardFrame

namespace Telegram

open StandardFrame

def body (t : Telegram) : Frame :=
  let (word, group) := destinationWord t.destination
  [controlOctet t.priority t.repeated, t.source.high, t.source.low, word.high, word.low,
    networkOctet group t.routingCounter t.payload.length, t.tpci] ++ t.payload

def encode (t : Telegram) : Frame := t.body ++ [Checksum.ofOctets t.body]

/-- Read a frame; too short, not standard, of another length than declared and with a wrong checksum
is the order in which faults are reported. -/
def decode (frame : Frame) : Except FrameFault Telegram :=
  match frame with
  | control :: sourceHigh :: sourceLow :: wordHigh :: wordLow :: network :: tpci :: next :: rest =>
    if isStandard control then
      if h : rest.length = lengthOf network then
        match Checksum.validate frame with
        | .ok () =>
          .ok {
            priority := priorityOf control
            repeated := repeatedOf control
            source := .ofOctets sourceHigh sourceLow
            destination := destinationOf (.ofOctets wordHigh wordLow) (groupOf network)
            routingCounter := routingOf network
            tpci := tpci
            payload := (next :: rest).dropLast
            payload_le := by
              have : network.toNat % 16 < 16 := Nat.mod_lt _ (by decide)
              simp only [List.length_dropLast, List.length_cons, maxPayloadLength, h, lengthOf]
              omega }
        | .error fault => .error fault
      else .error (.lengthMismatch (overhead + lengthOf network) frame.length)
    else .error (.notStandard control)
  | _ => .error (.tooShort frame.length)

theorem length_encode (t : Telegram) : t.encode.length = t.length := by
  simp [encode, body, length, overhead]
  omega

end Telegram

end BusTransport
