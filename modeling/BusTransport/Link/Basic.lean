import BusTransport.Fault
import BusTransport.Wire.DeviceAddress

/-! # Links

A link transmits one frame at a time and offers one received frame at a time.
Its sending flag may settle while it is read, so a reading has a value and leaves a link behind.
-/

namespace BusTransport

class Link (L : Type) where
  address : L → DeviceAddress
  /-- Whether the bus is free of traffic. -/
  idle : L → Bool
  /-- Whether a transmission is still running. -/
  sending : L → Bool
  /-- The link after one reading of its sending flag. -/
  observed : L → L := id
  /-- Start to transmit a frame. -/
  send : L → Frame → Except LinkFault Unit × L
  /-- The frame in the receive buffer. -/
  received : L → Option Frame
  /-- Release the receive buffer. -/
  release : L → L

end BusTransport
