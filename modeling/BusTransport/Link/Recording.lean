import BusTransport.Link.Basic
import BusTransport.Wire.StandardFrame

/-! # Recording link

Received frames wait in a queue and sent frames are recorded.
A transmission ends at once, or when it is completed from outside.
-/

namespace BusTransport

structure RecordingLink where
  address : DeviceAddress
  completesAtOnce : Bool
  inbound : List Frame := []
  sent : List Frame := []
  sending : Bool := false
  /-- Whether other devices use the bus. -/
  occupied : Bool := false
  deriving DecidableEq, Repr

namespace RecordingLink

def inject (l : RecordingLink) (frame : Frame) : RecordingLink :=
  { l with inbound := l.inbound ++ [frame] }

def complete (l : RecordingLink) : RecordingLink := { l with sending := false }

def setOccupied (l : RecordingLink) (occupied : Bool) : RecordingLink := { l with occupied }

def idle (l : RecordingLink) : Bool := !l.sending && !l.occupied

def send (l : RecordingLink) (frame : Frame) : Except LinkFault Unit × RecordingLink :=
  if l.sending then (.error .transmitting, l)
  else (.ok (), { l with sent := l.sent ++ [frame], sending := !l.completesAtOnce })

def release (l : RecordingLink) : RecordingLink := { l with inbound := l.inbound.tail }

def collect (l : RecordingLink) : List Frame × RecordingLink := (l.sent, { l with sent := [] })

/-- Take the sent frames out of the record and read them; the first that cannot be read counts. -/
def collectTelegrams (l : RecordingLink) : Except FrameFault (List Telegram) × RecordingLink :=
  let (frames, l) := l.collect
  (frames.mapM Telegram.decode, l)

instance : Link RecordingLink where
  address := address
  idle := idle
  sending := sending
  send := send
  received := fun l => l.inbound.head?
  release := release

end RecordingLink

end BusTransport
