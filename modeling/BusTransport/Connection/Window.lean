import BusTransport.Wire.SequenceNumber

/-! # Windows

The receive window knows the number expected next and tells a repetition of the last accepted frame
from anything else. The send window knows the number of the answer that is outstanding or next.
-/

namespace BusTransport

inductive SequencePosition where
  | expected
  | duplicate
  | outOfWindow
  deriving DecidableEq, Repr

structure ReceiveWindow where
  expected : SequenceNumber := 0
  deriving DecidableEq, Repr

namespace ReceiveWindow

def check (w : ReceiveWindow) (n : SequenceNumber) : SequencePosition :=
  if n = w.expected then .expected
  else if n = SequenceNumber.previous w.expected then .duplicate
  else .outOfWindow

/-- Whether the number was the expected one, and the window moved on in that case. -/
def accept (w : ReceiveWindow) (n : SequenceNumber) : Bool × ReceiveWindow :=
  if n = w.expected then (true, ⟨SequenceNumber.next w.expected⟩) else (false, w)

end ReceiveWindow

structure SendWindow where
  current : SequenceNumber := 0
  deriving DecidableEq, Repr

namespace SendWindow

def fits (w : SendWindow) (n : SequenceNumber) : Bool := n = w.current

def acknowledge (w : SendWindow) (n : SequenceNumber) : Bool × SendWindow :=
  if w.fits n then (true, ⟨SequenceNumber.next w.current⟩) else (false, w)

end SendWindow

end BusTransport
