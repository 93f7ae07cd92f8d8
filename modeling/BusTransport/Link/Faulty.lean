import BusTransport.Link.Basic

/-! # Faulty link

A link around another one, whose next transmissions fail and whose sending flag stays set for some
readings. With both counts at zero it behaves like the link inside.
-/

namespace BusTransport

structure FaultyLink (L : Type) where
  inner : L
  failures : Nat := 0
  busyReadings : Nat := 0
  deriving DecidableEq, Repr

namespace FaultyLink

variable {L : Type} [Link L]

/-- A pending failure comes before any refusal of the inner link. -/
def send (l : FaultyLink L) (frame : Frame) : Except LinkFault Unit × FaultyLink L :=
  if l.failures = 0 then
    let (result, inner) := Link.send l.inner frame
    (result, { l with inner })
  else (.error (.failed "scripted failure"), { l with failures := l.failures - 1 })

def sending (l : FaultyLink L) : Bool := l.busyReadings ≠ 0 || Link.sending l.inner

def observed (l : FaultyLink L) : FaultyLink L :=
  if l.busyReadings = 0 then { l with inner := Link.observed l.inner }
  else { l with busyReadings := l.busyReadings - 1 }

instance : Link (FaultyLink L) where
  address := fun l => Link.address l.inner
  idle := fun l => Link.idle l.inner
  sending := sending
  observed := observed
  send := send
  received := fun l => Link.received l.inner
  release := fun l => { l with inner := Link.release l.inner }

end FaultyLink

end BusTransport
