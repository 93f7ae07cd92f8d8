import BusTransport.Link.Basic

/-! # Control slot

The slot holds the one control frame that may be on its way. It is acquired for a permit, the
permit is spent on a transmission, and the slot is free again once the link has finished.
-/

namespace BusTransport

/-- The right to transmit one control frame; only an acquisition of the slot yields it. -/
structure Permit where
  private mk ::

structure ControlSlot where
  state : SlotState := .free
  deriving DecidableEq, Repr

namespace ControlSlot

variable {L : Type} [Link L]

def isFree (slot : ControlSlot) : Bool := slot.state = .free

/-- Free the slot if the link has finished its frame; only a sending slot reads the link. -/
def refresh (slot : ControlSlot) (link : L) : ControlSlot × L :=
  if slot.state = .sending then
    (if Link.sending link then slot else ⟨.free⟩, Link.observed link)
  else (slot, link)

def attempt (slot : ControlSlot) (link : L) : Except BusyFault Permit × ControlSlot × L :=
  let (slot, link) := slot.refresh link
  let busy := Link.sending link
  let link := Link.observed link
  if slot.isFree && !busy then (.ok ⟨⟩, ⟨.acquired⟩, link)
  else (.error (.slot slot.state busy), slot, link)

/-- Attempt until the first success, with the given number of retries; the last fault counts. -/
def acquireWithin : Nat → ControlSlot → L → Except BusyFault Permit × ControlSlot × L
  | 0, slot, link => slot.attempt link
  | retries + 1, slot, link =>
    match slot.attempt link with
    | (.ok permit, slot, link) => (.ok permit, slot, link)
    | (.error _, slot, link) => acquireWithin retries slot link

/-- Acquire the slot with at most limit attempts; a limit of zero still allows one. -/
def acquire (slot : ControlSlot) (link : L) (limit : Nat) :
    Except BusyFault Permit × ControlSlot × L :=
  acquireWithin (limit - 1) slot link

/-- Spend a permit on a frame; the slot is free again if the link refuses. -/
def transmit (_permit : Permit) (link : L) (frame : Frame) :
    Except LinkFault Unit × ControlSlot × L :=
  match Link.send link frame with
  | (.ok (), link) => (.ok (), ⟨.sending⟩, link)
  | (.error fault, link) => (.error fault, ⟨.free⟩, link)

end ControlSlot

end BusTransport
