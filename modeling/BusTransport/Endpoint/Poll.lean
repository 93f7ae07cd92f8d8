import BusTransport.Endpoint.Action

/-! # Polling and disconnecting

A poll does at most one duty. The idle timeout comes first, then a queued answer, then a missing
acknowledgement; none is done while the way out is occupied.
-/

namespace BusTransport

namespace Turn

variable {L A : Type} [Link L] [Application A]

/-- The most urgent duty of a free endpoint. -/
def duty (now : Instant) : Turn L A Unit := do
  let e ← endpoint
  if e.connection.idleOverdue now then
    count .timeout
    dispatch .idleTimeout none now
  else if e.connection.state = .openIdle && e.answers.primaryReady && Link.idle e.link then
    dispatch .answerReady none now
  else if e.connection.ackOverdue now then
    count .timeout
    dispatch .ackTimeout none now

def poll (now : Instant) : Turn L A Unit := do
  refreshSlot
  if (← endpoint).slot.isFree then updateAnswers (·.release)
  if ← outboundFree then duty now

def hangUp (now : Instant) : Turn L A Unit := do
  if (← endpoint).connection.isOpen then
    refreshSlot
    if ← outboundFree then dispatch .userDisconnect none now
    else throw (.busy .linkSending)
  else throw .notConnected

end Turn

namespace Endpoint

variable {L A : Type} [Link L] [Application A]

/-- A turn with the duties of an endpoint at an instant. -/
def poll (e : Endpoint L A) (now : Instant) : Report L A Unit := (Turn.poll now).report e

def hangUp (e : Endpoint L A) (now : Instant) : Report L A Unit := (Turn.hangUp now).report e

end Endpoint

end BusTransport
