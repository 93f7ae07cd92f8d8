import BusTransport.Endpoint.Poll
import BusTransport.Endpoint.Receive
import BusTransport.Link.Mailbox
import BusTransport.Profile.Device

/-! # Devices

A device runs an endpoint over a mailbox link and takes arriving frames one at a time, in order.
A frame is taken only while the receive buffer is empty, and a tick tries a waiting frame again
before it polls.
-/

namespace BusTransport

structure Device (A : Type) where
  endpoint : Endpoint MailboxLink A
  pollInterval : Duration
  /-- Frames that arrived and were not taken yet. -/
  inbound : List Frame := []
  clock : Instant := 0

/-- An activity with the instant at which it happened. -/
structure Dated where
  instant : Instant
  activity : Activity
  deriving DecidableEq, Repr

namespace Device

variable {A : Type}

def create (profile : DeviceProfile) (application : A) : Except ProfileFault (Device A) := do
  profile.validate
  let endpoint ← Endpoint.create { address := profile.address } application profile.transport
  return { endpoint, pollInterval := profile.pollInterval }

def address (d : Device A) : DeviceAddress := d.endpoint.link.address

def atInstant (d : Device A) (now : Instant) : Device A := { d with clock := now }

def arrive (d : Device A) (frame : Frame) : Device A := { d with inbound := d.inbound ++ [frame] }

/-- The receiver of sent frames goes away. -/
def detach (d : Device A) : Device A :=
  { d with endpoint := { d.endpoint with link := d.endpoint.link.detach } }

def date (d : Device A) (journal : List Activity) : List Dated := journal.map (⟨d.clock, ·⟩)

section Application

variable [Application A]

/-- Serve the receive buffer; a fault has no effect beyond its journal. -/
def serve (d : Device A) : List Dated × Device A :=
  let r := d.endpoint.serve d.clock
  (d.date r.journal, { d with endpoint := r.endpoint })

/-- Take the next frame that arrived, if the receive buffer is empty, and serve it. -/
def take (d : Device A) : List Dated × Device A :=
  match d.inbound with
  | [] => ([], d)
  | frame :: rest =>
    match d.endpoint.link.deliver frame with
    | .error _ => ([], d)
    | .ok link => { d with inbound := rest, endpoint := { d.endpoint with link } }.serve

/-- A poll tick: serve a waiting frame, then poll. -/
def tick (d : Device A) : List Dated × Device A :=
  let (served, d) := d.serve
  let r := d.endpoint.poll d.clock
  (served ++ d.date r.journal, { d with endpoint := r.endpoint })

/-- Try to disconnect, and again after each poll interval while the way out is occupied.
When the tries are used up, the device has waited until `deadline` in vain. -/
def hangUpBefore (deadline : Instant) : Nat → Device A → Except Fault Unit × List Dated × Device A
  | 0, d => (.error .timeout, [], d.atInstant deadline)
  | tries + 1, d =>
    let r := d.endpoint.hangUp d.clock
    let dated := d.date r.journal
    let d := { d with endpoint := r.endpoint }
    match r.result with
    | .ok () => (.ok (), dated, d)
    | .error fault =>
      if fault.kind = .slotBusy then
        let (result, later, d) :=
          hangUpBefore deadline tries (d.atInstant (d.clock + d.pollInterval.nanoseconds))
        (result, dated ++ later, d)
      else (.error fault, dated, d)

/-- Disconnect the peer, waiting for the way out at most as long as for an acknowledgement. -/
def hangUp (d : Device A) : Except Fault Unit × List Dated × Device A :=
  let limit := d.endpoint.profile.ackTimeout.nanoseconds
  hangUpBefore (d.clock + limit) (limit / d.pollInterval.nanoseconds + 1) d

end Application

end Device

end BusTransport
