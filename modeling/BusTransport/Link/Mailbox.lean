import BusTransport.Link.Basic

/-! # Mailbox link

Sent frames go to a receiver at once, until that receiver is gone.
The receive buffer holds one frame, which is delivered from outside.
-/

namespace BusTransport

structure MailboxLink where
  address : DeviceAddress
  outbox : List Frame := []
  attached : Bool := true
  buffer : Option Frame := none
  deriving DecidableEq, Repr

namespace MailboxLink

def isFull (l : MailboxLink) : Bool := l.buffer.isSome

/-- Put a frame into the receive buffer, which has to be empty. -/
def deliver (l : MailboxLink) (frame : Frame) : Except BusyFault MailboxLink :=
  if l.isFull then .error .receiveBuffer else .ok { l with buffer := some frame }

def send (l : MailboxLink) (frame : Frame) : Except LinkFault Unit × MailboxLink :=
  if l.attached then (.ok (), { l with outbox := l.outbox ++ [frame] })
  else (.error (.failed "outbound channel closed"), l)

def collect (l : MailboxLink) : List Frame × MailboxLink := (l.outbox, { l with outbox := [] })

def detach (l : MailboxLink) : MailboxLink := { l with attached := false }

instance : Link MailboxLink where
  address := address
  idle := fun _ => true
  sending := fun _ => false
  send := send
  received := buffer
  release := fun l => { l with buffer := none }

end MailboxLink

end BusTransport
