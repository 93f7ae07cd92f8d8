import BusTransport.Fault
import BusTransport.Service.Message

/-! # Answer queue

At most two answers wait for transmission or acknowledgement, in the order of their requests.
The first is the primary; the second moves up when the primary is done.
-/

namespace BusTransport

inductive AnswerPhase where
  | awaitingAck
  | ready
  | sending
  deriving DecidableEq, Repr

structure PendingAnswer where
  destination : DeviceAddress
  priority : Priority
  answer : Answer
  phase : AnswerPhase
  /-- The frame that was handed to the link, kept for repetitions. -/
  frame? : Option Frame
  deriving DecidableEq, Repr

structure AnswerQueue where
  entries : List PendingAnswer := []
  deriving DecidableEq, Repr

namespace AnswerPhase

/-- The acknowledgement before the answer has left. -/
def released : AnswerPhase → AnswerPhase
  | awaitingAck => ready
  | phase => phase

/-- The written form of the phase of an entry, or of a place without entry. -/
def text : Option AnswerPhase → String
  | none => "Free"
  | some awaitingAck => "WaitingForAckSent"
  | some ready => "WaitingForLoop"
  | some sending => "Sending"

end AnswerPhase

namespace PendingAnswer

def released (entry : PendingAnswer) : PendingAnswer :=
  { entry with phase := entry.phase.released }

/-- The answer was handed to the link as this frame. -/
def sentAs (entry : PendingAnswer) (frame : Frame) : PendingAnswer :=
  { entry with phase := .sending, frame? := some frame }

end PendingAnswer

namespace AnswerQueue

def capacity : Nat := 2

def size (q : AnswerQueue) : Nat := q.entries.length

def isEmpty (q : AnswerQueue) : Bool := q.entries.isEmpty

def isFull (q : AnswerQueue) : Bool := capacity ≤ q.size

def hasRoom (q : AnswerQueue) : Bool := !q.isFull

def stage (q : AnswerQueue) (destination : DeviceAddress) (priority : Priority) (answer : Answer) :
    Except BusyFault AnswerQueue :=
  if q.isFull then .error .answerQueue
  else .ok ⟨q.entries ++ [⟨destination, priority, answer, .awaitingAck, none⟩]⟩

/-- Every acknowledgement given so far has left the control slot. -/
def release (q : AnswerQueue) : AnswerQueue :=
  ⟨q.entries.map PendingAnswer.released⟩

def primary? (q : AnswerQueue) : Option PendingAnswer := q.entries.head?

def primaryPhase? (q : AnswerQueue) : Option AnswerPhase := q.primary?.map (·.phase)

def secondaryPhase? (q : AnswerQueue) : Option AnswerPhase := q.entries[1]?.map (·.phase)

def primaryReady (q : AnswerQueue) : Bool := q.primaryPhase? = some .ready

def outstandingFrame? (q : AnswerQueue) : Option Frame := q.primary?.bind (·.frame?)

def markSending (q : AnswerQueue) (frame : Frame) : AnswerQueue :=
  match q.entries with
  | [] => q
  | entry :: rest => ⟨entry.sentAs frame :: rest⟩

def dropPrimary (q : AnswerQueue) : AnswerQueue := ⟨q.entries.tail⟩

def clear (_ : AnswerQueue) : AnswerQueue := {}

end AnswerQueue

end BusTransport
