import BusTransport.Endpoint.Action
import BusTransport.Proofs.Wire.SentField
import BusTransport.Service.Message

/-! # Moves of a dialogue

A dialogue is what an endpoint keeps about its peer. An event moves it in one of a few ways. Each
has its condition, the activities it leaves in the journal, and the dialogue it leads to. A move
whose frame has to leave first comes in two more forms, in which the frame was refused or never
offered.
-/

namespace BusTransport

/-- Connection and answer queue: all of an endpoint that its peer can influence. -/
structure Dialogue where
  connection : Connection
  answers : AnswerQueue
  deriving DecidableEq, Repr

def Endpoint.dialogue {L A : Type} (e : Endpoint L A) : Dialogue := ⟨e.connection, e.answers⟩

/-- The queue with the answer to an accepted request, if there is one. -/
def AnswerQueue.add (q : AnswerQueue) (r : Request) : Option Answer → AnswerQueue
  | none => q
  | some answer => ⟨q.entries ++ [⟨r.source, r.priority, answer, .awaitingAck, none⟩]⟩

/-- Whether the frame of an action has to leave before the action has any effect. -/
def Action.sendsFirst : Action → Bool
  | .deliver _ | .ackAgain _ | .refuse _ | .reject _ | .sendAnswer | .repeatAnswer => true
  | .ignore | .connect _ | .closeSilently | .closeAndTell | .finishAnswer => false

/-- The control fields with which the sender of a connect or of data can be answered. -/
inductive ControlReply : Event → DeviceAddress → ControlField → Prop
  | ack {p n} : ControlReply (.data p n) p (.ack n)
  | nack {p n} : ControlReply (.data p n) p (.nack n)
  | reject {p} : ControlReply (.connect p) p .disconnect

theorem ControlReply.isControl {event : Event} {p : DeviceAddress} {field : ControlField}
    (h : ControlReply event p field) : field.isControl = true := by
  cases h <;> rfl

namespace Request

variable {t : Telegram} {n : Option SequenceNumber} {r : Request}

theorem source_of_telegram (h : ofTelegram? t n = some r) : r.source = t.source := by
  unfold ofTelegram? at h; split at h <;> cases h; rfl

theorem sequence_of_telegram (h : ofTelegram? t n = some r) : r.sequence = n := by
  unfold ofTelegram? at h; split at h <;> cases h; rfl

theorem priority_of_telegram (h : ofTelegram? t n = some r) : r.priority = t.priority := by
  unfold ofTelegram? at h; split at h <;> cases h; rfl

end Request

namespace Dialogue

open Endpoint

def react (d : Dialogue) (event : Event) : Decision :=
  d.connection.react d.answers.hasRoom event

def released (d : Dialogue) : Dialogue := ⟨d.connection, d.answers.release⟩

def primaryFrame (own : DeviceAddress) (d : Dialogue) (entry : PendingAnswer) :
    Except FrameFault Frame :=
  answerFrame own entry.destination entry.priority
    (.numbered d.connection.sendSequence entry.answer.commandHigh) entry.answer

/-- The end of a closing: the disconnect is sent, refused, or not even offered. -/
inductive Told (own peer : DeviceAddress) : List Activity → Prop
  | sent {frame} : controlFrame own peer .disconnect = .ok frame →
      Told own peer [.offered frame none, .performed .closeAndTell]
  | refused {frame fault} : controlFrame own peer .disconnect = .ok frame →
      Told own peer [.offered frame (some fault)]
  | blocked : Told own peer []

/-- The frame that has to leave before the action on an event has any effect. -/
inductive Needs (own : DeviceAddress) (d : Dialogue) : Event → Frame → Prop
  | control {event destination field frame} : (d.react event).action.sendsFirst = true →
      ControlReply event destination field → controlFrame own destination field = .ok frame →
      Needs own d event frame
  | answer {entry rest frame} : d.connection.state = .openIdle → d.answers.entries = entry :: rest →
      d.primaryFrame own entry = .ok frame → Needs own d .answerReady frame
  | repetition {event frame} : d.react event = ⟨.openWait, .repeatAnswer⟩ →
      d.answers.outstandingFrame? = some frame → Needs own d event frame

inductive Move (own : DeviceAddress) (now : Instant) (d : Dialogue) :
    Event → List Activity → Dialogue → Prop
  | ignore {event} : d.react event = d.connection.stay .ignore →
      Move own now d event [.performed .ignore] d
  | connect {p} : d.connection.state = .closed →
      Move own now d (.connect p) [.performed (.connect p)] ⟨d.connection.connectTo p now, {}⟩
  | deliver {p r answer frame} : d.connection.state = .openIdle → d.connection.peer? = some p →
      d.answers.hasRoom = true → r.source = p → r.sequence = some d.connection.receiveSequence →
      controlFrame own p (.ack d.connection.receiveSequence) = .ok frame →
      Move own now d (.data p d.connection.receiveSequence)
        [.offered frame none, .requested r answer,
          .performed (.deliver d.connection.receiveSequence)]
        ⟨d.connection.acceptRequest d.connection.receiveSequence now, d.answers.add r answer⟩
  | ackAgain {p n frame} : d.connection.peer? = some p →
      n = SequenceNumber.previous d.connection.receiveSequence →
      controlFrame own p (.ack n) = .ok frame →
      Move own now d (.data p n) [.offered frame none, .performed (.ackAgain n)]
        ⟨d.connection.touch now, d.answers⟩
  | refuse {p n frame} : d.connection.peer? = some p → n ≠ d.connection.receiveSequence →
      n ≠ SequenceNumber.previous d.connection.receiveSequence →
      controlFrame own p (.nack n) = .ok frame →
      Move own now d (.data p n) [.offered frame none, .performed (.refuse n)] d
  | closeSilently {p} : d.connection.peer? = some p →
      Move own now d (.disconnect p) [.closed p, .performed .closeSilently]
        ⟨d.connection.close, {}⟩
  | closeAndTell {event p rest} : d.react event = ⟨.closed, .closeAndTell⟩ →
      d.connection.peer? = some p → Told own p rest →
      Move own now d event (.closed p :: rest) ⟨d.connection.close, {}⟩
  | sendAnswer {entry rest frame} : d.connection.state = .openIdle →
      d.answers.entries = entry :: rest → d.primaryFrame own entry = .ok frame →
      Move own now d .answerReady [.offered frame none, .performed .sendAnswer]
        ⟨{ d.connection.awaitAck now with state := .openWait },
          ⟨entry.sentAs frame :: rest⟩⟩
  | dropAnswer {entry rest fault} : d.connection.state = .openIdle →
      d.answers.entries = entry :: rest → d.primaryFrame own entry = .error fault →
      Move own now d .answerReady [] ⟨d.connection, ⟨rest⟩⟩
  | finishAnswer {p} : d.connection.state = .openWait → d.connection.peer? = some p →
      Move own now d (.ack p d.connection.sendSequence) [.performed .finishAnswer]
        ⟨{ d.connection.acknowledged now with state := .openIdle }, d.answers.dropPrimary⟩
  | repeatAnswer {event frame} : d.react event = ⟨.openWait, .repeatAnswer⟩ →
      d.connection.state = .openWait → d.connection.mayRepeat = true →
      d.answers.outstandingFrame? = some frame →
      Move own now d event [.offered frame none, .performed .repeatAnswer]
        ⟨d.connection.repeated now, d.answers⟩
  | reject {p frame} : d.connection.isOpen = true → d.connection.peer? ≠ some p →
      controlFrame own p .disconnect = .ok frame →
      Move own now d (.connect p) [.offered frame none, .performed (.reject p)] d
  /-- The link refused the frame. -/
  | refused {event frame fault} : Needs own d event frame →
      Move own now d event [.offered frame (some fault)] d
  /-- The frame could not even be offered. -/
  | halted {event} : (d.react event).action.sendsFirst = true → Move own now d event [] d
  /-- There was no peer to be told. -/
  | lost {event} : d.react event = ⟨.closed, .closeAndTell⟩ → d.connection.peer? = none →
      Move own now d event [] d

/-- What a turn leaves in the journal when it meets no event of the connection. -/
inductive Quiet (own : DeviceAddress) : List Activity → Prop
  | nothing : Quiet own []
  | group {t} : Quiet own [.groupDelivered t]
  | broadcast {t} : Quiet own [.broadcastDelivered t]
  | direct {r answer} : r.sequence = none → Quiet own [.requested r answer]
  | reply {r answer frame refusal} : r.sequence = none →
      answerFrame own r.source r.priority (.unnumbered answer.commandHigh) answer = .ok frame →
      Quiet own [.requested r (some answer), .offered frame refusal]

/-- Nothing but the answer to data without connection is sent. -/
theorem Quiet.unnumbered {own : DeviceAddress} {journal : List Activity} {sent : Frame}
    {refusal : Option LinkFault} (h : Quiet own journal) (hmem : .offered sent refusal ∈ journal) :
    ∃ high, fieldOf? sent = some (.unnumbered high) := by
  cases h with
  | nothing => cases hmem
  | group | broadcast | direct => simp at hmem
  | reply _ hf =>
    obtain ⟨rfl, -⟩ : sent = _ ∧ _ := by simpa using hmem
    exact ⟨_, by rw [fieldOf?_answerFrame hf, ControlField.decode_encode_unnumbered]⟩

/-- What a request without connection leaves in the journal: it is handed over, and an answer that
fits a telegram is offered to the link. -/
inductive Reply (own : DeviceAddress) (r : Request) : List Activity → Prop
  | unanswered {answer} : Reply own r [.requested r answer]
  | answered {answer frame refusal} :
      answerFrame own r.source r.priority (.unnumbered answer.commandHigh) answer = .ok frame →
      Reply own r [.requested r (some answer), .offered frame refusal]

theorem Reply.quiet {own : DeviceAddress} {r : Request} {journal : List Activity}
    (h : Reply own r journal) (hr : r.sequence = none) : Quiet own journal := by
  cases h with
  | unanswered => exact .direct hr
  | answered hf => exact .reply hr hf

theorem Reply.eq_of_requested {own : DeviceAddress} {r r' : Request} {answer : Option Answer}
    {journal : List Activity} (h : Reply own r journal) (hm : .requested r' answer ∈ journal) :
    r' = r := by
  cases h with
  | unanswered => exact (by simpa using hm : r' = r ∧ _).1
  | answered => exact (by simpa using hm : r' = r ∧ _).1

inductive Step (own : DeviceAddress) (now : Instant) (d : Dialogue) :
    Option Event → List Activity → Dialogue → Prop
  | quiet {journal} : Quiet own journal → Step own now d none journal d
  | move {event journal d'} : Move own now d event journal d' →
      Step own now d (some event) journal d'

end Dialogue

end BusTransport
