import BusTransport.Endpoint.Turn
import BusTransport.Wire.ControlField
import BusTransport.Wire.StandardFrame

/-! # Carrying out actions

Each action has its effects on connection, answer queue, control slot, link and application. A frame
that the action needs is sent before the connection changes, except in closing, where the connection
is closed before the peer is told.
-/

namespace BusTransport

namespace Endpoint

def answerFrame (own destination : DeviceAddress) (priority : Priority) (field : ControlField)
    (answer : Answer) : Except FrameFault Frame :=
  (Telegram.build priority own (.individual destination) field.encode answer.payload).map
    (·.encode)

def controlFrame (own destination : DeviceAddress) (field : ControlField) :
    Except FrameFault Frame :=
  (Telegram.build .system own (.individual destination) field.encode []).map (·.encode)

end Endpoint

namespace Turn

open Endpoint

variable {L A : Type}

def peer : Turn L A DeviceAddress := do
  match (← endpoint).connection.peer? with
  | some peer => return peer
  | none => throw .notConnected

section Link

variable [Link L]

def sendControl (destination : DeviceAddress) (field : ControlField) : Turn L A Unit := do
  let own := Link.address (← endpoint).link
  let frame ← require .frame (controlFrame own destination field)
  offerControl frame
  count .controlFrameSent

/-- Send the primary answer; one that fits no telegram is dropped. -/
def sendPrimary (now : Instant) : Turn L A Unit := do
  let e ← endpoint
  match e.answers.primary? with
  | none => throw (.action .noQueuedAnswer)
  | some entry =>
    let field := .numbered e.connection.sendSequence entry.answer.commandHigh
    match answerFrame (Link.address e.link) entry.destination entry.priority field entry.answer with
    | .error fault =>
      updateAnswers (·.dropPrimary)
      throw (.frame fault)
    | .ok frame =>
      offer frame
      updateAnswers (·.markSending frame)
      updateConnection (·.awaitAck now)
      count .answerSent

def repeatPrimary (now : Instant) : Turn L A Unit := do
  match (← endpoint).answers.outstandingFrame? with
  | none => throw (.action .noOutstandingAnswer)
  | some frame =>
    offer frame
    updateConnection (·.repeated now)
    count .repetition

end Link

section Application

variable [Application A]

def closeConnection (peer : DeviceAddress) : Turn L A Unit := do
  updateAnswers (·.clear)
  updateConnection (·.close)
  count .disconnect
  tellClosed peer

variable [Link L]

/-- Acknowledge new data, hand it to the application, and queue its answer. -/
def deliver (telegram? : Option Telegram) (n : SequenceNumber) (now : Instant) : Turn L A Unit := do
  match telegram? with
  | none => throw (.action .noTelegram)
  | some telegram =>
    match Request.ofTelegram? telegram (some n) with
    | none => throw (.frame .missingCommand)
    | some request =>
      sendControl telegram.source (.ack n)
      updateConnection (·.acceptRequest n now)
      match ← ask request with
      | none => pure ()
      | some answer =>
        let queue := (← endpoint).answers.stage telegram.source telegram.priority answer
        let queue ← require .busy queue
        updateAnswers fun _ => queue

/-- Carry out an action; the telegram is the one that caused it, if any. -/
def perform (telegram? : Option Telegram) (now : Instant) : Action → Turn L A Unit
  | .ignore => pure ()
  | .connect peer => do
    updateAnswers (·.clear)
    updateConnection (·.connectTo peer now)
  | .deliver n => deliver telegram? n now
  | .ackAgain n => do
    sendControl (← peer) (.ack n)
    count .duplicate
    updateConnection (·.touch now)
  | .refuse n => do
    sendControl (← peer) (.nack n)
    count .nackSent
  | .closeSilently => do closeConnection (← peer)
  | .closeAndTell => do
    let peer ← peer
    closeConnection peer
    sendControl peer .disconnect
  | .sendAnswer => sendPrimary now
  | .finishAnswer => do
    updateConnection (·.acknowledged now)
    updateAnswers (·.dropPrimary)
  | .repeatAnswer => repeatPrimary now
  | .reject sender => do
    count .intrusion
    sendControl sender .disconnect

/-- Decide about an event and carry the decision out.
The decided state is taken only after the action has succeeded. -/
def dispatch (event : Event) (telegram? : Option Telegram) (now : Instant) : Turn L A Unit := do
  let e ← endpoint
  let decision := e.connection.react e.answers.hasRoom event
  perform telegram? now decision.action
  updateConnection fun c => { c with state := decision.state }
  record (.performed decision.action)

end Application

end Turn

end BusTransport
