import BusTransport.Endpoint.Action

/-! # Receiving frames

Frames that are no telegrams, repetitions by the link, and telegrams for other devices never reach
the connection. A telegram for this device waits while the way out is occupied, since it may call
for an answer.
-/

namespace BusTransport

inductive Disposition where
  /-- Processed or dropped; its buffer can be released. -/
  | consumed
  /-- Not processed, to be tried again. -/
  | deferred
  deriving DecidableEq, Repr

/-- The event that a control field from a sender means to the connection, if any. -/
def ControlField.event? (sender : DeviceAddress) : ControlField → Option Event
  | connect => some (.connect sender)
  | disconnect => some (.disconnect sender)
  | ack n => some (.ack sender n)
  | nack n => some (.nack sender n)
  | numbered n _ => some (.data sender n)
  | unnumbered _ => none

namespace Turn

open Endpoint

variable {L A : Type}

def drop (reason : Occurrence) : Turn L A Disposition := do
  count reason
  return .consumed

variable [Link L] [Application A]

def replyDirectly (telegram : Telegram) : Turn L A Unit := do
  match Request.ofTelegram? telegram none with
  | none => throw (.frame .missingCommand)
  | some request =>
    match ← ask request with
    | none => pure ()
    | some answer =>
      let own := Link.address (← endpoint).link
      let frame ← require .frame <|
        answerFrame own telegram.source telegram.priority (.unnumbered answer.commandHigh) answer
      offer frame
      count .answerSent

/-- Process a telegram for this device whose control field is known. -/
def accept (telegram : Telegram) (field : ControlField) (now : Instant) : Turn L A Disposition := do
  refreshSlot
  if ← outboundFree then
    count .frameReceived
    remember telegram
    match field.event? telegram.source with
    | none => replyDirectly telegram
    | some event => dispatch event (some telegram) now
    return .consumed
  else return .deferred

/-- Process a telegram that is no repetition of the link. -/
def route (telegram : Telegram) (now : Instant) : Turn L A Disposition := do
  match telegram.destination with
  | .broadcast =>
    deliverBroadcast telegram
    remember telegram
    return .consumed
  | .group _ =>
    deliverGroup telegram
    remember telegram
    return .consumed
  | .individual address =>
    if address = Link.address (← endpoint).link then
      match ControlField.decode telegram.tpci with
      | .error _ => drop .frameRejected
      | .ok field =>
        if !field.isControl && telegram.payload.isEmpty then drop .frameRejected
        else accept telegram field now
    else return .consumed

def receive (frame : Frame) (now : Instant) : Turn L A Disposition := do
  match Telegram.decode frame with
  | .error _ => drop .frameRejected
  | .ok telegram =>
    if (← endpoint).isRepeatOfLast telegram then drop .linkRepeatIgnored
    else route telegram now

end Turn

namespace Endpoint

variable {L A : Type} [Link L] [Application A]

def receive (e : Endpoint L A) (frame : Frame) (now : Instant) : Report L A Disposition :=
  (Turn.receive frame now).report e

/-- Release the receive buffer of the link. -/
def release (e : Endpoint L A) : Endpoint L A := { e with link := Link.release e.link }

/-- A turn with the frame in the receive buffer of the link, if there is one.
The buffer is released unless the frame was deferred. -/
def serve (e : Endpoint L A) (now : Instant) : Report L A (Option Disposition) :=
  match Link.received e.link with
  | none => ⟨.ok none, [], e⟩
  | some frame =>
    let r := e.receive frame now
    match r.result with
    | .ok .deferred => ⟨.ok (some .deferred), r.journal, r.endpoint⟩
    | result => ⟨result.map some, r.journal, r.endpoint.release⟩

end Endpoint

end BusTransport
