import BusTransport.Endpoint.Basic

/-! # Turns

A turn changes an endpoint step by step, and keeps its changes when it ends with a fault.
It keeps a journal of what it did to the link and the application, in order.
-/

namespace BusTransport

inductive Activity where
  /-- A frame was offered to the link, which may have refused it. -/
  | offered (frame : Frame) (refusal : Option LinkFault)
  | requested (request : Request) (answer : Option Answer)
  | groupDelivered (telegram : Telegram)
  | broadcastDelivered (telegram : Telegram)
  | closed (peer : DeviceAddress)
  /-- An action on the connection was carried out to its end. -/
  | performed (action : Action)
  deriving DecidableEq, Repr

/-- An endpoint in the middle of a turn, with the journal so far. -/
structure Course (L A : Type) where
  endpoint : Endpoint L A
  journal : List Activity := []

abbrev Turn (L A : Type) := EStateM Fault (Course L A)

structure Report (L A α : Type) where
  result : Except Fault α
  journal : List Activity
  endpoint : Endpoint L A

namespace Turn

variable {L A α β ε : Type}

def report (turn : Turn L A α) (e : Endpoint L A) : Report L A α :=
  match turn.run { endpoint := e } with
  | .ok a course => ⟨.ok a, course.journal, course.endpoint⟩
  | .error fault course => ⟨.error fault, course.journal, course.endpoint⟩

def endpoint : Turn L A (Endpoint L A) := return (← get).endpoint

def update (f : Endpoint L A → Endpoint L A) : Turn L A Unit :=
  modify fun course => { course with endpoint := f course.endpoint }

def record (activity : Activity) : Turn L A Unit :=
  modify fun course => { course with journal := course.journal ++ [activity] }

@[simp] theorem run_endpoint (c : Course L A) : endpoint.run c = .ok c.endpoint c := rfl

@[simp] theorem run_update (f : Endpoint L A → Endpoint L A) (c : Course L A) :
    (update f).run c = .ok () { c with endpoint := f c.endpoint } := rfl

@[simp] theorem run_record (activity : Activity) (c : Course L A) :
    (record activity).run c = .ok () { c with journal := c.journal ++ [activity] } := rfl

@[simp] theorem run_pure (a : α) (c : Course L A) : (pure a : Turn L A α).run c = .ok a c := rfl

@[simp] theorem run_throw (fault : Fault) (c : Course L A) :
    (throw fault : Turn L A α).run c = .error fault c := rfl

/-- What follows a step runs where the step has ended, unless it ended with a fault. -/
theorem run_bind (t : Turn L A α) (f : α → Turn L A β) (c : Course L A) :
    (t >>= f).run c = match t.run c with
      | .ok a c => (f a).run c
      | .error fault c => .error fault c := by
  change EStateM.bind t f c = _
  unfold EStateM.bind EStateM.run
  cases t c <;> rfl

def updateConnection (f : Connection → Connection) : Turn L A Unit :=
  update fun e => { e with connection := f e.connection }

def updateAnswers (f : AnswerQueue → AnswerQueue) : Turn L A Unit :=
  update fun e => { e with answers := f e.answers }

def count (occurrence : Occurrence) : Turn L A Unit :=
  update fun e => { e with statistics := e.statistics.count occurrence }

def remember (t : Telegram) : Turn L A Unit := update fun e => { e with lastTelegram := some t }

/-- Go on with a value, or end the turn with a fault. -/
def require (fault : ε → Fault) : Except ε α → Turn L A α
  | .ok a => pure a
  | .error cause => throw (fault cause)

section Link

variable [Link L]

/-- Free the control slot if the link has finished its frame. -/
def refreshSlot : Turn L A Unit :=
  update fun e =>
    let (slot, link) := e.slot.refresh e.link
    { e with slot, link }

/-- Whether a frame could be sent now; the link is read only if the control slot is free. -/
def outboundFree : Turn L A Bool := do
  let e ← endpoint
  if e.slot.isFree then
    update fun e => { e with link := Link.observed e.link }
    return !Link.sending e.link
  else return false

def offer (frame : Frame) : Turn L A Unit := do
  let e ← endpoint
  let (result, link) := Link.send e.link frame
  update fun e => { e with link }
  match result with
  | .ok () => record (.offered frame none)
  | .error fault =>
    record (.offered frame (some fault))
    throw (.link fault)

def offerControl (frame : Frame) : Turn L A Unit := do
  let e ← endpoint
  let (result, slot, link) := e.slot.acquire e.link e.profile.slotPollLimit.toNat
  update fun e => { e with slot, link }
  let permit ← require .busy result
  let (result, slot, link) := ControlSlot.transmit permit link frame
  update fun e => { e with slot, link }
  match result with
  | .ok () => record (.offered frame none)
  | .error fault =>
    record (.offered frame (some fault))
    throw (.link fault)

end Link

section Application

variable [Application A]

def ask (request : Request) : Turn L A (Option Answer) := do
  let e ← endpoint
  let (answer, application) := Application.respond e.application request
  update fun e => { e with application }
  record (.requested request answer)
  return answer

def deliverGroup (t : Telegram) : Turn L A Unit := do
  update fun e => { e with application := Application.groupReceived e.application t }
  record (.groupDelivered t)

def deliverBroadcast (t : Telegram) : Turn L A Unit := do
  update fun e => { e with application := Application.broadcastReceived e.application t }
  record (.broadcastDelivered t)

def tellClosed (peer : DeviceAddress) : Turn L A Unit := do
  update fun e => { e with application := Application.connectionClosed e.application peer }
  record (.closed peer)

end Application

end Turn

end BusTransport
