import BusTransport.Proofs.Connection.Table
import BusTransport.Proofs.Endpoint.Run
import BusTransport.Proofs.Wire.SentField

/-! # Effects

What a step means for the books about a connection: which requests of the peer it accepted, which
connected data it offered to the link, and what became of the dialogue. Most steps are calm.
-/

namespace BusTransport

namespace Activity

def offer? : Activity → Option Frame
  | offered frame _ => if (numberOf? frame).isSome then some frame else none
  | _ => none

/-- The frame of connected data that has left. -/
def transmission? : Activity → Option Frame
  | offered frame none => if (numberOf? frame).isSome then some frame else none
  | _ => none

def acceptance? : Activity → Option (Request × Option Answer)
  | requested r answer => if r.sequence.isSome then some (r, answer) else none
  | _ => none

end Activity

def offersIn (journal : List Activity) : List Frame := journal.filterMap Activity.offer?

def transmissionsIn (journal : List Activity) : List Frame :=
  journal.filterMap Activity.transmission?

def acceptedIn (journal : List Activity) : List (Request × Option Answer) :=
  journal.filterMap Activity.acceptance?

theorem transmissionsIn_sublist (journal : List Activity) :
    (transmissionsIn journal).Sublist (offersIn journal) := by
  induction journal with
  | nil => exact .slnil
  | cons activity journal ih =>
    unfold transmissionsIn offersIn at ih ⊢
    rw [List.filterMap_cons, List.filterMap_cons]
    cases activity with
    | offered frame refusal =>
      cases refusal with
      | none =>
        by_cases h : (numberOf? frame).isSome = true
        · simpa [Activity.offer?, Activity.transmission?, h] using ih
        · simpa [Activity.offer?, Activity.transmission?, h] using ih
      | some fault =>
        by_cases h : (numberOf? frame).isSome = true
        · simpa [Activity.offer?, Activity.transmission?, h] using ih.cons frame
        · simpa [Activity.offer?, Activity.transmission?, h] using ih
    | _ => exact ih

theorem transmissionsIn_eq_nil {journal : List Activity} (h : offersIn journal = []) :
    transmissionsIn journal = [] := by
  simpa [h] using transmissionsIn_sublist journal

theorem eq_of_mem_offersIn {frame frame' : Frame} {refusal : Option LinkFault}
    {rest : List Activity} (hr : offersIn rest = [])
    (h : frame ∈ offersIn (.offered frame' refusal :: rest)) : frame = frame' := by
  obtain ⟨activity, hmem, ho⟩ := List.mem_filterMap.mp h
  rcases List.mem_cons.mp hmem with rfl | hmem
  · simp only [Activity.offer?] at ho
    split_ifs at ho
    exact (Option.some.inj ho).symm
  · have hrest : frame ∈ offersIn rest := List.mem_filterMap.mpr ⟨activity, hmem, ho⟩
    rw [hr] at hrest
    exact absurd hrest List.not_mem_nil

theorem acceptedIn_deliver {r : Request} {n : SequenceNumber} (h : r.sequence = some n)
    (frame : Frame) (answer : Option Answer) (action : Action) :
    acceptedIn [.offered frame none, .requested r answer, .performed action] = [(r, answer)] := by
  have ha : (Activity.requested r answer).acceptance? = some (r, answer) := by
    simp [Activity.acceptance?, h]
  rw [acceptedIn, List.filterMap_cons_none rfl, List.filterMap_cons_some ha,
    List.filterMap_cons_none rfl, List.filterMap_nil]

/-- Whether an event asks for a retry: the peer or the clock misses an acknowledgement. -/
def Event.isRetry : Event → Bool
  | nack _ _ | ackTimeout => true
  | connect _ | disconnect _ | ack _ _ | data _ _ | idleTimeout | answerReady | userDisconnect =>
    false

namespace Dialogue

open Endpoint

/-- An event that calls for the outstanding answer once more, and the frame of that answer. -/
def Recalls (d : Dialogue) (event : Event) (frame : Frame) : Prop :=
  d.react event = ⟨.openWait, .repeatAnswer⟩ ∧ d.answers.outstandingFrame? = some frame

/-- The peer acknowledges the outstanding answer. -/
def Acknowledges (d : Dialogue) (event? : Option Event) : Prop :=
  d.connection.state = .openWait ∧
    ∃ p, d.connection.peer? = some p ∧ event? = some (.ack p d.connection.sendSequence)

inductive Effect (own : DeviceAddress) (now : Instant) (d : Dialogue) :
    Option Event → List Activity → Dialogue → Prop
  /-- Nothing but the idle timer changes; no connected data has left. -/
  | calm {event? journal timer} : ¬ d.Acknowledges event? →
      acceptedIn journal = [] → transmissionsIn journal = [] →
      (∀ frame ∈ offersIn journal,
        event? = some .answerReady ∨ ∃ event, event? = some event ∧ d.Recalls event frame) →
      (timer = d.connection.idleTimer ∨ d.connection.isOpen = true ∧ timer.isRunning = true) →
      Effect own now d event? journal ⟨{ d.connection with idleTimer := timer }, d.answers⟩
  | connect {p} : d.connection.state = .closed →
      Effect own now d (some (.connect p)) [.performed (.connect p)]
        ⟨d.connection.connectTo p now, {}⟩
  | deliver {p r answer frame} : d.connection.state = .openIdle → d.connection.peer? = some p →
      d.answers.hasRoom = true → r.source = p → r.sequence = some d.connection.receiveSequence →
      controlFrame own p (.ack d.connection.receiveSequence) = .ok frame →
      Effect own now d (some (.data p d.connection.receiveSequence))
        [.offered frame none, .requested r answer,
          .performed (.deliver d.connection.receiveSequence)]
        ⟨d.connection.acceptRequest d.connection.receiveSequence now, d.answers.add r answer⟩
  | close {event? journal} : ¬ d.Acknowledges event? → d.connection.isOpen = true →
      acceptedIn journal = [] → offersIn journal = [] →
      Effect own now d event? journal ⟨d.connection.close, {}⟩
  | sendAnswer {entry rest frame} : d.connection.state = .openIdle →
      d.answers.entries = entry :: rest → d.primaryFrame own entry = .ok frame →
      Effect own now d (some .answerReady) [.offered frame none, .performed .sendAnswer]
        ⟨{ d.connection.awaitAck now with state := .openWait },
          ⟨entry.sentAs frame :: rest⟩⟩
  | dropAnswer {entry rest fault} : d.connection.state = .openIdle →
      d.answers.entries = entry :: rest → d.primaryFrame own entry = .error fault →
      Effect own now d (some .answerReady) [] ⟨d.connection, ⟨rest⟩⟩
  | finishAnswer {p} : d.connection.state = .openWait → d.connection.peer? = some p →
      Effect own now d (some (.ack p d.connection.sendSequence)) [.performed .finishAnswer]
        ⟨{ d.connection.acknowledged now with state := .openIdle }, d.answers.dropPrimary⟩
  | repeatAnswer {event frame} : d.Recalls event frame → d.connection.state = .openWait →
      d.connection.mayRepeat = true →
      Effect own now d (some event) [.offered frame none, .performed .repeatAnswer]
        ⟨d.connection.repeated now, d.answers⟩

variable {own : DeviceAddress} {now : Instant} {d d' : Dialogue} {event : Event}
  {journal : List Activity} {p : DeviceAddress}

theorem offersIn_cons_control {destination : DeviceAddress} {field : ControlField} {frame : Frame}
    (refusal : Option LinkFault) (hf : field.isControl = true)
    (h : controlFrame own destination field = .ok frame) (rest : List Activity) :
    offersIn (.offered frame refusal :: rest) = offersIn rest := by
  simp [offersIn, Activity.offer?, numberOf?_controlFrame hf h]

theorem transmissionsIn_deliver {n : SequenceNumber} {frame : Frame}
    (h : controlFrame own p (.ack n) = .ok frame) (r : Request) (answer : Option Answer)
    (action : Action) :
    transmissionsIn [.offered frame none, .requested r answer, .performed action] = [] :=
  transmissionsIn_eq_nil (offersIn_cons_control none rfl h _)

/-- A step that neither changes more than the idle timer nor offers connected data. -/
theorem effect_of_calm {event? : Option Event} {timer : Timer} (hn : ¬ d.Acknowledges event?)
    (ha : acceptedIn journal = []) (ho : offersIn journal = [])
    (ht : timer = d.connection.idleTimer ∨ d.connection.isOpen = true ∧ timer.isRunning = true) :
    Effect own now d event? journal ⟨{ d.connection with idleTimer := timer }, d.answers⟩ := by
  refine .calm hn ha (transmissionsIn_eq_nil ho) ?_ ht
  rw [ho]
  exact nofun

theorem effect_of_quiet (h : Quiet own journal) : Effect own now d none journal d := by
  have ha : acceptedIn journal = [] := by
    cases h with
    | direct hr => simp [acceptedIn, Activity.acceptance?, hr]
    | reply hr => simp [acceptedIn, Activity.acceptance?, hr]
    | _ => rfl
  have ho : offersIn journal = [] := by
    cases h with
    | reply hr hf => simp [offersIn, Activity.offer?, numberOf?_unnumbered hf]
    | _ => rfl
  exact effect_of_calm (fun h => by obtain ⟨-, p, -, h⟩ := h; cases h) ha ho (.inl rfl)

theorem offersIn_of_told {rest : List Activity} (h : Told own p rest) : offersIn rest = [] := by
  cases h with
  | sent hf => exact offersIn_cons_control none rfl hf _
  | refused hf => exact offersIn_cons_control _ rfl hf []
  | blocked => rfl

theorem acceptedIn_of_told {rest : List Activity} (h : Told own p rest) : acceptedIn rest = [] := by
  cases h <;> rfl

theorem offers_of_needs {frame : Frame} {fault : LinkFault} (h : Needs own d event frame) :
    ∀ frame' ∈ offersIn [.offered frame (some fault)],
      some event = some .answerReady ∨ ∃ event', some event = some event' ∧
        d.Recalls event' frame' := by
  intro frame' hmem
  cases h with
  | control _ hreply hframe =>
    rw [offersIn_cons_control _ hreply.isControl hframe] at hmem
    exact absurd hmem List.not_mem_nil
  | answer => exact .inl rfl
  | repetition hr hframe =>
    obtain rfl := eq_of_mem_offersIn rfl hmem
    exact .inr ⟨_, rfl, hr, hframe⟩

theorem Move.finishes (h : Move own now d (.ack p d.connection.sendSequence) journal d')
    (hs : d.connection.state = .openWait) (hp : d.connection.peer? = some p) :
    journal = [.performed .finishAnswer] ∧
      d' = ⟨{ d.connection.acknowledged now with state := .openIdle },
        d.answers.dropPrimary⟩ := by
  have ha : (d.react (.ack p d.connection.sendSequence)).action = .finishAnswer := by
    have hpeer := (d.connection.isPeer_iff p).mpr hp
    have hfits := Connection.fits_iff.mpr (Eq.refl d.connection.sendSequence)
    simp only [react, Connection.react, hs, hpeer, hfits, and_self, if_true]
  cases h with
  | finishAnswer => exact ⟨rfl, rfl⟩
  | ignore h | closeAndTell h | repeatAnswer h | lost h => rw [h] at ha; cases ha
  | halted h => rw [ha] at h; cases h
  | refused h =>
    cases h with
    | control h => rw [ha] at h; cases h
    | repetition h => rw [h] at ha; cases ha

theorem Move.effect (h : Move own now d event journal d') :
    Effect own now d (some event) journal d' := by
  by_cases hn : d.Acknowledges (some event)
  · obtain ⟨hs, p, hp, he⟩ := hn
    cases he
    obtain ⟨rfl, rfl⟩ := h.finishes hs hp
    exact .finishAnswer hs hp
  cases h with
  | ignore => exact effect_of_calm hn rfl rfl (.inl rfl)
  | connect hs => exact .connect hs
  | deliver hs hp hroom hsource hsequence hf => exact .deliver hs hp hroom hsource hsequence hf
  | ackAgain hp _ hf =>
    exact effect_of_calm hn rfl (offersIn_cons_control none rfl hf _)
      (.inr ⟨Connection.isOpen_of_peer? hp, rfl⟩)
  | refuse _ _ _ hf =>
    exact effect_of_calm hn rfl (offersIn_cons_control none rfl hf _) (.inl rfl)
  | closeSilently hp => exact .close hn (Connection.isOpen_of_peer? hp) rfl rfl
  | closeAndTell _ hp ht =>
    have ha := acceptedIn_of_told ht
    have ho := offersIn_of_told ht
    exact .close hn (Connection.isOpen_of_peer? hp) ha ho
  | sendAnswer hs hq hf => exact .sendAnswer hs hq hf
  | dropAnswer hs hq hf => exact .dropAnswer hs hq hf
  | finishAnswer hs hp => exact .finishAnswer hs hp
  | repeatAnswer hr hs hm hf => exact .repeatAnswer ⟨hr, hf⟩ hs hm
  | reject _ _ hf =>
    exact effect_of_calm hn rfl (offersIn_cons_control none rfl hf _) (.inl rfl)
  | refused hneeds => exact .calm hn rfl rfl (offers_of_needs hneeds) (.inl rfl)
  | halted => exact effect_of_calm hn rfl rfl (.inl rfl)
  | lost => exact effect_of_calm hn rfl rfl (.inl rfl)

theorem Step.effect {event? : Option Event} (h : Step own now d event? journal d') :
    Effect own now d event? journal d' := by
  cases h with
  | quiet h => exact effect_of_quiet h
  | move h => exact h.effect

theorem Move.gives_up (h : Move own now d event journal d') (he : event.isRetry = true)
    (hr : d.react event = ⟨.closed, .closeAndTell⟩) (hp : d.connection.peer? = some p) :
    d'.connection.state = .closed ∧ offersIn journal = [] := by
  have ha : (d.react event).action = .closeAndTell := by rw [hr]
  cases h with
  | closeAndTell _ _ ht => exact ⟨rfl, (offersIn_of_told ht :)⟩
  | ignore h | repeatAnswer h => rw [h] at ha; cases ha
  | halted h => rw [ha] at h; cases h
  | refused h =>
    cases h with
    | control h => rw [ha] at h; cases h
    | repetition h => rw [h] at ha; cases ha
    | answer => cases he
  | lost _ h => rw [hp] at h; cases h
  | _ => cases he

theorem Recalls.cause {frame : Frame} (h : d.Recalls event frame) :
    d.connection.state = .openWait ∧ (event = .ackTimeout ∨
      ∃ p, d.connection.peer? = some p ∧ event = .nack p d.connection.sendSequence) := by
  have hd := Connection.react_decides d.connection d.answers.hasRoom event
  have ha : (d.connection.react d.answers.hasRoom event).action = .repeatAnswer :=
    congrArg Decision.action h.1
  generalize d.connection.react d.answers.hasRoom event = decision at hd ha
  cases hd with
  | retryNacked hs hp => exact ⟨hs, .inr ⟨_, hp, rfl⟩⟩
  | retryLate hs => exact ⟨hs, .inl rfl⟩
  | _ => cases ha

theorem Recalls.isRetry {frame : Frame} (h : d.Recalls event frame) : event.isRetry = true := by
  obtain ⟨-, rfl | ⟨p, -, rfl⟩⟩ := h.cause
  · rfl
  · rfl

end Dialogue

namespace Occasion

variable {L A : Type} [Link L] [Application A]

def offers (o : Occasion L A) : List Frame := offersIn o.journal

def transmissions (o : Occasion L A) : List Frame := transmissionsIn o.journal

def accepted (o : Occasion L A) : List (Request × Option Answer) := acceptedIn o.journal

end Occasion

end BusTransport
