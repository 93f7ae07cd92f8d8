import BusTransport.Device.Run
import BusTransport.Proofs.Device.Serving

/-! # The loop of a device

Frames arrive, ticks fall due, runs begin and end, the user disconnects between two runs, and those
at the other ends go away, in any order. A run takes the frames one at a time in the order of their
arrival and is done with each of them before it goes on, whether or not handling it has failed. A
disconnect is over after one try.
-/

namespace BusTransport

/-- A device, whether it runs, and whether those who could send it frames are gone. -/
structure Loop (A : Type) where
  device : Device A
  running : Bool := false
  sealed : Bool := false

namespace Loop

inductive Step where
  | arrive (frame : Frame)
  /-- The last of those who could send frames to the device goes away. -/
  | seal
  /-- The receiver of sent frames goes away. -/
  | detach
  | wait (now : Instant)
  | start
  /-- The run is stopped from outside. -/
  | stop
  /-- The run ends for want of frames. -/
  | finish
  | take
  | tick
  | hangUp
  deriving DecidableEq, Repr

variable {A : Type}

/-- Whether a step can happen. A run takes a frame only while the receive buffer is empty. -/
def allows (s : Loop A) : Step → Bool
  | .arrive _ => !s.sealed
  | .seal | .detach | .wait _ => true
  | .start | .hangUp => !s.running
  | .stop | .tick => s.running
  | .take => s.running && !s.device.endpoint.link.isFull && !s.device.inbound.isEmpty
  | .finish => s.running && !s.device.endpoint.link.isFull && s.device.inbound.isEmpty && s.sealed

/-- A frame that was handed to the endpoint, and how the turn with it has ended. -/
structure Handling where
  frame : Frame
  result : Except Fault Disposition

variable [Application A]

def after (s : Loop A) : Step → Loop A
  | .arrive frame => { s with device := s.device.arrive frame }
  | .seal => { s with sealed := true }
  | .detach => { s with device := s.device.detach }
  | .wait now => { s with device := s.device.atInstant now }
  | .start => { s with running := true }
  | .stop | .finish => { s with running := false }
  | .take => { s with device := s.device.take.2 }
  | .tick => { s with device := s.device.tick.2 }
  | .hangUp => { s with device := s.device.hangUp.2.2 }

def served (e : Endpoint MailboxLink A) (now : Instant) : List Handling :=
  e.link.buffer.toList.map fun frame => ⟨frame, (e.receive frame now).result⟩

def arrived : Step → List Frame
  | .arrive frame => [frame]
  | _ => []

def taken (s : Loop A) : Step → List Frame
  | .take => s.device.inbound.head?.toList
  | _ => []

/-- Why a frame that a step takes cannot be delivered, if it cannot. -/
def refused (s : Loop A) (step : Step) : List BusyFault :=
  (s.taken step).filterMap fun frame => match s.device.endpoint.link.deliver frame with
    | .error fault => some fault
    | .ok _ => none

/-- What a step hands to the endpoint: the frame it takes, once that is delivered, or the one that a
tick finds in the receive buffer. -/
def handled (s : Loop A) : Step → List Handling
  | .take => (s.taken .take).flatMap fun frame => match s.device.endpoint.link.deliver frame with
    | .error _ => []
    | .ok link => served { s.device.endpoint with link } s.device.clock
  | .tick => served s.device.endpoint s.device.clock
  | _ => []

structure Moment (A : Type) where
  before : Loop A
  step : Step

inductive Runs (s₀ : Loop A) : List (Moment A) → Loop A → Prop
  | start : Runs s₀ [] s₀
  | step {ms s} (step : Step) : Runs s₀ ms s → s.allows step = true →
      Runs s₀ (ms ++ [⟨s, step⟩]) (s.after step)

def arrivedIn (ms : List (Moment A)) : List Frame := ms.flatMap fun m => arrived m.step

def takenIn (ms : List (Moment A)) : List Frame := ms.flatMap fun m => m.before.taken m.step

def refusedIn (ms : List (Moment A)) : List BusyFault := ms.flatMap fun m => m.before.refused m.step

def handledIn (ms : List (Moment A)) : List Handling := ms.flatMap fun m => m.before.handled m.step

variable {s s₀ s' : Loop A} {ms ms' : List (Moment A)} {frame : Frame} {rest : List Frame}

theorem atRest_after (h : s.device.AtRest) (step : Step) : (s.after step).device.AtRest := by
  cases step with
  | detach => exact h.detach
  | take => exact h.take
  | tick => exact h.tick
  | hangUp => exact h.hangUp
  | _ => exact ⟨h.reachable, h.buffer_eq⟩

/-- What becomes of the frames in a step: the channel keeps their order, and the frame that is taken
is handled at once. -/
structure Conserves (s : Loop A) (step : Step) : Prop where
  inbound_eq : s.device.inbound ++ arrived step = s.taken step ++ (s.after step).device.inbound
  refused_eq : s.refused step = []
  handled_eq : (s.handled step).map Handling.frame = s.taken step
  settled : ∀ handling ∈ s.handled step, handling.result ≠ .ok .deferred

omit [Application A] in
theorem taken_of_cons (hin : s.device.inbound = frame :: rest) : s.taken .take = [frame] := by
  rw [taken, hin]
  rfl

/-- The frame that is taken is the one that is handled. -/
theorem handled_of_cons (h : s.device.AtRest) (hin : s.device.inbound = frame :: rest) :
    s.handled .take = [⟨frame,
      ((s.device.endpoint.given frame).receive frame s.device.clock).result⟩] := by
  rw [handled, taken_of_cons hin, List.flatMap_singleton]
  simp only [Endpoint.deliver_of_empty h.buffer_eq]
  rfl

theorem conserves_take (h : s.device.AtRest) : s.Conserves .take := by
  rcases hin : s.device.inbound with _ | ⟨frame, rest⟩
  · have htake : s.device.take = ([], s.device) := by rw [Device.take, hin]
    constructor
    · simp [arrived, taken, after, htake, hin]
    · simp [refused, taken, hin]
    · simp [handled, taken, hin]
    · simp [handled, taken, hin]
  · have htaken := taken_of_cons hin
    have hhandled := handled_of_cons h hin
    constructor
    · rw [htaken, after, h.take_eq hin, hin]
      exact List.append_nil _
    · rw [refused, htaken]
      simp [Endpoint.deliver_of_empty h.buffer_eq]
    · rw [hhandled, htaken]
      rfl
    · rw [hhandled, List.forall_mem_singleton]
      exact (h.reachable.given frame).defers_nothing frame s.device.clock

theorem conserves (h : s.device.AtRest) (step : Step) : s.Conserves step := by
  cases step with
  | take => exact conserves_take h
  | tick =>
    have hserved : served s.device.endpoint s.device.clock = [] := by
      rw [served, h.buffer_eq]
      rfl
    constructor
    · simp [arrived, taken, after, h.tick_eq]
    · rfl
    · simp [handled, taken, hserved]
    · simp [handled, hserved]
  | hangUp => exact ⟨by simp [arrived, taken, after, h.hangUp_eq], rfl, rfl, nofun⟩
  | arrive frame => exact ⟨rfl, rfl, rfl, nofun⟩
  | _ => exact ⟨List.append_nil _, rfl, rfl, nofun⟩

theorem Runs.append (h : Runs s₀ ms s) (h' : Runs s ms' s') : Runs s₀ (ms ++ ms') s' := by
  induction h' with
  | start => rwa [List.append_nil]
  | step step _ hallows ih =>
    rw [← List.append_assoc]
    exact .step step ih hallows

theorem Runs.atRest (h : Runs s₀ ms s) (h₀ : s₀.device.AtRest) : s.device.AtRest := by
  induction h with
  | start => exact h₀
  | step step _ _ ih => exact atRest_after ih step

/-- The frames that arrive are taken in the order of their arrival, or still wait; those that were
taken were handled, all of them, in the same order and once. -/
structure Lossless (s₀ : Loop A) (ms : List (Moment A)) (s : Loop A) : Prop where
  arrived_eq : s₀.device.inbound ++ arrivedIn ms = takenIn ms ++ s.device.inbound
  refused_eq : refusedIn ms = []
  handled_eq : (handledIn ms).map Handling.frame = takenIn ms
  settled : ∀ handling ∈ handledIn ms, handling.result ≠ .ok .deferred

theorem Runs.lossless (h : Runs s₀ ms s) (h₀ : s₀.device.AtRest) : Lossless s₀ ms s := by
  induction h with
  | start => exact ⟨List.append_nil _, rfl, rfl, nofun⟩
  | @step ms s step h _ ih =>
    obtain ⟨harrived, hrefused, hhandled, hsettled⟩ := conserves (h.atRest h₀) step
    let m : Moment A := ⟨s, step⟩
    have hlast {β : Type} (f : Moment A → List β) :
        (ms ++ [m]).flatMap f = ms.flatMap f ++ f m := by
      rw [List.flatMap_append, List.flatMap_singleton]
    have harrivedIn : arrivedIn (ms ++ [m]) = arrivedIn ms ++ arrived step := hlast _
    have htakenIn : takenIn (ms ++ [m]) = takenIn ms ++ s.taken step := hlast _
    have hrefusedIn : refusedIn (ms ++ [m]) = refusedIn ms ++ s.refused step := hlast _
    have hhandledIn : handledIn (ms ++ [m]) = handledIn ms ++ s.handled step := hlast _
    constructor
    · calc s₀.device.inbound ++ arrivedIn (ms ++ [m])
        _ = takenIn ms ++ (s.device.inbound ++ arrived step) := by
          rw [harrivedIn, ← List.append_assoc, ih.arrived_eq, List.append_assoc]
        _ = takenIn (ms ++ [m]) ++ (s.after step).device.inbound := by
          rw [harrived, htakenIn, List.append_assoc]
    · rw [hrefusedIn, ih.refused_eq, hrefused, List.append_nil]
    · rw [hhandledIn, List.map_append, ih.handled_eq, hhandled, htakenIn]
    · intro handling hmem
      rw [hhandledIn, List.mem_append] at hmem
      exact hmem.elim (ih.settled handling) (hsettled handling)

/-- How the loop is found between any two steps: a frame that waits can be taken and is then
handled, and a tick has nothing to do but to poll. -/
structure Unblocked (s : Loop A) : Prop where
  buffer_eq : s.device.endpoint.link.buffer = none
  delivers : ∀ frame, s.device.endpoint.link.deliver frame =
    .ok (s.device.endpoint.given frame).link
  settles : ∀ frame now, (s.device.endpoint.receive frame now).result ≠ .ok .deferred
  takes : ∀ {frame rest}, s.running = true → s.device.inbound = frame :: rest →
    s.allows .take = true ∧ s.device.take =
      let r := (s.device.endpoint.given frame).receive frame s.device.clock
      (s.device.date r.journal, { s.device with inbound := rest, endpoint := r.endpoint.release })
  ticks : s.device.tick =
    let r := s.device.endpoint.poll s.device.clock
    (s.device.date r.journal, { s.device with endpoint := r.endpoint })

theorem unblocked (h : s.device.AtRest) : s.Unblocked where
  buffer_eq := h.buffer_eq
  delivers := Endpoint.deliver_of_empty h.buffer_eq
  settles := h.reachable.defers_nothing
  takes hrunning hin := by
    refine ⟨?_, h.take_eq hin⟩
    simp [allows, hrunning, hin, MailboxLink.isFull, h.buffer_eq]
  ticks := h.tick_eq

/-- The loop after steps that follow each other. -/
def afterAll (s : Loop A) (steps : List Step) : Loop A := steps.foldl after s

def moments (s : Loop A) : List Step → List (Moment A)
  | [] => []
  | step :: steps => ⟨s, step⟩ :: (s.after step).moments steps

theorem runs_moments {steps : List Step}
    (h : ∀ m ∈ s.moments steps, m.before.allows m.step = true) :
    Runs s (s.moments steps) (s.afterAll steps) := by
  induction steps generalizing s with
  | nil => exact .start
  | cons step steps ih =>
    obtain ⟨hfirst, hrest⟩ := List.forall_mem_cons.mp h
    exact (Runs.step step .start hfirst).append (ih hrest)

end Loop

def Stimulus.frames : Stimulus → List Frame
  | .arrival frame => [frame]
  | .tick => []

namespace Loop

variable {A : Type} [Application A] {s : Loop A}

/-- What a run undergoes are steps of its loop: a frame that arrives is taken at once. -/
theorem exists_runs_stimulate (h : s.device.AtRest) (hrunning : s.running = true)
    (hopen : s.sealed = false) (hnil : s.device.inbound = []) (now : Instant)
    (stimulus : Stimulus) : ∃ ms,
      Runs s ms { s with device := ((s.device.atInstant now).stimulate stimulus).2 } ∧
      arrivedIn ms = stimulus.frames ∧ takenIn ms = stimulus.frames := by
  cases stimulus with
  | arrival frame =>
    refine ⟨s.moments [.wait now, .arrive frame, .take], runs_moments ?_, rfl, ?_⟩
    · simp [moments, allows, after, Device.arrive, Device.atInstant, hrunning, hopen,
        MailboxLink.isFull, h.buffer_eq]
    · simp [takenIn, moments, taken, after, Device.arrive, Device.atInstant, hnil, Stimulus.frames]
  | tick =>
    refine ⟨s.moments [.wait now, .tick], runs_moments ?_, rfl, rfl⟩
    simp [moments, allows, after, hrunning]

theorem Runs.inbound_eq_nil {s₀ : Loop A} {ms : List (Moment A)} (h : Runs s₀ ms s)
    (h₀ : s₀.device.AtRest) (hnil : s₀.device.inbound = []) (heq : arrivedIn ms = takenIn ms) :
    s.device.inbound = [] := by
  have harrived := (h.lossless h₀).arrived_eq
  rw [hnil, List.nil_append, heq] at harrived
  exact List.append_right_eq_self.mp harrived.symm

theorem exists_runs_undergo (h : s.device.AtRest) (hrunning : s.running = true)
    (hopen : s.sealed = false) (hnil : s.device.inbound = []) (start : Instant)
    (stimuli : List (Duration × Stimulus)) : ∃ ms,
      Runs s ms { s with device := (Device.undergo start stimuli s.device).2 } ∧
      arrivedIn ms = stimuli.flatMap (·.2.frames) ∧ takenIn ms = arrivedIn ms := by
  induction stimuli generalizing s with
  | nil => exact ⟨[], .start, rfl, rfl⟩
  | cons first stimuli ih =>
    obtain ⟨after, stimulus⟩ := first
    obtain ⟨ms, hruns, harrived, htaken⟩ := exists_runs_stimulate h hrunning hopen hnil
      (start + after.nanoseconds) stimulus
    have hrest := hruns.atRest h
    have hnil' := hruns.inbound_eq_nil h hnil (harrived.trans htaken.symm)
    obtain ⟨ms', hruns', harrived', htaken'⟩ := ih hrest hrunning hopen hnil'
    refine ⟨ms ++ ms', hruns.append hruns', ?_, ?_⟩
    · rw [arrivedIn, List.flatMap_append, List.flatMap_cons]
      exact congrArg₂ _ harrived harrived'
    · rw [takenIn, arrivedIn, List.flatMap_append, List.flatMap_append]
      exact congrArg₂ _ (htaken.trans harrived.symm) htaken'

theorem flatMap_merge {α β : Type} {f : α → List β} (le : α → α → Bool) (xs ys : List α)
    (hys : ∀ y ∈ ys, f y = []) : (xs.merge ys le).flatMap f = xs.flatMap f := by
  fun_induction List.merge xs ys le with
  | case1 ys => exact List.flatMap_eq_nil_iff.mpr hys
  | case2 xs => rfl
  | case3 x xs y ys hle ih => rw [List.flatMap_cons, List.flatMap_cons, ih hys]
  | case4 x xs y ys hle ih =>
    rw [List.flatMap_cons, hys y List.mem_cons_self, List.nil_append]
    exact ih fun y hmem => hys y (List.mem_cons_of_mem _ hmem)

theorem frames_timeline (arrivals : List Arrival) (pollInterval length : Duration) :
    (Device.timeline arrivals pollInterval length).flatMap (·.2.frames) =
      arrivals.map Arrival.frame := by
  unfold Device.timeline
  rw [flatMap_merge]
  · exact (List.flatMap_map ..).trans (List.map_eq_flatMap ..).symm
  · intro tick hmem
    obtain ⟨n, -, rfl⟩ := List.mem_map.mp hmem
    rfl

/-- A run of a device at rest is a run of its loop, in which every frame that arrives is handled
before the next one. -/
theorem exists_runs_run {d : Device A} (h : d.AtRest) (hnil : d.inbound = [])
    (arrivals : List Arrival) (length : Duration) : ∃ ms,
      Runs { device := d } ms { device := (d.run arrivals length).2 } ∧
      (handledIn ms).map Handling.frame = arrivals.map Arrival.frame ∧
      (d.run arrivals length).2.inbound = [] := by
  let s : Loop A := { device := d, running := true }
  have hstart : Runs { device := d } _ s := .step .start .start rfl
  obtain ⟨ms, hruns, harrived, htaken⟩ : ∃ ms, Runs s ms _ ∧ _ :=
    exists_runs_undergo h rfl rfl hnil d.clock (Device.timeline arrivals d.pollInterval length)
  have hwait := hruns.step (.wait (d.clock + length.nanoseconds)) rfl
  have hall := hstart.append (hwait.step .stop rfl)
  have hframes : takenIn ms = arrivals.map Arrival.frame := by
    rw [htaken, harrived, frames_timeline]
  refine ⟨_, hall, ?_, hall.inbound_eq_nil h hnil ?_⟩
  · rw [(hall.lossless h).handled_eq, ← hframes]
    simp [takenIn, taken]
  · simpa [takenIn, arrivedIn, taken, arrived] using htaken.symm

end Loop

open Loop in
/-- The loop of a device loses no frame and never blocks. A run takes the frames in the order of
their arrival and is done with each of them at once, whatever handling it leads to, and a disconnect
is over after one try. -/
theorem lossless_of_runs {A : Type} [Application A] {profile : DeviceProfile} {application : A}
    {device : Device A} {ms : List (Moment A)} {s : Loop A}
    (hc : Device.create profile application = .ok device) (h : Runs { device } ms s) :
    s.Unblocked ∧ arrivedIn ms = takenIn ms ++ s.device.inbound ∧ refusedIn ms = [] ∧
      (handledIn ms).map Handling.frame = takenIn ms ∧
      (∀ handling ∈ handledIn ms, handling.result ≠ .ok .deferred) ∧ s.device.HangsUp := by
  obtain ⟨hrest, hnil⟩ := Device.atRest_of_create hc
  obtain ⟨harrived, hrefused, hhandled, hsettled⟩ := h.lossless hrest
  rw [show ({ device } : Loop A).device.inbound = [] from hnil] at harrived
  have hrest' := h.atRest hrest
  exact ⟨unblocked hrest', harrived, hrefused, hhandled, hsettled, hrest'.hangsUp⟩

namespace Sample

def station : Device Responder where
  endpoint := {
    link := { address := host.link.address }
    application := .echo 0x40
    profile := {}
    connection := .ofProfile {} }
  pollInterval := .ofMilliseconds 5

/-- The guest connects and sends a request, and the receiver of the frames of the host goes away
before the request is taken. -/
def outage : List Loop.Step := [
  .start, .tick, .arrive (control .connect), .arrive (request 0), .take, .wait 1, .detach, .take,
  .tick, .seal, .finish]

end Sample

open Sample Loop in
theorem lossless_outage : ∃ ms s result fault,
    Device.create { address := host.link.address } (.echo 0x40) = .ok station ∧
    Runs { device := station } ms s ∧
    handledIn ms = [⟨Sample.control .connect, .ok .consumed⟩, ⟨request 0, result⟩] ∧
    result = .error (.link fault) ∧ takenIn ms = [Sample.control .connect, request 0] ∧
    s.device.endpoint.connection.state = .openIdle ∧
    s.device.hangUp.1 = .error (.link fault) ∧
    s.device.hangUp.2.2.endpoint.connection.state = .closed := by
  have hc : Device.create { address := host.link.address } (.echo 0x40) = .ok station := rfl
  have hruns : Runs { device := station } _ (afterAll { device := station } outage) :=
    runs_moments (by decide)
  obtain ⟨-, -, -, hhandled, -, hhangsUp⟩ := lossless_of_runs hc hruns
  obtain ⟨hresult, hclosed⟩ := hhangsUp.connected rfl
  exact ⟨_, _, _, _, hc, hruns, rfl, rfl, hhandled.symm.trans rfl, rfl, hresult, hclosed⟩

end BusTransport
