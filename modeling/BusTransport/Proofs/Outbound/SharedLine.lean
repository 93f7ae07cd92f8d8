import BusTransport.Proofs.Outbound.Polling

/-! # Sharing the link

Users of a control slot hold permits for it, and others use the same link without asking the slot.
However their steps interleave, no two permits are out at once, and the slot does not forget a frame
before its transmission has ended.
-/

namespace BusTransport

open Link ControlSlot

/-- A control slot and the permits for it that were not spent yet, over a link with others on it. -/
structure SharedLine where
  slot : ControlSlot := {}
  permits : List Permit := []
  link : FaultyLink RecordingLink

inductive LineEvent where
  | acquire (limit : Nat)
  /-- A permit is spent on a frame. -/
  | transmit (frame : Frame)
  | refresh
  /-- Somebody gives the link a frame without a permit. -/
  | intrude (frame : Frame)
  | complete
  /-- From now on some transmissions fail. -/
  | disturb (failures : Nat)
  deriving DecidableEq, Repr

namespace SharedLine

/-- Nothing is transmitted without a permit. -/
def after (s : SharedLine) : LineEvent → SharedLine
  | .acquire limit =>
    match s.slot.acquire s.link limit with
    | (.ok permit, slot, link) => { slot, link, permits := permit :: s.permits }
    | (.error _, slot, link) => { s with slot, link }
  | .transmit frame =>
    match s.permits with
    | [] => s
    | permit :: permits =>
      let (_, slot, link) := ControlSlot.transmit permit s.link frame
      { slot, link, permits }
  | .refresh =>
    let (slot, link) := s.slot.refresh s.link
    { s with slot, link }
  | .intrude frame => { s with link := (Link.send s.link frame).2 }
  | .complete => { s with link := { s.link with inner := s.link.inner.complete } }
  | .disturb failures => { s with link := { s.link with failures } }

def run (s : SharedLine) (script : List LineEvent) : SharedLine := script.foldl after s

def start (own : DeviceAddress) : SharedLine where
  link := { inner := { address := own, completesAtOnce := false } }

/-- How it ends to spend a permit on the frame, if there is one. -/
def transmission? (s : SharedLine) (frame : Frame) : Option (Except LinkFault Unit) :=
  s.permits.head?.map fun permit => (ControlSlot.transmit permit s.link frame).1

/-- In the script a permit was spent on the frame, and since then no transmission has ended. -/
def InFlight (s : SharedLine) (script : List LineEvent) (frame : Frame) : Prop :=
  ∃ before later, script = before ++ .transmit frame :: later ∧
    (s.run before).transmission? frame = some (.ok ()) ∧ .complete ∉ later

/-- The link takes no notice of being read, and its transmissions have to be completed. -/
structure Manual (link : FaultyLink RecordingLink) : Prop where
  busyReadings : link.busyReadings = 0
  completesAtOnce : link.inner.completesAtOnce = false

variable {s : SharedLine} {link : FaultyLink RecordingLink}

theorem Manual.observed_eq (h : Manual link) : observed link = link := if_pos h.busyReadings

theorem Manual.sending_eq (h : Manual link) : sending link = link.inner.sending := by
  change (decide (link.busyReadings ≠ 0) || link.inner.sending) = _
  simp [h.busyReadings]

theorem Manual.send_cases (h : Manual link) (frame : Frame) :
    (∃ link', Link.send link frame = (.ok (), link') ∧ Manual link' ∧ sending link' = true) ∨
    (∃ fault link', Link.send link frame = (.error fault, link') ∧ Manual link' ∧
      sending link' = sending link) := by
  change (∃ link', link.send frame = (.ok (), link') ∧ _) ∨
    (∃ fault link', link.send frame = (.error fault, link') ∧ _)
  by_cases hfailures : link.failures = 0
  · rcases hs : link.inner.sending with _ | _
    · left
      refine ⟨{ link with inner := { link.inner with
        sent := link.inner.sent ++ [frame], sending := true } }, ?_,
        ⟨h.busyReadings, h.completesAtOnce⟩, ?_⟩
      · rw [FaultyLink.send, if_pos hfailures]
        simp [Link.send, RecordingLink.send, hs, h.completesAtOnce]
      · exact Manual.sending_eq ⟨h.busyReadings, h.completesAtOnce⟩
    · right
      refine ⟨.transmitting, link, ?_, h, rfl⟩
      rw [FaultyLink.send, if_pos hfailures]
      simp [Link.send, RecordingLink.send, hs]
  · right
    have hmanual : Manual { link with failures := link.failures - 1 } :=
      ⟨h.busyReadings, h.completesAtOnce⟩
    refine ⟨_, _, if_neg hfailures, hmanual, hmanual.sending_eq.trans h.sending_eq.symm⟩

inductive Step (s : SharedLine) : LineEvent → SharedLine → Prop
  | granted {limit permit} : s.slot.Succeeds s.link limit → s.slot.state ≠ .acquired →
      sending s.link = false →
      Step s (.acquire limit) { s with slot := ⟨.acquired⟩, permits := permit :: s.permits }
  | denied {limit} : ¬ s.slot.Succeeds s.link limit → Step s (.acquire limit) s
  | unpermitted {frame} : s.transmission? frame = none → Step s (.transmit frame) s
  | sent {frame : Frame} {link : FaultyLink RecordingLink} :
      s.transmission? frame = some (.ok ()) → Manual link → sending link = true →
      Step s (.transmit frame) { slot := ⟨.sending⟩, permits := s.permits.tail, link }
  | failed {frame : Frame} {fault : LinkFault} {link : FaultyLink RecordingLink} :
      s.transmission? frame = some (.error fault) → Manual link →
      Step s (.transmit frame) { slot := ⟨.free⟩, permits := s.permits.tail, link }
  | freed : s.slot.state = .sending → sending s.link = false →
      Step s .refresh { s with slot := ⟨.free⟩ }
  | kept : s.slot.state ≠ .sending ∨ sending s.link = true → Step s .refresh s
  | intruded {frame : Frame} {link : FaultyLink RecordingLink} :
      Manual link → (sending s.link = true → sending link = true) →
      Step s (.intrude frame) { s with link }
  | completed {link : FaultyLink RecordingLink} : Manual link → Step s .complete { s with link }
  | disturbed {failures : Nat} {link : FaultyLink RecordingLink} :
      Manual link → sending link = sending s.link →
      Step s (.disturb failures) { s with link }

theorem Manual.attempt_of_busy {slot : ControlSlot} (h : Manual link)
    (hbusy : slot.state = .acquired ∨ sending link = true) :
    slot.attempt link = (.error (.slot slot.state (sending link)), slot, link) := by
  obtain ⟨_ | _ | _⟩ := slot
  · have hs : sending link = true := by simpa using hbusy
    simp [attempt, refresh, isFree, hs, h.observed_eq]
  · simp [attempt, refresh, isFree, h.observed_eq]
  · have hs : sending link = true := by simpa using hbusy
    simp [attempt, refresh, isFree, hs, h.observed_eq]

theorem Manual.acquire_of_busy {slot : ControlSlot} (h : Manual link)
    (hbusy : slot.state = .acquired ∨ sending link = true) (limit : Nat) :
    slot.acquire link limit = (.error (.slot slot.state (sending link)), slot, link) := by
  unfold acquire
  induction limit - 1 with
  | zero => exact h.attempt_of_busy hbusy
  | succ retries ih => simp only [acquireWithin, h.attempt_of_busy hbusy, ih]

theorem Manual.acquire_of_free {slot : ControlSlot} (h : Manual link)
    (hfree : slot.state ≠ .acquired) (hs : sending link = false) (limit : Nat) :
    ∃ permit, slot.acquire link limit = (.ok permit, ⟨.acquired⟩, link) := by
  have hfixed (n : Nat) : observed^[n] link = link := Function.iterate_fixed h.observed_eq n
  have hsettled : SettlesAfter 0 link := by
    intro m
    rw [hfixed m, hs]
    rfl
  obtain ⟨permit, hacquire⟩ := acquireWithin_of_settled hfree hsettled (limit - 1)
  rw [hfixed] at hacquire
  exact ⟨permit, hacquire⟩

theorem step_acquire (h : Manual s.link) (limit : Nat) :
    Step s (.acquire limit) (s.after (.acquire limit)) := by
  by_cases hbusy : s.slot.state = .acquired ∨ sending s.link = true
  · have hacquire := h.acquire_of_busy hbusy limit
    have hafter : s.after (.acquire limit) = s := by
      simp only [after, hacquire]
    rw [hafter]
    exact .denied (by simp [Succeeds, hacquire])
  · obtain ⟨hfree, hs⟩ := not_or.mp hbusy
    rw [Bool.not_eq_true] at hs
    obtain ⟨permit, hacquire⟩ := h.acquire_of_free hfree hs limit
    have hafter : s.after (.acquire limit) =
        { s with slot := ⟨.acquired⟩, permits := permit :: s.permits } := by
      simp only [after, hacquire]
    rw [hafter]
    exact .granted ⟨permit, by rw [hacquire]⟩ hfree hs

theorem step_transmit (h : Manual s.link) (frame : Frame) :
    Step s (.transmit frame) (s.after (.transmit frame)) := by
  obtain ⟨slot, permits, link⟩ := s
  cases permits with
  | nil => exact .unpermitted rfl
  | cons permit permits =>
    rcases h.send_cases frame with ⟨link', hsend, hmanual, hs⟩ | ⟨fault, link', hsend, hmanual, hs⟩
    · have htransmit : ControlSlot.transmit permit link frame = (.ok (), ⟨.sending⟩, link') := by
        simp only [ControlSlot.transmit, hsend]
      have hafter : after ⟨slot, permit :: permits, link⟩ (.transmit frame) =
          ⟨⟨.sending⟩, permits, link'⟩ := by
        simp only [after, htransmit]
      have hresult : transmission? ⟨slot, permit :: permits, link⟩ frame = some (.ok ()) := by
        simp [transmission?, htransmit]
      rw [hafter]
      exact .sent hresult hmanual hs
    · have htransmit : ControlSlot.transmit permit link frame = (.error fault, ⟨.free⟩, link') := by
        simp only [ControlSlot.transmit, hsend]
      have hafter : after ⟨slot, permit :: permits, link⟩ (.transmit frame) =
          ⟨⟨.free⟩, permits, link'⟩ := by
        simp only [after, htransmit]
      have hresult : transmission? ⟨slot, permit :: permits, link⟩ frame = some (.error fault) := by
        simp [transmission?, htransmit]
      rw [hafter]
      exact .failed hresult hmanual

theorem step_refresh (h : Manual s.link) : Step s .refresh (s.after .refresh) := by
  by_cases hstate : s.slot.state = .sending
  · rcases hs : sending s.link with _ | _
    · have hafter : s.after .refresh = { s with slot := ⟨.free⟩ } := by
        simp [after, refresh, hstate, hs, h.observed_eq]
      rw [hafter]
      exact .freed hstate hs
    · have hafter : s.after .refresh = s := by
        simp [after, refresh, hstate, hs, h.observed_eq]
      rw [hafter]
      exact .kept (.inr hs)
  · have hafter : s.after .refresh = s := by
      simp [after, refresh, hstate]
    rw [hafter]
    exact .kept (.inl hstate)

theorem step_intrude (h : Manual s.link) (frame : Frame) :
    Step s (.intrude frame) (s.after (.intrude frame)) := by
  rcases h.send_cases frame with ⟨link', hsend, hmanual, hs⟩ | ⟨fault, link', hsend, hmanual, hs⟩
  · simp only [after, hsend]
    exact .intruded hmanual fun _ => hs
  · simp only [after, hsend]
    exact .intruded hmanual fun hsending => hs.trans hsending

theorem step (h : Manual s.link) (event : LineEvent) : Step s event (s.after event) := by
  cases event with
  | acquire limit => exact step_acquire h limit
  | transmit frame => exact step_transmit h frame
  | refresh => exact step_refresh h
  | intrude frame => exact step_intrude h frame
  | complete => exact .completed ⟨h.busyReadings, h.completesAtOnce⟩
  | disturb failures =>
    have hmanual : Manual { s.link with failures } := ⟨h.busyReadings, h.completesAtOnce⟩
    exact .disturbed hmanual (hmanual.sending_eq.trans h.sending_eq.symm)

/-- A permit is out exactly while the slot is acquired. -/
structure Sound (s : SharedLine) : Prop where
  manual : Manual s.link
  balanced : s.slot.state = .acquired ∧ s.permits.length = 1 ∨
    s.slot.state ≠ .acquired ∧ s.permits = []

theorem sound_start (own : DeviceAddress) : (start own).Sound where
  manual := ⟨rfl, rfl⟩
  balanced := .inr ⟨nofun, rfl⟩

theorem Sound.permits_eq_nil (h : s.Sound) (hfree : s.slot.state ≠ .acquired) : s.permits = [] :=
  (h.balanced.resolve_left fun hacquired => hfree hacquired.1).2

theorem Sound.permits_tail (h : s.Sound) : s.permits.tail = [] := by
  obtain ⟨-, hone⟩ | ⟨-, hnone⟩ := h.balanced
  · obtain ⟨permit, hpermits⟩ := List.length_eq_one_iff.mp hone
    simp [hpermits]
  · simp [hnone]

theorem Sound.after (h : s.Sound) (event : LineEvent) : (s.after event).Sound := by
  have hstep := step h.manual event
  generalize s.after event = s' at hstep
  cases hstep with
  | granted _ hfree _ => exact ⟨h.manual, .inl ⟨rfl, by simp [h.permits_eq_nil hfree]⟩⟩
  | denied _ => exact h
  | unpermitted _ => exact h
  | sent _ hmanual _ => exact ⟨hmanual, .inr ⟨nofun, h.permits_tail⟩⟩
  | failed _ hmanual => exact ⟨hmanual, .inr ⟨nofun, h.permits_tail⟩⟩
  | freed hsending _ =>
    have hfree : s.slot.state ≠ .acquired := by simp [hsending]
    exact ⟨h.manual, .inr ⟨nofun, h.permits_eq_nil hfree⟩⟩
  | kept _ => exact h
  | intruded hmanual _ => exact ⟨hmanual, h.balanced⟩
  | completed hmanual => exact ⟨hmanual, h.balanced⟩
  | disturbed hmanual _ => exact ⟨hmanual, h.balanced⟩

theorem Sound.run (h : s.Sound) (script : List LineEvent) : (s.run script).Sound := by
  induction script generalizing s with
  | nil => exact h
  | cons event script ih => exact ih (h.after event)

structure Occupied (s : SharedLine) : Prop where
  state : s.slot.state = .sending
  sending : sending s.link = true

/-- Only its completion ends a transmission of the slot. -/
theorem Occupied.after {event : LineEvent} (h : s.Occupied) (hsound : s.Sound)
    (hne : event ≠ .complete) : (s.after event).Occupied := by
  have hfree : s.slot.state ≠ .acquired := by simp [h.state]
  have hstep := step hsound.manual event
  generalize s.after event = s' at hstep
  cases hstep with
  | granted _ _ hs => simp [h.sending] at hs
  | denied _ => exact h
  | unpermitted _ => exact h
  | sent _ _ hs => exact ⟨rfl, hs⟩
  | failed hfailed _ => simp [transmission?, hsound.permits_eq_nil hfree] at hfailed
  | freed _ hs => simp [h.sending] at hs
  | kept _ => exact h
  | intruded _ hs => exact ⟨h.state, hs h.sending⟩
  | completed _ => exact absurd rfl hne
  | disturbed _ hs => exact ⟨h.state, hs.trans h.sending⟩

theorem Occupied.run {script : List LineEvent} (h : s.Occupied) (hsound : s.Sound)
    (hnot : .complete ∉ script) : (s.run script).Occupied := by
  induction script generalizing s with
  | nil => exact h
  | cons event script ih =>
    rw [List.mem_cons, not_or] at hnot
    exact ih (h.after hsound (Ne.symm hnot.1)) (hsound.after event) hnot.2

theorem occupied_of_sent {frame : Frame} (h : s.Sound)
    (hsent : s.transmission? frame = some (.ok ())) : (s.after (.transmit frame)).Occupied := by
  have hstep := step h.manual (.transmit frame)
  generalize s.after (.transmit frame) = s' at hstep
  cases hstep with
  | unpermitted hnone => simp [hnone] at hsent
  | sent _ _ hs => exact ⟨rfl, hs⟩
  | failed hfailed _ => simp [hfailed] at hsent

theorem run_append (s : SharedLine) (script script' : List LineEvent) :
    s.run (script ++ script') = (s.run script).run script' := List.foldl_append

theorem occupied_of_inFlight {script : List LineEvent} {frame : Frame} (h : s.Sound)
    (hflight : s.InFlight script frame) : (s.run script).Occupied := by
  obtain ⟨before, later, rfl, hsent, hnot⟩ := hflight
  rw [run_append]
  have hbefore := h.run before
  exact (occupied_of_sent hbefore hsent).run (hbefore.after _) hnot

theorem Sound.acquired_iff (h : s.Sound) : s.slot.state = .acquired ↔ s.permits.length = 1 := by
  obtain ⟨hstate, hone⟩ | ⟨hstate, hnone⟩ := h.balanced
  · exact iff_of_true hstate hone
  · exact iff_of_false hstate (by simp [hnone])

theorem Sound.permits_le (h : s.Sound) : s.permits.length ≤ 1 := by
  obtain ⟨-, hone⟩ | ⟨-, hnone⟩ := h.balanced
  · omega
  · simp [hnone]

theorem Sound.granted {limit : Nat} (h : s.Sound) (hs : s.slot.Succeeds s.link limit) :
    s.permits = [] ∧ (s.after (.acquire limit)).slot.state = .acquired := by
  have hstep := step h.manual (.acquire limit)
  generalize s.after (.acquire limit) = s' at hstep
  cases hstep with
  | granted _ hfree _ => exact ⟨h.permits_eq_nil hfree, rfl⟩
  | denied hdenied => exact absurd hs hdenied

theorem Sound.denied {limit : Nat} (h : s.Sound) (hs : ¬ s.slot.Succeeds s.link limit) :
    s.after (.acquire limit) = s := by
  have hstep := step h.manual (.acquire limit)
  generalize s.after (.acquire limit) = s' at hstep
  cases hstep with
  | granted hgranted _ _ => exact absurd hgranted hs
  | denied _ => rfl

theorem Sound.failed {frame : Frame} {fault : LinkFault} (h : s.Sound)
    (hf : s.transmission? frame = some (.error fault)) :
    (s.after (.transmit frame)).slot.state = .free := by
  have hstep := step h.manual (.transmit frame)
  generalize s.after (.transmit frame) = s' at hstep
  cases hstep with
  | unpermitted hnone => simp [hnone] at hf
  | sent hsent _ _ => simp [hsent] at hf
  | failed _ _ => rfl

theorem Sound.sends {event : LineEvent} (h : s.Sound) (hstate : s.slot.state ≠ .sending)
    (hafter : (s.after event).slot.state = .sending) :
    ∃ frame, event = .transmit frame ∧ s.transmission? frame = some (.ok ()) := by
  have hstep := step h.manual event
  generalize s.after event = s' at hstep hafter
  cases hstep with
  | sent hsent _ _ => exact ⟨_, rfl, hsent⟩
  | granted | failed | freed => cases hafter
  | denied | unpermitted | kept | intruded | completed | disturbed => exact absurd hafter hstate

theorem Sound.leaves {event : LineEvent} (h : s.Sound) (hstate : s.slot.state = .sending)
    (hafter : (s.after event).slot.state ≠ .sending) :
    (event = .refresh ∨ ∃ limit, event = .acquire limit) ∧ sending s.link = false := by
  have hfree : s.slot.state ≠ .acquired := by simp [hstate]
  have hstep := step h.manual event
  generalize s.after event = s' at hstep hafter
  cases hstep with
  | granted _ _ hs => exact ⟨.inr ⟨_, rfl⟩, hs⟩
  | freed _ hs => exact ⟨.inl rfl, hs⟩
  | failed hfailed _ => simp [transmission?, h.permits_eq_nil hfree] at hfailed
  | sent => exact absurd rfl hafter
  | denied | unpermitted | kept | intruded | completed | disturbed => exact absurd hstate hafter

/-- What holds of a line in every script, and of the event that comes next. -/
structure Orderly (s : SharedLine) : Prop where
  /-- The slot is acquired while one permit is out, and there are never two. -/
  acquired_iff : ∀ script, (s.run script).slot.state = .acquired ↔ (s.run script).permits.length = 1
  permits_le : ∀ script, (s.run script).permits.length ≤ 1
  granted : ∀ script limit, (s.run script).slot.Succeeds (s.run script).link limit →
    (s.run script).permits = [] ∧ (s.run (script ++ [.acquire limit])).slot.state = .acquired
  denied : ∀ script limit, ¬ (s.run script).slot.Succeeds (s.run script).link limit →
    s.run (script ++ [.acquire limit]) = s.run script
  sends : ∀ script event, (s.run script).slot.state ≠ .sending →
    (s.run (script ++ [event])).slot.state = .sending →
      ∃ frame, event = .transmit frame ∧ (s.run script).transmission? frame = some (.ok ())
  leaves : ∀ script event, (s.run script).slot.state = .sending →
    (s.run (script ++ [event])).slot.state ≠ .sending →
      (event = .refresh ∨ ∃ limit, event = .acquire limit) ∧ sending (s.run script).link = false
  failed : ∀ script frame fault, (s.run script).transmission? frame = some (.error fault) →
    (s.run (script ++ [.transmit frame])).slot.state = .free
  /-- While the slot is not sending, none of its frames is on the way. -/
  idle : ∀ script frame, (s.run script).slot.state ≠ .sending → ¬ s.InFlight script frame
  sending : ∀ script frame, s.InFlight script frame → Link.sending (s.run script).link = true

/-- Users of a control slot over a link whose transmissions have to be completed, and may fail, do
not come into each other's way, whatever others do with the link. -/
theorem orderly_of_start (own : DeviceAddress) : (start own).Orderly := by
  have hstart := sound_start own
  have hsound := hstart.run
  have hnext (script : List LineEvent) (event : LineEvent) :
      (start own).run (script ++ [event]) = ((start own).run script).after event :=
    run_append _ script [event]
  constructor
  case acquired_iff => exact fun script => (hsound script).acquired_iff
  case permits_le => exact fun script => (hsound script).permits_le
  case granted =>
    intro script limit hs
    rw [hnext]
    exact (hsound script).granted hs
  case denied =>
    intro script limit hs
    rw [hnext]
    exact (hsound script).denied hs
  case sends =>
    intro script event hstate hafter
    rw [hnext] at hafter
    exact (hsound script).sends hstate hafter
  case leaves =>
    intro script event hstate hafter
    rw [hnext] at hafter
    exact (hsound script).leaves hstate hafter
  case failed =>
    intro script frame fault hf
    rw [hnext]
    exact (hsound script).failed hf
  case idle =>
    intro script frame hstate hflight
    exact hstate (occupied_of_inFlight hstart hflight).state
  case sending =>
    intro script frame hflight
    exact (occupied_of_inFlight hstart hflight).sending

/-- Another frame is on the link when the permit is spent. A frame of the slot stays on its way
although others try to send as well. -/
theorem orderly_intrusion :
    ((start ⟨0x1101⟩).run [.acquire 1, .intrude [0x02], .transmit [0x01]]).slot.state = .free ∧
      (start ⟨0x1101⟩).InFlight [.acquire 1, .transmit [0x01], .intrude [0x02], .refresh] [0x01] ∧
      ((start ⟨0x1101⟩).run [.acquire 1, .transmit [0x01], .intrude [0x02], .refresh]).slot.state =
        .sending := by
  have horderly := orderly_of_start ⟨0x1101⟩
  have hflight : (start ⟨0x1101⟩).InFlight
      [.acquire 1, .transmit [0x01], .intrude [0x02], .refresh] [0x01] :=
    ⟨[.acquire 1], [.intrude [0x02], .refresh], rfl, rfl, by decide⟩
  refine ⟨horderly.failed [.acquire 1, .intrude [0x02]] [0x01] .transmitting rfl, hflight, ?_⟩
  by_contra hstate
  exact horderly.idle _ _ hstate hflight

end SharedLine

end BusTransport
