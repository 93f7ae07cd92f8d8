import BusTransport.Proofs.Link.Reading

/-! # Polling for the control slot

An acquisition of the control slot reads the flag of the link once per attempt, and twice while the
slot itself is sending. Over a link whose flag settles after some readings, it is known beforehand
whether the attempts suffice and how often the flag is read.
-/

namespace BusTransport

namespace Link

variable {L : Type} [Link L] {n m : Nat} {l : L}

/-- The flag of the link is set for the next n readings and for none after them. -/
def SettlesAfter (n : Nat) (l : L) : Prop := ∀ m, sending (observed^[m] l) = decide (m < n)

theorem SettlesAfter.sending_eq (h : SettlesAfter n l) : sending l = decide (0 < n) := h 0

theorem SettlesAfter.iterate (h : SettlesAfter n l) (m : Nat) :
    SettlesAfter (n - m) (observed^[m] l) := by
  intro k
  rw [← Function.iterate_add_apply, h (k + m), decide_eq_decide]
  omega

end Link

/-- A link whose readings are counted. -/
structure MeteredLink (L : Type) where
  inner : L
  readings : Nat := 0

namespace MeteredLink

variable {L : Type} [Link L]

instance : Link (MeteredLink L) where
  address := fun l => Link.address l.inner
  idle := fun l => Link.idle l.inner
  sending := fun l => Link.sending l.inner
  observed := fun l => ⟨Link.observed l.inner, l.readings + 1⟩
  send := fun l frame =>
    let (result, inner) := Link.send l.inner frame
    (result, { l with inner })
  received := fun l => Link.received l.inner
  release := fun l => { l with inner := Link.release l.inner }

theorem iterate_observed (l : MeteredLink L) (n : Nat) :
    Link.observed^[n] l = ⟨Link.observed^[n] l.inner, l.readings + n⟩ := by
  induction n with
  | zero => rfl
  | succ n ih =>
    simp only [Function.iterate_succ_apply', ih]
    rfl

theorem settlesAfter {n : Nat} {l : L} (h : Link.SettlesAfter n l) :
    Link.SettlesAfter n ({ inner := l } : MeteredLink L) := by
  intro m
  rw [iterate_observed]
  exact h m

end MeteredLink

theorem RecordingLink.settlesAfter {l : RecordingLink} (h : l.sending = false) :
    Link.SettlesAfter 0 l := by
  intro m
  rw [eq_of_reads ⟨m, rfl⟩]
  exact h

theorem FaultyLink.settlesAfter {L : Type} [Link L] {l : FaultyLink L}
    (h : Link.SettlesAfter 0 l.inner) : Link.SettlesAfter l.busyReadings l := by
  intro m
  induction m generalizing l with
  | zero =>
    have hinner : Link.sending l.inner = false := h.sending_eq
    change (decide (l.busyReadings ≠ 0) || Link.sending l.inner) = _
    simp [hinner, Nat.pos_iff_ne_zero]
  | succ m ih =>
    rw [Function.iterate_succ_apply]
    change Link.sending (Link.observed^[m] l.observed) = _
    rcases hbusy : l.busyReadings with _ | n
    · have hobserved : l.observed = { l with inner := Link.observed l.inner } := if_pos hbusy
      rw [hobserved, ih (h.iterate 1)]
      simp [hbusy]
    · have hobserved : l.observed = { l with busyReadings := n } := by
        rw [observed, if_neg (by omega), hbusy]
        rfl
      rw [hobserved, ih (l := { l with busyReadings := n }) h]
      simp

/-- How often an attempt to acquire a slot in this state reads the link. -/
def SlotState.readings : SlotState → Nat
  | .sending => 2
  | .free | .acquired => 1

theorem SlotState.readings_cases (state : SlotState) :
    state.readings = 1 ∨ state.readings = 2 := by
  cases state with
  | sending => exact .inr rfl
  | free | acquired => exact .inl rfl

namespace ControlSlot

open Link

variable {L : Type} [Link L] {slot : ControlSlot} {link : L} {n retries : Nat}

/-- Over a settled link the first attempt takes any slot but an acquired one. -/
theorem acquireWithin_of_settled (hs : slot.state ≠ .acquired) (h : SettlesAfter 0 link)
    (retries : Nat) : ∃ permit, slot.acquireWithin retries link =
      (.ok permit, ⟨.acquired⟩, observed^[slot.state.readings] link) := by
  have hfirst : sending link = false := h 0
  have hsecond : sending (observed link) = false := h 1
  obtain ⟨_ | _ | _⟩ := slot
  · exact acquire_of_refresh (refresh_of_isFree rfl link) rfl hfirst (retries + 1)
  · exact absurd rfl hs
  · have hrefresh : refresh ⟨.sending⟩ link = (⟨.free⟩, observed link) := by
      simp [refresh, hfirst]
    exact acquire_of_refresh hrefresh rfl hsecond (retries + 1)

theorem attempt_of_busy (hs : slot.state = .acquired ∨ 0 < n) (h : SettlesAfter n link) :
    slot.attempt link = (.error (.slot slot.state (decide (slot.state.readings ≤ n))), slot,
      observed^[slot.state.readings] link) := by
  have hfirst : sending link = decide (0 < n) := h 0
  have hsecond : sending (observed link) = decide (1 < n) := h 1
  obtain ⟨_ | _ | _⟩ := slot
  · have hn : 0 < n := by simpa using hs
    simp [attempt, refresh, isFree, hfirst, hn, SlotState.readings, Nat.succ_le_iff]
  · simp [attempt, refresh, isFree, hfirst, SlotState.readings, Nat.succ_le_iff]
  · have hn : 0 < n := by simpa using hs
    simp [attempt, refresh, isFree, hfirst, hsecond, hn, SlotState.readings, Nat.succ_le_iff]

/-- How an acquisition with some retries ends over a link that settles after n readings. Unless
somebody holds a permit, the first attempt to begin with the link settled is successful. -/
inductive Ends (slot : ControlSlot) (link : L) (n retries : Nat) :
    Except BusyFault Permit × ControlSlot × L → Prop
  | permit {permit link' failures} : slot.state ≠ .acquired → failures ≤ retries →
      n ≤ slot.state.readings * failures →
      slot.state.readings * failures < n + slot.state.readings →
      link' = observed^[slot.state.readings * (failures + 1)] link →
      Ends slot link n retries (.ok permit, ⟨.acquired⟩, link')
  | busy {fault link'} : slot.state = .acquired ∨ slot.state.readings * retries < n →
      fault = .slot slot.state (decide (slot.state.readings * (retries + 1) ≤ n)) →
      link' = observed^[slot.state.readings * (retries + 1)] link →
      Ends slot link n retries (.error fault, slot, link')

theorem Ends.later {outcome : Except BusyFault Permit × ControlSlot × L}
    (hs : slot.state = .acquired ∨ 0 < n)
    (h : Ends slot (observed^[slot.state.readings] link) (n - slot.state.readings) retries
      outcome) : Ends slot link n (retries + 1) outcome := by
  have hreadings := slot.state.readings_cases
  cases h with
  | @permit permit link' failures hfree hle hsettled hfirst hlink =>
    have hn : 0 < n := hs.resolve_left hfree
    refine .permit hfree (Nat.succ_le_succ hle) ?_ ?_ ?_
    · rw [Nat.mul_add_one]
      omega
    · rcases hreadings with hc | hc <;> rw [hc] at hfirst ⊢ <;> omega
    · rw [hlink, ← Function.iterate_add_apply]
      rfl
  | busy hbusy hfault hlink =>
    refine .busy (hbusy.imp_right fun hlt => ?_) ?_ ?_
    · rw [Nat.mul_add_one]
      omega
    · rw [hfault]
      refine congrArg (BusyFault.slot slot.state) (decide_eq_decide.mpr ?_)
      simp only [Nat.mul_add_one]
      omega
    · rw [hlink, ← Function.iterate_add_apply]
      rfl

theorem ends_of_settled (hs : ¬ (slot.state = .acquired ∨ 0 < n)) (retries : Nat)
    (h : SettlesAfter n link) : Ends slot link n retries (slot.acquireWithin retries link) := by
  obtain ⟨hfree, hn⟩ := not_or.mp hs
  obtain rfl := Nat.eq_zero_of_not_pos hn
  obtain ⟨permit, hacquire⟩ := acquireWithin_of_settled hfree h retries
  have hreadings := slot.state.readings_cases
  rw [hacquire]
  exact .permit hfree retries.zero_le (Nat.zero_le _) (by omega) (by simp)

theorem ends_acquireWithin (slot : ControlSlot) (retries : Nat) (h : SettlesAfter n link) :
    Ends slot link n retries (slot.acquireWithin retries link) := by
  induction retries generalizing link n with
  | zero =>
    by_cases hs : slot.state = .acquired ∨ 0 < n
    · rw [acquireWithin, attempt_of_busy hs h]
      exact .busy (by simpa using hs) (by simp) (by simp)
    · exact ends_of_settled hs 0 h
  | succ retries ih =>
    by_cases hs : slot.state = .acquired ∨ 0 < n
    · rw [acquireWithin, attempt_of_busy hs h]
      exact (ih (h.iterate slot.state.readings)).later hs
    · exact ends_of_settled hs (retries + 1) h

theorem ends_acquire (slot : ControlSlot) (limit : Nat) (h : SettlesAfter n link) :
    Ends slot link n (limit - 1) (slot.acquire link limit) := ends_acquireWithin slot (limit - 1) h

/-- The acquisition yields a permit. -/
def Succeeds (slot : ControlSlot) (link : L) (limit : Nat) : Prop :=
  ∃ permit, (slot.acquire link limit).1 = .ok permit

def readings (slot : ControlSlot) (link : L) (limit : Nat) : Nat :=
  (slot.acquire ({ inner := link } : MeteredLink L) limit).2.2.readings

theorem refresh_metered (slot : ControlSlot) (l : MeteredLink L) :
    slot.refresh l.inner = Prod.map id MeteredLink.inner (slot.refresh l) := by
  by_cases hstate : slot.state = .sending
  · rw [refresh, refresh, if_pos hstate, if_pos hstate]
    rfl
  · rw [refresh, refresh, if_neg hstate, if_neg hstate]
    rfl

theorem attempt_metered (slot : ControlSlot) (l : MeteredLink L) :
    slot.attempt l.inner = Prod.map id (Prod.map id MeteredLink.inner) (slot.attempt l) := by
  rw [attempt, attempt, refresh_metered]
  obtain ⟨slot', l'⟩ := slot.refresh l
  have hsending : sending l'.inner = sending l' := rfl
  simp only [Prod.map, id, hsending]
  split
  · rfl
  · rfl

/-- To count the readings does not change an acquisition. -/
theorem acquireWithin_metered (slot : ControlSlot) (l : MeteredLink L) (retries : Nat) :
    slot.acquireWithin retries l.inner =
      Prod.map id (Prod.map id MeteredLink.inner) (slot.acquireWithin retries l) := by
  induction retries generalizing slot l with
  | zero => exact attempt_metered slot l
  | succ retries ih =>
    have hattempt := attempt_metered slot l
    rw [acquireWithin, acquireWithin, hattempt]
    rcases slot.attempt l with ⟨_ | permit, slot', l'⟩
    · exact ih slot' l'
    · rfl

theorem succeeds_iff (limit : Nat) (h : SettlesAfter n link) : slot.Succeeds link limit ↔
    slot.state ≠ .acquired ∧ n ≤ slot.state.readings * (limit - 1) := by
  have hends := ends_acquire slot limit h
  unfold Succeeds
  generalize slot.acquire link limit = outcome at hends
  cases hends with
  | permit hfree hle hsettled hfirst hlink =>
    exact iff_of_true ⟨_, rfl⟩ ⟨hfree, Nat.le_trans hsettled (Nat.mul_le_mul_left _ hle)⟩
  | busy hbusy hfault hlink =>
    refine iff_of_false nofun ?_
    rintro ⟨hfree, hle⟩
    exact absurd (hbusy.resolve_left hfree) (Nat.not_lt.mpr hle)

theorem readings_of_succeeds {limit : Nat} (h : SettlesAfter n link)
    (hs : slot.Succeeds link limit) : ∃ failures, n ≤ slot.state.readings * failures ∧
      slot.state.readings * failures < n + slot.state.readings ∧
      slot.readings link limit = slot.state.readings * (failures + 1) := by
  obtain ⟨hfree, hn⟩ := (succeeds_iff limit h).mp hs
  have hends := ends_acquire slot limit (MeteredLink.settlesAfter h)
  unfold readings
  generalize slot.acquire ({ inner := link } : MeteredLink L) limit = outcome at hends
  cases hends with
  | permit _ _ hsettled hfirst hlink =>
    refine ⟨_, hsettled, hfirst, ?_⟩
    rw [hlink, MeteredLink.iterate_observed, Nat.zero_add]
  | busy hbusy _ _ => exact absurd (hbusy.resolve_left hfree) (Nat.not_lt.mpr hn)

theorem readings_of_not_succeeds {limit : Nat} (h : SettlesAfter n link)
    (hs : ¬ slot.Succeeds link limit) :
    slot.readings link limit = slot.state.readings * (limit - 1 + 1) := by
  rw [succeeds_iff limit h] at hs
  have hends := ends_acquire slot limit (MeteredLink.settlesAfter h)
  unfold readings
  generalize slot.acquire ({ inner := link } : MeteredLink L) limit = outcome at hends
  cases hends with
  | permit hfree hle hsettled _ _ =>
    exact absurd ⟨hfree, Nat.le_trans hsettled (Nat.mul_le_mul_left _ hle)⟩ hs
  | busy _ _ hlink => rw [hlink, MeteredLink.iterate_observed, Nat.zero_add]

/-- Unless somebody holds a permit, the flag is read until an attempt begins after n readings, or
until there are no more attempts. -/
theorem readings_eq (limit : Nat) (h : SettlesAfter n link) (hfree : slot.state ≠ .acquired) :
    slot.readings link limit = slot.state.readings *
      min ((n + slot.state.readings - 1) / slot.state.readings + 1) (limit - 1 + 1) := by
  by_cases hs : slot.Succeeds link limit
  · have hle := ((succeeds_iff limit h).mp hs).2
    obtain ⟨failures, hsettled, hfirst, hreadings⟩ := readings_of_succeeds h hs
    rw [hreadings]
    have hcases := slot.state.readings_cases
    generalize slot.state.readings = c at *
    rcases hcases with rfl | rfl
    · omega
    · omega
  · have hlt : slot.state.readings * (limit - 1) < n := by
      rw [succeeds_iff limit h] at hs
      exact Nat.lt_of_not_ge fun hle => hs ⟨hfree, hle⟩
    rw [readings_of_not_succeeds h hs]
    have hcases := slot.state.readings_cases
    generalize slot.state.readings = c at *
    rcases hcases with rfl | rfl
    · omega
    · omega

theorem slot_of_not_succeeds {limit : Nat} (h : SettlesAfter n link)
    (hs : ¬ slot.Succeeds link limit) : (slot.acquire link limit).2.1 = slot := by
  have hends := ends_acquire slot limit h
  unfold Succeeds at hs
  generalize slot.acquire link limit = outcome at hends hs
  cases hends with
  | permit => exact absurd ⟨_, rfl⟩ hs
  | busy => rfl

theorem slot_of_acquire_ok {limit : Nat} {permit : Permit} {slot' : ControlSlot} {link' : L}
    (h : SettlesAfter n link) (ha : slot.acquire link limit = (.ok permit, slot', link')) :
    slot' = ⟨.acquired⟩ := by
  have hends := ends_acquire slot limit h
  rw [ha] at hends
  cases hends with
  | permit => rfl

theorem fault_of_acquire_error {limit : Nat} {fault : BusyFault} {slot' : ControlSlot} {link' : L}
    (h : SettlesAfter n link) (ha : slot.acquire link limit = (.error fault, slot', link')) :
    slot' = slot ∧ fault = .slot slot.state (decide (slot.readings link limit ≤ n)) := by
  have hfail : ¬ slot.Succeeds link limit := by
    rintro ⟨permit, hok⟩
    rw [ha] at hok
    cases hok
  have hends := ends_acquire slot limit h
  rw [readings_of_not_succeeds h hfail]
  rw [ha] at hends
  cases hends with
  | busy _ hfault _ => exact ⟨rfl, hfault⟩

/-- How acquisitions with a number of attempts end over a link that settles after n readings. -/
structure Bounded (link : L) (n limit attempts : Nat) : Prop where
  /-- The readings are counted on the same acquisition. -/
  metered : ∀ slot, acquire slot link limit = Prod.map id (Prod.map id MeteredLink.inner)
    (acquire slot ({ inner := link } : MeteredLink L) limit)
  free_iff : Succeeds ⟨.free⟩ link limit ↔ n ≤ attempts - 1
  free_readings : readings ⟨.free⟩ link limit = min (n + 1) attempts
  sending_iff : Succeeds ⟨.sending⟩ link limit ↔ n ≤ 2 * (attempts - 1)
  sending_readings : readings ⟨.sending⟩ link limit = 2 * min ((n + 1) / 2 + 1) attempts
  sending_in_vain : ¬ Succeeds ⟨.sending⟩ link limit →
    readings ⟨.sending⟩ link limit = 2 * attempts ∧
      (acquire ⟨.sending⟩ link limit).2.1 = ⟨.sending⟩
  acquired : ¬ Succeeds ⟨.acquired⟩ link limit ∧ readings ⟨.acquired⟩ link limit = attempts ∧
    (acquire ⟨.acquired⟩ link limit).2.1 = ⟨.acquired⟩
  permit : ∀ {slot permit slot' link'}, acquire slot link limit = (.ok permit, slot', link') →
    slot' = ⟨.acquired⟩
  busy : ∀ {slot fault slot' link'}, acquire slot link limit = (.error fault, slot', link') →
    slot' = slot ∧ (Fault.busy fault).kind = .slotBusy ∧
      fault = .slot slot.state (decide (slot.readings link limit ≤ n))

/-- The bounds hold for every limit of attempts, where a limit of zero still allows one. -/
theorem bounded_of_settlesAfter (limit : UInt32) (h : SettlesAfter n link) :
    Bounded link n limit.toNat (max limit.toNat 1) := by
  generalize limit.toNat = limit
  have hattempts : max limit 1 = limit - 1 + 1 := by omega
  have hacquired : ¬ Succeeds ⟨.acquired⟩ link limit := by
    simp [succeeds_iff limit h]
  rw [hattempts]
  constructor
  case metered => exact fun slot => acquireWithin_metered slot ⟨link, 0⟩ (limit - 1)
  case free_iff => simp [succeeds_iff limit h, SlotState.readings]
  case free_readings => simp [readings_eq limit h, SlotState.readings]
  case sending_iff => simp [succeeds_iff limit h, SlotState.readings]
  case sending_readings => simp [readings_eq limit h, SlotState.readings]
  case sending_in_vain =>
    intro hs
    exact ⟨readings_of_not_succeeds h hs, slot_of_not_succeeds h hs⟩
  case acquired =>
    have hreadings := readings_of_not_succeeds h hacquired
    exact ⟨hacquired, hreadings.trans (Nat.one_mul _), slot_of_not_succeeds h hacquired⟩
  case permit => exact slot_of_acquire_ok h
  case busy =>
    intro slot fault slot' link' ha
    obtain ⟨hslot, hfault⟩ := fault_of_acquire_error h ha
    exact ⟨hslot, by rw [hfault]; rfl, hfault⟩

end ControlSlot

def Sample.lateLink : FaultyLink RecordingLink where
  inner := { address := ⟨0x1101⟩, completesAtOnce := false }
  busyReadings := 5

open Link ControlSlot Sample in
/-- Three attempts on a sending slot end with a reading that finds the link free, and still one too
early. -/
theorem bounded_late : SettlesAfter 5 lateLink ∧ ¬ Succeeds ⟨.sending⟩ lateLink 3 ∧
    ControlSlot.readings ⟨.sending⟩ lateLink 3 = 6 ∧ Succeeds ⟨.sending⟩ lateLink 4 := by
  have hsettles : SettlesAfter 5 lateLink :=
    FaultyLink.settlesAfter (RecordingLink.settlesAfter rfl)
  have hthree := bounded_of_settlesAfter 3 hsettles
  have hfour := bounded_of_settlesAfter 4 hsettles
  exact ⟨hsettles, fun h => absurd (hthree.sending_iff.mp h) (by decide), hthree.sending_readings,
    hfour.sending_iff.mpr (by decide)⟩

end BusTransport
