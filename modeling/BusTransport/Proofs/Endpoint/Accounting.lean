import BusTransport.Proofs.Endpoint.Acknowledgement
import BusTransport.Proofs.Endpoint.Tally

/-! # Accounting

In a run whose counters nobody else writes they account for all traffic: for the frames that have
left, for the requests and duplicates that were acknowledged, and for the frames that came in.
-/

namespace BusTransport

variable {L A : Type} [Link L] [Application A]

def journalOf (os : List (Occasion L A)) : List Activity := os.flatMap Occasion.journal

theorem journalOf_concat (os : List (Occasion L A)) (o : Occasion L A) :
    journalOf (os ++ [o]) = journalOf os ++ o.journal := by
  simp [journalOf]

theorem acceptedIn_journalOf (os : List (Occasion L A)) :
    acceptedIn (journalOf os) = exchanges os := by
  induction os with
  | nil => rfl
  | cons o os ih =>
    simp only [journalOf, exchanges, List.flatMap_cons] at ih ⊢
    rw [acceptedIn_append, ih]
    rfl

/-- A run in which nobody but the endpoint writes its counters. -/
inductive Metered (e₀ : Endpoint L A) : List (Occasion L A) → Endpoint L A → Prop
  | start : Metered e₀ [] e₀
  | outside {os e} (link : L) (application : A) : Metered e₀ os e →
      Metered e₀ os { e with link, application }
  | call {os e} (call : Call) : Metered e₀ os e → Metered e₀ (os ++ [⟨e, call⟩]) (e.after call)

namespace Metered

variable {e₀ e e' : Endpoint L A} {os os' : List (Occasion L A)}

theorem run (h : Metered e₀ os e) : Run e₀ os e := by
  induction h with
  | start => exact .start
  | outside link application _ ih => exact .outside link application _ ih
  | call call _ ih => exact .call call ih

theorem append (h : Metered e₀ os e) (h' : Metered e os' e') : Metered e₀ (os ++ os') e' := by
  induction h' with
  | start => rwa [List.append_nil]
  | outside link application _ ih => exact .outside link application ih
  | call call _ ih => rw [← List.append_assoc]; exact .call call ih

theorem history (e : Endpoint L A) (calls : List Call) :
    Metered e (e.history calls) (e.afterAll calls) := by
  induction calls generalizing e with
  | nil => exact .start
  | cons call calls ih => exact append (.call call .start) (ih (e.after call))

theorem exists_accounts (hr : e₀.Reachable) (h : Metered e₀ os e) :
    ∃ counted, e.statistics = e₀.statistics.countAll counted ∧ Accounts (journalOf os) counted := by
  induction h with
  | start => exact ⟨[], rfl, .nil⟩
  | outside link application _ ih => exact ih
  | @call os e call h ih =>
    obtain ⟨before, hbefore, haccounts⟩ := ih
    obtain ⟨counted, hs, hcall⟩ := Endpoint.exists_tallies (hr.run h.run) call
    refine ⟨before ++ counted, ?_, ?_⟩
    · rw [hs, hbefore, Statistics.countAll_append]
    · rw [journalOf_concat]
      exact haccounts.append hcall

end Metered

/-- Each frame is sent with one of three occurrences. -/
theorem countP_isSending (counted : List Occurrence) :
    counted.countP Occurrence.isSending =
      counted.count .controlFrameSent + counted.count .answerSent +
        counted.count .repetition := by
  induction counted with
  | nil => rfl
  | cons o counted ih =>
    rw [List.countP_cons, List.count_cons, List.count_cons, List.count_cons, ih]
    cases o <;> simp [Occurrence.isSending] <;> omega

def Statistics.arrivals (s : Statistics) : UInt64 × UInt64 × UInt64 :=
  (s.framesReceived, s.framesRejected, s.linkRepeatsIgnored)

theorem Statistics.arrivals_count_ne {o : Occurrence} (h : o ∈ Occurrence.arrivals)
    (s : Statistics) : (s.count o).arrivals ≠ s.arrivals := by
  simp only [Occurrence.arrivals, List.mem_cons, List.not_mem_nil, or_false] at h
  rcases h with rfl | rfl | rfl <;> simp [count, arrivals]

namespace Endpoint

/-- The ways of a frame past the counters: it has to wait, or it is meant for a group, for all or
for another device. -/
inductive Passes (e : Endpoint L A) (call : Call) (frame : Frame) : Prop
  | deferred : e.outcome call = .ok (some .deferred) → Passes e call frame
  | group {t raw} : Telegram.decode frame = .ok t → t.destination = .group raw →
      e.journal call = [.groupDelivered t] → Passes e call frame
  | broadcast {t} : Telegram.decode frame = .ok t → t.destination = .broadcast →
      e.journal call = [.broadcastDelivered t] → Passes e call frame
  | foreign {t address} : Telegram.decode frame = .ok t → e.isRepeatOfLast t = false →
      t.destination = .individual address → address ≠ Link.address e.link → Passes e call frame

/-- A frame that comes in is counted at most once, and not at all exactly if it passes. -/
structure Registers (e : Endpoint L A) (call : Call) (frame : Frame) : Prop where
  at_most_one : (e.after call).statistics.arrivals = e.statistics.arrivals ∨
    ∃ o ∈ Occurrence.arrivals,
      (e.after call).statistics.arrivals = (e.statistics.count o).arrivals
  none_iff : (e.after call).statistics.arrivals = e.statistics.arrivals ↔ e.Passes call frame

variable {e : Endpoint L A} {call : Call} {frame : Frame} {now : Instant}

theorem Passes.congr {call' : Call} (houtcome : e.outcome call' = e.outcome call)
    (hj : e.journal call' = e.journal call) (h : e.Passes call frame) : e.Passes call' frame := by
  cases h with
  | deferred hr => exact .deferred (houtcome.trans hr)
  | group hd hdest hdelivered => exact .group hd hdest (hj.trans hdelivered)
  | broadcast hd hdest hdelivered => exact .broadcast hd hdest (hj.trans hdelivered)
  | foreign hd hfresh hdest hne => exact .foreign hd hfresh hdest hne

theorem registers_of_passes (h : e.Passes call frame)
    (hs : (e.after call).statistics.arrivals = e.statistics.arrivals) : e.Registers call frame :=
  ⟨.inl hs, fun _ => h, fun _ => hs⟩

theorem registers_of_counted {o : Occurrence} (ho : o ∈ Occurrence.arrivals)
    (hs : (e.after call).statistics.arrivals = (e.statistics.count o).arrivals)
    (h : ¬ e.Passes call frame) : e.Registers call frame := by
  refine ⟨.inr ⟨o, ho, hs⟩, fun heq => ?_, fun hpasses => absurd hpasses h⟩
  exact absurd (hs.symm.trans heq) (Statistics.arrivals_count_ne ho _)

theorem not_passes {t : Telegram} (hd : Telegram.decode frame = .ok t)
    (hdest : t.destination = .individual (Link.address e.link))
    (hr : e.outcome call ≠ .ok (some .deferred)) : ¬ e.Passes call frame := by
  intro h
  have heq {u : Telegram} (hu : Telegram.decode frame = .ok u) : u.destination = t.destination := by
    rw [Except.ok.inj (hu.symm.trans hd)]
  cases h with
  | deferred h => exact hr h
  | group hu hgroup | broadcast hu hgroup =>
    rw [heq hu, hdest] at hgroup
    cases hgroup
  | foreign hu _ haddress hne =>
    rw [heq hu, hdest] at haddress
    cases haddress
    exact hne rfl

theorem registers_receive (e : Endpoint L A) (frame : Frame) (now : Instant) :
    e.Registers (.receive frame now) frame := by
  have hreception := e.reception frame now
  have hresult : e.outcome (.receive frame now) = (e.receive frame now).result.map some := rfl
  have hjournal : e.journal (.receive frame now) = (e.receive frame now).journal := rfl
  have hafter : e.after (.receive frame now) = (e.receive frame now).endpoint := rfl
  generalize e.receive frame now = report at hreception hresult hjournal hafter
  cases hreception with
  | malformed hd =>
    refine registers_of_counted (o := .frameRejected) (by decide) (by rw [hafter]; rfl) ?_
    intro h
    cases h with
    | deferred h => rw [hresult] at h; cases h
    | group hu | broadcast hu | foreign hu => rw [hd] at hu; cases hu
  | @repetition t hd hrepeat =>
    refine registers_of_counted (o := .linkRepeatIgnored) (by decide) (by rw [hafter]; rfl) ?_
    intro h
    cases h with
    | deferred h => rw [hresult] at h; cases h
    | group _ _ hj | broadcast _ _ hj => rw [hjournal] at hj; cases hj
    | foreign hu hfresh =>
      rw [← Except.ok.inj (hd.symm.trans hu), hrepeat] at hfresh
      cases hfresh
  | broadcast hd _ hdest =>
    exact registers_of_passes (.broadcast hd hdest hjournal) (by rw [hafter])
  | group hd _ hdest =>
    exact registers_of_passes (.group hd hdest hjournal) (by rw [hafter])
  | foreign hd hfresh hdest hne =>
    exact registers_of_passes (.foreign hd hfresh hdest hne) (by rw [hafter])
  | unreadable hd _ hdest =>
    refine registers_of_counted (o := .frameRejected) (by decide) (by rw [hafter]; rfl) ?_
    exact not_passes hd hdest (by rw [hresult]; nofun)
  | deferred =>
    exact registers_of_passes (.deferred hresult) (by rw [hafter]; rfl)
  | taken hears _ hne hintake =>
    have harrivals := congrArg (fun i : Intake => (i.received, i.rejected, i.ignored)) hintake
    refine registers_of_counted (o := .frameReceived) (by decide) ?_ ?_
    · rw [hafter]
      exact harrivals
    · refine not_passes hears.decoded hears.destination ?_
      rw [hresult]
      rcases hr : report.result with fault | _ | _
      · nofun
      · nofun
      · exact absurd hr hne

/-- Every frame that a call hands over is counted at most once. -/
theorem registers_of_handed (h : e.handed? call = some frame) : e.Registers call frame := by
  obtain ⟨hat_most, hnone⟩ := e.registers_receive frame call.now
  obtain ⟨hj, link, ha⟩ := after_handed h
  have hpasses : e.Passes (.receive frame call.now) frame ↔ e.Passes call frame :=
    ⟨.congr (outcome_handed h) hj, .congr (outcome_handed h).symm hj.symm⟩
  rw [hpasses] at hnone
  constructor
  · rw [ha]
    exact hat_most
  · rw [ha]
    exact hnone

end Endpoint

structure Audited (os : List (Occasion L A)) (s : Statistics) : Prop where
  sorts : s.framesSent.toNat =
    s.controlFramesSent.toNat + s.answersSent.toNat + s.repetitions.toNat
  sent : s.framesSent.toNat = (sentIn (journalOf os)).length
  acks : (sentIn (journalOf os)).countP isAckFrame =
    (exchanges os).length + s.duplicates.toNat
  nacks : (sentIn (journalOf os)).countP isNackFrame = s.nacksSent.toNat
  arrivals : ∀ o ∈ os, ∀ frame, o.before.handed? o.call = some frame →
    o.before.Registers o.call frame

/-- A counter that started from zero and has not overflowed shows how often it was counted up. -/
theorem toNat_counter_countAll {counted : List Occurrence} {o : Occurrence}
    (h : counted.count o < UInt64.size) :
    ((({} : Statistics).countAll counted).counter o).toNat = counted.count o := by
  have hzero : ({} : Statistics).counter o = 0 := by cases o <;> rfl
  rw [Statistics.counter_countAll, hzero, UInt64.zero_add, UInt64.toNat_ofNat',
    Nat.mod_eq_of_lt h]

/-- Counters that were fresh at the start of a run account for all its traffic. -/
theorem audited_of_run {e₀ e : Endpoint L A} {os : List (Occasion L A)} (hr : e₀.Reachable)
    (hfresh : e₀.statistics = {}) (h : Metered e₀ os e)
    (hlt : (sentIn (journalOf os)).length < UInt64.size) : Audited os e.statistics := by
  obtain ⟨counted, hs, haccounts⟩ := h.exists_accounts hr
  rw [hfresh] at hs
  have hsent := haccounts.sent
  have hacks := haccounts.acks
  have hsorts := countP_isSending counted
  have hacks_le : (sentIn (journalOf os)).countP isAckFrame ≤ (sentIn (journalOf os)).length :=
    List.countP_le_length
  have hnacks_le : (sentIn (journalOf os)).countP isNackFrame ≤ (sentIn (journalOf os)).length :=
    List.countP_le_length
  rw [haccounts.nacks] at hnacks_le
  have hcounter (o : Occurrence) (ho : counted.count o ≤ (sentIn (journalOf os)).length) :
      (e.statistics.counter o).toNat = counted.count o := by
    rw [hs]
    exact toNat_counter_countAll (Nat.lt_of_le_of_lt ho hlt)
  have hcontrol : e.statistics.controlFramesSent.toNat = counted.count .controlFrameSent :=
    hcounter .controlFrameSent (by omega)
  have hanswers : e.statistics.answersSent.toNat = counted.count .answerSent :=
    hcounter .answerSent (by omega)
  have hrepetitions : e.statistics.repetitions.toNat = counted.count .repetition :=
    hcounter .repetition (by omega)
  have hduplicates : e.statistics.duplicates.toNat = counted.count .duplicate :=
    hcounter .duplicate (by omega)
  have hnacks : e.statistics.nacksSent.toNat = counted.count .nackSent :=
    hcounter .nackSent hnacks_le
  have hframes : e.statistics.framesSent.toNat = (sentIn (journalOf os)).length := by
    rw [hs, Statistics.framesSent_countAll, ← hsent]
    change (0 + UInt64.ofNat _).toNat = _
    rw [UInt64.zero_add, UInt64.toNat_ofNat', Nat.mod_eq_of_lt hlt]
  constructor
  · omega
  · exact hframes
  · rw [hacks, hduplicates, acceptedIn_journalOf]
  · rw [haccounts.nacks, hnacks]
  · intro o _ frame hframe
    exact Endpoint.registers_of_handed hframe

theorem audited_encore : (Sample.host.afterAll Sample.encore).statistics.duplicates = 1 ∧
    Audited (Sample.host.history Sample.encore)
      (Sample.host.afterAll Sample.encore).statistics :=
  ⟨by decide, audited_of_run (Sample.reachable []) rfl (.history _ _) (by decide)⟩

end BusTransport
