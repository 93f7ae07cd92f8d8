import BusTransport.Proofs.Endpoint.Connecting
import BusTransport.Proofs.Endpoint.Reception
import BusTransport.Proofs.Wire.SameContent

/-! # The repeat filter

A frame is ignored as a repetition by the link if it is marked as one and has the content of its
reference, the last frame that was processed. What an endpoint passes over is never a reference.
-/

namespace BusTransport

variable {L A : Type} [Link L] [Application A]

namespace Endpoint

variable {e : Endpoint L A} {call : Call} {frame : Frame} {t : Telegram} {now : Instant}

/-- The frame is ignored as a repetition: but for one counter nothing changes. -/
def Ignores (e : Endpoint L A) (frame : Frame) (now : Instant) : Prop :=
  e.receive frame now = ⟨.ok .consumed, [], e.counted .linkRepeatIgnored⟩

omit [Link L] [Application A] in
theorem isRepeatOfLast_iff : e.isRepeatOfLast t = true ↔
    t.repeated = true ∧ ∃ last, e.lastTelegram = some last ∧ last.agreesWith t = true := by
  rw [isRepeatOfLast, Bool.and_eq_true, Option.any_eq_true]

inductive Notes (e : Endpoint L A) (frame : Frame) (t : Telegram) : Prop
  | delivered : Telegram.decode frame = .ok t → e.isRepeatOfLast t = false →
      (∀ address, t.destination ≠ .individual address) → Notes e frame t
  | heard {field : ControlField} : e.Hears frame t field → e.wayOutFree = true → Notes e frame t

omit [Application A] in
theorem Notes.decoded (h : e.Notes frame t) : Telegram.decode frame = .ok t := by
  cases h with
  | delivered hd => exact hd
  | heard hears => exact hears.decoded

omit [Application A] in
theorem Notes.fresh (h : e.Notes frame t) : e.isRepeatOfLast t = false := by
  cases h with
  | delivered _ hfresh => exact hfresh
  | heard hears => exact hears.fresh

omit [Application A] in
theorem Notes.heard_of_individual {address : DeviceAddress} (h : e.Notes frame t)
    (hdest : t.destination = .individual address) :
    ∃ field, e.Hears frame t field ∧ e.wayOutFree = true := by
  cases h with
  | delivered _ _ hall => exact absurd hdest (hall address)
  | heard hears hf => exact ⟨_, hears, hf⟩

theorem repetition_or_ignored_eq (e : Endpoint L A) (frame : Frame) (now : Instant) :
    (∃ t, Telegram.decode frame = .ok t ∧ e.isRepeatOfLast t = true ∧ e.Ignores frame now) ∨
      (∀ t, Telegram.decode frame = .ok t → e.isRepeatOfLast t = false) ∧
        (e.receive frame now).endpoint.intake.ignored = e.intake.ignored := by
  have hreception := e.reception frame now
  unfold Ignores
  generalize e.receive frame now = report at hreception ⊢
  have hfresh {t : Telegram} (hd : Telegram.decode frame = .ok t)
      (h : e.isRepeatOfLast t = false) :
      ∀ t, Telegram.decode frame = .ok t → e.isRepeatOfLast t = false := by
    intro t' hd'
    rw [hd] at hd'
    cases hd'
    exact h
  cases hreception with
  | malformed hd =>
    refine .inr ⟨fun t hd' => ?_, rfl⟩
    rw [hd] at hd'
    cases hd'
  | repetition hd h => exact .inl ⟨_, hd, h, rfl⟩
  | broadcast hd h | group hd h | foreign hd h | unreadable hd h => exact .inr ⟨hfresh hd h, rfl⟩
  | deferred h => exact .inr ⟨hfresh h.decoded h.fresh, rfl⟩
  | taken h _ _ hintake =>
    refine .inr ⟨hfresh h.decoded h.fresh, ?_⟩
    rw [hintake]
    rfl

theorem ignores_iff : e.Ignores frame now ↔
    ∃ t, Telegram.decode frame = .ok t ∧ e.isRepeatOfLast t = true := by
  rcases e.repetition_or_ignored_eq frame now with ⟨t, hd, hrepeat, h⟩ | ⟨hfresh, hcount⟩
  · exact iff_of_true h ⟨t, hd, hrepeat⟩
  · refine iff_of_false (fun h => ?_) ?_
    · -- an ignored frame is counted, and a count never stays the same
      rw [h] at hcount
      exact absurd (UInt64.add_eq_left.mp hcount) (by decide)
    · rintro ⟨t, hd, hrepeat⟩
      simp [hfresh t hd] at hrepeat

theorem not_ignores_iff (hd : Telegram.decode frame = .ok t) :
    ¬ e.Ignores frame now ↔ e.isRepeatOfLast t = false := by
  rw [ignores_iff, ← Bool.not_eq_true]
  refine not_congr ⟨?_, fun hrepeat => ⟨t, hd, hrepeat⟩⟩
  rintro ⟨t', hd', hrepeat⟩
  obtain rfl := Except.ok.inj (hd'.symm.trans hd)
  exact hrepeat

theorem deferred_iff : (e.receive frame now).result = .ok .deferred ↔
    (∃ t field, e.Hears frame t field) ∧ e.wayOutFree = false := by
  have hreception := e.reception frame now
  constructor
  · intro h
    generalize e.receive frame now = report at hreception h
    cases hreception with
    | deferred hears hf => exact ⟨⟨_, _, hears⟩, hf⟩
    | taken _ _ hne _ => exact absurd h hne
    | _ => cases h
  · rintro ⟨⟨t, field, hears⟩, hf⟩
    rw [receive_of_run ((Turn.run_receive_of_hears hears now).trans
      (Turn.run_accept_of_wait t field now hf))]

/-- What passes a frame over: its form, its address, its content, the way out or the filter. -/
inductive PassesOver (e : Endpoint L A) (frame : Frame) (now : Instant) : Prop
  | malformed : ¬ StandardFrame.WellFormed frame → PassesOver e frame now
  | foreign {t : Telegram} {address : DeviceAddress} : Telegram.decode frame = .ok t →
      t.destination = .individual address → address ≠ Link.address e.link →
      PassesOver e frame now
  | unknown {t : Telegram} {address : DeviceAddress} {fault : ControlFault} :
      Telegram.decode frame = .ok t → t.destination = .individual address →
      ControlField.decode t.tpci = .error fault → PassesOver e frame now
  | missingCommand {t : Telegram} {address : DeviceAddress} {field : ControlField} :
      Telegram.decode frame = .ok t → t.destination = .individual address →
      ControlField.decode t.tpci = .ok field → field.isControl = false → t.payload = [] →
      PassesOver e frame now
  | deferred : (e.receive frame now).result = .ok .deferred → PassesOver e frame now
  | ignored : e.Ignores frame now → PassesOver e frame now

/-- A frame that is passed over is not noted. -/
theorem not_notes_of_passesOver (h : e.PassesOver frame now) (t : Telegram) :
    ¬ e.Notes frame t := by
  intro hnotes
  have hd := hnotes.decoded
  -- the telegram of the frame is the one that is noted
  have heq {t' : Telegram} (hd' : Telegram.decode frame = .ok t') : t' = t :=
    Except.ok.inj (hd'.symm.trans hd)
  cases h with
  | malformed hform => exact hform (Telegram.decode_eq_ok_iff.mp hd).1
  | foreign hd' hdest hother =>
    obtain rfl := heq hd'
    obtain ⟨field, hears, -⟩ := hnotes.heard_of_individual hdest
    rw [hears.destination] at hdest
    exact hother (Destination.individual.inj hdest).symm
  | unknown hd' hdest hfault =>
    obtain rfl := heq hd'
    obtain ⟨field, hears, -⟩ := hnotes.heard_of_individual hdest
    rw [hears.known] at hfault
    cases hfault
  | missingCommand hd' hdest hfield hdata hempty =>
    obtain rfl := heq hd'
    obtain ⟨field, hears, -⟩ := hnotes.heard_of_individual hdest
    obtain rfl := Except.ok.inj (hears.known.symm.trans hfield)
    exact hears.command hdata hempty
  | deferred hdeferred =>
    obtain ⟨⟨t', field, hears⟩, hf⟩ := deferred_iff.mp hdeferred
    obtain rfl := heq hears.decoded
    obtain ⟨field, -, hfree⟩ := hnotes.heard_of_individual hears.destination
    rw [hf] at hfree
    cases hfree
  | ignored hignores => exact (not_ignores_iff hd).mpr hnotes.fresh hignores

theorem passesOver_or_notes (e : Endpoint L A) (frame : Frame) (now : Instant) :
    e.PassesOver frame now ∧ (e.receive frame now).endpoint.lastTelegram = e.lastTelegram ∨
      ∃ t, e.Notes frame t ∧ (e.receive frame now).endpoint.lastTelegram = some t ∧
        ((∀ address, t.destination ≠ .individual address) →
          .groupDelivered t ∈ (e.receive frame now).journal ∨
            .broadcastDelivered t ∈ (e.receive frame now).journal) := by
  have hreception := e.reception frame now
  have hdeferred := @PassesOver.deferred _ _ _ _ e frame now
  have hignored := @PassesOver.ignored _ _ _ _ e frame now
  unfold Ignores at hignored
  generalize e.receive frame now = report at *
  cases hreception with
  | malformed hd =>
    refine .inl ⟨.malformed fun hform => ?_, rfl⟩
    obtain ⟨t, hholds⟩ := StandardFrame.exists_holds hform
    rw [Telegram.decode_eq_ok_iff.mpr ⟨hform, hholds⟩] at hd
    cases hd
  | repetition => exact .inl ⟨hignored rfl, rfl⟩
  | broadcast hd hfresh hdest =>
    refine .inr ⟨_, .delivered hd hfresh (by simp [hdest]), rfl, fun _ => .inr ?_⟩
    exact List.mem_singleton.mpr rfl
  | group hd hfresh hdest =>
    refine .inr ⟨_, .delivered hd hfresh (by simp [hdest]), rfl, fun _ => .inl ?_⟩
    exact List.mem_singleton.mpr rfl
  | foreign hd _ hdest hother => exact .inl ⟨.foreign hd hdest hother, rfl⟩
  | @unreadable t hd _ hdest hunreadable =>
    refine .inl ⟨?_, rfl⟩
    rcases hfield : ControlField.decode t.tpci with fault | field
    · exact .unknown hd hdest hfield
    · obtain ⟨hdata, hempty⟩ := hunreadable field hfield
      exact .missingCommand hd hdest hfield hdata hempty
  | deferred => exact .inl ⟨hdeferred rfl, rfl⟩
  | taken hears hf _ hintake =>
    refine .inr ⟨_, .heard hears hf, congrArg Intake.last hintake, fun hall => ?_⟩
    exact absurd hears.destination (hall _)

theorem lastTelegram_of_unhanded (h : e.handed? call = none) :
    (e.after call).lastTelegram = e.lastTelegram := by
  cases call with
  | receive frame now => cases h
  | serve now => rw [after, serve, show Link.received e.link = none from h]
  | poll now =>
    rw [after, Endpoint.poll, Turn.report_endpoint]
    exact congrArg Intake.last (Turn.heedless_poll now { endpoint := e })
  | hangUp now =>
    rw [after, Endpoint.hangUp, Turn.report_endpoint]
    exact congrArg Intake.last (Turn.heedless_hangUp now { endpoint := e })

end Endpoint

namespace Occasion

open Endpoint

variable {o : Occasion L A} {os : List (Occasion L A)} {frame frame' reference : Frame}
  {t : Telegram}

/-- The call processed a frame: it went to the application as a group telegram or a broadcast, or it
was meant for this device, had a known control field, and a command if it was data, and found the
way out free. -/
inductive Processes (o : Occasion L A) (frame : Frame) : Prop
  | delivered {t : Telegram} : o.before.handed? o.call = some frame →
      Telegram.decode frame = .ok t →
      .groupDelivered t ∈ o.journal ∨ .broadcastDelivered t ∈ o.journal → Processes o frame
  | passed {t : Telegram} {field : ControlField} : o.before.handed? o.call = some frame →
      Telegram.decode frame = .ok t → ¬ o.before.Ignores frame o.call.now →
      t.destination = .individual (Link.address o.before.link) →
      ControlField.decode t.tpci = .ok field → (field.isControl = false → t.payload ≠ []) →
      o.before.wayOutFree = true → Processes o frame

theorem Processes.handed (h : o.Processes frame) : o.before.handed? o.call = some frame := by
  cases h with
  | delivered h => exact h
  | passed h => exact h

theorem Processes.frame_eq (h : o.Processes frame) (h' : o.Processes frame') : frame = frame' :=
  Option.some.inj (h.handed.symm.trans h'.handed)

theorem Processes.exists_notes (h : o.Processes frame) : ∃ t, o.before.Notes frame t := by
  cases h with
  | @delivered t hframe hd hmem =>
    have hj : o.journal = (o.before.receive frame o.call.now).journal := (after_handed hframe).1
    have hreception := o.before.reception frame o.call.now
    rw [hj] at hmem
    generalize o.before.receive frame o.call.now = report at hreception hmem
    cases hreception with
    | broadcast hd hfresh hdest => exact ⟨_, .delivered hd hfresh (by simp [hdest])⟩
    | group hd hfresh hdest => exact ⟨_, .delivered hd hfresh (by simp [hdest])⟩
    | taken hears hf => exact ⟨_, .heard hears hf⟩
    | _ => simp at hmem
  | @passed t field _ hd hnot hdest hfield hcommand hf =>
    exact ⟨t, .heard ⟨hd, (not_ignores_iff hd).mp hnot, hdest, hfield, hcommand⟩ hf⟩

theorem not_processes_of_passesOver (hframe : o.before.handed? o.call = some frame)
    (h : o.before.PassesOver frame o.call.now) (frame' : Frame) : ¬ o.Processes frame' := by
  intro hprocesses
  obtain rfl := Option.some.inj (hframe.symm.trans hprocesses.handed)
  obtain ⟨t, hnotes⟩ := hprocesses.exists_notes
  exact not_notes_of_passesOver h t hnotes

theorem processes_of_notes (hframe : o.before.handed? o.call = some frame)
    (hnotes : o.before.Notes frame t)
    (hdelivered : (∀ address, t.destination ≠ .individual address) →
      .groupDelivered t ∈ o.journal ∨ .broadcastDelivered t ∈ o.journal) :
    o.Processes frame := by
  have hnot : ¬ o.before.Ignores frame o.call.now :=
    (not_ignores_iff hnotes.decoded).mpr hnotes.fresh
  cases hnotes with
  | delivered hd _ hall => exact .delivered hframe hd (hdelivered hall)
  | heard hears hf =>
    exact .passed hframe hears.decoded hnot hears.destination hears.known hears.command hf

theorem processes_or_idle (o : Occasion L A) :
    (∃ frame t, o.Processes frame ∧ Telegram.decode frame = .ok t ∧
        o.after.lastTelegram = some t) ∨
      (∀ frame, ¬ o.Processes frame) ∧ o.after.lastTelegram = o.before.lastTelegram := by
  rcases hframe : o.before.handed? o.call with _ | frame
  · refine .inr ⟨fun frame h => ?_, lastTelegram_of_unhanded hframe⟩
    rw [h.handed] at hframe
    cases hframe
  obtain ⟨hj, link, ha⟩ := after_handed hframe
  have hlast : o.after.lastTelegram =
      (o.before.receive frame o.call.now).endpoint.lastTelegram := congrArg (·.lastTelegram) ha
  rw [hlast]
  rcases o.before.passesOver_or_notes frame o.call.now with
    ⟨hover, hkept⟩ | ⟨t, hnotes, hnoted, hdelivered⟩
  · exact .inr ⟨not_processes_of_passesOver hframe hover, hkept⟩
  · refine .inl ⟨frame, t, processes_of_notes hframe hnotes fun hall => ?_, hnotes.decoded, hnoted⟩
    rw [show o.journal = (o.before.receive frame o.call.now).journal from hj]
    exact hdelivered hall

/-- The frame that was processed last. -/
def Reference (os : List (Occasion L A)) (frame : Frame) : Prop :=
  ∃ earlier o later, os = earlier ++ o :: later ∧ o.Processes frame ∧
    ∀ o' ∈ later, ∀ frame', ¬ o'.Processes frame'

theorem Reference.exists_decode (h : Reference os reference) :
    ∃ t, Telegram.decode reference = .ok t := by
  obtain ⟨earlier, o, later, -, hprocesses, -⟩ := h
  obtain ⟨t, hnotes⟩ := hprocesses.exists_notes
  exact ⟨t, hnotes.decoded⟩

theorem eq_or_later_of_concat {α : Type} {as earlier later : List α} {a b : α}
    (h : as ++ [a] = earlier ++ b :: later) :
    b = a ∧ later = [] ∨ ∃ later', later = later' ++ [a] ∧ as = earlier ++ b :: later' := by
  rcases List.eq_nil_or_concat later with rfl | ⟨later', last, rfl⟩
  · obtain ⟨-, hlast⟩ := List.append_inj' h rfl
    exact .inl ⟨(List.cons.inj hlast).1.symm, rfl⟩
  · rw [List.concat_eq_append, ← List.cons_append, ← List.append_assoc] at h
    obtain ⟨has, hlast⟩ := List.append_inj' h rfl
    refine .inr ⟨later', ?_, has⟩
    rw [List.concat_eq_append, hlast]

theorem reference_concat_of_processes (h : o.Processes frame) :
    Reference (os ++ [o]) reference ↔ reference = frame := by
  constructor
  · rintro ⟨earlier, o', later, hos, hreference, hlater⟩
    rcases eq_or_later_of_concat hos with ⟨rfl, -⟩ | ⟨later, rfl, -⟩
    · exact hreference.frame_eq h
    · exact absurd h (hlater o (by simp) frame)
  · rintro rfl
    exact ⟨os, o, [], rfl, h, List.forall_mem_nil _⟩

theorem reference_concat_of_idle (h : ∀ frame, ¬ o.Processes frame) :
    Reference (os ++ [o]) reference ↔ Reference os reference := by
  constructor
  · rintro ⟨earlier, o', later, hos, hreference, hlater⟩
    rcases eq_or_later_of_concat hos with ⟨rfl, -⟩ | ⟨later, rfl, rfl⟩
    · exact absurd hreference (h reference)
    · exact ⟨earlier, o', later, rfl, hreference, (List.forall_mem_append.mp hlater).1⟩
  · rintro ⟨earlier, o', later, rfl, hreference, hlater⟩
    refine ⟨earlier, o', later ++ [o], by simp, hreference, ?_⟩
    exact List.forall_mem_append.mpr ⟨hlater, List.forall_mem_singleton.mpr h⟩

end Occasion

open Occasion

/-- What an endpoint holds as the last telegram is the telegram of its reference. -/
theorem Run.lastTelegram_iff {link : L} {application : A} {profile : TransportProfile}
    {e₀ e : Endpoint L A} {os : List (Occasion L A)} {t : Telegram}
    (hc : Endpoint.create link application profile = .ok e₀) (hrun : Run e₀ os e) :
    e.lastTelegram = some t ↔
      ∃ reference, Reference os reference ∧ Telegram.decode reference = .ok t := by
  induction hrun with
  | start =>
    rw [Endpoint.eq_of_create hc]
    refine iff_of_false nofun ?_
    rintro ⟨reference, ⟨earlier, o, later, hos, -⟩, -⟩
    simp at hos
  | outside link application statistics _ ih => exact ih
  | @call os e call _ ih =>
    rcases processes_or_idle ⟨e, call⟩ with ⟨frame, t', hprocesses, hd, hlast⟩ | ⟨hidle, hlast⟩
    · simp only [reference_concat_of_processes hprocesses, exists_eq_left]
      rw [show (e.after call).lastTelegram = some t' from hlast, hd, Option.some.injEq,
        Except.ok.injEq]
    · simp only [reference_concat_of_idle hidle]
      rw [show (e.after call).lastTelegram = e.lastTelegram from hlast, ih]

/-- In every run a frame is ignored as a repetition by the link if and only if it is well-formed and
marked, and has the content of the frame that was processed last. Ignored frames are counted as such
and no others, and what an endpoint passes over does not become the reference. -/
theorem ignores_iff_of_run {link : L} {application : A} {profile : TransportProfile}
    {e₀ e : Endpoint L A} {os : List (Occasion L A)}
    (hc : Endpoint.create link application profile = .ok e₀) (hrun : Run e₀ os e) (frame : Frame)
    (now : Instant) :
    (e.Ignores frame now ↔ StandardFrame.WellFormed frame ∧ StandardFrame.Marked frame ∧
        ∃ reference, Reference os reference ∧ StandardFrame.SameContent reference frame) ∧
      (¬ e.Ignores frame now → (e.receive frame now).endpoint.statistics.linkRepeatsIgnored =
        e.statistics.linkRepeatsIgnored) ∧
      ∀ call handed reference, e.handed? call = some handed → e.PassesOver handed call.now →
        (Reference (os ++ [⟨e, call⟩]) reference ↔ Reference os reference) := by
  refine ⟨?_, fun hnot => ?_, fun call handed reference hframe hover => ?_⟩
  · rw [Endpoint.ignores_iff]
    constructor
    · rintro ⟨t, hd, hrepeat⟩
      obtain ⟨hmarked, last, hlast, hagrees⟩ := Endpoint.isRepeatOfLast_iff.mp hrepeat
      obtain ⟨reference, hreference, hd'⟩ := (hrun.lastTelegram_iff hc).mp hlast
      obtain ⟨hform, hholds⟩ := Telegram.decode_eq_ok_iff.mp hd
      rw [hholds.repeated, StandardFrame.repeatedOf_iff] at hmarked
      exact ⟨hform, hmarked, reference, hreference, (Telegram.agreesWith_iff hd' hd).mp hagrees⟩
    · rintro ⟨hform, hmarked, reference, hreference, hsame⟩
      obtain ⟨t, hholds⟩ := StandardFrame.exists_holds hform
      have hd := Telegram.decode_eq_ok_iff.mpr ⟨hform, hholds⟩
      obtain ⟨last, hd'⟩ := hreference.exists_decode
      have hlast := (hrun.lastTelegram_iff hc).mpr ⟨reference, hreference, hd'⟩
      refine ⟨t, hd, Endpoint.isRepeatOfLast_iff.mpr ⟨?_, last, hlast, ?_⟩⟩
      · rw [hholds.repeated]
        exact (StandardFrame.repeatedOf_iff _).mpr hmarked
      · exact (Telegram.agreesWith_iff hd' hd).mpr hsame
  · rcases e.repetition_or_ignored_eq frame now with ⟨-, -, -, hignores⟩ | ⟨-, hcount⟩
    · exact absurd hignores hnot
    · exact hcount
  · exact reference_concat_of_idle (not_processes_of_passesOver (o := ⟨e, call⟩) hframe hover)

open Sample in
theorem ignores_encore : ∃ os reference, Endpoint.create host.link host.application host.profile =
      .ok host ∧ Run host os (host.afterAll [.receive (Sample.control .connect) 0]) ∧
    (host.afterAll [.receive (Sample.control .connect) 0]).Ignores
      (repetition (Sample.control .connect)) 1 ∧
    Reference os reference ∧
    StandardFrame.SameContent reference (repetition (Sample.control .connect)) := by
  have hrun := host.run_history [.receive (Sample.control .connect) 0]
  have hignores : (host.afterAll [.receive (Sample.control .connect) 0]).Ignores
      (repetition (Sample.control .connect)) 1 := rfl
  obtain ⟨-, -, reference, hreference, hsame⟩ :=
    (ignores_iff_of_run create_host hrun (repetition (Sample.control .connect)) 1).1.mp hignores
  exact ⟨_, reference, create_host, hrun, hignores, hreference, hsame⟩

end BusTransport
