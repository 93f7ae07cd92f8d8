import BusTransport.Proofs.Endpoint.Call

/-! # Frames that are heard

A frame reaches the connection only as a telegram for this device, with a known control field, which
is no repetition by the link. Receiving such a frame is accepting its telegram.
-/

namespace BusTransport

namespace Endpoint

variable {L A : Type} [Link L] {e : Endpoint L A} {frame : Frame} {t : Telegram}
  {field : ControlField} {event : Event} {call : Call}

/-- The frame that a call hands to the endpoint. -/
def handed? (e : Endpoint L A) : Call → Option Frame
  | .receive frame _ => some frame
  | .serve _ => Link.received e.link
  | .poll _ | .hangUp _ => none

/-- A frame is a telegram that the endpoint takes to be meant for its connection or its services. -/
structure Hears (e : Endpoint L A) (frame : Frame) (t : Telegram) (field : ControlField) :
    Prop where
  decoded : Telegram.decode frame = .ok t
  fresh : e.isRepeatOfLast t = false
  destination : t.destination = .individual (Link.address e.link)
  known : ControlField.decode t.tpci = .ok field
  command : field.isControl = false → t.payload ≠ []

theorem event?_of_handed (h : e.handed? call = some frame) : e.event? call = e.heard? frame := by
  cases call with
  | receive frame' now =>
    cases h
    rfl
  | serve now => simp only [event?, show Link.received e.link = some frame from h, Option.bind_some]
  | poll now => cases h
  | hangUp now => cases h

theorem exists_hears (h : e.heard? frame = some event) :
    ∃ t field, e.Hears frame t field ∧ field.event? t.source = some event ∧
      e.wayOutFree = true := by
  unfold heard? at h
  rcases hd : Telegram.decode frame with fault | t
  · simp [hd] at h
  simp only [hd] at h
  split_ifs at h with hfresh
  unfold eventOf? at h
  split_ifs at h with hdest
  rcases hf : ControlField.decode t.tpci with fault | field
  · simp [hf] at h
  simp only [hf] at h
  split_ifs at h with hcond
  rw [not_or, not_and] at hcond
  refine ⟨t, field, ⟨hd, ?_, hdest, hf, hcond.1⟩, h, ?_⟩
  · simpa using hfresh
  · simpa using hcond.2

theorem wayOutFree_of_event (he : e.event? call = some event) : e.wayOutFree = true := by
  cases call with
  | receive frame now =>
    obtain ⟨_, _, _, _, hf⟩ := exists_hears he
    exact hf
  | serve now =>
    obtain ⟨frame, -, he⟩ := Option.bind_eq_some_iff.mp he
    obtain ⟨_, _, _, _, hf⟩ := exists_hears he
    exact hf
  | poll now => exact wayOutFree_of_due he
  | hangUp now => exact (Option.ite_none_right_eq_some.mp he).1.2

theorem heard?_of_hears (h : e.Hears frame t field) (hf : e.wayOutFree = true) :
    e.heard? frame = field.event? t.source := by
  have hcond : ¬(field.isControl = false ∧ t.payload = []) := fun hc => h.command hc.1 hc.2
  simp [heard?, eventOf?, h.decoded, h.fresh, h.destination, h.known, hf, hcond]

variable [Application A]

theorem after_handed (h : e.handed? call = some frame) :
    e.journal call = e.journal (.receive frame call.now) ∧
      ∃ link, e.after call = { e.after (.receive frame call.now) with link } := by
  cases call with
  | receive frame' now =>
    cases h
    exact ⟨rfl, _, rfl⟩
  | serve now => exact serve_of_received now h
  | poll now => cases h
  | hangUp now => cases h

theorem outcome_handed (h : e.handed? call = some frame) :
    e.outcome call = e.outcome (.receive frame call.now) := by
  cases call with
  | receive frame' now =>
    cases h
    rfl
  | serve now =>
    have hreceived : Link.received e.link = some frame := h
    simp only [outcome, serve, hreceived, Call.now]
    split
    · next hresult => rw [hresult]; rfl
    · rfl
  | poll now => cases h
  | hangUp now => cases h

end Endpoint

namespace Turn

open Endpoint

variable {L A : Type} [Link L] [Application A] {e : Endpoint L A} {frame : Frame} {t : Telegram}
  {field : ControlField} {event : Event}

theorem run_receive_of_hears (h : e.Hears frame t field) (now : Instant) :
    (receive frame now).run { endpoint := e } = (accept t field now).run { endpoint := e } := by
  have hcommand : (!field.isControl && t.payload.isEmpty) = false := by
    rcases hc : field.isControl with _ | _
    · simpa using h.command hc
    · rfl
  simp only [receive, h.decoded, route, h.destination, run_bind, run_endpoint, h.fresh, h.known,
    hcommand, Bool.false_eq_true, if_false, if_true]

theorem consumed_or_hears (e : Endpoint L A) (frame : Frame) (now : Instant) :
    (∃ c, (receive frame now).run { endpoint := e } = .ok .consumed c ∧
      ∀ r answer, .requested r answer ∉ c.journal) ∨ ∃ t field, e.Hears frame t field := by
  rcases hd : Telegram.decode frame with fault | t
  · left
    simp only [receive, hd]
    exact ⟨_, rfl, fun _ _ => List.not_mem_nil⟩
  rcases hrepeat : e.isRepeatOfLast t with _ | _
  · have hrun : (receive frame now).run { endpoint := e } =
        (route t now).run { endpoint := e } := by
      simp only [receive, hd, run_bind, run_endpoint, hrepeat, Bool.false_eq_true, if_false]
    rw [hrun]
    by_cases hdest : t.destination = .individual (Link.address e.link)
    · rcases hf : ControlField.decode t.tpci with fault | field
      · left
        simp only [route, hdest, run_bind, run_endpoint, if_true, hf]
        exact ⟨_, rfl, fun _ _ => List.not_mem_nil⟩
      by_cases hempty : field.isControl = false ∧ t.payload = []
      · left
        simp only [route, hdest, run_bind, run_endpoint, if_true, hf, hempty, Bool.not_false,
          List.isEmpty_nil, Bool.and_self]
        exact ⟨_, rfl, fun _ _ => List.not_mem_nil⟩
      · right
        exact ⟨t, field, hd, hrepeat, hdest, hf, fun hc hp => hempty ⟨hc, hp⟩⟩
    · left
      unfold route
      rcases hother : t.destination with address | group | _
      · have ha : address ≠ Link.address e.link := fun ha => hdest (ha ▸ hother)
        simp only [run_bind, run_endpoint, ha, if_false]
        exact ⟨_, rfl, fun _ _ => List.not_mem_nil⟩
      · exact ⟨_, rfl, by simp⟩
      · exact ⟨_, rfl, by simp⟩
  · left
    simp only [receive, hd, run_bind, run_endpoint, hrepeat, if_true]
    exact ⟨_, rfl, fun _ _ => List.not_mem_nil⟩

theorem after_receive_of_hears (h : e.Hears frame t field) (hf : e.wayOutFree = true)
    (he : field.event? t.source = some event) (now : Instant) :
    (receive frame now).after { endpoint := e } =
      (dispatch event (some t) now).after { endpoint := noted e t } := by
  have hrun := (run_receive_of_hears h now).trans (run_accept_of_event now hf he)
  exact (after_congr hrun).trans (after_bind_pure ..)

end Turn

namespace Endpoint

open Turn

variable {L A : Type} [Link L] [Application A] {e : Endpoint L A} {call : Call} {frame : Frame}
  {t : Telegram} {field : ControlField} {event : Event}

theorem receive_ne_deferred (hf : e.wayOutFree = true) (frame : Frame) (now : Instant) :
    (e.receive frame now).result ≠ .ok .deferred := by
  have hconsumed {turn : Turn L A Unit} {c : Course L A}
      (hrun : (Turn.receive frame now).run { endpoint := e } =
        (do turn; pure Disposition.consumed).run c) :
      (e.receive frame now).result ≠ .ok .deferred := by
    unfold Endpoint.receive report
    rw [hrun, run_bind]
    rcases turn.run c with ⟨_, _⟩ | ⟨_, _⟩
    · nofun
    · nofun
  rcases consumed_or_hears e frame now with ⟨c, hrun, -⟩ | ⟨t, field, hears⟩
  · have hreport : e.receive frame now = _ := report_of_run_ok hrun
    rw [hreport]
    nofun
  · have hrun := run_receive_of_hears hears now
    rcases he : field.event? t.source with _ | event
    · exact hconsumed (hrun.trans (run_accept_of_unconnected now hf he))
    · exact hconsumed (hrun.trans (run_accept_of_event now hf he))

/-- A call with an event dispatches it, in a course that has settled its endpoint, and does no
more. -/
structure Dispatches (e : Endpoint L A) (call : Call) (event : Event) (t? : Option Telegram)
    (c : Course L A) : Prop where
  journal_eq : e.journal call = ((dispatch event t? call.now).after c).journal
  dialogue_after :
    (e.after call).dialogue = ((dispatch event t? call.now).after c).endpoint.dialogue
  journal_nil : c.journal = []
  dialogue_eq : c.endpoint.dialogue = e.ready call
  link_eq : c.endpoint.link = e.settled.link
  slot_eq : c.endpoint.slot = e.settled.slot
  application_eq : c.endpoint.application = e.application

theorem dispatches_of_hears (hframe : e.handed? call = some frame) (h : e.Hears frame t field)
    (hf : e.wayOutFree = true) (he : field.event? t.source = some event) :
    e.Dispatches call event (some t) { endpoint := noted e t } := by
  obtain ⟨hj, link, ha⟩ := after_handed hframe
  have hafter := after_receive_of_hears h hf he call.now
  have hready : e.ready call = e.dialogue := by
    cases call with
    | poll now => cases hframe
    | _ => rfl
  refine ⟨?_, ?_, rfl, hready.symm, rfl, rfl, rfl⟩
  · rw [hj, ← hafter]
    exact report_journal ..
  · rw [ha, ← hafter]
    change (e.receive frame call.now).endpoint.dialogue = _
    exact congrArg dialogue (report_endpoint ..)

theorem dispatches_of_heard (hframe : e.handed? call = some frame)
    (he : e.heard? frame = some event) : ∃ t? c, e.Dispatches call event t? c := by
  obtain ⟨t, field, hears, hfield, hf⟩ := exists_hears he
  exact ⟨_, _, dispatches_of_hears hframe hears hf hfield⟩

theorem dispatches_of_run {turn : Turn L A Unit} {t? : Option Telegram} {answers : AnswerQueue}
    {statistics : Statistics}
    (hrun : turn.run { endpoint := e } = (dispatch event t? call.now).run
      { endpoint := { e.settled with answers, statistics } })
    (hj : e.journal call = (turn.report e).journal)
    (ha : e.after call = (turn.report e).endpoint) (hd : e.ready call = ⟨e.connection, answers⟩) :
    ∃ t? c, e.Dispatches call event t? c := by
  have hafter := after_congr hrun
  refine ⟨t?, { endpoint := { e.settled with answers, statistics } }, ?_, ?_, rfl, hd.symm, rfl,
    rfl, rfl⟩
  · rw [hj, ← hafter]
    exact report_journal ..
  · rw [ha, ← hafter]
    exact congrArg dialogue (report_endpoint ..)

theorem exists_dispatches (he : e.event? call = some event) :
    ∃ t? c, e.Dispatches call event t? c := by
  cases call with
  | receive frame now => exact dispatches_of_heard rfl he
  | serve now =>
    obtain ⟨frame, hframe, he⟩ := Option.bind_eq_some_iff.mp he
    exact dispatches_of_heard hframe he
  | poll now =>
    obtain ⟨statistics, hrun⟩ := run_poll_of_due he
    exact dispatches_of_run hrun rfl rfl
      (if_pos (slot_isFree_of_wayOutFree (wayOutFree_of_due he)))
  | hangUp now =>
    obtain ⟨⟨ho, hf⟩, hevent⟩ := Option.ite_none_right_eq_some.mp he
    cases hevent
    exact dispatches_of_run (run_hangUp_of_free now ho hf) rfl rfl rfl

end Endpoint

end BusTransport
