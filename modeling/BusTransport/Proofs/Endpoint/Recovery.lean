import BusTransport.Proofs.Endpoint.Hearing
import BusTransport.Proofs.Endpoint.LinkFailure
import BusTransport.Proofs.Endpoint.WayOut

/-! # Recovery from refused frames

A refused frame is not lost while the connection lasts. Once the link works again, the same data is
accepted as new, the next poll sends the same answer, and a repetition is made up for.
-/

namespace BusTransport

namespace Turn

open Endpoint

variable {L A : Type} [Link L] {c : Course L A} {own destination : DeviceAddress}
  {field : ControlField} {frame : Frame}

theorem run_offer_of_works (hw : Link.Works own c.endpoint.link) (frame : Frame) :
    ∃ link, (offer frame).run c = .ok () {
      endpoint := { c.endpoint with link }
      journal := c.journal ++ [.offered frame none] } := by
  obtain ⟨link, hsend⟩ := Link.send_of_refusal_none (hw.refusal_eq (.refl _) frame)
  refine ⟨link, ?_⟩
  unfold offer
  simp only [run_bind, run_endpoint, hsend, run_update, run_record]

theorem run_sendControl_of_works (hs : c.endpoint.slot.isFree = true)
    (hw : Link.Works own c.endpoint.link) (hf : controlFrame own destination field = .ok frame) :
    ∃ link statistics, (sendControl destination field).run c = .ok () {
      endpoint := { c.endpoint with slot := ⟨.sending⟩, link, statistics }
      journal := c.journal ++ [.offered frame none] } := by
  obtain ⟨permit, ha⟩ := ControlSlot.acquire_of_refresh
    (ControlSlot.refresh_of_isFree hs c.endpoint.link) hs (hw.sending_eq (.refl _))
    c.endpoint.profile.slotPollLimit.toNat
  obtain ⟨link, hsend⟩ := Link.send_of_refusal_none (hw.observed.refusal_eq (.refl _) frame)
  refine ⟨link, c.endpoint.statistics.count .controlFrameSent, ?_⟩
  unfold sendControl offerControl
  simp only [run_bind, run_endpoint, hw.address_eq (.refl _), hf, run_require_ok, ha, run_update,
    ControlSlot.transmit, hsend, run_record, run_count]

theorem offerings_offer (frame : Frame) (c : Course L A) :
    ∃ refusal, offeringsIn ((offer frame).after c).journal =
      offeringsIn c.journal ++ [(frame, refusal)] := by
  rcases run_offer frame c with ⟨link, h⟩ | ⟨link, fault, h⟩
  · refine ⟨none, ?_⟩
    rw [after_of_ok h]
    exact offeringsIn_append ..
  · refine ⟨some fault, ?_⟩
    rw [after_of_error h]
    exact offeringsIn_append ..

variable [Application A] {event : Event} {t? : Option Telegram} {now : Instant}
  {decision : Decision} {refusal : Option LinkFault}

theorem offerings_dispatch (hr : c.endpoint.dialogue.react event = decision) :
    offeringsIn ((dispatch event t? now).after c).journal =
      offeringsIn ((perform t? now decision.action).after c).journal := by
  rcases h : (perform t? now decision.action).run c with ⟨_, c'⟩ | ⟨fault, c'⟩
  · rw [dispatch_of_ok hr h, after_of_ok h, offeringsIn_append]
    exact List.append_nil _
  · rw [dispatch_of_error hr h, after_of_error h]

theorem eq_of_offered {k : Unit → Turn L A Unit} (hr : c.endpoint.dialogue.react event = decision)
    (hrun : (perform t? now decision.action).run c = (offer frame >>= k).run c)
    (hk : ∀ a, Still (k a)) (hc : c.journal = []) {frame' : Frame}
    (h : .offered frame' refusal ∈ ((dispatch event t? now).after c).journal) : frame' = frame := by
  obtain ⟨refusal', ho⟩ := offerings_offer frame c
  rw [← mem_offeringsIn, offerings_dispatch hr, after_congr hrun, offerings_bind hk, ho, hc,
    offeringsIn, List.filterMap_nil, List.nil_append, List.mem_singleton] at h
  exact (Prod.mk.inj h).1

theorem frame_of_sendAnswer (hr : c.endpoint.dialogue.react .answerReady = ⟨.openWait, .sendAnswer⟩)
    (hc : c.journal = [])
    (h : .offered frame refusal ∈ ((dispatch .answerReady t? now).after c).journal) :
    ∃ entry rest, c.endpoint.answers.entries = entry :: rest ∧
      c.endpoint.dialogue.primaryFrame (Link.address c.endpoint.link) entry = .ok frame := by
  rcases hq : c.endpoint.answers.entries with _ | ⟨entry, rest⟩
  · have hp : c.endpoint.answers.primary? = none := by rw [AnswerQueue.primary?, hq]; rfl
    have hrun : (perform t? now .sendAnswer).run c = .error (.action .noQueuedAnswer) c := by
      simp only [perform, sendPrimary, run_bind, run_endpoint, hp, run_throw]
    rw [dispatch_of_error hr hrun, hc] at h
    cases h
  have hrun : (perform t? now .sendAnswer).run c = _ := run_sendPrimary now hq
  rcases hf : c.endpoint.dialogue.primaryFrame (Link.address c.endpoint.link) entry with
    fault | frame'
  · rw [hf] at hrun
    rw [dispatch_of_error hr hrun] at h
    change _ ∈ c.journal at h
    rw [hc] at h
    cases h
  · rw [hf] at hrun
    have hstill : ∀ a : Unit, Still (do
        updateAnswers (·.markSending frame')
        updateConnection (·.awaitAck now)
        count .answerSent : Turn L A Unit) := fun _ =>
      still_bind (still_updateAnswers _) fun _ =>
        still_bind (still_updateConnection _) fun _ => still_count _
    obtain rfl := eq_of_offered hr hrun hstill hc h
    exact ⟨entry, rest, rfl, hf⟩

theorem frame_of_repeatAnswer (hr : c.endpoint.dialogue.react event = ⟨.openWait, .repeatAnswer⟩)
    (hc : c.journal = [])
    (h : .offered frame refusal ∈ ((dispatch event t? now).after c).journal) :
    c.endpoint.answers.outstandingFrame? = some frame := by
  rcases hf : c.endpoint.answers.outstandingFrame? with _ | frame'
  · have hrun : (perform t? now .repeatAnswer).run c =
        .error (.action .noOutstandingAnswer) c := by
      simp only [perform, repeatPrimary, run_bind, run_endpoint, hf, run_throw]
    rw [dispatch_of_error hr hrun, hc] at h
    cases h
  · have hstill : ∀ a : Unit, Still (do
        updateConnection (·.repeated now)
        count .repetition : Turn L A Unit) := fun _ =>
      still_bind (still_updateConnection _) fun _ => still_count _
    rw [eq_of_offered hr (run_repeatAnswer hf) hstill hc h]

end Turn

namespace Connection

theorem hasRoom_of_deliver {c : Connection} {hasRoom : Bool} {event : Event} {n : SequenceNumber}
    (h : c.react hasRoom event = c.stay (.deliver n)) : hasRoom = true := by
  have hd := react_decides c hasRoom event
  rw [h] at hd
  generalize hdec : c.stay (.deliver n) = decision at hd
  cases hd with
  | deliver _ _ hroom => exact hroom
  | retryNacked =>
    unfold retry at hdec
    split at hdec <;> simp [stay] at hdec
  | retryLate =>
    unfold retry at hdec
    split at hdec <;> simp [stay] at hdec
  | _ => simp [stay] at hdec

theorem retry_of_repeatAnswer {c : Connection} {hasRoom : Bool} {event : Event}
    (h : c.react hasRoom event = ⟨.openWait, .repeatAnswer⟩) :
    c.state = .openWait ∧ c.retry = ⟨.openWait, .repeatAnswer⟩ := by
  have hd := react_decides c hasRoom event
  rw [h] at hd
  generalize hdec : (⟨.openWait, .repeatAnswer⟩ : Decision) = decision at hd
  cases hd with
  | retryNacked hs => exact ⟨hs, rfl⟩
  | retryLate hs => exact ⟨hs, rfl⟩
  | _ => simp [stay] at hdec

theorem ackOverdue_mono {c : Connection} {now later : Instant} (hle : now ≤ later)
    (h : c.ackOverdue now = true) : c.ackOverdue later = true := by
  rw [ackOverdue, Bool.and_eq_true] at h ⊢
  refine ⟨h.1, ?_⟩
  rcases hs : c.ackTimer.started with _ | start
  · simp [Timer.isExpired, hs] at h
  · simp only [Timer.isExpired, hs, decide_eq_true_eq] at h ⊢
    exact Nat.le_trans h.2 (Nat.sub_le_sub_right hle start)

end Connection

theorem Telegram.eq_of_agreesWith {t u : Telegram} (h : t.agreesWith u = true) :
    u = { t with repeated := u.repeated } := by
  obtain ⟨⟩ := t
  obtain ⟨⟩ := u
  simp_all [agreesWith]

namespace Endpoint

open Dialogue Turn

variable {L A : Type} [Link L] {e : Endpoint L A}

theorem wayOutFree_of_works {own : DeviceAddress} (hs : e.slot.isFree = true)
    (hw : Link.Works own e.link) :
    e.wayOutFree = true ∧ e.settled = { e with link := Link.observed e.link } := by
  have hrefreshed : e.refreshed = e := by
    unfold refreshed
    rw [ControlSlot.refresh_of_isFree hs]
  constructor
  · rw [wayOutFree, hrefreshed, hs, hw.sending_eq (.refl _)]
    rfl
  · rw [settled, hrefreshed]

theorem settled_of_works {own : DeviceAddress} (hs : e.slot.state ≠ .acquired)
    (hw : Link.Works own e.link) : e.wayOutFree = true ∧ e.settled.slot.isFree = true ∧
      Link.Works own e.settled.link := by
  have hread : Link.Reads e.link e.refreshed.link := ControlSlot.reads_refresh e.slot e.link
  have hfree : e.refreshed.slot.isFree = true := by
    change (e.slot.refresh e.link).1.isFree = true
    rcases hstate : e.slot.state with _ | _ | _
    · simp [ControlSlot.refresh, ControlSlot.isFree, hstate]
    · exact absurd hstate hs
    · simp [ControlSlot.refresh, ControlSlot.isFree, hstate, hw.sending_eq (.refl _)]
  refine ⟨?_, hfree, ?_⟩
  · rw [wayOutFree, hfree, hw.sending_eq hread]
    rfl
  · exact {
      address_eq := fun h => hw.address_eq (hread.observed.trans h)
      sending_eq := fun h => hw.sending_eq (hread.observed.trans h)
      refusal_eq := fun h => hw.refusal_eq (hread.observed.trans h) }

variable [Application A] {next : Endpoint L A} {call call' : Call} {frame first again : Frame}
  {fault : LinkFault} {t u : Telegram} {p own : DeviceAddress} {n : SequenceNumber}
  {now now' : Instant}

theorem Dispatches.works {event : Event} {t? : Option Telegram} {c : Course L A}
    (h : e.Dispatches call event t? c) (hs : e.slot.isFree = true) (hw : Link.Works own e.link) :
    c.endpoint.slot.isFree = true ∧ Link.Works own c.endpoint.link := by
  obtain ⟨-, hsettled⟩ := wayOutFree_of_works hs hw
  rw [h.slot_eq, h.link_eq, hsettled]
  exact ⟨hs, hw.observed⟩

/-- Where the dispatch of its event leads, a call leads. -/
theorem Dispatches.leads {event : Event} {t? : Option Telegram} {c : Course L A}
    {journal : List Activity} {d : Dialogue} (h : e.Dispatches call event t? c)
    (hleads : Leads (dispatch event t? call.now) c journal d) :
    e.journal call = journal ∧ (e.after call).dialogue = d := by
  refine ⟨?_, h.dialogue_after.trans hleads.dialogue_eq⟩
  rw [h.journal_eq, hleads.journal_eq, h.journal_nil]
  rfl

/-- What a later call finds after a refusal that left the connection alone. -/
structure Resumes (e : Endpoint L A) (call : Call) (next : Endpoint L A) : Prop where
  kept : e.Kept call
  connection_eq : next.connection = e.connection
  answers_eq : next.answers = (e.ready call).answers
  slot_isFree : next.slot.isFree = true

theorem resumes_of_refused (h : .offered frame (some fault) ∈ e.journal call)
    (hnot : ∀ event, e.event? call = some event → ¬ e.connection.Breaks event)
    (hnext : Run (e.after call) [] next) : e.Resumes call next := by
  have hkept := (kept_or_broken h).resolve_right fun hb =>
    let ⟨event, he, hbreaks⟩ := hb.cause
    hnot event he hbreaks
  have hslot := slot_isFree_of_refused h
  obtain ⟨_, _, _, rfl⟩ := hnext.eq_of_nil
  exact ⟨hkept, hkept.connection_eq, congrArg Dialogue.answers hkept.dialogue_eq, hslot⟩

theorem Resumes.dispatches {event : Event} (h : e.Resumes call next)
    (hw : Link.Works own next.link) (hdue : next.due? now = some event) (frame : Frame) :
    ∃ t? c link, next.Dispatches (.poll now) event t? c ∧
      c.endpoint.dialogue = ⟨e.connection, e.answers.release⟩ ∧
      Link.address c.endpoint.link = own ∧ (offer frame).run c = .ok () {
        endpoint := { c.endpoint with link }
        journal := c.journal ++ [.offered frame none] } := by
  have hevent : next.event? (.poll now) = some event := hdue
  obtain ⟨t?, c, hd⟩ := exists_dispatches hevent
  obtain ⟨-, hcw⟩ := hd.works h.slot_isFree hw
  obtain ⟨link, hoffer⟩ := run_offer_of_works hcw frame
  refine ⟨t?, c, link, hd, ?_, hcw.address_eq (.refl _), hoffer⟩
  have hfree := (wayOutFree_of_works h.slot_isFree hw).1
  rw [hd.dialogue_eq, ← h.connection_eq, ← answers_ready_release e call, ← h.answers_eq]
  exact if_pos (slot_isFree_of_wayOutFree hfree)

omit [Application A] in
theorem Hears.repeated {field : ControlField} (h : e.Hears first t field)
    (hu : Telegram.decode again = .ok u) (hagree : t.agreesWith u = true)
    (hclear : u.repeated = false) (haddress : Link.address next.link = Link.address e.link) :
    next.Hears again u field := by
  have hfresh : next.isRepeatOfLast u = false := by rw [isRepeatOfLast, hclear, Bool.false_and]
  have heq := Telegram.eq_of_agreesWith hagree
  refine ⟨hu, hfresh, ?_, ?_, ?_⟩
  · rw [heq, haddress]
    exact h.destination
  · rw [heq]
    exact h.known
  · rw [heq]
    exact h.command

theorem redelivers (h : .offered frame (some fault) ∈ e.journal call)
    (hevent : e.event? call = some (.data p n))
    (hnew : e.dialogue.react (.data p n) = e.connection.stay (.deliver n))
    (hfirst : e.handed? call = some first) (ht : Telegram.decode first = .ok t)
    (hnext : Run (e.after call) [] next) (hw : Link.Works (Link.address e.link) next.link)
    (hagain : next.handed? call' = some again) (hu : Telegram.decode again = .ok u)
    (hagree : t.agreesWith u = true) (hclear : u.repeated = false) :
    ∃ r ack, Request.ofTelegram? u (some n) = some r ∧
      controlFrame (Link.address e.link) p (.ack n) = .ok ack ∧
      next.journal call' = [.offered ack none,
        .requested r (Application.respond next.application r).1, .performed (.deliver n)] ∧
      (next.after call').dialogue = ⟨e.connection.acceptRequest n call'.now,
        e.answers.add r (Application.respond next.application r).1⟩ := by
  have hresumes : e.Resumes call next := resumes_of_refused h (fun event he hb => by
    rw [hevent] at he
    cases he
    cases hb) hnext
  have hd : next.dialogue = e.dialogue := by
    -- the data came in a frame, so that the call was no poll
    have hready : e.ready call = e.dialogue := by
      cases call with
      | poll now => cases hfirst
      | _ => rfl
    rw [dialogue, hresumes.connection_eq, hresumes.answers_eq, hready]
    rfl
  rw [event?_of_handed hfirst] at hevent
  obtain ⟨t', field, hears, hfield, -⟩ := exists_hears hevent
  obtain rfl : t' = t := Except.ok.inj (hears.decoded.symm.trans ht)
  obtain ⟨hcontrol, hsource⟩ := isControl_of_event? hfield
  have hhears := hears.repeated hu hagree hclear (hw.address_eq (.refl _))
  obtain ⟨r, hr⟩ := exists_request (hhears.command hcontrol) (some n)
  obtain ⟨ack, hack⟩ := exists_controlFrame (Link.address e.link) p (.ack n)
  refine ⟨r, ack, hr, hack, ?_⟩
  have hsource' : u.source = t'.source := congrArg (·.source) (Telegram.eq_of_agreesWith hagree)
  rw [← hsource'] at hsource hfield
  have hfree := (wayOutFree_of_works hresumes.slot_isFree hw).1
  have hdispatches := dispatches_of_hears hagain hhears hfree hfield
  have hreact : (noted next u).dialogue.react (.data p n) =
      (noted next u).connection.stay (.deliver n) := by
    change next.dialogue.react _ = next.dialogue.connection.stay _
    rw [hd]
    exact hnew
  have hroom : (noted next u).answers.hasRoom = true := by
    change next.dialogue.answers.hasRoom = true
    rw [hd]
    exact Connection.hasRoom_of_deliver hnew
  obtain ⟨hcslot, hcw⟩ := hdispatches.works hresumes.slot_isFree hw
  obtain ⟨link, statistics, hsent⟩ := run_sendControl_of_works hcslot hcw (hsource ▸ hack)
  obtain ⟨hjournal, hdialogue⟩ := hdispatches.leads <|
    leads_deliver hroom hr hreact (by rw [run_deliver hr, run_bind, hsent])
  refine ⟨hjournal, hdialogue.trans ?_⟩
  change Dialogue.mk (next.dialogue.connection.acceptRequest n call'.now)
    (next.dialogue.answers.add r _) = _
  rw [hd]
  rfl

omit [Application A] in
theorem due_of_event {event : Event} (h : e.event? call = some event)
    (hevent : event = .answerReady ∨ event = .ackTimeout) : e.due? call.now = some event := by
  have hnever {frame : Frame} : e.heard? frame ≠ some event := by
    intro hheard
    obtain ⟨t, field, -, hfield, -⟩ := exists_hears hheard
    rcases hevent with rfl | rfl <;> cases field <;> simp [ControlField.event?] at hfield
  cases call with
  | receive frame now => exact absurd h hnever
  | serve now =>
    obtain ⟨frame, -, hheard⟩ := Option.bind_eq_some_iff.mp h
    exact absurd hheard hnever
  | poll now => exact h
  | hangUp now =>
    obtain ⟨-, hhangUp⟩ := Option.ite_none_right_eq_some.mp h
    rcases hevent with rfl | rfl <;> cases hhangUp

omit [Application A] in
theorem due?_of_free (hf : e.wayOutFree = true) (hopen : e.connection.idleOverdue now = false) :
    e.due? now =
      if e.connection.state = .openIdle ∧ e.answers.release.primaryReady ∧
        Link.idle e.settled.link then some .answerReady
      else if e.connection.ackOverdue now then some .ackTimeout
      else none := by
  simp only [due?, hf, hopen, Bool.true_eq_false, Bool.false_eq_true, if_false]

theorem journal_poll_of_not_due (h : e.due? now = none) : e.journal (.poll now) = [] := by
  rw [show e.journal (.poll now) = _ from report_journal ..]
  rcases hf : e.wayOutFree with _ | _
  · obtain ⟨link, hrun⟩ := run_poll_of_occupied now hf
    rw [after_of_ok hrun]
  · rw [after_of_ok (run_poll_of_not_due hf h)]

theorem resends (h : .offered frame (some fault) ∈ e.journal call)
    (hevent : e.event? call = some .answerReady) (hnext : Run (e.after call) [] next)
    (hw : Link.Works e.own next.link) (hidle : Link.idle next.settled.link = true)
    (hopen : next.connection.idleOverdue now = false) :
    next.journal (.poll now) = [.offered frame none, .performed .sendAnswer] ∧
      (next.after (.poll now)).connection.state = .openWait ∧
      (next.after (.poll now)).answers.outstandingFrame? = some frame := by
  have hresumes : e.Resumes call next := resumes_of_refused h (fun event he hb => by
    rw [hevent] at he
    cases he
    cases hb) hnext
  obtain ⟨hs, hready⟩ := of_due_answerReady (due_of_event hevent (.inl rfl))
  have hr : e.dialogue.react .answerReady = ⟨.openWait, .sendAnswer⟩ := if_pos hs
  -- the frame is that of the primary answer
  obtain ⟨t?, c, hd⟩ := exists_dispatches hevent
  rw [hd.journal_eq] at h
  obtain ⟨entry, rest, hq, hf⟩ := frame_of_sendAnswer
    (by rw [hd.dialogue_eq, react_ready, hr]) hd.journal_nil h
  change c.endpoint.dialogue.answers.entries = _ at hq
  rw [hd.dialogue_eq, hd.link_eq] at hf
  rw [hd.dialogue_eq] at hq
  -- the next poll finds it due again
  have hdue : next.due? now = some .answerReady := by
    have hcond : next.connection.state = .openIdle ∧ next.answers.release.primaryReady = true ∧
        Link.idle next.settled.link = true := by
      refine ⟨by rw [hresumes.connection_eq, hs], ?_, hidle⟩
      rw [hresumes.answers_eq, answers_ready_release, hready]
    have hfree := (wayOutFree_of_works hresumes.slot_isFree hw).1
    rw [due?_of_free hfree hopen, if_pos hcond]
  obtain ⟨t?', c', link, hd', hc', hown, hoffer⟩ := hresumes.dispatches hw hdue frame
  have hr' : c'.endpoint.dialogue.react .answerReady = ⟨.openWait, .sendAnswer⟩ := by
    rw [hc']
    exact if_pos hs
  have hq' : c'.endpoint.answers.entries = entry.released :: rest.map PendingAnswer.released := by
    change c'.endpoint.dialogue.answers.entries = _
    rw [hc', ← answers_ready_release e call]
    exact congrArg (List.map _) hq
  have hf' : c'.endpoint.dialogue.primaryFrame (Link.address c'.endpoint.link) entry.released =
      .ok frame := by
    rw [hc', hown, ← hf]
    unfold primaryFrame
    rw [connection_ready]
    rfl
  obtain ⟨hjournal, hdialogue⟩ := hd'.leads (leads_sendAnswer hr' hq' hf' hoffer)
  exact ⟨hjournal, congrArg (·.connection.state) hdialogue,
    congrArg (·.answers.outstandingFrame?) hdialogue⟩

/-- A poll makes up for a repetition that was refused, as soon as the acknowledgement is late. -/
theorem repeats {event : Event} (h : .offered frame (some fault) ∈ e.journal call)
    (hevent : e.event? call = some event)
    (hr : e.dialogue.react event = ⟨.openWait, .repeatAnswer⟩) (hnext : Run (e.after call) [] next)
    (hw : Link.Works e.own next.link) (hopen : next.connection.idleOverdue now = false)
    (hlate : event = .ackTimeout ∧ call.now ≤ now ∨ next.connection.ackOverdue now = true) :
    next.journal (.poll now) = [.offered frame none, .performed .repeatAnswer] ∧
      (next.after (.poll now)).dialogue = ⟨e.connection.repeated now, e.answers.release⟩ := by
  have hresumes : e.Resumes call next := resumes_of_refused h (fun event' he hb => by
    rw [hevent] at he
    cases he
    simp [(Connection.breaks_iff e.answers.hasRoom).mp hb, dialogue, Dialogue.react] at hr) hnext
  obtain ⟨hs, hretry⟩ := Connection.retry_of_repeatAnswer hr
  -- the frame is the outstanding one
  obtain ⟨t?, c, hd⟩ := exists_dispatches hevent
  rw [hd.journal_eq] at h
  have hf := frame_of_repeatAnswer (by rw [hd.dialogue_eq, react_ready, hr]) hd.journal_nil h
  change c.endpoint.dialogue.answers.outstandingFrame? = _ at hf
  rw [hd.dialogue_eq] at hf
  -- the next poll finds the acknowledgement late
  have hlate' : next.connection.ackOverdue now = true := by
    rcases hlate with ⟨rfl, hle⟩ | hlate
    · rw [hresumes.connection_eq]
      exact Connection.ackOverdue_mono hle (of_due_ackTimeout (due_of_event hevent (.inr rfl)))
    · exact hlate
  have hdue : next.due? now = some .ackTimeout := by
    have hcond : ¬ (next.connection.state = .openIdle ∧ next.answers.release.primaryReady = true ∧
        Link.idle next.settled.link = true) := by
      rw [hresumes.connection_eq]
      change e.connection.state = .openWait at hs
      simp [hs]
    have hfree := (wayOutFree_of_works hresumes.slot_isFree hw).1
    rw [due?_of_free hfree hopen, if_neg hcond, if_pos hlate']
  obtain ⟨t?', c', link, hd', hc', -, hoffer⟩ := hresumes.dispatches hw hdue frame
  have hr' : c'.endpoint.dialogue.react .ackTimeout = ⟨.openWait, .repeatAnswer⟩ := by
    rw [hc']
    exact (if_pos hs).trans hretry
  have hs' : c'.endpoint.connection.state = .openWait := by
    change c'.endpoint.dialogue.connection.state = .openWait
    rw [hc']
    exact hs
  have hf' : c'.endpoint.answers.outstandingFrame? = some frame := by
    change c'.endpoint.dialogue.answers.outstandingFrame? = some frame
    rw [hc', ← answers_ready_release e call]
    exact (AnswerQueue.outstandingFrame?_release _).trans hf
  obtain ⟨hjournal, hdialogue⟩ := hd'.leads (leads_repeatAnswer hs' hr' hf' hoffer)
  refine ⟨hjournal, hdialogue.trans ?_⟩
  change Dialogue.mk (c'.endpoint.dialogue.connection.repeated now)
    c'.endpoint.dialogue.answers = _
  rw [hc']

def Hands (e : Endpoint L A) (call : Call) (t : Telegram) : Prop :=
  ∃ frame, e.handed? call = some frame ∧ Telegram.decode frame = .ok t

/-- How an endpoint gets over the refusal of a frame. A later call finds it as the refusal has left
it, though link, application and counters may have changed meanwhile. -/
structure Endures (e : Endpoint L A) (call : Call) (frame : Frame) (fault : LinkFault) : Prop where
  slot_isFree : (e.after call).slot.isFree = true
  kept_or_broken : e.Kept call ∨ e.Broken call frame fault
  /-- New data is new again, and is delivered. -/
  redelivers : ∀ {next call' t u p n}, Run (e.after call) [] next →
    e.event? call = some (.data p n) →
    e.dialogue.react (.data p n) = e.connection.stay (.deliver n) → e.Hands call t →
    Link.Works (Link.address e.link) next.link → next.Hands call' u → t.agreesWith u = true →
    u.repeated = false →
    ∃ r ack, Request.ofTelegram? u (some n) = some r ∧
      controlFrame (Link.address e.link) p (.ack n) = .ok ack ∧
      next.journal call' = [.offered ack none,
        .requested r (Application.respond next.application r).1, .performed (.deliver n)] ∧
      (next.after call').dialogue = ⟨e.connection.acceptRequest n call'.now,
        e.answers.add r (Application.respond next.application r).1⟩
  /-- An answer is sent by the next poll. -/
  resends : ∀ {next now}, Run (e.after call) [] next → e.event? call = some .answerReady →
    Link.Works e.own next.link → Link.idle next.settled.link = true →
    next.connection.idleOverdue now = false →
    next.journal (.poll now) = [.offered frame none, .performed .sendAnswer] ∧
      (next.after (.poll now)).connection.state = .openWait ∧
      (next.after (.poll now)).answers.outstandingFrame? = some frame
  /-- A repetition is made up for by a poll, once the acknowledgement is late. -/
  repeats : ∀ {next now event}, Run (e.after call) [] next → e.event? call = some event →
    e.dialogue.react event = ⟨.openWait, .repeatAnswer⟩ → Link.Works e.own next.link →
    next.connection.idleOverdue now = false →
    event = .ackTimeout ∧ call.now ≤ now ∨ next.connection.ackOverdue now = true →
    next.journal (.poll now) = [.offered frame none, .performed .repeatAnswer] ∧
      (next.after (.poll now)).dialogue = ⟨e.connection.repeated now, e.answers.release⟩

end Endpoint

/-- Whenever the link refuses a frame, the dialogue is kept or broken off as a whole, and what was
kept goes on once the link works again. -/
theorem endures_of_refused {L A : Type} [Link L] [Application A] {e : Endpoint L A} {call : Call}
    {frame : Frame} {fault : LinkFault} (h : .offered frame (some fault) ∈ e.journal call) :
    e.Endures call frame fault where
  slot_isFree := Endpoint.slot_isFree_of_refused h
  kept_or_broken := Endpoint.kept_or_broken h
  redelivers hnext hevent hnew ht hw hu hagree hclear := by
    obtain ⟨first, hfirst, ht⟩ := ht
    obtain ⟨again, hagain, hu⟩ := hu
    exact Endpoint.redelivers h hevent hnew hfirst ht hnext hw hagain hu hagree hclear
  resends hnext hevent hw hidle hopen := Endpoint.resends h hevent hnext hw hidle hopen
  repeats hnext hevent hr hw hopen hlate := Endpoint.repeats h hevent hr hnext hw hopen hlate

/-! The guest sends a request while the host cannot send, and once more when it can. -/

namespace Sample

/-- The host behind a mailbox, connected to the guest, when the receiver of its frames is gone. -/
def cutOff : Endpoint MailboxLink Responder :=
  let e : Endpoint MailboxLink Responder := {
    link := { address := host.link.address }
    application := host.application
    profile := host.profile
    connection := host.connection }
  { e.after (.receive (control .connect) 0) with
    link := { address := host.link.address, attached := false } }

def backAgain : Endpoint MailboxLink Responder :=
  { cutOff.after (.receive (request 0) 1) with link := { address := host.link.address } }

end Sample

open Sample in
theorem endures_cutOff : ∃ frame fault,
    .offered frame (some fault) ∈ cutOff.journal (.receive (request 0) 1) ∧
      cutOff.Endures (.receive (request 0) 1) frame fault ∧
      ∃ r answer, backAgain.journal (.receive (request 0) 2) =
        [.offered frame none, .requested r answer, .performed (.deliver 0)] := by
  let frame := (Endpoint.controlFrame host.link.address guest (.ack 0)).toOption.getD []
  have h : .offered frame (some (.failed "outbound channel closed")) ∈
      cutOff.journal (.receive (request 0) 1) := by decide
  have hendures := endures_of_refused h
  have hnext : Run (cutOff.after (.receive (request 0) 1)) [] backAgain := .outside _ _ _ .start
  have hw : Link.Works cutOff.link.address backAgain.link := by
    have hattached : backAgain.link.attached = true := rfl
    exact MailboxLink.works hattached
  have hevent : cutOff.event? (.receive (request 0) 1) = some (.data guest 0) := by decide
  let t : Telegram := ⟨.normal, false, guest, .individual host.link.address,
    Telegram.ownRoutingCounter, (ControlField.numbered 0 3).encode, [0], by decide⟩
  have hdecode : Telegram.decode (request 0) = .ok t := rfl
  have ht : cutOff.Hands (.receive (request 0) 1) t := ⟨_, rfl, hdecode⟩
  have hu : backAgain.Hands (.receive (request 0) 2) t := ⟨_, rfl, hdecode⟩
  obtain ⟨r, ack, -, hack, hj, -⟩ :=
    hendures.redelivers hnext hevent (by decide) ht hw hu (by decide) rfl
  obtain rfl : ack = frame := Except.ok.inj (hack.symm.trans rfl)
  exact ⟨_, _, h, hendures, r, _, hj⟩

end BusTransport
