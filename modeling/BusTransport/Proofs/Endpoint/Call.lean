import BusTransport.Proofs.Endpoint.Dispatch

/-! # Calls

The owner of an endpoint starts its turns by calls. A call confronts the connection with at most one
event, which its input and the endpoint before it determine, and is a step of the dialogue with that
event.
-/

namespace BusTransport

/-- What the owner of an endpoint asks of it. -/
inductive Call where
  | receive (frame : Frame) (now : Instant)
  | serve (now : Instant)
  | poll (now : Instant)
  | hangUp (now : Instant)
  deriving DecidableEq, Repr

def Call.now : Call → Instant
  | receive _ now | serve now | poll now | hangUp now => now

namespace Endpoint

variable {L A : Type} [Link L]

/-- The endpoint after the control slot was freed, if the link has finished its frame. -/
def refreshed (e : Endpoint L A) : Endpoint L A :=
  { e with slot := (e.slot.refresh e.link).1, link := (e.slot.refresh e.link).2 }

/-- Whether neither the control slot nor the link is occupied. -/
def wayOutFree (e : Endpoint L A) : Bool :=
  e.refreshed.slot.isFree && !Link.sending e.refreshed.link

/-- The endpoint as it is when an event is dispatched: the link was read once more. -/
def settled (e : Endpoint L A) : Endpoint L A :=
  { e.refreshed with link := Link.observed e.refreshed.link }

/-- The endpoint after it has looked for a free way out in vain: the link is read a second time
only if the control slot is free. -/
def looked (e : Endpoint L A) : Endpoint L A :=
  { e.refreshed with
    link := if e.refreshed.slot.isFree then Link.observed e.refreshed.link
      else e.refreshed.link }

/-- The address under which an endpoint answers. -/
def own (e : Endpoint L A) : DeviceAddress := Link.address e.settled.link

/-- The event that a telegram means to an endpoint: it has to be a telegram for this device with a
known control field, data has to have a command, and the way out has to be free. -/
def eventOf? (e : Endpoint L A) (t : Telegram) : Option Event :=
  if t.destination = .individual (Link.address e.link) then
    match ControlField.decode t.tpci with
    | .error _ => none
    | .ok field =>
      if field.isControl = false ∧ t.payload = [] ∨ e.wayOutFree = false then none
      else field.event? t.source
  else none

def heard? (e : Endpoint L A) (frame : Frame) : Option Event :=
  match Telegram.decode frame with
  | .error _ => none
  | .ok t => if e.isRepeatOfLast t then none else e.eventOf? t

/-- The duty that is due at an instant. -/
def due? (e : Endpoint L A) (now : Instant) : Option Event :=
  if e.wayOutFree = false then none
  else if e.connection.idleOverdue now then some .idleTimeout
  else if e.connection.state = .openIdle ∧ e.answers.release.primaryReady ∧
    Link.idle e.settled.link then some .answerReady
  else if e.connection.ackOverdue now then some .ackTimeout
  else none

/-- The event with which a call confronts the connection. -/
def event? (e : Endpoint L A) : Call → Option Event
  | .receive frame _ => e.heard? frame
  | .serve _ => (Link.received e.link).bind e.heard?
  | .poll now => e.due? now
  | .hangUp _ => if e.connection.isOpen ∧ e.wayOutFree then some .userDisconnect else none

/-- The dialogue that the event of a call finds; a poll notes that acknowledgements have left. -/
def ready (e : Endpoint L A) : Call → Dialogue
  | .poll _ => if e.refreshed.slot.isFree then e.dialogue.released else e.dialogue
  | .receive .. | .serve _ | .hangUp _ => e.dialogue

theorem ready_cases (e : Endpoint L A) (call : Call) :
    e.ready call = e.dialogue ∨ e.ready call = e.dialogue.released := by
  cases call with
  | poll now =>
    simp only [ready]
    split_ifs
    · exact .inr rfl
    · exact .inl rfl
  | receive frame now => exact .inl rfl
  | serve now => exact .inl rfl
  | hangUp now => exact .inl rfl

@[elab_as_elim]
theorem ready_induction {motive : Dialogue → Prop} (e : Endpoint L A) (call : Call)
    (kept : motive e.dialogue) (released : motive e.dialogue.released) : motive (e.ready call) := by
  rcases e.ready_cases call with h | h
  · rwa [h]
  · rwa [h]

theorem connection_ready (e : Endpoint L A) (call : Call) :
    (e.ready call).connection = e.connection :=
  e.ready_induction call rfl rfl

theorem wayOutFree_of_due {e : Endpoint L A} {now : Instant} {event : Event}
    (h : e.due? now = some event) : e.wayOutFree = true := by
  rcases hf : e.wayOutFree with _ | _
  · simp [due?, hf] at h
  · rfl

theorem of_due_answerReady {e : Endpoint L A} {now : Instant} (h : e.due? now = some .answerReady) :
    e.connection.state = .openIdle ∧ e.answers.release.primaryReady = true := by
  unfold due? at h
  split_ifs at h with h₁ h₂ h₃
  · cases h
  · exact ⟨h₃.1, h₃.2.1⟩
  · cases h

theorem of_due_ackTimeout {e : Endpoint L A} {now : Instant} (h : e.due? now = some .ackTimeout) :
    e.connection.ackOverdue now = true := by
  unfold due? at h
  split_ifs at h with h₁ h₂ h₃ h₄
  · cases h
  · cases h
  · exact h₄

variable [Application A]

def journal (e : Endpoint L A) : Call → List Activity
  | .receive frame now => (e.receive frame now).journal
  | .serve now => (e.serve now).journal
  | .poll now => (e.poll now).journal
  | .hangUp now => (e.hangUp now).journal

def after (e : Endpoint L A) : Call → Endpoint L A
  | .receive frame now => (e.receive frame now).endpoint
  | .serve now => (e.serve now).endpoint
  | .poll now => (e.poll now).endpoint
  | .hangUp now => (e.hangUp now).endpoint

def outcome (e : Endpoint L A) : Call → Except Fault (Option Disposition)
  | .receive frame now => (e.receive frame now).result.map some
  | .serve now => (e.serve now).result
  | .poll now => (e.poll now).result.map fun _ => none
  | .hangUp now => (e.hangUp now).result.map fun _ => none

end Endpoint

namespace Turn

open Endpoint Dialogue

variable {L A α β : Type} [Link L]

section Reading

variable {e : Endpoint L A}

theorem run_refreshSlot (c : Course L A) :
    refreshSlot.run c = .ok () { c with endpoint := c.endpoint.refreshed } := rfl

theorem run_outboundFree (c : Course L A) :
    outboundFree.run c =
      if c.endpoint.slot.isFree then
        .ok (!Link.sending c.endpoint.link)
          { c with endpoint := { c.endpoint with link := Link.observed c.endpoint.link } }
      else .ok false c := by
  unfold outboundFree
  rw [run_bind, run_endpoint]
  dsimp only
  split_ifs <;> rfl

theorem slot_isFree_of_wayOutFree (h : e.wayOutFree = true) : e.refreshed.slot.isFree = true := by
  rw [wayOutFree, Bool.and_eq_true] at h
  exact h.1

theorem run_outboundFree_of_free (journal : List Activity) (h : e.wayOutFree = true) :
    outboundFree.run { endpoint := e.refreshed, journal } =
      .ok true { endpoint := e.settled, journal } := by
  rw [run_outboundFree, if_pos (slot_isFree_of_wayOutFree h)]
  rw [wayOutFree, Bool.and_eq_true] at h
  dsimp only
  rw [h.2]
  rfl

theorem run_outboundFree_of_wait (journal : List Activity) (h : e.wayOutFree = false) :
    outboundFree.run { endpoint := e.refreshed, journal } =
      .ok false { endpoint := e.looked, journal } := by
  rw [run_outboundFree]
  by_cases hs : e.refreshed.slot.isFree = true
  · have hl : (!Link.sending e.refreshed.link) = false := by
      simpa only [wayOutFree, hs, Bool.true_and] using h
    rw [if_pos hs, looked, if_pos hs]
    dsimp only
    rw [hl]
  · rw [if_neg hs, looked, if_neg hs]

end Reading

/-- A turn is a step of a dialogue with an event, keeps the profile, and leaves no permit behind. -/
structure Conducts (turn : Turn L A α) (e : Endpoint L A) (now : Instant) (d : Dialogue)
    (event? : Option Event) : Prop where
  step : Step e.own now d event? (turn.after { endpoint := e }).journal
    (turn.after { endpoint := e }).endpoint.dialogue
  profile_eq : (turn.after { endpoint := e }).endpoint.profile = e.profile
  slot_acquired : (turn.after { endpoint := e }).endpoint.slot.state = .acquired →
    e.slot.state = .acquired

variable {turn : Turn L A α} {e : Endpoint L A} {now : Instant} {d : Dialogue}
  {event? : Option Event} {c : Course L A}

theorem refreshed_slot_acquired (e : Endpoint L A) (h : e.refreshed.slot.state = .acquired) :
    e.slot.state = .acquired := by
  rcases ControlSlot.refresh_fst e.slot e.link with hs | hs
  · rwa [← hs]
  · rw [show e.refreshed.slot = ⟨.free⟩ from hs] at h
    cases h

theorem conducts_quiet (ha : turn.after { endpoint := e } = c)
    (hj : Quiet e.own c.journal) (hd : c.endpoint.dialogue = d)
    (hp : c.endpoint.profile = e.profile)
    (hs : c.endpoint.slot.state = .acquired → e.slot.state = .acquired) :
    Conducts turn e now d none := by
  subst ha
  exact ⟨hd ▸ .quiet hj, hp, hs⟩

/-- A turn that has settled its endpoint and goes on with another turn does what that one does. -/
theorem conducts_of_leads {turn' : Turn L A β} {e' : Endpoint L A} {journal : List Activity}
    {d' : Dialogue} (ha : turn.after { endpoint := e } = turn'.after { endpoint := e' })
    (hleads : Leads turn' { endpoint := e' } journal d')
    (hstep : Step e.own now d event? journal d') (hp : e'.profile = e.profile)
    (hs : e'.slot = e.refreshed.slot) : Conducts turn e now d event? := by
  have hj : (turn'.after { endpoint := e' }).journal = journal := hleads.journal_eq
  constructor
  · rw [ha, hj, hleads.dialogue_eq]
    exact hstep
  · rw [ha, hleads.profile_eq, hp]
  · rw [ha]
    intro h
    exact refreshed_slot_acquired e (hs ▸ hleads.slot_acquired h)

variable [Application A] {t : Telegram}

theorem run_replyDirectly {r : Request} (hr : Request.ofTelegram? t none = some r)
    (c : Course L A) : (replyDirectly t).run c =
      match (Application.respond c.endpoint.application r).1 with
      | none => .ok () (asked r c)
      | some answer =>
        match answerFrame (Link.address c.endpoint.link) r.source r.priority
            (.unnumbered answer.commandHigh) answer with
        | .error fault => .error (.frame fault) (asked r c)
        | .ok frame => (do offer frame; count .answerSent).run (asked r c) := by
  have hlink : (asked r c).endpoint.link = c.endpoint.link := rfl
  have hsource := Request.source_of_telegram hr
  have hpriority := Request.priority_of_telegram hr
  rcases ha : (Application.respond c.endpoint.application r).1 with _ | answer
  · simp only [replyDirectly, hr, run_bind, run_ask, ha, run_pure]
  · simp only [replyDirectly, hr, run_bind, run_ask, ha, run_endpoint, hlink, ← hsource,
      ← hpriority]
    rcases answerFrame (Link.address c.endpoint.link) r.source r.priority
      (.unnumbered answer.commandHigh) answer with fault | frame
    · rw [run_require_error]
    · rw [run_require_ok]

theorem replyDirectly_leads {r : Request} (hr : Request.ofTelegram? t none = some r) :
    ∃ journal, Leads (replyDirectly t) c journal c.endpoint.dialogue ∧
      Reply (Link.address c.endpoint.link) r journal := by
  have hrun := run_replyDirectly hr c
  rcases ha : (Application.respond c.endpoint.application r).1 with _ | answer
  · rw [ha] at hrun
    have hleads := leads_of_after (after_of_ok hrun) rfl rfl rfl id
    exact ⟨_, hleads, .unanswered⟩
  rcases hf : answerFrame (Link.address c.endpoint.link) r.source r.priority
      (.unnumbered answer.commandHigh) answer with fault | frame
  · simp only [ha, hf] at hrun
    have hleads := leads_of_after (after_of_error hrun) rfl rfl rfl id
    exact ⟨_, hleads, .unanswered⟩
  have hjournal : (asked r c).journal = c.journal ++ [.requested r (some answer)] := by
    rw [asked, ha]
  simp only [ha, hf] at hrun
  rcases run_offer frame (asked r c) with ⟨link, h⟩ | ⟨link, fault, h⟩
  · simp only [run_bind, h, run_count, hjournal] at hrun
    have hleads := leads_of_after (after_of_ok hrun) (List.append_assoc ..) rfl rfl id
    exact ⟨_, hleads, .answered hf⟩
  · simp only [run_bind, h, hjournal] at hrun
    have hleads := leads_of_after (after_of_error hrun) (List.append_assoc ..) rfl rfl id
    exact ⟨_, hleads, .answered hf⟩

/-- The endpoint with a telegram of a known kind noted, as it is when the telegram is acted on. -/
def noted (e : Endpoint L A) (t : Telegram) : Endpoint L A :=
  { e.settled with
    statistics := e.statistics.count .frameReceived
    lastTelegram := some t }

theorem exists_request (hp : t.payload ≠ []) (n : Option SequenceNumber) :
    ∃ r, Request.ofTelegram? t n = some r := by
  unfold Request.ofTelegram?
  split
  · next h => exact absurd h hp
  · exact ⟨_, rfl⟩

theorem isControl_of_unconnected {field : ControlField} {p : DeviceAddress}
    (h : field.event? p = none) : field.isControl = false := by
  cases field with
  | unnumbered high => rfl
  | _ => cases h

theorem isControl_of_event? {field : ControlField} {p q : DeviceAddress} {n : SequenceNumber}
    (h : field.event? q = some (.data p n)) : field.isControl = false ∧ q = p := by
  cases field <;> simp [ControlField.event?] at h
  exact ⟨rfl, h.1⟩

theorem run_accept_of_wait (t : Telegram) (field : ControlField) (now : Instant)
    (hf : e.wayOutFree = false) :
    (accept t field now).run { endpoint := e } = .ok .deferred { endpoint := e.looked } := by
  unfold accept
  simp only [run_bind, run_refreshSlot, run_outboundFree_of_wait [] hf, Bool.false_eq_true,
    if_false, run_pure]

theorem run_accept_of_occupied (t : Telegram) (field : ControlField) (now : Instant)
    (hf : e.wayOutFree = false) : ∃ link, (accept t field now).run { endpoint := e } =
      .ok .deferred { endpoint := { e.refreshed with link } } :=
  ⟨_, run_accept_of_wait t field now hf⟩

theorem run_accept_of_unconnected {field : ControlField} (now : Instant) (hf : e.wayOutFree = true)
    (he : field.event? t.source = none) : (accept t field now).run { endpoint := e } =
      (do replyDirectly t; pure Disposition.consumed).run { endpoint := noted e t } := by
  have h := run_outboundFree_of_free [] hf
  unfold accept
  simp only [run_bind, run_refreshSlot, h, if_true, run_count, run_remember, he]
  rfl

theorem run_accept_of_event {field : ControlField} {event : Event} (now : Instant)
    (hf : e.wayOutFree = true) (he : field.event? t.source = some event) :
    (accept t field now).run { endpoint := e } =
      (do dispatch event (some t) now; pure Disposition.consumed).run
        { endpoint := noted e t } := by
  have h := run_outboundFree_of_free [] hf
  unfold accept
  simp only [run_bind, run_refreshSlot, h, if_true, run_count, run_remember, he]
  rfl

theorem conducts_accept {field : ControlField} (hc : field.isControl = false → t.payload ≠ []) :
    Conducts (accept t field now) e now e.dialogue
      (if e.wayOutFree then field.event? t.source else none) := by
  rcases hf : e.wayOutFree with _ | _
  · obtain ⟨link, hrun⟩ := run_accept_of_occupied t field now hf
    exact conducts_quiet (after_of_ok hrun) .nothing rfl rfl (refreshed_slot_acquired e)
  rw [if_pos rfl]
  rcases he : field.event? t.source with _ | event
  · have ha := (after_congr (run_accept_of_unconnected now hf he)).trans (after_bind_pure ..)
    obtain ⟨r, hr⟩ := exists_request (hc (isControl_of_unconnected he)) none
    obtain ⟨journal, hleads, hreply⟩ := replyDirectly_leads (c := { endpoint := noted e t }) hr
    have hquiet : Quiet e.own journal := hreply.quiet (Request.sequence_of_telegram hr)
    exact conducts_of_leads ha hleads (.quiet hquiet) rfl rfl
  · have ha := (after_congr (run_accept_of_event now hf he)).trans (after_bind_pure ..)
    obtain ⟨journal, d', hleads, hmove⟩ :=
      dispatch_moves event (some t) now { endpoint := noted e t } (by
        rintro p n rfl
        obtain ⟨hcontrol, hsource⟩ := isControl_of_event? he
        obtain ⟨r, hr⟩ := exists_request (hc hcontrol) (some n)
        exact ⟨t, r, rfl, hsource, hr⟩)
    exact conducts_of_leads ha hleads (.move hmove) rfl rfl

omit [Application A] in
theorem conducts_congr {turn' : Turn L A α}
    (h : turn.run { endpoint := e } = turn'.run { endpoint := e })
    (hc : Conducts turn' e now d event?) : Conducts turn e now d event? := by
  have ha := after_congr h
  constructor
  · rw [ha]; exact hc.step
  · rw [ha]; exact hc.profile_eq
  · rw [ha]; exact hc.slot_acquired

omit [Application A] in
theorem conducts_drop (o : Occurrence) :
    Conducts (drop o : Turn L A Disposition) e now e.dialogue none := by
  have hrun : (drop o : Turn L A Disposition).run { endpoint := e } = .ok .consumed
      { endpoint := { e with statistics := e.statistics.count o } } := by
    simp only [drop, run_bind, run_count, run_pure]
  exact conducts_quiet (after_of_ok hrun) .nothing rfl rfl id

theorem conducts_route : Conducts (route t now) e now e.dialogue (e.eventOf? t) := by
  unfold eventOf?
  rcases hd : t.destination with address | group | _
  · by_cases ha : address = Link.address e.link
    · rw [if_pos (congrArg _ ha)]
      rcases hf : ControlField.decode t.tpci with fault | field
      · refine conducts_congr ?_ (conducts_drop .frameRejected)
        simp only [route, hd, run_bind, run_endpoint, ha, if_true, hf]
      · by_cases hempty : field.isControl = false ∧ t.payload = []
        · simp only [hempty, and_self, true_or, if_true]
          refine conducts_congr ?_ (conducts_drop .frameRejected)
          simp [route, hd, ha, hf, hempty]
        · have hcond : (!field.isControl && t.payload.isEmpty) = false := by
            simpa using hempty
          have haccept : Conducts (accept t field now) e now e.dialogue _ :=
            conducts_accept fun hc hp => hempty ⟨hc, hp⟩
          have hevent : (if field.isControl = false ∧ t.payload = [] ∨ e.wayOutFree = false
              then none else field.event? t.source) =
              if e.wayOutFree then field.event? t.source else none := by
            rcases e.wayOutFree with _ | _ <;> simp [hempty]
          dsimp only
          rw [hevent]
          refine conducts_congr ?_ haccept
          simp only [route, hd, run_bind, run_endpoint, ha, if_true, hf, hcond, Bool.false_eq_true,
            if_false]
    · have hne : Destination.individual address ≠ .individual (Link.address e.link) := by
        simpa using ha
      rw [if_neg hne]
      have hrun : (route t now).run { endpoint := e } = .ok .consumed { endpoint := e } := by
        simp only [route, hd, run_bind, run_endpoint, ha, if_false, run_pure]
      exact conducts_quiet (after_of_ok hrun) .nothing rfl rfl id
  · rw [if_neg nofun]
    have hrun : (route t now).run { endpoint := e } = .ok .consumed {
        endpoint := { e with
          application := Application.groupReceived e.application t, lastTelegram := some t }
        journal := [.groupDelivered t] } := by
      simp only [route, hd]
      rfl
    exact conducts_quiet (after_of_ok hrun) .group rfl rfl id
  · rw [if_neg nofun]
    have hrun : (route t now).run { endpoint := e } = .ok .consumed {
        endpoint := { e with
          application := Application.broadcastReceived e.application t, lastTelegram := some t }
        journal := [.broadcastDelivered t] } := by
      simp only [route, hd]
      rfl
    exact conducts_quiet (after_of_ok hrun) .broadcast rfl rfl id

theorem conducts_receive (frame : Frame) :
    Conducts (receive frame now) e now e.dialogue (e.heard? frame) := by
  unfold heard?
  rcases hd : Telegram.decode frame with fault | t
  · refine conducts_congr ?_ (conducts_drop .frameRejected)
    simp only [receive, hd]
  rcases hrepeat : e.isRepeatOfLast t with _ | _
  · simp only [hrepeat, Bool.false_eq_true, if_false]
    refine conducts_congr ?_ conducts_route
    simp only [receive, hd, run_bind, run_endpoint, hrepeat, Bool.false_eq_true, if_false]
  · simp only [hrepeat, if_true]
    refine conducts_congr ?_ (conducts_drop .linkRepeatIgnored)
    simp only [receive, hd, run_bind, run_endpoint, hrepeat, if_true]

theorem conducts_dispatch {turn : Turn L A Unit} {event : Event} {statistics : Statistics}
    {answers : AnswerQueue}
    (hrun : turn.run { endpoint := e } = (dispatch event none now).run
      { endpoint := { e.settled with answers, statistics } })
    (hd : ∀ p n, event ≠ .data p n) :
    Conducts turn e now ⟨e.connection, answers⟩ (some event) := by
  obtain ⟨journal, d', hleads, hmove⟩ :=
    dispatch_moves event none now { endpoint := { e.settled with answers, statistics } }
      (fun p n h => absurd h (hd p n))
  exact conducts_of_leads (after_congr hrun) hleads (.move hmove) rfl rfl

theorem run_poll_of_wait (now : Instant) (hf : e.wayOutFree = false) :
    (Turn.poll now).run { endpoint := e } = .ok () {
      endpoint := { e.looked with answers := (e.ready (.poll now)).answers } } := by
  by_cases hs : e.refreshed.slot.isFree = true
  · have hl : (!Link.sending e.refreshed.link) = false := by
      simpa only [wayOutFree, hs, Bool.true_and] using hf
    simp only [Turn.poll, run_bind, run_refreshSlot, run_endpoint, hs, if_true, run_updateAnswers,
      run_outboundFree, hl, Bool.false_eq_true, if_false, run_pure, ready, looked]
    rfl
  · simp only [Turn.poll, run_bind, run_refreshSlot, run_endpoint, hs, Bool.false_eq_true,
      if_false, run_outboundFree, run_pure, ready, looked]
    rfl

theorem run_poll_of_occupied (now : Instant) (hf : e.wayOutFree = false) :
    ∃ link, (Turn.poll now).run { endpoint := e } = .ok () {
      endpoint := { e.refreshed with answers := (e.ready (.poll now)).answers, link } } :=
  ⟨_, run_poll_of_wait now hf⟩

theorem conducts_poll_of_occupied (hf : e.wayOutFree = false) :
    Conducts (Turn.poll now) e now (e.ready (.poll now)) none := by
  obtain ⟨link, hrun⟩ := run_poll_of_occupied now hf
  have hd : e.ready (.poll now) = ⟨e.connection, (e.ready (.poll now)).answers⟩ := by
    rw [← e.connection_ready (.poll now)]
  exact conducts_quiet (after_of_ok hrun) .nothing hd.symm rfl (refreshed_slot_acquired e)

theorem run_poll_of_free (now : Instant) (hf : e.wayOutFree = true) :
    (Turn.poll now).run { endpoint := e } =
      (duty now).run { endpoint := { e.settled with answers := e.answers.release } } := by
  have hs := slot_isFree_of_wayOutFree hf
  rw [wayOutFree, Bool.and_eq_true] at hf
  simp only [Turn.poll, run_bind, run_refreshSlot, run_endpoint, hs, if_true, run_updateAnswers,
    run_outboundFree, hf.2]
  rfl

omit [Application A] in
theorem due?_ne_data (e : Endpoint L A) (now : Instant) (p : DeviceAddress) (n : SequenceNumber) :
    e.due? now ≠ some (.data p n) := by
  unfold due?
  split_ifs <;> nofun

/-- The counters when the event of a duty is dispatched: a timeout is counted as it is noticed. -/
def dutyStatistics (e : Endpoint L A) (event : Event) : Statistics :=
  if event = .answerReady then e.statistics else e.statistics.count .timeout

theorem run_poll_of_duty {event : Event} (h : e.due? now = some event) :
    (Turn.poll now).run { endpoint := e } = (dispatch event none now).run
      { endpoint := { e.settled with
        answers := e.answers.release, statistics := dutyStatistics e event } } := by
  rcases hf : e.wayOutFree with _ | _
  · simp [due?, hf] at h
  have hrun := run_poll_of_free now hf
  have hc : e.settled.connection = e.connection := rfl
  simp only [due?, hf, Bool.true_eq_false, if_false] at h
  split_ifs at h with h₁ h₂ h₃
  · cases h
    simp only [duty, run_bind, run_endpoint, hc, h₁, if_true, run_count] at hrun
    exact hrun
  · have hready : (decide (e.connection.state = .openIdle) && e.answers.release.primaryReady &&
        Link.idle e.settled.link) = true := by simpa [and_assoc] using h₂
    cases h
    simp only [duty, run_bind, run_endpoint, hc, h₁, hready, if_true, Bool.false_eq_true, if_false]
      at hrun
    exact hrun
  · have hready : (decide (e.connection.state = .openIdle) && e.answers.release.primaryReady &&
        Link.idle e.settled.link) = false := by simpa [and_assoc] using h₂
    cases h
    simp only [duty, run_bind, run_endpoint, hc, h₁, hready, h₃, if_true, Bool.false_eq_true,
      if_false, run_count] at hrun
    exact hrun

theorem run_poll_of_due {event : Event} (h : e.due? now = some event) :
    ∃ statistics, (Turn.poll now).run { endpoint := e } = (dispatch event none now).run
      { endpoint := { e.settled with answers := e.answers.release, statistics } } :=
  ⟨_, run_poll_of_duty h⟩

theorem run_poll_of_not_due (hf : e.wayOutFree = true) (h : e.due? now = none) :
    (Turn.poll now).run { endpoint := e } =
      .ok () { endpoint := { e.settled with answers := e.answers.release } } := by
  have hrun := run_poll_of_free now hf
  have hc : e.settled.connection = e.connection := rfl
  simp only [due?, hf, Bool.true_eq_false, if_false] at h
  split_ifs at h with h₁ h₂ h₃
  have hready : (decide (e.connection.state = .openIdle) && e.answers.release.primaryReady &&
      Link.idle e.settled.link) = false := by simpa [and_assoc] using h₂
  simpa only [duty, run_bind, run_endpoint, hc, h₁, hready, h₃, Bool.false_eq_true, if_false,
    run_pure] using hrun

theorem conducts_poll : Conducts (Turn.poll now) e now (e.ready (.poll now)) (e.due? now) := by
  rcases hf : e.wayOutFree with _ | _
  · rw [show e.due? now = none from if_pos hf]
    exact conducts_poll_of_occupied hf
  have hready : e.ready (.poll now) = ⟨e.connection, e.answers.release⟩ :=
    if_pos (slot_isFree_of_wayOutFree hf)
  rw [hready]
  rcases hdue : e.due? now with _ | event
  · exact conducts_quiet (after_of_ok (run_poll_of_not_due hf hdue)) .nothing rfl rfl
      (refreshed_slot_acquired e)
  · obtain ⟨statistics, hrun⟩ := run_poll_of_due hdue
    exact conducts_dispatch hrun fun p n hevent => due?_ne_data e now p n (hevent ▸ hdue)

theorem run_hangUp_of_free (now : Instant) (ho : e.connection.isOpen = true)
    (hf : e.wayOutFree = true) : (Turn.hangUp now).run { endpoint := e } =
      (dispatch .userDisconnect none now).run { endpoint := e.settled } := by
  have h := run_outboundFree_of_free [] hf
  simp only [Turn.hangUp, run_bind, run_endpoint, ho, if_true, run_refreshSlot, h]

theorem run_hangUp_of_closed (now : Instant) (ho : e.connection.isOpen = false) :
    (Turn.hangUp now).run { endpoint := e } = .error .notConnected { endpoint := e } := by
  simp only [Turn.hangUp, run_bind, run_endpoint, ho, Bool.false_eq_true, if_false, run_throw]

theorem run_hangUp_of_wait (now : Instant) (ho : e.connection.isOpen = true)
    (hf : e.wayOutFree = false) : (Turn.hangUp now).run { endpoint := e } =
      .error (.busy .linkSending) { endpoint := e.looked } := by
  simp only [Turn.hangUp, run_bind, run_endpoint, ho, if_true, run_refreshSlot,
    run_outboundFree_of_wait [] hf, Bool.false_eq_true, if_false, run_throw]

theorem run_hangUp_of_occupied (now : Instant) (ho : e.connection.isOpen = true)
    (hf : e.wayOutFree = false) : ∃ link, (Turn.hangUp now).run { endpoint := e } =
      .error (.busy .linkSending) { endpoint := { e.refreshed with link } } :=
  ⟨_, run_hangUp_of_wait now ho hf⟩

theorem conducts_hangUp : Conducts (Turn.hangUp now) e now e.dialogue
    (if e.connection.isOpen ∧ e.wayOutFree then some .userDisconnect else none) := by
  rcases ho : e.connection.isOpen with _ | _
  · exact conducts_quiet (after_of_error (run_hangUp_of_closed now ho)) .nothing rfl rfl id
  rcases hf : e.wayOutFree with _ | _
  · obtain ⟨link, hrun⟩ := run_hangUp_of_occupied now ho hf
    exact conducts_quiet (after_of_error hrun) .nothing rfl rfl (refreshed_slot_acquired e)
  · exact conducts_dispatch (run_hangUp_of_free now ho hf) nofun

end Turn

namespace Endpoint

open Dialogue

variable {L A : Type} [Link L] [Application A]

/-- A call takes an endpoint one step further, keeps its profile, and leaves no permit behind. -/
structure Proceeds (e : Endpoint L A) (call : Call) : Prop where
  step : Step e.own call.now (e.ready call) (e.event? call) (e.journal call) (e.after call).dialogue
  profile_eq : (e.after call).profile = e.profile
  slot_acquired : (e.after call).slot.state = .acquired → e.slot.state = .acquired

variable {e : Endpoint L A}

theorem proceeds_of_conducts {α : Type} {turn : Turn L A α} {call : Call}
    (h : turn.Conducts e call.now (e.ready call) (e.event? call))
    (hj : e.journal call = (turn.report e).journal)
    (ha : e.after call = (turn.report e).endpoint) : e.Proceeds call := by
  rw [Turn.report_journal] at hj
  rw [Turn.report_endpoint] at ha
  constructor
  · rw [hj, ha]; exact h.step
  · rw [ha]; exact h.profile_eq
  · rw [ha]; exact h.slot_acquired

theorem proceeds_receive (frame : Frame) (now : Instant) : e.Proceeds (.receive frame now) :=
  proceeds_of_conducts (Turn.conducts_receive frame) rfl rfl

theorem serve_of_received {frame : Frame} (now : Instant) (h : Link.received e.link = some frame) :
    e.journal (.serve now) = e.journal (.receive frame now) ∧
      ∃ link, e.after (.serve now) = { e.after (.receive frame now) with link } := by
  simp only [journal, after, serve, h]
  split
  · exact ⟨rfl, _, rfl⟩
  · exact ⟨rfl, _, rfl⟩

theorem proceeds_serve (now : Instant) : e.Proceeds (.serve now) := by
  rcases h : Link.received e.link with _ | frame
  · have hj : e.journal (.serve now) = [] := by simp only [journal, serve, h]
    have ha : e.after (.serve now) = e := by simp only [after, serve, h]
    have he : e.event? (.serve now) = none := by simp only [event?, h, Option.bind_none]
    constructor
    · rw [hj, ha, he]; exact .quiet .nothing
    · rw [ha]
    · rw [ha]; exact id
  · obtain ⟨hj, link, ha⟩ := serve_of_received now h
    have he : e.event? (.serve now) = e.heard? frame := by simp only [event?, h, Option.bind_some]
    have hr := proceeds_receive (e := e) frame now
    constructor
    · rw [hj, ha, he]; exact hr.step
    · rw [ha]; exact hr.profile_eq
    · rw [ha]; exact hr.slot_acquired

theorem proceeds (e : Endpoint L A) (call : Call) : e.Proceeds call := by
  cases call with
  | receive frame now => exact proceeds_receive frame now
  | serve now => exact proceeds_serve now
  | poll now => exact proceeds_of_conducts Turn.conducts_poll rfl rfl
  | hangUp now => exact proceeds_of_conducts Turn.conducts_hangUp rfl rfl

end Endpoint

end BusTransport
