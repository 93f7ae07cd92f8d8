import BusTransport.Proofs.Endpoint.Addressing
import BusTransport.Proofs.Endpoint.Completion
import BusTransport.Proofs.Endpoint.Draining
import BusTransport.Proofs.Endpoint.StateTable

/-! # Conformance

Over a link that accepts every frame, an endpoint does about each event what the tables of the
protocol call for: the action is carried out to its end, the one frame that it calls for is sent,
and the connection takes the state of the row. An answer that fits no telegram is the exception.
-/

namespace BusTransport

theorem Connection.isExpired_of_not_idleOverdue {c : Connection} {now : Instant}
    (ho : c.isOpen = true) (h : ¬ c.idleOverdue now = true) :
    c.idleTimer.isExpired now = false := by
  simpa [idleOverdue, ho] using h

/-- A link that accepts every frame while it is not sending. -/
structure Link.Accepting {L : Type} [Link L] (l : L) : Prop where
  refusal_eq : ∀ {l'}, Reads l l' → sending l' = false → ∀ frame, refusal l' frame = none

namespace Turn

open Endpoint

variable {L A α : Type}

def Steady (turn : Turn L A α) : Prop :=
  ∀ c, (turn.after c).endpoint.connection.state = c.endpoint.connection.state

theorem lenient_state [Application A] : Lenient fun c c' : Course L A =>
    c'.endpoint.connection.state = c.endpoint.connection.state where
  toCumulative := cumulative_eq _
  connection _ _ h := h
  answers _ _ := rfl
  counted _ _ _ := rfl
  wayOut _ _ _ := rfl
  offered _ _ _ := rfl
  asked _ _ := rfl

variable [Link L] [Application A]

theorem steady_sendControl (destination : DeviceAddress) (field : ControlField) :
    Steady (sendControl destination field : Turn L A Unit) :=
  obeys_sendControl lenient_state destination field

theorem steady_perform {action : Action} (h : action.written? = none) (t? : Option Telegram)
    (now : Instant) : Steady (perform t? now action : Turn L A Unit) :=
  obeys_perform lenient_state (absurd h) t? now

omit [Link L] [Application A] in
theorem peer_of_run {next : DeviceAddress → Turn L A α} {a : α} {c c' : Course L A}
    (h : (peer >>= next).run c = .ok a c') :
    ∃ p, c.endpoint.connection.peer? = some p ∧ (next p).run c = .ok a c' := by
  rcases hp : c.endpoint.connection.peer? with _ | p
  · have hlost : peer.run c = .error .notConnected c := by
      simp only [peer, run_bind, run_endpoint, hp, run_throw]
    rw [run_bind, hlost] at h
    cases h
  · rw [run_bind, run_peer hp] at h
    exact ⟨p, rfl, h⟩

/-- The steps of an action that ends well write the state that it writes, and no other. -/
theorem state_of_perform {action : Action} {t? : Option Telegram} {now : Instant}
    {c c' : Course L A} (h : (perform t? now action).run c = .ok () c') :
    c'.endpoint.connection.state = action.written?.getD c.endpoint.connection.state := by
  cases action with
  | connect p =>
    rw [← after_of_ok h]
    rfl
  | closeSilently =>
    obtain ⟨p, -, hrun⟩ := peer_of_run h
    rw [← after_of_ok hrun]
    rfl
  | closeAndTell =>
    obtain ⟨p, -, hrun⟩ := peer_of_run h
    rw [run_bind, run_closeConnection] at hrun
    rw [← after_of_ok hrun]
    exact steady_sendControl _ _ _
  | _ =>
    rw [← after_of_ok h]
    exact steady_perform rfl t? now c

end Turn

namespace Dialogue

open Endpoint

/-- An action on an event that is carried out without a fault: the frames that it sends, and the
dialogue that it leads to. -/
inductive Carries (own : DeviceAddress) (now : Instant) (d : Dialogue) :
    Event → Action → List Frame → Dialogue → Prop
  | ignore {event} : Carries own now d event .ignore [] d
  | connect {p} : Carries own now d (.connect p) (.connect p) []
      ⟨d.connection.connectTo p now, {}⟩
  | deliver {p n frame r answer} : controlFrame own p (.ack n) = .ok frame → r.source = p →
      r.sequence = some n → Carries own now d (.data p n) (.deliver n) [frame]
        ⟨d.connection.acceptRequest n now, d.answers.add r answer⟩
  | ackAgain {p n frame} : controlFrame own p (.ack n) = .ok frame →
      Carries own now d (.data p n) (.ackAgain n) [frame] ⟨d.connection.touch now, d.answers⟩
  | refuse {p n frame} : controlFrame own p (.nack n) = .ok frame →
      Carries own now d (.data p n) (.refuse n) [frame] d
  | closeSilently {event} : Carries own now d event .closeSilently [] ⟨d.connection.close, {}⟩
  | closeAndTell {event p frame} : d.connection.peer? = some p →
      controlFrame own p .disconnect = .ok frame →
      Carries own now d event .closeAndTell [frame] ⟨d.connection.close, {}⟩
  | sendAnswer {entry rest frame} : d.answers.entries = entry :: rest →
      d.primaryFrame own entry = .ok frame →
      Carries own now d .answerReady .sendAnswer [frame]
        ⟨{ d.connection.awaitAck now with state := .openWait },
          ⟨entry.sentAs frame :: rest⟩⟩
  | finishAnswer {event} : Carries own now d event .finishAnswer []
      ⟨{ d.connection.acknowledged now with state := .openIdle }, d.answers.dropPrimary⟩
  | repeatAnswer {event frame} : d.answers.outstandingFrame? = some frame →
      Carries own now d event .repeatAnswer [frame] ⟨d.connection.repeated now, d.answers⟩
  | reject {p frame} : controlFrame own p .disconnect = .ok frame →
      Carries own now d (.connect p) (.reject p) [frame] d

/-- An action was carried out to its end: it is noted, its frames were sent and no others, and the
decided state was taken. -/
structure Completes (own : DeviceAddress) (now : Instant) (d : Dialogue) (event : Event)
    (decision : Decision) (journal : List Activity) (d' : Dialogue) : Prop where
  performed_eq : performedIn journal = [decision.action]
  state_eq : d'.connection.state = decision.state
  carries : ∃ frames, Carries own now d event decision.action frames d' ∧
    offeringsIn journal = frames.map (·, none)

variable {own : DeviceAddress} {now : Instant} {d d' : Dialogue} {event : Event}
  {journal : List Activity}

theorem Move.completes (h : Move own now d event journal d')
    (hperformed : performedIn journal ≠ [])
    (haccepted : ∀ frame fault, .offered frame (some fault) ∉ journal) :
    Completes own now d event (d.react event) journal d' := by
  cases h with
  | ignore hr =>
    rw [hr]
    exact ⟨rfl, rfl, [], .ignore, rfl⟩
  | connect hs =>
    rw [react_of_listed (.connect hs : Listed d now _ _ _)]
    exact ⟨rfl, rfl, [], .connect, rfl⟩
  | deliver hs hp hroom hsource hsequence hf =>
    have hlisted : Listed d now _ _ _ := .dataNew hs (AnswerQueue.hasRoom_iff.mp hroom) hp
    rw [react_of_listed hlisted]
    exact ⟨rfl, hs, [_], .deliver hf hsource hsequence, rfl⟩
  | ackAgain hp hn hf =>
    rw [react_of_listed (.dataAgain hp hn : Listed d now _ _ _)]
    exact ⟨rfl, rfl, [_], .ackAgain hf, rfl⟩
  | refuse hp hn hn' hf =>
    rw [react_of_listed (.dataStray hp hn hn' : Listed d now _ _ _)]
    exact ⟨rfl, rfl, [_], .refuse hf, rfl⟩
  | closeSilently hp =>
    rw [react_of_listed (.disconnect hp : Listed d now _ _ _)]
    exact ⟨rfl, rfl, [], .closeSilently, rfl⟩
  | closeAndTell hr hp htold =>
    rw [hr]
    cases htold with
    | sent hf => exact ⟨rfl, rfl, [_], .closeAndTell hp hf, rfl⟩
    | refused => exact absurd (List.mem_cons_of_mem _ List.mem_cons_self) (haccepted _ _)
    | blocked => exact absurd rfl hperformed
  | sendAnswer hs hq hf =>
    rw [show d.react .answerReady = ⟨.openWait, .sendAnswer⟩ from if_pos hs]
    exact ⟨rfl, rfl, [_], .sendAnswer hq hf, rfl⟩
  | finishAnswer hs hp =>
    rw [react_of_listed (.ack hs hp : Listed d now _ _ _)]
    exact ⟨rfl, rfl, [], .finishAnswer, rfl⟩
  | repeatAnswer hr hs _ hf =>
    rw [hr]
    exact ⟨rfl, hs, [_], .repeatAnswer hf, rfl⟩
  | reject ho hp hf =>
    rw [react_of_listed (.intrude (Connection.isOpen_iff.mp ho) hp : Listed d now _ _ _)]
    exact ⟨rfl, rfl, [_], .reject hf, rfl⟩
  | refused => exact absurd (List.mem_singleton.mpr rfl) (haccepted _ _)
  | dropAnswer | halted | lost => exact absurd rfl hperformed

end Dialogue

namespace Endpoint

open Turn Dialogue Link

variable {L A : Type} [Link L] {e : Endpoint L A} {call : Call} {event : Event} {now : Instant}

/-- The primary answer is due and fits no telegram. -/
def Overlong (e : Endpoint L A) (event : Event) : Prop :=
  event = .answerReady ∧ ∃ entry, e.answers.primary? = some entry ∧ 14 < entry.answer.data.length

theorem ready_poll (hf : e.wayOutFree = true) (now : Instant) :
    e.ready (.poll now) = ⟨e.connection, e.answers.release⟩ :=
  if_pos (slot_isFree_of_wayOutFree hf)

theorem timely_of_field {d : Dialogue} {field : ControlField} {p : DeviceAddress}
    (h : field.event? p = some event) : Timely d now event := by
  cases field with
  | unnumbered high => cases h
  | _ =>
    cases h
    exact ⟨nofun, nofun, nofun⟩

theorem timely_of_heard {d : Dialogue} {frame : Frame} (h : e.heard? frame = some event) :
    Timely d now event := by
  obtain ⟨_, _, _, hfield, _⟩ := exists_hears h
  exact timely_of_field hfield

theorem timely_of_due (h : e.due? now = some event) : Timely (e.ready (.poll now)) now event := by
  rw [ready_poll (wayOutFree_of_due h)]
  unfold due? at h
  split_ifs at h with hf hidle hready hlate
  · cases h
    rw [Connection.idleOverdue, Bool.and_eq_true] at hidle
    exact ⟨fun _ => hidle.2, by simp, by simp⟩
  · cases h
    have hopen := Connection.isOpen_of_openIdle hready.1
    have hearly := Connection.isExpired_of_not_idleOverdue hopen hidle
    exact ⟨by simp, fun _ => ⟨hearly, AnswerQueue.exists_ready hready.2.1⟩, by simp⟩
  · cases h
    rw [Connection.ackOverdue, Bool.and_eq_true, decide_eq_true_iff] at hlate
    have hopen := Connection.isOpen_of_openWait hlate.1
    have hearly := Connection.isExpired_of_not_idleOverdue hopen hidle
    exact ⟨by simp, by simp, fun _ => ⟨hearly, hlate.2⟩⟩

theorem timely_of_event (he : e.event? call = some event) :
    Timely (e.ready call) call.now event := by
  cases call with
  | receive frame now => exact timely_of_heard he
  | serve now =>
    obtain ⟨frame, -, he⟩ := Option.bind_eq_some_iff.mp he
    exact timely_of_heard he
  | poll now => exact timely_of_due he
  | hangUp now =>
    obtain ⟨-, hevent⟩ := Option.ite_none_right_eq_some.mp he
    cases hevent
    exact ⟨nofun, nofun, nofun⟩

variable [Application A]

theorem exists_dispatches_provided (he : e.event? call = some event) :
    ∃ t? c, e.Dispatches call event t? c ∧ ∀ p n, event = .data p n →
      ∃ t r, t? = some t ∧ Request.ofTelegram? t (some n) = some r := by
  by_cases hdata : ∃ p n, event = .data p n
  · obtain ⟨p, n, rfl⟩ := hdata
    obtain ⟨frame, t, hframe, -, -⟩ := exists_handed_of_reply he .ack
    rw [event?_of_handed hframe] at he
    obtain ⟨t, field, hears, hfield, hf⟩ := exists_hears he
    refine ⟨_, _, dispatches_of_hears hframe hears hf hfield, ?_⟩
    rintro p' n' ⟨⟩
    obtain ⟨r, hr⟩ := exists_request (hears.command (isControl_of_event? hfield).1) (some n)
    exact ⟨t, r, rfl, hr⟩
  · obtain ⟨t?, c, hd⟩ := exists_dispatches he
    exact ⟨t?, c, hd, fun p n hevent => absurd ⟨p, n, hevent⟩ hdata⟩

variable [Passive L]

theorem not_refused (hl : Accepting e.link) (frame : Frame) (fault : LinkFault) :
    .offered frame (some fault) ∉ e.journal call := by
  intro h
  obtain ⟨-, link, hread, hfree, hrefusal⟩ := offered_of_free h
  rw [hl.refusal_eq hread hfree frame] at hrefusal
  cases hrefusal

omit [Passive L] in
theorem Dispatches.clear {t? : Option Telegram} {c : Course L A}
    (h : e.Dispatches call event t? c) (hf : e.wayOutFree = true) : Clear c := by
  have hclear := clear_settled (A := A) hf
  refine ⟨?_, ?_⟩
  · rw [h.slot_eq]
    exact hclear.slot_isFree
  · rw [h.link_eq]
    exact hclear.foundFree

omit [Application A] [Passive L] in
theorem exists_primary {entry : PendingAnswer} {rest : List PendingAnswer}
    (h : (e.ready call).answers.entries = entry :: rest) :
    ∃ entry', e.answers.primary? = some entry' ∧ entry'.answer = entry.answer := by
  rcases e.ready_cases call with hr | hr
  · rw [hr] at h
    exact ⟨entry, congrArg List.head? h, rfl⟩
  · rw [hr] at h
    obtain ⟨entry', rest', hq, rfl, -⟩ := List.map_eq_cons_iff.mp h
    exact ⟨entry', congrArg List.head? hq, rfl⟩

/-- The action on an event is carried out to its end, if the link accepts its frame and the answer
fits a telegram. -/
theorem exists_performed (h : e.Reachable) (hl : Accepting e.link)
    (he : e.event? call = some event) (hfits : ¬ e.Overlong event) :
    ∃ t? c c', e.Dispatches call event t? c ∧
      (perform t? call.now ((e.ready call).react event).action).run c = .ok () c' := by
  obtain ⟨t?, c, hd, hdata⟩ := exists_dispatches_provided he
  have hreact : c.endpoint.dialogue.react event = (e.ready call).react event := by
    rw [hd.dialogue_eq]
  have hprovided : Provided (fun _ answer => answer.data.length ≤ 14) c.endpoint.answers t?
      event := by
    refine ⟨hdata, fun hanswer => ?_⟩
    obtain ⟨-, entry, rest, hq, -⟩ := (timely_of_event he).answer hanswer
    obtain ⟨entry', hprimary, heq⟩ := exists_primary hq
    refine ⟨entry, rest, (congrArg (·.answers.entries) hd.dialogue_eq).trans hq, fun _ => ?_⟩
    rw [← heq]
    exact Nat.le_of_not_lt fun hlong => hfits ⟨hanswer, entry', hprimary, hlong⟩
  have hdecides : c.endpoint.connection.Decides c.endpoint.answers.hasRoom event
      ((e.ready call).react event) := by
    rw [← hreact]
    exact Connection.react_decides ..
  have hconsistent := consistent_ready h.dialogue_consistent call
  rw [← hd.dialogue_eq] at hconsistent
  rcases hrun : (perform t? call.now ((e.ready call).react event).action).run c with
    ⟨_, c'⟩ | ⟨fault, c'⟩
  · exact ⟨t?, c, c', hd, hrun⟩
  · have hexcused := excusable_perform (hd.clear (wayOutFree_of_event he)) hconsistent hprovided
      hdecides fault c' hrun
    cases hexcused with
    | @refused frame cause hmem =>
      rw [← dispatch_of_error hreact hrun, ← hd.journal_eq] at hmem
      exact absurd hmem (not_refused hl frame cause)
    | unfit hshort hlong => exact absurd hshort (Nat.not_le.mpr hlong)

omit [Application A] [Passive L] in
theorem ready_of_ignored (he : e.event? call = some event)
    (hi : ((e.ready call).react event).action = .ignore) : e.ready call = e.dialogue := by
  cases call with
  | poll now =>
    have hdue : e.due? now = some event := he
    have hretry : e.connection.retry.action ≠ .ignore := by
      unfold Connection.retry
      split
      · nofun
      · nofun
    simp only [Dialogue.react, Connection.react, connection_ready] at hi
    unfold due? at hdue
    split_ifs at hdue with hf hidle hready hlate
    · cases hdue
      rw [Connection.idleOverdue, Bool.and_eq_true] at hidle
      simp [hidle.1] at hi
    · cases hdue
      simp [hready.1] at hi
    · cases hdue
      rw [Connection.ackOverdue, Bool.and_eq_true, decide_eq_true_iff] at hlate
      simp only [hlate.1, if_true] at hi
      exact absurd hi hretry
  | _ => rfl

/-- An ignored event leaves connection and queue as they are. Of the link no more than the sending
flag is read, and the receive buffer released. -/
structure Untouched (e : Endpoint L A) (call : Call) : Prop where
  dialogue_eq : (e.after call).dialogue = e.dialogue
  link : ∃ link, Reads e.link link ∧
    ((e.after call).link = link ∨ (e.after call).link = Link.release link)

/-- A decision about an event was carried out: completely, without a step that would have written
another state, and without a trace if it was to ignore the event. -/
structure Conforms (e : Endpoint L A) (call : Call) (event : Event) (decision : Decision) :
    Prop where
  completes : Completes e.own call.now (e.ready call) event decision (e.journal call)
    (e.after call).dialogue
  written : ∃ t? c c', e.Dispatches call event t? c ∧
    (perform t? call.now decision.action).run c = .ok () c' ∧
    c'.endpoint.connection.state = decision.action.written?.getD e.connection.state
  ignored : decision.action = .ignore → e.Untouched call

omit [Passive L] in
theorem untouched_of_completes {decision : Decision}
    (h : Completes e.own call.now (e.ready call) event decision (e.journal call)
      (e.after call).dialogue) (hi : decision.action = .ignore)
    (hready : e.ready call = e.dialogue) : e.Untouched call := by
  obtain ⟨frames, hcarries, hoffered⟩ := h.carries
  rw [hi, hready] at hcarries
  generalize hd : (e.after call).dialogue = d' at hcarries
  cases hcarries
  refine ⟨hd, ?_⟩
  cases e.emission call with
  | nothing hread _ hlink => exact ⟨_, hread, hlink⟩
  | frame _ _ _ hone _ _ =>
    rw [hone] at hoffered
    cases hoffered

theorem conforms_of_fitting (h : e.Reachable) (hl : Accepting e.link)
    (he : e.event? call = some event) (hfits : ¬ e.Overlong event) :
    e.Conforms call event ((e.ready call).react event) := by
  obtain ⟨t?, c, c', hd, hrun⟩ := exists_performed h hl he hfits
  have hreact : c.endpoint.dialogue.react event = (e.ready call).react event := by
    rw [hd.dialogue_eq]
  have hstep := (e.proceeds call).step
  rw [he] at hstep
  generalize hafter : (e.after call).dialogue = d' at hstep
  have hcompletes : Completes e.own call.now (e.ready call) event ((e.ready call).react event)
      (e.journal call) d' := by
    cases hstep with
    | move hmove =>
      refine hmove.completes ?_ (not_refused hl)
      rw [hd.journal_eq, dispatch_of_ok hreact hrun]
      simp [performedIn, List.filterMap_append, Activity.action?]
  rw [← hafter] at hcompletes
  refine ⟨hcompletes, ⟨t?, c, c', hd, hrun, ?_⟩, fun hi => ?_⟩
  · rw [state_of_perform hrun, show c.endpoint.connection = e.connection from
      (congrArg (·.connection) hd.dialogue_eq).trans (e.connection_ready call)]
  · exact untouched_of_completes hcompletes hi (ready_of_ignored he hi)

omit [Passive L] in
theorem discards_of_overlong (he : e.event? call = some event) (h : e.Overlong event) :
    ∃ entry rest, call = .poll call.now ∧ e.answers.entries = entry :: rest ∧
      e.Discards call.now entry rest := by
  obtain ⟨rfl, entry, hprimary, hlong⟩ := h
  obtain ⟨rest, hq⟩ := List.head?_eq_some_iff.mp hprimary
  have hheard (frame : Frame) : e.heard? frame ≠ some .answerReady := by
    intro hheard
    obtain ⟨_, field, _, hfield, _⟩ := exists_hears hheard
    cases field <;> cases hfield
  cases call with
  | receive frame now => exact absurd he (hheard frame)
  | serve now =>
    obtain ⟨frame, -, he⟩ := Option.bind_eq_some_iff.mp he
    exact absurd he (hheard frame)
  | poll now => exact ⟨entry, rest, rfl, hq, discards_of_due he hq hlong⟩
  | hangUp now => cases (Option.ite_none_right_eq_some.mp he).2

end Endpoint

theorem Connection.written_react {c : Connection} {hasRoom : Bool} {event : Event}
    {state : ConnectionState} (h : (c.react hasRoom event).action.written? = some state) :
    state = (c.react hasRoom event).state := by
  have hdecides := c.react_decides hasRoom event
  generalize c.react hasRoom event = decision at h hdecides
  have hretry (hr : c.retry.action.written? = some state) : state = c.retry.state := by
    unfold retry at hr ⊢
    split at hr
    · cases hr
    · next hno =>
      rw [if_neg hno]
      exact (Option.some.inj hr).symm
  cases hdecides with
  | connect | leave | mismatch | expire | hangUp => exact (Option.some.inj h).symm
  | retryNacked | retryLate => exact hretry h
  | _ => cases h

/-- Over a link that accepts every frame, each event of a reachable endpoint is met with what the
tables call for. The one exception is an answer that is due and fits no telegram: it is discarded,
and the connection stays as it is. -/
theorem conforms_of_event {L A : Type} [Link L] [Link.Passive L] [Application A]
    {e : Endpoint L A} {call : Call} {event : Event} (h : e.Reachable)
    (hl : Link.Accepting e.link) (he : e.event? call = some event) :
    ∃ decision : Decision, (e.ready call).react event = decision ∧
      (∀ action state, (e.ready call).Prescribed call.now event action state ↔
        decision = ⟨state, action⟩) ∧
      (∀ state, decision.action.written? = some state → state = decision.state) ∧
      (¬ e.Overlong event → e.Conforms call event decision) ∧
      (e.Overlong event → ∃ entry rest, call = .poll call.now ∧
        e.answers.entries = entry :: rest ∧ e.Discards call.now entry rest) :=
  ⟨_, rfl, fun _ _ => Dialogue.prescribed_iff (Endpoint.timely_of_event he),
    fun _ => Connection.written_react, Endpoint.conforms_of_fitting h hl he,
    Endpoint.discards_of_overlong he⟩

theorem RecordingLink.accepting (l : RecordingLink) : Link.Accepting l where
  refusal_eq _ hfree _ := refusal_eq_none_iff.mpr hfree

namespace Sample

def connected : Endpoint RecordingLink Responder := host.after (.receive (control .connect) 0)

/-- A host whose answers fit no telegram. -/
def wordyHost : Endpoint RecordingLink Responder :=
  { host with application := .fixed ⟨0x340, List.replicate 15 0⟩ }

def wordy : Endpoint RecordingLink Responder :=
  wordyHost.afterAll [.receive (control .connect) 0, .receive (request 0) 1]

/-- A host that repeats no answer. -/
def strictHost : Endpoint RecordingLink Responder :=
  { host with profile := { maxRepetitions := 0 }, connection := .ofProfile { maxRepetitions := 0 } }

def strict : Endpoint RecordingLink Responder := strictHost.after (.receive (control .connect) 0)

theorem reachable_wordy : wordy.Reachable :=
  have hc : Endpoint.create wordyHost.link wordyHost.application wordyHost.profile =
    .ok wordyHost := rfl
  ⟨hc, wordyHost.run_history _⟩

theorem reachable_strict : strict.Reachable :=
  have hc : Endpoint.create strictHost.link strictHost.application strictHost.profile =
    .ok strictHost := rfl
  ⟨hc, strictHost.run_history [.receive (control .connect) 0]⟩

end Sample

open Sample in
theorem conforms_request :
    (∃ decision, decision.action = .deliver 0 ∧
      connected.Conforms (.receive (request 0) 1) (.data guest 0) decision) ∧
    ∃ entry rest, wordy.Discards 2 entry rest := by
  have hconnected : connected.Reachable := reachable [.receive (Sample.control .connect) 0]
  have hdata : connected.event? (.receive (request 0) 1) = some (.data guest 0) := by decide
  have hdue : wordy.event? (.poll 2) = some .answerReady := by decide
  have hlong : wordy.Overlong .answerReady := ⟨rfl, _, rfl, by decide⟩
  obtain ⟨_, rfl, -, -, hconforms, -⟩ :=
    conforms_of_event hconnected (RecordingLink.accepting _) hdata
  obtain ⟨-, -, -, -, -, hdiscards⟩ :=
    conforms_of_event reachable_wordy (RecordingLink.accepting _) hdue
  obtain ⟨entry, rest, -, -, hdiscards⟩ := hdiscards hlong
  exact ⟨⟨_, by decide, hconforms (by rintro ⟨⟨⟩, -⟩)⟩, entry, rest, hdiscards⟩

open Sample in
/-- A poll that turns to an answer which is too long sends nothing and leaves the connection open
without an outstanding answer. A nack without outstanding answer is ignored, even if its number is
the next one and no repetition is left. -/
theorem departures_from_tables :
    (wordy.Reachable ∧ Link.Accepting wordy.link ∧ wordy.event? (.poll 2) = some .answerReady ∧
      (wordy.ready (.poll 2)).Listed 2 .answerReady .sendAnswer .openWait ∧
      offeringsIn (wordy.journal (.poll 2)) = [] ∧
      (wordy.after (.poll 2)).connection.state = .openIdle) ∧
    strict.Reachable ∧ Link.Accepting strict.link ∧
      strict.event? (.receive (Sample.control (.nack 0)) 1) = some (.nack guest 0) ∧
      strict.connection.peer? = some guest ∧ strict.connection.sendSequence = 0 ∧
      strict.connection.mayRepeat = false ∧
      offeringsIn (strict.journal (.receive (Sample.control (.nack 0)) 1)) = [] ∧
      (strict.after (.receive (Sample.control (.nack 0)) 1)).connection.state = .openIdle := by
  have hlisted : (wordy.ready (.poll 2)).Listed 2 .answerReady .sendAnswer .openWait :=
    .answer (by decide) (by decide) rfl (by decide)
  exact ⟨⟨reachable_wordy, RecordingLink.accepting _, by decide, hlisted, by decide, by decide⟩,
    reachable_strict, RecordingLink.accepting _, by decide, by decide, by decide, by decide,
    by decide, by decide⟩

end BusTransport
