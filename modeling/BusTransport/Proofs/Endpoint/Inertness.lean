import BusTransport.Proofs.Endpoint.Life
import BusTransport.Proofs.Endpoint.Reception

/-! # Inertness

An endpoint without connection does nothing on its own. Of all frames only a connect changes its
dialogue, and only data without connection gets past it, to be answered at once. Frames and instants
left over from the last connection make no exception.
-/

namespace BusTransport

theorem Connection.react_of_closed {c : Connection} {event : Event} (hs : c.state = .closed)
    (he : ∀ p, event ≠ .connect p) (hasRoom : Bool) :
    c.react hasRoom event = c.stay .ignore := by
  cases event with
  | connect p => exact absurd rfl (he p)
  | _ => simp [react, hs, isOpen, ConnectionState.isOpen]

namespace Dialogue

variable {own : DeviceAddress} {now : Instant} {d d' : Dialogue} {event? : Option Event}
  {journal : List Activity}

/-- Nothing but a connect changes the dialogue of a closed connection. -/
theorem Effect.eq_of_closed (h : Effect own now d event? journal d')
    (hs : d.connection.state = .closed) (he : ∀ p, event? ≠ some (.connect p)) : d' = d := by
  have hopen : d.connection.isOpen ≠ true := fun ho => Connection.isOpen_iff.mp ho hs
  cases h with
  | calm _ _ _ _ ht =>
    rcases ht with rfl | ⟨ho, -⟩
    · rfl
    · exact absurd ho hopen
  | connect => exact absurd rfl (he _)
  | close _ ho => exact absurd ho hopen
  | deliver h | sendAnswer h | dropAnswer h | finishAnswer h | repeatAnswer _ h =>
    rw [hs] at h
    cases h

end Dialogue

namespace Endpoint

open Dialogue Turn

variable {L A : Type} [Link L] {e : Endpoint L A} {call : Call} {frame : Frame}

def Greets (e : Endpoint L A) (frame : Frame) : Prop :=
  ∃ t, Telegram.decode frame = .ok t ∧ t.destination = .individual (Link.address e.link) ∧
    ControlField.decode t.tpci = .ok .connect

/-- What a frame that is no connect leaves in the journal of an endpoint without connection. -/
inductive Aside (e : Endpoint L A) (frame : Frame) : List Activity → Prop
  | nothing : Aside e frame []
  | group {t raw} : Telegram.decode frame = .ok t → t.destination = .group raw →
      Aside e frame [.groupDelivered t]
  | broadcast {t} : Telegram.decode frame = .ok t → t.destination = .broadcast →
      Aside e frame [.broadcastDelivered t]
  /-- The frame belongs to a connection that is not there. -/
  | ignored {t field} : e.Hears frame t field → (∀ high, field ≠ .unnumbered high) →
      Aside e frame [.performed .ignore]
  | reply {t high r journal} : e.Hears frame t (.unnumbered high) →
      Request.ofTelegram? t none = some r → Reply e.own r journal → Aside e frame journal

theorem Aside.sequence {journal : List Activity} {r : Request} {answer : Option Answer}
    (h : e.Aside frame journal) (hr : .requested r answer ∈ journal) : r.sequence = none := by
  cases h with
  | nothing => cases hr
  | group | broadcast | ignored => simp at hr
  | reply _ hreq hreply =>
    rw [hreply.eq_of_requested hr]
    exact Request.sequence_of_telegram hreq

theorem Aside.unnumbered {journal : List Activity} {sent : Frame} {refusal : Option LinkFault}
    (h : e.Aside frame journal) (hs : .offered sent refusal ∈ journal) :
    ∃ high, fieldOf? sent = some (.unnumbered high) := by
  cases h with
  | nothing => cases hs
  | group | broadcast | ignored => simp at hs
  | reply _ hreq hreply =>
    exact (hreply.quiet (Request.sequence_of_telegram hreq)).unnumbered hs

variable [Application A] {t : Telegram} {field : ControlField}

structure SetsAside (e : Endpoint L A) (call : Call) (frame : Frame) : Prop where
  dialogue_eq : (e.after call).dialogue = e.dialogue
  aside : e.Aside frame (e.journal call)
  sequence : ∀ r answer, .requested r answer ∈ e.journal call → r.sequence = none
  unnumbered : ∀ sent refusal, .offered sent refusal ∈ e.journal call →
    ∃ high, fieldOf? sent = some (.unnumbered high)

theorem aside_of_event {event : Event} (hs : e.connection.state = .closed)
    (hears : e.Hears frame t field) (hf : e.wayOutFree = true) (hfield : field ≠ .connect)
    (he : field.event? t.source = some event) (now : Instant) :
    e.Aside frame (e.journal (.receive frame now)) := by
  have hreact : (Dialogue.mk e.connection e.answers).react event = e.connection.stay .ignore := by
    refine Connection.react_of_closed hs (fun p h => ?_) _
    cases field <;> simp_all [ControlField.event?]
  have hjournal : e.journal (.receive frame now) = [.performed .ignore] := by
    rw [show e.journal (.receive frame now) = _ from report_journal ..,
      after_receive_of_hears hears hf he now, dispatch_of_ok (c := { endpoint := noted e t }) hreact
        rfl]
    rfl
  rw [hjournal]
  refine .ignored hears fun high h => ?_
  subst h
  cases he

theorem aside_of_unconnected (hears : e.Hears frame t field) (hf : e.wayOutFree = true)
    (he : field.event? t.source = none) (now : Instant) :
    e.Aside frame (e.journal (.receive frame now)) := by
  obtain ⟨r, hr⟩ := exists_request (hears.command (isControl_of_unconnected he)) none
  obtain ⟨journal, hleads, hreply⟩ := replyDirectly_leads (c := { endpoint := noted e t }) hr
  have hrun := (run_receive_of_hears hears now).trans (run_accept_of_unconnected now hf he)
  have hjournal : e.journal (.receive frame now) = journal := by
    rw [show e.journal (.receive frame now) = _ from report_journal .., after_congr hrun,
      after_bind_pure]
    exact hleads.journal_eq
  rw [hjournal]
  cases field with
  | unnumbered high => exact .reply hears hr hreply
  | _ => cases he

theorem aside_of_receive (hs : e.connection.state = .closed) (hg : ¬ e.Greets frame)
    (now : Instant) : e.Aside frame (e.journal (.receive frame now)) := by
  have hreception := e.reception frame now
  have hjournal : e.journal (.receive frame now) = (e.receive frame now).journal := rfl
  generalize e.receive frame now = report at hreception hjournal
  cases hreception with
  | malformed | repetition | foreign | unreadable | deferred =>
    rw [hjournal]
    exact .nothing
  | broadcast hd _ hdest =>
    rw [hjournal]
    exact .broadcast hd hdest
  | group hd _ hdest =>
    rw [hjournal]
    exact .group hd hdest
  | @taken t field _ hears hf =>
    rcases he : field.event? t.source with _ | event
    · exact aside_of_unconnected hears hf he now
    · refine aside_of_event hs hears hf (fun hfield => hg ?_) he now
      exact ⟨t, hears.decoded, hears.destination, hfield ▸ hears.known⟩

theorem aside_of_handed (hs : e.connection.state = .closed) (hframe : e.handed? call = some frame)
    (hg : ¬ e.Greets frame) : e.Aside frame (e.journal call) := by
  rw [(after_handed hframe).1]
  exact aside_of_receive hs hg call.now

omit [Application A] in
theorem greets_of_connect {p : DeviceAddress} (h : e.event? call = some (.connect p)) :
    ∃ frame, e.handed? call = some frame ∧ e.Greets frame := by
  have hheard {frame : Frame} (hheard : e.heard? frame = some (.connect p)) : e.Greets frame := by
    obtain ⟨t, field, hears, hfield, -⟩ := exists_hears hheard
    cases field with
    | connect => exact ⟨t, hears.decoded, hears.destination, hears.known⟩
    | _ => cases hfield
  cases call with
  | receive frame now => exact ⟨frame, rfl, hheard h⟩
  | serve now =>
    obtain ⟨frame, hframe, h⟩ := Option.bind_eq_some_iff.mp h
    exact ⟨frame, hframe, hheard h⟩
  | poll now =>
    simp only [event?, due?] at h
    split_ifs at h <;> cases h
  | hangUp now =>
    simp only [event?] at h
    split_ifs at h
    cases h

theorem Reachable.answers_eq_nil (hr : e.Reachable) (hs : e.connection.state = .closed) :
    e.answers.entries = [] :=
  (hr.dialogue_consistent.closed hs).answers

theorem Reachable.ready_of_closed (hr : e.Reachable) (hs : e.connection.state = .closed)
    (call : Call) : e.ready call = e.dialogue := by
  have hrelease : e.answers.release = e.answers := by
    rw [AnswerQueue.release, hr.answers_eq_nil hs, List.map_nil, ← hr.answers_eq_nil hs]
  rcases e.ready_cases call with h | h
  · exact h
  · rw [h, released]
    exact congrArg (Dialogue.mk e.connection) hrelease

theorem Reachable.dialogue_after (hr : e.Reachable) (hs : e.connection.state = .closed)
    (hg : ∀ frame, e.handed? call = some frame → ¬ e.Greets frame) :
    (e.after call).dialogue = e.dialogue := by
  have heffect := (e.proceeds call).step.effect
  rw [hr.ready_of_closed hs] at heffect
  refine heffect.eq_of_closed hs fun p hevent => ?_
  obtain ⟨frame, hframe, hgreets⟩ := greets_of_connect hevent
  exact hg frame hframe hgreets

/-- An endpoint does nothing on its own, and nothing about a connection that is not there. -/
structure Inert (e : Endpoint L A) : Prop where
  empty : e.answers.entries = []
  sets_aside : ∀ call frame, e.handed? call = some frame → ¬ e.Greets frame →
    e.SetsAside call frame
  poll : ∀ now, e.outcome (.poll now) = .ok none ∧ e.journal (.poll now) = [] ∧
    (e.after (.poll now)).dialogue = e.dialogue
  hangUp : ∀ now, e.outcome (.hangUp now) = .error .notConnected ∧ e.journal (.hangUp now) = [] ∧
    e.after (.hangUp now) = e
  /-- It stays so until it is handed a connect, whatever is called and at any instants. -/
  lasting : ∀ os e', Run e os e' →
    (∀ o ∈ os, ∀ frame, o.before.handed? o.call = some frame → ¬ o.before.Greets frame) →
    e'.dialogue = e.dialogue

omit [Application A] in
theorem due?_of_closed (hs : e.connection.state = .closed) (now : Instant) :
    e.due? now = none := by
  simp [due?, Connection.idleOverdue, Connection.ackOverdue, Connection.isOpen,
    ConnectionState.isOpen, hs]

theorem poll_of_closed (hr : e.Reachable) (hs : e.connection.state = .closed) (now : Instant) :
    e.outcome (.poll now) = .ok none ∧ e.journal (.poll now) = [] ∧
      (e.after (.poll now)).dialogue = e.dialogue := by
  have hrun : ∃ endpoint, (Turn.poll now).run { endpoint := e } = .ok () { endpoint } := by
    rcases hf : e.wayOutFree with _ | _
    · obtain ⟨link, hrun⟩ := run_poll_of_occupied now hf
      exact ⟨_, hrun⟩
    · exact ⟨_, run_poll_of_not_due hf (due?_of_closed hs now)⟩
  obtain ⟨endpoint, hrun⟩ := hrun
  have hreport : e.poll now = ⟨.ok (), [], endpoint⟩ := by rw [Endpoint.poll, report, hrun]
  refine ⟨?_, ?_, hr.dialogue_after hs ?_⟩
  · rw [outcome, hreport]
    rfl
  · rw [journal, hreport]
  · intro frame hframe
    cases hframe

theorem hangUp_of_closed (hs : e.connection.state = .closed) (now : Instant) :
    e.outcome (.hangUp now) = .error .notConnected ∧ e.journal (.hangUp now) = [] ∧
      e.after (.hangUp now) = e := by
  have hopen : e.connection.isOpen = false := by
    rw [Connection.isOpen, hs]
    rfl
  have hreport : e.hangUp now = ⟨.error .notConnected, [], e⟩ := by
    rw [Endpoint.hangUp, report, run_hangUp_of_closed now hopen]
  refine ⟨?_, ?_, ?_⟩
  · rw [outcome, hreport]
    rfl
  · rw [journal, hreport]
  · rw [after, hreport]

theorem dialogue_of_run {os : List (Occasion L A)} {e' : Endpoint L A} (hr : e.Reachable)
    (hs : e.connection.state = .closed) (hrun : Run e os e')
    (hg : ∀ o ∈ os, ∀ frame, o.before.handed? o.call = some frame → ¬ o.before.Greets frame) :
    e'.dialogue = e.dialogue := by
  induction hrun with
  | start => rfl
  | outside _ _ _ _ ih => exact ih hg
  | @call os e' call hrun ih =>
    have hd : e'.dialogue = e.dialogue := ih fun o hmem => hg o (List.mem_append_left _ hmem)
    have hs' : e'.connection.state = .closed := (congrArg (·.connection.state) hd).trans hs
    have hcall := hg _ (List.mem_append_right _ List.mem_cons_self)
    exact ((hr.run hrun).dialogue_after hs' hcall).trans hd

/-- Whatever has happened before, an endpoint without connection is inert. -/
theorem inert_of_closed (hr : e.Reachable) (hs : e.connection.state = .closed) : e.Inert where
  empty := hr.answers_eq_nil hs
  sets_aside call frame hframe hg := by
    have haside := aside_of_handed hs hframe hg
    refine ⟨hr.dialogue_after hs ?_, haside, fun _ _ => haside.sequence,
      fun _ _ => haside.unnumbered⟩
    intro frame' hframe'
    rwa [Option.some.inj (hframe'.symm.trans hframe)]
  poll := poll_of_closed hr hs
  hangUp := hangUp_of_closed hs
  lasting _ _ hrun hg := dialogue_of_run hr hs hrun hg

end Endpoint

open Sample in
/-- The host has given up its connection. An acknowledgement that comes too late is ignored. -/
theorem inert_silence : (host.afterAll silence).connection.state = .closed ∧
    (host.afterAll silence).Inert ∧
    (host.afterAll silence).journal (.receive (Sample.control (.ack 0)) 8000000001) =
      [.performed .ignore] :=
  ⟨rfl, Endpoint.inert_of_closed (Sample.reachable silence) rfl, by decide⟩

end BusTransport
