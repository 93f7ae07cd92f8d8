import BusTransport.Proofs.Endpoint.Consistency
import BusTransport.Proofs.Endpoint.Hearing
import BusTransport.Proofs.Endpoint.WayOut

/-! # Origins of faults

Between consistent states no step of a turn lacks what it needs. A call therefore ends with a fault
only if the link refuses a frame, if an answer of the application fits no telegram, or if the user
disconnects at the wrong time.
-/

namespace BusTransport

/-- Faults of steps that lack something which the endpoint itself has to provide. -/
def Fault.isInternal : Fault → Bool
  | .action _ | .frame .missingCommand | .busy .answerQueue | .busy (.slot ..) => true
  | _ => false

theorem Endpoint.answerFrame_error {own destination : DeviceAddress} {priority : Priority}
    {field : ControlField} {answer : Answer} {fault : FrameFault}
    (h : answerFrame own destination priority field answer = .error fault) :
    14 < answer.data.length ∧ fault = .payloadTooLong (answer.data.length + 1) := by
  unfold answerFrame Telegram.build at h
  split at h
  · cases h
  · next hlong =>
    rw [← Answer.fits_iff, Answer.fits, decide_eq_true_iff, Nat.not_le] at hlong
    cases h
    exact ⟨hlong, rfl⟩

namespace Turn

open Endpoint Dialogue Link

variable {L A α β : Type} {given : List Activity → Answer → Prop}

/-- A fault from outside: the link refused a frame, or an answer that was given fits no telegram. -/
inductive Excused (given : List Activity → Answer → Prop) (journal : List Activity) : Fault → Prop
  | refused {frame cause} : .offered frame (some cause) ∈ journal →
      Excused given journal (.link cause)
  | unfit {answer} : given journal answer → 14 < answer.data.length →
      Excused given journal (.frame (.payloadTooLong (answer.data.length + 1)))

/-- A turn that at a course ends with no other faults. -/
def Excusable (given : List Activity → Answer → Prop) (turn : Turn L A α) (c : Course L A) :
    Prop :=
  ∀ fault c', turn.run c = .error fault c' → Excused given c'.journal fault

variable {turn turn' : Turn L A α} {next : α → Turn L A β} {c c' : Course L A} {now : Instant}
  {t : Telegram} {t? : Option Telegram} {event : Event} {max : UInt8}

theorem excusable_of_ok {a : α} (h : turn.run c = .ok a c') : Excusable given turn c := by
  intro fault c'' h'
  rw [h] at h'
  cases h'

theorem excusable_congr (h : turn.run c = turn'.run c') (ht : Excusable given turn' c') :
    Excusable given turn c := by
  intro fault c'' h'
  exact ht fault c'' (h ▸ h')

theorem excusable_bind (ht : Excusable given turn c)
    (hn : ∀ a c', turn.run c = .ok a c' → Excusable given (next a) c') :
    Excusable given (turn >>= next) c := by
  intro fault c'' h
  rw [run_bind] at h
  rcases hrun : turn.run c with ⟨a, c'⟩ | ⟨fault', c'⟩
  · rw [hrun] at h
    exact hn a c' hrun fault c'' h
  · rw [hrun] at h
    cases h
    exact ht _ _ hrun

section Sending

variable [Link L]

theorem excusable_offer (frame : Frame) : Excusable given (offer frame) c := by
  intro fault c' h
  rcases run_offer frame c with ⟨link, hrun⟩ | ⟨link, cause, hrun⟩
  · rw [hrun] at h
    cases h
  · rw [hrun] at h
    cases h
    exact .refused (List.mem_append_right _ (List.mem_singleton.mpr rfl))

variable [Passive L]

theorem acquire_of_clear (hc : Clear c) (limit : Nat) :
    ∃ permit, c.endpoint.slot.acquire c.endpoint.link limit =
      (.ok permit, ⟨.acquired⟩, observed c.endpoint.link) := by
  have hrefresh := ControlSlot.refresh_of_isFree hc.slot_isFree c.endpoint.link
  exact ControlSlot.acquire_of_refresh hrefresh hc.slot_isFree hc.foundFree.sending_eq limit

theorem excusable_offerControl (hc : Clear c) (frame : Frame) :
    Excusable given (offerControl frame) c := by
  intro fault c' h
  obtain ⟨permit, ha⟩ := acquire_of_clear hc c.endpoint.profile.slotPollLimit.toNat
  unfold offerControl at h
  rcases hs : send (observed c.endpoint.link) frame with ⟨cause | _, link⟩
  · simp only [run_bind, run_endpoint, ha, run_update, run_require_ok, ControlSlot.transmit, hs,
      run_record, run_throw] at h
    cases h
    exact .refused (List.mem_append_right _ (List.mem_singleton.mpr rfl))
  · simp only [run_bind, run_endpoint, ha, run_update, run_require_ok, ControlSlot.transmit, hs,
      run_record] at h
    cases h

theorem excusable_sendControl (hc : Clear c) (destination : DeviceAddress) (field : ControlField) :
    Excusable given (sendControl destination field) c := by
  obtain ⟨frame, hf⟩ := exists_controlFrame (Link.address c.endpoint.link) destination field
  have hrun : (sendControl destination field).run c =
      (offerControl frame >>= fun _ => count .controlFrameSent).run c := by
    unfold sendControl
    simp only [run_bind, run_endpoint, hf, run_require_ok]
  apply excusable_congr hrun
  apply excusable_bind (excusable_offerControl hc frame)
  intro _ c' _
  exact excusable_of_ok rfl

end Sending

section Performing

variable [Link L] [Application A] {p : DeviceAddress} {n : SequenceNumber} {r : Request}

theorem excusable_closeSilently (hp : c.endpoint.connection.peer? = some p)
    (t? : Option Telegram) : Excusable given (perform t? now .closeSilently) c := by
  have hrun : (perform t? now .closeSilently).run c = .ok () (closing p c) := by
    simp only [perform, run_bind, run_peer hp, run_closeConnection]
  exact excusable_of_ok hrun

/-- The primary answer exists, but it may fit no telegram. -/
theorem excusable_sendAnswer {entry : PendingAnswer} {rest : List PendingAnswer}
    (hq : c.endpoint.answers.entries = entry :: rest)
    (hgiven : ∀ journal, given journal entry.answer) (t? : Option Telegram) :
    Excusable given (perform t? now .sendAnswer) c := by
  have hrun : (perform t? now .sendAnswer).run c = _ := run_sendPrimary now hq
  rcases hf : c.endpoint.dialogue.primaryFrame (Link.address c.endpoint.link) entry with
    fault | frame
  · obtain ⟨hlong, rfl⟩ := answerFrame_error hf
    rw [hf] at hrun
    intro fault c' h
    rw [hrun] at h
    cases h
    exact .unfit (hgiven _) hlong
  · rw [hf] at hrun
    apply excusable_congr hrun
    apply excusable_bind (excusable_offer frame)
    intro _ c' _
    exact excusable_of_ok rfl

theorem excusable_repeatAnswer {frame : Frame}
    (hf : c.endpoint.answers.outstandingFrame? = some frame) (t? : Option Telegram) :
    Excusable given (perform t? now .repeatAnswer) c := by
  apply excusable_congr (run_repeatAnswer hf)
  apply excusable_bind (excusable_offer frame)
  intro _ c' _
  exact excusable_of_ok rfl

theorem excusable_replyDirectly (hr : Request.ofTelegram? t none = some r)
    (hgiven : ∀ journal answer, .requested r (some answer) ∈ journal → given journal answer) :
    Excusable given (replyDirectly t) c := by
  have hrun := run_replyDirectly hr c
  rcases ha : (Application.respond c.endpoint.application r).1 with _ | answer
  · rw [ha] at hrun
    exact excusable_of_ok hrun
  rcases hf : answerFrame (Link.address c.endpoint.link) r.source r.priority
      (.unnumbered answer.commandHigh) answer with fault | frame
  · obtain ⟨hlong, rfl⟩ := answerFrame_error hf
    simp only [ha, hf] at hrun
    intro fault c' h
    rw [hrun] at h
    cases h
    have hmem : .requested r (some answer) ∈ (asked r c).journal := by
      rw [asked, ha]
      exact List.mem_append_right _ (List.mem_singleton.mpr rfl)
    exact .unfit (hgiven _ _ hmem) hlong
  · simp only [ha, hf] at hrun
    apply excusable_congr hrun
    apply excusable_bind (excusable_offer frame)
    intro _ c' _
    exact excusable_of_ok rfl

variable [Passive L]

theorem excusable_reject (hc : Clear c) (t? : Option Telegram) (p : DeviceAddress) :
    Excusable given (perform t? now (.reject p)) c := by
  apply excusable_bind (excusable_of_ok (run_count _ c))
  intro _ c' h
  cases h
  apply excusable_sendControl
  exact ⟨hc.slot_isFree, hc.foundFree⟩

theorem excusable_ackAgain (hc : Clear c) (hp : c.endpoint.connection.peer? = some p)
    (t? : Option Telegram) (n : SequenceNumber) :
    Excusable given (perform t? now (.ackAgain n)) c := by
  have hrun : (perform t? now (.ackAgain n)).run c = (sendControl p (.ack n) >>= fun _ => do
      count .duplicate
      updateConnection (·.touch now)).run c := by
    simp only [perform, run_bind, run_peer hp]
  apply excusable_congr hrun
  apply excusable_bind (excusable_sendControl hc p (.ack n))
  intro _ c' _
  exact excusable_of_ok rfl

theorem excusable_refuse (hc : Clear c) (hp : c.endpoint.connection.peer? = some p)
    (t? : Option Telegram) (n : SequenceNumber) :
    Excusable given (perform t? now (.refuse n)) c := by
  have hrun : (perform t? now (.refuse n)).run c =
      (sendControl p (.nack n) >>= fun _ => count .nackSent).run c := by
    simp only [perform, run_bind, run_peer hp]
  apply excusable_congr hrun
  apply excusable_bind (excusable_sendControl hc p (.nack n))
  intro _ c' _
  exact excusable_of_ok rfl

theorem excusable_deliver (hc : Clear c) (hroom : c.endpoint.answers.hasRoom = true)
    (hreq : Request.ofTelegram? t (some n) = some r) :
    Excusable given (perform (some t) now (.deliver n)) c := by
  apply excusable_congr (run_deliver hreq now c)
  apply excusable_bind (excusable_sendControl hc t.source (.ack n))
  intro _ c' hsent
  have hanswers : c'.endpoint.answers = c.endpoint.answers := by
    have hafter := after_of_ok hsent
    obtain ⟨frame, hf⟩ := exists_controlFrame (Link.address c.endpoint.link) t.source (.ack n)
    rcases run_sendControl (c := c) hf with
      ⟨link, hrun⟩ | ⟨link, cause, hrun⟩ | ⟨slot, link, cause, -, hrun⟩
    · rw [← hafter, after_of_ok hrun]
    · rw [← hafter, after_of_error hrun]
    · rw [← hafter, after_of_error hrun]
  rw [← hanswers] at hroom
  let accepted : Course L A := { c' with endpoint := { c'.endpoint with
    connection := c'.endpoint.connection.acceptRequest n now } }
  have hrun : (acceptance t r n now).run c' = .ok () _ :=
    run_queueAnswer (c := asked r accepted) hroom hreq _
  exact excusable_of_ok hrun

theorem excusable_closeAndTell (hc : Clear c) (hp : c.endpoint.connection.peer? = some p)
    (t? : Option Telegram) : Excusable given (perform t? now .closeAndTell) c := by
  have hrun : (perform t? now .closeAndTell).run c =
      (sendControl p .disconnect).run (closing p c) := by
    simp only [perform, run_bind, run_peer hp, run_closeConnection]
  apply excusable_congr hrun
  apply excusable_sendControl
  exact ⟨hc.slot_isFree, hc.foundFree⟩

/-- While an answer is outstanding its frame is stored. -/
theorem excusable_retry (hc : Clear c) (hd : c.endpoint.dialogue.Waiting)
    (t? : Option Telegram) :
    Excusable given (perform t? now c.endpoint.connection.retry.action) c := by
  obtain ⟨p, hp⟩ := hd.peer
  obtain ⟨entry, rest, frame, hq, -, hkept, -, -⟩ := hd.answers
  have hf : c.endpoint.answers.outstandingFrame? = some frame :=
    (AnswerQueue.outstandingFrame?_of_entries hq).trans hkept
  unfold Connection.retry
  split
  · exact excusable_repeatAnswer hf t?
  · exact excusable_closeAndTell hc hp t?

omit [Link L] [Application A] [Passive L] in
theorem exists_peer_of_isOpen {d : Dialogue} (hd : d.Consistent max)
    (ho : d.connection.isOpen = true) : ∃ p, d.connection.peer? = some p := by
  rcases hs : d.connection.state with _ | _ | _
  · exact absurd hs (Connection.isOpen_iff.mp ho)
  · exact (hd.openIdle hs).peer
  · exact (hd.openWait hs).peer

/-- What an event needs besides consistency: data a telegram with a command, and the readiness of an
answer that there is one. -/
structure Provided (given : List Activity → Answer → Prop) (q : AnswerQueue)
    (t? : Option Telegram) (event : Event) : Prop where
  data : ∀ p n, event = .data p n → ∃ t r, t? = some t ∧ Request.ofTelegram? t (some n) = some r
  answer : event = .answerReady → ∃ entry rest, q.entries = entry :: rest ∧
    ∀ journal, given journal entry.answer

/-- In a consistent dialogue each line of the table finds what its action needs. -/
theorem excusable_perform {decision : Decision} (hc : Clear c)
    (hd : c.endpoint.dialogue.Consistent max)
    (hprovided : Provided given c.endpoint.answers t? event)
    (hdec : c.endpoint.connection.Decides c.endpoint.answers.hasRoom event decision) :
    Excusable given (perform t? now decision.action) c := by
  cases hdec with
  | connect => exact excusable_of_ok rfl
  | reject => exact excusable_reject hc t? _
  | leave hp => exact excusable_closeSilently hp t?
  | finish => exact excusable_of_ok rfl
  | mismatch _ hp => exact excusable_closeAndTell hc hp t?
  | retryNacked hs => exact excusable_retry hc (hd.openWait hs) t?
  | deliver _ _ hroom =>
    obtain ⟨t, r, rfl, hreq⟩ := hprovided.data _ _ rfl
    exact excusable_deliver hc hroom hreq
  | ackAgain hp => exact excusable_ackAgain hc hp t? _
  | refuse hp => exact excusable_refuse hc hp t? _
  | expire ho | hangUp ho =>
    obtain ⟨p, hp⟩ := exists_peer_of_isOpen hd ho
    exact excusable_closeAndTell hc hp t?
  | sendAnswer =>
    obtain ⟨entry, rest, hq, hgiven⟩ := hprovided.answer rfl
    exact excusable_sendAnswer hq hgiven t?
  | retryLate hs => exact excusable_retry hc (hd.openWait hs) t?
  | ignore => exact excusable_of_ok rfl

theorem excusable_dispatch (hc : Clear c) (hd : c.endpoint.dialogue.Consistent max)
    (hprovided : Provided given c.endpoint.answers t? event) :
    Excusable given (dispatch event t? now) c := by
  have hdec := Connection.react_decides c.endpoint.connection c.endpoint.answers.hasRoom event
  apply excusable_bind (excusable_of_ok (run_endpoint c))
  intro e c' h
  cases h
  apply excusable_bind (excusable_perform hc hd hprovided hdec)
  intro _ c' _
  exact excusable_of_ok rfl

end Performing

section Calls

variable [Link L] {e : Endpoint L A} {field : ControlField} {frame : Frame}

theorem clear_settled (hf : e.wayOutFree = true) :
    Clear ({ endpoint := e.settled } : Course L A) where
  slot_isFree := slot_isFree_of_wayOutFree hf
  foundFree := by
    refine ⟨e.refreshed.link, rfl, ?_⟩
    simpa [wayOutFree, slot_isFree_of_wayOutFree hf] using hf

variable [Application A]

variable [Passive L]

theorem excusable_accept (hd : e.dialogue.Consistent max)
    (hcommand : field.isControl = false → t.payload ≠ [])
    (hgiven : ∀ journal r answer, .requested r (some answer) ∈ journal → given journal answer) :
    Excusable given (accept t field now) { endpoint := e } := by
  rcases hf : e.wayOutFree with _ | _
  · obtain ⟨link, hrun⟩ := run_accept_of_occupied t field now hf
    exact excusable_of_ok hrun
  have hclear : Clear { endpoint := noted e t } :=
    ⟨(clear_settled hf).slot_isFree, (clear_settled hf).foundFree⟩
  rcases he : field.event? t.source with _ | event
  · obtain ⟨r, hr⟩ := exists_request (hcommand (isControl_of_unconnected he)) none
    apply excusable_congr (run_accept_of_unconnected now hf he)
    apply excusable_bind (excusable_replyDirectly hr fun journal => hgiven journal r)
    intro _ c' _
    exact excusable_of_ok rfl
  · apply excusable_congr (run_accept_of_event now hf he)
    have hprovided : Provided given e.answers (some t) event := by
      constructor
      · rintro p n rfl
        obtain ⟨hcontrol, -⟩ := isControl_of_event? he
        obtain ⟨r, hr⟩ := exists_request (hcommand hcontrol) (some n)
        exact ⟨t, r, rfl, hr⟩
      · rintro rfl
        cases field <;> cases he
    apply excusable_bind (excusable_dispatch hclear hd hprovided)
    intro _ c' _
    exact excusable_of_ok rfl

theorem excusable_receive (hd : e.dialogue.Consistent max) (frame : Frame)
    (hgiven : ∀ journal r answer, .requested r (some answer) ∈ journal → given journal answer) :
    Excusable given (receive frame now) { endpoint := e } := by
  rcases consumed_or_hears e frame now with ⟨c, hrun, -⟩ | ⟨t, field, hears⟩
  · exact excusable_of_ok hrun
  · apply excusable_congr (run_receive_of_hears hears now)
    exact excusable_accept hd hears.command hgiven

theorem excusable_poll (hd : e.dialogue.Consistent max)
    (hgiven : ∀ entry ∈ e.answers.entries, ∀ journal, given journal entry.answer) :
    Excusable given (Turn.poll now) { endpoint := e } := by
  rcases hf : e.wayOutFree with _ | _
  · obtain ⟨link, hrun⟩ := run_poll_of_occupied now hf
    exact excusable_of_ok hrun
  rcases hdue : e.due? now with _ | event
  · exact excusable_of_ok (run_poll_of_not_due hf hdue)
  obtain ⟨statistics, hrun⟩ := run_poll_of_due hdue
  apply excusable_congr hrun
  have hclear : Clear { endpoint := { e.settled with answers := e.answers.release, statistics } } :=
    ⟨(clear_settled hf).slot_isFree, (clear_settled hf).foundFree⟩
  refine excusable_dispatch hclear (consistent_released hd) ⟨?_, ?_⟩
  · rintro p n rfl
    exact absurd hdue (due?_ne_data e now p n)
  · rintro rfl
    obtain ⟨entry, rest, hq, -⟩ := AnswerQueue.exists_ready (of_due_answerReady hdue).2
    refine ⟨entry, rest, hq, ?_⟩
    have hmem : entry ∈ e.answers.release.entries := by
      rw [hq]
      exact List.mem_cons_self
    obtain ⟨entry', hmem', rfl⟩ := List.mem_map.mp hmem
    exact hgiven entry' hmem'

theorem excusable_hangUp (hd : e.dialogue.Consistent max) (ho : e.connection.isOpen = true)
    (hf : e.wayOutFree = true) : Excusable given (Turn.hangUp now) { endpoint := e } := by
  apply excusable_congr (run_hangUp_of_free now ho hf)
  exact excusable_dispatch (clear_settled hf) hd ⟨nofun, nofun⟩

end Calls

end Turn

namespace Dialogue

variable {own : DeviceAddress} {now : Instant} {d d' : Dialogue} {event? : Option Event}
  {journal : List Activity} {entry : PendingAnswer}

/-- A queued answer was queued before the step, or the application has given it in the step. -/
theorem Effect.given (h : Effect own now d event? journal d') (hmem : entry ∈ d'.answers.entries) :
    (∃ entry' ∈ d.answers.entries, entry'.answer = entry.answer) ∨
      ∃ r, .requested r (some entry.answer) ∈ journal := by
  cases h with
  | calm => exact .inl ⟨entry, hmem, rfl⟩
  | connect => exact absurd hmem List.not_mem_nil
  | @deliver p r answer frame =>
    cases answer with
    | none => exact .inl ⟨entry, hmem, rfl⟩
    | some answer =>
      rcases List.mem_append.mp hmem with hold | hnew
      · exact .inl ⟨entry, hold, rfl⟩
      · obtain rfl := List.mem_singleton.mp hnew
        exact .inr ⟨r, by simp⟩
  | close => exact absurd hmem List.not_mem_nil
  | @sendAnswer primary rest frame _ hq =>
    rw [hq]
    rcases List.mem_cons.mp hmem with rfl | hlater
    · exact .inl ⟨primary, List.mem_cons_self, rfl⟩
    · exact .inl ⟨entry, List.mem_cons_of_mem _ hlater, rfl⟩
  | dropAnswer _ hq =>
    rw [hq]
    exact .inl ⟨entry, List.mem_cons_of_mem _ hmem, rfl⟩
  | finishAnswer => exact .inl ⟨entry, List.mem_of_mem_tail hmem, rfl⟩
  | repeatAnswer => exact .inl ⟨entry, hmem, rfl⟩

end Dialogue

namespace Endpoint

open Turn Link

variable {L A : Type} [Link L] [Application A] {e e₀ : Endpoint L A} {os : List (Occasion L A)}
  {call : Call} {fault : Fault}

omit [Application A] in
theorem mem_answers_ready {entry : PendingAnswer} (h : entry ∈ (e.ready call).answers.entries) :
    ∃ entry' ∈ e.answers.entries, entry'.answer = entry.answer := by
  rcases e.ready_cases call with hr | hr
  · rw [hr] at h
    exact ⟨entry, h, rfl⟩
  · rw [hr] at h
    obtain ⟨entry', hmem, rfl⟩ := List.mem_map.mp h
    exact ⟨entry', hmem, rfl⟩

/-- Every queued answer was given by the application on some occasion before. -/
theorem exists_given {link : L} {application : A} {profile : TransportProfile}
    (hc : create link application profile = .ok e₀) (hrun : Run e₀ os e) :
    ∀ entry ∈ e.answers.entries, ∃ o ∈ os, ∃ r, .requested r (some entry.answer) ∈ o.journal := by
  induction hrun with
  | start =>
    rw [eq_of_create hc]
    exact nofun
  | outside _ _ _ _ ih => exact ih
  | @call os e call _ ih =>
    intro entry hmem
    rcases (e.proceeds call).step.effect.given hmem with ⟨entry', hmem', heq⟩ | ⟨r, hr⟩
    · obtain ⟨entry'', hmem'', heq'⟩ := mem_answers_ready hmem'
      obtain ⟨o, ho, r, hr⟩ := ih entry'' hmem''
      rw [heq', heq] at hr
      exact ⟨o, List.mem_append_left _ ho, r, hr⟩
    · exact ⟨_, List.mem_append_right _ (List.mem_singleton.mpr rfl), r, hr⟩

variable [Passive L]

omit [Link L] [Application A] [Passive L] in
theorem error_of_map_error {α β : Type} {f : α → β} {x : Except Fault α}
    (h : x.map f = .error fault) : x = .error fault := by
  cases x with
  | error cause => cases h; rfl
  | ok a => cases h

inductive Explained (os : List (Occasion L A)) (e : Endpoint L A) (call : Call) : Fault → Prop
  /-- The link was not sending, and refused a frame for this very cause. -/
  | refused {link frame cause} : Reads e.link link → sending link = false →
      refusal link frame = some cause → .offered frame (some cause) ∈ e.journal call →
      Explained os e call (.link cause)
  /-- Unconnected data was handed over, and got an answer that fits no telegram. -/
  | replied {frame r answer} : e.handed? call = some frame →
      .requested r (some answer) ∈ e.journal call → 14 < answer.data.length →
      Explained os e call (.frame (.payloadTooLong (answer.data.length + 1)))
  /-- The turn of an answer had come that was given before and fits no telegram. -/
  | queued {now o r answer} : call = .poll now → o ∈ os →
      .requested r (some answer) ∈ o.journal → 14 < answer.data.length →
      Explained os e call (.frame (.payloadTooLong (answer.data.length + 1)))
  | unconnected {now} : call = .hangUp now → e.connection.state = .closed →
      Explained os e call .notConnected
  | occupied {now} : call = .hangUp now → e.connection.isOpen = true → sending e.link = true →
      Explained os e call (.busy .linkSending)

theorem explained_of_refused {frame : Frame} {cause : LinkFault}
    (h : .offered frame (some cause) ∈ e.journal call) : Explained os e call (.link cause) := by
  obtain ⟨-, link, hread, hfree, hrefusal⟩ := offered_of_free h
  exact .refused hread hfree hrefusal h

theorem explained_of_receive {max : UInt8} {frame : Frame} (hd : e.dialogue.Consistent max)
    (hframe : e.handed? call = some frame) (h : e.outcome call = .error fault) :
    Explained os e call fault := by
  rw [outcome_handed hframe] at h
  obtain ⟨c, hrun, hj⟩ := report_of_error (error_of_map_error h)
  have hjournal : e.journal call = c.journal := (after_handed hframe).1.trans hj
  have hexcused : Excused (fun journal answer => ∃ r, .requested r (some answer) ∈ journal)
      c.journal fault :=
    excusable_receive hd frame (fun _ r _ hmem => ⟨r, hmem⟩) _ _ hrun
  rw [← hjournal] at hexcused
  cases hexcused with
  | refused hmem => exact explained_of_refused hmem
  | unfit hgiven hlong =>
    obtain ⟨r, hmem⟩ := hgiven
    exact .replied hframe hmem hlong

theorem explained_of_poll {max : UInt8} {now : Instant} (hd : e.dialogue.Consistent max)
    (hgiven : ∀ entry ∈ e.answers.entries, ∃ o ∈ os, ∃ r,
      .requested r (some entry.answer) ∈ o.journal)
    (h : e.outcome (.poll now) = .error fault) : Explained os e (.poll now) fault := by
  obtain ⟨c, hrun, hj⟩ := report_of_error (error_of_map_error h)
  have hjournal : e.journal (.poll now) = c.journal := hj
  have hexcused : Excused (fun _ answer => ∃ o ∈ os, ∃ r,
      .requested r (some answer) ∈ o.journal) c.journal fault :=
    excusable_poll hd (fun entry hmem _ => hgiven entry hmem) _ _ hrun
  rw [← hjournal] at hexcused
  cases hexcused with
  | refused hmem => exact explained_of_refused hmem
  | unfit hgiven hlong =>
    obtain ⟨o, ho, r, hmem⟩ := hgiven
    exact .queued rfl ho hmem hlong

theorem explained_of_hangUp {max : UInt8} {now : Instant} (hd : e.dialogue.Consistent max)
    (hs : e.slot.state ≠ .acquired) (h : e.outcome (.hangUp now) = .error fault) :
    Explained os e (.hangUp now) fault := by
  obtain ⟨c, hrun, hj⟩ := report_of_error (error_of_map_error h)
  have hjournal : e.journal (.hangUp now) = c.journal := hj
  rcases ho : e.connection.isOpen with _ | _
  · rw [run_hangUp_of_closed now ho] at hrun
    cases hrun
    apply Explained.unconnected rfl
    by_contra hne
    exact Bool.false_ne_true (ho.symm.trans (Connection.isOpen_iff.mpr hne))
  rcases hf : e.wayOutFree with _ | _
  · obtain ⟨link, hbusy⟩ := run_hangUp_of_occupied now ho hf
    rw [hbusy] at hrun
    cases hrun
    rw [wayOutFree_eq hs] at hf
    exact .occupied rfl ho (by simpa using hf)
  · have hexcused : Excused (fun _ _ => False) c.journal fault :=
      excusable_hangUp hd ho hf _ _ hrun
    rw [← hjournal] at hexcused
    cases hexcused with
    | refused hmem => exact explained_of_refused hmem
    | unfit hnone => exact hnone.elim

theorem hangUp_notConnected_iff {max : UInt8} (hd : e.dialogue.Consistent max)
    (hs : e.slot.state ≠ .acquired) (now : Instant) :
    e.outcome (.hangUp now) = .error .notConnected ↔ e.connection.state = .closed := by
  constructor
  · intro h
    have hexplained : Explained [] e (.hangUp now) .notConnected := explained_of_hangUp hd hs h
    cases hexplained with
    | unconnected _ hclosed => exact hclosed
  · intro hclosed
    have ho : e.connection.isOpen = false := by
      rw [Connection.isOpen, hclosed]
      rfl
    simp [outcome, hangUp, report, run_hangUp_of_closed now ho, Except.map]

theorem hangUp_linkSending_iff {max : UInt8} (hd : e.dialogue.Consistent max)
    (hs : e.slot.state ≠ .acquired) (now : Instant) :
    e.outcome (.hangUp now) = .error (.busy .linkSending) ↔
      e.connection.isOpen = true ∧ sending e.link = true := by
  constructor
  · intro h
    have hexplained : Explained [] e (.hangUp now) (.busy .linkSending) :=
      explained_of_hangUp hd hs h
    cases hexplained with
    | occupied _ ho hl => exact ⟨ho, hl⟩
  · rintro ⟨ho, hl⟩
    have hf : e.wayOutFree = false := by rw [wayOutFree_eq hs, hl]; rfl
    obtain ⟨link, hrun⟩ := run_hangUp_of_occupied now ho hf
    simp [outcome, hangUp, report, hrun, Except.map]

/-- In every run over a link that starts no transmission of its own accord, each fault has its cause
outside the endpoint. The user is refused a disconnect without a try exactly while there is no
connection, or while the link is sending. -/
theorem explained_of_run {link : L} {application : A} {profile : TransportProfile}
    (hc : create link application profile = .ok e₀) (hrun : Run e₀ os e) (call : Call) :
    (∀ fault, e.outcome call = .error fault →
      Explained os e call fault ∧ fault.isInternal = false) ∧
    (∀ now, e.outcome (.hangUp now) = .error .notConnected ↔ e.connection.state = .closed) ∧
    (∀ now, e.outcome (.hangUp now) = .error (.busy .linkSending) ↔
      e.connection.isOpen = true ∧ sending e.link = true) := by
  have hreachable : e.Reachable := ⟨hc, hrun⟩
  have hd := hreachable.dialogue_consistent
  have hs := hreachable.slot_ne_acquired
  refine ⟨?_, hangUp_notConnected_iff hd hs, hangUp_linkSending_iff hd hs⟩
  intro fault h
  have hexplained : Explained os e call fault := by
    cases call with
    | receive frame now => exact explained_of_receive hd rfl h
    | serve now =>
      rcases hframe : Link.received e.link with _ | frame
      · simp [outcome, serve, hframe] at h
      · exact explained_of_receive hd hframe h
    | poll now => exact explained_of_poll hd (exists_given hc hrun) h
    | hangUp now => exact explained_of_hangUp hd hs h
  refine ⟨hexplained, ?_⟩
  cases hexplained <;> rfl

end Endpoint

def Sample.verbose : Endpoint (FaultyLink RecordingLink) Responder where
  link := { inner := host.link, failures := 1 }
  application := .fixed ⟨0x340, List.replicate 15 0⟩
  profile := {}
  connection := .ofProfile {}

/-- The acknowledgement of a request is refused, and the answer to the same request fits no
telegram. -/
def Sample.misfortunes : List Call := [
  .receive (control .connect) 0, .receive (request 0) 1, .receive (request 0) 2, .poll 3, .hangUp 4]

open Sample Endpoint in
theorem explained_misfortunes :
    create verbose.link verbose.application verbose.profile = .ok verbose ∧
    (∀ calls, Run verbose (verbose.history calls) (verbose.afterAll calls)) ∧
    Link.Passive (FaultyLink RecordingLink) ∧
    (verbose.afterAll (misfortunes.take 1)).outcome (.receive (request 0) 1) =
      .error (.link (.failed "scripted failure")) ∧
    Explained (verbose.history (misfortunes.take 1)) (verbose.afterAll (misfortunes.take 1))
      (.receive (request 0) 1) (.link (.failed "scripted failure")) ∧
    Explained (verbose.history (misfortunes.take 3)) (verbose.afterAll (misfortunes.take 3))
      (.poll 3) (.frame (.payloadTooLong 16)) ∧
    Explained (verbose.history misfortunes) (verbose.afterAll misfortunes) (.hangUp 5)
      .notConnected := by
  have hc : create verbose.link verbose.application verbose.profile = .ok verbose := rfl
  have hrun := verbose.run_history
  have hlink : (verbose.afterAll (misfortunes.take 1)).outcome (.receive (request 0) 1) =
      .error (.link (.failed "scripted failure")) := by rfl
  have hlong : (verbose.afterAll (misfortunes.take 3)).outcome (.poll 3) =
      .error (.frame (.payloadTooLong 16)) := by rfl
  have hclosed : (verbose.afterAll misfortunes).outcome (.hangUp 5) = .error .notConnected := by rfl
  exact ⟨hc, hrun, inferInstance, hlink, ((explained_of_run hc (hrun _) _).1 _ hlink).1,
    ((explained_of_run hc (hrun _) _).1 _ hlong).1,
    ((explained_of_run hc (hrun _) _).1 _ hclosed).1⟩

end BusTransport
