import BusTransport.Proofs.Endpoint.Bystander

/-! # Busy links

A poll, or a disconnect by the user, that finds the link sending does no more than read it. A poll
may also note that acknowledgements have left. However often both are tried during a transmission,
the first poll after it does what it would have done without them.
-/

namespace BusTransport

/-- A call that is about no frame: a poll, or a disconnect by the user. -/
def Call.isUnprompted : Call → Bool
  | poll _ | hangUp _ => true
  | receive .. | serve _ => false

/-- What is queued, whether or not the acknowledgements before it have left. -/
def AnswerQueue.contents (q : AnswerQueue) : List PendingAnswer :=
  q.entries.map PendingAnswer.released

@[simp] theorem AnswerQueue.contents_release (q : AnswerQueue) :
    q.release.contents = q.contents := by
  simp [contents, release]

namespace Turn

open Endpoint

variable {L A : Type} [Link L] [Application A] {e : Endpoint L A}

theorem run_poll_release (now : Instant) (hs : e.slot.isFree = true) :
    (Turn.poll now).run { endpoint := { e with answers := e.answers.release } } =
      (Turn.poll now).run { endpoint := e } := by
  simp only [Turn.poll, run_bind, run_refreshSlot, refreshed, ControlSlot.refresh_of_isFree hs,
    run_endpoint, hs, if_true, run_updateAnswers, AnswerQueue.release_release]

end Turn

namespace Endpoint

open Link Turn

variable {L A : Type} [Link L] {e e' : Endpoint L A} {call : Call} {now : Instant}

theorem slot_refreshed_of_sending (hs : sending e.link = true) : e.refreshed.slot = e.slot := by
  simp only [refreshed, ControlSlot.refresh, hs, if_true]
  split <;> rfl

/-- A link that is sending occupies the way out, whoever uses it. -/
theorem wayOutFree_of_sending (hs : sending e.link = true) : e.wayOutFree = false := by
  rw [wayOutFree, slot_refreshed_of_sending hs]
  rcases hf : e.slot.isFree with _ | _
  · rfl
  · have hrefreshed : e.refreshed.link = e.link := by
      rw [refreshed, ControlSlot.refresh_of_isFree hf]
    rw [hrefreshed, hs]
    rfl

/-- The second endpoint is the first one, with other surroundings, after some time of waiting. -/
inductive Outwaits (e : Endpoint L A) : Endpoint L A → Prop
  | kept {link application statistics} : Outwaits e { e with link, application, statistics }
  | released {link application statistics} : e.slot.isFree = true →
      Outwaits e { e with link, application, statistics, answers := e.answers.release }

variable [Application A]

/-- A call has done no more than read the link. A poll that finds the control slot free also notes
that the acknowledgements have left. -/
structure Bides (e : Endpoint L A) (call : Call) : Prop where
  journal_eq : e.journal call = []
  after_eq : ∃ link, Reads e.link link ∧
    e.after call = { e with link, answers := (e.after call).answers }
  answers_eq : (e.after call).answers = e.answers ∨
    (∃ now, call = .poll now) ∧ e.slot.isFree = true ∧ (e.after call).answers = e.answers.release
  contents_eq : (e.after call).answers.contents = e.answers.contents

theorem poll_of_sending (hs : sending e.link = true) (now : Instant) : ∃ link,
    Reads e.link link ∧ e.poll now = ⟨.ok (), [], { e with
      link, answers := if e.slot.isFree then e.answers.release else e.answers }⟩ := by
  obtain ⟨link, hread, hlooked⟩ := looked_of_sending hs
  refine ⟨link, hread, ?_⟩
  have hready : (e.ready (.poll now)).answers =
      if e.slot.isFree then e.answers.release else e.answers := by
    rw [ready, slot_refreshed_of_sending hs]
    split <;> rfl
  rw [← hready]
  refine (report_of_run_ok (run_poll_of_wait now (wayOutFree_of_sending hs))).trans ?_
  rw [hlooked]

theorem hangUp_of_sending (hs : sending e.link = true) (now : Instant) : ∃ link,
    Reads e.link link ∧ e.hangUp now =
      ⟨.error (if e.connection.isOpen then .busy .linkSending else .notConnected), [],
        { e with link }⟩ := by
  rcases ho : e.connection.isOpen with _ | _
  · exact ⟨e.link, .refl _, report_of_run_error (run_hangUp_of_closed now ho)⟩
  · obtain ⟨link, hread, hlooked⟩ := looked_of_sending hs
    refine ⟨link, hread, ?_⟩
    refine (report_of_run_error (run_hangUp_of_wait now ho (wayOutFree_of_sending hs))).trans ?_
    rw [hlooked]
    rfl

theorem outcome_poll_of_sending (hs : sending e.link = true) :
    e.outcome (.poll now) = .ok none := by
  obtain ⟨link, -, hpoll⟩ := poll_of_sending hs now
  rw [outcome, hpoll]
  rfl

theorem outcome_hangUp_of_sending (hs : sending e.link = true) : e.outcome (.hangUp now) =
    .error (if e.connection.isOpen then .busy .linkSending else .notConnected) := by
  obtain ⟨link, -, hhangUp⟩ := hangUp_of_sending hs now
  rw [outcome, hhangUp]
  rfl

theorem bides_poll (hs : sending e.link = true) : e.Bides (.poll now) := by
  obtain ⟨link, hread, hpoll⟩ := poll_of_sending hs now
  have hafter : e.after (.poll now) = _ := congrArg Report.endpoint hpoll
  refine ⟨congrArg Report.journal hpoll, ⟨link, hread, ?_⟩, ?_, ?_⟩
  · rw [hafter]
  · rw [hafter]
    dsimp only
    split_ifs with hfree
    · exact .inr ⟨⟨now, rfl⟩, hfree, rfl⟩
    · exact .inl rfl
  · rw [hafter]
    dsimp only
    split_ifs
    · exact AnswerQueue.contents_release _
    · rfl

theorem bides_hangUp (hs : sending e.link = true) : e.Bides (.hangUp now) := by
  obtain ⟨link, hread, hhangUp⟩ := hangUp_of_sending hs now
  have hafter : e.after (.hangUp now) = _ := congrArg Report.endpoint hhangUp
  refine ⟨congrArg Report.journal hhangUp, ⟨link, hread, ?_⟩, .inl ?_, ?_⟩
  · rw [hafter]
  · rw [hafter]
  · rw [hafter]

theorem bides_of_sending (hs : sending e.link = true) (hcall : call.isUnprompted = true) :
    e.Bides call := by
  cases call with
  | poll now => exact bides_poll hs
  | hangUp now => exact bides_hangUp hs
  | receive frame now => cases hcall
  | serve now => cases hcall

namespace Outwaits

omit [Link L] [Application A] in
theorem refl (e : Endpoint L A) : e.Outwaits e := .kept

omit [Link L] [Application A] in
theorem outside (h : e.Outwaits e') (link : L) (application : A) (statistics : Statistics) :
    e.Outwaits { e' with link, application, statistics } := by
  cases h with
  | kept => exact .kept
  | released hs => exact .released hs

theorem bides (h : e.Outwaits e') (hb : e'.Bides call) : e.Outwaits (e'.after call) := by
  obtain ⟨link, -, hafter⟩ := hb.after_eq
  rcases hb.answers_eq with ha | ⟨-, hs, ha⟩
  · rw [hafter, ha]
    exact h.outside link e'.application e'.statistics
  · rw [hafter, ha]
    cases h with
    | kept => exact .released hs
    | released hs =>
      dsimp only
      rw [AnswerQueue.release_release]
      exact .released hs

omit [Application A] in
theorem due?_eq (h : e.Outwaits e') (link : L) (application : A) (statistics : Statistics)
    (now : Instant) : ({ e' with link, application, statistics }).due? now =
      ({ e with link, application, statistics }).due? now := by
  cases h with
  | kept => rfl
  | released hs =>
    unfold due?
    rw [AnswerQueue.release_release]
    rfl

/-- After the wait a poll does what it would have done before, in the same surroundings. -/
theorem poll_eq (h : e.Outwaits e') (link : L) (application : A) (statistics : Statistics)
    (now : Instant) : ({ e' with link, application, statistics }).poll now =
      ({ e with link, application, statistics }).poll now := by
  cases h with
  | kept => rfl
  | released hs =>
    unfold Endpoint.poll report
    rw [← run_poll_release (e := { e with link, application, statistics }) now hs]

end Outwaits

theorem outwaits_of_run {os : List (Occasion L A)} (hrun : Run e os e')
    (hos : ∀ o ∈ os, o.call.isUnprompted = true ∧ sending o.before.link = true) :
    e.Outwaits e' := by
  induction hrun with
  | start => exact .refl e
  | outside link application statistics _ ih => exact (ih hos).outside link application statistics
  | @call os e' call _ ih =>
    have hwaited := ih fun o ho => hos o (List.mem_append_left _ ho)
    obtain ⟨hcall, hs⟩ := hos ⟨e', call⟩ (List.mem_append_right _ (List.mem_singleton.mpr rfl))
    exact hwaited.bides (bides_of_sending hs hcall)

/-- What a wait has left as it was. Nothing that it may have changed shows in the duty of a poll. -/
structure Unmoved (e e' : Endpoint L A) : Prop where
  connection_eq : e'.connection = e.connection
  slot_eq : e'.slot = e.slot
  lastTelegram_eq : e'.lastTelegram = e.lastTelegram
  contents_eq : e'.answers.contents = e.answers.contents
  due?_eq : ∀ (link : L) (application : A) (statistics : Statistics) now,
    { e' with link, application, statistics }.due? now =
      { e with link, application, statistics }.due? now
  poll_eq : ∀ (link : L) (application : A) (statistics : Statistics) now,
    { e' with link, application, statistics }.poll now =
      { e with link, application, statistics }.poll now

theorem Outwaits.unmoved (h : e.Outwaits e') : e.Unmoved e' := by
  have hdue := h.due?_eq
  have hpoll := h.poll_eq
  cases h with
  | kept => exact ⟨rfl, rfl, rfl, rfl, hdue, hpoll⟩
  | released => exact ⟨rfl, rfl, rfl, AnswerQueue.contents_release _, hdue, hpoll⟩

end Endpoint

/-- While the link is sending, a poll ends well and does nothing, and the user can neither
disconnect nor change anything by trying. However often both are called during a transmission, and
whatever happens around the endpoint, a poll after that has the same duty and does the same as if
it had been the only call. -/
theorem unmoved_while_sending {L A : Type} [Link L] [Application A] {e e' : Endpoint L A}
    {os : List (Occasion L A)} (hs : Link.sending e.link = true) (hrun : Run e os e')
    (hos : ∀ o ∈ os, o.call.isUnprompted = true ∧ Link.sending o.before.link = true) :
    (∀ now, e.outcome (.poll now) = .ok none ∧ e.Bides (.poll now)) ∧
      (∀ now, e.outcome (.hangUp now) =
        .error (if e.connection.isOpen then .busy .linkSending else .notConnected) ∧
        e.Bides (.hangUp now)) ∧
      e.Unmoved e' :=
  ⟨fun _ => ⟨Endpoint.outcome_poll_of_sending hs, Endpoint.bides_of_sending hs rfl⟩,
    fun _ => ⟨Endpoint.outcome_hangUp_of_sending hs, Endpoint.bides_of_sending hs rfl⟩,
    (Endpoint.outwaits_of_run hrun hos).unmoved⟩

open Sample in
theorem unmoved_talking :
    Link.sending talking.link = true ∧ talking.slot.isFree = true ∧
      talking.connection.isOpen = true ∧
      (talking.afterAll [.poll 9000000000, .hangUp 4, .poll 5]).answers ≠ talking.answers ∧
      talking.outcome (.hangUp 3) = .error (.busy .linkSending) ∧
      { talking.afterAll [.poll 9000000000, .hangUp 4, .poll 5] with
          link := talking.link.complete }.poll 6 =
        { talking with link := talking.link.complete }.poll 6 ∧
      { talking with link := talking.link.complete }.due? 6 = some .answerReady := by
  have hs : Link.sending talking.link = true := by decide
  have hrun := talking.run_history [.poll 9000000000, .hangUp 4, .poll 5]
  have hos : ∀ o ∈ talking.history [.poll 9000000000, .hangUp 4, .poll 5],
      o.call.isUnprompted = true ∧ Link.sending o.before.link = true := by decide
  obtain ⟨-, hhangUp, hunmoved⟩ := unmoved_while_sending hs hrun hos
  have hopen : talking.connection.isOpen = true := by decide
  refine ⟨hs, by decide, hopen, by decide, ?_, ?_, by decide⟩
  · rw [(hhangUp 3).1, if_pos hopen]
  · exact hunmoved.poll_eq talking.link.complete talking.application talking.statistics 6

end BusTransport
