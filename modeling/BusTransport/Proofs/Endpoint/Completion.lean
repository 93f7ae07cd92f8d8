import BusTransport.Proofs.Endpoint.FaultOrigin

/-! # Completed actions

An action is entered in the journal when it has been carried out to its end, and not before. A call
that ends with a fault has therefore completed no action.
-/

namespace BusTransport

def Activity.action? : Activity → Option Action
  | performed action => some action
  | _ => none

/-- The actions that were carried out to their end. -/
def performedIn (journal : List Activity) : List Action := journal.filterMap Activity.action?

theorem performedIn_concat (journal : List Activity) {activity : Activity}
    (h : activity.action? = none) : performedIn (journal ++ [activity]) = performedIn journal := by
  rw [performedIn, List.filterMap_append, List.filterMap_cons_none h, List.filterMap_nil,
    List.append_nil]
  rfl

namespace Turn

open Endpoint

variable {L A α : Type}

/-- A turn that carries no action out to its end. -/
def Inconclusive (turn : Turn L A α) : Prop :=
  ∀ c, performedIn (turn.after c).journal = performedIn c.journal

theorem lenient_performedIn [Application A] :
    Lenient fun c c' : Course L A => performedIn c'.journal = performedIn c.journal where
  toCumulative := cumulative_eq _
  connection _ _ _ := rfl
  answers _ _ := rfl
  counted _ _ _ := rfl
  wayOut _ _ _ := rfl
  offered c _ _ := performedIn_concat c.journal rfl
  asked c _ := performedIn_concat c.journal rfl

theorem writable_performedIn [Application A] :
    Writable fun c c' : Course L A => performedIn c'.journal = performedIn c.journal where
  connection _ _ := rfl
  closing c _ := performedIn_concat c.journal rfl

section Link

variable [Link L] [Application A]

/-- An action by itself does not record that it was carried out. -/
theorem inconclusive_perform (t? : Option Telegram) (now : Instant) (action : Action) :
    Inconclusive (perform t? now action : Turn L A Unit) :=
  obeys_perform lenient_performedIn (fun _ => writable_performedIn) t? now

theorem inconclusive_replyDirectly (t : Telegram) :
    Inconclusive (replyDirectly t : Turn L A Unit) := obeys_replyDirectly lenient_performedIn t

/-- The action is recorded only after all that can fail. -/
theorem performedIn_of_dispatch_error {event : Event} {t? : Option Telegram} {now : Instant}
    {fault : Fault} {c c' : Course L A} (h : (dispatch event t? now).run c = .error fault c') :
    performedIn c'.journal = performedIn c.journal := by
  rcases hp : (perform t? now (c.endpoint.dialogue.react event).action).run c with
    ⟨_, c₁⟩ | ⟨fault₁, c₁⟩
  · rw [run_dispatch_of_ok rfl hp] at h
    cases h
  · rw [run_dispatch_of_error rfl hp] at h
    cases h
    rw [← after_of_error hp]
    exact inconclusive_perform t? now _ c

end Link

end Turn

namespace Endpoint

open Turn

variable {L A : Type} [Link L] [Application A] {e : Endpoint L A} {fault : Fault} {call : Call}

theorem performedIn_of_receive_error {frame : Frame} {now : Instant}
    (h : e.outcome (.receive frame now) = .error fault) :
    performedIn (e.journal (.receive frame now)) = [] := by
  obtain ⟨c', hrun, hj⟩ := report_of_error (error_of_map_error h)
  rw [show e.journal (.receive frame now) = c'.journal from hj]
  have hfailed {turn : Turn L A Unit} {c : Course L A}
      (hturn : (Turn.receive frame now).run { endpoint := e } =
        (do turn; pure Disposition.consumed).run c) : turn.run c = .error fault c' := by
    rw [hturn, run_bind] at hrun
    rcases ht : turn.run c with ⟨_, c₁⟩ | ⟨fault₁, c₁⟩
    · rw [ht] at hrun
      cases hrun
    · rw [ht] at hrun
      cases hrun
      rfl
  rcases consumed_or_hears e frame now with ⟨c, hok, -⟩ | ⟨t, field, hears⟩
  · rw [hok] at hrun
    cases hrun
  have haccept := run_receive_of_hears hears now
  rcases hf : e.wayOutFree with _ | _
  · rw [haccept, run_accept_of_wait t field now hf] at hrun
    cases hrun
  rcases he : field.event? t.source with _ | event
  · have herror := hfailed (haccept.trans (run_accept_of_unconnected now hf he))
    rw [← after_of_error herror]
    exact inconclusive_replyDirectly t _
  · exact performedIn_of_dispatch_error <|
      hfailed (haccept.trans (run_accept_of_event now hf he))

theorem performedIn_of_poll_error {now : Instant} (h : e.outcome (.poll now) = .error fault) :
    performedIn (e.journal (.poll now)) = [] := by
  obtain ⟨c', hrun, hj⟩ := report_of_error (error_of_map_error h)
  rw [show e.journal (.poll now) = c'.journal from hj]
  rcases hdue : e.due? now with _ | event
  · rcases hf : e.wayOutFree with _ | _
    · obtain ⟨link, hok⟩ := run_poll_of_occupied now hf
      rw [hok] at hrun
      cases hrun
    · rw [run_poll_of_not_due hf hdue] at hrun
      cases hrun
  · obtain ⟨statistics, hdispatch⟩ := run_poll_of_due hdue
    rw [hdispatch] at hrun
    exact performedIn_of_dispatch_error hrun

theorem performedIn_of_hangUp_error {now : Instant} (h : e.outcome (.hangUp now) = .error fault) :
    performedIn (e.journal (.hangUp now)) = [] := by
  obtain ⟨c', hrun, hj⟩ := report_of_error (error_of_map_error h)
  rw [show e.journal (.hangUp now) = c'.journal from hj]
  rcases ho : e.connection.isOpen with _ | _
  · rw [run_hangUp_of_closed now ho] at hrun
    cases hrun
    rfl
  rcases hf : e.wayOutFree with _ | _
  · obtain ⟨link, hbusy⟩ := run_hangUp_of_occupied now ho hf
    rw [hbusy] at hrun
    cases hrun
    rfl
  · rw [run_hangUp_of_free now ho hf] at hrun
    exact performedIn_of_dispatch_error hrun

/-- A call that ends with a fault has completed no action. -/
theorem performedIn_of_error (h : e.outcome call = .error fault) :
    performedIn (e.journal call) = [] := by
  cases call with
  | receive frame now => exact performedIn_of_receive_error h
  | serve now =>
    rcases hframe : Link.received e.link with _ | frame
    · simp [outcome, serve, hframe] at h
    · have hhanded : e.handed? (.serve now) = some frame := hframe
      rw [outcome_handed hhanded] at h
      rw [(after_handed hhanded).1]
      exact performedIn_of_receive_error h
  | poll now => exact performedIn_of_poll_error h
  | hangUp now => exact performedIn_of_hangUp_error h

end Endpoint

end BusTransport
