import BusTransport.Proofs.Endpoint.Sending

/-! # What turns preserve

A relation between courses that holds across each step of a turn, and from step to step, holds
across the whole turn. The steps of all actions are gone through here once, for any such relation.
-/

namespace BusTransport

def Occurrence.arrivals : List Occurrence := [frameReceived, frameRejected, linkRepeatIgnored]

/-- The state that the steps of an action write themselves, before the decided state is taken. -/
def Action.written? : Action → Option ConnectionState
  | .connect _ => some .openIdle
  | .closeSilently | .closeAndTell => some .closed
  | .ignore | .deliver _ | .ackAgain _ | .refuse _ | .sendAnswer | .finishAnswer | .repeatAnswer
  | .reject _ => none

namespace Turn

open Endpoint

variable {L A α β γ ε : Type}

/-- A turn across which a relation holds, wherever it starts and however it ends. -/
def Obeys (R : Course L A → Course L A → Prop) (turn : Turn L A α) : Prop :=
  ∀ c, R c (turn.after c)

structure Cumulative (R : Course L A → Course L A → Prop) : Prop where
  refl : ∀ c, R c c
  trans : ∀ {c c' c''}, R c c' → R c' c'' → R c c''

theorem cumulative_eq (view : Course L A → γ) :
    Cumulative fun c c' : Course L A => view c' = view c :=
  ⟨fun _ => rfl, fun h h' => h'.trans h⟩

variable {R : Course L A → Course L A → Prop} {turn : Turn L A α} {next : α → Turn L A β}

section Cumulative

variable (h : Cumulative R)

include h

theorem obeys_bind (ht : Obeys R turn) (hn : ∀ a, Obeys R (next a)) : Obeys R (turn >>= next) := by
  intro c
  rcases after_bind turn next c with ha | ⟨a, ha⟩
  · rw [ha]
    exact ht c
  · rw [ha]
    exact h.trans (ht c) (hn a _)

theorem obeys_pure (a : α) : Obeys R (pure a) := fun c => h.refl c

theorem obeys_throw (fault : Fault) : Obeys R (throw fault : Turn L A α) := fun c => h.refl c

theorem obeys_endpoint : Obeys R endpoint := fun c => h.refl c

theorem obeys_require (fault : ε → Fault) (x : Except ε α) : Obeys R (require fault x) := by
  cases x with
  | ok a => exact obeys_pure h a
  | error cause => exact obeys_throw h (fault cause)

theorem obeys_peer : Obeys R peer := by
  refine obeys_bind h (obeys_endpoint h) fun e => ?_
  split
  · exact obeys_pure h _
  · exact obeys_throw h _

end Cumulative

variable [Application A]

/-- A relation that holds across each step of an action, unless the step writes the state. -/
structure Lenient (R : Course L A → Course L A → Prop) : Prop extends Cumulative R where
  connection : ∀ c connection, connection.state = c.endpoint.connection.state →
    R c { c with endpoint := { c.endpoint with connection } }
  answers : ∀ c answers, R c { c with endpoint := { c.endpoint with answers } }
  counted : ∀ c o, o ∉ Occurrence.arrivals →
    R c { c with endpoint := { c.endpoint with statistics := c.endpoint.statistics.count o } }
  wayOut : ∀ c slot link, R c { c with endpoint := { c.endpoint with slot, link } }
  offered : ∀ c frame refusal, R c { c with journal := c.journal ++ [.offered frame refusal] }
  asked : ∀ c r, R c (asked r c)

structure Writable (R : Course L A → Course L A → Prop) : Prop where
  connection : ∀ c connection, R c { c with endpoint := { c.endpoint with connection } }
  closing : ∀ c p, R c (closing p c)

section Lenient

variable (h : Lenient R)

include h

theorem obeys_updateConnection {f : Connection → Connection} (hf : ∀ c, (f c).state = c.state) :
    Obeys R (updateConnection f) := fun c => h.connection c _ (hf _)

theorem obeys_updateAnswers (f : AnswerQueue → AnswerQueue) : Obeys R (updateAnswers f) :=
  fun c => h.answers c _

theorem obeys_count {o : Occurrence} (ho : o ∉ Occurrence.arrivals) : Obeys R (count o) :=
  fun c => h.counted c o ho

theorem obeys_ask (r : Request) : Obeys R (ask r) := fun c => h.asked c r

variable [Link L]

theorem obeys_offer (frame : Frame) : Obeys R (offer frame) := by
  intro c
  rcases run_offer frame c with ⟨link, hrun⟩ | ⟨link, fault, hrun⟩
  · rw [after_of_ok hrun]
    exact h.trans (h.wayOut c c.endpoint.slot link) (h.offered _ frame none)
  · rw [after_of_error hrun]
    exact h.trans (h.wayOut c c.endpoint.slot link) (h.offered _ frame (some fault))

theorem obeys_offerControl (frame : Frame) : Obeys R (offerControl frame) := by
  intro c
  rcases run_offerControl frame c with ⟨link, hrun⟩ | ⟨link, fault, hrun⟩ | ⟨slot, link, _, -, hrun⟩
  · rw [after_of_ok hrun]
    exact h.trans (h.wayOut c ⟨.sending⟩ link) (h.offered _ frame none)
  · rw [after_of_error hrun]
    exact h.trans (h.wayOut c ⟨.free⟩ link) (h.offered _ frame (some fault))
  · rw [after_of_error hrun]
    exact h.wayOut c slot link

theorem obeys_sendControl (destination : DeviceAddress) (field : ControlField) :
    Obeys R (sendControl destination field) := by
  have hc := h.toCumulative
  refine obeys_bind hc (obeys_endpoint hc) fun e => obeys_bind hc (obeys_require hc _ _) fun _ => ?_
  exact obeys_bind hc (obeys_offerControl h _) fun _ => obeys_count h (by decide)

theorem obeys_sendPrimary (now : Instant) : Obeys R (sendPrimary now) := by
  have hc := h.toCumulative
  refine obeys_bind hc (obeys_endpoint hc) fun e => ?_
  split
  · exact obeys_throw hc _
  · dsimp only
    split
    · exact obeys_bind hc (obeys_updateAnswers h _) fun _ => obeys_throw hc _
    · refine obeys_bind hc (obeys_offer h _) fun _ => ?_
      refine obeys_bind hc (obeys_updateAnswers h _) fun _ => ?_
      refine obeys_bind hc (obeys_updateConnection h fun _ => rfl) fun _ => ?_
      exact obeys_count h (by decide)

theorem obeys_repeatPrimary (now : Instant) : Obeys R (repeatPrimary now) := by
  have hc := h.toCumulative
  refine obeys_bind hc (obeys_endpoint hc) fun e => ?_
  split
  · exact obeys_throw hc _
  · refine obeys_bind hc (obeys_offer h _) fun _ => ?_
    refine obeys_bind hc (obeys_updateConnection h fun _ => rfl) fun _ => ?_
    exact obeys_count h (by decide)

theorem obeys_deliver (t? : Option Telegram) (n : SequenceNumber) (now : Instant) :
    Obeys R (deliver t? n now) := by
  have hc := h.toCumulative
  unfold deliver
  split
  · exact obeys_throw hc _
  · split
    · exact obeys_throw hc _
    · refine obeys_bind hc (obeys_sendControl h _ _) fun _ => ?_
      refine obeys_bind hc (obeys_updateConnection h fun _ => rfl) fun _ => ?_
      refine obeys_bind hc (obeys_ask h _) fun answer => ?_
      split
      · exact obeys_pure hc _
      · refine obeys_bind hc (obeys_endpoint hc) fun e => ?_
        exact obeys_bind hc (obeys_require hc _ _) fun _ => obeys_updateAnswers h _

/-- An action that writes no state takes only steps that do not. -/
theorem obeys_perform {action : Action} (hw : action.written? ≠ none → Writable R)
    (t? : Option Telegram) (now : Instant) : Obeys R (perform t? now action) := by
  have hc := h.toCumulative
  cases action with
  | ignore => exact obeys_pure hc _
  | connect p =>
    exact obeys_bind hc (obeys_updateAnswers h _) fun _ c =>
      (hw (Option.some_ne_none _)).connection c _
  | deliver n => exact obeys_deliver h t? n now
  | ackAgain n =>
    refine obeys_bind hc (obeys_peer hc) fun p => ?_
    refine obeys_bind hc (obeys_sendControl h _ _) fun _ => ?_
    refine obeys_bind hc (obeys_count h (by decide)) fun _ => ?_
    exact obeys_updateConnection h fun _ => rfl
  | refuse n =>
    refine obeys_bind hc (obeys_peer hc) fun p => ?_
    exact obeys_bind hc (obeys_sendControl h _ _) fun _ => obeys_count h (by decide)
  | closeSilently =>
    exact obeys_bind hc (obeys_peer hc) fun p c => (hw (Option.some_ne_none _)).closing c p
  | closeAndTell =>
    have hclose (p : DeviceAddress) : Obeys R (closeConnection p) :=
      fun c => (hw (Option.some_ne_none _)).closing c p
    refine obeys_bind hc (obeys_peer hc) fun p => obeys_bind hc (hclose p) fun _ => ?_
    exact obeys_sendControl h _ _
  | sendAnswer => exact obeys_sendPrimary h now
  | finishAnswer =>
    refine obeys_bind hc (obeys_updateConnection h fun _ => rfl) fun _ => ?_
    exact obeys_updateAnswers h _
  | repeatAnswer => exact obeys_repeatPrimary h now
  | reject p =>
    exact obeys_bind hc (obeys_count h (by decide)) fun _ => obeys_sendControl h _ _

theorem obeys_replyDirectly (t : Telegram) : Obeys R (replyDirectly t) := by
  have hc := h.toCumulative
  unfold replyDirectly
  split
  · exact obeys_throw hc _
  · refine obeys_bind hc (obeys_ask h _) fun answer => ?_
    split
    · exact obeys_pure hc _
    · refine obeys_bind hc (obeys_endpoint hc) fun e => ?_
      refine obeys_bind hc (obeys_require hc _ _) fun frame => ?_
      exact obeys_bind hc (obeys_offer h _) fun _ => obeys_count h (by decide)

end Lenient

end Turn

end BusTransport
