import BusTransport.Proofs.Endpoint.Hearing

/-! # Corresponding endpoints

Two endpoints correspond if they share what their turns read, and every step of a turn keeps it so.
Then all their calls end the same way and do the same, even over links and before applications of
different kinds.
-/

namespace BusTransport

namespace Turn

open Endpoint

section Steps

variable {L L' A A' α β ε : Type}

/-- Two courses with equal journals, of endpoints in a relation. -/
structure Agree (P : Endpoint L A → Endpoint L' A' → Prop) (c : Course L A) (c' : Course L' A') :
    Prop where
  endpoint : P c.endpoint c'.endpoint
  journal_eq : c'.journal = c.journal

inductive Tied (P : Endpoint L A → Endpoint L' A' → Prop) :
    EStateM.Result Fault (Course L A) α → EStateM.Result Fault (Course L' A') α → Prop
  | ok {a c c'} : Agree P c c' → Tied P (.ok a c) (.ok a c')
  | error {fault c c'} : Agree P c c' → Tied P (.error fault c) (.error fault c')

/-- Two turns that do the same in courses that agree. -/
def Follows (P : Endpoint L A → Endpoint L' A' → Prop) (turn : Turn L A α)
    (turn' : Turn L' A' α) : Prop :=
  ∀ c c', Agree P c c' → Tied P (turn.run c) (turn'.run c')

variable {P : Endpoint L A → Endpoint L' A' → Prop} {turn : Turn L A α} {turn' : Turn L' A' α}
  {next : α → Turn L A β} {next' : α → Turn L' A' β}

theorem follows_bind (ht : Follows P turn turn') (hn : ∀ a, Follows P (next a) (next' a)) :
    Follows P (turn >>= next) (turn' >>= next') := by
  intro c c' h
  have hend := ht c c' h
  rw [run_bind, run_bind]
  generalize turn.run c = result at hend ⊢
  generalize turn'.run c' = result' at hend ⊢
  cases hend with
  | ok h => exact hn _ _ _ h
  | error h => exact .error h

theorem follows_pure (a : α) : Follows P (pure a : Turn L A α) (pure a : Turn L' A' α) :=
  fun _ _ h => .ok h

theorem follows_throw (fault : Fault) :
    Follows P (throw fault : Turn L A α) (throw fault : Turn L' A' α) :=
  fun _ _ h => .error h

theorem follows_endpoint {next : Endpoint L A → Turn L A β} {next' : Endpoint L' A' → Turn L' A' β}
    (h : ∀ e e', P e e' → Follows P (next e) (next' e')) :
    Follows P (endpoint >>= next) (endpoint >>= next') := by
  intro c c' hagree
  rw [run_bind, run_bind, run_endpoint, run_endpoint]
  exact h _ _ hagree.endpoint c c' hagree

theorem follows_update {f : Endpoint L A → Endpoint L A} {f' : Endpoint L' A' → Endpoint L' A'}
    (h : ∀ e e', P e e' → P (f e) (f' e')) :
    Follows P (update f : Turn L A Unit) (update f' : Turn L' A' Unit) :=
  fun _ _ hagree => .ok ⟨h _ _ hagree.endpoint, hagree.journal_eq⟩

theorem follows_record (activity : Activity) :
    Follows P (record activity : Turn L A Unit) (record activity : Turn L' A' Unit) :=
  fun _ _ hagree => .ok ⟨hagree.endpoint, congrArg (· ++ [activity]) hagree.journal_eq⟩

theorem follows_require (fault : ε → Fault) (x : Except ε α) :
    Follows P (require fault x : Turn L A α) (require fault x : Turn L' A' α) := by
  cases x with
  | ok a => exact follows_pure a
  | error cause => exact follows_throw (fault cause)

theorem follows_outcome (result : Except LinkFault Unit) (frame : Frame) :
    Follows P
      (match result with
        | .ok () => record (.offered frame none)
        | .error fault => do
          record (.offered frame (some fault))
          throw (.link fault))
      (match result with
        | .ok () => record (.offered frame none)
        | .error fault => do
          record (.offered frame (some fault))
          throw (.link fault)) := by
  cases result with
  | ok _ => exact follows_record _
  | error fault => exact follows_bind (follows_record _) fun _ => follows_throw _

theorem follows_if {condition : Prop} [Decidable condition] {go wait : Turn L A α}
    {go' wait' : Turn L' A' α} (hg : Follows P go go') (hw : Follows P wait wait') :
    Follows P (if condition then go else wait) (if condition then go' else wait') := by
  split_ifs
  · exact hg
  · exact hw

end Steps

variable {L L' A A' α : Type} [Link L] [Link L'] [Application A] [Application A']

/-- The relation is kept by all that a turn does with its endpoint, and endpoints in the relation
look the same to a turn. -/
structure Congruent (P : Endpoint L A → Endpoint L' A' → Prop) : Prop where
  connection_eq : ∀ {e e'}, P e e' → e'.connection = e.connection
  answers_eq : ∀ {e e'}, P e e' → e'.answers = e.answers
  address_eq : ∀ {e e'}, P e e' → Link.address e'.link = Link.address e.link
  idle_eq : ∀ {e e'}, P e e' → Link.idle e'.link = Link.idle e.link
  sending_eq : ∀ {e e'}, P e e' → Link.sending e'.link = Link.sending e.link
  isFree_eq : ∀ {e e'}, P e e' → e'.refreshed.slot.isFree = e.refreshed.slot.isFree
  refreshed : ∀ {e e'}, P e e' → P e.refreshed e'.refreshed
  observed : ∀ {e e'}, P e e' → P { e with link := Link.observed e.link }
    { e' with link := Link.observed e'.link }
  release : ∀ {e e'}, P e e' → P e.release e'.release
  connection : ∀ {e e'}, P e e' → ∀ connection, P { e with connection } { e' with connection }
  answers : ∀ {e e'}, P e e' → ∀ answers, P { e with answers } { e' with answers }
  counted : ∀ {e e'}, P e e' → ∀ o, P { e with statistics := e.statistics.count o }
    { e' with statistics := e'.statistics.count o }
  lastTelegram : ∀ {e e'}, P e e' → ∀ lastTelegram,
    P { e with lastTelegram } { e' with lastTelegram }
  offer : ∀ frame, Follows P (offer frame) (offer frame)
  offerControl : ∀ frame, Follows P (offerControl frame) (offerControl frame)
  ask : ∀ r, Follows P (ask r) (ask r)
  deliverGroup : ∀ t, Follows P (deliverGroup t) (deliverGroup t)
  deliverBroadcast : ∀ t, Follows P (deliverBroadcast t) (deliverBroadcast t)
  tellClosed : ∀ p, Follows P (tellClosed p) (tellClosed p)

namespace Congruent

variable {P : Endpoint L A → Endpoint L' A' → Prop} (hP : Congruent P)
include hP

theorem follows_updateConnection (f : Connection → Connection) :
    Follows P (updateConnection f) (updateConnection f) := by
  apply follows_update
  intro e e' h
  rw [hP.connection_eq h]
  exact hP.connection h _

theorem follows_updateAnswers (f : AnswerQueue → AnswerQueue) :
    Follows P (updateAnswers f) (updateAnswers f) := by
  apply follows_update
  intro e e' h
  rw [hP.answers_eq h]
  exact hP.answers h _

theorem follows_count (o : Occurrence) : Follows P (count o) (count o) := by
  apply follows_update
  intro e e' h
  exact hP.counted h o

theorem follows_remember (t : Telegram) : Follows P (remember t) (remember t) := by
  apply follows_update
  intro e e' h
  exact hP.lastTelegram h _

theorem follows_drop (o : Occurrence) : Follows P (drop o) (drop o) :=
  follows_bind (hP.follows_count o) fun _ => follows_pure _

theorem follows_peer : Follows P peer peer := by
  apply follows_endpoint
  intro e e' h
  rw [hP.connection_eq h]
  cases e.connection.peer? with
  | none => exact follows_throw _
  | some p => exact follows_pure p

theorem follows_sendControl (destination : DeviceAddress) (field : ControlField) :
    Follows P (sendControl destination field) (sendControl destination field) := by
  apply follows_endpoint
  intro e e' h
  rw [hP.address_eq h]
  apply follows_bind (follows_require _ _)
  intro frame
  apply follows_bind (hP.offerControl frame)
  intro _
  exact hP.follows_count _

theorem follows_sendPrimary (now : Instant) : Follows P (sendPrimary now) (sendPrimary now) := by
  apply follows_endpoint
  intro e e' h
  rw [hP.answers_eq h, hP.connection_eq h, hP.address_eq h]
  cases e.answers.primary? with
  | none => exact follows_throw _
  | some entry =>
    dsimp only
    cases answerFrame (Link.address e.link) entry.destination entry.priority
        (.numbered e.connection.sendSequence entry.answer.commandHigh) entry.answer with
    | error fault =>
      apply follows_bind (hP.follows_updateAnswers _)
      intro _
      exact follows_throw _
    | ok frame =>
      apply follows_bind (hP.offer frame)
      intro _
      apply follows_bind (hP.follows_updateAnswers _)
      intro _
      apply follows_bind (hP.follows_updateConnection _)
      intro _
      exact hP.follows_count _

theorem follows_repeatPrimary (now : Instant) :
    Follows P (repeatPrimary now) (repeatPrimary now) := by
  apply follows_endpoint
  intro e e' h
  rw [hP.answers_eq h]
  cases e.answers.outstandingFrame? with
  | none => exact follows_throw _
  | some frame =>
    apply follows_bind (hP.offer frame)
    intro _
    apply follows_bind (hP.follows_updateConnection _)
    intro _
    exact hP.follows_count _

theorem follows_closeConnection (p : DeviceAddress) :
    Follows P (closeConnection p) (closeConnection p) := by
  apply follows_bind (hP.follows_updateAnswers _)
  intro _
  apply follows_bind (hP.follows_updateConnection _)
  intro _
  apply follows_bind (hP.follows_count _)
  intro _
  exact hP.tellClosed p

theorem follows_deliver (t? : Option Telegram) (n : SequenceNumber) (now : Instant) :
    Follows P (deliver t? n now) (deliver t? n now) := by
  unfold deliver
  rcases t? with _ | t
  · exact follows_throw _
  dsimp only
  cases Request.ofTelegram? t (some n) with
  | none => exact follows_throw _
  | some r =>
    apply follows_bind (hP.follows_sendControl _ _)
    intro _
    apply follows_bind (hP.follows_updateConnection _)
    intro _
    apply follows_bind (hP.ask r)
    intro answer
    cases answer with
    | none => exact follows_pure _
    | some answer =>
      apply follows_endpoint
      intro e e' h
      rw [hP.answers_eq h]
      apply follows_bind (follows_require _ _)
      intro queue
      exact hP.follows_updateAnswers _

theorem follows_perform (t? : Option Telegram) (now : Instant) (action : Action) :
    Follows P (perform t? now action) (perform t? now action) := by
  cases action with
  | ignore => exact follows_pure _
  | connect p =>
    apply follows_bind (hP.follows_updateAnswers _)
    exact fun _ => hP.follows_updateConnection _
  | deliver n => exact hP.follows_deliver t? n now
  | ackAgain n =>
    apply follows_bind hP.follows_peer
    intro p
    apply follows_bind (hP.follows_sendControl _ _)
    intro _
    apply follows_bind (hP.follows_count _)
    exact fun _ => hP.follows_updateConnection _
  | refuse n =>
    apply follows_bind hP.follows_peer
    intro p
    apply follows_bind (hP.follows_sendControl _ _)
    exact fun _ => hP.follows_count _
  | closeSilently => exact follows_bind hP.follows_peer fun p => hP.follows_closeConnection p
  | closeAndTell =>
    apply follows_bind hP.follows_peer
    intro p
    apply follows_bind (hP.follows_closeConnection p)
    exact fun _ => hP.follows_sendControl _ _
  | sendAnswer => exact hP.follows_sendPrimary now
  | finishAnswer =>
    apply follows_bind (hP.follows_updateConnection _)
    exact fun _ => hP.follows_updateAnswers _
  | repeatAnswer => exact hP.follows_repeatPrimary now
  | reject p =>
    apply follows_bind (hP.follows_count _)
    exact fun _ => hP.follows_sendControl _ _

theorem follows_dispatch (event : Event) (t? : Option Telegram) (now : Instant) :
    Follows P (dispatch event t? now) (dispatch event t? now) := by
  apply follows_endpoint
  intro e e' h
  rw [hP.connection_eq h, hP.answers_eq h]
  apply follows_bind (hP.follows_perform _ _ _)
  intro _
  apply follows_bind (hP.follows_updateConnection _)
  intro _
  exact follows_record _

theorem follows_replyDirectly (t : Telegram) :
    Follows P (replyDirectly t) (replyDirectly t) := by
  unfold replyDirectly
  cases Request.ofTelegram? t none with
  | none => exact follows_throw _
  | some r =>
    apply follows_bind (hP.ask r)
    intro answer
    cases answer with
    | none => exact follows_pure _
    | some answer =>
      apply follows_endpoint
      intro e e' h
      rw [hP.address_eq h]
      apply follows_bind (follows_require _ _)
      intro frame
      apply follows_bind (hP.offer frame)
      intro _
      exact hP.follows_count _

theorem follows_duty (now : Instant) : Follows P (duty now) (duty now) := by
  apply follows_endpoint
  intro e e' h
  rw [hP.connection_eq h, hP.answers_eq h, hP.idle_eq h]
  apply follows_if
  · exact follows_bind (hP.follows_count _) fun _ => hP.follows_dispatch _ _ _
  apply follows_if
  · exact hP.follows_dispatch _ _ _
  apply follows_if
  · exact follows_bind (hP.follows_count _) fun _ => hP.follows_dispatch _ _ _
  · exact follows_pure _

/-- The ways out are both found free, or both occupied, if the slots are alike. -/
theorem tied_outboundFree {go wait : Turn L A α} {go' wait' : Turn L' A' α} {c : Course L A}
    {c' : Course L' A'} (hg : Follows P go go') (hw : Follows P wait wait') (h : Agree P c c')
    (hslot : c'.endpoint.slot.isFree = c.endpoint.slot.isFree) :
    Tied P ((do if ← outboundFree then go else wait : Turn L A α).run c)
      ((do if ← outboundFree then go' else wait' : Turn L' A' α).run c') := by
  have hbranch (free : Bool) : Follows P (if free = true then go else wait)
      (if free = true then go' else wait') := follows_if hg hw
  simp only [run_bind, run_outboundFree, hslot, hP.sending_eq h.endpoint]
  split_ifs
  · exact hbranch _ _ _ ⟨hP.observed h.endpoint, h.journal_eq⟩
  · exact hbranch _ _ _ h

theorem follows_gate {go wait : Turn L A α} {go' wait' : Turn L' A' α}
    (hg : Follows P go go') (hw : Follows P wait wait') :
    Follows P (do refreshSlot; if ← outboundFree then go else wait)
      (do refreshSlot; if ← outboundFree then go' else wait') := by
  intro c c' h
  rw [run_bind, run_bind, run_refreshSlot, run_refreshSlot]
  apply hP.tied_outboundFree hg hw
  · exact ⟨hP.refreshed h.endpoint, h.journal_eq⟩
  · exact hP.isFree_eq h.endpoint

theorem follows_accept (t : Telegram) (field : ControlField) (now : Instant) :
    Follows P (accept t field now) (accept t field now) := by
  apply hP.follows_gate ?_ (follows_pure _)
  apply follows_bind (hP.follows_count _)
  intro _
  apply follows_bind (hP.follows_remember t)
  intro _
  cases field.event? t.source with
  | none => exact follows_bind (hP.follows_replyDirectly t) fun _ => follows_pure _
  | some event => exact follows_bind (hP.follows_dispatch _ _ _) fun _ => follows_pure _

theorem follows_route (t : Telegram) (now : Instant) :
    Follows P (route t now) (route t now) := by
  unfold route
  cases t.destination with
  | broadcast =>
    apply follows_bind (hP.deliverBroadcast t)
    intro _
    exact follows_bind (hP.follows_remember t) fun _ => follows_pure _
  | group raw =>
    apply follows_bind (hP.deliverGroup t)
    intro _
    exact follows_bind (hP.follows_remember t) fun _ => follows_pure _
  | individual address =>
    apply follows_endpoint
    intro e e' h
    rw [hP.address_eq h]
    apply follows_if ?_ (follows_pure _)
    cases ControlField.decode t.tpci with
    | error fault => exact hP.follows_drop _
    | ok field => exact follows_if (hP.follows_drop _) (hP.follows_accept t field now)

theorem follows_receive {frame : Frame} (now : Instant)
    (hfilter : ∀ t, Telegram.decode frame = .ok t → ∀ e e', P e e' →
      e'.isRepeatOfLast t = e.isRepeatOfLast t) :
    Follows P (receive frame now) (receive frame now) := by
  unfold receive
  rcases hd : Telegram.decode frame with fault | t
  · exact hP.follows_drop _
  · apply follows_endpoint
    intro e e' h
    rw [hfilter t hd e e' h]
    exact follows_if (hP.follows_drop _) (hP.follows_route t now)

theorem follows_poll (now : Instant) : Follows P (Turn.poll now) (Turn.poll now) := by
  intro c c' h
  have hslot := hP.isFree_eq h.endpoint
  have hrefreshed := hP.refreshed h.endpoint
  unfold Turn.poll
  simp only [run_bind (refreshSlot), run_refreshSlot, run_bind endpoint, run_endpoint, hslot]
  split_ifs
  · rw [run_bind, run_bind, run_updateAnswers, run_updateAnswers]
    apply hP.tied_outboundFree (hP.follows_duty now) (follows_pure _)
    · dsimp only
      rw [hP.answers_eq hrefreshed]
      exact ⟨hP.answers hrefreshed _, h.journal_eq⟩
    · exact hslot
  · apply hP.tied_outboundFree (hP.follows_duty now) (follows_pure _)
    · exact ⟨hrefreshed, h.journal_eq⟩
    · exact hslot

theorem follows_hangUp (now : Instant) : Follows P (Turn.hangUp now) (Turn.hangUp now) := by
  apply follows_endpoint
  intro e e' h
  rw [hP.connection_eq h]
  apply follows_if
  · exact hP.follows_gate (hP.follows_dispatch _ _ _) (follows_throw _)
  · exact follows_throw _

end Congruent

end Turn

namespace Endpoint

open Turn

variable {L L' A A' α : Type} [Link L] [Link L'] [Application A] [Application A']
  {P : Endpoint L A → Endpoint L' A' → Prop} {e : Endpoint L A} {e' : Endpoint L' A'}
  {call : Call} {frame : Frame}

omit [Link L] [Link L'] [Application A] [Application A'] in
theorem report_of_follows {turn : Turn L A α} {turn' : Turn L' A' α} (ht : Follows P turn turn')
    (h : P e e') : (turn'.report e').result = (turn.report e).result ∧
      (turn'.report e').journal = (turn.report e).journal ∧
      P (turn.report e).endpoint (turn'.report e').endpoint := by
  have hend := ht { endpoint := e } { endpoint := e' } ⟨h, rfl⟩
  unfold report
  generalize turn.run { endpoint := e } = result at hend ⊢
  generalize turn'.run { endpoint := e' } = result' at hend ⊢
  cases hend with
  | ok h => exact ⟨rfl, h.journal_eq, h.endpoint⟩
  | error h => exact ⟨rfl, h.journal_eq, h.endpoint⟩

/-- Two endpoints have ended a call the same way, have done the same in it, and still correspond. -/
structure Concur (P : Endpoint L A → Endpoint L' A' → Prop) (e : Endpoint L A)
    (e' : Endpoint L' A') (call : Call) : Prop where
  outcome_eq : e'.outcome call = e.outcome call
  journal_eq : e'.journal call = e.journal call
  after : P (e.after call) (e'.after call)

theorem concur_of_report {turn : Turn L A α} {turn' : Turn L' A' α}
    {f : α → Option Disposition} (ht : Follows P turn turn') (h : P e e')
    (ho : e.outcome call = (turn.report e).result.map f)
    (ho' : e'.outcome call = (turn'.report e').result.map f)
    (hj : e.journal call = (turn.report e).journal)
    (hj' : e'.journal call = (turn'.report e').journal)
    (ha : e.after call = (turn.report e).endpoint)
    (ha' : e'.after call = (turn'.report e').endpoint) : Concur P e e' call := by
  obtain ⟨hresult, hjournal, hafter⟩ := report_of_follows ht h
  constructor
  · rw [ho, ho', hresult]
  · rw [hj, hj', hjournal]
  · rw [ha, ha']
    exact hafter

/-- Calls that hand over the same frame, if any, do the same at endpoints that correspond, as long
as their filters do not differ about that frame. -/
theorem concur_of_congruent (hP : Congruent P) (h : P e e')
    (hhanded : e'.handed? call = e.handed? call)
    (hfilter : ∀ frame t, e.handed? call = some frame → Telegram.decode frame = .ok t →
      ∀ e e', P e e' → e'.isRepeatOfLast t = e.isRepeatOfLast t) : Concur P e e' call := by
  cases call with
  | receive frame now =>
    have ht : Follows P (Turn.receive frame now) (Turn.receive frame now) :=
      hP.follows_receive now fun t => hfilter frame t rfl
    exact concur_of_report ht h rfl rfl rfl rfl rfl rfl
  | serve now =>
    change Link.received e'.link = Link.received e.link at hhanded
    rcases hr : Link.received e.link with _ | frame
    · rw [hr] at hhanded
      constructor
      · simp only [outcome, serve, hr, hhanded]
      · simp only [journal, serve, hr, hhanded]
      · simp only [after, serve, hr, hhanded]
        exact h
    · rw [hr] at hhanded
      have ht : Follows P (Turn.receive frame now) (Turn.receive frame now) :=
        hP.follows_receive now fun t => hfilter frame t hr
      obtain ⟨hresult, hj, hafter⟩ := report_of_follows ht h
      change (e'.receive frame now).result = (e.receive frame now).result at hresult
      constructor
      · simp only [outcome, serve, hr, hhanded, hresult]
        split <;> rfl
      · simp only [journal, serve, hr, hhanded, hresult]
        split <;> exact hj
      · simp only [after, serve, hr, hhanded, hresult]
        split
        · exact hafter
        · exact hP.release hafter
  | poll now => exact concur_of_report (hP.follows_poll now) h rfl rfl rfl rfl rfl rfl
  | hangUp now => exact concur_of_report (hP.follows_hangUp now) h rfl rfl rfl rfl rfl rfl

end Endpoint

end BusTransport
