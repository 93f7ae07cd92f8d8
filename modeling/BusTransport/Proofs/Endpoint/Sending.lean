import Mathlib.Tactic.SplitIfs
import BusTransport.Endpoint.Poll
import BusTransport.Endpoint.Receive
import BusTransport.Proofs.Endpoint.Dialogue

/-! # Outcomes of the steps of a turn

A step of a turn ends in one of a few ways. A frame offered to the link is sent or refused. A
control frame may also find its slot or the link occupied.
-/

namespace BusTransport

namespace ControlSlot

variable {L : Type} [Link L] {slot slot' : ControlSlot} {link link' : L} {fault : BusyFault}

theorem refresh_fst (slot : ControlSlot) (link : L) :
    (slot.refresh link).1 = slot ∨ (slot.refresh link).1 = ⟨.free⟩ := by
  unfold refresh
  split_ifs
  · exact .inl rfl
  · exact .inr rfl
  · exact .inl rfl

theorem slot_of_attempt_error (h : slot.attempt link = (.error fault, slot', link')) :
    slot' = slot ∨ slot' = ⟨.free⟩ := by
  unfold attempt at h
  simp only at h
  split at h
  · cases h
  · cases h
    exact refresh_fst slot link

theorem slot_of_acquireWithin_error {retries : Nat}
    (h : slot.acquireWithin retries link = (.error fault, slot', link')) :
    slot' = slot ∨ slot' = ⟨.free⟩ := by
  induction retries generalizing slot link with
  | zero => exact slot_of_attempt_error h
  | succ retries ih =>
    rcases ha : slot.attempt link with ⟨cause | permit, slot₁, link₁⟩
    · simp only [acquireWithin, ha] at h
      rcases ih h with rfl | rfl
      · exact slot_of_attempt_error ha
      · exact .inr rfl
    · simp only [acquireWithin, ha] at h
      cases h

theorem slot_of_acquire_error {limit : Nat}
    (h : slot.acquire link limit = (.error fault, slot', link')) :
    slot' = slot ∨ slot' = ⟨.free⟩ := slot_of_acquireWithin_error h

end ControlSlot

namespace Turn

open Endpoint

variable {L A α β ε : Type}

/-- Where a turn leaves its course, with or without a fault. -/
def after (turn : Turn L A α) (c : Course L A) : Course L A :=
  match turn.run c with
  | .ok _ c => c
  | .error _ c => c

variable {turn : Turn L A α} {c c' : Course L A}

theorem after_of_ok {a : α} (h : turn.run c = .ok a c') : turn.after c = c' := by
  unfold after; rw [h]

theorem after_of_error {fault : Fault} (h : turn.run c = .error fault c') :
    turn.after c = c' := by
  unfold after; rw [h]

theorem after_congr {turn' : Turn L A α} (h : turn.run c = turn'.run c') :
    turn.after c = turn'.after c' := by
  unfold after; rw [h]

/-- A turn that ends early leaves out what would follow. -/
theorem after_bind (turn : Turn L A α) (next : α → Turn L A β) (c : Course L A) :
    (turn >>= next).after c = turn.after c ∨
      ∃ a, (turn >>= next).after c = (next a).after (turn.after c) := by
  unfold after
  rw [run_bind]
  rcases turn.run c with ⟨a, c'⟩ | ⟨fault, c'⟩
  · exact .inr ⟨a, rfl⟩
  · exact .inl rfl

theorem after_bind_pure (turn : Turn L A α) (b : β) (c : Course L A) :
    (turn >>= fun _ => pure b).after c = turn.after c := by
  unfold after
  rw [run_bind]
  cases turn.run c <;> rfl

theorem report_journal (turn : Turn L A α) (e : Endpoint L A) :
    (turn.report e).journal = (turn.after { endpoint := e }).journal := by
  unfold report after
  cases turn.run { endpoint := e } <;> rfl

theorem report_endpoint (turn : Turn L A α) (e : Endpoint L A) :
    (turn.report e).endpoint = (turn.after { endpoint := e }).endpoint := by
  unfold report after
  cases turn.run { endpoint := e } <;> rfl

theorem report_of_run_ok {e : Endpoint L A} {a : α}
    (h : turn.run { endpoint := e } = .ok a c') :
    turn.report e = ⟨.ok a, c'.journal, c'.endpoint⟩ := by
  rw [report, h]

theorem report_of_run_error {e : Endpoint L A} {fault : Fault}
    (h : turn.run { endpoint := e } = .error fault c') :
    turn.report e = ⟨.error fault, c'.journal, c'.endpoint⟩ := by
  rw [report, h]

theorem report_of_error {e : Endpoint L A} {fault : Fault}
    (h : (turn.report e).result = .error fault) :
    ∃ c', turn.run { endpoint := e } = .error fault c' ∧ (turn.report e).journal = c'.journal := by
  rcases hrun : turn.run { endpoint := e } with ⟨a, c'⟩ | ⟨fault', c'⟩
  · rw [report, hrun] at h
    cases h
  · rw [report, hrun] at h
    cases h
    rw [report, hrun]
    exact ⟨c', rfl, rfl⟩

@[simp] theorem run_updateConnection (f : Connection → Connection) (c : Course L A) :
    (updateConnection f).run c =
      .ok () { c with endpoint := { c.endpoint with connection := f c.endpoint.connection } } := rfl

@[simp] theorem run_updateAnswers (f : AnswerQueue → AnswerQueue) (c : Course L A) :
    (updateAnswers f).run c =
      .ok () { c with endpoint := { c.endpoint with answers := f c.endpoint.answers } } := rfl

@[simp] theorem run_count (o : Occurrence) (c : Course L A) :
    (count o).run c = .ok () { c with
      endpoint := { c.endpoint with statistics := c.endpoint.statistics.count o } } := rfl

@[simp] theorem run_remember (t : Telegram) (c : Course L A) :
    (remember t).run c =
      .ok () { c with endpoint := { c.endpoint with lastTelegram := some t } } := rfl

@[simp] theorem run_require_ok (fault : ε → Fault) (a : α) (c : Course L A) :
    (require fault (.ok a) : Turn L A α).run c = .ok a c := rfl

@[simp] theorem run_require_error (fault : ε → Fault) (cause : ε) (c : Course L A) :
    (require fault (.error cause) : Turn L A α).run c = .error (fault cause) c := rfl

theorem run_peer {p : DeviceAddress} (h : c.endpoint.connection.peer? = some p) :
    peer.run c = .ok p c := by
  unfold peer
  simp only [run_bind, run_endpoint, h, run_pure]

section Application

variable [Application A]

def asked (r : Request) (c : Course L A) : Course L A where
  endpoint := { c.endpoint with
    application := (Application.respond c.endpoint.application r).2 }
  journal := c.journal ++ [.requested r (Application.respond c.endpoint.application r).1]

theorem run_ask (r : Request) (c : Course L A) :
    (ask r).run c = .ok (Application.respond c.endpoint.application r).1 (asked r c) := rfl

def closing (p : DeviceAddress) (c : Course L A) : Course L A where
  endpoint := { c.endpoint with
    answers := {}, connection := c.endpoint.connection.close
    statistics := c.endpoint.statistics.count .disconnect
    application := Application.connectionClosed c.endpoint.application p }
  journal := c.journal ++ [.closed p]

theorem run_closeConnection (p : DeviceAddress) (c : Course L A) :
    (closeConnection p).run c = .ok () (closing p c) := rfl

end Application

section Link

variable [Link L]

theorem run_offer (frame : Frame) (c : Course L A) :
    (∃ link, (offer frame).run c = .ok () {
      endpoint := { c.endpoint with link }
      journal := c.journal ++ [.offered frame none] }) ∨
    (∃ link fault, (offer frame).run c = .error (.link fault) {
      endpoint := { c.endpoint with link }
      journal := c.journal ++ [.offered frame (some fault)] }) := by
  unfold offer
  rcases h : Link.send c.endpoint.link frame with ⟨fault | _, link⟩
  · refine .inr ⟨link, fault, ?_⟩
    simp only [run_bind, run_endpoint, h, run_update, run_record, run_throw]
  · refine .inl ⟨link, ?_⟩
    simp only [run_bind, run_endpoint, h, run_update, run_record]

theorem run_offerControl (frame : Frame) (c : Course L A) :
    (∃ link, (offerControl frame).run c = .ok () {
      endpoint := { c.endpoint with slot := ⟨.sending⟩, link }
      journal := c.journal ++ [.offered frame none] }) ∨
    (∃ link fault, (offerControl frame).run c = .error (.link fault) {
      endpoint := { c.endpoint with slot := ⟨.free⟩, link }
      journal := c.journal ++ [.offered frame (some fault)] }) ∨
    (∃ slot link fault, (slot = c.endpoint.slot ∨ slot = ⟨.free⟩) ∧
      (offerControl frame).run c = .error (.busy fault)
        { c with endpoint := { c.endpoint with slot, link } }) := by
  unfold offerControl
  rcases h : c.endpoint.slot.acquire c.endpoint.link c.endpoint.profile.slotPollLimit.toNat with
    ⟨fault | permit, slot, link⟩
  · refine .inr (.inr ⟨slot, link, fault, ControlSlot.slot_of_acquire_error h, ?_⟩)
    simp only [run_bind, run_endpoint, h, run_update, run_require_error]
  · rcases ht : Link.send link frame with ⟨fault | _, link'⟩
    · refine .inr (.inl ⟨link', fault, ?_⟩)
      simp only [run_bind, run_endpoint, h, ControlSlot.transmit, ht, run_update, run_require_ok,
        run_record, run_throw]
    · refine .inl ⟨link', ?_⟩
      simp only [run_bind, run_endpoint, h, ControlSlot.transmit, ht, run_update, run_require_ok,
        run_record]

theorem run_sendControl {destination : DeviceAddress} {field : ControlField} {frame : Frame}
    {c : Course L A}
    (hf : controlFrame (Link.address c.endpoint.link) destination field = .ok frame) :
    (∃ link, (sendControl destination field).run c = .ok () {
      endpoint := { c.endpoint with
        slot := ⟨.sending⟩, link, statistics := c.endpoint.statistics.count .controlFrameSent }
      journal := c.journal ++ [.offered frame none] }) ∨
    (∃ link fault, (sendControl destination field).run c = .error (.link fault) {
      endpoint := { c.endpoint with slot := ⟨.free⟩, link }
      journal := c.journal ++ [.offered frame (some fault)] }) ∨
    (∃ slot link fault, (slot = c.endpoint.slot ∨ slot = ⟨.free⟩) ∧
      (sendControl destination field).run c = .error (.busy fault)
        { c with endpoint := { c.endpoint with slot, link } }) := by
  unfold sendControl
  rcases run_offerControl frame c with ⟨link, h⟩ | ⟨link, fault, h⟩ | ⟨slot, link, fault, hs, h⟩
  · refine .inl ⟨link, ?_⟩
    simp only [run_bind, run_endpoint, hf, run_require_ok, h, run_count]
  · refine .inr (.inl ⟨link, fault, ?_⟩)
    simp only [run_bind, run_endpoint, hf, run_require_ok, h]
  · refine .inr (.inr ⟨slot, link, fault, hs, ?_⟩)
    simp only [run_bind, run_endpoint, hf, run_require_ok, h]

theorem run_sendPrimary {entry : PendingAnswer} {rest : List PendingAnswer} (now : Instant)
    (hq : c.endpoint.answers.entries = entry :: rest) :
    (sendPrimary now).run c =
      match c.endpoint.dialogue.primaryFrame (Link.address c.endpoint.link) entry with
      | .error fault =>
        .error (.frame fault) { c with endpoint := { c.endpoint with answers := ⟨rest⟩ } }
      | .ok frame => (do
        offer frame
        updateAnswers (·.markSending frame)
        updateConnection (·.awaitAck now)
        count .answerSent).run c := by
  have hp : c.endpoint.answers.primary? = some entry := by rw [AnswerQueue.primary?, hq]; rfl
  have hd : c.endpoint.answers.dropPrimary = ⟨rest⟩ := by rw [AnswerQueue.dropPrimary, hq]; rfl
  unfold sendPrimary
  rcases hf : c.endpoint.dialogue.primaryFrame (Link.address c.endpoint.link) entry with
    fault | frame
  · simp only [Dialogue.primaryFrame, dialogue] at hf
    simp only [run_bind, run_endpoint, hp, hf, run_updateAnswers, hd, run_throw]
  · simp only [Dialogue.primaryFrame, dialogue] at hf
    simp only [run_bind, run_endpoint, hp, hf]

end Link

end Turn

end BusTransport
