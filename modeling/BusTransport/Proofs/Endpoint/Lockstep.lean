import BusTransport.Proofs.Endpoint.Correspondence
import BusTransport.Proofs.Endpoint.Script

/-! # Endpoints in lockstep

Two endpoints are alike if they differ at most in control slot, counters, repeat filter and traffic.
Over links that finish every frame at once such differences never come to matter: calls with the
same input do the same on both sides, and leave the endpoints alike.
-/

namespace BusTransport

/-- The way out is always free: the link finishes every frame at once. -/
structure Quick (link : RecordingLink) (slot : ControlSlot) : Prop where
  completesAtOnce : link.completesAtOnce = true
  sending : link.sending = false
  slot : slot.state ≠ .acquired

namespace Quick

variable {link : RecordingLink} {slot : ControlSlot}

theorem carry (h : Quick link slot) (frame : Frame) : (link.carry frame).sending = false := by
  rw [RecordingLink.carry, h.completesAtOnce]
  rfl

theorem refresh (h : Quick link slot) : slot.refresh link = (⟨.free⟩, link) := by
  unfold ControlSlot.refresh
  rcases slot with ⟨_ | _ | _⟩
  · rfl
  · exact absurd rfl h.slot
  · change (if link.sending = true then _ else _, link) = _
    rw [h.sending]
    rfl

end Quick

/-- Two endpoints with a free way out that differ in control slot, counters, repeat filter and
traffic alone. -/
structure Endpoint.Alike {A : Type} (e e' : Endpoint RecordingLink A) : Prop where
  left : Quick e.link e.slot
  right : Quick e'.link e'.slot
  connection_eq : e'.connection = e.connection
  answers_eq : e'.answers = e.answers
  application_eq : e'.application = e.application
  profile_eq : e'.profile = e.profile
  address_eq : e'.link.address = e.link.address
  occupied_eq : e'.link.occupied = e.link.occupied

namespace Turn

open Endpoint

variable {A : Type} {c c' : Course RecordingLink A}

theorem run_offer_of_quick (h : Quick c.endpoint.link c.endpoint.slot) (frame : Frame) :
    (offer frame).run c = .ok () {
      endpoint := { c.endpoint with link := c.endpoint.link.carry frame }
      journal := c.journal ++ [.offered frame none] } := by
  have hsend : Link.send c.endpoint.link frame = (.ok (), c.endpoint.link.carry frame) :=
    RecordingLink.send_of_free h.sending frame
  unfold offer
  simp only [run_bind, run_endpoint, hsend, run_update, run_record]

theorem run_offerControl_of_quick (h : Quick c.endpoint.link c.endpoint.slot) (frame : Frame) :
    (offerControl frame).run c = .ok () {
      endpoint := { c.endpoint with slot := ⟨.sending⟩, link := c.endpoint.link.carry frame }
      journal := c.journal ++ [.offered frame none] } := by
  obtain ⟨permit, ha⟩ := ControlSlot.acquire_of_refresh h.refresh rfl h.sending
    c.endpoint.profile.slotPollLimit.toNat
  have hsend : Link.send (Link.observed c.endpoint.link) frame =
      (.ok (), c.endpoint.link.carry frame) := RecordingLink.send_of_free h.sending frame
  unfold offerControl
  simp only [run_bind, run_endpoint, ha, run_update, run_require_ok, ControlSlot.transmit, hsend,
    run_record]

theorem follows_offer_of_alike (frame : Frame) :
    Follows (Alike (A := A)) (offer frame) (offer frame) := by
  intro c c' h
  have hl := h.endpoint.left
  have hr := h.endpoint.right
  rw [run_offer_of_quick hl, run_offer_of_quick hr]
  refine .ok ⟨{ h.endpoint with left := ?_, right := ?_ }, congrArg (· ++ _) h.journal_eq⟩
  · exact ⟨hl.completesAtOnce, hl.carry frame, hl.slot⟩
  · exact ⟨hr.completesAtOnce, hr.carry frame, hr.slot⟩

theorem follows_offerControl_of_alike (frame : Frame) :
    Follows (Alike (A := A)) (offerControl frame) (offerControl frame) := by
  intro c c' h
  have hl := h.endpoint.left
  have hr := h.endpoint.right
  rw [run_offerControl_of_quick hl, run_offerControl_of_quick hr]
  refine .ok ⟨{ h.endpoint with left := ?_, right := ?_ }, congrArg (· ++ _) h.journal_eq⟩
  · exact ⟨hl.completesAtOnce, hl.carry frame, nofun⟩
  · exact ⟨hr.completesAtOnce, hr.carry frame, nofun⟩

theorem refreshed_of_quick {e : Endpoint RecordingLink A} (h : Quick e.link e.slot) :
    e.refreshed = { e with slot := ⟨.free⟩ } := by
  rw [refreshed, h.refresh]

variable [Application A]

theorem follows_ask_of_alike (r : Request) : Follows (Alike (A := A)) (ask r) (ask r) := by
  intro c c' h
  have happ := h.endpoint.application_eq
  rw [run_ask, run_ask, happ]
  refine .ok ⟨{ h.endpoint with application_eq := ?_ }, ?_⟩
  · exact congrArg (fun a => (Application.respond a r).2) happ
  · rw [asked, asked, happ, h.journal_eq]

theorem congruent_alike : Congruent (Alike (A := A)) where
  connection_eq h := h.connection_eq
  answers_eq h := h.answers_eq
  address_eq h := h.address_eq
  idle_eq {e e'} h := by
    change (!e'.link.sending && !e'.link.occupied) = (!e.link.sending && !e.link.occupied)
    rw [h.left.sending, h.right.sending, h.occupied_eq]
  sending_eq h := h.right.sending.trans h.left.sending.symm
  isFree_eq h := by rw [refreshed_of_quick h.left, refreshed_of_quick h.right]
  refreshed h := by
    rw [refreshed_of_quick h.left, refreshed_of_quick h.right]
    exact { h with
      left := ⟨h.left.completesAtOnce, h.left.sending, nofun⟩
      right := ⟨h.right.completesAtOnce, h.right.sending, nofun⟩ }
  observed h := h
  release h := { h with
    left := ⟨h.left.completesAtOnce, h.left.sending, h.left.slot⟩
    right := ⟨h.right.completesAtOnce, h.right.sending, h.right.slot⟩ }
  connection h _ := { h with connection_eq := rfl }
  answers h _ := { h with answers_eq := rfl }
  counted h _ := { h with }
  lastTelegram h _ := { h with }
  offer := follows_offer_of_alike
  offerControl := follows_offerControl_of_alike
  ask := follows_ask_of_alike
  deliverGroup t _ _ h := .ok ⟨{ h.endpoint with
    application_eq := congrArg (Application.groupReceived · t) h.endpoint.application_eq },
    congrArg (· ++ _) h.journal_eq⟩
  deliverBroadcast t _ _ h := .ok ⟨{ h.endpoint with
    application_eq := congrArg (Application.broadcastReceived · t) h.endpoint.application_eq },
    congrArg (· ++ _) h.journal_eq⟩
  tellClosed p _ _ h := .ok ⟨{ h.endpoint with
    application_eq := congrArg (Application.connectionClosed · p) h.endpoint.application_eq },
    congrArg (· ++ _) h.journal_eq⟩

end Turn

namespace Endpoint

open Turn

variable {A : Type} {e e' : Endpoint RecordingLink A}

theorem Alike.refl (h : Quick e.link e.slot) : e.Alike e := ⟨h, h, rfl, rfl, rfl, rfl, rfl, rfl⟩

variable [Application A] {call : Call}

/-- Calls that hand over the same frame, if any, do the same at endpoints that are alike, as long as
that frame is not marked as repeated. -/
theorem Alike.after (h : e.Alike e') (hhanded : e'.handed? call = e.handed? call)
    (hplain : ∀ frame t, e.handed? call = some frame → Telegram.decode frame = .ok t →
      t.repeated = false) :
    e'.journal call = e.journal call ∧ (e.after call).Alike (e'.after call) := by
  have hconcur : Concur Alike e e' call := by
    apply concur_of_congruent congruent_alike h hhanded
    intro frame t hframe ht e e' _
    rw [isRepeatOfLast, isRepeatOfLast, hplain frame t hframe ht, Bool.false_and, Bool.false_and]
  exact ⟨hconcur.journal_eq, hconcur.after⟩

theorem serve_of_quick {frame : Frame} (h : Quick e.link e.slot)
    (hr : Link.received e.link = some frame) (now : Instant) :
    e.after (.serve now) = (e.after (.receive frame now)).release := by
  have hf : e.wayOutFree = true := by
    have hsending : Link.sending e.link = false := h.sending
    rw [wayOutFree, refreshed_of_quick h, hsending]
    rfl
  have hne := receive_ne_deferred hf frame now
  simp only [Endpoint.after, serve, hr]

end Endpoint

end BusTransport
