import BusTransport.Proofs.Endpoint.Hearing
import BusTransport.Proofs.Endpoint.WayOut

/-! # Receptions

What becomes of a frame that an endpoint is handed. It is noted as the last one processed and
counted before anything is done about it, and nothing that is done later changes these notes.
-/

namespace BusTransport

/-- What an endpoint notes about the frames that it is handed. -/
structure Intake where
  last : Option Telegram
  received : UInt64
  rejected : UInt64
  ignored : UInt64

namespace Endpoint

variable {L A : Type}

def intake (e : Endpoint L A) : Intake where
  last := e.lastTelegram
  received := e.statistics.framesReceived
  rejected := e.statistics.framesRejected
  ignored := e.statistics.linkRepeatsIgnored

def counted (e : Endpoint L A) (o : Occurrence) : Endpoint L A :=
  { e with statistics := e.statistics.count o }

end Endpoint

namespace Turn

open Endpoint

variable {L A α : Type}

/-- A turn that leaves the notes about frames alone. -/
def Heedless (turn : Turn L A α) : Prop :=
  ∀ c, (turn.after c).endpoint.intake = c.endpoint.intake

/-- Nothing that is done about an event changes the notes. -/
theorem lenient_intake [Application A] :
    Lenient fun c c' : Course L A => c'.endpoint.intake = c.endpoint.intake where
  toCumulative := cumulative_eq _
  connection _ _ _ := rfl
  answers _ _ := rfl
  counted c o ho := by
    cases o with
    | frameReceived | frameRejected | linkRepeatIgnored => exact absurd ho (by decide)
    | _ => rfl
  wayOut _ _ _ := rfl
  offered _ _ _ := rfl
  asked _ _ := rfl

theorem writable_intake [Application A] :
    Writable fun c c' : Course L A => c'.endpoint.intake = c.endpoint.intake where
  connection _ _ := rfl
  closing _ _ := rfl

section Calls

variable [Link L] [Application A]

theorem heedless_dispatch (event : Event) (t? : Option Telegram) (now : Instant) :
    Heedless (dispatch event t? now : Turn L A Unit) := by
  have hc := (lenient_intake (L := L) (A := A)).toCumulative
  refine obeys_bind hc (obeys_endpoint hc) fun e => ?_
  refine obeys_bind hc (obeys_perform lenient_intake (fun _ => writable_intake) _ _) fun _ => ?_
  exact obeys_bind hc (fun _ => rfl) fun _ _ => rfl

theorem heedless_replyDirectly (t : Telegram) : Heedless (replyDirectly t : Turn L A Unit) :=
  obeys_replyDirectly lenient_intake t

theorem heedless_outboundFree : Heedless (outboundFree : Turn L A Bool) := by
  have hc := (lenient_intake (L := L) (A := A)).toCumulative
  refine obeys_bind hc (obeys_endpoint hc) fun e => ?_
  split
  · exact obeys_bind hc (fun _ => rfl) fun _ => obeys_pure hc _
  · exact obeys_pure hc _

theorem heedless_poll (now : Instant) : Heedless (Turn.poll now : Turn L A Unit) := by
  have hc := (lenient_intake (L := L) (A := A)).toCumulative
  have hduty : Heedless (duty now : Turn L A Unit) := by
    refine obeys_bind hc (obeys_endpoint hc) fun e => ?_
    split
    · exact obeys_bind hc (fun _ => rfl) fun _ => heedless_dispatch _ _ _
    · split
      · exact heedless_dispatch _ _ _
      · split
        · exact obeys_bind hc (fun _ => rfl) fun _ => heedless_dispatch _ _ _
        · exact obeys_pure hc _
  have hfree : Heedless (do if ← outboundFree then duty now : Turn L A Unit) := by
    refine obeys_bind hc heedless_outboundFree fun free => ?_
    split
    · exact hduty
    · exact obeys_pure hc _
  refine obeys_bind hc (fun _ => rfl) fun _ => obeys_bind hc (obeys_endpoint hc) fun e => ?_
  dsimp only
  split
  · exact obeys_bind hc (fun _ => rfl) fun _ => hfree
  · exact hfree

theorem heedless_hangUp (now : Instant) : Heedless (Turn.hangUp now : Turn L A Unit) := by
  have hc := (lenient_intake (L := L) (A := A)).toCumulative
  refine obeys_bind hc (obeys_endpoint hc) fun e => ?_
  split
  · refine obeys_bind hc (fun _ => rfl) fun _ => obeys_bind hc heedless_outboundFree fun free => ?_
    split
    · exact heedless_dispatch _ _ _
    · exact obeys_throw hc _
  · exact obeys_throw hc _

end Calls

section Reception

variable [Link L] [Application A] {e : Endpoint L A} {frame : Frame} {t : Telegram}
  {field : ControlField}

theorem intake_of_accept (now : Instant) (hf : e.wayOutFree = true) :
    ((accept t field now).after { endpoint := e }).endpoint.intake = (noted e t).intake := by
  rcases he : field.event? t.source with _ | event
  · rw [after_congr (run_accept_of_unconnected now hf he), after_bind_pure]
    exact heedless_replyDirectly t _
  · rw [after_congr (run_accept_of_event now hf he), after_bind_pure]
    exact heedless_dispatch event (some t) now _

end Reception

end Turn

namespace Endpoint

open Turn

variable {L A : Type} [Link L] [Application A] {e : Endpoint L A} {frame : Frame} {now : Instant}

/-- What becomes of a frame that an endpoint is handed, depending on the endpoint and the frame. -/
inductive Reception (e : Endpoint L A) (frame : Frame) : Report L A Disposition → Prop
  | malformed {cause} : Telegram.decode frame = .error cause →
      Reception e frame ⟨.ok .consumed, [], e.counted .frameRejected⟩
  | repetition {t} : Telegram.decode frame = .ok t → e.isRepeatOfLast t = true →
      Reception e frame ⟨.ok .consumed, [], e.counted .linkRepeatIgnored⟩
  | broadcast {t} : Telegram.decode frame = .ok t → e.isRepeatOfLast t = false →
      t.destination = .broadcast →
      Reception e frame ⟨.ok .consumed, [.broadcastDelivered t], { e with
        application := Application.broadcastReceived e.application t, lastTelegram := some t }⟩
  | group {t raw} : Telegram.decode frame = .ok t → e.isRepeatOfLast t = false →
      t.destination = .group raw →
      Reception e frame ⟨.ok .consumed, [.groupDelivered t], { e with
        application := Application.groupReceived e.application t, lastTelegram := some t }⟩
  | foreign {t address} : Telegram.decode frame = .ok t → e.isRepeatOfLast t = false →
      t.destination = .individual address → address ≠ Link.address e.link →
      Reception e frame ⟨.ok .consumed, [], e⟩
  /-- The control field is unknown, or there is data without a command. -/
  | unreadable {t} : Telegram.decode frame = .ok t → e.isRepeatOfLast t = false →
      t.destination = .individual (Link.address e.link) →
      (∀ field, ControlField.decode t.tpci = .ok field →
        field.isControl = false ∧ t.payload = []) →
      Reception e frame ⟨.ok .consumed, [], e.counted .frameRejected⟩
  | deferred {t field} : e.Hears frame t field → e.wayOutFree = false →
      Reception e frame ⟨.ok .deferred, [], e.looked⟩
  | taken {t field report} : e.Hears frame t field → e.wayOutFree = true →
      report.result ≠ .ok .deferred → report.endpoint.intake = (noted e t).intake →
      Reception e frame report

theorem receive_of_run {disposition : Disposition} {c : Course L A}
    (h : (Turn.receive frame now).run { endpoint := e } = .ok disposition c) :
    e.receive frame now = ⟨.ok disposition, c.journal, c.endpoint⟩ := by
  rw [Endpoint.receive, report, h]

theorem reception_of_hears {t : Telegram} {field : ControlField} (h : e.Hears frame t field)
    (now : Instant) : e.Reception frame (e.receive frame now) := by
  have hrun := run_receive_of_hears h now
  rcases hf : e.wayOutFree with _ | _
  · rw [receive_of_run (hrun.trans (run_accept_of_wait t field now hf))]
    exact .deferred h hf
  · refine .taken h hf (receive_ne_deferred hf frame now) ?_
    rw [Endpoint.receive, report_endpoint, after_congr hrun]
    exact intake_of_accept now hf

theorem reception_of_fresh {t : Telegram} (hd : Telegram.decode frame = .ok t)
    (hfresh : e.isRepeatOfLast t = false) (now : Instant) :
    e.Reception frame (e.receive frame now) := by
  have hroute : (Turn.receive frame now).run { endpoint := e } =
      (route t now).run { endpoint := e } := by
    simp only [Turn.receive, hd, run_bind, run_endpoint, hfresh, Bool.false_eq_true, if_false]
  unfold route at hroute
  rcases hdest : t.destination with address | raw | _
  · by_cases hown : address = Link.address e.link
    · subst hown
      rcases hf : ControlField.decode t.tpci with cause | field
      · simp only [hdest, run_bind, run_endpoint, if_true, hf] at hroute
        rw [receive_of_run hroute]
        exact .unreadable hd hfresh hdest (by simp [hf])
      by_cases hempty : field.isControl = false ∧ t.payload = []
      · simp only [hdest, run_bind, run_endpoint, if_true, hf, hempty, Bool.not_false,
          List.isEmpty_nil, Bool.and_self] at hroute
        rw [receive_of_run hroute]
        exact .unreadable hd hfresh hdest (by simp [hf, hempty])
      · exact reception_of_hears ⟨hd, hfresh, hdest, hf, fun hc hp => hempty ⟨hc, hp⟩⟩ now
    · simp only [hdest, run_bind, run_endpoint, hown, if_false, run_pure] at hroute
      rw [receive_of_run hroute]
      exact .foreign hd hfresh hdest hown
  · simp only [hdest] at hroute
    rw [receive_of_run hroute]
    exact .group hd hfresh hdest
  · simp only [hdest] at hroute
    rw [receive_of_run hroute]
    exact .broadcast hd hfresh hdest

theorem reception (e : Endpoint L A) (frame : Frame) (now : Instant) :
    e.Reception frame (e.receive frame now) := by
  rcases hd : Telegram.decode frame with cause | t
  · have hrun : (Turn.receive frame now).run { endpoint := e } =
        .ok .consumed { endpoint := e.counted .frameRejected } := by
      simp only [Turn.receive, hd]
      rfl
    rw [receive_of_run hrun]
    exact .malformed hd
  rcases hfresh : e.isRepeatOfLast t with _ | _
  · exact reception_of_fresh hd hfresh now
  · have hrun : (Turn.receive frame now).run { endpoint := e } =
        .ok .consumed { endpoint := e.counted .linkRepeatIgnored } := by
      simp only [Turn.receive, hd, run_bind, run_endpoint, hfresh, if_true]
      rfl
    rw [receive_of_run hrun]
    exact .repetition hd hfresh

end Endpoint

end BusTransport
