import BusTransport.Proofs.Endpoint.Consistency
import BusTransport.Proofs.Endpoint.Hearing
import BusTransport.Proofs.Endpoint.WayOut

/-! # Connecting

An endpoint without connection accepts the connect of every device once the link is free. What the
last connection has left in control slot, queue and timers does not stand in the way. Only the
repeat filter does, and only of a frame that the link has marked as a repetition.
-/

namespace BusTransport

namespace Turn

open Endpoint

variable {L A : Type} [Link L] {e : Endpoint L A} {t : Telegram} {frame : Frame} {now : Instant}

def connected (e : Endpoint L A) (t : Telegram) (now : Instant) : Endpoint L A :=
  { noted e t with answers := {}, connection := e.connection.connectTo t.source now }

variable [Application A]

theorem run_receive_connect (h : e.Hears frame t .connect) (hf : e.wayOutFree = true)
    (hs : e.connection.state = .closed) : (receive frame now).run { endpoint := e } =
      .ok .consumed
        { endpoint := connected e t now, journal := [.performed (.connect t.source)] } := by
  have hreact : (noted e t).connection.react (noted e t).answers.hasRoom (.connect t.source) =
      ⟨.openIdle, .connect t.source⟩ := if_pos hs
  rw [run_receive_of_hears h, run_accept_of_event now hf rfl]
  simp only [dispatch, perform, run_bind, run_endpoint, hreact, run_updateAnswers,
    run_updateConnection, run_record, run_pure]
  rfl

theorem run_receive_repetition (ht : Telegram.decode frame = .ok t)
    (hr : e.isRepeatOfLast t = true) : (receive frame now).run { endpoint := e } =
      .ok .consumed
        { endpoint := { e with statistics := e.statistics.count .linkRepeatIgnored } } := by
  simp only [receive, ht, run_bind, run_endpoint, hr, if_true]
  rfl

end Turn

namespace Endpoint

open Turn

variable {L A : Type} [Link L] [Application A] {e : Endpoint L A} {call : Call} {frame : Frame}
  {t : Telegram}

theorem handed_of_run {c : Course L A} {disposition : Disposition}
    (hframe : e.handed? call = some frame)
    (hrun : (Turn.receive frame call.now).run { endpoint := e } = .ok disposition c) :
    e.outcome call = .ok (some disposition) ∧ e.journal call = c.journal ∧
      ∃ link, e.after call = { c.endpoint with link } := by
  have hreport : e.receive frame call.now = _ := report_of_run_ok hrun
  obtain ⟨hjournal, link, hafter⟩ := after_handed hframe
  refine ⟨?_, ?_, link, ?_⟩
  · rw [outcome_handed hframe, outcome, hreport]
    rfl
  · rw [hjournal, journal, hreport]
  · rw [hafter, after, hreport]

/-- The connection of a device that has just connected. -/
structure Opened (c : Connection) (p : DeviceAddress) : Prop where
  state : c.state = .openIdle
  peer : c.peer? = some p
  sendSequence : c.sendSequence = 0
  receiveSequence : c.receiveSequence = 0

/-- A connect from the address given is consumed, and opens the connection or is ignored. -/
structure Accepts (e : Endpoint L A) (call : Call) (t : Telegram) : Prop where
  consumed : e.outcome call = .ok (some .consumed)
  opened : e.isRepeatOfLast t = false → Opened (e.after call).connection t.source ∧
    e.journal call = [.performed (.connect t.source)]
  ignored : e.isRepeatOfLast t = true → (e.after call).dialogue = e.dialogue ∧
    e.journal call = [] ∧ (e.after call).statistics = e.statistics.count .linkRepeatIgnored

variable [Link.Passive L]

/-- Whatever came before, the way out is free while the link is not sending. -/
theorem Reachable.wayOutFree (h : e.Reachable) (hl : Link.sending e.link = false) :
    e.wayOutFree = true := by
  rw [wayOutFree_eq h.slot_ne_acquired, hl]
  rfl

theorem run_connect_of_closed (h : e.Reachable) (hs : e.connection.state = .closed)
    (hl : Link.sending e.link = false) (ht : Telegram.decode frame = .ok t)
    (hdest : t.destination = .individual (Link.address e.link))
    (hfield : ControlField.decode t.tpci = .ok .connect) (hr : e.isRepeatOfLast t = false)
    (now : Instant) : (Turn.receive frame now).run { endpoint := e } =
      .ok .consumed
        { endpoint := connected e t now, journal := [.performed (.connect t.source)] } :=
  run_receive_connect ⟨ht, hr, hdest, hfield, nofun⟩ (h.wayOutFree hl) hs

/-- Whatever has happened to an endpoint without connection, it consumes every connect while the
link is not sending. The sender becomes the peer of a new connection, unless the link has marked the
frame as a repetition and it agrees with the last telegram processed. -/
theorem accepts_of_closed (h : e.Reachable) (hs : e.connection.state = .closed)
    (hl : Link.sending e.link = false) (hframe : e.handed? call = some frame)
    (ht : Telegram.decode frame = .ok t)
    (hdest : t.destination = .individual (Link.address e.link))
    (hfield : ControlField.decode t.tpci = .ok .connect) :
    e.Accepts call t ∧ (e.isRepeatOfLast t = true ↔
      t.repeated = true ∧ ∃ last, e.lastTelegram = some last ∧ last.agreesWith t = true) := by
  have hrepeat : e.isRepeatOfLast t = true ↔
      t.repeated = true ∧ ∃ last, e.lastTelegram = some last ∧ last.agreesWith t = true := by
    rw [isRepeatOfLast, Bool.and_eq_true, Option.any_eq_true]
  refine ⟨?_, hrepeat⟩
  rcases hr : e.isRepeatOfLast t with _ | _
  · have hrun := run_connect_of_closed h hs hl ht hdest hfield hr call.now
    obtain ⟨hconsumed, hjournal, link, hafter⟩ := handed_of_run hframe hrun
    refine ⟨hconsumed, fun _ => ⟨?_, hjournal⟩, fun hr' => absurd hr' (by simp [hr])⟩
    rw [hafter]
    exact ⟨rfl, rfl, rfl, rfl⟩
  · have hrun : (Turn.receive frame call.now).run { endpoint := e } = _ :=
      run_receive_repetition ht hr
    obtain ⟨hconsumed, hjournal, link, hafter⟩ := handed_of_run hframe hrun
    refine ⟨hconsumed, fun hr' => absurd hr' (by simp [hr]), fun _ => ⟨?_, hjournal, ?_⟩⟩
    · rw [hafter]
      rfl
    · rw [hafter]

end Endpoint

namespace Sample

/-- The frame as the link would repeat it. -/
def repetition (frame : Frame) : Frame :=
  ((Telegram.decode frame).map fun t => Telegram.encode { t with repeated := true }).toOption.getD
    []

def greeting : Telegram :=
  ⟨.system, false, guest, .individual host.link.address, Telegram.ownRoutingCounter,
    ControlField.connect.encode, [], Nat.zero_le _⟩

/-- The guest connects, and the host disconnects. -/
def visit : List Call := [.receive (control .connect) 0, .hangUp 1]

end Sample

open Sample Endpoint in
theorem accepts_visit :
    (host.afterAll visit).Reachable ∧ (host.afterAll visit).connection.state = .closed ∧
    Link.Passive RecordingLink ∧ Link.sending (host.afterAll visit).link = false ∧
    Telegram.decode (Sample.control .connect) = .ok greeting ∧
    greeting.destination = .individual (Link.address (host.afterAll visit).link) ∧
    ControlField.decode greeting.tpci = .ok .connect ∧
    (host.afterAll visit).isRepeatOfLast greeting = false ∧
    (host.afterAll visit).Accepts (.receive (Sample.control .connect) 2) greeting := by
  have hreachable := Sample.reachable visit
  have hs : (host.afterAll visit).connection.state = .closed := rfl
  have hl : Link.sending (host.afterAll visit).link = false := rfl
  have ht : Telegram.decode (Sample.control .connect) = .ok greeting := rfl
  have hdest : greeting.destination = .individual (Link.address (host.afterAll visit).link) := rfl
  have hfield : ControlField.decode greeting.tpci = .ok .connect := rfl
  exact ⟨hreachable, hs, inferInstance, hl, ht, hdest, hfield, rfl,
    (accepts_of_closed hreachable hs hl rfl ht hdest hfield).1⟩

open Sample Endpoint in
/-- A connect that is marked as a repetition of the one before the visit opens no connection. -/
theorem unopened_visit : ∃ frame t,
    (host.afterAll visit).Reachable ∧ (host.afterAll visit).connection.state = .closed ∧
    Link.sending (host.afterAll visit).link = false ∧ Telegram.decode frame = .ok t ∧
    t.destination = .individual (Link.address (host.afterAll visit).link) ∧
    ControlField.decode t.tpci = .ok .connect ∧
    ((host.afterAll visit).after (.receive frame 2)).connection.state = .closed := by
  refine ⟨repetition (Sample.control .connect), { greeting with repeated := true }, ?_⟩
  exact ⟨Sample.reachable visit, rfl, rfl, rfl, rfl, rfl, rfl⟩

end BusTransport
