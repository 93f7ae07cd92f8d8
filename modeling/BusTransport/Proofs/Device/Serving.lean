import BusTransport.Device.Basic
import BusTransport.Proofs.Endpoint.Closing
import BusTransport.Proofs.Endpoint.Connecting

/-! # Serving a mailbox

A mailbox is never sending, so an endpoint over it finds its way out free at every call, whatever
the calls before have left in the control slot. It defers no frame, and only the mailbox can refuse
it a disconnect. A device that has served its receive buffer is therefore at rest, and one try is
enough for it to disconnect.
-/

namespace BusTransport

namespace Endpoint

open Turn

variable {A : Type} [Application A] {e : Endpoint MailboxLink A} {frame : Frame} {now : Instant}

def given (e : Endpoint MailboxLink A) (frame : Frame) : Endpoint MailboxLink A :=
  { e with link := { e.link with buffer := some frame } }

omit [Application A] in
theorem deliver_of_empty (hb : e.link.buffer = none) (frame : Frame) :
    e.link.deliver frame = .ok (e.given frame).link := by
  rw [MailboxLink.deliver, MailboxLink.isFull, hb]
  rfl

theorem Reachable.given (h : e.Reachable) (frame : Frame) : (e.given frame).Reachable :=
  h.run (.outside _ e.application e.statistics .start)

theorem Reachable.defers_nothing (h : e.Reachable) (frame : Frame) (now : Instant) :
    (e.receive frame now).result ≠ .ok .deferred :=
  receive_ne_deferred (h.wayOutFree rfl) frame now

omit [Application A] in
theorem buffer_report {α : Type} {turn : Turn MailboxLink A α} (h : Frugal turn)
    (e : Endpoint MailboxLink A) : (turn.report e).endpoint.link.buffer = e.link.buffer := by
  refine h.preserves (f := fun l => l.buffer) (fun _ => rfl) (fun l frame => ?_) e
  change (l.send frame).2.buffer = l.buffer
  unfold MailboxLink.send
  split
  · rfl
  · rfl

theorem serve_of_empty (hb : e.link.buffer = none) (now : Instant) :
    e.serve now = ⟨.ok none, [], e⟩ := by
  have hreceived : Link.received e.link = none := hb
  simp only [serve, hreceived]

/-- Whether the turn with a frame ends with a fault or not, the receive buffer is released. -/
theorem Reachable.serve_given (h : e.Reachable) (frame : Frame) (now : Instant) :
    (e.given frame).serve now =
      let r := (e.given frame).receive frame now
      ⟨r.result.map some, r.journal, r.endpoint.release⟩ := by
  have hreceived : Link.received (e.given frame).link = some frame := rfl
  have hne := (h.given frame).defers_nothing frame now
  rcases hresult : ((e.given frame).receive frame now).result with fault | _ | _
  · simp only [serve, hreceived, hresult]
  · simp only [serve, hreceived, hresult]
  · exact absurd hresult hne

/-- How a try of the user to disconnect ends over a mailbox. -/
structure Parts (e : Endpoint MailboxLink A) (now : Instant) : Prop where
  connected : e.connection.isOpen = true →
    (e.hangUp now).result = (if e.link.attached then .ok ()
      else .error (.link (.failed "outbound channel closed"))) ∧
    (e.hangUp now).endpoint.connection.state = .closed
  unconnected : e.connection.isOpen = false →
    (e.hangUp now).result = .error .notConnected ∧ (e.hangUp now).endpoint = e

theorem Parts.kind_ne {fault : Fault} (h : e.Parts now)
    (hfault : (e.hangUp now).result = .error fault) :
    fault.kind ≠ .slotBusy ∧ fault.kind ≠ .timeout := by
  rcases ho : e.connection.isOpen with _ | _
  · obtain rfl := Except.error.inj ((h.unconnected ho).1.symm.trans hfault)
    exact ⟨nofun, nofun⟩
  · have hresult := (h.connected ho).1.symm.trans hfault
    split_ifs at hresult
    cases hresult
    exact ⟨nofun, nofun⟩

theorem result_of_leave {p : DeviceAddress}
    (h : TakesLeave e.own p (e.journal (.hangUp now)) (e.outcome (.hangUp now))) :
    (e.hangUp now).result = if e.link.attached then .ok ()
      else .error (.link (.failed "outbound channel closed")) := by
  obtain ⟨frame, refusal, hmem, houtcome⟩ := h.exists_offered
  obtain ⟨-, l, hread, -, hrefusal⟩ := offered_of_free hmem
  rw [← hrefusal, MailboxLink.eq_of_reads hread, MailboxLink.refusal_eq] at houtcome
  change (e.hangUp now).result.map (fun _ => none) = _ at houtcome
  rcases hresult : (e.hangUp now).result with fault | _
  · rw [hresult] at houtcome
    split_ifs at houtcome ⊢
    · cases houtcome
    · rw [Except.error.inj houtcome]
  · rw [hresult] at houtcome
    split_ifs at houtcome ⊢
    · rfl
    · cases houtcome

theorem Reachable.parts (h : e.Reachable) (now : Instant) : e.Parts now := by
  constructor
  · intro ho
    obtain ⟨p, hp⟩ := exists_peer_of_isOpen h.dialogue_consistent ho
    have hf := h.wayOutFree rfl
    have hcloses := closes_hangUp (wayClear_of_free hf) hf hp now
    exact ⟨result_of_leave hcloses.leave, hcloses.closed⟩
  · intro ho
    have hreport : e.hangUp now = _ := report_of_run_error (run_hangUp_of_closed now ho)
    rw [hreport]
    exact ⟨rfl, rfl⟩

end Endpoint

namespace Device

open Endpoint

variable {A : Type} [Application A] {d : Device A} {frame : Frame} {rest : List Frame}

/-- A device between two steps: its receive buffer is empty. -/
structure AtRest (d : Device A) : Prop where
  reachable : d.endpoint.Reachable
  buffer_eq : d.endpoint.link.buffer = none

theorem atRest_of_create {profile : DeviceProfile} {application : A}
    (hc : create profile application = .ok d) : d.AtRest ∧ d.inbound = [] := by
  simp only [create, bind, Except.bind] at hc
  split at hc
  · cases hc
  split at hc
  · cases hc
  · next endpoint hcreate =>
    cases hc
    exact ⟨⟨⟨hcreate, .start⟩, by rw [eq_of_create hcreate]⟩, rfl⟩

/-- The endpoint gets the frame and ends its turn, with a fault or without, before the receive
buffer is released. -/
theorem AtRest.take_eq (h : d.AtRest) (hin : d.inbound = frame :: rest) :
    d.take =
      let r := (d.endpoint.given frame).receive frame d.clock
      (d.date r.journal, { d with inbound := rest, endpoint := r.endpoint.release }) := by
  let fed : Device A := { d with inbound := rest, endpoint := d.endpoint.given frame }
  have htake : d.take = fed.serve := by
    unfold take
    rw [hin]
    simp only [deliver_of_empty h.buffer_eq]
    rfl
  rw [htake, serve]
  simp only [fed, h.reachable.serve_given]
  rfl

theorem AtRest.tick_eq (h : d.AtRest) : d.tick =
    let r := d.endpoint.poll d.clock
    (d.date r.journal, { d with endpoint := r.endpoint }) := by
  simp only [tick, serve, serve_of_empty h.buffer_eq]
  rfl

theorem AtRest.hangUp_eq (h : d.AtRest) : d.hangUp =
    let r := d.endpoint.hangUp d.clock
    (r.result, d.date r.journal, { d with endpoint := r.endpoint }) := by
  simp only [hangUp, hangUpBefore]
  rcases hresult : (d.endpoint.hangUp d.clock).result with fault | _
  · have hkind := ((h.reachable.parts d.clock).kind_ne hresult).1
    simp only [hkind, if_false]
  · rfl

/-- How a disconnect ends. It is tried once; then the device is not connected, and the peer was told
if someone receives its frames. -/
structure HangsUp (d : Device A) : Prop where
  once : d.hangUp =
    let r := d.endpoint.hangUp d.clock
    (r.result, d.date r.journal, { d with endpoint := r.endpoint })
  connected : d.endpoint.connection.isOpen = true →
    d.hangUp.1 = (if d.endpoint.link.attached then .ok ()
      else .error (.link (.failed "outbound channel closed"))) ∧
    d.hangUp.2.2.endpoint.connection.state = .closed
  unconnected : d.endpoint.connection.isOpen = false →
    d.hangUp.1 = .error .notConnected ∧ d.hangUp.2.2 = d
  kind_ne : ∀ fault, d.hangUp.1 = .error fault → fault.kind ≠ .slotBusy ∧ fault.kind ≠ .timeout

theorem AtRest.hangsUp (h : d.AtRest) : d.HangsUp := by
  have hparts := h.reachable.parts d.clock
  have honce := h.hangUp_eq
  refine ⟨honce, fun ho => ?_, fun ho => ?_, fun fault hfault => ?_⟩
  · rw [honce]
    exact hparts.connected ho
  · obtain ⟨hresult, hendpoint⟩ := hparts.unconnected ho
    rw [honce]
    exact ⟨hresult, congrArg (fun endpoint => { d with endpoint }) hendpoint⟩
  · rw [honce] at hfault
    exact hparts.kind_ne hfault

theorem AtRest.take (h : d.AtRest) : d.take.2.AtRest := by
  rcases hin : d.inbound with _ | ⟨frame, rest⟩
  · have htake : d.take = ([], d) := by rw [Device.take, hin]
    rwa [htake]
  · rw [h.take_eq hin]
    have hreachable := (h.reachable.given frame).run (.call (.serve d.clock) .start)
    rw [after, h.reachable.serve_given] at hreachable
    exact ⟨hreachable, rfl⟩

theorem AtRest.tick (h : d.AtRest) : d.tick.2.AtRest := by
  rw [h.tick_eq]
  refine ⟨h.reachable.run (.call (.poll d.clock) .start), ?_⟩
  exact (buffer_report (Turn.frugal_poll d.clock) d.endpoint).trans h.buffer_eq

theorem AtRest.hangUp (h : d.AtRest) : d.hangUp.2.2.AtRest := by
  rw [h.hangUp_eq]
  refine ⟨h.reachable.run (.call (.hangUp d.clock) .start), ?_⟩
  exact (buffer_report (Turn.frugal_hangUp d.clock) d.endpoint).trans h.buffer_eq

theorem AtRest.detach (h : d.AtRest) : d.detach.AtRest :=
  ⟨h.reachable.run (.outside _ d.endpoint.application d.endpoint.statistics .start), h.buffer_eq⟩

end Device

end BusTransport
