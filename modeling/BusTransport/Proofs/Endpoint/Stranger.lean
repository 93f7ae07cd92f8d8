import BusTransport.Proofs.Endpoint.Hearing

/-! # Frames of strangers

While a connection is open, a connection-oriented frame of another device than the peer changes
neither the connection nor its answers nor the application. It is answered at most by one disconnect
to its sender, and only if it asks for a connection.
-/

namespace BusTransport

open Endpoint in
/-- What a frame of a stranger leaves in the journal. -/
inductive Rebuff (own stranger : DeviceAddress) (field : ControlField) : List Activity → Prop
  | unheard : Rebuff own stranger field []
  | ignored : Rebuff own stranger field [.performed .ignore]
  | rejected {frame} : field = .connect → controlFrame own stranger .disconnect = .ok frame →
      Rebuff own stranger field [.offered frame none, .performed (.reject stranger)]
  | refused {frame fault} : field = .connect → controlFrame own stranger .disconnect = .ok frame →
      Rebuff own stranger field [.offered frame (some fault)]

namespace Connection

variable {c : Connection} {p s : DeviceAddress} {field : ControlField} {event : Event}

/-- Of all that a stranger can send only a connect is not ignored. -/
theorem react_stranger (hp : c.peer? = some p) (hs : s ≠ p) (he : field.event? s = some event)
    (hasRoom : Bool) :
    c.react hasRoom event = c.stay .ignore ∨
      field = .connect ∧ event = .connect s ∧ c.react hasRoom event = c.stay (.reject s) := by
  have hpeer : c.isPeer s = false := by
    rw [isPeer, hp]
    simpa using hs.symm
  have ho : c.state ≠ .closed := isOpen_iff.mp (isOpen_of_peer? hp)
  cases field with
  | connect =>
    cases he
    right
    simp [react, ho, hpeer]
  | unnumbered => cases he
  | _ =>
    cases he
    left
    simp [react, hpeer]

end Connection

namespace Turn

open Endpoint

variable {L A : Type}

/-- A turn has changed neither dialogue nor application, and added to the journal. -/
structure Unmoved (c c' : Course L A) (journal : List Activity) : Prop where
  dialogue_eq : c'.endpoint.dialogue = c.endpoint.dialogue
  application_eq : c'.endpoint.application = c.endpoint.application
  journal_eq : c'.journal = c.journal ++ journal

variable {c : Course L A} {event : Event} {t? : Option Telegram} {now : Instant}
  {s p : DeviceAddress} {field : ControlField}

theorem unmoved_of_drop {turn : Turn L A Disposition} {o : Occurrence}
    (h : turn.run c = (drop o).run c) : Unmoved c (turn.after c) [] := by
  rw [after_congr h]
  exact ⟨rfl, rfl, (List.append_nil _).symm⟩

variable [Link L] [Application A]

theorem unmoved_of_ignore
    (hr : c.endpoint.dialogue.react event = c.endpoint.connection.stay .ignore) :
    Unmoved c ((dispatch event t? now).after c) [.performed .ignore] := by
  rw [dispatch_of_ok hr rfl]
  exact ⟨rfl, rfl, rfl⟩

theorem unmoved_of_reject
    (hr : c.endpoint.dialogue.react (.connect s) = c.endpoint.connection.stay (.reject s)) :
    ∃ journal, Unmoved c ((dispatch (.connect s) t? now).after c) journal ∧
      Rebuff (Link.address c.endpoint.link) s .connect journal := by
  let c₀ : Course L A := { c with
    endpoint := { c.endpoint with statistics := c.endpoint.statistics.count .intrusion } }
  have hrun : (perform t? now (.reject s)).run c = (sendControl s .disconnect).run c₀ := by
    simp only [perform, run_bind, run_count, c₀]
  obtain ⟨frame, hf⟩ := exists_controlFrame (Link.address c.endpoint.link) s .disconnect
  rcases run_sendControl (c := c₀) hf with
    ⟨link, h⟩ | ⟨link, fault, h⟩ | ⟨slot, link, fault, -, h⟩
  · rw [dispatch_of_ok hr (hrun.trans h)]
    exact ⟨_, ⟨rfl, rfl, List.append_assoc ..⟩, .rejected rfl hf⟩
  · rw [dispatch_of_error hr (hrun.trans h)]
    exact ⟨_, ⟨rfl, rfl, rfl⟩, .refused rfl hf⟩
  · rw [dispatch_of_error hr (hrun.trans h)]
    exact ⟨_, ⟨rfl, rfl, (List.append_nil _).symm⟩, .unheard⟩

theorem unmoved_of_stranger (hp : c.endpoint.connection.peer? = some p) (hs : s ≠ p)
    (he : field.event? s = some event) :
    ∃ journal, Unmoved c ((dispatch event t? now).after c) journal ∧
      Rebuff (Link.address c.endpoint.link) s field journal := by
  rcases Connection.react_stranger hp hs he c.endpoint.answers.hasRoom with h | ⟨rfl, rfl, h⟩
  · exact ⟨_, unmoved_of_ignore h, .ignored⟩
  · exact unmoved_of_reject h

end Turn

namespace Endpoint

open Turn

variable {L A : Type} [Link L] {e : Endpoint L A} {call : Call} {frame : Frame} {t : Telegram}
  {field : ControlField} {p : DeviceAddress}

/-- A connection-oriented telegram of another device, for an endpoint with an open connection. -/
structure Strange (e : Endpoint L A) (p : DeviceAddress) (frame : Frame) (t : Telegram)
    (field : ControlField) : Prop where
  peer : e.connection.peer? = some p
  decoded : Telegram.decode frame = .ok t
  destination : t.destination = .individual (Link.address e.link)
  known : ControlField.decode t.tpci = .ok field
  connected : ∀ command, field ≠ .unnumbered command
  stranger : t.source ≠ p

theorem Strange.exists_event (h : e.Strange p frame t field) :
    ∃ event, field.event? t.source = some event := by
  cases field with
  | unnumbered command => exact absurd rfl (h.connected command)
  | _ => exact ⟨_, rfl⟩

variable [Application A]

theorem unmoved_of_strange (h : e.Strange p frame t field) (now : Instant) :
    ∃ journal,
      Unmoved { endpoint := e } ((Turn.receive frame now).after { endpoint := e }) journal ∧
      Rebuff e.own t.source field journal := by
  by_cases hrepeat : e.isRepeatOfLast t = true
  · refine ⟨[], unmoved_of_drop (o := .linkRepeatIgnored) ?_, .unheard⟩
    simp only [Turn.receive, h.decoded, run_bind, run_endpoint, hrepeat, if_true]
  have hfresh : e.isRepeatOfLast t = false := by simpa using hrepeat
  by_cases hcommand : field.isControl = false ∧ t.payload = []
  · refine ⟨[], unmoved_of_drop (o := .frameRejected) ?_, .unheard⟩
    simp [Turn.receive, h.decoded, route, h.destination, hfresh, h.known, hcommand]
  have hears : e.Hears frame t field :=
    ⟨h.decoded, hfresh, h.destination, h.known, fun hc hp => hcommand ⟨hc, hp⟩⟩
  rcases hf : e.wayOutFree with _ | _
  · obtain ⟨link, hrun⟩ := run_accept_of_occupied t field now hf
    rw [after_of_ok ((run_receive_of_hears hears now).trans hrun)]
    exact ⟨[], ⟨rfl, rfl, rfl⟩, .unheard⟩
  · obtain ⟨event, he⟩ := h.exists_event
    rw [after_receive_of_hears hears hf he now]
    have hp : (noted e t).connection.peer? = some p := h.peer
    obtain ⟨journal, hunmoved, hrebuff⟩ :=
      unmoved_of_stranger (c := { endpoint := noted e t }) hp h.stranger he
    exact ⟨journal, ⟨hunmoved.dialogue_eq, hunmoved.application_eq, hunmoved.journal_eq⟩, hrebuff⟩

structure Rebuffs (e : Endpoint L A) (call : Call) (s : DeviceAddress) (field : ControlField) :
    Prop where
  dialogue_eq : (e.after call).dialogue = e.dialogue
  application_eq : (e.after call).application = e.application
  journal : Rebuff e.own s field (e.journal call)

theorem rebuffs_of_strange (h : e.Strange p frame t field) (hframe : e.handed? call = some frame) :
    e.Rebuffs call t.source field := by
  obtain ⟨journal, hunmoved, hrebuff⟩ := unmoved_of_strange h call.now
  have hendpoint : (e.after (.receive frame call.now)) = _ := report_endpoint ..
  have hjournal : e.journal (.receive frame call.now) = _ := report_journal ..
  obtain ⟨hj, link, ha⟩ := after_handed hframe
  constructor
  · rw [ha]
    exact (congrArg dialogue hendpoint).trans hunmoved.dialogue_eq
  · rw [ha]
    exact (congrArg (·.application) hendpoint).trans hunmoved.application_eq
  · rw [hj, hjournal, hunmoved.journal_eq]
    exact hrebuff

end Endpoint

end BusTransport
