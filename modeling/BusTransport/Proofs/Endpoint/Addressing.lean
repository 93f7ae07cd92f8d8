import BusTransport.Proofs.Endpoint.Hearing
import BusTransport.Proofs.Endpoint.Life
import BusTransport.Proofs.Endpoint.WayOut
import BusTransport.Proofs.Wire.RoundTrip

/-! # Addressing

Every frame that an endpoint offers is meant for one device: the sender of the frame that it
answers, or the peer of the connection. It can be read on the bus, and names that device as its
destination unless the device has the address zero. Then the frame is read as a broadcast.
-/

namespace BusTransport

/-- A telegram as an endpoint sends it to a device. The address zero stands for all devices. -/
structure Telegram.SentTo (own destination : DeviceAddress) (t : Telegram) : Prop where
  source : t.source = own
  fresh : t.repeated = false
  routingCounter : t.routingCounter = 6
  destination : t.destination =
    if destination.raw = 0 then .broadcast else .individual destination

/-- A telegram that carries a control field and nothing else. -/
structure Telegram.Controls (field : ControlField) (t : Telegram) : Prop where
  priority : t.priority = .system
  payload : t.payload = []
  field : (ControlField.decode t.tpci).toOption = some field

namespace Endpoint

variable {own destination : DeviceAddress} {priority : Priority} {field : ControlField}
  {answer : Answer} {frame : Frame}

theorem decode_answerFrame (h : answerFrame own destination priority field answer = .ok frame) :
    ∃ t, Telegram.decode frame = .ok t ∧ t.SentTo own destination ∧ t.tpci = field.encode := by
  obtain ⟨hle, rfl⟩ := answerFrame_eq_ok_iff.mp h
  exact ⟨_, Telegram.decode_encode _,
    ⟨rfl, rfl, rfl, StandardFrame.received_individual destination⟩, rfl⟩

theorem decode_controlFrame (hc : field.isControl = true)
    (h : controlFrame own destination field = .ok frame) :
    ∃ t, Telegram.decode frame = .ok t ∧ t.SentTo own destination ∧ t.Controls field := by
  obtain rfl := controlFrame_eq_ok_iff.mp h
  exact ⟨_, Telegram.decode_encode _,
    ⟨rfl, rfl, rfl, StandardFrame.received_individual destination⟩,
    ⟨rfl, rfl, ControlField.decode_encode_of_isControl hc⟩⟩

end Endpoint

namespace Dialogue

open Endpoint

variable {own : DeviceAddress} {now : Instant} {d d' : Dialogue} {event : Event}
  {event? : Option Event} {journal : List Activity} {frame : Frame} {refusal : Option LinkFault}

/-- The frame is that of a queued answer, under some number. -/
def Bears (own : DeviceAddress) (entry : PendingAnswer) (frame : Frame) : Prop :=
  ∃ n, answerFrame own entry.destination entry.priority (.numbered n entry.answer.commandHigh)
    entry.answer = .ok frame

/-- The frames kept for repetition are those of their answers. -/
def Stores (own : DeviceAddress) (d : Dialogue) : Prop :=
  ∀ entry ∈ d.answers.entries, ∀ frame, entry.frame? = some frame → Bears own entry frame

inductive Posted (own : DeviceAddress) (d : Dialogue) (event? : Option Event)
    (journal : List Activity) (frame : Frame) : Prop
  | control {event p field} : event? = some event → ControlReply event p field →
      controlFrame own p field = .ok frame → Posted own d event? journal frame
  | farewell {p} : d.connection.peer? = some p → controlFrame own p .disconnect = .ok frame →
      Posted own d event? journal frame
  | answer {entry} : entry ∈ d.answers.entries → Bears own entry frame →
      Posted own d event? journal frame
  | direct {r answer} : event? = none → .requested r (some answer) ∈ journal →
      answerFrame own r.source r.priority (.unnumbered answer.commandHigh) answer = .ok frame →
      Posted own d event? journal frame

theorem posted_of_told {p : DeviceAddress} {rest journal' : List Activity}
    (hp : d.connection.peer? = some p) (h : Told own p rest)
    (hmem : .offered frame refusal ∈ rest) : Posted own d event? journal' frame := by
  cases h with
  | sent hf =>
    obtain rfl := eq_of_offered hmem rfl
    exact .farewell hp hf
  | refused hf =>
    obtain rfl := eq_of_offered hmem rfl
    exact .farewell hp hf
  | blocked => exact absurd hmem List.not_mem_nil

theorem mem_of_outstandingFrame (h : d.answers.outstandingFrame? = some frame) :
    ∃ entry ∈ d.answers.entries, entry.frame? = some frame := by
  rcases hq : d.answers.entries with _ | ⟨entry, rest⟩
  · simp [AnswerQueue.outstandingFrame?, AnswerQueue.primary?, hq] at h
  · exact ⟨entry, List.mem_cons_self, (AnswerQueue.outstandingFrame?_of_entries hq).symm.trans h⟩

theorem posted_of_outstanding (hstores : Stores own d)
    (h : d.answers.outstandingFrame? = some frame) : Posted own d event? journal frame := by
  obtain ⟨entry, hmem, hframe⟩ := mem_of_outstandingFrame h
  exact .answer hmem (hstores entry hmem frame hframe)

theorem posted_of_primary {entry : PendingAnswer} {rest : List PendingAnswer}
    (hq : d.answers.entries = entry :: rest) (hf : d.primaryFrame own entry = .ok frame) :
    Posted own d event? journal frame := by
  have hmem : entry ∈ d.answers.entries := by
    rw [hq]
    exact List.mem_cons_self
  exact .answer hmem ⟨_, hf⟩

theorem Needs.posted (hstores : Stores own d) (h : Needs own d event frame) :
    Posted own d (some event) journal frame := by
  cases h with
  | control _ hreply hf => exact .control rfl hreply hf
  | answer _ hq hf => exact posted_of_primary hq hf
  | repetition _ hf => exact posted_of_outstanding hstores hf

theorem Move.posted (hstores : Stores own d) (h : Move own now d event journal d')
    (hmem : .offered frame refusal ∈ journal) : Posted own d (some event) journal frame := by
  cases h with
  | closeAndTell _ hp ht =>
    rcases List.mem_cons.mp hmem with hclosed | hmem
    · cases hclosed
    · exact posted_of_told hp ht hmem
  | deliver _ _ _ _ _ hf | ackAgain _ _ hf =>
    obtain rfl := eq_of_offered hmem rfl
    exact .control rfl .ack hf
  | refuse _ _ _ hf =>
    obtain rfl := eq_of_offered hmem rfl
    exact .control rfl .nack hf
  | reject _ _ hf =>
    obtain rfl := eq_of_offered hmem rfl
    exact .control rfl .reject hf
  | sendAnswer _ hq hf =>
    obtain rfl := eq_of_offered hmem rfl
    exact posted_of_primary hq hf
  | repeatAnswer _ _ _ hf =>
    obtain rfl := eq_of_offered hmem rfl
    exact posted_of_outstanding hstores hf
  | refused hneeds =>
    obtain rfl := eq_of_offered hmem rfl
    exact hneeds.posted hstores
  | _ => simp at hmem

theorem Step.posted (hstores : Stores own d) (h : Step own now d event? journal d')
    (hmem : .offered frame refusal ∈ journal) : Posted own d event? journal frame := by
  cases h with
  | move h => exact h.posted hstores hmem
  | quiet h =>
    cases h with
    | reply _ hf =>
      obtain rfl := eq_of_offered hmem rfl
      exact .direct rfl List.mem_cons_self hf
    | _ => simp at hmem

/-- The frame of an answer is kept as soon as it has left. -/
theorem Effect.stores (hstores : Stores own d) (h : Effect own now d event? journal d') :
    Stores own d' := by
  intro entry hmem frame hframe
  cases h with
  | calm => exact hstores entry hmem frame hframe
  | connect => exact absurd hmem List.not_mem_nil
  | @deliver p r answer =>
    cases answer with
    | none => exact hstores entry hmem frame hframe
    | some answer =>
      rcases List.mem_append.mp hmem with hold | hnew
      · exact hstores entry hold frame hframe
      · obtain rfl := List.mem_singleton.mp hnew
        cases hframe
  | close => exact absurd hmem List.not_mem_nil
  | @sendAnswer primary rest _ _ hq hf =>
    rcases List.mem_cons.mp hmem with rfl | hlater
    · cases hframe
      exact ⟨_, hf⟩
    · refine hstores entry ?_ frame hframe
      rw [hq]
      exact List.mem_cons_of_mem _ hlater
  | dropAnswer _ hq =>
    refine hstores entry ?_ frame hframe
    rw [hq]
    exact List.mem_cons_of_mem _ hmem
  | finishAnswer => exact hstores entry (List.mem_of_mem_tail hmem) frame hframe
  | repeatAnswer => exact hstores entry hmem frame hframe

theorem stores_released (h : Stores own d) : Stores own d.released := by
  intro entry hmem frame hframe
  obtain ⟨entry', hmem', rfl⟩ := List.mem_map.mp hmem
  exact h entry' hmem' frame hframe

end Dialogue

namespace Endpoint

open Dialogue Turn

variable {L A : Type} [Link L] {e e₀ : Endpoint L A} {call : Call} {own p : DeviceAddress}
  {frame : Frame} {field : ControlField} {event : Event} {os : List (Occasion L A)}

theorem stores_ready (h : Stores own e.dialogue) (call : Call) : Stores own (e.ready call) :=
  e.ready_induction call h (stores_released h)

/-- Whoever is answered with a control frame has sent the frame that the call handed over. -/
theorem exists_handed_of_reply (he : e.event? call = some event)
    (hreply : ControlReply event p field) : ∃ frame t, e.handed? call = some frame ∧
      Telegram.decode frame = .ok t ∧ t.source = p := by
  rcases hframe : e.handed? call with _ | frame
  · cases call with
    | receive frame now => cases hframe
    | serve now =>
      rw [event?, show Link.received e.link = none from hframe] at he
      cases he
    | poll now =>
      have hdue : e.due? now = some event := he
      unfold due? at hdue
      split_ifs at hdue
      all_goals
        cases hdue
        cases hreply
    | hangUp now =>
      obtain ⟨-, hevent⟩ := Option.ite_none_right_eq_some.mp he
      cases hevent
      cases hreply
  · rw [event?_of_handed hframe] at he
    obtain ⟨t, heard, hears, hevent, -⟩ := exists_hears he
    refine ⟨frame, t, rfl, hears.decoded, ?_⟩
    cases hreply with
    | ack | nack => exact (isControl_of_event? hevent).2
    | reject =>
      cases heard <;> cases hevent
      rfl

variable [Application A]

theorem journal_eq_nil (hframe : e.handed? call = none) (he : e.event? call = none) :
    e.journal call = [] := by
  cases call with
  | receive frame now => cases hframe
  | serve now => simp only [journal, serve, show Link.received e.link = none from hframe]
  | poll now =>
    refine (report_journal ..).trans ?_
    rcases hf : e.wayOutFree with _ | _
    · obtain ⟨link, hrun⟩ := run_poll_of_occupied now hf
      rw [after_of_ok hrun]
    · rw [after_of_ok (run_poll_of_not_due hf he)]
  | hangUp now =>
    refine (report_journal ..).trans ?_
    rcases ho : e.connection.isOpen with _ | _
    · rw [after_of_error (run_hangUp_of_closed now ho)]
    rcases hf : e.wayOutFree with _ | _
    · obtain ⟨link, hrun⟩ := run_hangUp_of_occupied now ho hf
      rw [after_of_error hrun]
    · simp [event?, ho, hf] at he

/-- A request that comes with no event is read from the frame that the call handed over. -/
theorem exists_handed_of_requested {r : Request} {answer : Option Answer}
    (he : e.event? call = none) (h : .requested r answer ∈ e.journal call) :
    ∃ frame t, e.handed? call = some frame ∧ Telegram.decode frame = .ok t ∧
      t.source = r.source := by
  rcases hframe : e.handed? call with _ | frame
  · rw [journal_eq_nil hframe he] at h
    exact absurd h List.not_mem_nil
  have hj : e.journal call = ((Turn.receive frame call.now).after { endpoint := e }).journal :=
    (after_handed hframe).1.trans (report_journal ..)
  rw [event?_of_handed hframe] at he
  rw [hj] at h
  rcases consumed_or_hears e frame call.now with ⟨c, hrun, hnone⟩ | ⟨t, field, hears⟩
  · rw [after_of_ok hrun] at h
    exact absurd h (hnone r answer)
  refine ⟨frame, t, rfl, hears.decoded, ?_⟩
  have hrun := run_receive_of_hears hears call.now
  rcases hf : e.wayOutFree with _ | _
  · obtain ⟨link, haccept⟩ := run_accept_of_occupied t field call.now hf
    rw [after_of_ok (hrun.trans haccept)] at h
    exact absurd h List.not_mem_nil
  · rw [heard?_of_hears hears hf] at he
    obtain ⟨r', hr'⟩ := exists_request (hears.command (isControl_of_unconnected he)) none
    obtain ⟨journal, hleads, hreply⟩ :=
      replyDirectly_leads (c := { endpoint := noted e t }) hr'
    have hafter := after_congr (hrun.trans (run_accept_of_unconnected call.now hf he))
    rw [hafter.trans (after_bind_pure ..), hleads.journal_eq] at h
    obtain rfl := hreply.eq_of_requested h
    exact (Request.source_of_telegram hr').symm

/-- Under one address all frames kept for repetition bear that address. -/
theorem stores_of_run {link : L} {application : A} {profile : TransportProfile}
    (hc : create link application profile = .ok e₀) (hrun : Run e₀ os e)
    (howns : ∀ o ∈ os, o.own = own) : Stores own e.dialogue := by
  induction hrun with
  | start =>
    rw [eq_of_create hc]
    exact nofun
  | outside _ _ _ _ ih => exact ih howns
  | @call os e call _ ih =>
    obtain ⟨hearlier, hlast⟩ := List.forall_mem_append.mp howns
    have hown : e.own = own := hlast _ (List.mem_singleton.mpr rfl)
    have heffect := (e.proceeds call).step.effect
    rw [hown] at heffect
    exact heffect.stores (stores_ready (ih hearlier) call)

end Endpoint

variable {L A : Type} [Link L]

inductive Occasion.Addresses (o : Occasion L A) (t : Telegram) : DeviceAddress → Prop
  /-- Data is acknowledged or refused, and a connect rejected. -/
  | control {frame heard event field} : o.before.handed? o.call = some frame →
      Telegram.decode frame = .ok heard → o.event? = some event →
      ControlReply event heard.source field → t.Controls field → Addresses o t heard.source
  | farewell {p} : o.before.connection.peer? = some p → t.Controls .disconnect → Addresses o t p
  /-- An answer to connected data, or its repetition. -/
  | answer {p n high} : o.before.connection.peer? = some p →
      (ControlField.decode t.tpci).toOption = some (.numbered n high) → Addresses o t p
  /-- An answer to unconnected data. -/
  | direct {frame heard high} : o.before.handed? o.call = some frame →
      Telegram.decode frame = .ok heard →
      (ControlField.decode t.tpci).toOption = some (.unnumbered high) → Addresses o t heard.source

namespace Endpoint

open Dialogue

variable [Application A] {e e₀ : Endpoint L A} {os : List (Occasion L A)} {o : Occasion L A}
  {own : DeviceAddress} {frame : Frame} {refusal : Option LinkFault}

/-- Every frame that is offered to the link can be read, and is meant for one device. -/
theorem addressed_of_run {link : L} {application : A} {profile : TransportProfile}
    (hc : create link application profile = .ok e₀) (hrun : Run e₀ os e)
    (howns : ∀ o ∈ os, o.own = own) (ho : o ∈ os) (h : .offered frame refusal ∈ o.journal) :
    ∃ t p, Telegram.decode frame = .ok t ∧ t.SentTo own p ∧ o.Addresses t p := by
  obtain rfl := howns o ho
  obtain ⟨earlier, later, rfl⟩ := List.append_of_mem ho
  have hbefore := hrun.split.1
  have hconsistent := Occasion.consistent_ready (o := o) ⟨hc, hbefore⟩
  have hstores := stores_of_run hc hbefore fun o' ho' => howns o' (List.mem_append_left _ ho')
  have hstep := (o.before.proceeds o.call).step
  cases hstep.posted (stores_ready hstores o.call) h with
  | control he hreply hf =>
    obtain ⟨t, ht, hsent, hcontrols⟩ := decode_controlFrame hreply.isControl hf
    obtain ⟨handed, heard, hframe, hheard, rfl⟩ := exists_handed_of_reply he hreply
    exact ⟨t, _, ht, hsent, .control hframe hheard he hreply hcontrols⟩
  | farewell hp hf =>
    obtain ⟨t, ht, hsent, hcontrols⟩ := decode_controlFrame rfl hf
    rw [show (o.before.ready o.call).connection = _ from o.ready_connection] at hp
    exact ⟨t, _, ht, hsent, .farewell hp hcontrols⟩
  | @answer entry hmem hbears =>
    obtain ⟨n, hf⟩ := hbears
    obtain ⟨t, ht, hsent, htpci⟩ := decode_answerFrame hf
    have hp := hconsistent.addressed _ hmem
    rw [o.ready_connection] at hp
    have hfield := ControlField.decode_encode_numbered n entry.answer.commandHigh
    rw [← htpci] at hfield
    exact ⟨t, _, ht, hsent, .answer hp hfield⟩
  | @direct r answer he hmem hf =>
    obtain ⟨t, ht, hsent, htpci⟩ := decode_answerFrame hf
    obtain ⟨handed, heard, hframe, hheard, hsource⟩ := exists_handed_of_requested he hmem
    rw [← hsource] at hsent
    have hfield := ControlField.decode_encode_unnumbered answer.commandHigh
    rw [← htpci] at hfield
    exact ⟨t, _, ht, hsent, .direct hframe hheard hfield⟩

end Endpoint

open Sample in
theorem addressed_exchange : ∃ o ∈ host.history exchange, ∃ frame,
    .offered frame none ∈ o.journal ∧
    ∃ t p, Telegram.decode frame = .ok t ∧ t.SentTo host.link.address p ∧ o.Addresses t p := by
  let o : Occasion RecordingLink Responder :=
    ⟨host.after (.receive (Sample.control .connect) 0), .receive (request 0) 1⟩
  have howns : ∀ o ∈ host.history exchange, o.own = host.link.address := by decide
  have ho : o ∈ host.history exchange := List.mem_cons_of_mem _ List.mem_cons_self
  have hoffered : ∃ frame, .offered frame none ∈ o.journal := ⟨_, List.mem_cons_self⟩
  obtain ⟨frame, hoffered⟩ := hoffered
  exact ⟨o, ho, frame, hoffered, Endpoint.addressed_of_run create_host
    (host.run_history exchange) howns ho hoffered⟩

namespace Sample

/-- A device without an address connects to the host and asks for something. -/
def nameless : List Call := [
  .receive ((Endpoint.controlFrame ⟨0⟩ host.link.address .connect).toOption.getD []) 0,
  .receive ((Endpoint.answerFrame ⟨0⟩ host.link.address .normal (.numbered 0 3)
    ⟨0x300, []⟩).toOption.getD []) 1]

end Sample

open Sample in
/-- The acknowledgement for a peer with the address zero is read as a broadcast. -/
theorem broadcast_nameless : ∃ o ∈ host.history nameless, ∃ frame t,
    o.before.connection.peer? = some ⟨0⟩ ∧ .offered frame none ∈ o.journal ∧
    Telegram.decode frame = .ok t ∧ t.Controls (.ack 0) ∧ t.destination = .broadcast := by
  refine ⟨_, List.mem_cons_of_mem _ List.mem_cons_self, _, _, rfl, List.mem_cons_self, rfl, ?_, rfl⟩
  exact ⟨rfl, rfl, rfl⟩

end BusTransport
