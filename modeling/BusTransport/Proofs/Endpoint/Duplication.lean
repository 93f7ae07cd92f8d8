import BusTransport.Proofs.Endpoint.Accounting
import BusTransport.Proofs.Endpoint.Connecting
import BusTransport.Proofs.Endpoint.Recovery

/-! # Duplicates

Data that comes again after it was accepted is acknowledged again, once for every copy. Nothing else
comes of it, however many copies there are and whatever answers are sent and repeated in between.
-/

namespace BusTransport

theorem SequenceNumber.ne_next (n : SequenceNumber) : n ≠ next n := by
  revert n; decide

structure Telegram.Carries (own peer : DeviceAddress) (n : SequenceNumber) (t : Telegram) :
    Prop where
  destination : t.destination = .individual own
  source : t.source = peer
  known : ∃ high, ControlField.decode t.tpci = .ok (.numbered n high)
  command : t.payload ≠ []

/-- Whether the application hears of an activity. -/
def Activity.invokes : Activity → Bool
  | requested .. | groupDelivered _ | broadcastDelivered _ | closed _ => true
  | offered .. | performed _ => false

theorem acceptedIn_of_uninvoked {journal : List Activity}
    (h : journal.any Activity.invokes = false) : acceptedIn journal = [] := by
  rw [List.eq_nil_iff_forall_not_mem]
  rintro ⟨r, answer⟩ hmem
  have hinvokes := List.any_eq_false.mp h _ (mem_acceptedIn.mp hmem).1
  exact hinvokes rfl

/-- A frame holds the telegram of another one, without the mark of a repetition by the link. -/
def Copies (frame copy : Frame) : Prop :=
  ∃ t, Telegram.decode frame = .ok t ∧ Telegram.decode copy = .ok { t with repeated := false }

namespace Dialogue

open Endpoint Turn

variable {own : DeviceAddress} {now : Instant} {d d' : Dialogue} {event : Event}
  {event? : Option Event} {journal : List Activity} {max : UInt8} {frame : Frame} {r : Request}
  {answer : Option Answer}

theorem not_isAckFrame_of_told {p : DeviceAddress} {rest : List Activity} (h : Told own p rest)
    (hs : .offered frame none ∈ rest) : isAckFrame frame = false := by
  cases h with
  | sent hf =>
    obtain rfl : frame = _ := by simpa using hs
    exact (neutral_disconnect hf).1
  | refused => simp at hs
  | blocked => cases hs

theorem Move.data_of_ack (h : Move own now d event journal d') (hc : d.Consistent max)
    (hs : .offered frame none ∈ journal) (hack : isAckFrame frame = true) :
    ∃ p n, event = .data p n := by
  have hneutral (hn : isAckFrame frame = false) : ∃ p n, event = .data p n := by
    rw [hack] at hn
    cases hn
  cases h with
  | deliver | ackAgain | refuse => exact ⟨_, _, rfl⟩
  | closeAndTell _ _ ht => exact hneutral (not_isAckFrame_of_told ht (by simpa using hs))
  | sendAnswer _ _ hf =>
    obtain rfl : frame = _ := by simpa using hs
    exact hneutral (neutral_numbered hf).1
  | repeatAnswer _ _ _ hf =>
    obtain rfl : frame = _ := by simpa using hs
    exact hneutral (neutral_of_outstanding hc hf).1
  | reject _ _ hf =>
    obtain rfl : frame = _ := by simpa using hs
    exact hneutral (neutral_disconnect hf).1
  | ignore | connect | closeSilently | finishAnswer | refused => simp at hs
  | dropAnswer | halted | lost => cases hs

theorem Move.data_or_closed (h : Move own now d event journal d')
    (hi : journal.any Activity.invokes = true) :
    (∃ p n, event = .data p n) ∨ d'.connection.isOpen = false := by
  cases h with
  | deliver | ackAgain | refuse => exact .inl ⟨_, _, rfl⟩
  | closeSilently | closeAndTell => exact .inr rfl
  | _ => exact absurd hi Bool.false_ne_true

theorem Move.data_of_requested (h : Move own now d event journal d')
    (hr : .requested r answer ∈ journal) :
    event = .data r.source d.connection.receiveSequence ∧
      r.sequence = some d.connection.receiveSequence ∧
      d.connection.peer? = some r.source := by
  cases h with
  | @deliver p r' answer' _ _ hp _ hsource hsequence =>
    obtain ⟨rfl, rfl⟩ : r = r' ∧ answer = answer' := by simpa using hr
    subst hsource
    exact ⟨rfl, hsequence, hp⟩
  | closeAndTell _ _ ht => cases ht <;> simp at hr
  | _ => simp at hr

theorem Step.data_of_requested {n : SequenceNumber} (h : Step own now d event? journal d')
    (hr : .requested r answer ∈ journal) (hn : r.sequence = some n) :
    event? = some (.data r.source n) ∧ d.connection.peer? = some r.source := by
  cases h with
  | quiet hq =>
    have haccepted : (r, answer) ∈ acceptedIn journal := mem_acceptedIn.mpr ⟨hr, by rw [hn]; rfl⟩
    cases hq with
    | direct hnone | reply hnone =>
      obtain ⟨rfl, -⟩ : r = _ ∧ _ := by simpa using hr
      rw [hn] at hnone
      cases hnone
    | _ => simp at hr
  | move h =>
    obtain ⟨rfl, hsequence, hp⟩ := h.data_of_requested hr
    rw [Option.some.inj (hn.symm.trans hsequence)]
    exact ⟨rfl, hp⟩

end Dialogue

namespace Endpoint

open Turn Dialogue

variable {L A : Type} [Link L] {e : Endpoint L A} {own peer : DeviceAddress}
  {n : SequenceNumber} {now : Instant} {call : Call} {copy ack : Frame} {u : Telegram}

variable [Application A]

structure Expects (e : Endpoint L A) (peer : DeviceAddress) (n : SequenceNumber) : Prop where
  reachable : e.Reachable
  peer : e.connection.peer? = some peer
  number : e.connection.receiveSequence = SequenceNumber.next n

/-- What a copy of the last accepted data causes: an acknowledgement, and a new start of the idle
timer. -/
structure AcksAgain (e : Endpoint L A) (call : Call) (n : SequenceNumber) (ack : Frame) :
    Prop where
  consumed : e.outcome call = .ok (some .consumed)
  journal_eq : e.journal call = [.offered ack none, .performed (.ackAgain n)]
  dialogue_eq : (e.after call).dialogue = ⟨e.connection.touch call.now, e.answers⟩

theorem Expects.react (h : e.Expects peer n) (hasRoom : Bool) :
    e.connection.react hasRoom (.data peer n) = e.connection.stay (.ackAgain n) := by
  have hopen := Connection.isOpen_of_peer? h.peer
  have hpeer := (Connection.isPeer_iff e.connection peer).mpr h.peer
  have hcheck : e.connection.receiveWindow.check n = .duplicate := by
    have hexpected : e.connection.receiveWindow.expected = SequenceNumber.next n := h.number
    rw [ReceiveWindow.check, hexpected, if_neg (SequenceNumber.ne_next n),
      SequenceNumber.previous_next, if_pos rfl]
  simp only [Connection.react, hopen, hpeer, Bool.and_self, if_true, Connection.reactToData, hcheck]

theorem run_copy (h : e.Expects peer n) (hu : u.Carries own peer n) (hclear : u.repeated = false)
    (hdecode : Telegram.decode copy = .ok u) (hw : Link.Works own e.link)
    (hack : controlFrame own peer (.ack n) = .ok ack) (now : Instant) :
    ∃ link statistics, (Turn.receive copy now).run { endpoint := e } = .ok .consumed {
      endpoint := { noted e u with
        slot := ⟨.sending⟩, link, statistics, connection := e.connection.touch now }
      journal := [.offered ack none, .performed (.ackAgain n)] } := by
  obtain ⟨hf, hslot, hlink⟩ := settled_of_works h.reachable.slot_ne_acquired hw
  obtain ⟨high, hknown⟩ := hu.known
  have hfresh : e.isRepeatOfLast u = false := by rw [isRepeatOfLast, hclear, Bool.false_and]
  have haddress : Link.address e.link = own := hw.address_eq (.refl _)
  have hears : e.Hears copy u (.numbered n high) :=
    ⟨hdecode, hfresh, haddress ▸ hu.destination, hknown, fun _ => hu.command⟩
  have hevent : (ControlField.numbered n high).event? u.source = some (.data peer n) := by
    rw [hu.source]
    rfl
  have hpeer : (noted e u).connection.peer? = some peer := h.peer
  have hreact : (noted e u).connection.react (noted e u).answers.hasRoom (.data peer n) =
      (noted e u).connection.stay (.ackAgain n) := h.react _
  obtain ⟨link, statistics, hsent⟩ :=
    run_sendControl_of_works (c := { endpoint := noted e u }) hslot hlink hack
  have hperform := run_peer (c := { endpoint := noted e u }) hpeer
  refine ⟨link, statistics.count .duplicate, ?_⟩
  rw [run_receive_of_hears hears, run_accept_of_event now hf hevent]
  simp only [dispatch, perform, run_bind, run_endpoint, hreact, Connection.stay, hperform, hsent,
    run_count, run_updateConnection, run_record, run_pure]
  rfl

theorem Expects.acksAgain {frame : Frame} {t : Telegram} (h : e.Expects peer n)
    (ht : Telegram.decode frame = .ok t) (hcarries : t.Carries own peer n)
    (hframe : e.handed? call = some copy) (hcopy : Copies frame copy) (hw : Link.Works own e.link)
    (hack : controlFrame own peer (.ack n) = .ok ack) : e.AcksAgain call n ack := by
  obtain ⟨t', ht', hdecode⟩ := hcopy
  obtain rfl : t' = t := Except.ok.inj (ht'.symm.trans ht)
  have hcarries' : Telegram.Carries own peer n { t' with repeated := false } :=
    ⟨hcarries.destination, hcarries.source, hcarries.known, hcarries.command⟩
  obtain ⟨link, statistics, hrun⟩ := run_copy h hcarries' rfl hdecode hw hack call.now
  obtain ⟨hconsumed, hjournal, link', hafter⟩ := handed_of_run hframe hrun
  refine ⟨hconsumed, hjournal, ?_⟩
  rw [hafter]
  rfl

theorem Expects.of_acksAgain (h : e.Expects peer n) (hagain : e.AcksAgain call n ack) :
    (e.after call).Expects peer n := by
  have hconnection : (e.after call).connection = e.connection.touch call.now :=
    congrArg (·.connection) hagain.dialogue_eq
  refine ⟨h.reachable.run (.call call .start), ?_, ?_⟩
  · rw [hconnection]
    exact h.peer
  · rw [hconnection]
    exact h.number

theorem poll_cases (e : Endpoint L A) (now : Instant) : e.journal (.poll now) = [] ∨
    ∃ event, (∀ p m, event ≠ .data p m) ∧ Move e.own now (e.ready (.poll now)) event
      (e.journal (.poll now)) (e.after (.poll now)).dialogue := by
  rcases hdue : e.due? now with _ | event
  · exact .inl (journal_poll_of_not_due hdue)
  have hstep := (e.proceeds (.poll now)).step
  rw [show e.event? (.poll now) = some event from hdue] at hstep
  cases hstep with
  | move hmove => exact .inr ⟨event, fun p m h => due?_ne_data e now p m (h ▸ hdue), hmove⟩

theorem Reachable.poll_unacknowledging (hr : e.Reachable) {now : Instant} {frame : Frame}
    (hs : .offered frame none ∈ e.journal (.poll now)) : isAckFrame frame = false := by
  rcases e.poll_cases now with hj | ⟨event, hne, hmove⟩
  · rw [hj] at hs
    cases hs
  · by_contra hack
    have hc := consistent_ready hr.dialogue_consistent (.poll now)
    obtain ⟨p, m, hevent⟩ := hmove.data_of_ack hc hs (by simpa using hack)
    exact hne p m hevent

/-- Of a poll the application hears at most that the connection has ended. -/
theorem poll_unheard (ho : (e.after (.poll now)).connection.isOpen = true) :
    (e.journal (.poll now)).any Activity.invokes = false := by
  rcases e.poll_cases now with hj | ⟨event, hne, hmove⟩
  · rw [hj]
    rfl
  · by_contra hi
    rcases hmove.data_or_closed (by simpa using hi) with ⟨p, m, hevent⟩ | hclosed
    · exact hne p m hevent
    · exact Bool.false_ne_true (hclosed.symm.trans ho)

theorem Expects.of_poll (h : e.Expects peer n)
    (ho : (e.after (.poll now)).connection.isOpen = true) :
    (e.after (.poll now)).Expects peer n := by
  let o : Occasion L A := ⟨e, .poll now⟩
  have hopen : o.ready.connection.isOpen = true := by
    rw [o.ready_connection]
    exact Connection.isOpen_of_peer? h.peer
  refine ⟨h.reachable.run (.call (.poll now) .start), ?_, ?_⟩
  · have hpeer := o.effect.peer?_eq hopen ho
    rw [o.ready_connection] at hpeer
    exact hpeer.trans h.peer
  · rcases o.effect.receives (.inl hopen) with ⟨-, hn⟩ | ⟨r, answer, haccepts⟩
    · rw [o.ready_connection] at hn
      exact hn.trans h.number
    · obtain ⟨frame, -, hj⟩ := haccepts.journal_eq
      have huninvoked : o.journal.any Activity.invokes = false := poll_unheard ho
      rw [hj] at huninvoked
      cases huninvoked

end Endpoint

variable {L A : Type} [Link L] [Application A]

/-- A call in a burst of copies of a frame: a poll that leaves the connection open, or a copy that
arrives over a link that works. -/
inductive Occasion.InBurst (own : DeviceAddress) (frame : Frame) (o : Occasion L A) : Prop
  | poll {now} : o.call = .poll now → o.after.connection.isOpen = true → InBurst own frame o
  | copy {copy} : o.before.handed? o.call = some copy → Copies frame copy →
      Link.Works own o.before.link → InBurst own frame o

def handedIn (os : List (Occasion L A)) : Nat :=
  os.countP fun o => (o.before.handed? o.call).isSome

/-- The data that was last accepted on an open connection came in a frame, under a number. -/
structure LastData (own peer : DeviceAddress) (os : List (Occasion L A)) (e : Endpoint L A)
    (frame : Frame) (n : SequenceNumber) : Prop where
  life : Life peer os e
  isOpen : e.connection.isOpen = true
  accepted : ∃ earlier o later r answer, os = earlier ++ o :: later ∧
    o.before.handed? o.call = some frame ∧ Link.address o.before.link = own ∧
    .requested r answer ∈ o.journal ∧ r.sequence = some n ∧ exchanges later = []

structure Absorbs (ack : Frame) (n : SequenceNumber) (e : Endpoint L A)
    (os : List (Occasion L A)) (e' : Endpoint L A) : Prop where
  acks : (sentIn (journalOf os)).filter isAckFrame = List.replicate (handedIn os) ack
  duplicates :
    e'.statistics.duplicates = e.statistics.duplicates + UInt64.ofNat (handedIn os)
  uninvoked : (journalOf os).any Activity.invokes = false
  receiveSequence : e'.connection.receiveSequence = e.connection.receiveSequence
  acks_again : ∀ o ∈ os, (o.before.handed? o.call).isSome = true →
    o.before.AcksAgain o.call n ack

namespace LastData

variable {own peer : DeviceAddress} {os : List (Occasion L A)} {e : Endpoint L A} {frame : Frame}
  {n : SequenceNumber}

theorem carries_and_expects (h : LastData own peer os e frame n) :
    (∃ t, Telegram.decode frame = .ok t ∧ t.Carries own peer n) ∧ e.Expects peer n := by
  obtain ⟨earlier, o, later, r, answer, rfl, hframe, rfl, hr, hn, hlater⟩ := h.accepted
  obtain ⟨hevent, hpeer⟩ := (o.before.proceeds o.call).step.data_of_requested hr hn
  -- it is the last entry in the books
  have haccepted : o.accepted = [(r, answer)] := by
    have hmem : (r, answer) ∈ o.accepted := mem_acceptedIn.mpr ⟨hr, by rw [hn]; rfl⟩
    have hopen : o.ready.connection.isOpen = true := Connection.isOpen_of_peer? hpeer
    rcases o.effect.receives (.inl hopen) with ⟨hnone, -⟩ | ⟨r', answer', haccepts⟩
    · rw [Occasion.accepted, hnone] at hmem
      cases hmem
    · have heq : o.accepted = [(r', answer')] := haccepts.acceptedIn_eq
      rw [heq, List.mem_singleton] at hmem
      rw [heq, hmem]
  have hexchanges : exchanges (earlier ++ o :: later) = exchanges earlier ++ [(r, answer)] := by
    simp only [exchanges, List.flatMap_append, List.flatMap_cons] at hlater ⊢
    rw [hlater, haccepted, List.append_nil]
  obtain ⟨hsource, hnumber⟩ : r.source = peer ∧
      SequenceNumber.previous e.connection.receiveSequence = n := by
    rcases h.life.last_request with ⟨hnone, -⟩ | ⟨r', answer', hlast, hsource, hsequence⟩
    · rw [hexchanges] at hnone
      simp at hnone
    · rw [hexchanges, List.getLast?_concat] at hlast
      cases hlast
      exact ⟨hsource, Option.some.inj (hsequence.symm.trans hn)⟩
  subst hsource hnumber
  constructor
  · have hheard := (Endpoint.event?_of_handed hframe).symm.trans hevent
    obtain ⟨t, field, hears, hfield, -⟩ := Endpoint.exists_hears hheard
    have hcontrol := Turn.isControl_of_event? hfield
    refine ⟨t, hears.decoded, hears.destination, hcontrol.2, ?_, hears.command hcontrol.1⟩
    cases field with
    | numbered m high =>
      obtain ⟨-, rfl⟩ : t.source = r.source ∧ m = _ := by
        simpa [ControlField.event?] using hfield
      exact ⟨high, hears.known⟩
    | _ => cases hfield
  · exact ⟨h.life.reachable, h.life.peer?_eq h.isOpen, (SequenceNumber.next_previous _).symm⟩

end LastData

theorem isAckFrame_of_ack {own peer : DeviceAddress} {n : SequenceNumber} {ack : Frame}
    (h : Endpoint.controlFrame own peer (.ack n) = .ok ack) : isAckFrame ack = true :=
  Endpoint.isAckFrame_eq (Endpoint.fieldOf?_of_control rfl h)

section Burst

variable {own peer : DeviceAddress} {n : SequenceNumber} {frame ack : Frame} {t : Telegram}
  {e e' : Endpoint L A} {os : List (Occasion L A)} {o : Occasion L A}

structure Absorbed (ack : Frame) (n : SequenceNumber) (peer : DeviceAddress) (o : Occasion L A) :
    Prop where
  expects : o.after.Expects peer n
  acks : (sentIn o.journal).filter isAckFrame = List.replicate (handedIn [o]) ack
  uninvoked : o.journal.any Activity.invokes = false
  acks_again : (o.before.handed? o.call).isSome = true → o.before.AcksAgain o.call n ack

theorem absorbed_of_poll {now : Instant} (h : o.before.Expects peer n) (hcall : o.call = .poll now)
    (ho : o.after.connection.isOpen = true) : Absorbed ack n peer o := by
  obtain ⟨before, call⟩ := o
  subst hcall
  refine ⟨h.of_poll ho, ?_, Endpoint.poll_unheard ho, nofun⟩
  change _ = []
  rw [List.filter_eq_nil_iff]
  intro sent hmem
  obtain ⟨activity, hactivity, hsent⟩ := List.mem_filterMap.mp hmem
  cases activity with
  | offered sent' refusal =>
    cases refusal with
    | none =>
      cases hsent
      simp [h.reachable.poll_unacknowledging hactivity]
    | some fault => cases hsent
  | _ => cases hsent

theorem absorbed_of_copy {copy : Frame} (h : o.before.Expects peer n)
    (ht : Telegram.decode frame = .ok t) (hcarries : t.Carries own peer n)
    (hframe : o.before.handed? o.call = some copy) (hcopy : Copies frame copy)
    (hw : Link.Works own o.before.link)
    (hack : Endpoint.controlFrame own peer (.ack n) = .ok ack) : Absorbed ack n peer o := by
  have hagain := h.acksAgain ht hcarries hframe hcopy hw hack
  have hj : o.journal = _ := hagain.journal_eq
  refine ⟨h.of_acksAgain hagain, ?_, ?_, fun _ => hagain⟩
  · simp [hj, sentIn, Activity.sent?, handedIn, hframe, isAckFrame_of_ack hack]
  · rw [hj]
    rfl

theorem absorbed_of_inBurst (h : o.before.Expects peer n) (ht : Telegram.decode frame = .ok t)
    (hcarries : t.Carries own peer n) (hack : Endpoint.controlFrame own peer (.ack n) = .ok ack)
    (hburst : o.InBurst own frame) : Absorbed ack n peer o := by
  cases hburst with
  | poll hcall ho => exact absorbed_of_poll h hcall ho
  | copy hframe hcopy hw => exact absorbed_of_copy h ht hcarries hframe hcopy hw hack

/-- All calls of a burst, one after the other. -/
theorem Metered.absorbed (h : e.Expects peer n) (ht : Telegram.decode frame = .ok t)
    (hcarries : t.Carries own peer n) (hack : Endpoint.controlFrame own peer (.ack n) = .ok ack)
    (hrun : Metered e os e') (hburst : ∀ o ∈ os, o.InBurst own frame) :
    e'.Expects peer n ∧ ∀ o ∈ os, Absorbed ack n peer o := by
  induction hrun with
  | start => exact ⟨h, List.forall_mem_nil _⟩
  | outside link application hrun ih =>
    obtain ⟨hexpects, hall⟩ := ih hburst
    exact ⟨⟨hexpects.reachable.run (.outside link application _ .start), hexpects.peer,
      hexpects.number⟩, hall⟩
  | @call os e' call hrun ih =>
    obtain ⟨hexpects, hall⟩ := ih fun o hmem => hburst o (List.mem_append_left _ hmem)
    have hlast := absorbed_of_inBurst hexpects ht hcarries hack
      (hburst ⟨e', call⟩ (List.mem_append_right _ List.mem_cons_self))
    exact ⟨hlast.expects, List.forall_mem_append.mpr ⟨hall, List.forall_mem_singleton.mpr hlast⟩⟩

theorem acks_of_absorbed (h : ∀ o ∈ os, Absorbed ack n peer o) :
    (sentIn (journalOf os)).filter isAckFrame = List.replicate (handedIn os) ack := by
  induction os with
  | nil => rfl
  | cons o os ih =>
    obtain ⟨ho, hos⟩ := List.forall_mem_cons.mp h
    have hjournal : journalOf (o :: os) = o.journal ++ journalOf os := List.flatMap_cons
    have hcount : handedIn (o :: os) = handedIn [o] + handedIn os := by
      rw [handedIn, handedIn, handedIn, ← List.countP_append]
      rfl
    rw [hjournal, sentIn_append, List.filter_append, ho.acks, ih hos, hcount,
      List.replicate_append_replicate]

end Burst

/-- Copies of the last accepted data arrive over a working link, between polls that leave the
connection open. As many acknowledgements are sent, as many duplicates are counted, and the
application hears of nothing. -/
theorem absorbs_of_burst {own peer : DeviceAddress} {os os' : List (Occasion L A)}
    {e e' : Endpoint L A} {frame : Frame} {n : SequenceNumber}
    (h : LastData own peer os e frame n) (hrun : Metered e os' e')
    (hburst : ∀ o ∈ os', o.InBurst own frame) :
    ∃ ack, Endpoint.controlFrame own peer (.ack n) = .ok ack ∧ Absorbs ack n e os' e' := by
  obtain ⟨⟨t, ht, hcarries⟩, hexpects⟩ := h.carries_and_expects
  obtain ⟨ack, hack⟩ := Endpoint.exists_controlFrame own peer (.ack n)
  obtain ⟨hexpects', hall⟩ := hrun.absorbed hexpects ht hcarries hack hburst
  have hacks := acks_of_absorbed hall
  have huninvoked : (journalOf os').any Activity.invokes = false := by
    rw [journalOf, List.any_flatMap, List.any_eq_false]
    intro o hmem
    simp [(hall o hmem).uninvoked]
  refine ⟨ack, hack, hacks, ?_, huninvoked, hexpects'.number.trans hexpects.number.symm,
    fun o hmem => (hall o hmem).acks_again⟩
  obtain ⟨counted, hs, haccounts⟩ := hrun.exists_accounts hexpects.reachable
  have hcount : counted.count .duplicate = handedIn os' := by
    have hbooks := haccounts.acks
    rw [acceptedIn_of_uninvoked huninvoked, List.countP_eq_length_filter, hacks,
      List.length_replicate] at hbooks
    simpa using hbooks.symm
  rw [hs, ← hcount]
  exact Statistics.counter_countAll _ _ .duplicate

namespace Sample

def prelude : List Call := [.receive (control .connect) 0, .receive (request 0) 1]

/-- The request comes once more before its answer is sent, and once more after that. -/
def chorus : List Call := [.receive (request 0) 2, .poll 3, .receive (request 0) 4]

theorem lastData_prelude : LastData host.link.address guest (host.history prelude)
    (host.afterAll prelude) (request 0) 0 where
  life := Endpoint.life_history (reachable []) (by decide) (by decide) (by decide)
  isOpen := rfl
  accepted := ⟨[⟨host, .receive (control .connect) 0⟩], _, [],
    ⟨0x300, guest, some 0, .normal, []⟩, some ⟨0x340, []⟩, rfl, rfl, rfl, by decide, rfl, rfl⟩

theorem copies_request : Copies (request 0) (request 0) :=
  ⟨⟨.normal, false, guest, .individual host.link.address, Telegram.ownRoutingCounter,
    (ControlField.numbered 0 3).encode, [0], by decide⟩, rfl, rfl⟩

end Sample

open Sample in
theorem absorbs_chorus : ∃ e, LastData host.link.address guest (host.history prelude) e
      (request 0) 0 ∧
    (e.afterAll chorus).connection.state = .openWait ∧ handedIn (e.history chorus) = 2 ∧
    ∃ ack, Endpoint.controlFrame host.link.address guest (.ack 0) = .ok ack ∧
      Absorbs ack 0 e (e.history chorus) (e.afterAll chorus) := by
  refine ⟨host.afterAll prelude, lastData_prelude, rfl, rfl, ?_⟩
  refine absorbs_of_burst lastData_prelude (.history _ chorus) ?_
  have hworks {l : RecordingLink} (ha : l.address = host.link.address)
      (hl : l.sending = false) : Link.Works host.link.address l := ha ▸ RecordingLink.works hl
  intro o hmem
  simp only [chorus, Endpoint.history, List.mem_cons, List.not_mem_nil, or_false] at hmem
  rcases hmem with rfl | rfl | rfl
  · exact .copy rfl copies_request (hworks rfl rfl)
  · exact .poll rfl rfl
  · exact .copy rfl copies_request (hworks rfl rfl)

end BusTransport
