import BusTransport.Proofs.Endpoint.Effect
import BusTransport.Proofs.Outbound.QueueOrder

/-! # Consistency

Connection, answer queue, timers and counter agree with each other after every call. What they have
to say depends on the state of the connection, and every effect of a step keeps it so.
-/

namespace BusTransport

namespace Dialogue

/-- Nothing is left of a closed connection. -/
structure Vacant (d : Dialogue) : Prop where
  peer : d.connection.peer? = none
  answers : d.answers.entries = []
  idleTimer : d.connection.idleTimer.isRunning = false
  ackTimer : d.connection.ackTimer.isRunning = false
  count : d.connection.repeats.count = 0

/-- No answer was sent yet. -/
structure Listening (d : Dialogue) : Prop where
  peer : ∃ p, d.connection.peer? = some p
  answers : ∀ entry ∈ d.answers.entries, entry.Unsent
  idleTimer : d.connection.idleTimer.isRunning = true
  ackTimer : d.connection.ackTimer.isRunning = false
  count : d.connection.repeats.count = 0

/-- The primary answer was sent under the number that is outstanding, and no other answer was. -/
structure Waiting (d : Dialogue) : Prop where
  peer : ∃ p, d.connection.peer? = some p
  answers : ∃ entry rest frame, d.answers.entries = entry :: rest ∧ entry.phase = .sending ∧
    entry.frame? = some frame ∧ numberOf? frame = some d.connection.sendSequence ∧
    ∀ later ∈ rest, later.Unsent
  idleTimer : d.connection.idleTimer.isRunning = true
  ackTimer : d.connection.ackTimer.isRunning = true

structure Consistent (d : Dialogue) (maxRepetitions : UInt8) : Prop where
  closed : d.connection.state = .closed → d.Vacant
  openIdle : d.connection.state = .openIdle → d.Listening
  openWait : d.connection.state = .openWait → d.Waiting
  size_le : d.answers.size ≤ 2
  addressed : ∀ entry ∈ d.answers.entries, d.connection.peer? = some entry.destination
  limit_eq : d.connection.repeats.limit = maxRepetitions
  count_le : d.connection.repeats.count ≤ maxRepetitions

variable {own : DeviceAddress} {now : Instant} {d d' : Dialogue} {max : UInt8}
  {event? : Option Event} {journal : List Activity}

theorem consistent_released (h : d.Consistent max) : d.released.Consistent max := by
  constructor
  · intro hs
    obtain ⟨hp, ha, hi, hk, hc⟩ := h.closed hs
    exact ⟨hp, by simp [released, AnswerQueue.release, ha], hi, hk, hc⟩
  · intro hs
    obtain ⟨hp, ha, hi, hk, hc⟩ := h.openIdle hs
    refine ⟨hp, ?_, hi, hk, hc⟩
    intro entry hmem
    obtain ⟨entry', hmem', rfl⟩ := List.mem_map.mp hmem
    exact (ha entry' hmem').released
  · intro hs
    obtain ⟨hp, ⟨entry, rest, frame, hq, hphase, hf, hn, hr⟩, hi, hk⟩ := h.openWait hs
    have hq' : d.released.answers.entries = _ := congrArg (List.map _) hq
    have hphase' := AnswerPhase.released_eq_sending_iff.mpr hphase
    refine ⟨hp, ⟨_, _, frame, hq', hphase', hf, hn, ?_⟩, hi, hk⟩
    intro later hmem
    obtain ⟨later', hmem', rfl⟩ := List.mem_map.mp hmem
    exact (hr later' hmem').released
  · simpa [released, AnswerQueue.release, AnswerQueue.size] using h.size_le
  · intro entry hmem
    obtain ⟨entry', hmem', rfl⟩ := List.mem_map.mp hmem
    exact h.addressed entry' hmem'
  · exact h.limit_eq
  · exact h.count_le

theorem consistent_of_vacant (hs : d.connection.state = .closed) (hv : d.Vacant)
    (hlimit : d.connection.repeats.limit = max) : d.Consistent max := by
  constructor
  · exact fun _ => hv
  · rw [hs]; exact nofun
  · rw [hs]; exact nofun
  · simp [AnswerQueue.size, hv.answers]
  · simp [hv.answers]
  · exact hlimit
  · simp [hv.count]

theorem consistent_of_listening (hs : d.connection.state = .openIdle) (hl : d.Listening)
    (hsize : d.answers.size ≤ 2)
    (ha : ∀ entry ∈ d.answers.entries, d.connection.peer? = some entry.destination)
    (hlimit : d.connection.repeats.limit = max) : d.Consistent max := by
  constructor
  · rw [hs]; exact nofun
  · exact fun _ => hl
  · rw [hs]; exact nofun
  · exact hsize
  · exact ha
  · exact hlimit
  · simp [hl.count]

theorem consistent_of_waiting (hs : d.connection.state = .openWait) (hw : d.Waiting)
    (hsize : d.answers.size ≤ 2)
    (ha : ∀ entry ∈ d.answers.entries, d.connection.peer? = some entry.destination)
    (hlimit : d.connection.repeats.limit = max) (hcount : d.connection.repeats.count ≤ max) :
    d.Consistent max := by
  constructor
  · rw [hs]; exact nofun
  · rw [hs]; exact nofun
  · exact fun _ => hw
  · exact hsize
  · exact ha
  · exact hlimit
  · exact hcount

theorem consistent_calm {timer : Timer} (h : d.Consistent max)
    (ht : timer = d.connection.idleTimer ∨ d.connection.isOpen = true ∧ timer.isRunning = true) :
    Consistent ⟨{ d.connection with idleTimer := timer }, d.answers⟩ max := by
  rcases ht with rfl | ⟨ho, ht⟩
  · exact h
  rcases hs : d.connection.state with _ | _ | _
  · exact absurd hs (Connection.isOpen_iff.mp ho)
  · obtain ⟨hp, ha, -, hk, hc⟩ := h.openIdle hs
    exact consistent_of_listening hs ⟨hp, ha, ht, hk, hc⟩ h.size_le h.addressed h.limit_eq
  · obtain ⟨hp, ha, -, hk⟩ := h.openWait hs
    exact consistent_of_waiting hs ⟨hp, ha, ht, hk⟩ h.size_le h.addressed h.limit_eq h.count_le

theorem consistent_deliver {p : DeviceAddress} {r : Request} {n : SequenceNumber}
    (answer : Option Answer) (h : d.Consistent max) (hs : d.connection.state = .openIdle)
    (hp : d.connection.peer? = some p) (hroom : d.answers.hasRoom = true) (hr : r.source = p) :
    Consistent ⟨d.connection.acceptRequest n now, d.answers.add r answer⟩ max := by
  have hsize : d.answers.entries.length < 2 := AnswerQueue.hasRoom_iff.mp hroom
  obtain ⟨hpeer, ha, -, hk, hc⟩ := h.openIdle hs
  cases answer with
  | none =>
    exact consistent_of_listening hs ⟨hpeer, ha, rfl, hk, hc⟩ h.size_le h.addressed h.limit_eq
  | some answer =>
    refine consistent_of_listening hs ⟨hpeer, ?_, rfl, hk, hc⟩ ?_ ?_ h.limit_eq
    · exact List.forall_mem_append.mpr ⟨ha, List.forall_mem_singleton.mpr ⟨nofun, rfl⟩⟩
    · simp only [AnswerQueue.size, AnswerQueue.add, List.length_append, List.length_singleton]
      omega
    · have hlast : d.connection.peer? = some r.source := hr ▸ hp
      exact List.forall_mem_append.mpr ⟨h.addressed, List.forall_mem_singleton.mpr hlast⟩

theorem consistent_sendAnswer {entry : PendingAnswer} {rest : List PendingAnswer} {frame : Frame}
    (h : d.Consistent max) (hs : d.connection.state = .openIdle)
    (hq : d.answers.entries = entry :: rest) (hf : d.primaryFrame own entry = .ok frame) :
    Consistent ⟨{ d.connection.awaitAck now with state := .openWait },
      ⟨entry.sentAs frame :: rest⟩⟩ max := by
  obtain ⟨⟨p, hp⟩, ha, -, -, -⟩ := h.openIdle hs
  have hlast : d.connection.lastPeer = some p := by
    rw [← hp, Connection.peer?_of_isOpen (Connection.isOpen_of_openIdle hs)]
  have haddressed := h.addressed
  have hsize := h.size_le
  rw [hq] at ha haddressed
  rw [AnswerQueue.size, hq] at hsize
  refine consistent_of_waiting rfl ⟨⟨p, hlast⟩, ⟨_, _, frame, rfl, rfl, rfl, ?_, ?_⟩, rfl, rfl⟩
    hsize ?_ h.limit_eq (UInt8.zero_le)
  · exact Endpoint.numberOf?_numbered hf
  · exact fun later hmem => ha later (List.mem_cons_of_mem _ hmem)
  · intro entry' hmem
    rcases List.mem_cons.mp hmem with rfl | hmem
    · exact hlast.trans (hp.symm.trans (haddressed entry List.mem_cons_self))
    · exact hlast.trans (hp.symm.trans (haddressed entry' (List.mem_cons_of_mem _ hmem)))

/-- Whatever ends the primary answer, the next one moves up unsent. -/
theorem consistent_tail {c : Connection} (h : d.Consistent max)
    (ho : d.connection.isOpen = true) (hs : c.state = .openIdle)
    (hlast : c.lastPeer = d.connection.lastPeer) (hi : c.idleTimer.isRunning = true)
    (hk : c.ackTimer.isRunning = false) (hc : c.repeats.count = 0)
    (hlimit : c.repeats.limit = max)
    (ha : ∀ entry ∈ d.answers.entries.tail, entry.Unsent) :
    Consistent ⟨c, ⟨d.answers.entries.tail⟩⟩ max := by
  have hpeer : c.peer? = d.connection.peer? := by
    rw [Connection.peer?_of_isOpen ho,
      Connection.peer?_of_isOpen (Connection.isOpen_of_openIdle hs), hlast]
  have hp : ∃ p, c.peer? = some p := by
    rw [hpeer]
    rcases hd : d.connection.state with _ | _ | _
    · exact absurd hd (Connection.isOpen_iff.mp ho)
    · exact (h.openIdle hd).peer
    · exact (h.openWait hd).peer
  refine consistent_of_listening hs ⟨hp, ha, hi, hk, hc⟩ ?_ ?_ hlimit
  · have hsize := h.size_le
    simp only [AnswerQueue.size, List.length_tail] at hsize ⊢
    omega
  · intro entry hmem
    exact hpeer.trans (h.addressed entry (List.mem_of_mem_tail hmem))

theorem consistent_repeatAnswer (h : d.Consistent max) (hs : d.connection.state = .openWait)
    (hm : d.connection.mayRepeat = true) :
    Consistent ⟨d.connection.repeated now, d.answers⟩ max := by
  obtain ⟨hp, ha, -, -⟩ := h.openWait hs
  refine consistent_of_waiting hs ⟨hp, ha, rfl, rfl⟩ h.size_le h.addressed h.limit_eq ?_
  have hlt := (Repetitions.mayRepeat_iff _).mp hm
  have hcount := Repetitions.count_increment d.connection.repeats
  rw [h.limit_eq] at hlt
  change d.connection.repeats.increment.count ≤ max
  rw [UInt8.le_iff_toNat_le]
  omega

theorem Effect.consistent (heffect : Effect own now d event? journal d') (h : d.Consistent max) :
    d'.Consistent max := by
  cases heffect with
  | calm _ _ _ _ ht => exact consistent_calm h ht
  | connect hs =>
    exact consistent_of_listening rfl ⟨⟨_, rfl⟩, nofun, rfl, rfl, rfl⟩ (Nat.zero_le 2) nofun
      h.limit_eq
  | deliver hs hp hroom hsource => exact consistent_deliver _ h hs hp hroom hsource
  | close => exact consistent_of_vacant rfl ⟨rfl, rfl, rfl, rfl, rfl⟩ h.limit_eq
  | sendAnswer hs hq hf => exact consistent_sendAnswer h hs hq hf
  | dropAnswer hs hq =>
    obtain ⟨-, ha, hi, hk, hc⟩ := h.openIdle hs
    have htail := consistent_tail h (Connection.isOpen_of_openIdle hs) hs rfl hi hk hc h.limit_eq
      (fun entry hmem => ha entry (List.mem_of_mem_tail hmem))
    rwa [hq] at htail
  | finishAnswer hs hp =>
    obtain ⟨-, ⟨entry, rest, frame, hq, -, -, -, hr⟩, -, -⟩ := h.openWait hs
    refine consistent_tail h (Connection.isOpen_of_openWait hs) rfl rfl rfl rfl rfl h.limit_eq ?_
    rwa [hq]
  | repeatAnswer _ hs hm => exact consistent_repeatAnswer h hs hm

end Dialogue

namespace Endpoint

open Dialogue

variable {L A : Type} [Link L] [Application A] {e : Endpoint L A}

omit [Application A] in
theorem consistent_ready {max : UInt8} (h : e.dialogue.Consistent max) (call : Call) :
    (e.ready call).Consistent max :=
  e.ready_induction call h (consistent_released h)

omit [Link L] [Application A] in
theorem eq_of_create {link : L} {application : A} {profile : TransportProfile}
    (h : create link application profile = .ok e) :
    e = { link, application, profile, connection := .ofProfile profile } := by
  unfold create at h
  cases hv : profile.validate with
  | error fault => rw [hv] at h; cases h
  | ok _ => rw [hv] at h; cases h; rfl

theorem Reachable.dialogue_consistent (h : Reachable e) :
    e.dialogue.Consistent e.profile.maxRepetitions := by
  refine h.induction (P := fun e => e.dialogue.Consistent e.profile.maxRepetitions) ?_ ?_ ?_
  · intro link application profile e hc
    rw [eq_of_create hc]
    exact consistent_of_vacant rfl ⟨rfl, rfl, rfl, rfl, rfl⟩ rfl
  · intro e link application statistics hc
    exact hc
  · intro e call hc
    have hproceeds := e.proceeds call
    rw [hproceeds.profile_eq]
    exact hproceeds.step.effect.consistent (consistent_ready hc call)

theorem Reachable.slot_ne_acquired (h : Reachable e) : e.slot.state ≠ .acquired := by
  refine h.induction (P := fun e => e.slot.state ≠ .acquired) ?_ ?_ ?_
  · intro link application profile e hc
    rw [eq_of_create hc]
    exact nofun
  · intro e link application statistics hs
    exact hs
  · intro e call hs hc
    exact hs ((e.proceeds call).slot_acquired hc)

structure Consistent (e : Endpoint L A) : Prop where
  dialogue : e.dialogue.Consistent e.profile.maxRepetitions
  slot : e.slot.state ≠ .acquired

/-- Every endpoint is consistent between any two calls of any run. -/
theorem consistent_of_reachable (h : Reachable e) : e.Consistent :=
  ⟨h.dialogue_consistent, h.slot_ne_acquired⟩

theorem consistent_after_exchange :
    (Sample.host.afterAll Sample.exchange).connection.state = .openWait ∧
      (Sample.host.afterAll Sample.exchange).Consistent :=
  ⟨by decide, consistent_of_reachable (Sample.reachable Sample.exchange)⟩

end Endpoint

end BusTransport
