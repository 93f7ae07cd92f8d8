import BusTransport.Proofs.Endpoint.FaultOrigin
import BusTransport.Proofs.Endpoint.Recovery

/-! # Closings

A poll or the user can end a connection. Where the way out is clear, the connection is closed and
one disconnect is offered to the peer, whether or not the link accepts it.
-/

namespace BusTransport

namespace Endpoint

open Turn Link

variable {L A : Type} [Link L] {e : Endpoint L A}

/-- No control frame finds the way out occupied, once the endpoint has settled. -/
def WayClear (e : Endpoint L A) : Prop :=
  ∀ c : Course L A, c.endpoint.slot = e.settled.slot → c.endpoint.link = e.settled.link →
    ∀ destination field fault c', (sendControl destination field).run c ≠ .error (.busy fault) c'

theorem wayClear_of_free [Passive L] (hf : e.wayOutFree = true) : e.WayClear := by
  intro c hslot hlink destination field fault c' h
  obtain ⟨hfree, hfound⟩ := clear_settled hf
  have hclear : Clear c := ⟨hslot ▸ hfree, hlink ▸ hfound⟩
  have hexcused : Excused (fun _ _ => False) c'.journal (.busy fault) :=
    excusable_sendControl hclear destination field _ _ h
  cases hexcused

theorem wayClear_of_works {own : DeviceAddress} (hs : e.slot.state ≠ .acquired)
    (hw : Works own e.link) : e.WayClear := by
  intro c hslot hlink destination field fault c' h
  obtain ⟨-, hfree, hworks⟩ := settled_of_works hs hw
  rw [← hslot] at hfree
  rw [← hlink] at hworks
  obtain ⟨frame, hf⟩ := exists_controlFrame own destination field
  obtain ⟨link, statistics, hsent⟩ := run_sendControl_of_works hfree hworks hf
  cases hsent.symm.trans h

end Endpoint

namespace Turn

open Endpoint Link

variable {L A : Type} [Link L] [Application A] {c : Course L A} {event : Event}
  {p : DeviceAddress}

/-- The dispatch of an event that breaks a connection off closes it, and ends with what became of
the disconnect. -/
theorem run_dispatch_of_breaks (t? : Option Telegram) (now : Instant)
    (hb : c.endpoint.connection.Breaks event)
    (hp : c.endpoint.connection.peer? = some p)
    (hclear : ∀ fault c',
      (sendControl p .disconnect).run (closing p c) ≠ .error (.busy fault) c') :
    ∃ c' frame, c'.endpoint.dialogue = ⟨c.endpoint.connection.close, {}⟩ ∧
      controlFrame (Link.address c.endpoint.link) p .disconnect = .ok frame ∧
      ((dispatch event t? now).run c = .ok () c' ∧
          c'.journal = c.journal ++ [.closed p, .offered frame none, .performed .closeAndTell] ∨
        ∃ fault, (dispatch event t? now).run c = .error (.link fault) c' ∧
          c'.journal = c.journal ++ [.closed p, .offered frame (some fault)]) := by
  obtain ⟨frame, hf⟩ := exists_controlFrame (Link.address c.endpoint.link) p .disconnect
  have hr : c.endpoint.dialogue.react event = ⟨.closed, .closeAndTell⟩ :=
    (Connection.breaks_iff _).mp hb
  have hperform : (perform t? now .closeAndTell).run c =
      (sendControl p .disconnect).run (closing p c) := by
    simp only [perform, run_bind, run_peer hp, run_closeConnection]
  rcases run_sendControl (c := closing p c) hf with
    ⟨link, h⟩ | ⟨link, fault, h⟩ | ⟨slot, link, fault, -, h⟩
  · have hrun := run_dispatch_of_ok hr (hperform.trans h)
    exact ⟨_, frame, rfl, hf, .inl ⟨hrun, by simp [closing]⟩⟩
  · have hrun := run_dispatch_of_error hr (hperform.trans h)
    exact ⟨_, frame, rfl, hf, .inr ⟨fault, hrun, by simp [closing]⟩⟩
  · exact absurd h (hclear _ _)

end Turn

namespace Endpoint

open Turn Link

variable {L A : Type} [Link L] [Application A] {e : Endpoint L A} {call : Call} {event : Event}
  {now : Instant} {own p : DeviceAddress}

/-- How a call ends, and what it leaves in the journal, when it takes leave of a peer with one
disconnect. -/
inductive TakesLeave (own peer : DeviceAddress) :
    List Activity → Except Fault (Option Disposition) → Prop
  | accepted {frame} : controlFrame own peer .disconnect = .ok frame →
      TakesLeave own peer [.closed peer, .offered frame none, .performed .closeAndTell] (.ok none)
  | refused {frame fault} : controlFrame own peer .disconnect = .ok frame →
      TakesLeave own peer [.closed peer, .offered frame (some fault)] (.error (.link fault))

omit [Link L] [Application A] in
/-- The outcome of a leave is what became of the disconnect. -/
theorem TakesLeave.exists_offered {journal : List Activity}
    {outcome : Except Fault (Option Disposition)} (h : TakesLeave own p journal outcome) :
    ∃ frame refusal, .offered frame refusal ∈ journal ∧
      outcome = refusal.elim (.ok none) fun fault => .error (.link fault) := by
  cases h with
  | accepted => exact ⟨_, none, List.mem_cons_of_mem _ List.mem_cons_self, rfl⟩
  | refused => exact ⟨_, some _, List.mem_cons_of_mem _ List.mem_cons_self, rfl⟩

structure Closes (e : Endpoint L A) (call : Call) (peer : DeviceAddress) : Prop where
  leave : TakesLeave e.own peer (e.journal call) (e.outcome call)
  closed : (e.after call).connection.state = .closed
  vacant : (e.after call).dialogue.Vacant

theorem closes_of_run {turn : Turn L A Unit} {answers : AnswerQueue} {statistics : Statistics}
    (hclear : e.WayClear) (hb : e.connection.Breaks event) (hp : e.connection.peer? = some p)
    (hrun : turn.run { endpoint := e } = (dispatch event none call.now).run
      { endpoint := { e.settled with answers, statistics } })
    (hj : e.journal call = (turn.report e).journal)
    (ha : e.after call = (turn.report e).endpoint)
    (ho : e.outcome call = (turn.report e).result.map fun _ => none) : e.Closes call p := by
  let c : Course L A := { endpoint := { e.settled with answers, statistics } }
  have hb' : c.endpoint.connection.Breaks event := hb
  obtain ⟨c', frame, hd, hframe, hends⟩ :=
    run_dispatch_of_breaks none call.now hb' hp (hclear _ rfl rfl p .disconnect)
  have hclosed (hafter : (turn.report e).endpoint = c'.endpoint) :
      (e.after call).connection.state = .closed ∧ (e.after call).dialogue.Vacant := by
    have hd' : (e.after call).dialogue = ⟨e.connection.close, {}⟩ := by
      rw [ha, hafter]
      exact hd
    refine ⟨congrArg (·.connection.state) hd', ?_⟩
    rw [hd']
    exact Dialogue.vacant_close _
  rcases hends with ⟨h, hjournal⟩ | ⟨fault, h, hjournal⟩
  · have hreport := report_of_run_ok (hrun.trans h)
    obtain ⟨hs, hv⟩ := hclosed (by rw [hreport])
    refine ⟨?_, hs, hv⟩
    rw [hj, ho, hreport, hjournal]
    exact .accepted hframe
  · have hreport := report_of_run_error (hrun.trans h)
    obtain ⟨hs, hv⟩ := hclosed (by rw [hreport])
    refine ⟨?_, hs, hv⟩
    rw [hj, ho, hreport, hjournal]
    exact .refused hframe

theorem closes_poll (hclear : e.WayClear) (hdue : e.due? now = some event)
    (hb : e.connection.Breaks event) (hp : e.connection.peer? = some p) :
    e.Closes (.poll now) p :=
  closes_of_run hclear hb hp (run_poll_of_duty hdue) rfl rfl rfl

/-- A link that works refuses no frame of a call. -/
theorem accepted_of_works (hw : Works own e.link) {frame : Frame} {refusal : Option LinkFault}
    (h : .offered frame refusal ∈ e.journal call) : refusal = none := by
  have hmem := mem_offeringsIn.mpr h
  cases e.emission call with
  | nothing _ ho =>
    rw [ho] at hmem
    exact absurd hmem List.not_mem_nil
  | frame _ hread _ ho =>
    rw [ho, List.mem_singleton] at hmem
    rw [(Prod.mk.inj hmem).2]
    exact hw.refusal_eq hread _

theorem closes_hangUp (hclear : e.WayClear) (hf : e.wayOutFree = true)
    (hp : e.connection.peer? = some p) (now : Instant) : e.Closes (.hangUp now) p := by
  have ho := Connection.isOpen_of_peer? hp
  exact closes_of_run hclear (.hungUp ho) hp (run_hangUp_of_free now ho hf) rfl rfl rfl

end Endpoint

end BusTransport
