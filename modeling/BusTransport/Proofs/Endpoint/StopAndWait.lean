import BusTransport.Proofs.Endpoint.Posting
import BusTransport.Proofs.Endpoint.RequestOrder

/-! # Stop and wait

The answers to the requests of one connection leave in the order of the requests, under the numbers
from zero on. Each waits for the acknowledgement of the one before it. An answer that fits no
telegram is left out, and all others that have not left are queued while the connection is open.
-/

namespace BusTransport

variable {L A : Type} [Link L]

namespace Occasion

def acknowledges (peer : DeviceAddress) (o : Occasion L A) : Bool :=
  o.before.connection.state = .openWait ∧
    o.event? = some (.ack peer o.before.connection.sendSequence)

variable [Application A]

/-- The answers that left for the first time, with the address that they left from. -/
def firsts (o : Occasion L A) : List (DeviceAddress × Frame) :=
  (firstsIn o.event? o.journal).map (o.own, ·)

end Occasion

variable [Application A]

def firsts (os : List (Occasion L A)) : List (DeviceAddress × Frame) := os.flatMap Occasion.firsts

/-- The answers to accepted requests that have to leave, with their requests. -/
def owed (os : List (Occasion L A)) : List (Request × Answer) := fitting (exchanges os)

def acknowledgements (peer : DeviceAddress) (os : List (Occasion L A)) : Nat :=
  os.countP (·.acknowledges peer)

theorem firsts_concat (os : List (Occasion L A)) (o : Occasion L A) :
    firsts (os ++ [o]) = firsts os ++ o.firsts := by
  simp [firsts]

theorem owed_concat (os : List (Occasion L A)) (o : Occasion L A) :
    owed (os ++ [o]) = owed os ++ fitting o.accepted := by
  rw [owed, exchanges_concat, fitting, List.filterMap_append]
  rfl

/-- The books about the answers of one connection. -/
structure Ledger (peer : DeviceAddress) (os : List (Occasion L A)) (e : Endpoint L A) : Prop where
  /-- What left first is what was owed, encoded in order and numbered from zero on. -/
  encoded : ∀ i own frame, (firsts os)[i]? = some (own, frame) →
    ∃ r answer, (owed os)[i]? = some (r, answer) ∧
      Endpoint.answerFrame own peer r.priority
        (.numbered (Fin.ofNat 16 i) answer.commandHigh) answer = .ok frame
  /-- What is owed and has not left is queued while the connection is open. -/
  waiting : e.connection.isOpen = true →
    ((owed os).drop (firsts os).length).map queued = e.dialogue.unsent
  sendSequence : e.connection.sendSequence = Fin.ofNat 16 (acknowledgements peer os)
  settled : e.connection.state = .openIdle → (firsts os).length = acknowledgements peer os
  outstanding : e.connection.state = .openWait →
    (firsts os).length = acknowledgements peer os + 1

theorem firsts_concat_of_nil {os : List (Occasion L A)} {o : Occasion L A} (h : o.firsts = []) :
    firsts (os ++ [o]) = firsts os := by
  rw [firsts_concat, h, List.append_nil]

theorem owed_concat_of_nil {os : List (Occasion L A)} {o : Occasion L A} (h : o.accepted = []) :
    owed (os ++ [o]) = owed os := by
  rw [owed_concat, h]
  exact List.append_nil _

omit [Application A] in
theorem acknowledgements_concat (peer : DeviceAddress) (os : List (Occasion L A))
    (o : Occasion L A) :
    acknowledgements peer (os ++ [o]) =
      acknowledgements peer os + if o.acknowledges peer then 1 else 0 := by
  simp [acknowledgements, List.countP_cons]

namespace Ledger

variable {peer : DeviceAddress} {os : List (Occasion L A)} {o : Occasion L A} {e : Endpoint L A}

theorem length_firsts_le (h : Ledger peer os e) : (firsts os).length ≤ (owed os).length := by
  rcases Nat.lt_or_ge (owed os).length (firsts os).length with hlt | hge
  · obtain ⟨r, answer, hx, -⟩ := h.encoded _ _ _ (List.getElem?_eq_getElem hlt)
    exact absurd (List.getElem?_eq_some_iff.mp hx).1 (Nat.lt_irrefl _)
  · exact hge

theorem encoded_append (h : Ledger peer os e) (xs : List (Request × Answer)) {i : Nat}
    {own : DeviceAddress} {frame : Frame} (hi : (firsts os)[i]? = some (own, frame)) :
    ∃ r answer, (owed os ++ xs)[i]? = some (r, answer) ∧
      Endpoint.answerFrame own peer r.priority
        (.numbered (Fin.ofNat 16 i) answer.commandHigh) answer = .ok frame := by
  obtain ⟨r, answer, hx, hf⟩ := h.encoded i own frame hi
  refine ⟨r, answer, ?_, hf⟩
  rw [List.getElem?_append_left (List.getElem?_eq_some_iff.mp hx).1, hx]

theorem keep (h : Ledger peer os o.before) (hack : o.acknowledges peer = false)
    (hfirst : o.firsts = [])
    (hunsent : o.after.dialogue.unsent =
      o.before.dialogue.unsent ++ (fitting o.accepted).map queued)
    (hstate : o.after.connection.state = o.before.connection.state)
    (hseq : o.after.connection.sendSequence = o.before.connection.sendSequence) :
    Ledger peer (os ++ [o]) o.after := by
  have hfirsts : firsts (os ++ [o]) = firsts os := firsts_concat_of_nil hfirst
  have hacks : acknowledgements peer (os ++ [o]) = acknowledgements peer os := by
    rw [acknowledgements_concat, hack]
    rfl
  constructor
  · intro i own frame hi
    rw [hfirsts] at hi
    rw [owed_concat]
    exact h.encoded_append _ hi
  · intro ho
    have hb : o.before.connection.isOpen = true := by
      rwa [Connection.isOpen, hstate] at ho
    rw [hfirsts, owed_concat, List.drop_append_of_le_length h.length_firsts_le, List.map_append,
      h.waiting hb, hunsent]
  · rw [hseq, hacks]
    exact h.sendSequence
  · rw [hstate, hfirsts, hacks]
    exact h.settled
  · rw [hstate, hfirsts, hacks]
    exact h.outstanding

theorem close (h : Ledger peer os o.before) (hack : o.acknowledges peer = false)
    (hfirst : o.firsts = []) (hstate : o.after.connection.state = .closed)
    (hseq : o.after.connection.sendSequence = o.before.connection.sendSequence) :
    Ledger peer (os ++ [o]) o.after := by
  constructor
  · intro i own frame hi
    rw [firsts_concat_of_nil hfirst] at hi
    rw [owed_concat]
    exact h.encoded_append _ hi
  · intro ho
    exact absurd hstate (Connection.isOpen_iff.mp ho)
  · rw [hseq, acknowledgements_concat, hack]
    exact h.sendSequence
  · intro hs
    rw [hstate] at hs
    cases hs
  · intro hs
    rw [hstate] at hs
    cases hs

theorem send {entry : PendingAnswer} {frame : Frame} (h : Ledger peer os o.before)
    (hack : o.acknowledges peer = false) (hstate : o.before.connection.state = .openIdle)
    (hfirst : o.firsts = [(o.own, frame)]) (ha : o.accepted = [])
    (hunsent : o.before.dialogue.unsent =
      (entry.priority, entry.answer) :: o.after.dialogue.unsent)
    (hp : entry.destination = peer)
    (hf : o.before.dialogue.primaryFrame o.own entry = .ok frame)
    (hstate' : o.after.connection.state = .openWait)
    (hseq : o.after.connection.sendSequence = o.before.connection.sendSequence) :
    Ledger peer (os ++ [o]) o.after := by
  have howed : owed (os ++ [o]) = owed os := owed_concat_of_nil ha
  have hacks : acknowledgements peer (os ++ [o]) = acknowledgements peer os := by
    rw [acknowledgements_concat, hack]
    rfl
  have hlength := h.settled hstate
  have hwaiting := h.waiting (Connection.isOpen_of_openIdle hstate)
  rw [hunsent] at hwaiting
  obtain ⟨⟨r, answer⟩, rest, hdrop, hx, hrest⟩ := List.map_eq_cons_iff.mp hwaiting
  have hnext : (owed os)[(firsts os).length]? = some (r, answer) := by
    have h₀ := congrArg (·[0]?) hdrop
    simpa only [List.getElem?_drop, Nat.add_zero, List.getElem?_cons_zero] using h₀
  obtain ⟨hpriority, hanswer⟩ : r.priority = entry.priority ∧ answer = entry.answer := by
    simpa [queued] using hx
  constructor
  · intro i own frame' hi
    rw [firsts_concat, hfirst] at hi
    rw [howed]
    rcases Nat.lt_or_ge i (firsts os).length with hlt | hge
    · rw [List.getElem?_append_left hlt] at hi
      exact h.encoded i own frame' hi
    · rw [List.getElem?_append_right hge] at hi
      obtain ⟨hi₀, hx₀⟩ := List.getElem?_eq_some_iff.mp hi
      obtain rfl : i = (firsts os).length := by
        rw [List.length_singleton] at hi₀
        omega
      obtain ⟨rfl, rfl⟩ : o.own = own ∧ frame = frame' := by simpa using hx₀
      refine ⟨r, answer, hnext, ?_⟩
      rw [hpriority, hanswer, hlength, ← h.sendSequence, ← hp]
      exact hf
  · intro _
    rw [howed, firsts_concat, hfirst, List.length_append, List.length_singleton,
      ← List.tail_drop, hdrop]
    exact hrest
  · rw [hseq, hacks]
    exact h.sendSequence
  · intro hs
    rw [hstate'] at hs
    cases hs
  · intro _
    rw [firsts_concat, hfirst, hacks, List.length_append, hlength]
    rfl

theorem finish (h : Ledger peer os o.before) (hack : o.acknowledges peer = true)
    (hfirst : o.firsts = []) (ha : o.accepted = [])
    (hunsent : o.after.dialogue.unsent = o.before.dialogue.unsent)
    (hstate : o.before.connection.state = .openWait)
    (hstate' : o.after.connection.state = .openIdle)
    (hseq : o.after.connection.sendSequence =
      SequenceNumber.next o.before.connection.sendSequence) :
    Ledger peer (os ++ [o]) o.after := by
  have hfirsts : firsts (os ++ [o]) = firsts os := firsts_concat_of_nil hfirst
  have howed : owed (os ++ [o]) = owed os := owed_concat_of_nil ha
  have hacks : acknowledgements peer (os ++ [o]) = acknowledgements peer os + 1 := by
    rw [acknowledgements_concat, hack]
    rfl
  constructor
  · rw [hfirsts, howed]
    exact h.encoded
  · intro _
    rw [hfirsts, howed, hunsent]
    exact h.waiting (Connection.isOpen_of_openWait hstate)
  · rw [hseq, hacks, h.sendSequence, SequenceNumber.next_ofNat]
  · intro _
    rw [hfirsts, hacks]
    exact h.outstanding hstate
  · intro hs
    rw [hstate'] at hs
    cases hs

end Ledger

namespace Occasion

variable {peer : DeviceAddress} {o : Occasion L A}

omit [Application A] in
theorem unsent_ready (o : Occasion L A) : o.ready.unsent = o.before.dialogue.unsent := by
  unfold ready
  exact o.before.ready_induction o.call rfl (Dialogue.unsent_released _)

omit [Application A] in
theorem acknowledges_iff
    (hp : o.before.connection.isOpen = true → o.before.connection.peer? = some peer) :
    o.acknowledges peer = true ↔ o.ready.Acknowledges o.event? := by
  rw [acknowledges, decide_eq_true_iff, Dialogue.Acknowledges, o.ready_connection]
  constructor
  · rintro ⟨hs, he⟩
    exact ⟨hs, peer, hp (Connection.isOpen_of_openWait hs), he⟩
  · rintro ⟨hs, p, hpeer, he⟩
    obtain rfl : p = peer :=
      Option.some.inj (hpeer.symm.trans (hp (Connection.isOpen_of_peer? hpeer)))
    exact ⟨hs, he⟩

theorem posting (hr : o.before.Reachable) (ho : o.opens = false) :
    o.ready.Posting o.own o.event? o.journal o.after.dialogue :=
  o.effect.posting (o.consistent_ready hr) (o.open_or_closed ho)

theorem firsts_eq_nil (h : firstsIn o.event? o.journal = []) : o.firsts = [] := by
  rw [firsts, h, List.map_nil]

theorem firsts_of_opens (h : o.opens = true) : o.firsts = [] := by
  obtain ⟨p, he, hj, -⟩ := o.connect_of_opens h
  rw [firsts, he, hj]
  rfl

end Occasion

theorem ledger_opening {peer : DeviceAddress} {o : Occasion L A} (h : o.opens = true) :
    Ledger peer [o] o.after := by
  obtain ⟨p, he, hj, hd⟩ := o.connect_of_opens h
  have hfirsts : firsts [o] = [] := by simp [firsts, o.firsts_of_opens h]
  have howed : owed [o] = [] := by
    simp [owed, exchanges, fitting, Occasion.accepted, hj, acceptedIn, Activity.acceptance?]
  have hacks : acknowledgements peer [o] = 0 := by
    simp [acknowledgements, Occasion.acknowledges, he]
  constructor
  · intro i own frame hi
    rw [hfirsts, List.getElem?_nil] at hi
    cases hi
  · intro _
    rw [hfirsts, howed, hd]
    rfl
  · rw [hacks]
    exact congrArg (·.connection.sendSequence) hd
  · intro _
    rw [hfirsts, hacks]
    rfl
  · intro hs
    have hcontra : ConnectionState.openWait = .openIdle :=
      hs.symm.trans (congrArg (·.connection.state) hd)
    cases hcontra

theorem ledger_step {peer : DeviceAddress} {os : List (Occasion L A)} {o : Occasion L A}
    (hlife : Life peer os o.before) (ho : o.opens = false) (h : Ledger peer os o.before) :
    Ledger peer (os ++ [o]) o.after := by
  have hack := o.acknowledges_iff hlife.peer?_eq
  have hunsent := o.unsent_ready
  have hconnection := o.ready_connection
  have hposting := o.posting hlife.reachable ho
  cases hposting with
  | keep hn hf hu hs hseq =>
    rw [hunsent] at hu
    rw [hconnection] at hs hseq
    exact h.keep (by rwa [← Bool.not_eq_true, hack]) (o.firsts_eq_nil hf) hu hs hseq
  | close hn hf ha hs hseq =>
    rw [hconnection] at hseq
    exact h.close (by rwa [← Bool.not_eq_true, hack]) (o.firsts_eq_nil hf) hs hseq
  | @send entry frame hn hs hf ha hu hp hframe hs' hseq =>
    have hfirst : o.firsts = [(o.own, frame)] := by rw [Occasion.firsts, hf]; rfl
    have hopen : o.before.connection.isOpen = true :=
      Connection.isOpen_of_peer? (hconnection ▸ hp)
    have hdestination : entry.destination = peer := by
      rw [hconnection, hlife.peer?_eq hopen] at hp
      exact (Option.some.inj hp).symm
    rw [hunsent] at hu
    rw [Dialogue.primaryFrame, hconnection] at hframe
    rw [hconnection] at hs hseq
    exact h.send (by rwa [← Bool.not_eq_true, hack]) hs hfirst ha hu hdestination hframe hs' hseq
  | finish hn hf ha hu hs hseq =>
    rw [hunsent] at hu
    rw [hconnection] at hseq
    have hs' := hn.1
    rw [hconnection] at hs'
    exact h.finish (hack.mpr hn) (o.firsts_eq_nil hf) ha hu hs' hs hseq

theorem Life.ledger {peer : DeviceAddress} {os : List (Occasion L A)} {e : Endpoint L A}
    (h : Life peer os e) : Ledger peer os e := by
  refine h.induction (P := Ledger peer) ?_ ?_ ?_
  · intro o _ ho _
    exact ledger_opening ho
  · intro os e link application statistics ih
    exact ⟨ih.encoded, ih.waiting, ih.sendSequence, ih.settled, ih.outstanding⟩
  · intro os o hlife ho ih
    exact ledger_step hlife ho ih

theorem Occasion.state_of_firsts {o : Occasion L A} (hr : o.before.Reachable)
    (h : o.firsts ≠ []) : o.before.connection.state = .openIdle := by
  have ho : o.opens = false := by
    rw [← Bool.not_eq_true]
    exact fun ho => h (o.firsts_of_opens ho)
  cases o.posting hr ho with
  | keep _ hf => exact absurd (o.firsts_eq_nil hf) h
  | close _ hf => exact absurd (o.firsts_eq_nil hf) h
  | send _ hs => rwa [o.ready_connection] at hs
  | finish _ hf => exact absurd (o.firsts_eq_nil hf) h

namespace Life

variable {peer : DeviceAddress} {earlier between later : List (Occasion L A)}
  {o o₁ o₂ : Occasion L A} {e : Endpoint L A}

/-- Only the opening has nothing before it in a life. -/
theorem earlier_ne_nil (h : Life peer (earlier ++ o :: later) e) (ho : o.opens = false) :
    earlier ≠ [] := by
  rintro rfl
  obtain ⟨-, hopens⟩ := h
  exact nomatch hopens.symm.trans ho

theorem before_of_firsts (h : Life peer (earlier ++ o :: later) e) (ho : o.firsts ≠ []) :
    Life peer earlier o.before := by
  have hopens : o.opens = false := by
    rw [← Bool.not_eq_true]
    exact fun hopens => ho (o.firsts_of_opens hopens)
  exact h.before (h.earlier_ne_nil hopens)

/-- As often as an answer left for the first time, so often one was acknowledged before the next. -/
theorem acknowledgements_eq (h : Life peer (earlier ++ o :: later) e) (ho : o.firsts ≠ []) :
    (firsts earlier).length = acknowledgements peer earlier := by
  have hlife := h.before_of_firsts ho
  exact hlife.ledger.settled (o.state_of_firsts hlife.reachable ho)

theorem acknowledged_between (h : Life peer (earlier ++ o₁ :: between ++ o₂ :: later) e)
    (h₁ : o₁.firsts ≠ []) (h₂ : o₂.firsts ≠ []) :
    ∃ o ∈ between, o.before.connection.state = .openWait ∧
      o.event? = some (.ack peer (Fin.ofNat 16 (firsts earlier).length)) := by
  have hlife := h.before_of_firsts h₂
  have hcount₁ := hlife.acknowledgements_eq h₁
  have hcount₂ := h.acknowledgements_eq h₂
  have hack₁ : o₁.acknowledges peer = false := by
    have hs := o₁.state_of_firsts (hlife.before_of_firsts h₁).reachable h₁
    simp [Occasion.acknowledges, hs]
  have hpos : 0 < between.countP (·.acknowledges peer) := by
    have hlen := List.length_pos_iff.mpr h₁
    simp only [firsts, acknowledgements, List.flatMap_append, List.flatMap_cons,
      List.length_append, List.countP_append, List.countP_cons, hack₁, Bool.false_eq_true,
      if_false] at hcount₁ hcount₂
    omega
  -- the first acknowledgement after the earlier transmission is the one of its number
  obtain ⟨o, hfind⟩ : ∃ o, between.find? (·.acknowledges peer) = some o :=
    Option.isSome_iff_exists.mp (List.find?_isSome.mpr (List.countP_pos_iff.mp hpos))
  obtain ⟨hack, as, bs, rfl, has⟩ := List.find?_eq_some_iff_append.mp hfind
  have hbefore : Life peer (earlier ++ o₁ :: as) o.before := by
    rw [← List.cons_append, ← List.append_assoc] at hlife
    exact hlife.before (by simp)
  have hcount : acknowledgements peer (earlier ++ o₁ :: as) = (firsts earlier).length := by
    have hnone : as.countP (·.acknowledges peer) = 0 := by
      rw [List.countP_eq_zero]
      simpa using has
    rw [hcount₁]
    simp [acknowledgements, hack₁, hnone]
  have hseq := hbefore.ledger.sendSequence
  rw [hcount] at hseq
  rw [Occasion.acknowledges, decide_eq_true_iff, hseq] at hack
  exact ⟨o, by simp, hack⟩

theorem sendSequence_unmoved (h : Life peer (earlier ++ o :: later) e) (ho : o.opens = false)
    (hack : o.acknowledges peer = false) :
    o.after.connection.sendSequence = o.before.connection.sendSequence := by
  have hlife := h.before (h.earlier_ne_nil ho)
  have hposting := o.posting hlife.reachable ho
  rw [← o.ready_connection]
  cases hposting with
  | keep _ _ _ _ hseq => exact hseq
  | close _ _ _ _ hseq => exact hseq
  | send _ _ _ _ _ _ _ _ hseq => exact hseq
  | finish hn =>
    rw [(o.acknowledges_iff hlife.peer?_eq).mpr hn] at hack
    cases hack

end Life

/-- Answers leave one by one: each waits for the acknowledgement of the one before. -/
structure StopsAndWaits (peer : DeviceAddress) (os : List (Occasion L A)) (e : Endpoint L A) : Prop
    extends Ledger peer os e where
  /-- Between two first transmissions the first of them was acknowledged. -/
  acknowledged : ∀ earlier o₁ between o₂ later,
    os = earlier ++ o₁ :: between ++ o₂ :: later → o₁.firsts ≠ [] → o₂.firsts ≠ [] →
    ∃ o ∈ between, o.before.connection.state = .openWait ∧
      o.event? = some (.ack peer (Fin.ofNat 16 (firsts earlier).length))
  /-- After the opening only an acknowledgement moves the number. -/
  unmoved : ∀ o ∈ os, o.opens = false → o.acknowledges peer = false →
    o.after.connection.sendSequence = o.before.connection.sendSequence

theorem stopsAndWaits_of_life {peer : DeviceAddress} {os : List (Occasion L A)}
    {e : Endpoint L A} (h : Life peer os e) : StopsAndWaits peer os e := by
  refine ⟨h.ledger, ?_, ?_⟩
  · rintro earlier o₁ between o₂ later rfl h₁ h₂
    exact h.acknowledged_between h₁ h₂
  · intro o hmem ho hack
    obtain ⟨earlier, later, rfl⟩ := List.append_of_mem hmem
    exact h.sendSequence_unmoved ho hack

theorem stopsAndWaits_exchange : (firsts (Sample.host.history Sample.exchange)).length = 2 ∧
    StopsAndWaits Sample.guest (Sample.host.history Sample.exchange)
      (Sample.host.afterAll Sample.exchange) :=
  ⟨by decide, stopsAndWaits_of_life Sample.life⟩

end BusTransport
