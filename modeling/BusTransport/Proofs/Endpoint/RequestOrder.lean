import BusTransport.Proofs.Endpoint.Life

/-! # Order of requests

On one connection the application gets the requests of the peer each once and in order of their
numbers, and the number expected next tells how many it got.
-/

namespace BusTransport

theorem mem_acceptedIn {journal : List Activity} {r : Request} {answer : Option Answer} :
    (r, answer) ∈ acceptedIn journal ↔
      .requested r answer ∈ journal ∧ r.sequence.isSome = true := by
  rw [acceptedIn, List.mem_filterMap]
  constructor
  · rintro ⟨activity, hmem, h⟩
    cases activity with
    | requested r' answer' =>
      simp only [Activity.acceptance?] at h
      split_ifs at h with hsome
      · cases h
        exact ⟨hmem, hsome⟩
    | offered frame refusal => cases h
    | groupDelivered t => cases h
    | broadcastDelivered t => cases h
    | closed p => cases h
    | performed action => cases h
  · rintro ⟨hmem, hsome⟩
    exact ⟨_, hmem, by simp [Activity.acceptance?, hsome]⟩

namespace Dialogue

open Endpoint

variable {own : DeviceAddress} {now : Instant} {d d' : Dialogue} {event? : Option Event}
  {journal : List Activity}

structure Accepts (own : DeviceAddress) (d : Dialogue) (journal : List Activity) (d' : Dialogue)
    (r : Request) (answer : Option Answer) : Prop where
  peer : d.connection.peer? = some r.source
  sequence : r.sequence = some d.connection.receiveSequence
  journal_eq : ∃ frame,
    controlFrame own r.source (.ack d.connection.receiveSequence) = .ok frame ∧
      journal = [.offered frame none, .requested r answer,
        .performed (.deliver d.connection.receiveSequence)]
  next : d'.connection.receiveSequence = SequenceNumber.next d.connection.receiveSequence

theorem receiveSequence_acceptRequest (c : Connection) (now : Instant) :
    (c.acceptRequest c.receiveSequence now).receiveSequence =
      SequenceNumber.next c.receiveSequence := by
  simp [Connection.acceptRequest, Connection.touch, Connection.receiveSequence,
    ReceiveWindow.accept]

/-- The receive window moves only with a request that is handed over. -/
theorem Effect.receives (h : Effect own now d event? journal d')
    (ho : d.connection.isOpen = true ∨ d'.connection.isOpen = false) :
    acceptedIn journal = [] ∧
        d'.connection.receiveSequence = d.connection.receiveSequence ∨
      ∃ r answer, Accepts own d journal d' r answer := by
  cases h with
  | calm _ ha => exact .inl ⟨ha, rfl⟩
  | connect hs =>
    rcases ho with ho | ho
    · exact absurd hs (Connection.isOpen_iff.mp ho)
    · cases ho
  | deliver _ hp _ hsource hsequence hf =>
    subst hsource
    exact .inr ⟨_, _, hp, hsequence, ⟨_, hf, rfl⟩, receiveSequence_acceptRequest ..⟩
  | close _ _ ha => exact .inl ⟨ha, rfl⟩
  | sendAnswer => exact .inl ⟨rfl, rfl⟩
  | dropAnswer => exact .inl ⟨rfl, rfl⟩
  | finishAnswer => exact .inl ⟨rfl, rfl⟩
  | repeatAnswer => exact .inl ⟨rfl, rfl⟩

theorem Accepts.acceptedIn_eq {r : Request} {answer : Option Answer}
    (h : Accepts own d journal d' r answer) : acceptedIn journal = [(r, answer)] := by
  obtain ⟨frame, -, hj⟩ := h.journal_eq
  rw [hj]
  exact acceptedIn_deliver h.sequence _ _ _

end Dialogue

variable {L A : Type} [Link L] [Application A]

def exchanges (os : List (Occasion L A)) : List (Request × Option Answer) :=
  os.flatMap Occasion.accepted

/-- The requests of a peer were handed over once and in order, each after its acknowledgement. -/
structure InOrder (peer : DeviceAddress) (os : List (Occasion L A)) (e : Endpoint L A) :
    Prop where
  source : ∀ x ∈ exchanges os, x.1.source = peer
  sequence : (exchanges os).map (·.1.sequence) =
    (List.range (exchanges os).length).map fun n => some (Fin.ofNat 16 n)
  acknowledged : ∀ o ∈ os, ∀ r answer n, .requested r answer ∈ o.journal → r.sequence = some n →
    ∃ frame, Endpoint.controlFrame o.own peer (.ack n) = .ok frame ∧
      o.journal = [.offered frame none, .requested r answer, .performed (.deliver n)]
  receiveSequence : e.connection.receiveSequence = Fin.ofNat 16 (exchanges os).length

theorem exchanges_concat (os : List (Occasion L A)) (o : Occasion L A) :
    exchanges (os ++ [o]) = exchanges os ++ o.accepted := by
  simp [exchanges]

namespace InOrder

variable {peer : DeviceAddress} {os : List (Occasion L A)} {o : Occasion L A}

theorem quiet (h : InOrder peer os o.before) (ha : o.accepted = [])
    (hn : o.after.connection.receiveSequence = o.before.connection.receiveSequence) :
    InOrder peer (os ++ [o]) o.after := by
  have hx : exchanges (os ++ [o]) = exchanges os := by
    rw [exchanges_concat, ha, List.append_nil]
  constructor
  · rw [hx]
    exact h.source
  · rw [hx]
    exact h.sequence
  · intro o' hmem r answer n hr hn'
    rcases List.mem_append.mp hmem with hmem | hmem
    · exact h.acknowledged o' hmem r answer n hr hn'
    · obtain rfl := List.mem_singleton.mp hmem
      have haccepted : (r, answer) ∈ o'.accepted := mem_acceptedIn.mpr ⟨hr, by rw [hn']; rfl⟩
      rw [ha] at haccepted
      exact absurd haccepted List.not_mem_nil
  · rw [hx, hn]
    exact h.receiveSequence

theorem accept {r : Request} {answer : Option Answer} (h : InOrder peer os o.before)
    (hp : o.before.connection.peer? = some peer)
    (ha : Dialogue.Accepts o.own o.ready o.journal o.after.dialogue r answer) :
    InOrder peer (os ++ [o]) o.after := by
  have hx : exchanges (os ++ [o]) = exchanges os ++ [(r, answer)] := by
    rw [exchanges_concat, Occasion.accepted, ha.acceptedIn_eq]
  obtain ⟨hpeer, hsequence, ⟨frame, hf, hj⟩, hnext⟩ := ha
  rw [o.ready_connection] at hpeer hsequence hf hj hnext
  obtain rfl : r.source = peer := Option.some.inj (hpeer.symm.trans hp)
  have hn := h.receiveSequence
  constructor
  · rw [hx]
    exact List.forall_mem_append.mpr ⟨h.source, List.forall_mem_singleton.mpr rfl⟩
  · rw [hx, List.map_append, List.length_append, List.length_singleton, List.range_succ,
      List.map_append, h.sequence]
    simp [hsequence, hn]
  · intro o' hmem r' answer' n hr hn'
    rcases List.mem_append.mp hmem with hmem | hmem
    · exact h.acknowledged o' hmem r' answer' n hr hn'
    · obtain rfl := List.mem_singleton.mp hmem
      obtain ⟨rfl, rfl⟩ : r' = r ∧ answer' = answer := by simpa [hj] using hr
      obtain rfl : o'.before.connection.receiveSequence = n :=
        Option.some.inj (hsequence.symm.trans hn')
      exact ⟨frame, hf, hj⟩
  · rw [hx, List.length_append, List.length_singleton, ← SequenceNumber.next_ofNat, ← hn]
    exact hnext

end InOrder

/-- In the life of a connection all requests are handed over in order. -/
theorem inOrder_of_life {peer : DeviceAddress} {os : List (Occasion L A)} {e : Endpoint L A}
    (h : Life peer os e) : InOrder peer os e := by
  refine h.induction (P := InOrder peer) ?_ ?_ ?_
  · intro o _ hopens _
    obtain ⟨p, -, hj, hd⟩ := o.connect_of_opens hopens
    have hx : exchanges [o] = [] := by
      simp [exchanges, Occasion.accepted, hj, acceptedIn, Activity.acceptance?]
    constructor
    · simp [hx]
    · simp [hx]
    · simp [hj]
    · rw [hx]
      exact congrArg (·.connection.receiveSequence) hd
  · intro os e link application statistics ih
    exact ⟨ih.source, ih.sequence, ih.acknowledged, ih.receiveSequence⟩
  · intro os o hlife hopens ih
    rcases o.effect.receives (o.open_or_closed hopens) with ⟨ha, hn⟩ | ⟨r, answer, ha⟩
    · rw [o.ready_connection] at hn
      exact ih.quiet ha hn
    · have hp := ha.peer
      rw [o.ready_connection] at hp
      exact ih.accept (hlife.peer?_eq (Connection.isOpen_of_peer? hp)) ha

theorem inOrder_exchange : (exchanges (Sample.host.history Sample.exchange)).length = 2 ∧
    InOrder Sample.guest (Sample.host.history Sample.exchange)
      (Sample.host.afterAll Sample.exchange) :=
  ⟨by decide, inOrder_of_life Sample.life⟩

end BusTransport
