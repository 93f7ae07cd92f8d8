import BusTransport.Proofs.Endpoint.Repetition

/-! # Acknowledgements

An acknowledgement leaves only for the peer. It concerns the last request that was handed over on
the connection. Before the first one, data under the number before zero is taken for a duplicate and
acknowledged as well.
-/

namespace BusTransport

theorem numberOf?_of_ack {frame : Frame} {n : SequenceNumber}
    (h : fieldOf? frame = some (.ack n)) : numberOf? frame = none := by
  rw [numberOf?, h]

theorem eq_ack_of_controlFrame {own destination : DeviceAddress} {field : ControlField}
    {frame : Frame} {n : SequenceNumber} (hc : field.isControl = true)
    (hf : Endpoint.controlFrame own destination field = .ok frame)
    (h : fieldOf? frame = some (.ack n)) : field = .ack n := by
  have hfield := Endpoint.fieldOf?_controlFrame hf
  rw [ControlField.decode_encode_of_isControl hc, h] at hfield
  exact (Option.some.inj hfield).symm

namespace Dialogue

open Endpoint

variable {own : DeviceAddress} {now : Instant} {d d' : Dialogue} {event? : Option Event}
  {journal : List Activity} {max : UInt8} {frame : Frame} {n : SequenceNumber}

/-- An acknowledgement leaves before its request is handed over, or once more for the number before
the one that is expected. -/
inductive Acks (own : DeviceAddress) (d : Dialogue) (journal : List Activity) (d' : Dialogue)
    (frame : Frame) (n : SequenceNumber) : Prop
  | first {r answer} : Accepts own d journal d' r answer → r.sequence = some n →
      controlFrame own r.source (.ack n) = .ok frame → Acks own d journal d' frame n
  | again {p} : d.connection.peer? = some p → acceptedIn journal = [] →
      n = SequenceNumber.previous d.connection.receiveSequence →
      controlFrame own p (.ack n) = .ok frame → Acks own d journal d' frame n

theorem not_ack_of_quiet (h : Quiet own journal) (hs : .offered frame none ∈ journal) :
    fieldOf? frame ≠ some (.ack n) := by
  intro hf
  cases h with
  | reply _ hframe =>
    obtain ⟨rfl, -⟩ : frame = _ ∧ _ := by simpa using hs
    have hfield := fieldOf?_answerFrame hframe
    rw [ControlField.decode_encode_unnumbered, hf] at hfield
    cases hfield
  | nothing => cases hs
  | group | broadcast | direct => simp at hs

theorem not_ack_of_told {p : DeviceAddress} {rest : List Activity} (h : Told own p rest)
    (hs : .offered frame none ∈ rest) : fieldOf? frame ≠ some (.ack n) := by
  intro hf
  cases h with
  | sent hframe =>
    obtain rfl : frame = _ := by simpa using hs
    cases eq_ack_of_controlFrame rfl hframe hf
  | refused => simp at hs
  | blocked => cases hs

theorem Move.acks {event : Event} (h : Move own now d event journal d') (hc : d.Consistent max)
    (hs : .offered frame none ∈ journal) (hf : fieldOf? frame = some (.ack n)) :
    Acks own d journal d' frame n := by
  have hn := numberOf?_of_ack hf
  cases h with
  | @deliver p r answer frame' hidle hp hroom hsource hsequence hframe =>
    obtain rfl : frame = frame' := by simpa using hs
    obtain rfl : d.connection.receiveSequence = n := by
      cases eq_ack_of_controlFrame rfl hframe hf
      rfl
    subst hsource
    exact .first ⟨hp, hsequence, ⟨frame, hframe, rfl⟩, receiveSequence_acceptRequest ..⟩
      hsequence hframe
  | @ackAgain p m frame' hp hm hframe =>
    obtain rfl : frame = frame' := by simpa using hs
    obtain rfl : m = n := by
      cases eq_ack_of_controlFrame rfl hframe hf
      rfl
    exact .again hp rfl hm hframe
  | @refuse p m frame' _ _ _ hframe =>
    obtain rfl : frame = frame' := by simpa using hs
    cases eq_ack_of_controlFrame rfl hframe hf
  | @reject p frame' _ _ hframe =>
    obtain rfl : frame = frame' := by simpa using hs
    cases eq_ack_of_controlFrame rfl hframe hf
  | @closeAndTell _ p rest _ _ ht =>
    have hrest : .offered frame none ∈ rest := by simpa using hs
    exact absurd hf (not_ack_of_told ht hrest)
  | @sendAnswer entry rest frame' _ _ hframe =>
    obtain rfl : frame = frame' := by simpa using hs
    rw [numberOf?_numbered hframe] at hn
    cases hn
  | @repeatAnswer _ frame' _ hwait _ hframe =>
    obtain rfl : frame = frame' := by simpa using hs
    rw [Awaits.number ⟨hwait, hframe⟩ hc] at hn
    cases hn
  | ignore | connect | closeSilently | finishAnswer | refused => simp at hs
  | dropAnswer | halted | lost => cases hs

theorem Step.acks (h : Step own now d event? journal d') (hc : d.Consistent max)
    (hs : .offered frame none ∈ journal) (hf : fieldOf? frame = some (.ack n)) :
    Acks own d journal d' frame n := by
  cases h with
  | quiet h => exact absurd hf (not_ack_of_quiet h hs)
  | move h => exact h.acks hc hs hf

end Dialogue

variable {L A : Type} [Link L] [Application A]

/-- The last request that was handed over came from a peer and carried a number. -/
def LastRequest (peer : DeviceAddress) (n : SequenceNumber) (os : List (Occasion L A)) : Prop :=
  ∃ r answer, (exchanges os).getLast? = some (r, answer) ∧ r.source = peer ∧ r.sequence = some n

theorem lastRequest_concat {peer : DeviceAddress} {n : SequenceNumber} {os : List (Occasion L A)}
    {o : Occasion L A} {r : Request} {answer : Option Answer} (ha : o.accepted = [(r, answer)])
    (hp : r.source = peer) (hn : r.sequence = some n) : LastRequest peer n (os ++ [o]) := by
  refine ⟨r, answer, ?_, hp, hn⟩
  rw [exchanges_concat, ha, List.getLast?_concat]

/-- The number before the expected one is that of the last request, once there was one. -/
theorem Life.last_request {peer : DeviceAddress} {os : List (Occasion L A)} {e : Endpoint L A}
    (h : Life peer os e) :
    exchanges os = [] ∧ e.connection.receiveSequence = 0 ∨
      LastRequest peer (SequenceNumber.previous e.connection.receiveSequence) os := by
  refine h.induction (P := fun os e => exchanges os = [] ∧ e.connection.receiveSequence = 0 ∨
    LastRequest peer (SequenceNumber.previous e.connection.receiveSequence) os) ?_ ?_ ?_
  · intro o _ hopens _
    obtain ⟨p, -, hj, hd⟩ := o.connect_of_opens hopens
    refine .inl ⟨?_, congrArg (·.connection.receiveSequence) hd⟩
    simp [exchanges, Occasion.accepted, hj, acceptedIn, Activity.acceptance?]
  · intro os e link application statistics ih
    exact ih
  · intro os o hlife hopens ih
    rcases o.effect.receives (o.open_or_closed hopens) with ⟨ha, hn⟩ | ⟨r, answer, ha⟩
    · have hx : exchanges (os ++ [o]) = exchanges os := by
        rw [exchanges_concat, Occasion.accepted, ha, List.append_nil]
      rw [o.ready_connection] at hn
      rw [show o.after.connection.receiveSequence = _ from hn]
      unfold LastRequest at ih ⊢
      rwa [hx]
    · have hp := ha.peer
      rw [o.ready_connection] at hp
      have hpeer := hlife.peer?_eq (Connection.isOpen_of_peer? hp)
      have hprevious : SequenceNumber.previous o.after.connection.receiveSequence =
          o.ready.connection.receiveSequence := by
        rw [show o.after.connection.receiveSequence = _ from ha.next, SequenceNumber.previous_next]
      rw [hprevious]
      exact .inr (lastRequest_concat ha.acceptedIn_eq (Option.some.inj (hp.symm.trans hpeer))
        ha.sequence)

inductive Acknowledged (peer : DeviceAddress) (n : SequenceNumber) (os : List (Occasion L A)) :
    Prop
  | request : LastRequest peer n os → Acknowledged peer n os
  /-- No request was handed over yet, and the number is the one before the first. -/
  | nothing : exchanges os = [] → n = 15 → Acknowledged peer n os

theorem Life.acknowledged {peer : DeviceAddress} {os : List (Occasion L A)} {o : Occasion L A}
    {frame : Frame} {n : SequenceNumber} (h : Life peer os o.before)
    (hp : o.before.connection.peer? = some peer)
    (hacks : o.ready.Acks o.own o.journal o.after.dialogue frame n) :
    Endpoint.controlFrame o.own peer (.ack n) = .ok frame ∧ Acknowledged peer n (os ++ [o]) := by
  cases hacks with
  | first ha hn hframe =>
    have hsource := ha.peer
    rw [o.ready_connection, hp] at hsource
    obtain rfl := Option.some.inj hsource
    exact ⟨hframe, .request (lastRequest_concat ha.acceptedIn_eq rfl hn)⟩
  | @again p hpeer ha hn hframe =>
    rw [o.ready_connection] at hpeer hn
    obtain rfl : p = peer := Option.some.inj (hpeer.symm.trans hp)
    have hx : exchanges (os ++ [o]) = exchanges os := by
      rw [exchanges_concat, Occasion.accepted, ha, List.append_nil]
    refine ⟨hframe, ?_⟩
    rcases h.last_request with ⟨hnone, hzero⟩ | hlast
    · refine .nothing (hx.trans hnone) ?_
      rw [hn, hzero]
      rfl
    · refine .request ?_
      unfold LastRequest at hlast ⊢
      rwa [hx, hn]

/-- Every acknowledgement in a run goes to the peer of the connection that is open then, and stands
for the last request that was handed over on it, unless none was yet. -/
theorem acknowledged_of_run {link : L} {application : A} {profile : TransportProfile}
    {e₀ e : Endpoint L A} {before after : List (Occasion L A)} {o : Occasion L A} {frame : Frame}
    {n : SequenceNumber} (hc : Endpoint.create link application profile = .ok e₀)
    (h : Run e₀ (before ++ o :: after) e) (hs : .offered frame none ∈ o.journal)
    (hf : fieldOf? frame = some (.ack n)) :
    ∃ p earlier life, before = earlier ++ life ∧ o.before.connection.peer? = some p ∧
      Life p (life ++ [o]) o.after ∧ Endpoint.controlFrame o.own p (.ack n) = .ok frame ∧
      Acknowledged p n (life ++ [o]) := by
  have hrun := h.split.1
  have hr : o.before.Reachable := ⟨hc, hrun⟩
  have hacks := (o.before.proceeds o.call).step.acks (o.consistent_ready hr) hs hf
  have hp : ∃ p, o.before.connection.peer? = some p := by
    rw [← o.ready_connection]
    cases hacks with
    | first ha => exact ⟨_, ha.peer⟩
    | again hp => exact ⟨_, hp⟩
  obtain ⟨p, hp⟩ := hp
  obtain ⟨earlier, life, hbefore, hlife⟩ := hrun.exists_life hc hp
  have hopens : o.opens = false := by
    rw [Occasion.opens, Connection.isOpen_of_peer? hp]
    rfl
  obtain ⟨hframe, hacknowledged⟩ := hlife.acknowledged hp hacks
  exact ⟨p, earlier, life, hbefore, hp, hlife.after hopens, hframe, hacknowledged⟩

namespace Sample

/-- The guest repeats its last request under the number 0. -/
def encore : List Call := [
  .receive (control .connect) 0, .receive (request 0) 1, .receive (request 0) 2]

/-- The guest begins with the number 15. -/
def overture : List Call := [.receive (control .connect) 0, .receive (request 15) 1]

end Sample

theorem acknowledged_encore : ∃ before o, Sample.host.history Sample.encore = before ++ [o] ∧
    ∃ frame, .offered frame none ∈ o.journal ∧ fieldOf? frame = some (.ack 0) ∧
      ∃ p earlier life, before = earlier ++ life ∧ o.before.connection.peer? = some p ∧
        Life p (life ++ [o]) o.after ∧ Endpoint.controlFrame o.own p (.ack 0) = .ok frame ∧
        Acknowledged p 0 (life ++ [o]) := by
  let frame := (Endpoint.controlFrame Sample.host.link.address Sample.guest (.ack 0)).toOption.getD
    []
  let e := Sample.host.afterAll (Sample.encore.take 2)
  let o : Occasion RecordingLink Responder := ⟨e, .receive (Sample.request 0) 2⟩
  have hs : .offered frame none ∈ o.journal := by decide
  have hf : fieldOf? frame = some (.ack 0) := by decide
  have hrun : Run Sample.host (Sample.host.history (Sample.encore.take 2) ++ [o]) _ :=
    Sample.host.run_history Sample.encore
  exact ⟨_, o, rfl, frame, hs, hf, acknowledged_of_run Sample.create_host hrun hs hf⟩

theorem acknowledged_overture :
    Life Sample.guest (Sample.host.history Sample.overture)
        (Sample.host.afterAll Sample.overture) ∧
      (∃ o ∈ Sample.host.history Sample.overture, ∃ frame,
        Endpoint.controlFrame o.own Sample.guest (.ack 15) = .ok frame ∧
          .offered frame none ∈ o.journal) ∧
      exchanges (Sample.host.history Sample.overture) = [] := by
  refine ⟨Endpoint.life_history (Sample.reachable []) (by decide) (by decide) (by decide), ?_,
    by decide⟩
  exact ⟨_, List.mem_cons_of_mem _ List.mem_cons_self, _, rfl, by decide⟩

end BusTransport
