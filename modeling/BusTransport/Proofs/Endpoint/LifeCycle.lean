import BusTransport.Proofs.Endpoint.Accounting

/-! # Life cycles

A connection goes through its states along a few ways only, and no call takes it further than one
step. Openings and notices of closing take turns, and every closing is told and counted once,
whatever has caused it and whether or not the peer could be told.
-/

namespace BusTransport

inductive ConnectionState.Goes : ConnectionState → ConnectionState → Prop
  | stay {s} : Goes s s
  | connect : Goes .closed .openIdle
  | sendAnswer : Goes .openIdle .openWait
  | finishAnswer : Goes .openWait .openIdle
  | close {s} : s.isOpen = true → Goes s .closed

inductive Milestone where
  | opened (peer : DeviceAddress)
  | closed (peer : DeviceAddress)
  deriving DecidableEq, Repr

def Milestone.isOpening : Milestone → Bool
  | opened _ => true
  | closed _ => false

/-- Openings and closings take turns, the first being an opening. Each closing names the peer of the
opening right before it, and an opening that is not followed by one leaves its peer connected. -/
inductive Alternates : List Milestone → Option DeviceAddress → Prop
  | nil : Alternates [] none
  | opened {ms p} : Alternates ms none → Alternates (ms ++ [.opened p]) (some p)
  | closed {ms p} : Alternates ms (some p) → Alternates (ms ++ [.closed p]) none

theorem Alternates.count {ms : List Milestone} {p? : Option DeviceAddress}
    (h : Alternates ms p?) : ms.countP (·.isOpening) =
      ms.countP (!·.isOpening) + if p?.isSome then 1 else 0 := by
  induction h with
  | nil => rfl
  | opened _ ih => simp [Milestone.isOpening] at ih ⊢; omega
  | closed _ ih => simp [Milestone.isOpening] at ih ⊢; omega

inductive Passage : Option DeviceAddress → List Milestone → Option DeviceAddress → Prop
  | stay {p?} : Passage p? [] p?
  | opened {p} : Passage none [.opened p] (some p)
  | closed {p} : Passage (some p) [.closed p] none

theorem Alternates.passage {ms ms' : List Milestone} {p? q? : Option DeviceAddress}
    (h : Alternates ms p?) (hp : Passage p? ms' q?) : Alternates (ms ++ ms') q? := by
  cases hp with
  | stay => rwa [List.append_nil]
  | opened => exact .opened h
  | closed => exact .closed h

namespace Dialogue

variable {own : DeviceAddress} {now : Instant} {d d' : Dialogue} {event : Event}
  {event? : Option Event} {journal : List Activity}

theorem Effect.goes (h : Effect own now d event? journal d') :
    d.connection.state.Goes d'.connection.state := by
  cases h with
  | calm => exact .stay
  | connect hs =>
    rw [hs]
    exact .connect
  | deliver => exact .stay
  | close _ ho => exact .close ho
  | sendAnswer hs =>
    rw [hs]
    exact .sendAnswer
  | dropAnswer => exact .stay
  | finishAnswer hs =>
    rw [hs]
    exact .finishAnswer
  | repeatAnswer => exact .stay

theorem noticesIn_of_told {p : DeviceAddress} {rest : List Activity} (h : Told own p rest) :
    noticesIn rest = [] := by
  cases h <;> rfl

theorem noticesIn_of_quiet (h : Quiet own journal) : noticesIn journal = [] := by
  cases h <;> rfl

/-- What is told to the application about the end of connections. -/
inductive Tells (d : Dialogue) (journal : List Activity) (d' : Dialogue) : Prop
  | nothing : noticesIn journal = [] → (d.connection.isOpen = true → d'.connection.isOpen = true) →
      Tells d journal d'
  | closed {p} : noticesIn journal = [p] → d.connection.peer? = some p →
      d'.connection.isOpen = false → Tells d journal d'

theorem Move.tells (h : Move own now d event journal d') : Tells d journal d' := by
  cases h with
  | closeSilently hp => exact .closed rfl hp rfl
  | closeAndTell _ hp ht => exact .closed (congrArg (List.cons _) (noticesIn_of_told ht)) hp rfl
  | connect | sendAnswer | finishAnswer => exact .nothing rfl fun _ => rfl
  | _ => exact .nothing rfl id

/-- Whatever closes a connection is told, and nothing else is. -/
theorem Step.tells (h : Step own now d event? journal d') : Tells d journal d' := by
  cases h with
  | quiet h => exact .nothing (noticesIn_of_quiet h) id
  | move h => exact h.tells

end Dialogue

variable {L A : Type} [Link L] [Application A]

namespace Occasion

def opening? (o : Occasion L A) : Option DeviceAddress :=
  if o.opens then o.after.connection.peer? else none

def milestones (o : Occasion L A) : List Milestone :=
  o.opening?.toList.map .opened ++ (noticesIn o.journal).map .closed

theorem tells (o : Occasion L A) : o.ready.Tells o.journal o.after.dialogue :=
  (o.before.proceeds o.call).step.tells

theorem passage_of_opens {o : Occasion L A} (h : o.opens = true) :
    Passage o.before.connection.peer? o.milestones o.after.connection.peer? := by
  obtain ⟨p, -, hj, hd⟩ := o.connect_of_opens h
  have hp : o.after.connection.peer? = some p := congrArg (·.connection.peer?) hd
  rw [opens, Bool.and_eq_true, Bool.not_eq_true'] at h
  have hnone := Connection.peer?_of_not_isOpen h.1
  have hms : o.milestones = [.opened p] := by
    simp [milestones, opening?, opens, h, hp, hj, noticesIn, Activity.notice?]
  rw [hnone, hms, hp]
  exact .opened

theorem milestones_of_not_opens {o : Occasion L A} (h : o.opens = false) :
    o.milestones = (noticesIn o.journal).map .closed := by
  simp [milestones, opening?, h]

theorem peer?_of_not_opens {o : Occasion L A} (h : o.opens = false)
    (hstays : o.before.connection.isOpen = true → o.after.connection.isOpen = true) :
    o.after.connection.peer? = o.before.connection.peer? := by
  rcases hb : o.before.connection.isOpen with _ | _
  · have ha : o.after.connection.isOpen = false := by simpa [opens, hb] using h
    rw [Connection.peer?_of_not_isOpen hb, Connection.peer?_of_not_isOpen ha]
  · rw [← o.ready_connection]
    exact o.effect.peer?_eq (by rwa [o.ready_connection]) (hstays hb)

/-- In every call the connection passes at most one milestone. -/
theorem passage (o : Occasion L A) :
    Passage o.before.connection.peer? o.milestones o.after.connection.peer? := by
  rcases hopens : o.opens with _ | _
  · have hms := milestones_of_not_opens hopens
    rcases o.tells with ⟨hj, hstays⟩ | ⟨hj, hp, hclosed⟩
    · rw [o.ready_connection] at hstays
      rw [hms, hj, peer?_of_not_opens hopens hstays]
      exact .stay
    · have hnone : o.after.connection.peer? = none := Connection.peer?_of_not_isOpen hclosed
      rw [o.ready_connection] at hp
      rw [hms, hj, hp, hnone]
      exact .closed
  · exact passage_of_opens hopens

theorem countP_milestones (o : Occasion L A) :
    o.milestones.countP (!·.isOpening) = (noticesIn o.journal).length := by
  rw [milestones, List.countP_append, List.countP_map, List.countP_map]
  simp [Function.comp_def, Milestone.isOpening]

end Occasion

def milestones (os : List (Occasion L A)) : List Milestone := os.flatMap Occasion.milestones

theorem milestones_concat (os : List (Occasion L A)) (o : Occasion L A) :
    milestones (os ++ [o]) = milestones os ++ o.milestones := by
  simp [milestones]

theorem countP_milestones_eq (os : List (Occasion L A)) :
    (milestones os).countP (!·.isOpening) = (noticesIn (journalOf os)).length := by
  induction os with
  | nil => rfl
  | cons o os ih =>
    simp only [milestones, journalOf, List.flatMap_cons] at ih ⊢
    rw [List.countP_append, noticesIn_append, List.length_append, ih, o.countP_milestones]

/-- One call takes the connection at most one way further. It keeps the peer of a connection that it
leaves open, and counts every notice. -/
structure Endpoint.Orderly (e : Endpoint L A) (call : Call) : Prop where
  goes : e.connection.state.Goes (e.after call).connection.state
  peer_eq : e.connection.isOpen = true → (e.after call).connection.isOpen = true →
    (e.after call).connection.peer? = e.connection.peer?
  disconnects : (e.after call).statistics.disconnects =
    e.statistics.disconnects + UInt64.ofNat (noticesIn (e.journal call)).length

theorem Endpoint.orderly_of_reachable {e : Endpoint L A} (hr : e.Reachable) (call : Call) :
    e.Orderly call := by
  let o : Occasion L A := ⟨e, call⟩
  constructor
  · have hgoes := o.effect.goes
    rwa [o.ready_connection] at hgoes
  · intro hb ha
    rw [← o.ready_connection]
    exact o.effect.peer?_eq (by rwa [o.ready_connection]) ha
  · obtain ⟨counted, hs, haccounts⟩ := exists_tallies hr call
    rw [hs, haccounts.notices]
    exact Statistics.counter_countAll _ _ .disconnect

structure LifeCycle (e₀ : Endpoint L A) (os : List (Occasion L A)) (e : Endpoint L A) :
    Prop where
  orderly : ∀ call, e.Orderly call
  alternates : Alternates (milestones os) e.connection.peer?
  open_iff : e.connection.isOpen = true ↔ (milestones os).countP (·.isOpening) =
    (milestones os).countP (!·.isOpening) + 1
  disconnects : Metered e₀ os e →
    e.statistics.disconnects = UInt64.ofNat ((milestones os).countP (!·.isOpening))

theorem Run.alternates {e₀ e : Endpoint L A} {os : List (Occasion L A)}
    (hclosed : e₀.connection.isOpen = false) (h : Run e₀ os e) :
    Alternates (milestones os) e.connection.peer? := by
  induction h with
  | start =>
    rw [Connection.peer?_of_not_isOpen hclosed]
    exact .nil
  | outside _ _ _ _ ih => exact ih
  | @call os e call _ ih =>
    rw [milestones_concat]
    exact ih.passage (Occasion.passage ⟨e, call⟩)

theorem Endpoint.Reachable.isOpen_eq {e : Endpoint L A} (hr : e.Reachable) :
    e.connection.isOpen = e.connection.peer?.isSome := by
  have hc := hr.dialogue_consistent
  have hopen (h : ∃ p, e.connection.peer? = some p) :
      e.connection.isOpen = e.connection.peer?.isSome := by
    obtain ⟨p, hp⟩ := h
    rw [Connection.isOpen_of_peer? hp, hp]
    rfl
  rcases hs : e.connection.state with _ | _ | _
  · have hp : e.connection.peer? = none := (hc.closed hs).peer
    rw [Connection.isOpen, hs, hp]
    rfl
  · exact hopen (hc.openIdle hs).peer
  · exact hopen (hc.openWait hs).peer

/-- In every run of a new endpoint the connection is opened and closed by turns. -/
theorem lifeCycle_of_run {link : L} {application : A} {profile : TransportProfile}
    {e₀ e : Endpoint L A} {os : List (Occasion L A)}
    (hc : Endpoint.create link application profile = .ok e₀) (h : Run e₀ os e) :
    LifeCycle e₀ os e := by
  have hr : e.Reachable := ⟨hc, h⟩
  have hstart := Endpoint.eq_of_create hc
  have halternates : Alternates (milestones os) e.connection.peer? :=
    h.alternates (by rw [hstart]; rfl)
  constructor
  · exact Endpoint.orderly_of_reachable hr
  · exact halternates
  · rw [hr.isOpen_eq, halternates.count]
    rcases e.connection.peer? with _ | p <;> simp
  · intro hmetered
    obtain ⟨counted, hs, haccounts⟩ := hmetered.exists_accounts ⟨hc, .start⟩
    rw [hs, countP_milestones_eq, haccounts.notices]
    have hcounter := Statistics.counter_countAll e₀.statistics counted .disconnect
    rw [hstart] at hcounter ⊢
    exact hcounter.trans (UInt64.zero_add _)

theorem lifeCycle_silence : milestones (Sample.host.history Sample.silence) =
      [.opened Sample.guest, .closed Sample.guest] ∧
    LifeCycle Sample.host (Sample.host.history Sample.silence)
      (Sample.host.afterAll Sample.silence) :=
  ⟨by decide, lifeCycle_of_run Sample.create_host (Sample.host.run_history _)⟩

end BusTransport
