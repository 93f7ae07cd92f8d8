import BusTransport.Proofs.Endpoint.Consistency

/-! # Lives of connections

The life of a connection begins with the call that opens it. It goes on beyond its end, until a call
opens the next connection, so that whatever is said of a life is said of every moment in it.
-/

namespace BusTransport

theorem SequenceNumber.next_ofNat (n : Nat) : next (Fin.ofNat 16 n) = Fin.ofNat 16 (n + 1) := by
  ext
  simp [next, Fin.val_add]

namespace Dialogue

variable {own : DeviceAddress} {now : Instant} {d d' : Dialogue} {event? : Option Event}
  {journal : List Activity}

theorem Effect.connect_of_opens (h : Effect own now d event? journal d')
    (hb : d.connection.isOpen = false) (ha : d'.connection.isOpen = true) :
    ∃ p, event? = some (.connect p) ∧ journal = [.performed (.connect p)] ∧
      d' = ⟨d.connection.connectTo p now, {}⟩ := by
  have hs : d.connection.state = .closed := by
    simpa [Connection.isOpen, ConnectionState.isOpen] using hb
  cases h with
  | connect => exact ⟨_, rfl, rfl, rfl⟩
  | calm =>
    have hcontra : true = false := ha.symm.trans hb
    cases hcontra
  | close => cases ha
  | deliver h | sendAnswer h | dropAnswer h | finishAnswer h | repeatAnswer _ h =>
    rw [hs] at h
    cases h

theorem Effect.peer?_eq (h : Effect own now d event? journal d')
    (hb : d.connection.isOpen = true) (ha : d'.connection.isOpen = true) :
    d'.connection.peer? = d.connection.peer? := by
  rw [Connection.peer?_of_isOpen ha, Connection.peer?_of_isOpen hb]
  cases h with
  | connect hs => exact absurd hs (Connection.isOpen_iff.mp hb)
  | close => cases ha
  | _ => rfl

end Dialogue

variable {L A : Type} [Link L] [Application A]

namespace Occasion

def ready (o : Occasion L A) : Dialogue := o.before.ready o.call

theorem effect (o : Occasion L A) :
    Dialogue.Effect o.own o.call.now o.ready o.event? o.journal o.after.dialogue :=
  (o.before.proceeds o.call).step.effect

omit [Application A] in
theorem ready_connection (o : Occasion L A) : o.ready.connection = o.before.connection :=
  o.before.connection_ready o.call

theorem consistent_ready {o : Occasion L A} (h : o.before.Reachable) :
    o.ready.Consistent o.before.profile.maxRepetitions :=
  Endpoint.consistent_ready h.dialogue_consistent o.call

def opens (o : Occasion L A) : Bool := !o.before.connection.isOpen && o.after.connection.isOpen

theorem connect_of_opens {o : Occasion L A} (h : o.opens = true) :
    ∃ p, o.event? = some (.connect p) ∧ o.journal = [.performed (.connect p)] ∧
      o.after.dialogue = ⟨o.before.connection.connectTo p o.call.now, {}⟩ := by
  rw [opens, Bool.and_eq_true, Bool.not_eq_true', ← o.ready_connection] at h
  rw [← o.ready_connection]
  exact o.effect.connect_of_opens h.1 h.2

/-- A call that opens no connection finds one open or leaves none behind. -/
theorem open_or_closed {o : Occasion L A} (h : o.opens = false) :
    o.ready.connection.isOpen = true ∨ o.after.dialogue.connection.isOpen = false := by
  rw [opens, Bool.and_eq_false_iff, Bool.not_eq_false', ← o.ready_connection] at h
  exact h

end Occasion

/-- The occasions in the life of a connection to a peer, up to an endpoint. -/
inductive Life (peer : DeviceAddress) : List (Occasion L A) → Endpoint L A → Prop
  | intro {o os e} : o.before.Reachable → o.opens = true → o.after.connection.peer? = some peer →
      Run o.after os e → (∀ later ∈ os, later.opens = false) → Life peer (o :: os) e

namespace Life

variable {peer : DeviceAddress} {os os' : List (Occasion L A)} {o : Occasion L A}
  {e : Endpoint L A}

/-- A life is lived from its opening on, one call after the other. -/
theorem induction {P : List (Occasion L A) → Endpoint L A → Prop}
    (hopen : ∀ o, o.before.Reachable → o.opens = true → o.after.connection.peer? = some peer →
      P [o] o.after)
    (houtside : ∀ os e link application statistics, P os e →
      P os { e with link, application, statistics })
    (hcall : ∀ os o, Life peer os o.before → o.opens = false → P os o.before →
      P (os ++ [o]) o.after)
    (h : Life peer os e) : P os e := by
  obtain ⟨hr, ho, hp, hrun, hlater⟩ := h
  rename_i o os
  induction hrun with
  | start => exact hopen o hr ho hp
  | outside link application statistics _ ih => exact houtside _ _ _ _ _ (ih hlater)
  | @call os e call hrun ih =>
    have hbefore : ∀ later ∈ os, later.opens = false :=
      fun later hmem => hlater later (List.mem_append_left _ hmem)
    exact hcall (o :: os) ⟨e, call⟩ ⟨hr, ho, hp, hrun, hbefore⟩
      (hlater _ (List.mem_append_right _ List.mem_cons_self)) (ih hbefore)

theorem reachable (h : Life peer os e) : e.Reachable := by
  refine h.induction (P := fun _ e => e.Reachable) ?_ ?_ ?_
  · intro o hr _ _
    exact hr.run (.call o.call .start)
  · intro os e link application statistics hr
    exact hr.run (.outside link application statistics .start)
  · intro os o _ _ hr
    exact hr.run (.call o.call .start)

theorem peer?_eq (h : Life peer os e) (ho : e.connection.isOpen = true) :
    e.connection.peer? = some peer := by
  revert ho
  refine h.induction
    (P := fun _ e => e.connection.isOpen = true → e.connection.peer? = some peer) ?_ ?_ ?_
  · intro o _ _ hp _
    exact hp
  · intro os e link application statistics ih
    exact ih
  · intro os o _ hopens ih ho
    have hb : o.before.connection.isOpen = true := by
      simpa [Occasion.opens, ho] using hopens
    rw [← ih hb, ← o.ready_connection]
    exact o.effect.peer?_eq (by rw [o.ready_connection]; exact hb) ho

theorem before (h : Life peer (os ++ o :: os') e) (hos : os ≠ []) : Life peer os o.before := by
  obtain ⟨first, os, rfl⟩ := List.exists_cons_of_ne_nil hos
  obtain ⟨hr, hopens, hp, hrun, hlater⟩ := h
  exact ⟨hr, hopens, hp, hrun.split.1, fun later hmem =>
    hlater later (List.mem_append_left _ hmem)⟩

theorem after (h : Life peer os o.before) (ho : o.opens = false) :
    Life peer (os ++ [o]) o.after := by
  obtain ⟨hr, hopens, hp, hrun, hlater⟩ := h
  exact ⟨hr, hopens, hp, .call o.call hrun,
    List.forall_mem_append.mpr ⟨hlater, List.forall_mem_singleton.mpr ho⟩⟩

theorem outside (link : L) (application : A) (statistics : Statistics) (h : Life peer os e) :
    Life peer os { e with link, application, statistics } := by
  obtain ⟨hr, hopens, hp, hrun, hlater⟩ := h
  exact ⟨hr, hopens, hp, .outside link application statistics hrun, hlater⟩

end Life

theorem exists_life_after {os : List (Occasion L A)} {o : Occasion L A} {p : DeviceAddress}
    (hr : o.before.Reachable)
    (ih : ∀ p, o.before.connection.peer? = some p →
      ∃ earlier life, os = earlier ++ life ∧ Life p life o.before)
    (hp : o.after.connection.peer? = some p) :
    ∃ earlier life, os ++ [o] = earlier ++ life ∧ Life p life o.after := by
  have ha : o.after.connection.isOpen = true := Connection.isOpen_of_peer? hp
  rcases hb : o.before.connection.isOpen with _ | _
  · have hopens : o.opens = true := by rw [Occasion.opens, hb, ha]; rfl
    have hlife : Life p [o] o.after := ⟨hr, hopens, hp, .start, List.forall_mem_nil _⟩
    exact ⟨os, [o], rfl, hlife⟩
  · have hopens : o.opens = false := by rw [Occasion.opens, hb, ha]; rfl
    have hpeer := o.effect.peer?_eq (by rw [o.ready_connection]; exact hb) ha
    rw [o.ready_connection] at hpeer
    obtain ⟨earlier, life, rfl, hlife⟩ := ih p (hpeer.symm.trans hp)
    exact ⟨earlier, life ++ [o], List.append_assoc .., hlife.after hopens⟩

/-- Every open connection is in its life. -/
theorem Run.exists_life {link : L} {application : A} {profile : TransportProfile}
    {e₀ e : Endpoint L A} {os : List (Occasion L A)} {p : DeviceAddress}
    (hc : Endpoint.create link application profile = .ok e₀) (h : Run e₀ os e)
    (hp : e.connection.peer? = some p) : ∃ earlier life, os = earlier ++ life ∧ Life p life e := by
  induction h generalizing p with
  | start =>
    rw [Endpoint.eq_of_create hc] at hp
    cases hp
  | outside link application statistics _ ih =>
    obtain ⟨earlier, life, hos, hlife⟩ := ih hp
    exact ⟨earlier, life, hos, hlife.outside link application statistics⟩
  | @call os e call hrun ih => exact exists_life_after ⟨hc, hrun⟩ (fun p => ih) hp

theorem Endpoint.life_history {e : Endpoint L A} {call : Call} {calls : List Call}
    {p : DeviceAddress} (hr : e.Reachable) (ho : (Occasion.mk e call).opens = true)
    (hp : (e.after call).connection.peer? = some p)
    (hlater : ∀ o ∈ (e.after call).history calls, o.opens = false) :
    Life p (e.history (call :: calls)) (e.afterAll (call :: calls)) :=
  ⟨hr, ho, hp, (e.after call).run_history calls, hlater⟩

theorem Sample.life : Life Sample.guest (Sample.host.history Sample.exchange)
    (Sample.host.afterAll Sample.exchange) :=
  Endpoint.life_history (Sample.reachable []) (by decide) (by decide) (by decide)

end BusTransport
