import BusTransport.Proofs.Endpoint.StopAndWait

/-! # Repetitions

An answer that was sent is sent again, octet for octet, when the peer or the clock asks for it, at
most as often as the profile allows. Once it was acknowledged or the connection was closed, nothing
brings it back, not even a new connection to the same peer.
-/

namespace BusTransport

namespace Dialogue

open Endpoint

variable {own : DeviceAddress} {now : Instant} {d d' : Dialogue} {event? : Option Event}
  {journal : List Activity} {max : UInt8} {f : Frame}

/-- An answer was sent as a frame, and its acknowledgement has not come yet. -/
structure Awaits (d : Dialogue) (f : Frame) : Prop where
  state : d.connection.state = .openWait
  frame : d.answers.outstandingFrame? = some f

theorem awaits_released (h : d.Awaits f) : d.released.Awaits f :=
  ⟨h.state, (AnswerQueue.outstandingFrame?_release d.answers).trans h.frame⟩

/-- The outstanding answer carries the number that is outstanding. -/
theorem Awaits.number (h : d.Awaits f) (hc : d.Consistent max) :
    numberOf? f = some d.connection.sendSequence := by
  obtain ⟨-, ⟨entry, rest, frame, hq, -, hkept, hn, -⟩, -, -⟩ := hc.openWait h.state
  have hframe := (AnswerQueue.outstandingFrame?_of_entries hq).trans hkept
  obtain rfl : f = frame := Option.some.inj (h.frame.symm.trans hframe)
  exact hn

theorem Effect.awaits_of_first (h : Effect own now d event? journal d')
    (hf : f ∈ firstsIn event? journal) : d'.Awaits f ∧ d'.connection.repeats.count = 0 := by
  cases h with
  | calm _ _ ht =>
    rw [firstsIn_of_transmissionsIn _ ht] at hf
    exact absurd hf List.not_mem_nil
  | connect => exact absurd hf List.not_mem_nil
  | deliver _ _ _ _ _ hframe =>
    rw [firstsIn_of_transmissionsIn _ (transmissionsIn_deliver hframe ..)] at hf
    exact absurd hf List.not_mem_nil
  | close _ _ _ ho =>
    rw [firstsIn_of_transmissionsIn _ (transmissionsIn_eq_nil ho)] at hf
    exact absurd hf List.not_mem_nil
  | sendAnswer _ _ hframe =>
    rw [firstsIn_sendAnswer hframe] at hf
    obtain rfl := List.mem_singleton.mp hf
    exact ⟨⟨rfl, rfl⟩, rfl⟩
  | dropAnswer => exact absurd hf List.not_mem_nil
  | finishAnswer => exact absurd hf List.not_mem_nil
  | repeatAnswer hr =>
    rw [firstsIn_of_recalls hr] at hf
    exact absurd hf List.not_mem_nil

/-- What a step without first transmission does to an outstanding answer. -/
inductive Fate (d : Dialogue) (f : Frame) (event? : Option Event) (journal : List Activity)
    (d' : Dialogue) : Prop
  | stays : d'.Awaits f → ¬ d.Acknowledges event? → transmissionsIn journal = [] →
      d'.connection.repeats.count = d.connection.repeats.count → Fate d f event? journal d'
  | again {event} : d'.Awaits f → event? = some event → d.Recalls event f →
      d.connection.mayRepeat = true → transmissionsIn journal = [f] →
      d'.connection.repeats = d.connection.repeats.increment → Fate d f event? journal d'
  | ends : d'.connection.state ≠ .openWait → transmissionsIn journal = [] →
      Fate d f event? journal d'

theorem Effect.fate (h : Effect own now d event? journal d') (hc : d.Consistent max)
    (hd : d.Awaits f) : Fate d f event? journal d' := by
  have hs := hd.state
  cases h with
  | calm hn _ ht => exact .stays ⟨hs, hd.frame⟩ hn ht rfl
  | connect h | deliver h | sendAnswer h | dropAnswer h => exact nomatch h.symm.trans hs
  | close _ _ _ ho => exact .ends nofun (transmissionsIn_eq_nil ho)
  | finishAnswer => exact .ends nofun rfl
  | repeatAnswer hr _ hm =>
    obtain rfl := Option.some.inj (hd.frame.symm.trans hr.2)
    refine .again ⟨hs, hd.frame⟩ rfl hr hm ?_ rfl
    simp [transmissionsIn, Activity.transmission?, hd.number hc]

theorem Effect.recalls_of_offer (h : Effect own now d event? journal d')
    (hr : event?.any Event.isRetry = true) {frame : Frame} (hf : frame ∈ offersIn journal) :
    ∃ event, event? = some event ∧ d.Recalls event frame := by
  cases h with
  | calm _ _ _ ho =>
    rcases ho frame hf with rfl | hrecalls
    · cases hr
    · exact hrecalls
  | connect | dropAnswer | finishAnswer => exact absurd hf List.not_mem_nil
  | deliver | sendAnswer => cases hr
  | close _ _ _ ho =>
    rw [ho] at hf
    exact absurd hf List.not_mem_nil
  | @repeatAnswer event frame' hrecalls =>
    obtain rfl : frame = frame' := eq_of_mem_offersIn rfl hf
    exact ⟨event, rfl, hrecalls⟩

theorem Effect.idle (h : Effect own now d event? journal d') (hd : d.connection.state ≠ .openWait)
    (hfirst : firstsIn event? journal = []) :
    d'.connection.state ≠ .openWait ∧ transmissionsIn journal = [] := by
  cases h with
  | calm _ _ ht => exact ⟨hd, ht⟩
  | connect => exact ⟨nofun, rfl⟩
  | deliver _ _ _ _ _ hf => exact ⟨hd, transmissionsIn_deliver hf ..⟩
  | close _ _ _ ho => exact ⟨nofun, transmissionsIn_eq_nil ho⟩
  | sendAnswer _ _ hf => exact nomatch hfirst.symm.trans (firstsIn_sendAnswer hf)
  | dropAnswer => exact ⟨hd, rfl⟩
  | finishAnswer hs => exact absurd hs hd
  | repeatAnswer _ hs => exact absurd hs hd

end Dialogue

variable {L A : Type} [Link L]

namespace Occasion

def isRetry (o : Occasion L A) : Bool := o.event?.any Event.isRetry

/-- The answer with a number is asked for once more, by a nack of the peer or by the clock. -/
def Recalls (n : SequenceNumber) (o : Occasion L A) : Prop :=
  o.event? = some .ackTimeout ∨
    ∃ p, o.before.connection.peer? = some p ∧ o.event? = some (.nack p n)

variable [Application A]

def Settles (o : Occasion L A) : Prop :=
  o.before.dialogue.Acknowledges o.event? ∨
    o.before.connection.isOpen = true ∧ o.after.connection.isOpen = false

end Occasion

variable [Application A]

def transmitted (os : List (Occasion L A)) : List Frame := os.flatMap Occasion.transmissions

theorem transmitted_concat (os : List (Occasion L A)) (o : Occasion L A) :
    transmitted (os ++ [o]) = transmitted os ++ o.transmissions := by
  simp [transmitted]

/-- After some occasions an answer still waits, and all that left since was a repetition of it. -/
structure Pending (f : Frame) (os : List (Occasion L A)) (e : Endpoint L A) : Prop where
  awaits : e.dialogue.Awaits f
  count : e.connection.repeats.count.toNat = (transmitted os).length
  unsettled : ∀ o ∈ os, ¬ o.Settles

namespace Occasion

variable {o : Occasion L A} {f : Frame}

theorem reachable_after (h : o.before.Reachable) : o.after.Reachable := h.run (.call o.call .start)

omit [Application A] in
theorem awaits_ready (h : o.before.dialogue.Awaits f) : o.ready.Awaits f := by
  unfold ready
  exact o.before.ready_induction o.call h (Dialogue.awaits_released h)

omit [Application A] in
theorem acknowledges_ready :
    o.ready.Acknowledges o.event? ↔ o.before.dialogue.Acknowledges o.event? := by
  rw [Dialogue.Acknowledges, o.ready_connection]
  rfl

theorem fate (hr : o.before.Reachable) (h : o.before.dialogue.Awaits f) :
    o.ready.Fate f o.event? o.journal o.after.dialogue :=
  o.effect.fate (consistent_ready hr) (awaits_ready h)

theorem idle (h : o.before.connection.state ≠ .openWait) (hf : o.firsts = []) :
    o.after.connection.state ≠ .openWait ∧ o.transmissions = [] := by
  rw [← o.ready_connection] at h
  exact o.effect.idle h (List.map_eq_nil_iff.mp hf)

end Occasion

namespace Pending

variable {f : Frame} {os : List (Occasion L A)} {o : Occasion L A}

theorem stay (h : Pending f os o.before) (ha : o.after.dialogue.Awaits f)
    (hn : ¬ o.before.dialogue.Acknowledges o.event?)
    (hcount : o.after.connection.repeats.count.toNat =
      (transmitted os).length + o.transmissions.length) :
    Pending f (os ++ [o]) o.after := by
  have hunsettled : ¬ o.Settles := by
    rintro (hack | ⟨-, hclosed⟩)
    · exact hn hack
    · have hopen := Connection.isOpen_of_openWait ha.state
      exact nomatch hopen.symm.trans hclosed
  refine ⟨ha, ?_, ?_⟩
  · rw [hcount, transmitted_concat, List.length_append]
  · exact List.forall_mem_append.mpr ⟨h.unsettled, List.forall_mem_singleton.mpr hunsettled⟩

end Pending

structure Sequel (f : Frame) (os : List (Occasion L A)) (e : Endpoint L A) : Prop where
  bounded : (transmitted os).length ≤ e.profile.maxRepetitions.toNat
  pending_or_idle : Pending f os e ∨ e.connection.state ≠ .openWait

namespace Sequel

variable {f : Frame} {os : List (Occasion L A)} {o : Occasion L A}

theorem idle (h : Sequel f os o.before) (ho : o.transmissions = [])
    (hs : o.after.connection.state ≠ .openWait) : Sequel f (os ++ [o]) o.after := by
  refine ⟨?_, .inr hs⟩
  rw [transmitted_concat, ho, List.append_nil, o.profile_after]
  exact h.bounded

theorem step (h : Sequel f os o.before) (hr : o.before.Reachable) (hf : o.firsts = []) :
    Sequel f (os ++ [o]) o.after := by
  rcases h.pending_or_idle with hpending | hidle
  · have hcount := hpending.count
    cases o.fate hr hpending.awaits with
    | stays ha hn ht hc =>
      have ho : o.transmissions = [] := ht
      rw [o.acknowledges_ready] at hn
      rw [o.ready_connection] at hc
      refine ⟨?_, .inl (hpending.stay ha hn ?_)⟩
      · rw [transmitted_concat, ho, List.append_nil, o.profile_after]
        exact h.bounded
      · rw [ho, List.length_nil, Nat.add_zero, ← hcount]
        exact congrArg UInt8.toNat hc
    | @again event ha he hrecalls hm ht hc =>
      have ho : o.transmissions = [f] := ht
      rw [o.ready_connection] at hm hc
      have hlt := (Repetitions.mayRepeat_iff _).mp hm
      have hlimit := hr.dialogue_consistent.limit_eq
      rw [show o.before.connection.repeats.limit = _ from hlimit] at hlt
      have hmax := o.before.profile.maxRepetitions.toNat_lt
      have hinc := Repetitions.count_increment o.before.connection.repeats
      have hn : ¬ o.before.dialogue.Acknowledges o.event? := by
        rintro ⟨-, p, -, hack⟩
        rw [he] at hack
        rw [Option.some.inj hack] at hrecalls
        exact nomatch hrecalls.isRetry
      refine ⟨?_, .inl (hpending.stay ha hn ?_)⟩
      · rw [transmitted_concat, ho, List.length_append, List.length_singleton, o.profile_after]
        omega
      · rw [show o.after.connection.repeats = _ from hc, ho, List.length_singleton]
        omega
    | ends hs ht => exact h.idle ht hs
  · obtain ⟨hs, ht⟩ := o.idle hidle hf
    exact h.idle ht hs

end Sequel

theorem sequel_of_run {first : Occasion L A} {f : Frame} {os : List (Occasion L A)}
    {e : Endpoint L A} (hr : first.before.Reachable) (hf : (first.own, f) ∈ first.firsts)
    (h : Run first.after os e) (hnext : ∀ o ∈ os, o.firsts = []) : Sequel f os e := by
  induction h with
  | start =>
    obtain ⟨f', hmem, heq⟩ := List.mem_map.mp hf
    obtain rfl : f' = f := congrArg Prod.snd heq
    obtain ⟨ha, hc⟩ := first.effect.awaits_of_first hmem
    refine ⟨Nat.zero_le _, .inl ⟨ha, ?_, List.forall_mem_nil _⟩⟩
    exact congrArg UInt8.toNat hc
  | outside link application statistics _ ih =>
    obtain ⟨hb, hp⟩ := ih hnext
    refine ⟨hb, hp.imp_left ?_⟩
    rintro ⟨ha, hc, hu⟩
    exact ⟨ha, hc, hu⟩
  | @call os e call hrun ih =>
    have hreachable : e.Reachable := (Occasion.reachable_after hr).run hrun
    have hsequel := ih fun o hmem => hnext o (List.mem_append_left _ hmem)
    exact hsequel.step (o := ⟨e, call⟩) hreachable
      (hnext _ (List.mem_append_right _ List.mem_cons_self))

namespace Dialogue

variable {d : Dialogue} {event : Event}

theorem react_of_exhausted (hs : d.connection.state = .openWait)
    (hm : d.connection.mayRepeat = false)
    (he : event = .ackTimeout ∨
      ∃ p, d.connection.peer? = some p ∧ event = .nack p d.connection.sendSequence) :
    d.react event = ⟨.closed, .closeAndTell⟩ := by
  have hretry : d.connection.retry = ⟨.closed, .closeAndTell⟩ := by
    simp [Connection.retry, hm]
  rcases he with rfl | ⟨p, hp, rfl⟩
  · simp [react, Connection.react, hs, hretry]
  · have hpeer := (d.connection.isPeer_iff p).mpr hp
    have hfits := Connection.fits_iff.mpr (Eq.refl d.connection.sendSequence)
    simp [react, Connection.react, hs, hpeer, hfits, hretry]

theorem Step.move_of_event {own : DeviceAddress} {now : Instant} {d' : Dialogue}
    {event? : Option Event} {journal : List Activity} (h : Step own now d event? journal d')
    (he : event? = some event) : Move own now d event journal d' := by
  cases h with
  | quiet => cases he
  | move h =>
    obtain rfl := Option.some.inj he
    exact h

end Dialogue

namespace Occasion

variable {o : Occasion L A} {f : Frame} {n : SequenceNumber} {earlier : List (Occasion L A)}

theorem offer_of_retry (hr : o.before.Reachable) (hsequel : Sequel f earlier o.before)
    (hretry : o.isRetry = true) {frame : Frame} (hf : frame ∈ o.offers) :
    Pending f earlier o.before ∧ frame = f ∧ ∃ n, numberOf? f = some n ∧ o.Recalls n := by
  obtain ⟨event, he, hrecalls⟩ := o.effect.recalls_of_offer hretry hf
  obtain ⟨hs, hcause⟩ := hrecalls.cause
  have hs' := hs
  rw [o.ready_connection] at hs'
  have hpending := hsequel.pending_or_idle.resolve_right fun hidle => hidle hs'
  have hawaits := o.awaits_ready hpending.awaits
  have hnumber := hawaits.number (o.consistent_ready hr)
  refine ⟨hpending, Option.some.inj (hrecalls.2.symm.trans hawaits.frame), _, hnumber, ?_⟩
  rcases hcause with rfl | ⟨p, hp, rfl⟩
  · exact .inl he
  · rw [o.ready_connection] at hp
    exact .inr ⟨p, hp, he⟩

theorem retry_of_transmission (hf : o.firsts = []) (ht : o.transmissions ≠ []) :
    o.isRetry = true := by
  have hfirst : firstsIn o.event? o.journal = [] := List.map_eq_nil_iff.mp hf
  unfold firstsIn at hfirst
  split_ifs at hfirst with h
  · exact h
  · exact absurd hfirst ht

theorem closes_of_exhausted (hr : o.before.Reachable) (hpending : Pending f earlier o.before)
    (hmax : (transmitted earlier).length = o.before.profile.maxRepetitions.toNat)
    (hn : numberOf? f = some n) (hrecalls : o.Recalls n) :
    o.after.connection.state = .closed ∧ o.offers = [] := by
  have hc := o.consistent_ready hr
  have hawaits := o.awaits_ready hpending.awaits
  have hnumber := hawaits.number hc
  obtain ⟨p, hp⟩ := (hc.openWait hawaits.state).peer
  have hm : o.ready.connection.mayRepeat = false := by
    rw [← Bool.not_eq_true, Connection.mayRepeat, Repetitions.mayRepeat_iff]
    have hlimit := hc.limit_eq
    have hcount := hpending.count
    rw [show o.ready.connection.repeats.limit = _ from hlimit, o.ready_connection]
    omega
  have hstep := (o.before.proceeds o.call).step
  have hcause : ∃ event, o.event? = some event ∧ event.isRetry = true ∧
      (event = .ackTimeout ∨ ∃ p, o.ready.connection.peer? = some p ∧
        event = .nack p o.ready.connection.sendSequence) := by
    rcases hrecalls with he | ⟨q, hq, he⟩
    · exact ⟨_, he, rfl, .inl rfl⟩
    · rw [← o.ready_connection] at hq
      obtain rfl : n = o.ready.connection.sendSequence := Option.some.inj (hn.symm.trans hnumber)
      exact ⟨_, he, rfl, .inr ⟨q, hq, rfl⟩⟩
  obtain ⟨event, he, hretry, hcause⟩ := hcause
  have hreact := Dialogue.react_of_exhausted hawaits.state hm hcause
  exact (hstep.move_of_event he).gives_up hretry hreact hp

end Occasion

/-- What follows the first transmission of an answer, up to the next first transmission. -/
structure RepeatedAtMost (max : Nat) (f : Frame) (os : List (Occasion L A)) : Prop where
  /-- Whatever a retry offers to the link is the same frame again. -/
  identical : ∀ o ∈ os, o.isRetry = true → ∀ frame ∈ o.offers, frame = f
  /-- It leaves again only because the peer or the clock asks for it. -/
  caused : ∀ o ∈ os, o.transmissions ≠ [] → ∃ n, numberOf? f = some n ∧ o.Recalls n
  bounded : (transmitted os).length ≤ max
  /-- One request more than allowed closes the connection. -/
  exhausted : ∀ earlier o later n, os = earlier ++ o :: later →
    (transmitted earlier).length = max → o.before.connection.state = .openWait →
    numberOf? f = some n → o.Recalls n → o.after.connection.state = .closed ∧ o.offers = []
  /-- Nothing leaves again after the acknowledgement or the end of the connection. -/
  settled : ∀ earlier o later, os = earlier ++ o :: later → o.Settles →
    ∀ o' ∈ later, o'.transmissions = [] ∧ (o'.isRetry = true → o'.offers = [])

theorem repeatedAtMost_of_first {first : Occasion L A} {f : Frame} {os : List (Occasion L A)}
    {e : Endpoint L A} (hr : first.before.Reachable) (hf : (first.own, f) ∈ first.firsts)
    (h : Run first.after os e) (hnext : ∀ o ∈ os, o.firsts = []) :
    RepeatedAtMost e.profile.maxRepetitions.toNat f os := by
  have hbefore : ∀ earlier o later, os = earlier ++ o :: later →
      o.before.Reachable ∧ Sequel f earlier o.before := by
    rintro earlier o later rfl
    have hrun := h.split.1
    refine ⟨(Occasion.reachable_after hr).run hrun, sequel_of_run hr hf hrun ?_⟩
    exact fun o' hmem => hnext o' (List.mem_append_left _ hmem)
  constructor
  · intro o hmem hretry frame hframe
    obtain ⟨earlier, later, hos⟩ := List.append_of_mem hmem
    obtain ⟨hreachable, hsequel⟩ := hbefore _ _ _ hos
    exact (o.offer_of_retry hreachable hsequel hretry hframe).2.1
  · intro o hmem ht
    obtain ⟨earlier, later, hos⟩ := List.append_of_mem hmem
    obtain ⟨hreachable, hsequel⟩ := hbefore _ _ _ hos
    obtain ⟨frame, hframe⟩ := List.exists_mem_of_ne_nil _ ht
    have hoffer : frame ∈ o.offers := (transmissionsIn_sublist o.journal).subset hframe
    exact (o.offer_of_retry hreachable hsequel
      (o.retry_of_transmission (hnext o hmem) ht) hoffer).2.2
  · exact (sequel_of_run hr hf h hnext).bounded
  · intro earlier o later n hos hmax hs hn hrecalls
    obtain ⟨hreachable, hsequel⟩ := hbefore _ _ _ hos
    have hpending := hsequel.pending_or_idle.resolve_right fun hidle => hidle hs
    subst hos
    have hprofile : o.before.profile = e.profile := by
      rw [h.profile_eq, h.split.1.profile_eq]
    rw [← hprofile] at hmax
    exact o.closes_of_exhausted hreachable hpending hmax hn hrecalls
  · intro earlier o later hos hsettles o' hmem
    obtain ⟨between, rest, rfl⟩ := List.append_of_mem hmem
    have hos' : os = earlier ++ o :: between ++ o' :: rest := by
      rw [hos, List.append_assoc, List.cons_append]
    obtain ⟨hreachable, hsequel⟩ := hbefore _ _ _ hos'
    have hnot : ¬ Pending f (earlier ++ o :: between) o'.before :=
      fun hpending => hpending.unsettled o (by simp) hsettles
    have hidle := hsequel.pending_or_idle.resolve_left hnot
    refine ⟨(o'.idle hidle (hnext o' (by simp [hos']))).2, fun hretry => ?_⟩
    rw [List.eq_nil_iff_forall_not_mem]
    intro frame hframe
    exact hnot (o'.offer_of_retry hreachable hsequel hretry hframe).1

theorem exists_first_after {o : Occasion L A} {os : List (Occasion L A)}
    (hr : o.before.Reachable)
    (ih : o.before.connection.state = .openWait → ∃ earlier first between f,
      os = earlier ++ first :: between ∧ first.before.Reachable ∧ (first.own, f) ∈ first.firsts ∧
        Run first.after between o.before ∧ ∀ o' ∈ between, o'.firsts = [])
    (hs : o.after.connection.state = .openWait) :
    ∃ earlier first between f, os ++ [o] = earlier ++ first :: between ∧
      first.before.Reachable ∧ (first.own, f) ∈ first.firsts ∧ Run first.after between o.after ∧
        ∀ o' ∈ between, o'.firsts = [] := by
  rcases hf : firstsIn o.event? o.journal with _ | ⟨f, rest⟩
  · have hnone : o.firsts = [] := o.firsts_eq_nil hf
    have hb : o.before.connection.state = .openWait := by
      by_cases hb : o.before.connection.state = .openWait
      · exact hb
      · exact absurd hs (o.idle hb hnone).1
    obtain ⟨earlier, first, between, f, rfl, hreach, hfirst, hrun, hnext⟩ := ih hb
    exact ⟨earlier, first, between ++ [o], f, by simp, hreach, hfirst, .call o.call hrun,
      List.forall_mem_append.mpr ⟨hnext, List.forall_mem_singleton.mpr hnone⟩⟩
  · have hfirst : (o.own, f) ∈ o.firsts := by
      rw [Occasion.firsts, hf]
      exact List.mem_cons_self
    exact ⟨os, o, [], f, rfl, hr, hfirst, .start, List.forall_mem_nil _⟩

theorem Run.exists_first {link : L} {application : A} {profile : TransportProfile}
    {e₀ e : Endpoint L A} {os : List (Occasion L A)}
    (hc : Endpoint.create link application profile = .ok e₀) (h : Run e₀ os e)
    (hs : e.connection.state = .openWait) :
    ∃ earlier first between f, os = earlier ++ first :: between ∧ first.before.Reachable ∧
      (first.own, f) ∈ first.firsts ∧ Run first.after between e ∧
        ∀ o ∈ between, o.firsts = [] := by
  induction h with
  | start =>
    rw [Endpoint.eq_of_create hc] at hs
    cases hs
  | outside link application statistics _ ih =>
    obtain ⟨earlier, first, between, f, hos, hr, hf, hrun, hb⟩ := ih hs
    exact ⟨earlier, first, between, f, hos, hr, hf, .outside link application statistics hrun, hb⟩
  | @call os e call hrun ih => exact exists_first_after ⟨hc, hrun⟩ ih hs

structure Repeats (max : Nat) (os : List (Occasion L A)) : Prop where
  /-- Up to the next first transmission an answer is repeated as it was. -/
  answer : ∀ earlier first f later, os = earlier ++ first :: later →
    (first.own, f) ∈ first.firsts →
    RepeatedAtMost max f (later.takeWhile (·.firsts.isEmpty))
  /-- A retry offers to the link only what was the last first transmission. -/
  origin : ∀ earlier o later, os = earlier ++ o :: later → o.isRetry = true →
    ∀ frame ∈ o.offers, ∃ before first between, earlier = before ++ first :: between ∧
      (first.own, frame) ∈ first.firsts ∧ ∀ o' ∈ between, o'.firsts = []

theorem repeats_of_run {link : L} {application : A} {profile : TransportProfile}
    {e₀ e : Endpoint L A} {os : List (Occasion L A)}
    (hc : Endpoint.create link application profile = .ok e₀) (h : Run e₀ os e) :
    Repeats profile.maxRepetitions.toNat os := by
  constructor
  · rintro earlier first f later rfl hf
    have hr : first.before.Reachable := ⟨hc, h.split.1⟩
    have hrun := h.split.2
    rw [← List.takeWhile_append_dropWhile (p := (·.firsts.isEmpty)) (l := later)] at hrun
    obtain ⟨e', hrun'⟩ := hrun.of_append
    have hprofile : e'.profile = profile := by
      rw [hrun'.profile_eq, Occasion.profile_after, h.split.1.profile_eq, Endpoint.eq_of_create hc]
    rw [← hprofile]
    refine repeatedAtMost_of_first hr hf hrun' ?_
    intro o hmem
    exact List.isEmpty_iff.mp (List.all_eq_true.mp List.all_takeWhile o hmem)
  · rintro earlier o later rfl hretry frame hframe
    have hrun := h.split.1
    obtain ⟨event, he, hrecalls⟩ := o.effect.recalls_of_offer hretry hframe
    have hs := hrecalls.cause.1
    rw [o.ready_connection] at hs
    obtain ⟨before, first, between, f, rfl, hr, hf, hbetween, hnext⟩ := hrun.exists_first hc hs
    have hsequel := sequel_of_run hr hf hbetween hnext
    obtain ⟨-, rfl, -⟩ := o.offer_of_retry ⟨hc, hrun⟩ hsequel hretry hframe
    exact ⟨before, first, between, rfl, hf, hnext⟩

theorem repeats_silence : (transmitted (Sample.host.history Sample.silence)).length = 2 ∧
    Repeats 1 (Sample.host.history Sample.silence) :=
  ⟨by decide, repeats_of_run Sample.create_host (Sample.host.run_history Sample.silence)⟩

end BusTransport
