import Mathlib.Data.List.Chain
import BusTransport.Proofs.Endpoint.CleanSlate
import BusTransport.Proofs.Endpoint.Closing
import BusTransport.Proofs.Endpoint.Inertness

/-! # Escalation

What polls do about an answer that nobody acknowledges, over a link that works. It is sent again
whenever the acknowledgement is late, until the repetitions are used up or the connection has been
idle for too long. Then the connection is given up with a disconnect.
-/

namespace BusTransport

theorem AnswerQueue.release_sending {q : AnswerQueue} {entry : PendingAnswer}
    {rest : List PendingAnswer} (h : q.release = q) (hq : q.entries = entry :: rest)
    (frame : Frame) : release ⟨entry.sentAs frame :: rest⟩ = ⟨entry.sentAs frame :: rest⟩ := by
  have htail : rest.map PendingAnswer.released = rest := by
    have hentries := congrArg (fun q => q.entries.tail) h
    simpa only [release, hq, List.map_cons, List.tail_cons] using hentries
  rw [release, List.map_cons, htail]
  rfl

open Endpoint

variable {L A : Type} [Link L] [Application A]

namespace Occasion

/-- A call that finds nothing to do; at most the control slot is freed. -/
structure Idles (o : Occasion L A) : Prop where
  outcome_eq : o.before.outcome o.call = .ok none
  journal_eq : o.journal = []
  after_eq : ∃ slot link, o.after = { o.before with slot, link }

structure Repeats (frame : Frame) (o : Occasion L A) : Prop where
  outcome_eq : o.before.outcome o.call = .ok none
  journal_eq : o.journal = [.offered frame none, .performed .repeatAnswer]
  state : o.after.connection.state = .openWait
  statistics_eq : o.after.statistics = (o.before.statistics.count .timeout).count .repetition

structure GivesUp (own peer : DeviceAddress) (o : Occasion L A) : Prop where
  outcome_eq : o.before.outcome o.call = .ok none
  journal_eq : ∃ frame, controlFrame own peer .disconnect = .ok frame ∧
    o.journal = [.closed peer, .offered frame none, .performed .closeAndTell]
  closed : o.after.connection.state = .closed
  vacant : o.after.dialogue.Vacant

end Occasion

/-- Polls about an answer that was last sent at an instant, after a number of repetitions. -/
inductive Escalation (profile : TransportProfile) (own peer : DeviceAddress) (frame : Frame) :
    Instant → Nat → List (Occasion L A) → Prop
  | nil {last made} : Escalation profile own peer frame last made []
  /-- Nothing is late yet. -/
  | wait {last made o os now} : o.call = .poll now →
      now - last < profile.connectionTimeout.nanoseconds →
      now - last < profile.ackTimeout.nanoseconds → o.Idles →
      Escalation profile own peer frame last made os →
      Escalation profile own peer frame last made (o :: os)
  | again {last made o os now} : o.call = .poll now →
      now - last < profile.connectionTimeout.nanoseconds →
      profile.ackTimeout.nanoseconds ≤ now - last → made < profile.maxRepetitions.toNat →
      o.Repeats frame → Escalation profile own peer frame now (made + 1) os →
      Escalation profile own peer frame last made (o :: os)
  /-- The connection was idle for too long, or no repetition is left. -/
  | giveUp {last made o os now} : o.call = .poll now →
      profile.connectionTimeout.nanoseconds ≤ now - last ∨
        profile.ackTimeout.nanoseconds ≤ now - last ∧ profile.maxRepetitions.toNat ≤ made →
      o.GivesUp own peer → (∀ later ∈ os, later.Idles) →
      Escalation profile own peer frame last made (o :: os)

namespace Turn

variable {e : Endpoint L A} {own p : DeviceAddress} {frame : Frame} {now : Instant}

theorem run_poll_of_late (hdue : e.due? now = some .ackTimeout)
    (hw : Link.Works own e.settled.link) (hs : e.connection.state = .openWait)
    (hm : e.connection.mayRepeat = true) (hf : e.answers.outstandingFrame? = some frame) :
    ∃ link, (Turn.poll now).run { endpoint := e } = .ok () {
      endpoint := { e.settled with
        link
        answers := e.answers.release
        connection := e.connection.repeated now
        statistics := (e.statistics.count .timeout).count .repetition }
      journal := [.offered frame none, .performed .repeatAnswer] } := by
  let c : Course L A := { endpoint := { e.settled with
    answers := e.answers.release, statistics := dutyStatistics e .ackTimeout } }
  obtain ⟨link, hoffer⟩ := run_offer_of_works (c := c) hw frame
  have hr : c.endpoint.dialogue.react .ackTimeout = ⟨.openWait, .repeatAnswer⟩ := by
    change e.connection.react _ .ackTimeout = _
    simp [Connection.react, hs, Connection.retry, hm, Connection.stay]
  have hframe : c.endpoint.answers.outstandingFrame? = some frame :=
    (AnswerQueue.outstandingFrame?_release _).trans hf
  have hperform : (perform none now .repeatAnswer).run c = _ := run_repeatAnswer hframe
  simp only [run_bind, hoffer, run_updateConnection, run_count] at hperform
  have hconnection : { e.connection.repeated now with state := .openWait } =
      e.connection.repeated now := by rw [← hs]; rfl
  refine ⟨link, ?_⟩
  rw [run_poll_of_duty hdue, run_dispatch_of_ok hr hperform]
  change EStateM.Result.ok () ({
    endpoint := { e.settled with
      link
      answers := e.answers.release
      connection := { e.connection.repeated now with state := .openWait }
      statistics := (e.statistics.count .timeout).count .repetition }
    journal := _ } : Course L A) = _
  rw [hconnection]
  rfl

end Turn

namespace Endpoint

open Turn

variable {e e' : Endpoint L A} {os : List (Occasion L A)} {own p : DeviceAddress} {frame : Frame}
  {now last : Instant} {made : Nat}

/-- An answer to a peer was last sent at an instant, and after a number of repetitions it is still
not acknowledged. -/
structure Unanswered (peer : DeviceAddress) (frame : Frame) (last : Instant) (made : Nat)
    (e : Endpoint L A) : Prop where
  reachable : e.Reachable
  state : e.connection.state = .openWait
  peer : e.connection.peer? = some peer
  frame : e.answers.outstandingFrame? = some frame
  released : e.answers.release = e.answers
  idleTimer : e.connection.idleTimer.started = some last
  ackTimer : e.connection.ackTimer.started = some last
  made : e.connection.repeats.count.toNat = made

/-- A free poll without a duty has nothing to do, if the acknowledgements have left before. -/
theorem idles_of_not_due (hf : e.wayOutFree = true) (hdue : e.due? now = none)
    (hq : e.answers.release = e.answers) : Occasion.Idles ⟨e, .poll now⟩ := by
  have hrun := run_poll_of_not_due hf hdue
  rw [hq] at hrun
  have hreport : e.poll now = _ := report_of_run_ok hrun
  constructor
  · change (e.poll now).result.map _ = _
    rw [hreport]
    rfl
  · change (e.poll now).journal = _
    rw [hreport]
  · change ∃ slot link, (e.poll now).endpoint = _
    rw [hreport]
    exact ⟨_, _, rfl⟩

namespace Unanswered

theorem outside (h : e.Unanswered p frame last made) (link : L) (application : A)
    (statistics : Statistics) :
    Unanswered p frame last made { e with link, application, statistics } where
  reachable := h.reachable.run (.outside link application statistics .start)
  state := h.state
  peer := h.peer
  frame := h.frame
  released := h.released
  idleTimer := h.idleTimer
  ackTimer := h.ackTimer
  made := h.made

theorem idleOverdue_iff (h : e.Unanswered p frame last made) :
    e.connection.idleOverdue now = true ↔
      e.profile.connectionTimeout.nanoseconds ≤ now - last := by
  have htimeout : e.connection.idleTimer.timeout = e.profile.connectionTimeout :=
    congrArg Prod.fst h.reachable.timing_eq
  simp [Connection.idleOverdue, Connection.isOpen_of_openWait h.state, Timer.isExpired,
    h.idleTimer, htimeout]

theorem idleOverdue_eq_false (h : e.Unanswered p frame last made)
    (hconnection : now - last < e.profile.connectionTimeout.nanoseconds) :
    e.connection.idleOverdue now = false := by
  rw [← Bool.not_eq_true, h.idleOverdue_iff]
  exact Nat.not_le.mpr hconnection

theorem ackOverdue_iff (h : e.Unanswered p frame last made) :
    e.connection.ackOverdue now = true ↔ e.profile.ackTimeout.nanoseconds ≤ now - last := by
  have htimeout : e.connection.ackTimer.timeout = e.profile.ackTimeout :=
    congrArg (·.2.1) h.reachable.timing_eq
  simp [Connection.ackOverdue, h.state, Timer.isExpired, h.ackTimer, htimeout]

theorem mayRepeat_iff (h : e.Unanswered p frame last made) :
    e.connection.mayRepeat = true ↔ made < e.profile.maxRepetitions.toNat := by
  have hlimit : e.connection.repeats.limit = e.profile.maxRepetitions :=
    congrArg (·.2.2) h.reachable.timing_eq
  rw [Connection.mayRepeat, Repetitions.mayRepeat_iff, hlimit, h.made]

theorem wayOutFree (h : e.Unanswered p frame last made) (hw : Link.Works own e.link) :
    e.wayOutFree = true := (settled_of_works h.reachable.slot_ne_acquired hw).1

theorem due_ackTimeout (h : e.Unanswered p frame last made) (hw : Link.Works own e.link)
    (hconnection : now - last < e.profile.connectionTimeout.nanoseconds)
    (hack : e.profile.ackTimeout.nanoseconds ≤ now - last) : e.due? now = some .ackTimeout := by
  rw [due?_of_free (h.wayOutFree hw) (h.idleOverdue_eq_false hconnection)]
  simp [h.state, h.ackOverdue_iff.mpr hack]

theorem idles (h : e.Unanswered p frame last made) (hw : Link.Works own e.link)
    (hconnection : now - last < e.profile.connectionTimeout.nanoseconds)
    (hack : now - last < e.profile.ackTimeout.nanoseconds) :
    Occasion.Idles ⟨e, .poll now⟩ ∧ Unanswered p frame last made (e.after (.poll now)) := by
  have hdue : e.due? now = none := by
    have hlate : e.connection.ackOverdue now = false := by
      rw [← Bool.not_eq_true, h.ackOverdue_iff]
      exact Nat.not_le.mpr hack
    rw [due?_of_free (h.wayOutFree hw) (h.idleOverdue_eq_false hconnection)]
    simp [h.state, hlate]
  have hidles := idles_of_not_due (h.wayOutFree hw) hdue h.released
  obtain ⟨slot, link, hafter⟩ := hidles.after_eq
  refine ⟨hidles, h.reachable.run (.call (.poll now) .start), ?_, ?_, ?_, ?_, ?_, ?_, ?_⟩
  all_goals
    rw [show e.after (.poll now) = _ from hafter]
  · exact h.state
  · exact h.peer
  · exact h.frame
  · exact h.released
  · exact h.idleTimer
  · exact h.ackTimer
  · exact h.made

theorem repeats (h : e.Unanswered p frame last made) (hw : Link.Works own e.link)
    (hconnection : now - last < e.profile.connectionTimeout.nanoseconds)
    (hack : e.profile.ackTimeout.nanoseconds ≤ now - last)
    (hmade : made < e.profile.maxRepetitions.toNat) :
    Occasion.Repeats frame ⟨e, .poll now⟩ ∧
      Unanswered p frame now (made + 1) (e.after (.poll now)) := by
  have hdue := h.due_ackTimeout hw hconnection hack
  obtain ⟨-, -, hlink⟩ := settled_of_works h.reachable.slot_ne_acquired hw
  obtain ⟨link, hrun⟩ := run_poll_of_late hdue hlink h.state (h.mayRepeat_iff.mpr hmade) h.frame
  have hreport : e.poll now = _ := report_of_run_ok hrun
  have hafter : e.after (.poll now) = _ := congrArg Report.endpoint hreport
  constructor
  · constructor
    · change (e.poll now).result.map _ = _
      rw [hreport]
      rfl
    · exact congrArg Report.journal hreport
    · change (e.after (.poll now)).connection.state = _
      rw [hafter]
      exact h.state
    · change (e.after (.poll now)).statistics = _
      rw [hafter]
  · refine ⟨h.reachable.run (.call (.poll now) .start), ?_, ?_, ?_, ?_, ?_, ?_, ?_⟩
    all_goals
      rw [hafter]
    · exact h.state
    · exact h.peer
    · exact (AnswerQueue.outstandingFrame?_release _).trans h.frame
    · exact AnswerQueue.release_release _
    · rfl
    · rfl
    · have hcount := Repetitions.count_increment e.connection.repeats
      have hlimit := e.profile.maxRepetitions.toNat_lt
      rw [h.made] at hcount
      change e.connection.repeats.increment.count.toNat = _
      omega

theorem givesUp (h : e.Unanswered p frame last made) (hw : Link.Works own e.link)
    (hlate : e.profile.connectionTimeout.nanoseconds ≤ now - last ∨
      e.profile.ackTimeout.nanoseconds ≤ now - last ∧ e.profile.maxRepetitions.toNat ≤ made) :
    Occasion.GivesUp own p ⟨e, .poll now⟩ := by
  have hclear : e.WayClear := wayClear_of_works h.reachable.slot_ne_acquired hw
  have hcloses : e.Closes (.poll now) p := by
    by_cases hconnection : e.profile.connectionTimeout.nanoseconds ≤ now - last
    · have hdue : e.due? now = some .idleTimeout := by
        simp [due?, h.wayOutFree hw, h.idleOverdue_iff.mpr hconnection]
      exact closes_poll hclear hdue (.idle (Connection.isOpen_of_openWait h.state)) h.peer
    · obtain ⟨hack, hmade⟩ := hlate.resolve_left hconnection
      have hdue := h.due_ackTimeout hw (Nat.not_le.mp hconnection) hack
      have hmay : e.connection.mayRepeat = false := by
        rw [← Bool.not_eq_true, h.mayRepeat_iff]
        exact Nat.not_lt.mpr hmade
      exact closes_poll hclear hdue (.late h.state hmay) h.peer
  have hown : e.own = own :=
    (settled_of_works h.reachable.slot_ne_acquired hw).2.2.address_eq (.refl _)
  have hleave := hcloses.leave
  rw [hown] at hleave
  generalize hj : e.journal (.poll now) = journal at hleave
  generalize ho : e.outcome (.poll now) = outcome at hleave
  cases hleave with
  | accepted hf => exact ⟨ho, ⟨_, hf, hj⟩, hcloses.closed, hcloses.vacant⟩
  | @refused bye fault =>
    have hmem : .offered bye (some fault) ∈ e.journal (.poll now) := by
      rw [hj]
      exact List.mem_cons_of_mem _ List.mem_cons_self
    cases accepted_of_works hw hmem

end Unanswered

theorem unanswered_of_sent (hr : e.Reachable)
    (hsent : .performed .sendAnswer ∈ e.journal (.poll now)) : ∃ p frame,
      e.connection.peer? = some p ∧
      e.journal (.poll now) = [.offered frame none, .performed .sendAnswer] ∧
      Unanswered p frame now 0 (e.after (.poll now)) := by
  have hafter : (e.after (.poll now)).Reachable := hr.run (.call (.poll now) .start)
  have hstep := (e.proceeds (.poll now)).step
  rcases hdue : e.due? now with _ | event
  · rw [journal_poll_of_not_due hdue] at hsent
    cases hsent
  have hready : e.ready (.poll now) = e.dialogue.released :=
    if_pos (slot_isFree_of_wayOutFree (wayOutFree_of_due hdue))
  rw [show e.event? (.poll now) = some event from hdue, hready] at hstep
  generalize hd : (e.after (.poll now)).dialogue = d' at hstep
  generalize hj : e.journal (.poll now) = journal at hstep hsent
  cases hstep with
  | move hmove =>
    cases hmove with
    | @sendAnswer entry rest frame hs hq _ =>
      obtain ⟨p, hp⟩ := ((consistent_ready hr.dialogue_consistent (.poll now)).openIdle
        (by rw [hready]; exact hs)).peer
      rw [e.connection_ready] at hp
      have hlast : e.connection.lastPeer = some p := by
        rw [← Connection.peer?_of_isOpen (Connection.isOpen_of_peer? hp), hp]
      have hc : (e.after (.poll now)).connection = _ := congrArg Dialogue.connection hd
      have ha : (e.after (.poll now)).answers = _ := congrArg Dialogue.answers hd
      refine ⟨p, frame, hp, rfl, hafter, ?_, ?_, ?_, ?_, ?_, ?_, ?_⟩
      · rw [hc]
      · rw [hc]
        exact hlast
      · rw [ha]
        rfl
      · rw [ha]
        exact AnswerQueue.release_sending (AnswerQueue.release_release e.answers) hq frame
      · rw [hc]
        rfl
      · rw [hc]
        rfl
      · rw [hc]
        rfl
    | closeAndTell _ _ ht => cases ht <;> simp at hsent
    | _ => simp at hsent

theorem idles_of_run (hr : e.Reachable) (hs : e.connection.state = .closed) (hrun : Run e os e')
    (hpolls : ∀ o ∈ os, ∃ now, o.call = .poll now)
    (hworks : ∀ o ∈ os, Link.Works own o.before.link) : ∀ o ∈ os, o.Idles := by
  induction os generalizing e with
  | nil => exact List.forall_mem_nil _
  | cons o os ih =>
    obtain ⟨hbefore, hlater⟩ := hrun.split_first
    have hreachable := hr.run hbefore
    obtain ⟨link, application, statistics, hb⟩ := hbefore.eq_of_nil
    obtain ⟨before, call⟩ := o
    obtain ⟨now, rfl⟩ := hpolls _ List.mem_cons_self
    have hclosed : before.connection.state = .closed := by
      rw [show before = _ from hb]
      exact hs
    have hf := (settled_of_works hreachable.slot_ne_acquired (hworks _ List.mem_cons_self)).1
    have hq : before.answers.release = before.answers := by
      rw [AnswerQueue.release, hreachable.answers_eq_nil hclosed, List.map_nil,
        ← hreachable.answers_eq_nil hclosed]
    have hidles := idles_of_not_due hf (due?_of_closed hclosed now) hq
    obtain ⟨slot, link', hafter⟩ := hidles.after_eq
    refine List.forall_mem_cons.mpr ⟨hidles, ih ?_ ?_ hlater ?_ ?_⟩
    · exact hreachable.run (.call (.poll now) .start)
    · rw [hafter]
      exact hclosed
    · exact fun o hmem => hpolls o (List.mem_cons_of_mem _ hmem)
    · exact fun o hmem => hworks o (List.mem_cons_of_mem _ hmem)

/-- Polls about an answer that is not acknowledged escalate. -/
theorem Unanswered.escalation (h : e.Unanswered p frame last made) (hrun : Run e os e')
    (hpolls : ∀ o ∈ os, ∃ now, o.call = .poll now)
    (hworks : ∀ o ∈ os, Link.Works own o.before.link) :
    Escalation e.profile own p frame last made os := by
  induction os generalizing e last made with
  | nil => exact .nil
  | cons o os ih =>
    obtain ⟨hbefore, hlater⟩ := hrun.split_first
    have hprofile := hbefore.profile_eq
    obtain ⟨link, application, statistics, hb⟩ := hbefore.eq_of_nil
    obtain ⟨before, call⟩ := o
    obtain ⟨now, rfl⟩ := hpolls _ List.mem_cons_self
    have hw := hworks _ List.mem_cons_self
    have hpolls' := fun o hmem => hpolls o (List.mem_cons_of_mem _ hmem)
    have hworks' := fun o hmem => hworks o (List.mem_cons_of_mem _ hmem)
    have hun : before.Unanswered p frame last made := by
      rw [show before = _ from hb]
      exact h.outside link application statistics
    have hafter : (before.after (.poll now)).profile = before.profile :=
      (before.proceeds _).profile_eq
    rw [← hprofile]
    dsimp only at hlater hw ⊢
    by_cases hconnection : before.profile.connectionTimeout.nanoseconds ≤ now - last
    · have hgives := hun.givesUp hw (.inl hconnection)
      refine .giveUp rfl (.inl hconnection) hgives ?_
      exact idles_of_run (hun.reachable.run (.call (.poll now) .start)) hgives.closed hlater hpolls'
        hworks'
    rw [Nat.not_le] at hconnection
    by_cases hack : before.profile.ackTimeout.nanoseconds ≤ now - last
    · by_cases hmade : made < before.profile.maxRepetitions.toNat
      · obtain ⟨hrepeats, hun'⟩ := hun.repeats hw hconnection hack hmade
        have hrest := ih hun' hlater hpolls' hworks'
        rw [hafter] at hrest
        exact .again rfl hconnection hack hmade hrepeats hrest
      · have hspent := And.intro hack (Nat.not_lt.mp hmade)
        have hgives := hun.givesUp hw (.inr hspent)
        refine .giveUp rfl (.inr hspent) hgives ?_
        exact idles_of_run (hun.reachable.run (.call (.poll now) .start)) hgives.closed hlater
          hpolls' hworks'
    · obtain ⟨hidles, hun'⟩ := hun.idles hw hconnection (Nat.not_le.mp hack)
      have hrest := ih hun' hlater hpolls' hworks'
      rw [hafter] at hrest
      exact .wait rfl hconnection (Nat.not_le.mp hack) hidles hrest

end Endpoint

/-- Polls that come late for the acknowledgement, but not for the connection. -/
def Paced (profile : TransportProfile) (start : Instant) (os : List (Occasion L A)) : Prop :=
  (start :: os.map (·.call.now)).IsChain fun last now =>
    profile.ackTimeout.nanoseconds ≤ now - last ∧
      now - last < profile.connectionTimeout.nanoseconds

instance (profile : TransportProfile) (start : Instant) (os : List (Occasion L A)) :
    Decidable (Paced profile start os) := inferInstanceAs (Decidable (List.IsChain _ _))

omit [Link L] [Application A] in
theorem paced_cons {profile : TransportProfile} {last : Instant} {o : Occasion L A}
    {os : List (Occasion L A)} : Paced profile last (o :: os) ↔
      (profile.ackTimeout.nanoseconds ≤ o.call.now - last ∧
        o.call.now - last < profile.connectionTimeout.nanoseconds) ∧
      Paced profile o.call.now os := List.isChain_cons_cons

/-- At a steady pace the repetitions are used up one by one, and the next poll gives up. -/
theorem Escalation.steady {profile : TransportProfile} {own p : DeviceAddress} {frame : Frame}
    {last : Instant} {made : Nat} {os : List (Occasion L A)}
    (h : Escalation profile own p frame last made os) (hpaced : Paced profile last os)
    (hmade : made ≤ profile.maxRepetitions.toNat) {earlier later : List (Occasion L A)}
    {o : Occasion L A} (hos : os = earlier ++ o :: later) :
    (made + earlier.length < profile.maxRepetitions.toNat → o.Repeats frame) ∧
    (made + earlier.length = profile.maxRepetitions.toNat → o.GivesUp own p) ∧
    (profile.maxRepetitions.toNat < made + earlier.length → o.Idles) := by
  induction h generalizing earlier with
  | nil => simp at hos
  | @wait last made o' os now hcall _ hack =>
    have hlate := (paced_cons.mp hpaced).1.1
    rw [hcall] at hlate
    exact absurd hack (Nat.not_lt.mpr hlate)
  | @again last made o' os now hcall _ _ hleft hrepeats _ ih =>
    have hrest := (paced_cons.mp hpaced).2
    rw [hcall] at hrest
    rcases earlier with _ | ⟨first, earlier⟩
    · obtain ⟨rfl, rfl⟩ := List.cons.inj hos
      refine ⟨fun _ => hrepeats, fun h => ?_, fun h => ?_⟩
      · simp only [List.length_nil] at h; omega
      · simp only [List.length_nil] at h; omega
    · obtain ⟨rfl, rfl⟩ := List.cons.inj hos
      have hlater := ih hrest hleft rfl
      rw [List.length_cons]
      rwa [Nat.add_assoc, Nat.add_comm 1] at hlater
  | @giveUp last made o' os now hcall hcause hgives hidle =>
    have hpace := (paced_cons.mp hpaced).1
    rw [hcall] at hpace
    have hspent := (hcause.resolve_left (Nat.not_le.mpr hpace.2)).2
    rcases earlier with _ | ⟨first, earlier⟩
    · obtain ⟨rfl, rfl⟩ := List.cons.inj hos
      refine ⟨fun h => ?_, fun _ => hgives, fun h => ?_⟩
      · simp only [List.length_nil] at h; omega
      · simp only [List.length_nil] at h; omega
    · obtain ⟨rfl, rfl⟩ := List.cons.inj hos
      have hmem : o ∈ earlier ++ o :: later := List.mem_append_right _ List.mem_cons_self
      rw [List.length_cons]
      exact ⟨fun h => by omega, fun h => by omega, fun _ => hidle o hmem⟩

/-- When a poll has sent an answer and nothing but polls over a link that works follows, they repeat
the answer and give the connection up as the settings say. At a steady pace the connection is closed
by the first poll after all repetitions. -/
theorem escalates_of_sent {e e' : Endpoint L A} {os : List (Occasion L A)} {own : DeviceAddress}
    {start : Instant} (hr : e.Reachable)
    (hsent : .performed .sendAnswer ∈ e.journal (.poll start))
    (hrun : Run (e.after (.poll start)) os e') (hpolls : ∀ o ∈ os, ∃ now, o.call = .poll now)
    (hworks : ∀ o ∈ os, Link.Works own o.before.link) : ∃ p frame,
      e.connection.peer? = some p ∧
      e.journal (.poll start) = [.offered frame none, .performed .sendAnswer] ∧
      Escalation e.profile own p frame start 0 os ∧
      (Paced e.profile start os → ∀ earlier o later, os = earlier ++ o :: later →
        (earlier.length < e.profile.maxRepetitions.toNat → o.Repeats frame) ∧
        (earlier.length = e.profile.maxRepetitions.toNat → o.GivesUp own p) ∧
        (e.profile.maxRepetitions.toNat < earlier.length → o.Idles)) := by
  obtain ⟨p, frame, hp, hj, hun⟩ := Endpoint.unanswered_of_sent hr hsent
  have hescalation := hun.escalation hrun hpolls hworks
  rw [(e.proceeds (.poll start)).profile_eq] at hescalation
  refine ⟨p, frame, hp, hj, hescalation, fun hpaced earlier o later hos => ?_⟩
  have hsteady := hescalation.steady hpaced (Nat.zero_le _) hos
  rwa [Nat.zero_add] at hsteady

namespace Sample

/-- Polls at a steady pace of four seconds, after the answer to a request was sent. -/
def patience : List Call := [.poll 4000000000, .poll 8000000000, .poll 12000000000]

end Sample

open Sample in
theorem escalates_patience : ∃ first second third frame,
    (host.afterAll (silence.take 2)).Reachable ∧
    (host.afterAll (silence.take 2)).journal (.poll 2) =
      [.offered frame none, .performed .sendAnswer] ∧
    (host.afterAll (silence.take 3)).history patience = [first, second, third] ∧
    (∀ o ∈ [first, second, third], Link.Works host.link.address o.before.link) ∧
    Occasion.Repeats frame first ∧ Occasion.GivesUp host.link.address guest second ∧
    third.Idles := by
  have hr := Sample.reachable (silence.take 2)
  have hsent : .performed .sendAnswer ∈ (host.afterAll (silence.take 2)).journal (.poll 2) := by
    decide
  have hrun := (host.afterAll (silence.take 3)).run_history patience
  have hpolls : ∀ o ∈ (host.afterAll (silence.take 3)).history patience,
      ∃ now, o.call = .poll now :=
    List.forall_mem_cons.mpr ⟨⟨_, rfl⟩, List.forall_mem_cons.mpr ⟨⟨_, rfl⟩,
      List.forall_mem_singleton.mpr ⟨_, rfl⟩⟩⟩
  have hworks : ∀ o ∈ (host.afterAll (silence.take 3)).history patience,
      Link.Works host.link.address o.before.link := by
    have hfree : ∀ o ∈ (host.afterAll (silence.take 3)).history patience,
        o.before.link.address = host.link.address ∧ o.before.link.sending = false := by decide
    intro o hmem
    obtain ⟨haddress, hsending⟩ := hfree o hmem
    exact haddress ▸ RecordingLink.works hsending
  obtain ⟨p, frame, hp, hj, -, hsteady⟩ := escalates_of_sent hr hsent hrun hpolls hworks
  obtain rfl : guest = p := Option.some.inj hp
  have hpaced : Paced host.profile 2 ((host.afterAll (silence.take 3)).history patience) := by
    decide
  have hsteps := hsteady hpaced
  exact ⟨_, _, _, frame, hr, hj, rfl, hworks, (hsteps [] _ _ rfl).1 (by decide),
    (hsteps [_] _ _ rfl).2.1 (by decide), (hsteps [_, _] _ _ rfl).2.2 (by decide)⟩

end BusTransport
