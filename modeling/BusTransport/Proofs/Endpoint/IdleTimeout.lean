import BusTransport.Proofs.Endpoint.CleanSlate
import BusTransport.Proofs.Endpoint.Closing
import BusTransport.Proofs.Endpoint.Completion
import BusTransport.Proofs.Endpoint.Life

/-! # The idle timeout

A connection ends by itself when it has shown no sign of life for the time that the profile allows.
A sign of life is an action of six kinds that was carried out to its end. Nothing else starts the
idle timer, and nothing stops it but the end of the connection.
-/

namespace BusTransport

/-- Whether an action is a sign of life of the connection, once it has been carried out. -/
def Action.isVital : Action → Bool
  | connect _ | deliver _ | ackAgain _ | sendAnswer | finishAnswer | repeatAnswer => true
  | ignore | refuse _ | closeSilently | closeAndTell | reject _ => false

def isVital (journal : List Activity) : Bool := (performedIn journal).any Action.isVital

namespace Dialogue

/-- The events that lead to a sign of life, each with the action that it calls for. -/
inductive Stirs (d : Dialogue) : Event → Action → Prop
  | connect {p} : d.connection.state = .closed → Stirs d (.connect p) (.connect p)
  | deliver {p} : d.connection.state = .openIdle → d.connection.peer? = some p →
      d.answers.hasRoom = true →
      Stirs d (.data p d.connection.receiveSequence) (.deliver d.connection.receiveSequence)
  | ackAgain {p n} : d.connection.peer? = some p →
      n = SequenceNumber.previous d.connection.receiveSequence → Stirs d (.data p n) (.ackAgain n)
  | sendAnswer : d.connection.state = .openIdle → Stirs d .answerReady .sendAnswer
  | finishAnswer {p} : d.connection.state = .openWait → d.connection.peer? = some p →
      Stirs d (.ack p d.connection.sendSequence) .finishAnswer
  | repeatAnswer {event} : event.isRetry = true → d.connection.state = .openWait →
      d.connection.mayRepeat = true → Stirs d event .repeatAnswer

/-- What a step means for the idle timer: a sign of life starts it, and without one it goes on
unless the connection ends. -/
inductive Pulse (now : Instant) (d : Dialogue) (event? : Option Event) (journal : List Activity)
    (d' : Dialogue) : Prop
  | vital {event action} : event? = some event → d.Stirs event action →
      performedIn journal = [action] → d'.connection.idleTimer.started = some now →
      Pulse now d event? journal d'
  | still : isVital journal = false → d'.connection.idleTimer = d.connection.idleTimer →
      d'.connection.isOpen = d.connection.isOpen → Pulse now d event? journal d'
  | closed : isVital journal = false → d'.connection.isOpen = false → Pulse now d event? journal d'

variable {own : DeviceAddress} {now : Instant} {d d' : Dialogue} {event : Event}
  {event? : Option Event} {journal : List Activity} {action : Action} {p : DeviceAddress}

theorem Stirs.isVital (h : d.Stirs event action) : action.isVital = true := by
  cases h <;> rfl

theorem isVital_of_told {rest : List Activity} (h : Told own p rest) :
    isVital (.closed p :: rest) = false := by
  cases h <;> rfl

theorem isVital_of_quiet (h : Quiet own journal) : isVital journal = false := by
  cases h <;> rfl

theorem Move.pulse (h : Move own now d event journal d') :
    Pulse now d (some event) journal d' := by
  cases h with
  | connect hs => exact .vital rfl (.connect hs) rfl rfl
  | deliver hs hp hroom => exact .vital rfl (.deliver hs hp hroom) rfl rfl
  | ackAgain hp hn => exact .vital rfl (.ackAgain hp hn) rfl rfl
  | sendAnswer hs => exact .vital rfl (.sendAnswer hs) rfl rfl
  | finishAnswer hs hp => exact .vital rfl (.finishAnswer hs hp) rfl rfl
  | repeatAnswer hr hs hm hf =>
    have hrecalls : d.Recalls event _ := ⟨hr, hf⟩
    exact .vital rfl (.repeatAnswer hrecalls.isRetry hs hm) rfl rfl
  | closeSilently => exact .closed rfl rfl
  | closeAndTell _ _ ht => exact .closed (isVital_of_told ht) rfl
  | ignore | refuse | dropAnswer | reject | refused | halted | lost => exact .still rfl rfl rfl

theorem Move.breaks_of_closed (h : Move own now d event journal d')
    (ho : d.connection.isOpen = true) (hclosed : d'.connection.state = .closed) :
    (∃ p, event = .disconnect p) ∨ d.connection.Breaks event := by
  have hstate := Connection.isOpen_iff.mp ho
  cases h with
  | closeSilently => exact .inl ⟨_, rfl⟩
  | closeAndTell hr => exact .inr ((Connection.breaks_iff _).mpr hr)
  | connect hs => exact absurd hs hstate
  | sendAnswer | finishAnswer => cases hclosed
  | _ => exact absurd hclosed hstate

theorem Step.pulse (h : Step own now d event? journal d') : Pulse now d event? journal d' := by
  cases h with
  | quiet hquiet => exact .still (isVital_of_quiet hquiet) rfl rfl
  | move hmove => exact hmove.pulse

theorem Pulse.isVital_iff (h : Pulse now d event? journal d') : isVital journal = true ↔
    ∃ event action, event? = some event ∧ d.Stirs event action ∧
      performedIn journal = [action] := by
  constructor
  · intro hv
    cases h with
    | vital he hs hj => exact ⟨_, _, he, hs, hj⟩
    | still hn => exact absurd hv (by simp [hn])
    | closed hn => exact absurd hv (by simp [hn])
  · rintro ⟨event, action, -, hs, hj⟩
    simp [BusTransport.isVital, hj, hs.isVital]

end Dialogue

variable {L A : Type} [Link L] [Application A]

def Occasion.vital (o : Occasion L A) : Bool := isVital o.journal

theorem Occasion.pulse (o : Occasion L A) :
    Dialogue.Pulse o.call.now o.ready o.event? o.journal o.after.dialogue :=
  (o.before.proceeds o.call).step.pulse

theorem Occasion.unmoved {o : Occasion L A} (hv : o.vital = false)
    (ho : o.after.connection.isOpen = true) : o.before.connection.isOpen = true ∧
      o.after.connection.idleTimer = o.before.connection.idleTimer := by
  rw [← o.ready_connection]
  cases o.pulse with
  | vital _ hs hj =>
    have hvital : o.vital = true := by simp [vital, isVital, hj, hs.isVital]
    exact absurd hv (by simp [hvital])
  | still _ htimer hopen => exact ⟨hopen.symm.trans ho, htimer⟩
  | closed _ hclosed => exact absurd (ho.symm.trans hclosed) nofun

/-- The idle timer of an open connection was started by its last sign of life. -/
theorem Run.exists_last_vital {link : L} {application : A} {profile : TransportProfile}
    {e₀ e : Endpoint L A} {os : List (Occasion L A)}
    (hc : Endpoint.create link application profile = .ok e₀) (h : Run e₀ os e)
    (ho : e.connection.isOpen = true) :
    ∃ earlier o later, os = earlier ++ o :: later ∧ o.vital = true ∧
      (∀ o' ∈ later, o'.vital = false) ∧
      e.connection.idleTimer.started = some o.call.now := by
  induction h with
  | start =>
    rw [Endpoint.eq_of_create hc] at ho
    cases ho
  | outside link application statistics _ ih => exact ih ho
  | @call os e call hrun ih =>
    have hpulse := (Occasion.mk e call).pulse
    rcases hv : (Occasion.mk e call).vital with _ | _
    · obtain ⟨hopen, htimer⟩ := Occasion.unmoved hv ho
      obtain ⟨earlier, o, later, rfl, hvital, hlater, hstarted⟩ := ih hopen
      refine ⟨earlier, o, later ++ [⟨e, call⟩], by simp, hvital, ?_, ?_⟩
      · exact List.forall_mem_append.mpr ⟨hlater, List.forall_mem_singleton.mpr hv⟩
      · exact (congrArg Timer.started htimer).trans hstarted
    · cases hpulse with
      | vital _ _ _ hstarted => exact ⟨os, ⟨e, call⟩, [], rfl, hv, List.forall_mem_nil _, hstarted⟩
      | still hn => exact absurd hv (by simp [Occasion.vital, hn])
      | closed hn => exact absurd hv (by simp [Occasion.vital, hn])

namespace Endpoint

open Turn

variable {e : Endpoint L A} {now start : Instant} {p : DeviceAddress}

/-- The idle timeout is the duty of a poll exactly when the timer has run out. -/
theorem Reachable.due_idleTimeout_iff [Link.Passive L] (hr : e.Reachable)
    (hl : Link.sending e.link = false) (hp : e.connection.peer? = some p)
    (hs : e.connection.idleTimer.started = some start) : e.due? now = some .idleTimeout ↔
      e.profile.connectionTimeout.nanoseconds ≤ now - start := by
  have htimeout : e.connection.idleTimer.timeout = e.profile.connectionTimeout :=
    congrArg Prod.fst hr.timing_eq
  have hoverdue : e.connection.idleOverdue now = true ↔
      e.profile.connectionTimeout.nanoseconds ≤ now - start := by
    simp [Connection.idleOverdue, Connection.isOpen_of_peer? hp, Timer.isExpired, hs, htimeout]
  rw [← hoverdue]
  simp only [due?, hr.wayOutFree hl, Bool.true_eq_false, if_false]
  constructor
  · intro h
    by_contra hn
    rw [if_neg hn] at h
    split_ifs at h <;> cases h
  · intro h
    rw [if_pos h]

omit [Application A] in
theorem due?_cases {event : Event} (h : e.due? now = some event) :
    event = .idleTimeout ∨ event = .answerReady ∨ event = .ackTimeout := by
  unfold due? at h
  split_ifs at h <;> cases h <;> simp

theorem exhausted_of_closed (hdue : e.due? now ≠ some .idleTimeout)
    (hopen : e.connection.isOpen = true)
    (hclosed : (e.after (.poll now)).connection.state = .closed) :
    e.connection.state = .openWait ∧ e.connection.ackOverdue now = true ∧
      e.connection.mayRepeat = false := by
  have hconnection := e.connection_ready (.poll now)
  have hstep := (e.proceeds (.poll now)).step
  rw [← hconnection] at hopen
  rcases he : e.due? now with _ | event
  · rw [show e.event? (.poll now) = none from he] at hstep
    generalize hd : (e.after (.poll now)).dialogue = d' at hstep
    cases hstep with
    | quiet =>
      have hstate : (e.ready (.poll now)).connection.state = .closed := by rw [← hd]; exact hclosed
      exact absurd hstate (Connection.isOpen_iff.mp hopen)
  · rw [show e.event? (.poll now) = some event from he] at hstep
    cases hstep with
    | move hmove =>
      rcases hmove.breaks_of_closed hopen hclosed with ⟨p, rfl⟩ | hbreaks
      · rcases due?_cases he with h | h | h <;> cases h
      · rw [hconnection] at hbreaks
        cases hbreaks with
        | late hs hm => exact ⟨hs, of_due_ackTimeout he, hm⟩
        | idle => exact absurd he hdue
        | mismatch | nacked | hungUp => rcases due?_cases he with h | h | h <;> cases h

structure TimesOut (os : List (Occasion L A)) (e : Endpoint L A) : Prop where
  /-- The timer runs from the last sign of life. -/
  started : e.connection.isOpen = true → ∃ earlier o later, os = earlier ++ o :: later ∧
    o.vital = true ∧ (∀ o' ∈ later, o'.vital = false) ∧
    e.connection.idleTimer.started = some o.call.now
  /-- A sign of life has the right event and one action that was completed. -/
  vital_iff : ∀ o ∈ os, o.vital = true ↔ ∃ event action, o.event? = some event ∧
    o.ready.Stirs event action ∧ performedIn o.journal = [action]
  /-- Whatever is no sign of life leaves the timer alone, unless it ends the connection. -/
  unmoved : ∀ o ∈ os, o.vital = false → o.after.connection.isOpen = true →
    o.before.connection.isOpen = true ∧
      o.after.connection.idleTimer = o.before.connection.idleTimer
  /-- Calls without an event are no signs of life: their frame was malformed, a repetition of the
  link, for another device, for a group or for all, without connection, or had to wait. -/
  uneventful : ∀ o ∈ os, o.event? = none → o.vital = false
  failed : ∀ o ∈ os, ∀ fault, o.before.outcome o.call = .error fault → o.vital = false
  /-- At every instant a free endpoint closes a connection that has shown no sign of life for too
  long, and any other only for want of an acknowledgement. -/
  due_iff : ∀ p start now, Link.sending e.link = false → e.connection.peer? = some p →
    e.connection.idleTimer.started = some start →
    (e.event? (.poll now) = some .idleTimeout ↔
      e.profile.connectionTimeout.nanoseconds ≤ now - start)
  closes : ∀ p start now, Link.sending e.link = false → e.connection.peer? = some p →
    e.connection.idleTimer.started = some start →
    e.profile.connectionTimeout.nanoseconds ≤ now - start → e.Closes (.poll now) p
  spares : ∀ p start now, Link.sending e.link = false → e.connection.peer? = some p →
    e.connection.idleTimer.started = some start →
    now - start < e.profile.connectionTimeout.nanoseconds →
    (e.after (.poll now)).connection.state = .closed →
    e.connection.state = .openWait ∧ e.connection.ackOverdue now = true ∧
      e.connection.mayRepeat = false

end Endpoint

/-- In every run the idle timer of an open connection counts from the last sign of life. A poll
closes the connection exactly when the time that the profile allows has passed since then. -/
theorem timesOut_of_run [Link.Passive L] {link : L} {application : A} {profile : TransportProfile}
    {e₀ e : Endpoint L A} {os : List (Occasion L A)}
    (hc : Endpoint.create link application profile = .ok e₀) (hrun : Run e₀ os e) :
    e.TimesOut os := by
  have hr : e.Reachable := ⟨hc, hrun⟩
  constructor
  case started => exact hrun.exists_last_vital hc
  case vital_iff => exact fun o _ => o.pulse.isVital_iff
  case unmoved => exact fun o _ => o.unmoved
  case uneventful =>
    intro o _ he
    rw [← Bool.not_eq_true]
    intro hv
    obtain ⟨event, action, hevent, -, -⟩ := o.pulse.isVital_iff.mp hv
    exact nomatch he.symm.trans hevent
  case failed =>
    intro o _ fault ho
    have hnone : performedIn o.journal = [] := Endpoint.performedIn_of_error ho
    simp [Occasion.vital, isVital, hnone]
  case due_iff => exact fun p start now hl hp hs => hr.due_idleTimeout_iff hl hp hs
  case closes =>
    intro p start now hl hp hs hle
    have hdue := (hr.due_idleTimeout_iff hl hp hs).mpr hle
    have hclear := Endpoint.wayClear_of_free (hr.wayOutFree hl)
    exact Endpoint.closes_poll hclear hdue (.idle (Connection.isOpen_of_peer? hp)) hp
  case spares =>
    intro p start now hl hp hs hlt hclosed
    have hdue := mt (hr.due_idleTimeout_iff hl hp hs).mp (Nat.not_le.mpr hlt)
    exact Endpoint.exhausted_of_closed hdue (Connection.isOpen_of_peer? hp) hclosed

open Sample in
/-- After the exchange the host is silent for six seconds, which is a nanosecond too long for a poll
at that instant, and not too long for a poll at an instant from before. -/
theorem timesOut_exchange :
    Endpoint.create host.link host.application host.profile = .ok host ∧
    Run host (host.history exchange) (host.afterAll exchange) ∧ Link.Passive RecordingLink ∧
    (host.afterAll exchange).TimesOut (host.history exchange) ∧
    (host.afterAll exchange).connection.idleTimer.started = some 5 ∧
    (host.afterAll exchange).Closes (.poll 6000000005) guest ∧
    (host.afterAll exchange).event? (.poll 6000000004) ≠ some .idleTimeout ∧
    (host.afterAll exchange).event? (.poll 0) ≠ some .idleTimeout := by
  have hrun := host.run_history exchange
  have htimesOut := timesOut_of_run create_host hrun
  have hl : Link.sending (host.afterAll exchange).link = false := rfl
  have hp : (host.afterAll exchange).connection.peer? = some guest := rfl
  have hs : (host.afterAll exchange).connection.idleTimer.started = some 5 := rfl
  have hearly (now : Nat) (hnow : now < 6000000005) :
      (host.afterAll exchange).event? (.poll now) ≠ some .idleTimeout := by
    intro h
    have hle : 6000000000 ≤ now - 5 := (htimesOut.due_iff guest 5 now hl hp hs).mp h
    omega
  exact ⟨create_host, hrun, inferInstance, htimesOut, hs,
    htimesOut.closes guest 5 6000000005 hl hp hs (by decide), hearly _ (by decide),
    hearly _ (by decide)⟩

end BusTransport
