import BusTransport.Link.Faulty
import BusTransport.Proofs.Endpoint.Connecting
import BusTransport.Proofs.Endpoint.Resemblance

/-! # Clean slates

A connection starts from nothing: the settings of the timers are those of the profile, and opening a
connection sets all else. From its connect on no sequence of calls tells an endpoint with a past
from a new one.
-/

namespace BusTransport

/-- What a connection keeps when it is opened: both timeouts and the limit of its repetitions. -/
def Connection.timing (c : Connection) : Duration × Duration × UInt8 :=
  (c.idleTimer.timeout, c.ackTimer.timeout, c.repeats.limit)

def TransportProfile.timing (p : TransportProfile) : Duration × Duration × UInt8 :=
  (p.connectionTimeout, p.ackTimeout, p.maxRepetitions)

theorem Connection.connectTo_congr {c c' : Connection} (h : c'.timing = c.timing)
    (peer : DeviceAddress) (now : Instant) : c'.connectTo peer now = c.connectTo peer now := by
  simp only [timing, Prod.mk.injEq] at h
  obtain ⟨hidle, hack, hlimit⟩ := h
  simp only [connectTo, Timer.start, Timer.stop, Repetitions.reset, hidle, hack, hlimit]

namespace Dialogue

variable {own : DeviceAddress} {now : Instant} {d d' : Dialogue} {event? : Option Event}
  {journal : List Activity}

theorem Step.timing_eq (h : Step own now d event? journal d') :
    d'.connection.timing = d.connection.timing := by
  cases h with
  | quiet => rfl
  | move h => cases h <;> rfl

end Dialogue

namespace Endpoint

open Turn

section Timing

variable {L A : Type} [Link L] [Application A] {e : Endpoint L A}

theorem Reachable.timing_eq (h : Reachable e) : e.connection.timing = e.profile.timing := by
  apply h.induction (P := fun e => e.connection.timing = e.profile.timing)
  · intro link application profile e hc
    rw [eq_of_create hc]
    rfl
  · intro e link application statistics h
    exact h
  · intro e call h
    have hproceeds := e.proceeds call
    rw [hproceeds.profile_eq, ← h, ← e.connection_ready call]
    exact hproceeds.step.timing_eq

/-- A new endpoint is closed, and its slot is free. -/
theorem reachable_of_create {link : L} {application : A} {profile : TransportProfile}
    (hc : create link application profile = .ok e) :
    e.Reachable ∧ e.link = link ∧ e.profile = profile ∧ e.connection.state = .closed := by
  refine ⟨⟨hc, .start⟩, ?_⟩
  rw [eq_of_create hc]
  exact ⟨rfl, rfl, rfl⟩

end Timing

variable {L L' A A' : Type} [Link L] [Link L'] [Application A] [Application A']
  {e : Endpoint L A} {e' : Endpoint L' A'} {t : Telegram} {call : Call} {frame : Frame}

omit [Application A] in
theorem slot_of_wayOutFree (hf : e.wayOutFree = true) : e.settled.slot = ⟨.free⟩ := by
  have hfree := slot_isFree_of_wayOutFree hf
  rw [ControlSlot.isFree, decide_eq_true_iff] at hfree
  exact congrArg ControlSlot.mk hfree

omit [Application A] [Application A'] in
theorem connected_equals (hprofile : e'.profile = e.profile)
    (htiming : e'.connection.timing = e.connection.timing) (hf : e.wayOutFree = true)
    (hf' : e'.wayOutFree = true) (now : Instant) :
    (connected e t now).Equals (connected e' t now) where
  profile_eq := hprofile
  connection_eq := Connection.connectTo_congr htiming _ now
  slot_eq := (slot_of_wayOutFree hf').trans (slot_of_wayOutFree hf).symm
  answers_eq := rfl
  lastTelegram_eq := rfl

/-- Two endpoints have consumed the same frame, and it has made them equal. -/
structure Levels (e : Endpoint L A) (e' : Endpoint L' A') (call : Call) : Prop where
  left : e.outcome call = .ok (some .consumed)
  right : e'.outcome call = .ok (some .consumed)
  opened : (e.after call).connection.state = .openIdle
  equals : (e.after call).Equals (e'.after call)
  unison : ∀ os g g', Duet (e.after call) (e'.after call) os g g' →
    (∀ o ∈ os, o.2.outcome = o.1.outcome ∧ o.2.journal = o.1.journal) ∧ g.Resembles g'

variable [Link.Passive L] [Link.Passive L']

/-- Whatever has happened to an endpoint without connection, a connect that is no repetition leaves
it in the same state as a new endpoint with the same settings, but for link, application and
counters. From then on the two do the same in every sequence of calls, as long as links behave alike
and applications answer alike. -/
theorem levels_of_connect (h : e.Reachable) (hs : e.connection.state = .closed)
    (hl : Link.sending e.link = false) {link' : L'} {application' : A'}
    (hc : create link' application' e.profile = .ok e') (hl' : Link.sending link' = false)
    (haddress : Link.address link' = Link.address e.link) (hframe : e.handed? call = some frame)
    (hframe' : e'.handed? call = some frame) (ht : Telegram.decode frame = .ok t)
    (hplain : t.repeated = false) (hdest : t.destination = .individual (Link.address e.link))
    (hfield : ControlField.decode t.tpci = .ok .connect) : Levels e e' call := by
  obtain ⟨h', rfl, hprofile, hs'⟩ := reachable_of_create hc
  have hfilter {L A : Type} (e : Endpoint L A) : e.isRepeatOfLast t = false := by
    rw [isRepeatOfLast, hplain, Bool.false_and]
  have hrun := run_connect_of_closed h hs hl ht hdest hfield (hfilter e) call.now
  have hrun' := run_connect_of_closed h' hs' hl' ht (haddress ▸ hdest) hfield (hfilter e') call.now
  obtain ⟨hconsumed, -, link, hafter⟩ := handed_of_run hframe hrun
  obtain ⟨hconsumed', -, link', hafter'⟩ := handed_of_run hframe' hrun'
  have hf := h.wayOutFree hl
  have hf' := h'.wayOutFree hl'
  have htiming : e'.connection.timing = e.connection.timing := by
    rw [h'.timing_eq, h.timing_eq, hprofile]
  have hequals : (e.after call).Equals (e'.after call) := by
    rw [hafter, hafter']
    exact { connected_equals hprofile htiming hf hf' call.now with }
  refine ⟨hconsumed, hconsumed', ?_, hequals, fun os g g' hduet => hduet.unison hequals⟩
  rw [hafter]
  rfl

end Endpoint

namespace Sample

def newcomer : Endpoint (FaultyLink RecordingLink) Responder where
  link := { inner := host.link }
  application := host.application
  profile := host.profile
  connection := host.connection

/-- The host has given up a connection, with a request of its peer still unanswered. -/
def farewell : List Call := silence ++ [.receive (control .connect) 9000000000,
  .receive (request 0) 9000000001, .hangUp 9000000002]

/-- A link around another one that never fails behaves like the link inside. -/
theorem similar_faulty (l : RecordingLink) :
    Link.Similar l ({ inner := l } : FaultyLink RecordingLink) := by
  refine ⟨fun l l' => l' = { inner := l }, ?_, rfl⟩
  constructor
  all_goals
    rintro l _ rfl
  · rfl
  · rfl
  · exact Bool.false_or _
  · rfl
  · exact fun _ => rfl
  · rfl
  · exact fun _ => rfl
  · rfl

end Sample

open Sample Endpoint in
theorem levels_farewell :
    (host.afterAll farewell).Reachable ∧ (host.afterAll farewell).connection.state = .closed ∧
    (host.afterAll farewell).lastTelegram ≠ none ∧
    create newcomer.link newcomer.application (host.afterAll farewell).profile = .ok newcomer ∧
    Levels (host.afterAll farewell) newcomer (.receive (Sample.control .connect) 10000000000) ∧
    ∃ o : Occasion RecordingLink Responder × Occasion (FaultyLink RecordingLink) Responder,
      o.1.call = .receive (request 0) 10000000001 ∧ o.2.journal = o.1.journal ∧
        o.1.accepted ≠ [] := by
  have hreachable := Sample.reachable farewell
  have hs : (host.afterAll farewell).connection.state = .closed := rfl
  have hc : create newcomer.link newcomer.application (host.afterAll farewell).profile =
      .ok newcomer := rfl
  let hello : Call := .receive (Sample.control .connect) 10000000000
  have hlevels : Levels (host.afterAll farewell) newcomer hello := by
    apply levels_of_connect hreachable hs rfl hc rfl rfl rfl rfl
    · exact (rfl : Telegram.decode (Sample.control .connect) = .ok greeting)
    · rfl
    · rfl
    · rfl
  have hstart : Duet ((host.afterAll farewell).after hello) (newcomer.after hello) [] _ _ :=
    .start {} {} (similar_faulty host.link) (.refl host.application)
  have hduet := Duet.call (.receive (request 0) 10000000001) hstart
  obtain ⟨hunison, -⟩ := hlevels.unison _ _ _ hduet
  have hpair := hunison _ List.mem_cons_self
  exact ⟨hreachable, hs, by decide, hc, hlevels, _, rfl, hpair.2, by decide⟩

end BusTransport
