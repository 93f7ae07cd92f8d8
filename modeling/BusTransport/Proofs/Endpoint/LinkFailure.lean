import BusTransport.Proofs.Endpoint.Consistency

/-! # Refused frames

A call whose frame the link refuses has broken the connection off before it told the peer, or else
has left connection and answers alone.
-/

namespace BusTransport

/-- The events at which a connection is broken off, and the peer told. -/
inductive Connection.Breaks (c : Connection) : Event → Prop
  | mismatch {p n} : c.state = .openWait → c.peer? = some p → n ≠ c.sendSequence →
      Breaks c (.ack p n)
  | nacked {p} : c.state = .openWait → c.peer? = some p → c.mayRepeat = false →
      Breaks c (.nack p c.sendSequence)
  | late : c.state = .openWait → c.mayRepeat = false → Breaks c .ackTimeout
  | idle : c.isOpen = true → Breaks c .idleTimeout
  | hungUp : c.isOpen = true → Breaks c .userDisconnect

theorem Connection.breaks_iff {c : Connection} {event : Event} (hasRoom : Bool) :
    c.Breaks event ↔ c.react hasRoom event = ⟨.closed, .closeAndTell⟩ := by
  constructor
  · intro h
    cases h with
    | mismatch hs hp hn =>
      have hfits : c.sendWindow.fits _ ≠ true := fun hf => hn (fits_iff.mp hf)
      simp [react, hs, isPeer_iff, hp, hfits]
    | nacked hs hp hm =>
      have hfits : c.sendWindow.fits c.sendSequence = true := fits_iff.mpr rfl
      simp [react, hs, isPeer_iff, hp, hfits, retry, hm]
    | late hs hm => simp [react, hs, retry, hm]
    | idle ho => simp [react, ho]
    | hungUp ho => simp [react, ho]
  · intro hr
    have hretry : c.retry = ⟨.closed, .closeAndTell⟩ → c.mayRepeat = false := by
      intro h
      rcases hm : c.mayRepeat with _ | _
      · rfl
      · simp [retry, hm, stay] at h
    have hd := react_decides c hasRoom event
    rw [hr] at hd
    generalize hdec : (⟨.closed, .closeAndTell⟩ : Decision) = decision at hd
    cases hd with
    | mismatch hs hp hn => exact .mismatch hs hp hn
    | retryNacked hs hp => exact .nacked hs hp (hretry hdec.symm)
    | retryLate hs => exact .late hs (hretry hdec.symm)
    | expire ho => exact .idle ho
    | hangUp ho => exact .hungUp ho
    | _ => simp [stay] at hdec

namespace Dialogue

variable {own : DeviceAddress} {now : Instant} {d d' : Dialogue} {event : Event}
  {journal : List Activity} {frame : Frame} {fault : LinkFault}

inductive Move.Failed (own : DeviceAddress) (d : Dialogue) (event : Event) (frame : Frame)
    (fault : LinkFault) : List Activity → Dialogue → Prop
  | kept : Needs own d event frame → Failed own d event frame fault [.offered frame (some fault)] d
  | broken {p} : d.connection.Breaks event → d.connection.peer? = some p →
      Failed own d event frame fault [.closed p, .offered frame (some fault)]
        ⟨d.connection.close, {}⟩

theorem Move.failed (h : Move own now d event journal d')
    (hmem : .offered frame (some fault) ∈ journal) :
    Move.Failed own d event frame fault journal d' := by
  cases h with
  | refused hneeds =>
    rw [List.mem_singleton] at hmem
    cases hmem
    exact .kept hneeds
  | closeAndTell hr hp htold =>
    cases htold with
    | refused _ =>
      obtain ⟨rfl, rfl⟩ : frame = _ ∧ fault = _ := by simpa using hmem
      exact .broken ((Connection.breaks_iff _).mpr hr) hp
    | sent _ => simp at hmem
    | blocked => simp at hmem
  | _ => simp at hmem

theorem Needs.not_breaks (h : Needs own d event frame) : ¬ d.connection.Breaks event := by
  intro hb
  have hr : d.react event = ⟨.closed, .closeAndTell⟩ := (Connection.breaks_iff _).mp hb
  cases h with
  | control hs _ _ => simp [hr, Action.sendsFirst] at hs
  | answer => cases hb
  | repetition hr' _ => simp [hr] at hr'

theorem vacant_close (c : Connection) : Vacant ⟨c.close, {}⟩ := ⟨rfl, rfl, rfl, rfl, rfl⟩

end Dialogue

namespace Endpoint

open Dialogue

variable {L A : Type} [Link L]

theorem answers_ready_release (e : Endpoint L A) (call : Call) :
    (e.ready call).answers.release = e.answers.release :=
  e.ready_induction call rfl (AnswerQueue.release_release e.answers)

theorem react_ready (e : Endpoint L A) (call : Call) (event : Event) :
    (e.ready call).react event = e.dialogue.react event := by
  have hroom := AnswerQueue.hasRoom_release e.answers
  exact e.ready_induction call rfl (congrArg (e.connection.react · event) hroom)

variable [Application A] {e : Endpoint L A} {call : Call} {frame : Frame} {fault : LinkFault}

structure Broken (e : Endpoint L A) (call : Call) (frame : Frame) (fault : LinkFault) : Prop where
  cause : ∃ event, e.event? call = some event ∧ e.connection.Breaks event
  closed : (e.after call).connection.state = .closed
  vacant : (e.after call).dialogue.Vacant
  journal_eq : ∃ p, e.connection.peer? = some p ∧
    e.journal call = [.closed p, .offered frame (some fault)]

/-- The call left connection and answers alone, but that a poll may note that acknowledgements have
left. -/
structure Kept (e : Endpoint L A) (call : Call) : Prop where
  cause : ∀ event, e.event? call = some event → ¬ e.connection.Breaks event
  dialogue_eq : (e.after call).dialogue = e.ready call
  connection_eq : (e.after call).connection = e.connection
  answers_eq : (e.after call).answers = e.answers ∨
    (∃ now, call = .poll now) ∧ (e.after call).answers = e.answers.release
  unasked : ∀ r answer, .requested r answer ∈ e.journal call → r.sequence = none
  unclosed : ∀ p, .closed p ∉ e.journal call

theorem answers_of_ready (h : (e.after call).dialogue = e.ready call) :
    (e.after call).answers = e.answers ∨
      (∃ now, call = .poll now) ∧ (e.after call).answers = e.answers.release := by
  have ha : (e.after call).answers = (e.ready call).answers := congrArg Dialogue.answers h
  rw [ha]
  cases call with
  | poll now =>
    simp only [ready]
    split_ifs
    · exact .inr ⟨⟨now, rfl⟩, rfl⟩
    · exact .inl rfl
  | receive frame now => exact .inl rfl
  | serve now => exact .inl rfl
  | hangUp now => exact .inl rfl

theorem kept_or_broken (h : .offered frame (some fault) ∈ e.journal call) :
    e.Kept call ∨ e.Broken call frame fault := by
  have hstep := (e.proceeds call).step
  have hconnection := e.connection_ready call
  have hconn_of_ready (hd : (e.after call).dialogue = e.ready call) :
      (e.after call).connection = e.connection :=
    (congrArg Dialogue.connection hd).trans hconnection
  generalize hd : (e.after call).dialogue = d' at hstep
  generalize hj : e.journal call = journal at hstep h
  rcases he : e.event? call with _ | event
  · rw [he] at hstep
    cases hstep with
    | quiet hquiet =>
      left
      refine ⟨by rw [he]; exact nofun, hd, hconn_of_ready hd, answers_of_ready hd, ?_, ?_⟩
      · rw [hj]
        cases hquiet <;> simp_all
      · rw [hj]
        cases hquiet <;> simp
  · rw [he] at hstep
    cases hstep with
    | move hmove =>
      cases hmove.failed h with
      | kept hneeds =>
        left
        refine ⟨?_, hd, hconn_of_ready hd, answers_of_ready hd, ?_, ?_⟩
        · intro event' he'
          rw [he] at he'
          cases he'
          rw [← hconnection]
          exact hneeds.not_breaks
        · rw [hj]
          simp
        · rw [hj]
          simp
      | broken hbreaks hp =>
        right
        rw [hconnection] at hbreaks hp hd
        refine ⟨⟨event, he, hbreaks⟩, ?_, ?_, _, hp, hj⟩
        · exact congrArg (fun d => d.connection.state) hd
        · rw [hd]
          exact vacant_close _

end Endpoint

end BusTransport
