import BusTransport.Proofs.Endpoint.Consistency

/-! # State tables

The tables of the protocol, a row for each of their lines, with the action that is called for and
the state that it leads to. The rows speak of state, peer, numbers, timers, repetitions and queue
themselves. Decisions are then shown to agree with them, and to ignore what has no row.
-/

namespace BusTransport

namespace Dialogue

/-- A row of the tables, for an event that a dialogue meets at an instant. -/
inductive Listed (d : Dialogue) (now : Instant) : Event → Action → ConnectionState → Prop
  | connect {p} : d.connection.state = .closed →
      Listed d now (.connect p) (.connect p) .openIdle
  | connectAgain {p} : d.connection.peer? = some p →
      Listed d now (.connect p) .ignore d.connection.state
  | intrude {p} : d.connection.state ≠ .closed → d.connection.peer? ≠ some p →
      Listed d now (.connect p) (.reject p) d.connection.state
  | disconnectClosed {p} : d.connection.state = .closed →
      Listed d now (.disconnect p) .ignore .closed
  | disconnect {p} : d.connection.peer? = some p →
      Listed d now (.disconnect p) .closeSilently .closed
  | disconnectOther {p} : d.connection.peer? ≠ some p →
      Listed d now (.disconnect p) .ignore d.connection.state
  | ackUnexpected {p n} : d.connection.state ≠ .openWait →
      Listed d now (.ack p n) .ignore d.connection.state
  | ackOther {p n} : d.connection.peer? ≠ some p →
      Listed d now (.ack p n) .ignore d.connection.state
  | ackWrong {p n} : d.connection.state = .openWait → d.connection.peer? = some p →
      n ≠ d.connection.sendSequence → Listed d now (.ack p n) .closeAndTell .closed
  | ack {p} : d.connection.state = .openWait → d.connection.peer? = some p →
      Listed d now (.ack p d.connection.sendSequence) .finishAnswer .openIdle
  | nackStray {p n} : d.connection.state = .closed ∨ d.connection.peer? ≠ some p ∨
      n ≠ d.connection.sendSequence → Listed d now (.nack p n) .ignore d.connection.state
  | nack {p} : d.connection.state = .openWait → d.connection.peer? = some p →
      d.connection.repeats.count < d.connection.repeats.limit →
      Listed d now (.nack p d.connection.sendSequence) .repeatAnswer .openWait
  | nackExhausted {p} : d.connection.state = .openWait → d.connection.peer? = some p →
      d.connection.repeats.limit ≤ d.connection.repeats.count →
      Listed d now (.nack p d.connection.sendSequence) .closeAndTell .closed
  | dataOther {p n} : d.connection.peer? ≠ some p →
      Listed d now (.data p n) .ignore d.connection.state
  | dataNew {p} : d.connection.state = .openIdle → d.answers.size < 2 →
      d.connection.peer? = some p →
      Listed d now (.data p d.connection.receiveSequence) (.deliver d.connection.receiveSequence)
        .openIdle
  /-- New data has to wait while an answer is outstanding or the queue is full. -/
  | dataEarly {p} : d.connection.state = .openWait ∨ 2 ≤ d.answers.size →
      d.connection.peer? = some p →
      Listed d now (.data p d.connection.receiveSequence) .ignore d.connection.state
  | dataAgain {p n} : d.connection.peer? = some p →
      n = SequenceNumber.previous d.connection.receiveSequence →
      Listed d now (.data p n) (.ackAgain n) d.connection.state
  | dataStray {p n} : d.connection.peer? = some p → n ≠ d.connection.receiveSequence →
      n ≠ SequenceNumber.previous d.connection.receiveSequence →
      Listed d now (.data p n) (.refuse n) d.connection.state
  | idle : d.connection.isOpen = true → d.connection.idleTimer.isExpired now = true →
      Listed d now .idleTimeout .closeAndTell .closed
  | answer {entry rest} : d.connection.idleTimer.isExpired now = false →
      d.connection.state = .openIdle → d.answers.entries = entry :: rest → entry.phase = .ready →
      Listed d now .answerReady .sendAnswer .openWait
  | late : d.connection.idleTimer.isExpired now = false → d.connection.state = .openWait →
      d.connection.ackTimer.isExpired now = true →
      d.connection.repeats.count < d.connection.repeats.limit →
      Listed d now .ackTimeout .repeatAnswer .openWait
  | lateExhausted : d.connection.idleTimer.isExpired now = false →
      d.connection.state = .openWait → d.connection.ackTimer.isExpired now = true →
      d.connection.repeats.limit ≤ d.connection.repeats.count →
      Listed d now .ackTimeout .closeAndTell .closed
  | userDisconnect : d.connection.isOpen = true →
      Listed d now .userDisconnect .closeAndTell .closed

/-- What the tables call for: the action and state of a row, and nothing where there is no row. -/
inductive Prescribed (d : Dialogue) (now : Instant) (event : Event) :
    Action → ConnectionState → Prop
  | listed {action state} : Listed d now event action state → Prescribed d now event action state
  | unlisted : (∀ action state, ¬ Listed d now event action state) →
      Prescribed d now event .ignore d.connection.state

/-- The clock and the queue give the reason for an event that no frame brings. -/
structure Timely (d : Dialogue) (now : Instant) (event : Event) : Prop where
  idle : event = .idleTimeout → d.connection.idleTimer.isExpired now = true
  answer : event = .answerReady → d.connection.idleTimer.isExpired now = false ∧
    ∃ entry rest, d.answers.entries = entry :: rest ∧ entry.phase = .ready
  late : event = .ackTimeout → d.connection.idleTimer.isExpired now = false ∧
    d.connection.ackTimer.isExpired now = true

variable {d : Dialogue} {now : Instant} {event : Event} {action : Action}
  {state : ConnectionState} {p : DeviceAddress}

theorem react_data (hp : d.connection.peer? = some p) (n : SequenceNumber) :
    d.react (.data p n) = d.connection.reactToData d.answers.hasRoom n := by
  have ho := Connection.isOpen_of_peer? hp
  have hpeer := (d.connection.isPeer_iff p).mpr hp
  simp only [react, Connection.react, ho, hpeer, Bool.and_self, if_true]

theorem react_nackStray {n : SequenceNumber} (h : d.connection.state = .closed ∨
    d.connection.peer? ≠ some p ∨ n ≠ d.connection.sendSequence) :
    d.react (.nack p n) = d.connection.stay .ignore := by
  apply if_neg
  rintro ⟨hs, hp, hn⟩
  rcases h with hs' | hp' | hn'
  · rw [hs] at hs'
    cases hs'
  · exact hp' ((d.connection.isPeer_iff p).mp hp)
  · exact hn' (Connection.fits_iff.mp hn)

theorem reactToData_receiveSequence (d : Dialogue) :
    d.connection.reactToData d.answers.hasRoom d.connection.receiveSequence = d.connection.stay
      (if d.connection.state = .openIdle ∧ d.answers.size < 2 then
        .deliver d.connection.receiveSequence else .ignore) := by
  have hcheck := d.connection.receiveWindow.check_expected
  simp only [Connection.reactToData, Connection.receiveSequence, hcheck, AnswerQueue.hasRoom_iff]

theorem react_of_listed (h : Listed d now event action state) :
    d.react event = ⟨state, action⟩ := by
  cases h with
  | connect hs => simp [react, Connection.react, hs]
  | connectAgain hp =>
    have hs := Connection.isOpen_iff.mp (Connection.isOpen_of_peer? hp)
    simp [react, Connection.react, Connection.isPeer, Connection.stay, hs, hp]
  | intrude hs hp => simp [react, Connection.react, Connection.isPeer, Connection.stay, hs, hp]
  | disconnectClosed hs =>
    simp [react, Connection.react, Connection.isOpen, ConnectionState.isOpen, Connection.stay, hs]
  | disconnect hp =>
    simp [react, Connection.react, Connection.isPeer, Connection.isOpen_of_peer? hp, hp]
  | disconnectOther hp => simp [react, Connection.react, Connection.isPeer, Connection.stay, hp]
  | ackUnexpected hs => simp [react, Connection.react, Connection.stay, hs]
  | ackOther hp => simp [react, Connection.react, Connection.isPeer, Connection.stay, hp]
  | ackWrong hs hp hn =>
    simp [react, Connection.react, Connection.isPeer, Connection.fits_iff, hs, hp, hn]
  | ack hs hp => simp [react, Connection.react, Connection.isPeer, Connection.fits_iff, hs, hp]
  | nackStray h => exact react_nackStray h
  | nack hs hp hm =>
    simp [react, Connection.react, Connection.isPeer, Connection.fits_iff, Connection.retry,
      Connection.mayRepeat, Repetitions.mayRepeat, Connection.stay, hs, hp, hm]
  | nackExhausted hs hp hm =>
    simp [react, Connection.react, Connection.isPeer, Connection.fits_iff, Connection.retry,
      Connection.mayRepeat, Repetitions.mayRepeat, UInt8.not_lt.mpr hm, hs, hp]
  | dataOther hp => simp [react, Connection.react, Connection.isPeer, Connection.stay, hp]
  | dataNew hs hroom hp =>
    rw [react_data hp, reactToData_receiveSequence, if_pos ⟨hs, hroom⟩, Connection.stay, hs]
  | dataEarly h hp =>
    have hno : ¬ (d.connection.state = .openIdle ∧ d.answers.size < 2) := by
      rintro ⟨hs, hroom⟩
      rcases h with hs' | hfull
      · rw [hs] at hs'
        cases hs'
      · exact Nat.not_le.mpr hroom hfull
    rw [react_data hp, reactToData_receiveSequence, if_neg hno]
    rfl
  | dataAgain hp hn =>
    have hcheck := d.connection.receiveWindow.check_previous
    subst hn
    rw [react_data hp]
    simp only [Connection.reactToData, Connection.receiveSequence, hcheck]
    rfl
  | dataStray hp hn hn' =>
    rw [react_data hp]
    simp only [Connection.reactToData, ReceiveWindow.check_of_ne hn hn']
    rfl
  | idle ho => simp [react, Connection.react, ho]
  | answer _ hs => simp [react, Connection.react, hs]
  | late _ hs _ hm =>
    simp [react, Connection.react, Connection.retry, Connection.mayRepeat, Repetitions.mayRepeat,
      Connection.stay, hs, hm]
  | lateExhausted _ hs _ hm =>
    simp [react, Connection.react, Connection.retry, Connection.mayRepeat, Repetitions.mayRepeat,
      UInt8.not_lt.mpr hm, hs]
  | userDisconnect ho => simp [react, Connection.react, ho]

theorem react_of_unlisted (h : Timely d now event)
    (hnone : ∀ action state, ¬ Listed d now event action state) :
    d.react event = d.connection.stay .ignore := by
  have hdecides := Connection.react_decides d.connection d.answers.hasRoom event
  change d.connection.Decides d.answers.hasRoom event (d.react event) at hdecides
  generalize d.react event = decision at hdecides
  cases hdecides with
  | connect hs => exact absurd (.connect hs) (hnone _ _)
  | reject ho hp => exact absurd (.intrude (Connection.isOpen_iff.mp ho) hp) (hnone _ _)
  | leave hp => exact absurd (.disconnect hp) (hnone _ _)
  | finish hs hp => exact absurd (.ack hs hp) (hnone _ _)
  | mismatch hs hp hn => exact absurd (.ackWrong hs hp hn) (hnone _ _)
  | retryNacked hs hp =>
    rcases UInt8.lt_or_le d.connection.repeats.count d.connection.repeats.limit with hm | hm
    · exact absurd (.nack hs hp hm) (hnone _ _)
    · exact absurd (.nackExhausted hs hp hm) (hnone _ _)
  | deliver hs hp hroom =>
    exact absurd (.dataNew hs (AnswerQueue.hasRoom_iff.mp hroom) hp) (hnone _ _)
  | ackAgain hp => exact absurd (.dataAgain hp rfl) (hnone _ _)
  | refuse hp hn hn' => exact absurd (.dataStray hp hn hn') (hnone _ _)
  | expire ho => exact absurd (.idle ho (h.idle rfl)) (hnone _ _)
  | hangUp ho => exact absurd (.userDisconnect ho) (hnone _ _)
  | sendAnswer hs =>
    obtain ⟨hidle, entry, rest, hq, hphase⟩ := h.answer rfl
    exact absurd (.answer hidle hs hq hphase) (hnone _ _)
  | retryLate hs =>
    obtain ⟨hidle, hlate⟩ := h.late rfl
    rcases UInt8.lt_or_le d.connection.repeats.count d.connection.repeats.limit with hm | hm
    · exact absurd (.late hidle hs hlate hm) (hnone _ _)
    · exact absurd (.lateExhausted hidle hs hlate hm) (hnone _ _)
  | ignore => rfl

theorem prescribed_react (h : Timely d now event) :
    Prescribed d now event (d.react event).action (d.react event).state := by
  by_cases hrow : ∃ action state, Listed d now event action state
  · obtain ⟨action, state, hlisted⟩ := hrow
    rw [react_of_listed hlisted]
    exact .listed hlisted
  · have hnone : ∀ action state, ¬ Listed d now event action state :=
      fun action state hlisted => hrow ⟨action, state, hlisted⟩
    rw [react_of_unlisted h hnone]
    exact .unlisted hnone

/-- What is decided is all that the tables call for. -/
theorem prescribed_iff (h : Timely d now event) :
    Prescribed d now event action state ↔ d.react event = ⟨state, action⟩ := by
  constructor
  · intro hprescribed
    cases hprescribed with
    | listed hlisted => exact react_of_listed hlisted
    | unlisted hnone => exact react_of_unlisted h hnone
  · intro hreact
    have hdecided := prescribed_react h
    rwa [hreact] at hdecided

end Dialogue

end BusTransport
