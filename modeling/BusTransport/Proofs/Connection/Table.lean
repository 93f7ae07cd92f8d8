import Mathlib.Tactic.SplitIfs
import BusTransport.Connection.Decision

/-! # Table of decisions

The decisions of a connection with the conditions under which each is taken. Whatever matches no
other line is ignored.
-/

namespace BusTransport

namespace ReceiveWindow

theorem check_expected (w : ReceiveWindow) : w.check w.expected = .expected := if_pos rfl

theorem check_previous (w : ReceiveWindow) :
    w.check (SequenceNumber.previous w.expected) = .duplicate := by
  have hne (n : SequenceNumber) : SequenceNumber.previous n ≠ n := by
    revert n
    decide
  rw [check, if_neg (hne w.expected), if_pos rfl]

theorem check_of_ne {w : ReceiveWindow} {n : SequenceNumber} (h : n ≠ w.expected)
    (h' : n ≠ SequenceNumber.previous w.expected) : w.check n = .outOfWindow := by
  rw [check, if_neg h, if_neg h']

end ReceiveWindow

namespace Connection

theorem isOpen_iff {c : Connection} : c.isOpen = true ↔ c.state ≠ .closed := by
  simp [isOpen, ConnectionState.isOpen]

theorem isOpen_of_peer? {c : Connection} {p : DeviceAddress} (h : c.peer? = some p) :
    c.isOpen = true := by
  unfold peer? at h
  split at h
  · assumption
  · cases h

theorem isOpen_of_openIdle {c : Connection} (h : c.state = .openIdle) : c.isOpen = true := by
  rw [isOpen, h]
  rfl

theorem isOpen_of_openWait {c : Connection} (h : c.state = .openWait) : c.isOpen = true := by
  rw [isOpen, h]
  rfl

theorem peer?_of_isOpen {c : Connection} (h : c.isOpen = true) : c.peer? = c.lastPeer := by
  rw [peer?, if_pos h]

theorem peer?_of_not_isOpen {c : Connection} (h : c.isOpen = false) : c.peer? = none := by
  rw [peer?, h]
  rfl

/-- A line of the table: the event, and the decision that it calls for. -/
inductive Decides (c : Connection) (hasRoom : Bool) : Event → Decision → Prop
  | connect {p} : c.state = .closed → Decides c hasRoom (.connect p) ⟨.openIdle, .connect p⟩
  | reject {p} : c.isOpen = true → c.peer? ≠ some p →
      Decides c hasRoom (.connect p) (c.stay (.reject p))
  | leave {p} : c.peer? = some p → Decides c hasRoom (.disconnect p) ⟨.closed, .closeSilently⟩
  | finish {p} : c.state = .openWait → c.peer? = some p →
      Decides c hasRoom (.ack p c.sendSequence) ⟨.openIdle, .finishAnswer⟩
  | mismatch {p n} : c.state = .openWait → c.peer? = some p → n ≠ c.sendSequence →
      Decides c hasRoom (.ack p n) ⟨.closed, .closeAndTell⟩
  | retryNacked {p} : c.state = .openWait → c.peer? = some p →
      Decides c hasRoom (.nack p c.sendSequence) c.retry
  | deliver {p} : c.state = .openIdle → c.peer? = some p → hasRoom = true →
      Decides c hasRoom (.data p c.receiveSequence) (c.stay (.deliver c.receiveSequence))
  | ackAgain {p} : c.peer? = some p →
      Decides c hasRoom (.data p (SequenceNumber.previous c.receiveSequence))
        (c.stay (.ackAgain (SequenceNumber.previous c.receiveSequence)))
  | refuse {p n} : c.peer? = some p → n ≠ c.receiveSequence →
      n ≠ SequenceNumber.previous c.receiveSequence →
      Decides c hasRoom (.data p n) (c.stay (.refuse n))
  | expire : c.isOpen = true → Decides c hasRoom .idleTimeout ⟨.closed, .closeAndTell⟩
  | hangUp : c.isOpen = true → Decides c hasRoom .userDisconnect ⟨.closed, .closeAndTell⟩
  | sendAnswer : c.state = .openIdle → Decides c hasRoom .answerReady ⟨.openWait, .sendAnswer⟩
  | retryLate : c.state = .openWait → Decides c hasRoom .ackTimeout c.retry
  | ignore {event} : c.react hasRoom event = c.stay .ignore →
      Decides c hasRoom event (c.stay .ignore)

theorem fits_iff {c : Connection} {n : SequenceNumber} :
    c.sendWindow.fits n = true ↔ n = c.sendSequence := by
  simp [SendWindow.fits, sendSequence]

theorem reactToData_decides {c : Connection} {hasRoom : Bool} {p : DeviceAddress}
    {n : SequenceNumber} (hp : c.peer? = some p)
    (hr : c.react hasRoom (.data p n) = c.reactToData hasRoom n) :
    Decides c hasRoom (.data p n) (c.reactToData hasRoom n) := by
  by_cases h₁ : n = c.receiveWindow.expected
  · have hc : c.receiveWindow.check n = .expected := h₁ ▸ c.receiveWindow.check_expected
    by_cases h₂ : c.state = .openIdle ∧ hasRoom = true
    · have hd : c.reactToData hasRoom n = c.stay (.deliver n) := by
        simp only [reactToData, hc, h₂, and_self, if_true]
      rw [hd, h₁]
      exact .deliver h₂.1 hp h₂.2
    · have hd : c.reactToData hasRoom n = c.stay .ignore := by
        simp only [reactToData, hc, h₂, if_false]
      rw [hd]
      exact .ignore (hr.trans hd)
  · by_cases h₂ : n = SequenceNumber.previous c.receiveWindow.expected
    · have hc : c.receiveWindow.check n = .duplicate := h₂ ▸ c.receiveWindow.check_previous
      have hd : c.reactToData hasRoom n = c.stay (.ackAgain n) := by simp only [reactToData, hc]
      rw [hd, h₂]
      exact .ackAgain hp
    · have hc := ReceiveWindow.check_of_ne h₁ h₂
      have hd : c.reactToData hasRoom n = c.stay (.refuse n) := by simp only [reactToData, hc]
      rw [hd]
      exact .refuse hp h₁ h₂

theorem react_decides (c : Connection) (hasRoom : Bool) (event : Event) :
    Decides c hasRoom event (c.react hasRoom event) := by
  by_cases hi : c.react hasRoom event = c.stay .ignore
  · rw [hi]
    exact .ignore hi
  cases event with
  | connect sender =>
    simp only [react] at hi ⊢
    split_ifs with h₁ h₂
    · exact .connect h₁
    · simp [h₁, h₂] at hi
    · exact .reject (isOpen_iff.mpr h₁) (fun h => h₂ ((isPeer_iff _ _).mpr h))
  | disconnect sender =>
    simp only [react] at hi ⊢
    split_ifs with h
    · simp only [Bool.and_eq_true, isPeer_iff] at h
      exact .leave h.2
    · simp [h] at hi
  | ack sender n =>
    simp only [react] at hi ⊢
    split_ifs with h hn
    · obtain rfl : n = c.sendSequence := fits_iff.mp hn
      exact .finish h.1 ((isPeer_iff _ _).mp h.2)
    · exact .mismatch h.1 ((isPeer_iff _ _).mp h.2) (fun e => hn (fits_iff.mpr e))
    · simp [h] at hi
  | nack sender n =>
    simp only [react] at hi ⊢
    split_ifs with h
    · obtain rfl : n = c.sendSequence := fits_iff.mp h.2.2
      exact .retryNacked h.1 ((isPeer_iff _ _).mp h.2.1)
    · simp [h] at hi
  | data sender n =>
    by_cases h : c.isOpen && c.isPeer sender
    · have hr : c.react hasRoom (.data sender n) = c.reactToData hasRoom n := by
        simp only [react, h, if_true]
      simp only [Bool.and_eq_true, isPeer_iff] at h
      rw [hr]
      exact reactToData_decides h.2 hr
    · simp [react, h] at hi
  | idleTimeout =>
    simp only [react] at hi ⊢
    split_ifs with h
    · exact .expire h
    · simp [h] at hi
  | answerReady =>
    simp only [react] at hi ⊢
    split_ifs with h
    · exact .sendAnswer h
    · simp [h] at hi
  | ackTimeout =>
    simp only [react] at hi ⊢
    split_ifs with h
    · exact .retryLate h
    · simp [h] at hi
  | userDisconnect =>
    simp only [react] at hi ⊢
    split_ifs with h
    · exact .hangUp h
    · simp [h] at hi

end Connection

end BusTransport
