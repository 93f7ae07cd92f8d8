/-! # Timers and repetitions

A timer compares the instants that its callers give it and never reads a clock.
An instant before the start counts as no time elapsed.
-/

namespace BusTransport

/-- Nanoseconds since an arbitrary origin. -/
abbrev Instant := Nat

structure Duration where
  nanoseconds : Nat
  deriving DecidableEq, Repr

namespace Duration

def ofMilliseconds (n : Nat) : Duration := ⟨n * 1000000⟩

def wholeMilliseconds (d : Duration) : Nat := d.nanoseconds / 1000000

def isZero (d : Duration) : Bool := d.nanoseconds = 0

end Duration

structure Timer where
  timeout : Duration
  started : Option Instant := none
  deriving DecidableEq, Repr

namespace Timer

def start (t : Timer) (now : Instant) : Timer := { t with started := some now }

def stop (t : Timer) : Timer := { t with started := none }

def isRunning (t : Timer) : Bool := t.started.isSome

def isExpired (t : Timer) (now : Instant) : Bool :=
  match t.started with
  | none => false
  | some start => t.timeout.nanoseconds ≤ now - start

@[simp] theorem isExpired_start (t : Timer) (start now : Instant) :
    (t.start start).isExpired now = decide (t.timeout.nanoseconds ≤ now - start) := rfl

@[simp] theorem isExpired_stop (t : Timer) (now : Instant) : t.stop.isExpired now = false := rfl

end Timer

/-- Repetitions of one frame, up to a limit; the count stays at its greatest value. -/
structure Repetitions where
  limit : UInt8
  count : UInt8 := 0
  deriving DecidableEq, Repr

namespace Repetitions

def mayRepeat (r : Repetitions) : Bool := r.count < r.limit

def increment (r : Repetitions) : Repetitions :=
  { r with count := if r.count = 255 then 255 else r.count + 1 }

def reset (r : Repetitions) : Repetitions := { r with count := 0 }

theorem mayRepeat_iff (r : Repetitions) : r.mayRepeat = true ↔ r.count.toNat < r.limit.toNat := by
  simp [mayRepeat, UInt8.lt_iff_toNat_lt]

theorem count_increment (r : Repetitions) :
    r.increment.count.toNat = min (r.count.toNat + 1) 255 := by
  have h := r.count.toNat_lt
  unfold increment
  split
  · next h' => simp [h']
  · next h' =>
    have : r.count.toNat ≠ 255 := fun e => h' (UInt8.toNat_inj.1 e)
    simp only [UInt8.toNat_add, UInt8.reduceToNat]
    omega

end Repetitions

end BusTransport
