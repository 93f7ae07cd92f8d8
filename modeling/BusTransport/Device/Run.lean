import BusTransport.Device.Basic

/-! # Runs

A run of a device begins with a tick and goes on with one tick per poll interval.
Frames are taken at the instants at which they arrive, until the run is stopped.
-/

namespace BusTransport

inductive Stimulus where
  | arrival (frame : Frame)
  | tick
  deriving DecidableEq, Repr

/-- A frame and the instant of its arrival after the start of a run. -/
structure Arrival where
  after : Duration
  frame : Frame
  deriving DecidableEq, Repr

namespace Device

variable {A : Type}

def ticks (pollInterval length : Duration) : List (Duration × Stimulus) :=
  (List.range (length.nanoseconds / pollInterval.nanoseconds + 1)).map fun n =>
    (⟨n * pollInterval.nanoseconds⟩, .tick)

/-- The stimuli of a run in order of time; at one instant arrivals come before a tick. -/
def timeline (arrivals : List Arrival) (pollInterval length : Duration) :
    List (Duration × Stimulus) :=
  (arrivals.map fun a => (a.after, Stimulus.arrival a.frame)).merge (ticks pollInterval length)
    fun x y => x.1.nanoseconds ≤ y.1.nanoseconds

variable [Application A]

def stimulate (d : Device A) : Stimulus → List Dated × Device A
  | .arrival frame => (d.arrive frame).take
  | .tick => d.tick

def undergo (start : Instant) : List (Duration × Stimulus) → Device A → List Dated × Device A
  | [], d => ([], d)
  | (after, stimulus) :: rest, d =>
    let (now, d) := (d.atInstant (start + after.nanoseconds)).stimulate stimulus
    let (later, d) := undergo start rest d
    (now ++ later, d)

/-- Run a device for some length of time; frames that arrive in it are given in order of time. -/
def run (d : Device A) (arrivals : List Arrival) (length : Duration) : List Dated × Device A :=
  let stop := d.clock + length.nanoseconds
  let (dated, d) := undergo d.clock (timeline arrivals d.pollInterval length) d
  (dated, d.atInstant stop)

end Device

end BusTransport
