/-! # Statistics

An endpoint counts what happens to it in words of 64 bits.
Every frame handed to the link counts twice, as a sent frame and as a frame of its sort.
-/

namespace BusTransport

structure Statistics where
  framesReceived : UInt64 := 0
  framesSent : UInt64 := 0
  controlFramesSent : UInt64 := 0
  answersSent : UInt64 := 0
  repetitions : UInt64 := 0
  duplicates : UInt64 := 0
  nacksSent : UInt64 := 0
  framesRejected : UInt64 := 0
  intrusions : UInt64 := 0
  disconnects : UInt64 := 0
  timeouts : UInt64 := 0
  linkRepeatsIgnored : UInt64 := 0
  deriving DecidableEq, Repr

inductive Occurrence where
  | frameReceived
  | controlFrameSent
  | answerSent
  | repetition
  | duplicate
  | nackSent
  | frameRejected
  | intrusion
  | disconnect
  | timeout
  | linkRepeatIgnored
  deriving DecidableEq, Repr

namespace Statistics

def count (s : Statistics) : Occurrence → Statistics
  | .frameReceived => { s with framesReceived := s.framesReceived + 1 }
  | .controlFrameSent =>
    { s with framesSent := s.framesSent + 1, controlFramesSent := s.controlFramesSent + 1 }
  | .answerSent => { s with framesSent := s.framesSent + 1, answersSent := s.answersSent + 1 }
  | .repetition => { s with framesSent := s.framesSent + 1, repetitions := s.repetitions + 1 }
  | .duplicate => { s with duplicates := s.duplicates + 1 }
  | .nackSent => { s with nacksSent := s.nacksSent + 1 }
  | .frameRejected => { s with framesRejected := s.framesRejected + 1 }
  | .intrusion => { s with intrusions := s.intrusions + 1 }
  | .disconnect => { s with disconnects := s.disconnects + 1 }
  | .timeout => { s with timeouts := s.timeouts + 1 }
  | .linkRepeatIgnored => { s with linkRepeatsIgnored := s.linkRepeatsIgnored + 1 }

def toList (s : Statistics) : List UInt64 := [
  s.framesReceived, s.framesSent, s.controlFramesSent, s.answersSent, s.repetitions, s.duplicates,
  s.nacksSent, s.framesRejected, s.intrusions, s.disconnects, s.timeouts, s.linkRepeatsIgnored]

/-- The rejected frames in percent of all frames received or rejected, zero if there were none. -/
def errorRate (s : Statistics) : Float :=
  let total := s.framesReceived + s.framesRejected
  if total = 0 then 0 else s.framesRejected.toFloat / total.toFloat * 100

end Statistics

end BusTransport
