import BusTransport.Connection.Timer
import BusTransport.Fault

/-! # Transport profile

The timing of one connection and the patience of the control slot.
-/

namespace BusTransport

structure TransportProfile where
  /-- An open connection without activity is closed after this time. -/
  connectionTimeout : Duration := .ofMilliseconds 6000
  /-- An unacknowledged answer is repeated after this time. -/
  ackTimeout : Duration := .ofMilliseconds 3000
  /-- An answer is repeated at most this often. -/
  maxRepetitions : UInt8 := 3
  /-- The control slot is tried at most this often in a row. -/
  slotPollLimit : UInt32 := 1
  deriving DecidableEq, Repr

namespace TransportProfile

/-- Timeouts and the poll limit have to be positive; the first zero is reported. -/
def validate (p : TransportProfile) : Except ProfileFault Unit :=
  if p.connectionTimeout.isZero then .error .zeroConnectionTimeout
  else if p.ackTimeout.isZero then .error .zeroAckTimeout
  else if p.slotPollLimit = 0 then .error .zeroPollLimit
  else .ok ()

end TransportProfile

end BusTransport
