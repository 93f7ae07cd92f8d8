import BusTransport.Profile.Transport
import BusTransport.Wire.DeviceAddress

/-! # Device profile

The address of a device, the pace of its run loop, and its transport profile.
-/

namespace BusTransport

structure DeviceProfile where
  /-- A device that was never programmed has the highest address. -/
  address : DeviceAddress := ⟨0xFFFF⟩
  pollInterval : Duration := .ofMilliseconds 5
  transport : TransportProfile := {}
  deriving DecidableEq, Repr

namespace DeviceProfile

def validate (p : DeviceProfile) : Except ProfileFault Unit :=
  if p.pollInterval.isZero then .error .zeroPollInterval else p.transport.validate

end DeviceProfile

end BusTransport
