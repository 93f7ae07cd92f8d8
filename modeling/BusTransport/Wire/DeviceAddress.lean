import BusTransport.Fault

/-! # Device addresses

A device address is a 16-bit word of four bits area, four bits line and eight bits device number.
It travels with its high octet first and is written with dots between the parts.
-/

namespace BusTransport

structure DeviceAddress where
  raw : UInt16
  deriving DecidableEq, Repr

namespace DeviceAddress

def area (a : DeviceAddress) : Nat := a.raw.toNat / 4096

def line (a : DeviceAddress) : Nat := a.raw.toNat / 256 % 16

def device (a : DeviceAddress) : Nat := a.raw.toNat % 256

/-- The address with the given parts; area and line have only four bits each. -/
def ofParts (area line device : UInt8) : Except AddressFault DeviceAddress :=
  if area.toNat ≤ 15 ∧ line.toNat ≤ 15 then
    .ok ⟨UInt16.ofNat (area.toNat * 4096 + line.toNat * 256 + device.toNat)⟩
  else .error (.outOfRange area line)

def ofOctets (high low : UInt8) : DeviceAddress := ⟨UInt16.ofNat (high.toNat * 256 + low.toNat)⟩

def high (a : DeviceAddress) : UInt8 := UInt8.ofNat (a.raw.toNat / 256)

def low (a : DeviceAddress) : UInt8 := UInt8.ofNat (a.raw.toNat % 256)

def octets (a : DeviceAddress) : Frame := [a.high, a.low]

def text (a : DeviceAddress) : String := s!"{a.area}.{a.line}.{a.device}"

/-- Addresses are ordered by their raw words. -/
instance : Ord DeviceAddress := ⟨fun a b => compare a.raw b.raw⟩

theorem ofOctets_high_low (a : DeviceAddress) : ofOctets a.high a.low = a := by
  obtain ⟨raw⟩ := a
  have h := raw.toNat_lt
  have hr : raw.toNat / 256 % 256 * 256 + raw.toNat % 256 = raw.toNat := by omega
  simp [ofOctets, high, low, hr]

end DeviceAddress

end BusTransport
