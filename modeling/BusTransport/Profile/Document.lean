import BusTransport.Profile.Device
import BusTransport.Text.Json.Record
import BusTransport.Text.Json.Wire

/-! # Profile documents

A profile is written as a JSON object, with durations in whole milliseconds.
A profile that is read has to be one that can work.
-/

namespace BusTransport

/-- The number under which a duration is written: whole milliseconds in 64 bits. -/
def Duration.toJson (d : Duration) : Json := .ofNat (d.wholeMilliseconds % UInt64.size)

def Duration.ofJson? (value : Json) : Option Duration :=
  (value.natBelow? UInt64.size).map ofMilliseconds

namespace TransportProfile

def fields : List (Field TransportProfile) := [
  ⟨"connection_timeout", fun value p =>
    (Duration.ofJson? value).map fun d => { p with connectionTimeout := d }⟩,
  ⟨"ack_timeout", fun value p =>
    (Duration.ofJson? value).map fun d => { p with ackTimeout := d }⟩,
  ⟨"max_repetitions", fun value p =>
    (value.natBelow? UInt8.size).map fun n => { p with maxRepetitions := UInt8.ofNat n }⟩,
  ⟨"control_slot_poll_limit", fun value p =>
    (value.natBelow? UInt32.size).map fun n => { p with slotPollLimit := UInt32.ofNat n }⟩]

def toJson (p : TransportProfile) : Json := .ofFields [
  ("connection_timeout", p.connectionTimeout.toJson),
  ("ack_timeout", p.ackTimeout.toJson),
  ("max_repetitions", .ofNat p.maxRepetitions.toNat),
  ("control_slot_poll_limit", .ofNat p.slotPollLimit.toNat)]

def ofJson? (value : Json) : Option TransportProfile := Field.read? fields {} value

def parse (text : String) : Except ProfileFault TransportProfile :=
  match (Json.parse? text).bind ofJson? with
  | none => .error .malformedTransport
  | some p => p.validate.map fun () => p

end TransportProfile

namespace DeviceProfile

def fields : List (Field DeviceProfile) := [
  ⟨"own_address", fun value p =>
    (DeviceAddress.ofJson? value).map fun address => { p with address }⟩,
  ⟨"poll_interval", fun value p =>
    (Duration.ofJson? value).map fun d => { p with pollInterval := d }⟩,
  ⟨"transport", fun value p =>
    (TransportProfile.ofJson? value).map fun transport => { p with transport }⟩]

def toJson (p : DeviceProfile) : Json := .ofFields [
  ("own_address", p.address.toJson),
  ("poll_interval", p.pollInterval.toJson),
  ("transport", p.transport.toJson)]

def ofJson? (value : Json) : Option DeviceProfile := Field.read? fields {} value

def parse (text : String) : Except ProfileFault DeviceProfile :=
  match (Json.parse? text).bind ofJson? with
  | none => .error .malformedDevice
  | some p => p.validate.map fun () => p

end DeviceProfile

end BusTransport
