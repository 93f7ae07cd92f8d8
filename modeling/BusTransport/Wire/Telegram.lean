import BusTransport.Wire.DeviceAddress
import BusTransport.Wire.Priority

/-! # Telegrams

A telegram is the content of one standard frame without its checksum.
The transport control octet is carried as it is, and the payload never has more than 15 octets.
-/

namespace BusTransport

inductive Destination where
  | individual (address : DeviceAddress)
  | group (raw : UInt16)
  | broadcast
  deriving DecidableEq, Repr

def Destination.text : Destination → String
  | .individual address => address.text
  | .group raw => s!"{raw.toNat / 2048}/{raw.toNat / 256 % 8}/{raw.toNat % 256}"
  | .broadcast => "broadcast"

def maxPayloadLength : Nat := 15

structure Telegram where
  priority : Priority
  repeated : Bool
  source : DeviceAddress
  destination : Destination
  routingCounter : Fin 8
  tpci : UInt8
  payload : List UInt8
  payload_le : payload.length ≤ maxPayloadLength
  deriving DecidableEq, Repr

namespace Telegram

instance neZero : @NeZero Nat Zero.ofOfNat0 8 := ⟨by decide⟩

/-- The octets around the payload: six of header, the control octet and the checksum. -/
def overhead : Nat := 8

def maxLength : Nat := overhead + maxPayloadLength

/-- Telegrams sent by this device start with this routing counter. -/
def ownRoutingCounter : Fin 8 := 6

/-- A telegram of this device, not marked as repeated. -/
def build (priority : Priority) (source : DeviceAddress) (destination : Destination)
    (tpci : UInt8) (payload : List UInt8) : Except FrameFault Telegram :=
  if h : payload.length ≤ maxPayloadLength then
    .ok ⟨priority, false, source, destination, ownRoutingCounter, tpci, payload, h⟩
  else .error (.payloadTooLong payload.length)

theorem build_eq_ok_iff {priority : Priority} {source : DeviceAddress}
    {destination : Destination} {tpci : UInt8} {payload : List UInt8} {t : Telegram} :
    build priority source destination tpci payload = .ok t ↔
      ∃ hle : payload.length ≤ maxPayloadLength,
        t = ⟨priority, false, source, destination, ownRoutingCounter, tpci, payload, hle⟩ := by
  rcases Nat.lt_or_ge maxPayloadLength payload.length with hlong | hle
  · rw [build, dif_neg (Nat.not_le.mpr hlong)]
    constructor
    · intro ht
      cases ht
    · rintro ⟨hle, -⟩
      exact absurd hle (Nat.not_le.mpr hlong)
  · rw [build, dif_pos hle]
    constructor
    · rintro ⟨⟩
      exact ⟨hle, rfl⟩
    · rintro ⟨-, rfl⟩
      rfl

def length (t : Telegram) : Nat := overhead + t.payload.length

/-- Whether two telegrams have equal fields, the repeat mark aside. -/
def agreesWith (t u : Telegram) : Bool :=
  t.priority = u.priority && t.source = u.source && t.destination = u.destination &&
    t.routingCounter = u.routingCounter && t.tpci = u.tpci && t.payload = u.payload

def text (t : Telegram) : String :=
  "Telegram: src=" ++ t.source.text ++ ", dst=" ++ t.destination.text ++ ", prio=" ++
    t.priority.name ++ ", tpci=0x" ++ hexPair t.tpci ++ s!", len={t.length}"

end Telegram

end BusTransport
