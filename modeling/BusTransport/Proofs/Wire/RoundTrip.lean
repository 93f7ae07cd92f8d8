import Mathlib.Tactic.SplitIfs
import BusTransport.Wire.StandardFrame

/-! # Frames read back

A frame is read back as the telegram it was written from, up to the form of its destination. The
address zero has no form of its own on the wire: whoever is addressed by it, the frame is read as a
broadcast.
-/

namespace BusTransport

namespace StandardFrame

theorem controlOctet_reads (priority : Priority) (repeated : Bool) :
    isStandard (controlOctet priority repeated) = true ∧
      priorityOf (controlOctet priority repeated) = priority ∧
      repeatedOf (controlOctet priority repeated) = repeated := by
  cases priority <;> cases repeated <;> decide

theorem networkOctet_reads (group : Bool) (routing : Fin 8) {length : Nat}
    (h : length ≤ maxPayloadLength) : groupOf (networkOctet group routing length) = group ∧
      routingOf (networkOctet group routing length) = routing ∧
      lengthOf (networkOctet group routing length) = length := by
  have hall : ∀ group routing, ∀ n : Fin 16,
      groupOf (networkOctet group routing n) = group ∧
        routingOf (networkOctet group routing n) = routing ∧
        lengthOf (networkOctet group routing n) = n := by decide
  exact hall group routing ⟨length, Nat.lt_succ_of_le h⟩

/-- The destination that the wire form of a destination is read as. -/
def received (destination : Destination) : Destination :=
  destinationOf (destinationWord destination).1 (destinationWord destination).2

theorem received_individual (a : DeviceAddress) :
    received (.individual a) = if a.raw = 0 then .broadcast else .individual a := by
  simp only [received, destinationWord, destinationOf, Bool.false_eq_true, if_false]

theorem received_group (raw : UInt16) :
    received (.group raw) = if raw = 0 then .broadcast else .group raw := by
  simp only [received, destinationWord, destinationOf, if_true]

@[simp] theorem received_broadcast : received .broadcast = .broadcast := rfl

/-- A destination with the address zero that is no broadcast. -/
def Nameless (destination : Destination) : Prop :=
  destination = .individual ⟨0⟩ ∨ destination = .group 0

theorem received_of_nameless {destination : Destination} (h : Nameless destination) :
    received destination = .broadcast := by
  rcases h with rfl | rfl
  · exact received_individual ⟨0⟩
  · exact received_group 0

/-- All destinations but the nameless ones have a form of their own on the wire. -/
theorem received_eq_iff (destination : Destination) :
    received destination = destination ↔ ¬ Nameless destination := by
  constructor
  · intro h hnameless
    have hbroadcast := received_of_nameless hnameless
    rcases hnameless with rfl | rfl
    · cases h.symm.trans hbroadcast
    · cases h.symm.trans hbroadcast
  · intro h
    rw [Nameless, not_or] at h
    cases destination with
    | individual a =>
      have hraw : a.raw ≠ 0 := fun hraw => h.1 (congrArg (Destination.individual ⟨·⟩) hraw)
      rw [received_individual, if_neg hraw]
    | group raw =>
      have hraw : raw ≠ 0 := fun hraw => h.2 (congrArg Destination.group hraw)
      rw [received_group, if_neg hraw]
    | broadcast => rfl

end StandardFrame

namespace Telegram

open StandardFrame

/-- Every telegram can be read from its frame, with the destination that the wire leaves of it. -/
theorem decode_encode (t : Telegram) :
    decode t.encode = .ok { t with destination := received t.destination } := by
  obtain ⟨priority, repeated, source, destination, routing, tpci, payload, hle⟩ := t
  obtain ⟨hstandard, hpriority, hrepeated⟩ := controlOctet_reads priority repeated
  obtain ⟨hgroup, hrouting, hlength⟩ :=
    networkOctet_reads (destinationWord destination).2 routing hle
  generalize hbody : body ⟨priority, repeated, source, destination, routing, tpci, payload, hle⟩ =
    octets
  have hvalid := Checksum.validate_append_ofOctets octets
  obtain ⟨next, rest, hrest⟩ : ∃ next rest, payload ++ [Checksum.ofOctets octets] = next :: rest :=
    List.exists_cons_of_ne_nil (by simp)
  have hcount : rest.length = payload.length := by
    have := congrArg List.length hrest
    simpa using this.symm
  have hdrop : (next :: rest).dropLast = payload := by rw [← hrest, List.dropLast_concat]
  have hencode : encode ⟨priority, repeated, source, destination, routing, tpci, payload, hle⟩ =
      controlOctet priority repeated :: source.high :: source.low ::
        (destinationWord destination).1.high :: (destinationWord destination).1.low ::
        networkOctet (destinationWord destination).2 routing payload.length :: tpci :: next ::
        rest := by
    rw [encode, hbody, ← hrest, ← hbody]
    rfl
  have hvalid' : Checksum.validate
      (encode ⟨priority, repeated, source, destination, routing, tpci, payload, hle⟩) = .ok () := by
    rw [encode, hbody]
    exact hvalid
  rw [hencode] at hvalid' ⊢
  simp only [decode, hstandard, if_true, hcount, hlength, dif_pos, hvalid', hpriority, hrepeated,
    hgroup, hrouting, hdrop, DeviceAddress.ofOctets_high_low, received]

structure ReadsBack (t : Telegram) : Prop where
  length_eq : t.encode.length = t.length
  length_ge : 8 ≤ t.length
  length_le : t.length ≤ 23
  read : ∃ u, decode t.encode = .ok u ∧ (u = t ↔ ¬ Nameless t.destination) ∧
    (Nameless t.destination → u = { t with destination := .broadcast })

theorem readsBack (t : Telegram) : t.ReadsBack where
  length_eq := t.length_encode
  length_ge := Nat.le_add_right overhead t.payload.length
  length_le := Nat.add_le_add_left t.payload_le overhead
  read := by
    refine ⟨_, t.decode_encode, ?_, fun h => ?_⟩
    · rw [← received_eq_iff]
      constructor
      · intro h
        exact congrArg destination h
      · intro h
        rw [h]
    · rw [received_of_nameless h]

end Telegram

/-- A telegram is built from its parts and every payload of at most 15 octets, and every telegram
is read back from its frame. -/
theorem readsBack_of_build (priority : Priority) (source : DeviceAddress)
    (destination : Destination) (tpci : UInt8) (payload : List UInt8) :
    (payload.length ≤ 15 ↔
        ∃ t, Telegram.build priority source destination tpci payload = .ok t) ∧
      (∀ t, Telegram.build priority source destination tpci payload = .ok t →
        t.priority = priority ∧ t.repeated = false ∧ t.source = source ∧
          t.destination = destination ∧ t.routingCounter = 6 ∧ t.tpci = tpci ∧
          t.payload = payload) ∧
      ∀ t : Telegram, t.ReadsBack := by
  refine ⟨?_, fun t ht => ?_, Telegram.readsBack⟩
  · constructor
    · intro hle
      exact ⟨_, Telegram.build_eq_ok_iff.mpr ⟨hle, rfl⟩⟩
    · rintro ⟨t, ht⟩
      obtain ⟨hle, -⟩ := Telegram.build_eq_ok_iff.mp ht
      exact hle
  · obtain ⟨-, rfl⟩ := Telegram.build_eq_ok_iff.mp ht
    exact ⟨rfl, rfl, rfl, rfl, rfl, rfl, rfl⟩

end BusTransport
