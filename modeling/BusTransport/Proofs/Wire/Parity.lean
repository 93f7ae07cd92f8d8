import BusTransport.Wire.Checksum

/-! # Parity

A frame is closed by the octet that completes its parity: the exclusive or of all octets, the
checksum included, has all bits set.
-/

namespace BusTransport

def parity (octets : Frame) : UInt8 := octets.foldr (· ^^^ ·) 0

@[simp] theorem parity_nil : parity [] = 0 := rfl

@[simp] theorem parity_cons (octet : UInt8) (octets : Frame) :
    parity (octet :: octets) = octet ^^^ parity octets := rfl

theorem parity_append (a b : Frame) : parity (a ++ b) = parity a ^^^ parity b := by
  induction a with
  | nil => simp
  | cons octet a ih => simp [ih, UInt8.xor_assoc]

theorem parity_modify {place : Nat} {octets : Frame} (h : place < octets.length) (bits : UInt8) :
    parity (octets.modify place (· ^^^ bits)) = parity octets ^^^ bits := by
  induction octets generalizing place with
  | nil => exact absurd h (Nat.not_lt_zero _)
  | cons octet octets ih =>
    cases place with
    | zero =>
      rw [List.modify_zero_cons, parity_cons, parity_cons, UInt8.xor_assoc, UInt8.xor_comm bits,
        UInt8.xor_assoc]
    | succ place =>
      rw [List.modify_succ_cons, parity_cons, parity_cons, ih (Nat.lt_of_succ_lt_succ h),
        UInt8.xor_assoc]

namespace Checksum

/-- A checksum takes in octets through their parity alone. -/
theorem value_updateAll (sum : Checksum) (octets : Frame) :
    (updateAll sum octets).value = sum.value ^^^ parity octets := by
  induction octets generalizing sum with
  | nil => simp [updateAll]
  | cons octet octets ih =>
    change (updateAll (sum.update octet) octets).value = _
    rw [ih, parity_cons, update, UInt8.xor_assoc]

theorem ofOctets_eq (octets : Frame) : ofOctets octets = 0xFF ^^^ parity octets :=
  value_updateAll {} octets

theorem parity_concat_eq_iff {octets : Frame} {closing : UInt8} :
    parity (octets ++ [closing]) = 0xFF ↔ closing = ofOctets octets := by
  rw [parity_append, parity_cons, parity_nil, UInt8.xor_zero, ofOctets_eq]
  constructor
  · intro h
    rw [← h, UInt8.xor_comm (parity octets), UInt8.xor_assoc, UInt8.xor_self, UInt8.xor_zero]
  · rintro rfl
    rw [UInt8.xor_comm, UInt8.xor_assoc, UInt8.xor_self, UInt8.xor_zero]

/-- A list of octets is closed by its checksum if and only if it has full parity. -/
theorem validate_eq_ok_iff (frame : Frame) : validate frame = .ok () ↔ parity frame = 0xFF := by
  rcases List.eq_nil_or_concat frame with rfl | ⟨octets, closing, rfl⟩
  · simp [validate]
  · rw [List.concat_eq_append, parity_concat_eq_iff]
    simp [validate]

theorem eq_concat_of_parity {frame : Frame} (h : parity frame = 0xFF) :
    frame = frame.dropLast ++ [ofOctets frame.dropLast] := by
  rcases List.eq_nil_or_concat frame with rfl | ⟨octets, closing, rfl⟩
  · cases h
  · rw [List.concat_eq_append] at h ⊢
    rw [parity_concat_eq_iff.mp h, List.dropLast_concat]

end Checksum

end BusTransport
