import BusTransport.Proofs.Wire.Acceptance

/-! # Frames written back

A telegram keeps every bit of its frame that the form of standard frames leaves open, with one
exception: a broadcast can be read from a frame without the group mark, and is written with it.
-/

namespace BusTransport

theorem forall_octet {P : UInt8 → Prop} (h : ∀ octet : Fin 256, P (.ofFin octet))
    (octet : UInt8) : P octet := h octet.toFin

namespace DeviceAddress

theorem toNat_raw_ofOctets (high low : UInt8) :
    (ofOctets high low).raw.toNat = high.toNat * 256 + low.toNat := by
  have hhigh := high.toNat_lt
  have hlow := low.toNat_lt
  rw [ofOctets, UInt16.toNat_ofNat', Nat.mod_eq_of_lt]
  omega

@[simp] theorem high_ofOctets (high low : UInt8) : (ofOctets high low).high = high := by
  have hlow := low.toNat_lt
  have hdiv : (high.toNat * 256 + low.toNat) / 256 = high.toNat := by omega
  rw [DeviceAddress.high, toNat_raw_ofOctets, hdiv, UInt8.ofNat_toNat]

@[simp] theorem low_ofOctets (high low : UInt8) : (ofOctets high low).low = low := by
  have hlow := low.toNat_lt
  have hmod : (high.toNat * 256 + low.toNat) % 256 = low.toNat := by omega
  rw [DeviceAddress.low, toNat_raw_ofOctets, hmod, UInt8.ofNat_toNat]

theorem raw_ofOctets_eq_zero_iff {high low : UInt8} :
    (ofOctets high low).raw = 0 ↔ high = 0 ∧ low = 0 := by
  rw [← UInt16.toNat_inj, toNat_raw_ofOctets, ← UInt8.toNat_inj, ← UInt8.toNat_inj]
  simp only [UInt8.toNat_zero, UInt16.toNat_zero]
  omega

end DeviceAddress

namespace StandardFrame

theorem controlOctet_of_standard {control : UInt8} (h : control &&& 0xD3 = 0x90) :
    controlOctet (priorityOf control) (repeatedOf control) = control := by
  revert h
  refine forall_octet (P := fun control => control &&& 0xD3 = 0x90 →
    controlOctet (priorityOf control) (repeatedOf control) = control) ?_ control
  decide +kernel

theorem networkOctet_of_parts (network : UInt8) :
    networkOctet (groupOf network) (routingOf network) (lengthOf network) = network := by
  refine forall_octet (P := fun network =>
    networkOctet (groupOf network) (routingOf network) (lengthOf network) = network) ?_ network
  decide +kernel

theorem networkOctet_true (network : UInt8) :
    networkOctet true (routingOf network) (lengthOf network) =
      if network &&& 0x80 = 0 then network ^^^ 0x80 else network := by
  refine forall_octet (P := fun network =>
    networkOctet true (routingOf network) (lengthOf network) =
      if network &&& 0x80 = 0 then network ^^^ 0x80 else network) ?_ network
  decide +kernel

theorem destinationWord_destinationOf (word : DeviceAddress) (group : Bool) :
    destinationWord (destinationOf word group) =
      if word.raw = 0 then (⟨0⟩, true) else (word, group) := by
  unfold destinationOf
  split_ifs with hzero hgroup
  · rfl
  · rw [hgroup]
    rfl
  · simp only [destinationWord, hgroup]

def Unaddressed (frame : Frame) : Prop := octetAt frame 3 = 0 ∧ octetAt frame 4 = 0

instance (frame : Frame) : Decidable (Unaddressed frame) := inferInstanceAs (Decidable (_ ∧ _))

def Unmarked (frame : Frame) : Prop := Unaddressed frame ∧ octetAt frame 5 &&& 0x80 = 0

instance (frame : Frame) : Decidable (Unmarked frame) := inferInstanceAs (Decidable (_ ∧ _))

/-- The frame with the other group mark, and with the checksum that belongs to it. -/
def flipMark (frame : Frame) : Frame :=
  (frame.modify 5 (· ^^^ 0x80)).modify (frame.length - 1) (· ^^^ 0x80)

end StandardFrame

section Modify

variable {α : Type} (f : α → α) (l : List α) (last : α)

theorem modify_concat_of_lt {place : Nat} (h : place < l.length) :
    (l ++ [last]).modify place f = l.modify place f ++ [last] := by
  induction l generalizing place with
  | nil => exact absurd h (Nat.not_lt_zero _)
  | cons a l ih =>
    cases place with
    | zero => rfl
    | succ place =>
      rw [List.cons_append, List.modify_succ_cons, ih (Nat.lt_of_succ_lt_succ h),
        List.modify_succ_cons, List.cons_append]

theorem modify_concat_length : (l ++ [last]).modify l.length f = l ++ [f last] := by
  induction l with
  | nil => rfl
  | cons a l ih =>
    rw [List.cons_append, List.length_cons, List.modify_succ_cons, ih, List.cons_append]

end Modify

theorem StandardFrame.flipMark_concat {octets : Frame} {closing : UInt8}
    (h : 5 < octets.length) : flipMark (octets ++ [closing]) =
      octets.modify 5 (· ^^^ 0x80) ++ [closing ^^^ 0x80] := by
  have hlength : (octets ++ [closing]).length - 1 = (octets.modify 5 (· ^^^ 0x80)).length := by
    rw [List.length_append, List.length_singleton, Nat.add_sub_cancel, List.length_modify]
  rw [flipMark, hlength, modify_concat_of_lt _ _ _ h, modify_concat_length]

namespace Telegram

open StandardFrame

variable {frame : Frame} {t : Telegram}

theorem body_of_holds (hform : WellFormed frame) (h : Holds frame t) :
    t.body = if Unmarked frame then frame.dropLast.modify 5 (· ^^^ 0x80) else frame.dropLast := by
  obtain ⟨control, sourceHigh, sourceLow, wordHigh, wordLow, network, tpci, next, rest, rfl⟩ :=
    exists_octets hform.length_ge
  have hcontrol := controlOctet_of_standard hform.control
  have hlength : (next :: rest).dropLast.length = lengthOf network := by
    have hlength := hform.length_eq
    simp only [List.length_cons, octetAt_cons_succ, octetAt_cons_zero] at hlength
    rw [List.length_dropLast, List.length_cons, lengthOf]
    omega
  obtain ⟨⟩ := t
  obtain ⟨hpriority, hrepeated, hsource, hdestination, hrouting, htpci, hpayload⟩ := h
  simp only [octetAt_cons_zero, octetAt_cons_succ, List.drop_succ_cons, List.drop_zero] at *
  subst hpriority hrepeated hsource hdestination hrouting htpci hpayload
  simp only [body, destinationWord_destinationOf, hcontrol, DeviceAddress.high_ofOctets,
    DeviceAddress.low_ofOctets, hlength]
  by_cases hzero : wordHigh = 0 ∧ wordLow = 0
  · rw [if_pos (DeviceAddress.raw_ofOctets_eq_zero_iff.mpr hzero), networkOctet_true]
    obtain ⟨rfl, rfl⟩ := hzero
    by_cases hmark : network &&& 0x80 = 0
    · rw [if_pos hmark, if_pos ⟨⟨rfl, rfl⟩, hmark⟩]
      rfl
    · rw [if_neg hmark, if_neg fun h => hmark h.2]
      rfl
  · rw [if_neg (mt DeviceAddress.raw_ofOctets_eq_zero_iff.mp hzero), DeviceAddress.high_ofOctets,
      DeviceAddress.low_ofOctets, networkOctet_of_parts, if_neg fun h => hzero h.1]
    rfl

/-- A telegram is written as the frame it was read from, with the group mark of a broadcast. -/
theorem encode_of_decode (h : decode frame = .ok t) :
    t.encode = if Unmarked frame then flipMark frame else frame := by
  obtain ⟨hform, hholds⟩ := decode_eq_ok_iff.mp h
  have hframe := Checksum.eq_concat_of_parity hform.parity_eq
  have hplace : 5 < frame.dropLast.length := by
    have hlength := hform.length_ge
    rw [List.length_dropLast]
    omega
  rw [encode, body_of_holds hform hholds]
  split_ifs
  · -- a flipped bit of an octet is flipped in the checksum as well
    have hclosing : Checksum.ofOctets (frame.dropLast.modify 5 (· ^^^ 0x80)) =
        Checksum.ofOctets frame.dropLast ^^^ 0x80 := by
      rw [Checksum.ofOctets_eq, parity_modify hplace, Checksum.ofOctets_eq, UInt8.xor_assoc]
    rw [hclosing, ← flipMark_concat hplace, ← hframe]
  · exact hframe.symm

end Telegram

/-- Reading accepts exactly the well-formed frames and calls all others invalid. An accepted frame
is written back as it was, except that a missing group mark of a broadcast is set. -/
theorem faithful_of_frame (frame : Frame) :
    ((∃ t, Telegram.decode frame = .ok t) ↔ StandardFrame.WellFormed frame) ∧
      (¬ StandardFrame.WellFormed frame → ∃ cause, Telegram.decode frame = .error cause ∧
        (Fault.frame cause).kind = .frameInvalid) ∧
      ∀ t, Telegram.decode frame = .ok t →
        t.encode =
          if StandardFrame.Unmarked frame then StandardFrame.flipMark frame else frame := by
  have haccepts : (∃ t, Telegram.decode frame = .ok t) ↔ StandardFrame.WellFormed frame := by
    constructor
    · rintro ⟨t, h⟩
      exact (Telegram.decode_eq_ok_iff.mp h).1
    · intro h
      obtain ⟨t, hholds⟩ := StandardFrame.exists_holds h
      exact ⟨t, Telegram.decode_eq_ok_iff.mpr ⟨h, hholds⟩⟩
  refine ⟨haccepts, fun hnot => ?_, fun t => Telegram.encode_of_decode⟩
  rcases h : Telegram.decode frame with cause | t
  · exact ⟨cause, rfl, rfl⟩
  · exact absurd (haccepts.mp ⟨t, h⟩) hnot

theorem faithful_unmarked :
    StandardFrame.WellFormed [0xB0, 0x11, 0x02, 0x00, 0x00, 0x60, 0x80, 0xBC] ∧
      ∃ t, Telegram.decode [0xB0, 0x11, 0x02, 0x00, 0x00, 0x60, 0x80, 0xBC] = .ok t ∧
        t.encode = [0xB0, 0x11, 0x02, 0x00, 0x00, 0xE0, 0x80, 0x3C] := by
  obtain ⟨haccepts, -, hwritten⟩ :=
    faithful_of_frame [0xB0, 0x11, 0x02, 0x00, 0x00, 0x60, 0x80, 0xBC]
  have hread : Telegram.decode [0xB0, 0x11, 0x02, 0x00, 0x00, 0x60, 0x80, 0xBC] =
      .ok ⟨.system, false, ⟨0x1102⟩, .broadcast, 6, 0x80, [], Nat.zero_le _⟩ := rfl
  exact ⟨haccepts.mp ⟨_, hread⟩, _, hread, hwritten _ hread⟩

end BusTransport
