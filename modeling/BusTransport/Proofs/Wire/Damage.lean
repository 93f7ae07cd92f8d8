import BusTransport.Proofs.Wire.SameContent

/-! # Damaged frames

Damage to a telegram shows in its parity or in its length. Octets that were changed on the way can
pass for a telegram only if the flipped bits cancel out over the whole frame. A frame that was cut
off, or has something behind it, never passes.
-/

namespace BusTransport

/-- The bits in which two frames differ, octet by octet. -/
def flippedBits (frame frame' : Frame) : Frame := frame.zipWith (· ^^^ ·) frame'

/-- Flipped bits are flipped in the parity, where two flips of one bit cancel out. -/
theorem parity_flippedBits {frame frame' : Frame} (h : frame.length = frame'.length) :
    parity (flippedBits frame frame') = parity frame ^^^ parity frame' := by
  induction frame generalizing frame' with
  | nil =>
    obtain rfl := List.eq_nil_of_length_eq_zero h.symm
    rfl
  | cons octet frame ih =>
    obtain ⟨octet', frame', rfl⟩ := List.exists_cons_of_length_eq_add_one h.symm
    have hrest := ih (Nat.succ.inj h)
    rw [flippedBits] at hrest ⊢
    rw [List.zipWith_cons_cons, parity_cons, parity_cons, parity_cons, hrest]
    ac_rfl

theorem set_eq_modify_flipped {frame : Frame} {place : Nat} (octet : UInt8) :
    frame.set place octet = frame.modify place (· ^^^ (octetAt frame place ^^^ octet)) := by
  induction frame generalizing place with
  | nil => cases place <;> rfl
  | cons first frame ih =>
    cases place with
    | zero =>
      rw [List.set_cons_zero, List.modify_zero_cons, octetAt_cons_zero, ← UInt8.xor_assoc,
        UInt8.xor_self, UInt8.zero_xor]
    | succ place => rw [List.set_cons_succ, List.modify_succ_cons, octetAt_cons_succ, ih]

namespace StandardFrame

variable {frame frame' : Frame}

/-- Frames of one length and of full parity differ in bits that cancel out. -/
theorem WellFormed.flippedBits_eq (h : WellFormed frame) (h' : WellFormed frame')
    (hlength : frame.length = frame'.length) : parity (flippedBits frame frame') = 0 := by
  rw [parity_flippedBits hlength, h.parity_eq, h'.parity_eq]
  rfl

theorem WellFormed.octetAt_eq_of_set {place : Nat} {octet : UInt8} (h : WellFormed frame)
    (h' : WellFormed (frame.set place octet)) (hplace : place < frame.length) :
    octet = octetAt frame place := by
  have hparity := h'.parity_eq
  rw [set_eq_modify_flipped, parity_modify hplace, h.parity_eq] at hparity
  have hbits : octetAt frame place ^^^ octet = 0 := by
    rwa [← UInt8.xor_right_inj 0xFF, UInt8.xor_zero]
  exact (UInt8.xor_eq_zero_iff.mp hbits).symm

end StandardFrame

namespace Telegram

open StandardFrame

variable {frame frame' : Frame} {t : Telegram}

def Unreadable (frame : Frame) : Prop := ∃ cause, decode frame = .error cause

theorem unreadable_iff : Unreadable frame ↔ ¬ WellFormed frame := by
  rcases h : decode frame with cause | t
  · refine iff_of_true ⟨cause, h⟩ fun hform => ?_
    obtain ⟨t, hholds⟩ := exists_holds hform
    rw [decode_eq_ok_iff.mpr ⟨hform, hholds⟩] at h
    cases h
  · refine iff_of_false ?_ (not_not_intro (decode_eq_ok_iff.mp h).1)
    rintro ⟨cause, hcause⟩
    rw [hcause] at h
    cases h

theorem decode_of_length_ne (hlong : 8 ≤ frame.length) (hcontrol : octetAt frame 0 &&& 0xD3 = 0x90)
    (hlength : frame.length ≠ 8 + (octetAt frame 5).toNat % 16) : decode frame =
      .error (.lengthMismatch (8 + (octetAt frame 5).toNat % 16) frame.length) := by
  obtain ⟨control, sourceHigh, sourceLow, wordHigh, wordLow, network, tpci, next, rest, rfl⟩ :=
    exists_octets hlong
  have hrest : rest.length ≠ lengthOf network := by
    simp only [List.length_cons, octetAt_cons_succ, octetAt_cons_zero] at hlength
    rw [lengthOf]
    omega
  have hstandard : isStandard control = true := decide_eq_true hcontrol
  simp only [decode]
  rw [if_pos hstandard, dif_neg hrest]
  rfl

theorem decode_of_declared (h : WellFormed frame) (hlong : 8 ≤ frame'.length)
    (hcontrol : octetAt frame' 0 = octetAt frame 0) (hnetwork : octetAt frame' 5 = octetAt frame 5)
    (hlength : frame'.length ≠ frame.length) :
    decode frame' = .error (.lengthMismatch frame.length frame'.length) := by
  have hdeclared := h.length_eq
  rw [← hnetwork] at hdeclared
  rw [hdeclared] at hlength ⊢
  exact decode_of_length_ne hlong (hcontrol ▸ h.control) hlength

/-- Damage that a frame shows: flipped bits that do not cancel out over the frame, among them every
change of one octet, and octets missing or left over at its end. -/
structure ShowsDamage (frame : Frame) : Prop where
  flipped : ∀ damaged : Frame, damaged.length = frame.length →
    parity (flippedBits frame damaged) ≠ 0 → Unreadable damaged
  replaced : ∀ place octet, place < frame.length → octet ≠ octetAt frame place →
    Unreadable (frame.set place octet)
  cut : ∀ part : Frame, part <+: frame → part ≠ frame →
    decode part = .error (if part.length < 8 then .tooShort part.length
      else .lengthMismatch frame.length part.length)
  extended : ∀ more : Frame, more ≠ [] →
    decode (frame ++ more) = .error (.lengthMismatch frame.length (frame ++ more).length)

end Telegram

open StandardFrame Telegram

theorem octetAt_append_of_lt {frame more : Frame} {place : Nat} (h : place < frame.length) :
    octetAt (frame ++ more) place = octetAt frame place := by
  simp only [octetAt, List.getD_eq_getElem?_getD, List.getElem?_append_left h]

/-- Every frame that is read as a telegram shows damage. -/
theorem showsDamage_of_decode {frame : Frame} {t : Telegram} (h : decode frame = .ok t) :
    ShowsDamage frame := by
  obtain ⟨hform, -⟩ := decode_eq_ok_iff.mp h
  have hlong := hform.length_ge
  refine ⟨?_, ?_, ?_, ?_⟩
  · intro damaged hlength hflipped
    rw [unreadable_iff]
    intro hform'
    exact hflipped (hform.flippedBits_eq hform' hlength.symm)
  · intro place octet hplace hne
    rw [unreadable_iff]
    intro hform'
    exact hne (hform.octetAt_eq_of_set hform' hplace)
  · rintro part ⟨more, rfl⟩ hne
    have hmore : more ≠ [] := by
      rintro rfl
      exact hne (List.append_nil part).symm
    split_ifs with hshort
    · exact decode_of_length_lt hshort
    · have hlt : 5 < part.length := by omega
      refine decode_of_declared hform (Nat.not_lt.mp hshort) ?_ ?_ ?_
      · exact (octetAt_append_of_lt (Nat.zero_lt_of_lt hlt)).symm
      · exact (octetAt_append_of_lt hlt).symm
      · simpa using hmore
  · intro more hmore
    refine decode_of_declared hform ?_ ?_ ?_ ?_
    · rw [List.length_append]
      exact Nat.le_add_right_of_le hlong
    · exact octetAt_append_of_lt (by omega)
    · exact octetAt_append_of_lt (by omega)
    · simpa using hmore

theorem showsDamage_connect :
    ∃ t, decode [0xB0, 0x11, 0x02, 0x11, 0x01, 0x60, 0x80, 0xAC] = .ok t ∧
      ShowsDamage [0xB0, 0x11, 0x02, 0x11, 0x01, 0x60, 0x80, 0xAC] := by
  have hread : decode [0xB0, 0x11, 0x02, 0x11, 0x01, 0x60, 0x80, 0xAC] =
      .ok ⟨.system, false, ⟨0x1102⟩, .individual ⟨0x1101⟩, 6, 0x80, [], Nat.zero_le _⟩ := rfl
  exact ⟨_, hread, showsDamage_of_decode hread⟩

end BusTransport
