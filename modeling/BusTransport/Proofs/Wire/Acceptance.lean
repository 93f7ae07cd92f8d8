import Mathlib.Tactic.SplitIfs
import BusTransport.Proofs.Wire.Parity
import BusTransport.Wire.StandardFrame

/-! # Acceptance of frames

Which lists of octets are read as telegrams, and what of an octet goes into which field. The fields
keep all of a frame that its form does not fix, except the group mark of a broadcast.
-/

namespace BusTransport

/-- The octet at a place of a frame; beyond its end there are zeros. -/
def octetAt (frame : Frame) (place : Nat) : UInt8 := frame.getD place 0

@[simp] theorem octetAt_cons_zero (octet : UInt8) (frame : Frame) :
    octetAt (octet :: frame) 0 = octet := rfl

@[simp] theorem octetAt_cons_succ (octet : UInt8) (frame : Frame) (place : Nat) :
    octetAt (octet :: frame) (place + 1) = octetAt frame place := rfl

namespace StandardFrame

/-- The form of a standard frame: fixed bits, declared length and parity. -/
structure WellFormed (frame : Frame) : Prop where
  length_ge : 8 ≤ frame.length
  control : octetAt frame 0 &&& 0xD3 = 0x90
  length_eq : frame.length = 8 + (octetAt frame 5).toNat % 16
  parity_eq : parity frame = 0xFF

structure Holds (frame : Frame) (t : Telegram) : Prop where
  priority : t.priority = priorityOf (octetAt frame 0)
  repeated : t.repeated = repeatedOf (octetAt frame 0)
  source : t.source = .ofOctets (octetAt frame 1) (octetAt frame 2)
  destination : t.destination =
    destinationOf (.ofOctets (octetAt frame 3) (octetAt frame 4)) (groupOf (octetAt frame 5))
  routingCounter : t.routingCounter = routingOf (octetAt frame 5)
  tpci : t.tpci = octetAt frame 6
  payload : t.payload = (frame.drop 7).dropLast

theorem exists_octets {frame : Frame} (h : 8 ≤ frame.length) :
    ∃ control sourceHigh sourceLow wordHigh wordLow network tpci next rest,
      frame = control :: sourceHigh :: sourceLow :: wordHigh :: wordLow :: network :: tpci ::
        next :: rest := by
  match frame, h with
  | control :: sourceHigh :: sourceLow :: wordHigh :: wordLow :: network :: tpci :: next :: rest,
    _ => exact ⟨_, _, _, _, _, _, _, _, _, rfl⟩

theorem exists_holds {frame : Frame} (h : WellFormed frame) : ∃ t, Holds frame t := by
  have hpayload : ((frame.drop 7).dropLast).length ≤ maxPayloadLength := by
    have hlength := h.length_eq
    rw [List.length_dropLast, List.length_drop, maxPayloadLength]
    omega
  exact ⟨⟨_, _, _, _, _, _, _, hpayload⟩, rfl, rfl, rfl, rfl, rfl, rfl, rfl⟩

end StandardFrame

namespace Telegram

open StandardFrame

theorem decode_of_length_lt {frame : Frame} (h : frame.length < 8) :
    decode frame = .error (.tooShort frame.length) := by
  unfold decode
  split
  · simp at h
    omega
  · rfl

/-- A frame is read if and only if it has the form of a standard frame, and its octets hold the
telegram. -/
theorem decode_eq_ok_iff {frame : Frame} {t : Telegram} :
    decode frame = .ok t ↔ WellFormed frame ∧ Holds frame t := by
  rcases Nat.lt_or_ge frame.length 8 with hshort | hlong
  · rw [decode_of_length_lt hshort]
    constructor
    · nofun
    · rintro ⟨hform, -⟩
      exact absurd hform.length_ge (Nat.not_le.mpr hshort)
  obtain ⟨control, sourceHigh, sourceLow, wordHigh, wordLow, network, tpci, next, rest, rfl⟩ :=
    exists_octets hlong
  have hparity := Checksum.validate_eq_ok_iff (control :: sourceHigh :: sourceLow :: wordHigh ::
    wordLow :: network :: tpci :: next :: rest)
  simp only [decode]
  split_ifs with hcontrol hlength
  · split
    · next hvalid =>
      rw [Except.ok.injEq]
      constructor
      · rintro rfl
        refine ⟨⟨hlong, of_decide_eq_true hcontrol, ?_, hparity.mp hvalid⟩, rfl, rfl, rfl, rfl, rfl,
          rfl, rfl⟩
        simp only [List.length_cons, hlength, lengthOf, octetAt_cons_succ, octetAt_cons_zero]
        omega
      · rintro ⟨-, hholds⟩
        obtain ⟨⟩ := t
        obtain ⟨hpriority, hrepeated, hsource, hdestination, hrouting, htpci, hpayload⟩ := hholds
        rw [mk.injEq]
        exact ⟨hpriority.symm, hrepeated.symm, hsource.symm, hdestination.symm, hrouting.symm,
          htpci.symm, hpayload.symm⟩
    · next hfault =>
      refine iff_of_false nofun fun ⟨hform, _⟩ => ?_
      rw [hparity.mpr hform.parity_eq] at hfault
      cases hfault
  · refine iff_of_false nofun fun ⟨hform, _⟩ => hlength ?_
    have hlength := hform.length_eq
    simp only [List.length_cons, octetAt_cons_succ, octetAt_cons_zero] at hlength
    rw [lengthOf]
    omega
  · exact iff_of_false nofun fun ⟨hform, _⟩ => hcontrol (decide_eq_true hform.control)

end Telegram

end BusTransport
