import BusTransport.Proofs.Wire.Reencoding
import BusTransport.Proofs.Wire.RoundTrip

/-! # Frames of the same content

Telegrams are compared field by field, their repeat marks aside. For the frames they were read from
this means agreement in all octets but the checksum, up to the repeat bit of the first octet and the
group mark of two broadcasts.
-/

namespace BusTransport

namespace StandardFrame

def Marked (frame : Frame) : Prop := octetAt frame 0 &&& 0x20 = 0

/-- The frames have equal octets, apart from the checksum, the repeat bit and the group mark of
broadcasts. -/
structure SameContent (frame frame' : Frame) : Prop where
  length_eq : frame.length = frame'.length
  control_eq : octetAt frame 0 &&& 0xDF = octetAt frame' 0 &&& 0xDF
  network_eq : if Unaddressed frame ∧ Unaddressed frame' then
      octetAt frame 5 &&& 0x7F = octetAt frame' 5 &&& 0x7F
    else octetAt frame 5 = octetAt frame' 5
  octet_eq : ∀ place, place ≠ 0 → place ≠ 5 → place + 1 < frame.length →
    octetAt frame place = octetAt frame' place

theorem repeatedOf_iff (control : UInt8) : repeatedOf control = true ↔ control &&& 0x20 = 0 := by
  refine forall_octet (P := fun control => repeatedOf control = true ↔ control &&& 0x20 = 0)
    ?_ control
  decide +kernel

theorem priorityOf_eq_iff {control control' : UInt8} (h : control &&& 0xD3 = 0x90)
    (h' : control' &&& 0xD3 = 0x90) :
    priorityOf control = priorityOf control' ↔ control &&& 0xDF = control' &&& 0xDF := by
  have hwrite {control : UInt8} : control &&& 0xD3 = 0x90 →
      control &&& 0xDF = controlOctet (priorityOf control) true := by
    refine forall_octet (P := fun control => control &&& 0xD3 = 0x90 →
      control &&& 0xDF = controlOctet (priorityOf control) true) ?_ control
    decide +kernel
  rw [hwrite h, hwrite h']
  constructor
  · intro heq
    rw [heq]
  · intro heq
    rw [← (controlOctet_reads (priorityOf control) true).2.1, heq,
      (controlOctet_reads _ _).2.1]

theorem network_and_eq_iff {network network' : UInt8} :
    network &&& 0x7F = network' &&& 0x7F ↔
      routingOf network = routingOf network' ∧ lengthOf network = lengthOf network' := by
  have hwrite (network : UInt8) :
      network &&& 0x7F = networkOctet false (routingOf network) (lengthOf network) := by
    refine forall_octet (P := fun network =>
      network &&& 0x7F = networkOctet false (routingOf network) (lengthOf network)) ?_ network
    decide +kernel
  have hread (network : UInt8) : routingOf (network &&& 0x7F) = routingOf network ∧
      lengthOf (network &&& 0x7F) = lengthOf network := by
    refine forall_octet (P := fun network => routingOf (network &&& 0x7F) = routingOf network ∧
      lengthOf (network &&& 0x7F) = lengthOf network) ?_ network
    decide +kernel
  constructor
  · intro h
    rw [← (hread network).1, ← (hread network).2, h, (hread network').1, (hread network').2]
    exact ⟨rfl, rfl⟩
  · rintro ⟨hrouting, hlength⟩
    rw [hwrite network, hwrite network', hrouting, hlength]

theorem network_eq_iff {network network' : UInt8} : network = network' ↔
    groupOf network = groupOf network' ∧ routingOf network = routingOf network' ∧
      lengthOf network = lengthOf network' := by
  constructor
  · rintro rfl
    exact ⟨rfl, rfl, rfl⟩
  · rintro ⟨hgroup, hrouting, hlength⟩
    rw [← networkOctet_of_parts network, hgroup, hrouting, hlength, networkOctet_of_parts]

theorem destinationOf_eq_iff {word word' : DeviceAddress} {group group' : Bool} :
    destinationOf word group = destinationOf word' group' ↔
      word = word' ∧ (word.raw = 0 ∨ group = group') := by
  constructor
  · intro h
    have hword := congrArg destinationWord h
    rw [destinationWord_destinationOf, destinationWord_destinationOf] at hword
    split_ifs at hword with hzero hzero' hzero'
    · obtain ⟨raw⟩ := word
      obtain ⟨raw'⟩ := word'
      exact ⟨congrArg DeviceAddress.mk (hzero.trans hzero'.symm), .inl hzero⟩
    · exact absurd (congrArg (·.1.raw) hword).symm hzero'
    · exact absurd (congrArg (·.1.raw) hword) hzero
    · obtain ⟨hword, hgroup⟩ := Prod.mk.inj hword
      exact ⟨hword, .inr hgroup⟩
  · rintro ⟨rfl, hzero | rfl⟩
    · rw [destinationOf, destinationOf, if_pos hzero, if_pos hzero]
    · rfl

/-- Between frames of one length and destination word, all that can differ in the sixth octet are
routing counter and group mark, and the mark of a broadcast does not count. -/
theorem network_agrees_iff {frame frame' : Frame}
    (hlength : lengthOf (octetAt frame 5) = lengthOf (octetAt frame' 5))
    (hhigh : octetAt frame 3 = octetAt frame' 3) (hlow : octetAt frame 4 = octetAt frame' 4) :
    (if Unaddressed frame ∧ Unaddressed frame' then
        octetAt frame 5 &&& 0x7F = octetAt frame' 5 &&& 0x7F
      else octetAt frame 5 = octetAt frame' 5) ↔
      routingOf (octetAt frame 5) = routingOf (octetAt frame' 5) ∧
        (Unaddressed frame ∨ groupOf (octetAt frame 5) = groupOf (octetAt frame' 5)) := by
  have hboth : Unaddressed frame ∧ Unaddressed frame' ↔ Unaddressed frame := by
    rw [Unaddressed, Unaddressed, hhigh, hlow, and_self]
  simp only [hboth]
  split_ifs with hzero
  · simp only [network_and_eq_iff, hlength, hzero, true_or]
  · simp only [network_eq_iff, hlength, hzero, false_or, and_true]
    exact and_comm

theorem octetAt_of_lt {frame : Frame} {place : Nat} (h : place < frame.length) :
    octetAt frame place = frame[place] := by
  rw [octetAt, List.getD_eq_getElem?_getD, List.getElem?_eq_getElem h, Option.getD_some]

theorem dropLast_drop_eq_iff {frame frame' : Frame} (hlength : frame.length = frame'.length)
    (first : Nat) : (frame.drop first).dropLast = (frame'.drop first).dropLast ↔
      ∀ place, first ≤ place → place + 1 < frame.length →
        octetAt frame place = octetAt frame' place := by
  constructor
  · intro h place hfirst hplace
    have hlast : place - first < frame.length - first - 1 := by omega
    have hlast' : place - first < frame'.length - first - 1 := by omega
    have hlt : place < frame.length := by omega
    have hlt' : place < frame'.length := by omega
    have hget := congrArg (·[place - first]?) h
    rw [octetAt_of_lt hlt, octetAt_of_lt hlt']
    simpa [List.getElem?_dropLast, hlast, hlast', Nat.add_sub_cancel' hfirst, hlt, hlt'] using hget
  · intro h
    apply List.ext_getElem
    · simp [hlength]
    · intro i hi hi'
      simp only [List.length_dropLast, List.length_drop] at hi hi'
      have hplace := h (first + i) (Nat.le_add_right ..) (by omega)
      rw [octetAt_of_lt (by omega), octetAt_of_lt (by omega)] at hplace
      simpa using hplace

end StandardFrame

theorem DeviceAddress.ofOctets_eq_iff {high low high' low' : UInt8} :
    ofOctets high low = ofOctets high' low' ↔ high = high' ∧ low = low' := by
  constructor
  · intro h
    exact ⟨by simpa using congrArg DeviceAddress.high h,
      by simpa using congrArg DeviceAddress.low h⟩
  · rintro ⟨rfl, rfl⟩
    rfl

namespace Telegram

open StandardFrame

variable {frame frame' : Frame} {t u : Telegram}

theorem agreesWith_iff_octets (ht : decode frame = .ok t) (hu : decode frame' = .ok u) :
    t.agreesWith u = true ↔
      octetAt frame 0 &&& 0xDF = octetAt frame' 0 &&& 0xDF ∧
      (octetAt frame 1 = octetAt frame' 1 ∧ octetAt frame 2 = octetAt frame' 2) ∧
      ((octetAt frame 3 = octetAt frame' 3 ∧ octetAt frame 4 = octetAt frame' 4) ∧
        (Unaddressed frame ∨ groupOf (octetAt frame 5) = groupOf (octetAt frame' 5))) ∧
      routingOf (octetAt frame 5) = routingOf (octetAt frame' 5) ∧
      octetAt frame 6 = octetAt frame' 6 ∧
      (frame.drop 7).dropLast = (frame'.drop 7).dropLast := by
  obtain ⟨hform, hholds⟩ := decode_eq_ok_iff.mp ht
  obtain ⟨hform', hholds'⟩ := decode_eq_ok_iff.mp hu
  simp only [agreesWith, Bool.and_eq_true, decide_eq_true_eq, hholds.priority, hholds'.priority,
    hholds.source, hholds'.source, hholds.destination, hholds'.destination, hholds.routingCounter,
    hholds'.routingCounter, hholds.tpci, hholds'.tpci, hholds.payload, hholds'.payload,
    priorityOf_eq_iff hform.control hform'.control, DeviceAddress.ofOctets_eq_iff,
    destinationOf_eq_iff, DeviceAddress.raw_ofOctets_eq_zero_iff, Unaddressed, and_assoc]

theorem lengthOf_eq_iff (hform : WellFormed frame) (hform' : WellFormed frame') :
    lengthOf (octetAt frame 5) = lengthOf (octetAt frame' 5) ↔ frame.length = frame'.length := by
  rw [hform.length_eq, hform'.length_eq, Nat.add_right_inj]
  rfl

/-- Two telegrams agree if and only if their frames have the same content. -/
theorem agreesWith_iff (ht : decode frame = .ok t) (hu : decode frame' = .ok u) :
    t.agreesWith u = true ↔ SameContent frame frame' := by
  have hlengths := lengthOf_eq_iff (decode_eq_ok_iff.mp ht).1 (decode_eq_ok_iff.mp hu).1
  have hge := (decode_eq_ok_iff.mp ht).1.length_ge
  have hge' := (decode_eq_ok_iff.mp hu).1.length_ge
  rw [agreesWith_iff_octets ht hu]
  constructor
  · rintro ⟨hcontrol, hsource, ⟨hword, hmark⟩, hrouting, htpci, hpayload⟩
    have hframes : frame.length = frame'.length := by
      have hpayloads := congrArg List.length hpayload
      simp only [List.length_dropLast, List.length_drop] at hpayloads
      omega
    refine ⟨hframes, hcontrol, ?_, ?_⟩
    · exact (network_agrees_iff (hlengths.mpr hframes) hword.1 hword.2).mpr ⟨hrouting, hmark⟩
    · intro place hzero hfive hplace
      match place, hzero, hfive with
      | 1, _, _ => exact hsource.1
      | 2, _, _ => exact hsource.2
      | 3, _, _ => exact hword.1
      | 4, _, _ => exact hword.2
      | 6, _, _ => exact htpci
      | place + 7, _, _ =>
        exact (dropLast_drop_eq_iff hframes 7).mp hpayload _ (Nat.le_add_left ..) hplace
  · rintro ⟨hframes, hcontrol, hnetwork, hoctet⟩
    have hheader (place : Nat) (hzero : place ≠ 0) (hfive : place ≠ 5) (hseven : place < 7) :
        octetAt frame place = octetAt frame' place := hoctet place hzero hfive (by omega)
    have hhigh := hheader 3 (by decide) (by decide) (by decide)
    have hlow := hheader 4 (by decide) (by decide) (by decide)
    obtain ⟨hrouting, hmark⟩ :=
      (network_agrees_iff (hlengths.mpr hframes) hhigh hlow).mp hnetwork
    refine ⟨hcontrol, ⟨hheader 1 ?_ ?_ ?_, hheader 2 ?_ ?_ ?_⟩, ⟨⟨hhigh, hlow⟩, hmark⟩, hrouting,
      hheader 6 ?_ ?_ ?_, ?_⟩
    any_goals decide
    exact (dropLast_drop_eq_iff hframes 7).mpr fun place hseven hplace =>
      hoctet place (by omega) (by omega) hplace

end Telegram

end BusTransport
