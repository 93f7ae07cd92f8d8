import Mathlib.Data.List.DropRight
import BusTransport.Proofs.Wire.Parity

/-! # Running checksums

A checksum may be taken while octets come in, one by one or in chunks, and may start over in
between. It is then the checksum of what came in since it last started. The order of the octets
makes no difference, and the checksums of two parts make up that of the whole.
-/

namespace BusTransport

theorem parity_perm {a b : Frame} (h : a.Perm b) : parity a = parity b := by
  induction h with
  | nil => rfl
  | cons octet _ ih => rw [parity_cons, parity_cons, ih]
  | swap octet octet' rest =>
    simp only [parity_cons]
    ac_rfl
  | trans _ _ ih ih' => exact ih.trans ih'

namespace Checksum

inductive Work where
  | restart
  | take (octet : UInt8)
  | takeAll (octets : Frame)
  deriving DecidableEq, Repr

def Work.octets : Work → Frame
  | restart => []
  | take octet => [octet]
  | takeAll octets => octets

def undergo (sum : Checksum) : Work → Checksum
  | .restart => {}
  | .take octet => sum.update octet
  | .takeAll octets => sum.updateAll octets

def undergoAll (sum : Checksum) (works : List Work) : Checksum := works.foldl undergo sum

/-- The octets that have come in since the last restart. -/
def recent (works : List Work) : Frame := (works.rtakeWhile (· ≠ .restart)).flatMap Work.octets

@[simp] theorem recent_restart (works : List Work) : recent (works ++ [.restart]) = [] := by
  simp [recent]

@[simp] theorem recent_take (works : List Work) (octet : UInt8) :
    recent (works ++ [.take octet]) = recent works ++ [octet] := by
  simp [recent, Work.octets]

@[simp] theorem recent_takeAll (works : List Work) (octets : Frame) :
    recent (works ++ [.takeAll octets]) = recent works ++ octets := by
  simp [recent, Work.octets]

@[simp] theorem undergoAll_concat (sum : Checksum) (works : List Work) (work : Work) :
    undergoAll sum (works ++ [work]) = (undergoAll sum works).undergo work := List.foldl_concat ..

/-- A checksum under construction is that of the octets since the last restart. -/
theorem undergoAll_eq (works : List Work) : undergoAll {} works = updateAll {} (recent works) := by
  induction works using List.reverseRecOn with
  | nil => rfl
  | append_singleton works work ih =>
    rw [undergoAll_concat, ih]
    cases work with
    | restart =>
      rw [recent_restart]
      rfl
    | take octet =>
      rw [recent_take, updateAll_append]
      rfl
    | takeAll octets =>
      rw [recent_takeAll, updateAll_append]
      rfl

theorem ofOctets_append (a b : Frame) :
    ofOctets (a ++ b) = ofOctets a ^^^ ofOctets b ^^^ 0xFF := by
  calc ofOctets (a ++ b)
      = 0xFF ^^^ (parity a ^^^ parity b) ^^^ (0xFF ^^^ 0xFF) := by
        rw [ofOctets_eq, parity_append, UInt8.xor_self, UInt8.xor_zero]
    _ = 0xFF ^^^ parity a ^^^ (0xFF ^^^ parity b) ^^^ 0xFF := by ac_rfl
    _ = ofOctets a ^^^ ofOctets b ^^^ 0xFF := by rw [ofOctets_eq, ofOctets_eq]

theorem ofOctets_perm {a b : Frame} (h : a.Perm b) : ofOctets a = ofOctets b := by
  rw [ofOctets_eq, ofOctets_eq, parity_perm h]

theorem validate_concat_iff (octets : Frame) (closing : UInt8) :
    validate (octets ++ [closing]) = .ok () ↔ closing = ofOctets octets := by
  rw [validate_eq_ok_iff, parity_concat_eq_iff]

theorem validate_iff (frame : Frame) :
    validate frame = .ok () ↔ frame ≠ [] ∧ parity frame = 0xFF := by
  rw [validate_eq_ok_iff]
  constructor
  · intro h
    refine ⟨?_, h⟩
    rintro rfl
    simp at h
  · rintro ⟨-, h⟩
    exact h

/-- A checksum depends on no more than the octets that came in since it last started, and not on
their order. It closes a frame and no other octet does. -/
theorem summed_of_works (works : List Work) (a b frame : Frame) :
    (undergoAll {} works).value = ofOctets (recent works) ∧
      (a.Perm b → ofOctets a = ofOctets b) ∧
      ofOctets (a ++ b) = ofOctets a ^^^ ofOctets b ^^^ 0xFF ∧
      (validate frame = .ok () ↔ frame ≠ [] ∧ parity frame = 0xFF) ∧
      ∀ closing, validate (a ++ [closing]) = .ok () ↔ closing = ofOctets a := by
  refine ⟨?_, ofOctets_perm, ofOctets_append a b, validate_iff frame, validate_concat_iff a⟩
  rw [undergoAll_eq]
  rfl

/-- A connect that came in out of order and in chunks, after a false start. -/
theorem summed_connect :
    [0xA0, 0xB0, 0x01, 0xA0, 0x00, 0x60, 0x80].Perm
        ([0xB0, 0xA0, 0x01, 0xA0, 0x00, 0x60, 0x80] : Frame) ∧
      (undergoAll {} [.take 0x55, .restart, .take 0xA0, .takeAll [0xB0, 0x01, 0xA0], .takeAll [],
        .takeAll [0x00, 0x60, 0x80]]).value = ofOctets [0xA0, 0xB0, 0x01, 0xA0, 0x00, 0x60, 0x80] ∧
      ofOctets [0xA0, 0xB0, 0x01, 0xA0, 0x00, 0x60, 0x80] =
        ofOctets [0xB0, 0xA0, 0x01, 0xA0, 0x00, 0x60, 0x80] := by
  have hperm : [0xA0, 0xB0, 0x01, 0xA0, 0x00, 0x60, 0x80].Perm
      ([0xB0, 0xA0, 0x01, 0xA0, 0x00, 0x60, 0x80] : Frame) := .swap ..
  obtain ⟨hvalue, hsame, -⟩ := summed_of_works [.take 0x55, .restart, .take 0xA0,
    .takeAll [0xB0, 0x01, 0xA0], .takeAll [], .takeAll [0x00, 0x60, 0x80]] _ _ []
  exact ⟨hperm, hvalue, hsame hperm⟩

end Checksum

end BusTransport
