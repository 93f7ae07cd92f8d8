import Mathlib.Algebra.Group.Nat.Defs
import Mathlib.Data.List.Basic
import Mathlib.Data.List.TakeDrop
import Mathlib.Data.List.TakeWhile
import Mathlib.Tactic.SplitIfs
import BusTransport.Fault
import BusTransport.Text.AddressText

/-! # The grammar of device addresses

The texts that are read as addresses are spelled out: white space, three numerals with dots between
them, white space. The form of a text leaves no choice of its numerals, and the written form of an
address is one of its spellings.
-/

namespace BusTransport

section Trimming

variable {cs before middle after : List Char}

theorem dropWhile_blanks {blanks rest : List Char} (h : ∀ c ∈ blanks, isBlank c = true)
    (hrest : ∀ c ∈ rest.head?, isBlank c = false) : (blanks ++ rest).dropWhile isBlank = rest := by
  rw [List.dropWhile_append_of_pos h]
  cases rest with
  | nil => rfl
  | cons c rest => exact List.dropWhile_cons_of_neg (Bool.eq_false_iff.mp (hrest c rfl))

theorem trimBlanks_append (hne : middle ≠ []) (hbefore : ∀ c ∈ before, isBlank c = true)
    (hafter : ∀ c ∈ after, isBlank c = true) (hhead : ∀ c ∈ middle.head?, isBlank c = false)
    (hlast : ∀ c ∈ middle.getLast?, isBlank c = false) :
    trimBlanks (before ++ middle ++ after) = middle := by
  have hfront : (before ++ middle ++ after).dropWhile isBlank = middle ++ after := by
    rw [List.append_assoc]
    refine dropWhile_blanks hbefore ?_
    rwa [List.head?_append_of_ne_nil middle hne]
  have hback : (middle ++ after).reverse.dropWhile isBlank = middle.reverse := by
    rw [List.reverse_append]
    refine dropWhile_blanks ?_ ?_
    · simpa using hafter
    · rwa [List.head?_reverse]
  rw [trimBlanks, hfront, hback, List.reverse_reverse]

theorem exists_trimmed (cs : List Char) : ∃ before after, (∀ c ∈ before, isBlank c = true) ∧
    (∀ c ∈ after, isBlank c = true) ∧ cs = before ++ trimBlanks cs ++ after := by
  refine ⟨cs.takeWhile isBlank, ((cs.dropWhile isBlank).reverse.takeWhile isBlank).reverse,
    fun c => List.mem_takeWhile_imp, fun c hc => ?_, ?_⟩
  · exact List.mem_takeWhile_imp (List.mem_reverse.mp hc)
  · rw [trimBlanks, List.append_assoc, ← List.reverse_append, List.takeWhile_append_dropWhile,
      List.reverse_reverse, List.takeWhile_append_dropWhile]

end Trimming

theorem isBlank_of_isDecimalDigit {c : Char} (h : isDecimalDigit c = true) : isBlank c = false := by
  have hall : ∀ start ∈ digitZeros, ∀ k < 10, isBlank (Char.ofNat (start + k)) = false := by
    decide +kernel
  simp only [isDecimalDigit, List.any_eq_true, Bool.and_eq_true, decide_eq_true_eq] at h
  obtain ⟨start, hstart, hle, hlt⟩ := h
  have hk := hall start hstart (c.toNat - start) (by omega)
  rwa [Nat.add_sub_cancel' hle, Char.ofNat_toNat] at hk

namespace DeviceAddress

theorem span_digits_iff {cs digits rest : List Char} :
    cs.span isDecimalDigit = (digits, '.' :: rest) ↔
      cs = digits ++ '.' :: rest ∧ ∀ c ∈ digits, isDecimalDigit c = true := by
  rw [List.span_eq_takeWhile_dropWhile, Prod.mk.injEq]
  constructor
  · rintro ⟨rfl, hrest⟩
    refine ⟨?_, fun c => List.mem_takeWhile_imp⟩
    rw [← hrest, List.takeWhile_append_dropWhile]
  · rintro ⟨rfl, hdigits⟩
    have hdot : ¬ isDecimalDigit '.' = true := by decide
    rw [List.takeWhile_append_of_pos hdigits, List.dropWhile_append_of_pos hdigits,
      List.takeWhile_cons_of_neg hdot, List.dropWhile_cons_of_neg hdot, List.append_nil]
    exact ⟨rfl, rfl⟩

/-- Digits of any script, at least one and at most so many. -/
structure IsGroup (places : Nat) (digits : List Char) : Prop where
  isDecimalDigit : ∀ c ∈ digits, isDecimalDigit c = true
  length_pos : 1 ≤ digits.length
  length_le : digits.length ≤ places

def dotted (area line device : List Char) : List Char := area ++ '.' :: (line ++ '.' :: device)

theorem groups?_eq_some_iff {cs area line device : List Char} :
    groups? cs = some (area, line, device) ↔ trimBlanks cs = dotted area line device ∧
      IsGroup 2 area ∧ IsGroup 2 line ∧ IsGroup 3 device := by
  constructor
  · intro h
    unfold groups? at h
    split at h
    · next harea =>
      obtain ⟨htrim, hareas⟩ := span_digits_iff.mp harea
      split at h
      · next hline =>
        obtain ⟨hrest, hlines⟩ := span_digits_iff.mp hline
        split_ifs at h with hlengths
        cases h
        obtain ⟨hdevices, harea, hline, hdevice⟩ := hlengths
        refine ⟨?_, ⟨hareas, harea.1, harea.2⟩, ⟨hlines, hline.1, hline.2⟩, ?_⟩
        · rw [htrim, hrest, dotted]
        · exact ⟨List.all_eq_true.mp hdevices, hdevice.1, hdevice.2⟩
      · cases h
    · cases h
  · rintro ⟨htrim, harea, hline, hdevice⟩
    have hareas := span_digits_iff.mpr ⟨htrim, harea.isDecimalDigit⟩
    have hlines : (line ++ '.' :: device).span isDecimalDigit = (line, '.' :: device) :=
      span_digits_iff.mpr ⟨rfl, hline.isDecimalDigit⟩
    simp only [groups?, hareas, hlines]
    rw [if_pos]
    exact ⟨List.all_eq_true.mpr hdevice.isDecimalDigit, ⟨harea.length_pos, harea.length_le⟩,
      ⟨hline.length_pos, hline.length_le⟩, hdevice.length_pos, hdevice.length_le⟩

/-- A numeral of ASCII digits, with a bound on their number and on its value. -/
structure IsNumeral (places bound : Nat) (digits : List Char) : Prop where
  isDigit : ∀ c ∈ digits, c.isDigit = true
  length_pos : 1 ≤ digits.length
  length_le : digits.length ≤ places
  value_le : Nat.ofDigitChars 10 digits 0 ≤ bound

theorem IsNumeral.isGroup {places bound : Nat} {digits : List Char}
    (h : IsNumeral places bound digits) : IsGroup places digits :=
  ⟨fun c hc => isDecimalDigit_of_isDigit (h.isDigit c hc), h.length_pos, h.length_le⟩

theorem isNumeral_toDigits {places bound value : Nat} (hplaces : 0 < places)
    (hbound : bound < 10 ^ places) (h : value ≤ bound) :
    IsNumeral places bound (Nat.toDigits 10 value) where
  isDigit _ := Nat.isDigit_of_mem_toDigits (by decide) (by decide)
  length_pos := Nat.length_toDigits_pos
  length_le := (Nat.length_toDigits_le_iff (by decide) hplaces).mpr (h.trans_lt hbound)
  value_le := by rwa [Nat.ofDigitChars_ten_toDigits]

theorem part?_eq_some_iff {digits : List Char} {octet : UInt8} : part? digits = some octet ↔
    (∀ c ∈ digits, c.isDigit = true) ∧ octet.toNat = Nat.ofDigitChars 10 digits 0 := by
  unfold part?
  dsimp only
  split_ifs with h
  · obtain ⟨hdigits, hle⟩ := h
    have hvalue : (UInt8.ofNat (Nat.ofDigitChars 10 digits 0)).toNat =
        Nat.ofDigitChars 10 digits 0 := by
      rw [UInt8.toNat_ofNat']
      omega
    rw [Option.some.injEq, ← UInt8.toNat_inj, hvalue]
    exact ⟨fun heq => ⟨List.all_eq_true.mp hdigits, heq.symm⟩, fun heq => heq.2.symm⟩
  · refine iff_of_false nofun fun ⟨hdigits, hvalue⟩ => h ⟨List.all_eq_true.mpr hdigits, ?_⟩
    have hlt := octet.toNat_lt
    omega

theorem IsNumeral.exists_part {places bound : Nat} {digits : List Char}
    (h : IsNumeral places bound digits) (hbound : bound ≤ 255) :
    ∃ octet, part? digits = some octet ∧ octet.toNat = Nat.ofDigitChars 10 digits 0 := by
  have hle := h.value_le
  have hvalue : (UInt8.ofNat (Nat.ofDigitChars 10 digits 0)).toNat =
      Nat.ofDigitChars 10 digits 0 := by
    rw [UInt8.toNat_ofNat']
    omega
  exact ⟨_, part?_eq_some_iff.mpr ⟨h.isDigit, hvalue⟩, hvalue⟩

theorem ofParts_eq_ok_iff {area line device : UInt8} {a : DeviceAddress} :
    ofParts area line device = .ok a ↔ (area.toNat ≤ 15 ∧ line.toNat ≤ 15) ∧
      a.raw.toNat = area.toNat * 4096 + line.toNat * 256 + device.toNat := by
  have hdevice := device.toNat_lt
  unfold ofParts
  split_ifs with h
  · have hraw : (UInt16.ofNat (area.toNat * 4096 + line.toNat * 256 + device.toNat)).toNat =
        area.toNat * 4096 + line.toNat * 256 + device.toNat := by
      rw [UInt16.toNat_ofNat']
      omega
    obtain ⟨raw⟩ := a
    rw [Except.ok.injEq, mk.injEq, ← UInt16.toNat_inj, hraw]
    exact ⟨fun heq => ⟨h, heq.symm⟩, fun heq => heq.2.symm⟩
  · exact iff_of_false nofun fun heq => h heq.1

/-- A way to write an address. -/
structure Spelling where
  before : List Char
  area : List Char
  line : List Char
  device : List Char
  after : List Char
  isBlank_before : ∀ c ∈ before, isBlank c = true
  isBlank_after : ∀ c ∈ after, isBlank c = true
  area_isNumeral : IsNumeral 2 15 area
  line_isNumeral : IsNumeral 2 15 line
  device_isNumeral : IsNumeral 3 255 device

namespace Spelling

def chars (s : Spelling) : List Char := s.before ++ dotted s.area s.line s.device ++ s.after

def raw (s : Spelling) : Nat :=
  Nat.ofDigitChars 10 s.area 0 * 4096 + Nat.ofDigitChars 10 s.line 0 * 256 +
    Nat.ofDigitChars 10 s.device 0

variable (s : Spelling)

theorem trimBlanks_chars : trimBlanks s.chars = dotted s.area s.line s.device := by
  have hdigit {digits : List Char} {places : Nat} (h : IsGroup places digits) {c : Char}
      (hc : c ∈ digits) : isBlank c = false := isBlank_of_isDecimalDigit (h.isDecimalDigit c hc)
  have harea : s.area ≠ [] := List.ne_nil_of_length_pos s.area_isNumeral.length_pos
  have hdevice : s.device ≠ [] := List.ne_nil_of_length_pos s.device_isNumeral.length_pos
  refine trimBlanks_append ?_ s.isBlank_before s.isBlank_after ?_ ?_
  · exact List.append_ne_nil_of_left_ne_nil harea _
  · intro c hc
    rw [dotted, List.head?_append_of_ne_nil _ harea] at hc
    exact hdigit s.area_isNumeral.isGroup (List.mem_of_mem_head? hc)
  · intro c hc
    have hlast : (dotted s.area s.line s.device).getLast? = s.device.getLast? := by
      have hsplit : dotted s.area s.line s.device =
          (s.area ++ '.' :: (s.line ++ ['.'])) ++ s.device := by simp [dotted]
      rw [hsplit]
      exact List.getLast?_append_of_ne_nil _ hdevice
    rw [hlast] at hc
    exact hdigit s.device_isNumeral.isGroup (List.mem_of_mem_getLast? hc)

/-- The form of a text leaves no choice of its numerals. -/
theorem groups?_chars : groups? s.chars = some (s.area, s.line, s.device) :=
  groups?_eq_some_iff.mpr ⟨s.trimBlanks_chars, s.area_isNumeral.isGroup, s.line_isNumeral.isGroup,
    s.device_isNumeral.isGroup⟩

theorem exists_parse {text : String} (h : text.toList = s.chars) :
    ∃ a, parse text = .ok a ∧ a.raw.toNat = s.raw := by
  obtain ⟨area, harea, hA⟩ := s.area_isNumeral.exists_part (by decide)
  obtain ⟨line, hline, hL⟩ := s.line_isNumeral.exists_part (by decide)
  obtain ⟨device, hdevice, hD⟩ := s.device_isNumeral.exists_part (by decide)
  have hrange : area.toNat ≤ 15 ∧ line.toNat ≤ 15 :=
    ⟨hA ▸ s.area_isNumeral.value_le, hL ▸ s.line_isNumeral.value_le⟩
  have hok : ofParts area line device =
      .ok ⟨UInt16.ofNat (area.toNat * 4096 + line.toNat * 256 + device.toNat)⟩ := if_pos hrange
  refine ⟨_, ?_, (ofParts_eq_ok_iff.mp hok).2.trans ?_⟩
  · simp only [parse, h, s.groups?_chars, harea, hline, hdevice, hok]
  · rw [hA, hL, hD, raw]

end Spelling

theorem exists_spelling {text : String} {a : DeviceAddress} (h : parse text = .ok a) :
    ∃ s : Spelling, text.toList = s.chars ∧ a.raw.toNat = s.raw := by
  unfold parse at h
  split at h
  · cases h
  · next area line device hgroups =>
    obtain ⟨htrim, harea, hline, hdevice⟩ := groups?_eq_some_iff.mp hgroups
    obtain ⟨before, after, hbefore, hafter, hchars⟩ := exists_trimmed text.toList
    split at h
    · next a l d ha hl hd =>
      obtain ⟨hareas, hA⟩ := part?_eq_some_iff.mp ha
      obtain ⟨hlines, hL⟩ := part?_eq_some_iff.mp hl
      obtain ⟨hdevices, hD⟩ := part?_eq_some_iff.mp hd
      obtain ⟨⟨hA15, hL15⟩, hraw⟩ := ofParts_eq_ok_iff.mp h
      have hD255 := Nat.le_of_lt_succ d.toNat_lt
      rw [hA] at hA15 hraw
      rw [hL] at hL15 hraw
      rw [hD] at hD255 hraw
      rw [htrim] at hchars
      exact ⟨⟨before, area, line, device, after, hbefore, hafter,
        ⟨hareas, harea.length_pos, harea.length_le, hA15⟩,
        ⟨hlines, hline.length_pos, hline.length_le, hL15⟩,
        ⟨hdevices, hdevice.length_pos, hdevice.length_le, hD255⟩⟩, hchars, hraw⟩
    · cases h

/-- What is read as an address is spelled out, and only that. -/
theorem parse_eq_ok_iff {text : String} {a : DeviceAddress} :
    parse text = .ok a ↔ ∃ s : Spelling, text.toList = s.chars ∧ a.raw.toNat = s.raw := by
  constructor
  · exact exists_spelling
  · rintro ⟨s, hchars, hraw⟩
    obtain ⟨⟨raw⟩, hparse, hraw'⟩ := s.exists_parse hchars
    obtain rfl : a.raw = raw := UInt16.toNat_inj.mp (hraw.trans hraw'.symm)
    exact hparse

theorem area_le (a : DeviceAddress) : a.area ≤ 15 := by
  have hraw := a.raw.toNat_lt
  rw [area]
  omega

theorem line_le (a : DeviceAddress) : a.line ≤ 15 := by
  rw [line]
  omega

theorem device_le (a : DeviceAddress) : a.device ≤ 255 := by
  rw [device]
  omega

/-- The spelling in which an address is written, without white space and leading zeros. -/
def plain (a : DeviceAddress) : Spelling where
  before := []
  area := Nat.toDigits 10 a.area
  line := Nat.toDigits 10 a.line
  device := Nat.toDigits 10 a.device
  after := []
  isBlank_before := nofun
  isBlank_after := nofun
  area_isNumeral := isNumeral_toDigits (by decide) (by decide) a.area_le
  line_isNumeral := isNumeral_toDigits (by decide) (by decide) a.line_le
  device_isNumeral := isNumeral_toDigits (by decide) (by decide) a.device_le

theorem toList_text (a : DeviceAddress) : a.text.toList = a.plain.chars := by
  have hdot : (toString ".").toList = ['.'] := rfl
  simp [text, plain, Spelling.chars, dotted, hdot]

theorem raw_plain (a : DeviceAddress) : a.plain.raw = a.raw.toNat := by
  simp only [Spelling.raw, plain, Nat.ofDigitChars_ten_toDigits, area, line, device]
  omega

theorem parse_text (a : DeviceAddress) : parse a.text = .ok a :=
  parse_eq_ok_iff.mpr ⟨a.plain, a.toList_text, a.raw_plain.symm⟩

def Refuses (text : String) : Prop :=
  ∃ fault, parse text = .error fault ∧ (Fault.address fault).kind = .invalidData

theorem refuses_of_not_spelled {text : String} (h : ¬ ∃ s : Spelling, text.toList = s.chars) :
    Refuses text := by
  rcases hp : parse text with fault | a
  · exact ⟨fault, hp, rfl⟩
  · obtain ⟨s, hchars, -⟩ := exists_spelling hp
    exact absurd ⟨s, hchars⟩ h

namespace Spelling

variable (s : Spelling)

theorem mem_chars {c : Char} (h : c ∈ s.chars) :
    isBlank c = true ∨ c.isDigit = true ∨ c = '.' := by
  simp only [chars, dotted, List.mem_append, List.mem_cons] at h
  rcases h with (h | h | rfl | h | rfl | h) | h
  · exact .inl (s.isBlank_before c h)
  · exact .inr (.inl (s.area_isNumeral.isDigit c h))
  · exact .inr (.inr rfl)
  · exact .inr (.inl (s.line_isNumeral.isDigit c h))
  · exact .inr (.inr rfl)
  · exact .inr (.inl (s.device_isNumeral.isDigit c h))
  · exact .inl (s.isBlank_after c h)

theorem count_chars : s.chars.count '.' = 2 := by
  have hblank {cs : List Char} (h : ∀ c ∈ cs, isBlank c = true) : cs.count '.' = 0 :=
    List.count_eq_zero.mpr fun hdot => absurd (h '.' hdot) (by decide)
  have hdigit {cs : List Char} {places bound : Nat} (h : IsNumeral places bound cs) :
      cs.count '.' = 0 :=
    List.count_eq_zero.mpr fun hdot => absurd (h.isDigit '.' hdot) (by decide)
  simp [chars, dotted, hblank s.isBlank_before, hblank s.isBlank_after, hdigit s.area_isNumeral,
    hdigit s.line_isNumeral, hdigit s.device_isNumeral]

end Spelling

end DeviceAddress

open DeviceAddress

/-- A text is read as an address if and only if it is a spelling of one, and all others are refused,
among them those with other characters or another number of dots than a spelling has. An address is
read back from its written form. -/
theorem spells_of_text (text : String) :
    ((∃ a, parse text = .ok a) ↔ ∃ s : Spelling, text.toList = s.chars) ∧
    (∀ s : Spelling, text.toList = s.chars → ∃ a, parse text = .ok a ∧ a.raw.toNat = s.raw) ∧
    ((¬ ∃ s : Spelling, text.toList = s.chars) → Refuses text) ∧
    ((∃ c ∈ text.toList, ¬ (isBlank c = true ∨ c.isDigit = true ∨ c = '.')) ∨
      text.toList.count '.' ≠ 2 → Refuses text) ∧
    (∀ a : DeviceAddress, parse a.text = .ok a) ∧
    ∀ a, parse text = .ok a → parse a.text = parse text := by
  have hvalue (s : Spelling) (hchars : text.toList = s.chars) := s.exists_parse hchars
  refine ⟨⟨?_, ?_⟩, hvalue, refuses_of_not_spelled, ?_, parse_text, ?_⟩
  · rintro ⟨a, h⟩
    obtain ⟨s, hchars, -⟩ := exists_spelling h
    exact ⟨s, hchars⟩
  · rintro ⟨s, hchars⟩
    obtain ⟨a, hparse, -⟩ := hvalue s hchars
    exact ⟨a, hparse⟩
  · intro hforeign
    refine refuses_of_not_spelled ?_
    rintro ⟨s, hchars⟩
    rw [hchars] at hforeign
    rcases hforeign with ⟨c, hmem, hc⟩ | hcount
    · exact hc (s.mem_chars hmem)
    · exact hcount s.count_chars
  · intro a h
    rw [h, parse_text]

theorem spells_padded :
    (∃ a, parse "\u2003 01.15.007\n" = .ok a ∧ a.raw.toNat = 0x1F07) ∧
      Refuses "1.1.\u0665" := by
  let s : Spelling := {
    before := ['\u2003', ' ']
    area := ['0', '1']
    line := ['1', '5']
    device := ['0', '0', '7']
    after := ['\n']
    isBlank_before := List.all_eq_true.mp (by decide)
    isBlank_after := List.all_eq_true.mp (by decide)
    area_isNumeral := ⟨List.all_eq_true.mp (by decide), by decide, by decide, by decide⟩
    line_isNumeral := ⟨List.all_eq_true.mp (by decide), by decide, by decide, by decide⟩
    device_isNumeral := ⟨List.all_eq_true.mp (by decide), by decide, by decide, by decide⟩ }
  have hraw : s.raw = 0x1F07 := by decide
  have hforeign : '\u0665' ∈ "1.1.\u0665".toList := by decide
  obtain ⟨a, hparse, hvalue⟩ := (spells_of_text "\u2003 01.15.007\n").2.1 s (by decide)
  refine ⟨⟨a, hparse, hvalue.trans hraw⟩, ?_⟩
  exact (spells_of_text _).2.2.2.1 (.inl ⟨'\u0665', hforeign, by decide⟩)

end BusTransport
