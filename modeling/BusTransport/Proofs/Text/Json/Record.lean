import BusTransport.Proofs.Text.Json.Scanning
import BusTransport.Text.Json.Record

/-! # Reading written records

A record that writes each of its fields once is read by setting these fields in order, because no
key is seen twice and each finds the field that has its name.
-/

namespace BusTransport

namespace Json

instance (c : Char) : Decidable (IsPlain c) :=
  decidable_of_iff (c ≠ '"' ∧ c ≠ '\\' ∧ 0x20 ≤ c.toNat)
    ⟨fun ⟨hquote, hescape, hcontrol⟩ => ⟨hquote, hescape, hcontrol⟩,
      fun ⟨hquote, hescape, hcontrol⟩ => ⟨hquote, hescape, hcontrol⟩⟩

theorem isPlain_of_isDigit {c : Char} (h : c.isDigit = true) : IsPlain c := by
  simp only [Char.isDigit, Bool.and_eq_true, decide_eq_true_eq] at h
  refine ⟨?_, ?_, ?_⟩
  · rintro rfl
    exact absurd h (by decide)
  · rintro rfl
    exact absurd h (by decide)
  · have hle : 48 ≤ c.toNat := UInt32.le_iff_toNat_le.mp h.1
    omega

theorem unescape?_plain {literal : List Char} (h : ∀ c ∈ literal, IsPlain c) :
    unescape? none literal = some literal := by
  induction literal with
  | nil => rfl
  | cons c literal ih =>
    obtain ⟨hc, hliteral⟩ := List.forall_mem_cons.mp h
    have hstep (cs : List Char) :
        unescape? none (c :: cs) = (unescape? none cs).map (c :: ·) := by
      have hescape := hc.ne_escape
      rw [unescape?.eq_def]
      split <;> simp_all
    rw [hstep, ih hliteral]
    rfl

theorem textOf?_plain {text : String} (h : ∀ c ∈ text.toList, IsPlain c) :
    textOf? text.toList = some text := by
  rw [textOf?, unescape?_plain h, Option.map_some, String.ofList_toList]

theorem natBelow?_ofNat (bound n : Nat) :
    (ofNat n).natBelow? bound = if n < bound then some n else none := by
  have hdigits : (Nat.toDigits 10 n).all Char.isDigit = true :=
    List.all_eq_true.mpr fun _ => Nat.isDigit_of_mem_toDigits (by decide) (by decide)
  simp only [ofNat, natBelow?, hdigits, Nat.ofDigitChars_ten_toDigits, true_and]

end Json

namespace Field

variable {α : Type} {fields : List (Field α)}

/-- Fields whose names are distinct and need no escapes. -/
structure WellNamed (fields : List (Field α)) : Prop where
  nodup : (fields.map (·.key)).Nodup
  plain : ∀ field ∈ fields, ∀ c ∈ field.key.toList, Json.IsPlain c

theorem WellNamed.of_all (hnodup : (fields.map (·.key)).Nodup)
    (hplain : fields.all (fun field => field.key.toList.all (Json.IsPlain ·)) = true) :
    WellNamed fields := by
  refine ⟨hnodup, fun field hfield c hc => ?_⟩
  have hkey := List.all_eq_true.mp hplain field hfield
  exact of_decide_eq_true (List.all_eq_true.mp hkey c hc)

theorem WellNamed.find?_key (h : WellNamed fields) {field : Field α} (hmem : field ∈ fields) :
    fields.find? (·.key = field.key) = some field := by
  obtain ⟨hnodup, -⟩ := h
  induction fields with
  | nil => cases hmem
  | cons first fields ih =>
    rw [List.map_cons, List.nodup_cons] at hnodup
    obtain ⟨hfirst, hrest⟩ := hnodup
    rcases List.mem_cons.mp hmem with rfl | hmem
    · exact List.find?_cons_of_pos (decide_eq_true rfl)
    · have hne : first.key ≠ field.key := fun heq => hfirst (heq ▸ List.mem_map_of_mem hmem)
      rw [List.find?_cons_of_neg (by simpa using hne), ih hmem hrest]

theorem readMembers_eq_foldlM (h : WellNamed fields) {entries : List (Field α × Json)}
    (hfields : ∀ entry ∈ entries, entry.1 ∈ fields)
    (hnodup : (entries.map (·.1.key)).Nodup) {seen : List String}
    (hseen : ∀ entry ∈ entries, entry.1.key ∉ seen) (record : α) :
    readMembers fields seen record (entries.map fun (field, value) => (field.key.toList, value)) =
      entries.foldlM (fun record (field, value) => field.set? value record) record := by
  induction entries generalizing seen record with
  | nil => rfl
  | cons entry entries ih =>
    obtain ⟨field, value⟩ := entry
    obtain ⟨hfield, hfields⟩ := List.forall_mem_cons.mp hfields
    obtain ⟨hfresh, hseen⟩ := List.forall_mem_cons.mp hseen
    rw [List.map_cons, List.nodup_cons] at hnodup
    obtain ⟨hkey, hnodup⟩ := hnodup
    have hseen' : ∀ entry ∈ entries, entry.1.key ∉ field.key :: seen := by
      intro entry hentry
      have hne : entry.1.key ≠ field.key := fun heq => hkey (heq ▸ List.mem_map_of_mem hentry)
      exact List.not_mem_cons_of_ne_of_not_mem hne (hseen entry hentry)
    have htext := Json.textOf?_plain (h.plain field hfield)
    simp only [List.map_cons, readMembers, htext, h.find?_key hfield, if_neg hfresh,
      Option.bind_eq_bind, Option.bind_some, List.foldlM_cons, ih hfields hnodup hseen']

def write (fields : List (Field α)) (values : List Json) : Json :=
  .ofFields ((fields.zip values).map fun (field, value) => (field.key, value))

/-- A record is read by setting each field to the value that was written. -/
theorem read?_write (h : WellNamed fields) {values : List Json}
    (hlength : fields.length = values.length) (record : α) :
    read? fields record (write fields values) =
      (fields.zip values).foldlM (fun record (field, value) => field.set? value record) record := by
  have hfields : (fields.zip values).map Prod.fst = fields :=
    List.map_fst_zip (Nat.le_of_eq hlength)
  have hnodup := h.nodup
  rw [← hfields, List.map_map] at hnodup
  rw [write, Json.ofFields, List.map_map]
  exact readMembers_eq_foldlM h (fun _ hentry => (List.of_mem_zip hentry).1) hnodup
    (fun _ _ => List.not_mem_nil) record

theorem plain_write (h : WellNamed fields) {values : List Json}
    (hvalues : ∀ value ∈ values, Json.Plain value) : Json.Plain (write fields values) := by
  rw [write, Json.ofFields, List.map_map]
  refine .object (List.forall_mem_map.mpr fun entry hentry => ?_)
    (List.forall_mem_map.mpr fun entry hentry => ?_)
  · exact h.plain entry.1 (List.of_mem_zip hentry).1
  · exact hvalues entry.2 (List.of_mem_zip hentry).2

end Field

end BusTransport
