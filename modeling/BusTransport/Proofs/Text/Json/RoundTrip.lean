import BusTransport.Proofs.Text.Json.Scanning

/-! # Reading written values

Whatever containers are open, the tokens of a value make the reader put that value into the
innermost of them. So a value of natural numbers and strings without escapes is read from its text.
-/

namespace BusTransport.Json

open Expectation

/-- The tokens of a value put it into the innermost open container. -/
def Fills (value : Json) : Prop :=
  ∀ (outer : List Partial) (ts : List Token),
    (value.tokens ++ ts).foldlM step (.value outer) = ts.foldlM step (put value outer)

variable {outer : List Partial} {ts : List Token}

/-- The rest of an array, whatever elements are complete. -/
theorem Fills.elements {element : Json} {elements : List Json} (helement : element.Fills)
    (helements : ∀ element ∈ elements, element.Fills) (done : List Json) :
    (elementTokens (element :: elements) ++ ts).foldlM step (.value (.array done :: outer)) =
      ts.foldlM step (put (.array (done.reverse ++ element :: elements)) outer) := by
  induction elements generalizing element done with
  | nil =>
    have hend := helement (.array done :: outer) (.rightBracket :: ts)
    rw [elementTokens, List.append_assoc, ← List.reverse_cons]
    exact hend
  | cons next elements ih =>
    obtain ⟨hnext, hrest⟩ := List.forall_mem_cons.mp helements
    calc (elementTokens (element :: next :: elements) ++ ts).foldlM step
          (.value (.array done :: outer))
      _ = (elementTokens (next :: elements) ++ ts).foldlM step
          (.value (.array (element :: done) :: outer)) := by
        have hcomma := helement (.array done :: outer)
          (.comma :: (elementTokens (next :: elements) ++ ts))
        rw [elementTokens, List.append_assoc, List.cons_append, hcomma]
        · rfl
        · exact List.cons_ne_nil _ _
      _ = ts.foldlM step (put (.array (done.reverse ++ element :: next :: elements)) outer) := by
        rw [ih hnext hrest, List.reverse_cons, List.append_assoc, List.singleton_append]

theorem fills_array {elements : List Json} (h : ∀ element ∈ elements, element.Fills) :
    (array elements).Fills := by
  intro outer ts
  cases elements with
  | nil => rfl
  | cons element elements =>
    obtain ⟨helement, helements⟩ := List.forall_mem_cons.mp h
    -- A first element begins like any other, for its first token is no closing bracket.
    have hfirst : (elementTokens (element :: elements) ++ ts).foldlM step (.firstElement outer) =
        (elementTokens (element :: elements) ++ ts).foldlM step
          (.value (.array [] :: outer)) := by
      cases elements <;> cases element <;> rfl
    exact hfirst.trans (helement.elements helements [])

theorem Fills.members {key : List Char} {value : Json} {members : List (List Char × Json)}
    (hvalue : value.Fills) (hmembers : ∀ m ∈ members, m.2.Fills)
    (done : List (List Char × Json)) :
    (memberTokens ((key, value) :: members) ++ ts).foldlM step (.nextKey done outer) =
      ts.foldlM step (put (.object (done.reverse ++ (key, value) :: members)) outer) := by
  induction members generalizing key value done with
  | nil =>
    have hend := hvalue (.object done key :: outer) (.rightBrace :: ts)
    simp only [memberTokens, List.cons_append, List.append_assoc, ← List.reverse_cons]
    exact hend
  | cons next members ih =>
    obtain ⟨hnext, hrest⟩ := List.forall_mem_cons.mp hmembers
    calc (memberTokens ((key, value) :: next :: members) ++ ts).foldlM step (.nextKey done outer)
      _ = (memberTokens (next :: members) ++ ts).foldlM step
          (.nextKey ((key, value) :: done) outer) := by
        have hcomma := hvalue (.object done key :: outer)
          (.comma :: (memberTokens (next :: members) ++ ts))
        rw [memberTokens, List.cons_append, List.cons_append, List.append_assoc, List.cons_append]
        · exact hcomma
        · exact List.cons_ne_nil _ _
      _ = ts.foldlM step
          (put (.object (done.reverse ++ (key, value) :: next :: members)) outer) := by
        rw [ih hnext hrest, List.reverse_cons, List.append_assoc, List.singleton_append]

theorem fills_object {members : List (List Char × Json)} (h : ∀ m ∈ members, m.2.Fills) :
    (object members).Fills := by
  intro outer ts
  cases members with
  | nil => rfl
  | cons m members =>
    obtain ⟨hvalue, hmembers⟩ := List.forall_mem_cons.mp h
    have hfirst : (memberTokens (m :: members) ++ ts).foldlM step (.firstKey outer) =
        (memberTokens (m :: members) ++ ts).foldlM step (.nextKey [] outer) := by
      cases members <;> rfl
    exact hfirst.trans (hvalue.members hmembers [])

theorem Plain.fills {value : Json} (h : Plain value) : value.Fills := by
  induction h with
  | null => exact fun _ _ => rfl
  | bool b => exact fun _ _ => rfl
  | ofNat n => exact fun _ _ => rfl
  | string _ => exact fun _ _ => rfl
  | array _ ih => exact fills_array ih
  | object _ _ ih => exact fills_object ih

/-- A value of natural numbers and strings without escapes is read from its text. -/
theorem parse?_text {value : Json} (h : Plain value) : parse? value.text = some value := by
  have hread := h.fills [] []
  rw [List.append_nil] at hread
  simp [parse?, text, scan_render h, hread, put]

end BusTransport.Json
