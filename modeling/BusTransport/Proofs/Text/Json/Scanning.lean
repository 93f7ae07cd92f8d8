import Mathlib.Data.List.TakeDrop
import BusTransport.Text.Json.Printer

/-! # Scanning written values

A value that needs no escapes is written as a sequence of tokens. Numbers are the only tokens that
what follows could prolong, and in a written value nothing does: a number is followed by a comma, a
closing bracket or the end of the text.
-/

namespace BusTransport.Json

mutual

def tokens : Json → List Token
  | .null => [.null]
  | .bool b => [.bool b]
  | .number literal => [.number literal]
  | .string literal => [.string literal]
  | .array elements => .leftBracket :: elementTokens elements
  | .object members => .leftBrace :: memberTokens members

def elementTokens : List Json → List Token
  | [] => [.rightBracket]
  | [element] => tokens element ++ [.rightBracket]
  | element :: elements => tokens element ++ .comma :: elementTokens elements

def memberTokens : List (List Char × Json) → List Token
  | [] => [.rightBrace]
  | [(key, value)] => .string key :: .colon :: tokens value ++ [.rightBrace]
  | (key, value) :: members =>
    .string key :: .colon :: tokens value ++ .comma :: memberTokens members

end

/-- A character that stands for itself in a string literal. -/
structure IsPlain (c : Char) : Prop where
  ne_quote : c ≠ '"'
  ne_escape : c ≠ '\\'
  not_control : 0x20 ≤ c.toNat

/-- A value of natural numbers and of strings without escapes. -/
inductive Plain : Json → Prop
  | null : Plain .null
  | bool (b : Bool) : Plain (.bool b)
  | ofNat (n : Nat) : Plain (.ofNat n)
  | string {literal} : (∀ c ∈ literal, IsPlain c) → Plain (.string literal)
  | array {elements} : (∀ element ∈ elements, Plain element) → Plain (.array elements)
  | object {members} : (∀ m ∈ members, ∀ c ∈ m.1, IsPlain c) → (∀ m ∈ members, Plain m.2) →
      Plain (.object members)

/-- What can follow a value in a text: the end, or a character that ends a number. -/
def Ends (rest : List Char) : Prop := ∀ c ∈ rest.head?, c = ',' ∨ c = ']' ∨ c = '\x7d'

theorem ends_nil : Ends [] := nofun

theorem ends_cons {c : Char} (rest : List Char) (h : c = ',' ∨ c = ']' ∨ c = '\x7d') :
    Ends (c :: rest) := by
  rintro _ ⟨⟩
  exact h

/-- With a step for each character, or more, scanning a text gives these tokens. -/
def Scans (cs : List Char) (ts : List Token) : Prop :=
  ∀ steps, cs.length ≤ steps → scanWithin steps cs = some ts

section Token

variable {c : Char} {rest rest' : List Char} {token : Token} {ts : List Token}

theorem scans_nil : Scans [] [] := by
  rintro (_ | steps) _ <;> rfl

theorem Scans.cons (hr : Scans rest ts) (hc : isSpace c = false)
    (ht : token? (c :: rest') = some (token, rest)) (hsuffix : rest <:+ rest') :
    Scans (c :: rest') (token :: ts) := by
  intro steps hsteps
  obtain ⟨steps, rfl⟩ := Nat.exists_eq_add_one_of_ne_zero (Nat.ne_zero_of_lt hsteps)
  have hrest := hr steps (Nat.le_trans hsuffix.length_le (Nat.le_of_succ_le_succ hsteps))
  simp only [scanWithin, hc, ht, hrest, Bool.false_eq_true, if_false, Option.map_some]

theorem Scans.punctuation (hr : Scans rest ts) (hc : isSpace c = false)
    (ht : token? (c :: rest) = some (token, rest)) : Scans (c :: rest) (token :: ts) :=
  hr.cons hc ht List.suffix_rfl

theorem quoted?_plain {literal : List Char} (h : ∀ c ∈ literal, IsPlain c) (rest : List Char) :
    quoted? (literal ++ '"' :: rest) = some (literal, rest) := by
  induction literal with
  | nil => rfl
  | cons c literal ih =>
    obtain ⟨hc, hliteral⟩ := List.forall_mem_cons.mp h
    obtain ⟨hquote, hescape, hcontrol⟩ := hc
    have hstep {cs body rest : List Char} (h : quoted? cs = some (body, rest)) :
        quoted? (c :: cs) = some (c :: body, rest) := by
      rw [quoted?.eq_def]
      split
      · next heq => cases heq
      · next heq => exact absurd (List.cons.inj heq).1 hquote
      · next heq => exact absurd (List.cons.inj heq).1 hescape
      · next heq => exact absurd (List.cons.inj heq).1 hescape
      · next heq =>
        cases heq
        rw [if_pos hcontrol, h]
        rfl
    exact hstep (ih hliteral)

theorem Scans.string {literal : List Char} (hr : Scans rest ts)
    (h : ∀ c ∈ literal, IsPlain c) :
    Scans ('"' :: (literal ++ '"' :: rest)) (.string literal :: ts) := by
  refine hr.cons rfl ?_ ⟨literal ++ ['"'], List.append_assoc _ _ _⟩
  rw [token?, quoted?_plain h]
  rfl

end Token

section Number

theorem span_append_of_ends {digits rest : List Char} (h : ∀ c ∈ digits, c.isDigit = true)
    (hrest : Ends rest) : (digits ++ rest).span Char.isDigit = (digits, rest) := by
  rw [List.span_eq_takeWhile_dropWhile, List.takeWhile_append_of_pos h,
    List.dropWhile_append_of_pos h]
  cases rest with
  | nil => simp
  | cons c rest =>
    have hc : ¬ c.isDigit = true := by
      rcases hrest c rfl with rfl | rfl | rfl <;> decide
    rw [List.takeWhile_cons_of_neg hc, List.dropWhile_cons_of_neg hc, List.append_nil]

theorem exists_toDigits (n : Nat) :
    ∃ head digits, Nat.toDigits 10 n = head :: digits ∧ head.isDigit = true := by
  have hne : Nat.toDigits 10 n ≠ [] := Nat.toDigits_ne_nil
  obtain ⟨head, digits, hdigits⟩ := List.exists_cons_of_ne_nil hne
  exact ⟨head, digits, hdigits,
    Nat.isDigit_of_mem_toDigits (by decide) (by decide) (hdigits ▸ List.mem_cons_self)⟩

theorem toDigits_of_head_zero {n : Nat} {digits : List Char}
    (h : Nat.toDigits 10 n = '0' :: digits) : digits = [] := by
  induction n using Nat.strongRecOn generalizing digits with
  | ind n ih =>
    by_cases hn : n < 10
    · rw [Nat.toDigits_of_lt_base hn] at h
      exact (List.cons.inj h).2.symm
    · rw [Nat.toDigits_of_base_le (by decide) (Nat.le_of_not_lt hn)] at h
      obtain ⟨head, front, hfront, -⟩ := exists_toDigits (n / 10)
      rw [hfront] at h
      obtain rfl := (List.cons.inj h).1
      obtain rfl := ih (n / 10) (by omega) hfront
      have hvalue := Nat.ofDigitChars_ten_toDigits (n := n / 10)
      rw [hfront] at hvalue
      have hzero : n / 10 = 0 := hvalue.symm
      omega

theorem whole?_toDigits (n : Nat) {rest : List Char} (hrest : Ends rest) :
    whole? (Nat.toDigits 10 n ++ rest) = some (Nat.toDigits 10 n, rest) := by
  have hall : ∀ c ∈ Nat.toDigits 10 n, c.isDigit = true :=
    fun _ => Nat.isDigit_of_mem_toDigits (by decide) (by decide)
  obtain ⟨head, digits, hdigits, -⟩ := exists_toDigits n
  by_cases hzero : head = '0'
  · subst hzero
    rw [hdigits, toDigits_of_head_zero hdigits]
    rfl
  · have hwhole (cs : List Char) : whole? (head :: cs) = digits? (head :: cs) := by
      rw [whole?.eq_def]
      split
      · next heq => exact absurd (List.cons.inj heq).1 hzero
      · rfl
    rw [hdigits] at hall ⊢
    have hspan := span_append_of_ends hall hrest
    rw [List.cons_append] at hspan ⊢
    rw [hwhole, digits?, hspan]
    rfl

theorem fraction?_of_ends {rest : List Char} (hrest : Ends rest) :
    fraction? rest = some ([], rest) := by
  rw [fraction?.eq_def]
  split
  · next rest => exact absurd (hrest '.' rfl) (by decide)
  · rfl

theorem exponent?_of_ends {rest : List Char} (hrest : Ends rest) :
    exponent? rest = some ([], rest) := by
  cases rest with
  | nil => rfl
  | cons c rest =>
    have hc : ¬ (c = 'e' ∨ c = 'E') := by
      rcases hrest c rfl with rfl | rfl | rfl <;> decide
    exact if_neg hc

theorem token?_of_isDigit {c : Char} (h : c.isDigit = true) (cs : List Char) :
    token? (c :: cs) =
      (unsigned? (c :: cs)).map fun (literal, rest) => (.number literal, rest) := by
  have hnumeral : numeral? (c :: cs) = unsigned? (c :: cs) := by
    rw [numeral?.eq_def]
    split
    · next heq => cases heq; exact absurd h (by decide)
    · rfl
  rw [← hnumeral, token?.eq_def]
  -- All other tokens begin with a character that is no digit.
  split <;> try (next heq => cases heq; exact absurd h (by decide))
  rfl

theorem token?_toDigits (n : Nat) {rest : List Char} (hrest : Ends rest) :
    token? (Nat.toDigits 10 n ++ rest) = some (.number (Nat.toDigits 10 n), rest) := by
  have hunsigned : unsigned? (Nat.toDigits 10 n ++ rest) = some (Nat.toDigits 10 n, rest) := by
    simp only [unsigned?, whole?_toDigits n hrest, fraction?_of_ends hrest,
      exponent?_of_ends hrest, Option.bind_eq_bind, Option.bind_some, Option.pure_def,
      List.append_nil]
  obtain ⟨head, digits, hdigits, hhead⟩ := exists_toDigits n
  rw [hdigits] at hunsigned ⊢
  rw [List.cons_append, token?_of_isDigit hhead, ← List.cons_append, hunsigned]
  rfl

theorem Scans.number {rest : List Char} {ts : List Token} (hr : Scans rest ts)
    (hrest : Ends rest) (n : Nat) :
    Scans (Nat.toDigits 10 n ++ rest) (.number (Nat.toDigits 10 n) :: ts) := by
  have htoken := token?_toDigits n hrest
  obtain ⟨head, digits, hdigits, hhead⟩ := exists_toDigits n
  have hspace : isSpace head = false := by
    refine Bool.eq_false_iff.mpr fun h => ?_
    simp only [isSpace, Bool.or_eq_true, decide_eq_true_eq] at h
    rcases h with ((rfl | rfl) | rfl) | rfl <;> exact absurd hhead (by decide)
  rw [hdigits] at htoken ⊢
  exact hr.cons hspace htoken ⟨digits, rfl⟩

end Number

section Value

variable {rest : List Char} {ts : List Token}

/-- The text of a value, put before what can follow it, consists of the tokens of the value. -/
def Spelled (value : Json) : Prop :=
  ∀ {rest ts}, Ends rest → Scans rest ts → Scans (value.render ++ rest) (value.tokens ++ ts)

theorem scans_renderElements {elements : List Json} (h : ∀ element ∈ elements, Spelled element)
    (hr : Scans rest ts) :
    Scans (renderElements elements ++ rest) (elementTokens elements ++ ts) := by
  induction elements with
  | nil => exact hr.punctuation rfl rfl
  | cons element elements ih =>
    obtain ⟨helement, helements⟩ := List.forall_mem_cons.mp h
    cases elements with
    | nil =>
      have hend : Scans (']' :: rest) (.rightBracket :: ts) := hr.punctuation rfl rfl
      have := helement (ends_cons rest (.inr (.inl rfl))) hend
      simpa only [renderElements, elementTokens, List.append_assoc, List.cons_append,
        List.nil_append] using this
    | cons next elements =>
      have hcomma : Scans (',' :: (renderElements (next :: elements) ++ rest))
          (.comma :: (elementTokens (next :: elements) ++ ts)) :=
        (ih helements).punctuation rfl rfl
      have := helement (ends_cons _ (.inl rfl)) hcomma
      simpa only [renderElements, elementTokens, List.append_assoc, List.cons_append] using this

theorem Scans.key {key : List Char} (hr : Scans rest ts) (hkey : ∀ c ∈ key, IsPlain c) :
    Scans ('"' :: (key ++ '"' :: ':' :: rest)) (.string key :: .colon :: ts) :=
  have hcolon : Scans (':' :: rest) (.colon :: ts) := hr.punctuation rfl rfl
  hcolon.string hkey

theorem scans_renderMembers {members : List (List Char × Json)}
    (hkeys : ∀ m ∈ members, ∀ c ∈ m.1, IsPlain c) (hvalues : ∀ m ∈ members, Spelled m.2)
    (hr : Scans rest ts) :
    Scans (renderMembers members ++ rest) (memberTokens members ++ ts) := by
  induction members with
  | nil => exact hr.punctuation rfl rfl
  | cons m members ih =>
    obtain ⟨key, value⟩ := m
    obtain ⟨hkey, hkeys⟩ := List.forall_mem_cons.mp hkeys
    obtain ⟨hvalue, hvalues⟩ := List.forall_mem_cons.mp hvalues
    cases members with
    | nil =>
      have hend : Scans ('\x7d' :: rest) (.rightBrace :: ts) := hr.punctuation rfl rfl
      have := (hvalue (ends_cons rest (.inr (.inr rfl))) hend).key hkey
      simpa only [renderMembers, memberTokens, List.append_assoc, List.cons_append,
        List.nil_append] using this
    | cons next members =>
      have hcomma : Scans (',' :: (renderMembers (next :: members) ++ rest))
          (.comma :: (memberTokens (next :: members) ++ ts)) :=
        (ih hkeys hvalues).punctuation rfl rfl
      have := (hvalue (ends_cons _ (.inl rfl)) hcomma).key hkey
      simpa only [renderMembers, memberTokens, List.append_assoc, List.cons_append] using this

theorem Plain.spelled {value : Json} (h : Plain value) : value.Spelled := by
  induction h with
  | null => exact fun _ hr => hr.cons rfl rfl ⟨['u', 'l', 'l'], rfl⟩
  | bool b =>
    cases b with
    | false => exact fun _ hr => hr.cons rfl rfl ⟨['a', 'l', 's', 'e'], rfl⟩
    | true => exact fun _ hr => hr.cons rfl rfl ⟨['r', 'u', 'e'], rfl⟩
  | ofNat n => exact fun hrest hr => hr.number hrest n
  | string hliteral =>
    intro rest ts _ hr
    simpa only [render, tokens, List.append_assoc, List.cons_append, List.nil_append] using
      hr.string hliteral
  | array _ ih => exact fun _ hr => (scans_renderElements ih hr).punctuation rfl rfl
  | object hkeys _ ih => exact fun _ hr => (scans_renderMembers hkeys ih hr).punctuation rfl rfl

/-- The text of a value without escapes consists of the tokens of the value. -/
theorem scan_render {value : Json} (h : Plain value) : scan value.render = some value.tokens := by
  have := h.spelled ends_nil scans_nil
  rw [List.append_nil, List.append_nil] at this
  exact this _ (Nat.le_refl _)

end Value

end BusTransport.Json
