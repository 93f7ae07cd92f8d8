import BusTransport.Text.Json.Reader

/-! # Values of JSON literals

A string literal has a value only if its surrogate escapes come in pairs.
A number literal has a value as a natural number only if it consists of digits.
-/

namespace BusTransport.Json

def unitOf (a b c d : Char) : Nat :=
  [a, b, c, d].foldl (fun n h => n * 16 + (hexValue? h).getD 0) 0

def isHighSurrogate (unit : Nat) : Bool := 0xD800 ≤ unit && unit < 0xDC00

def isLowSurrogate (unit : Nat) : Bool := 0xDC00 ≤ unit && unit < 0xE000

def paired (high low : Nat) : Char :=
  Char.ofNat (0x10000 + (high - 0xD800) * 0x400 + (low - 0xDC00))

/-- The characters of a string literal; `high` is a high surrogate that waits for its partner. -/
def unescape? (high : Option Nat) : List Char → Option (List Char)
  | [] => if high.isNone then some [] else none
  | '\\' :: 'u' :: a :: b :: c :: d :: rest =>
    let unit := unitOf a b c d
    match high with
    | some h =>
      if isLowSurrogate unit then (unescape? none rest).map (paired h unit :: ·) else none
    | none =>
      if isHighSurrogate unit then unescape? (some unit) rest
      else if isLowSurrogate unit then none
      else (unescape? none rest).map (Char.ofNat unit :: ·)
  | '\\' :: c :: rest =>
    match high, escaped? c with
    | none, some e => (unescape? none rest).map (e :: ·)
    | _, _ => none
  | c :: rest => if high.isNone then (unescape? none rest).map (c :: ·) else none

def textOf? (literal : List Char) : Option String := (unescape? none literal).map String.ofList

def string? : Json → Option String
  | .string literal => textOf? literal
  | _ => none

/-- The value of a number written with digits only, if it is below a bound. -/
def natBelow? (bound : Nat) : Json → Option Nat
  | .number literal =>
    let n := Nat.ofDigitChars 10 literal 0
    if literal.all Char.isDigit ∧ n < bound then some n else none
  | _ => none

end BusTransport.Json
