/-! # JSON tokens

A token keeps a number as its literal and a string as the characters between its quotes, escapes
included. Scanning checks the form of escapes, but not which characters they stand for.
-/

namespace BusTransport.Json

inductive Token where
  | leftBracket
  | rightBracket
  | leftBrace
  | rightBrace
  | comma
  | colon
  | null
  | bool (value : Bool)
  | number (literal : List Char)
  | string (literal : List Char)
  deriving DecidableEq, Repr

def isSpace (c : Char) : Bool := c = ' ' || c = '\t' || c = '\n' || c = '\r'

def hexValue? (c : Char) : Option Nat :=
  if '0' ≤ c ∧ c ≤ '9' then some (c.toNat - 48)
  else if 'a' ≤ c ∧ c ≤ 'f' then some (c.toNat - 87)
  else if 'A' ≤ c ∧ c ≤ 'F' then some (c.toNat - 55)
  else none

def escaped? : Char → Option Char
  | '"' => some '"'
  | '\\' => some '\\'
  | '/' => some '/'
  | 'b' => some '\x08'
  | 'f' => some '\x0c'
  | 'n' => some '\n'
  | 'r' => some '\r'
  | 't' => some '\t'
  | _ => none

/-- A string literal and what follows its closing quote, from the text after the opening quote. -/
def quoted? : List Char → Option (List Char × List Char)
  | [] => none
  | '"' :: rest => some ([], rest)
  | '\\' :: 'u' :: a :: b :: c :: d :: rest =>
    if [a, b, c, d].all fun h => (hexValue? h).isSome then
      (quoted? rest).map fun (body, rest) => ('\\' :: 'u' :: a :: b :: c :: d :: body, rest)
    else none
  | '\\' :: c :: rest =>
    if (escaped? c).isSome then (quoted? rest).map fun (body, rest) => ('\\' :: c :: body, rest)
    else none
  | c :: rest =>
    if 0x20 ≤ c.toNat then (quoted? rest).map fun (body, rest) => (c :: body, rest) else none

def digits? (cs : List Char) : Option (List Char × List Char) :=
  let (digits, rest) := cs.span Char.isDigit
  if digits.isEmpty then none else some (digits, rest)

/-- A zero alone or digits that start with no zero, and what follows. -/
def whole? : List Char → Option (List Char × List Char)
  | '0' :: rest => some (['0'], rest)
  | cs => digits? cs

/-- A fraction, empty without a point, and what follows. -/
def fraction? : List Char → Option (List Char × List Char)
  | '.' :: rest => (digits? rest).map fun (digits, rest) => ('.' :: digits, rest)
  | cs => some ([], cs)

/-- An exponent, empty without its letter, and what follows. -/
def exponent? : List Char → Option (List Char × List Char)
  | [] => some ([], [])
  | e :: rest =>
    if e = 'e' ∨ e = 'E' then
      match rest with
      | [] => none
      | sign :: after =>
        if sign = '+' ∨ sign = '-' then
          (digits? after).map fun (digits, rest) => (e :: sign :: digits, rest)
        else (digits? rest).map fun (digits, rest) => (e :: digits, rest)
    else some ([], e :: rest)

def unsigned? (cs : List Char) : Option (List Char × List Char) := do
  let (whole, cs) ← whole? cs
  let (fraction, cs) ← fraction? cs
  let (exponent, cs) ← exponent? cs
  pure (whole ++ fraction ++ exponent, cs)

def numeral? : List Char → Option (List Char × List Char)
  | '-' :: rest => (unsigned? rest).map fun (literal, rest) => ('-' :: literal, rest)
  | cs => unsigned? cs

/-- The first token of a text that starts with no white space, and what follows. -/
def token? : List Char → Option (Token × List Char)
  | '[' :: rest => some (.leftBracket, rest)
  | ']' :: rest => some (.rightBracket, rest)
  | '\x7b' :: rest => some (.leftBrace, rest)
  | '\x7d' :: rest => some (.rightBrace, rest)
  | ',' :: rest => some (.comma, rest)
  | ':' :: rest => some (.colon, rest)
  | '"' :: rest => (quoted? rest).map fun (body, rest) => (.string body, rest)
  | 'n' :: 'u' :: 'l' :: 'l' :: rest => some (.null, rest)
  | 't' :: 'r' :: 'u' :: 'e' :: rest => some (.bool true, rest)
  | 'f' :: 'a' :: 'l' :: 's' :: 'e' :: rest => some (.bool false, rest)
  | cs => (numeral? cs).map fun (literal, rest) => (.number literal, rest)

/-- Scan with a bound on the number of steps, each of which takes at least one character. -/
def scanWithin : Nat → List Char → Option (List Token)
  | _, [] => some []
  | 0, _ :: _ => none
  | steps + 1, c :: rest =>
    if isSpace c then scanWithin steps rest
    else
      match token? (c :: rest) with
      | none => none
      | some (token, rest) => (scanWithin steps rest).map (token :: ·)

def scan (cs : List Char) : Option (List Token) := scanWithin cs.length cs

end BusTransport.Json
