import BusTransport.Text.Json.Token

/-! # JSON values

A value keeps its number and string literals as written. It is read from tokens by a machine with a
stack of the containers that are still open, so the depth of nesting has no limit.
-/

namespace BusTransport

/-- A JSON value; an object keeps its members in order and may repeat a key. -/
inductive Json where
  | null
  | bool (value : Bool)
  | number (literal : List Char)
  | string (literal : List Char)
  | array (elements : List Json)
  | object (members : List (List Char × Json))
  deriving Repr

namespace Json

/-- A container with a value missing; its complete parts stand in reverse order. -/
inductive Partial where
  | array (elements : List Json)
  | object (members : List (List Char × Json)) (key : List Char)
  deriving Repr

/-- What the reader expects next, and the open containers around it, innermost first. -/
inductive Expectation where
  | value (outer : List Partial)
  | firstElement (outer : List Partial)
  | elementEnd (elements : List Json) (outer : List Partial)
  | firstKey (outer : List Partial)
  | nextKey (members : List (List Char × Json)) (outer : List Partial)
  | colon (members : List (List Char × Json)) (key : List Char) (outer : List Partial)
  | memberEnd (members : List (List Char × Json)) (outer : List Partial)
  | finished (value : Json)
  deriving Repr

namespace Expectation

def put (value : Json) : List Partial → Expectation
  | [] => finished value
  | .array elements :: outer => elementEnd (value :: elements) outer
  | .object members key :: outer => memberEnd ((key, value) :: members) outer

def begin (outer : List Partial) : Token → Option Expectation
  | .null => some (put .null outer)
  | .bool b => some (put (.bool b) outer)
  | .number literal => some (put (.number literal) outer)
  | .string literal => some (put (.string literal) outer)
  | .leftBracket => some (firstElement outer)
  | .leftBrace => some (firstKey outer)
  | _ => none

def step : Expectation → Token → Option Expectation
  | value outer, token => begin outer token
  | firstElement outer, .rightBracket => some (put (.array []) outer)
  | firstElement outer, token => begin (.array [] :: outer) token
  | elementEnd elements outer, .comma => some (value (.array elements :: outer))
  | elementEnd elements outer, .rightBracket => some (put (.array elements.reverse) outer)
  | firstKey outer, .rightBrace => some (put (.object []) outer)
  | firstKey outer, .string key => some (colon [] key outer)
  | nextKey members outer, .string key => some (colon members key outer)
  | colon members key outer, .colon => some (value (.object members key :: outer))
  | memberEnd members outer, .comma => some (nextKey members outer)
  | memberEnd members outer, .rightBrace => some (put (.object members.reverse) outer)
  | _, _ => none

end Expectation

def parse? (text : String) : Option Json := do
  let tokens ← scan text.toList
  match ← tokens.foldlM Expectation.step (.value []) with
  | .finished value => some value
  | _ => none

end Json

end BusTransport
