import BusTransport.Text.Json.Reader

/-! # Writing JSON

Values are written without white space, each literal as it is kept.
-/

namespace BusTransport.Json

mutual

def render : Json → List Char
  | .null => "null".toList
  | .bool true => "true".toList
  | .bool false => "false".toList
  | .number literal => literal
  | .string literal => '"' :: literal ++ ['"']
  | .array elements => '[' :: renderElements elements
  | .object members => '\x7b' :: renderMembers members

def renderElements : List Json → List Char
  | [] => [']']
  | [element] => render element ++ [']']
  | element :: elements => render element ++ ',' :: renderElements elements

def renderMembers : List (List Char × Json) → List Char
  | [] => ['\x7d']
  | [(key, value)] => '"' :: key ++ '"' :: ':' :: render value ++ ['\x7d']
  | (key, value) :: members =>
    '"' :: key ++ '"' :: ':' :: render value ++ ',' :: renderMembers members

end

def text (value : Json) : String := String.ofList value.render

def ofNat (n : Nat) : Json := .number (Nat.toDigits 10 n)

def ofPlain (text : String) : Json := .string text.toList

def ofFields (fields : List (String × Json)) : Json :=
  .object (fields.map fun (key, value) => (key.toList, value))

end BusTransport.Json
