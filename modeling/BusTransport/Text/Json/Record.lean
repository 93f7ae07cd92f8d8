import BusTransport.Text.Json.Scalar

/-! # Records in JSON

A record is read from an object or from an array of its fields in order.
What is missing keeps its default, and keys that name no field are skipped.
-/

namespace BusTransport

/-- A named part of a record, with the way to set it from a JSON value. -/
structure Field (α : Type) where
  key : String
  set? : Json → α → Option α

namespace Field

variable {α : Type}

/-- Set the fields that an object names; a key may name a field only once. -/
def readMembers (fields : List (Field α)) (seen : List String) (record : α) :
    List (List Char × Json) → Option α
  | [] => some record
  | (literal, value) :: members => do
    let key ← Json.textOf? literal
    match fields.find? (·.key = key) with
    | none => readMembers fields seen record members
    | some field =>
      if key ∈ seen then none
      else readMembers fields (key :: seen) (← field.set? value record) members

/-- Set fields in order from the values of an array, of which there may not be more than fields. -/
def readElements (record : α) : List (Field α) → List Json → Option α
  | _, [] => some record
  | [], _ :: _ => none
  | field :: fields, value :: values => do
    readElements (← field.set? value record) fields values

def read? (fields : List (Field α)) (record : α) : Json → Option α
  | .object members => readMembers fields [] record members
  | .array elements => readElements record fields elements
  | _ => none

end Field

end BusTransport
