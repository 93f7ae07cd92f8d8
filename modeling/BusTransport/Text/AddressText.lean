import BusTransport.Text.Blank
import BusTransport.Text.DecimalDigit
import BusTransport.Wire.DeviceAddress

/-! # Reading device addresses

A text has the form of an address if, white space at its ends aside, it is three groups of digits
with dots between them. A part has a value only if its digits are ASCII and the value fits an octet.
-/

namespace BusTransport

namespace DeviceAddress

/-- The digit groups of a text in the form of an address, of one or more digits each. -/
def groups? (cs : List Char) : Option (List Char × List Char × List Char) :=
  match (trimBlanks cs).span isDecimalDigit with
  | (area, '.' :: rest) =>
    match rest.span isDecimalDigit with
    | (line, '.' :: device) =>
      if device.all isDecimalDigit ∧
          (1 ≤ area.length ∧ area.length ≤ 2) ∧ (1 ≤ line.length ∧ line.length ≤ 2) ∧
          (1 ≤ device.length ∧ device.length ≤ 3) then
        some (area, line, device)
      else none
    | _ => none
  | _ => none

def part? (digits : List Char) : Option UInt8 :=
  let value := Nat.ofDigitChars 10 digits 0
  if digits.all Char.isDigit ∧ value ≤ 255 then some (UInt8.ofNat value) else none

/-- Read an address; a wrong form is reported first, then a part without value, then the range. -/
def parse (text : String) : Except AddressFault DeviceAddress :=
  match groups? text.toList with
  | none => .error (.badText text)
  | some (area, line, device) =>
    match part? area, part? line, part? device with
    | some a, some l, some d => ofParts a l d
    | _, _, _ => .error (.badPart text)

end DeviceAddress

end BusTransport
