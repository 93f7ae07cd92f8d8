/-! # Priority

Four classes of telegrams, written as two bits of the first octet of a frame.
-/

namespace BusTransport

inductive Priority where
  | system
  | normal
  | urgent
  | low
  deriving DecidableEq, Repr

namespace Priority

instance : Inhabited Priority := ⟨.low⟩

def ofBits (n : Nat) : Priority :=
  match n % 4 with
  | 0 => .system
  | 1 => .normal
  | 2 => .urgent
  | _ => .low

def bits : Priority → Nat
  | .system => 0
  | .normal => 1
  | .urgent => 2
  | .low => 3

def name : Priority → String
  | .system => "System"
  | .normal => "Normal"
  | .urgent => "Urgent"
  | .low => "Low"

def all : List Priority := [.system, .normal, .urgent, .low]

def ofName? (text : String) : Option Priority := all.find? (·.name = text)

end Priority

end BusTransport
