import BusTransport.Fault

/-! # Checksum

The octet that closes a frame is the complement of the exclusive or of all octets before it.
It can be computed octet by octet or over a whole list.
-/

namespace BusTransport

/-- A checksum under construction; it starts with all bits set. -/
structure Checksum where
  value : UInt8 := 0xFF
  deriving DecidableEq, Repr

namespace Checksum

def update (sum : Checksum) (octet : UInt8) : Checksum := ⟨sum.value ^^^ octet⟩

def updateAll (sum : Checksum) (octets : Frame) : Checksum := octets.foldl update sum

def ofOctets (octets : Frame) : UInt8 := (updateAll {} octets).value

/-- Check that the last octet of a frame is the checksum of the others. -/
def validate (frame : Frame) : Except FrameFault Unit :=
  match frame.getLast? with
  | none => .error .empty
  | some closing =>
    let expected := ofOctets frame.dropLast
    if closing = expected then .ok () else .error (.checksumMismatch expected closing)

theorem updateAll_append (sum : Checksum) (a b : Frame) :
    updateAll sum (a ++ b) = updateAll (updateAll sum a) b := List.foldl_append

theorem validate_append_ofOctets (octets : Frame) :
    validate (octets ++ [ofOctets octets]) = .ok () := by
  simp [validate]

end Checksum

end BusTransport
