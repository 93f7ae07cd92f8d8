/-! # Sequence numbers

Numbered frames carry four bits of sequence, so that 0 follows 15 and 15 precedes 0.
-/

namespace BusTransport

abbrev SequenceNumber := Fin 16

namespace SequenceNumber

instance neZero : @NeZero Nat Zero.ofOfNat0 16 := ⟨by decide⟩

def ofOctet (octet : UInt8) : SequenceNumber := Fin.ofNat 16 octet.toNat

def next (n : SequenceNumber) : SequenceNumber := n + 1

def previous (n : SequenceNumber) : SequenceNumber := n - 1

def text (n : SequenceNumber) : String := s!"#{n.val}"

theorem previous_next (n : SequenceNumber) : previous (next n) = n := by
  revert n; decide

theorem next_previous (n : SequenceNumber) : next (previous n) = n := by
  revert n; decide

end SequenceNumber

end BusTransport
