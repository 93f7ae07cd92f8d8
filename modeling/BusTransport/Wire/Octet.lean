/-! # Octets

A frame is the list of its octets in the order in which they travel.
Messages show a single octet as two upper-case hexadecimal digits.
-/

namespace BusTransport

/-- The octets of one frame, first on the wire first. -/
abbrev Frame := List UInt8

def hexDigit (n : Nat) : Char := (Nat.digitChar n).toUpper

def hexPair (octet : UInt8) : String :=
  String.ofList [hexDigit (octet.toNat / 16), hexDigit (octet.toNat % 16)]

end BusTransport
