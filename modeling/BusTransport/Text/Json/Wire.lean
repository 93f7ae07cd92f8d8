import BusTransport.Text.AddressText
import BusTransport.Text.Json.Printer
import BusTransport.Text.Json.Scalar
import BusTransport.Wire.Priority

/-! # JSON forms of addresses and priorities

An address is a string in its dotted form.
A priority is its name, or an object that gives null to its name.
-/

namespace BusTransport

namespace DeviceAddress

def toJson (a : DeviceAddress) : Json := .ofPlain a.text

def ofJson? (value : Json) : Option DeviceAddress :=
  value.string?.bind fun text => (parse text).toOption

end DeviceAddress

namespace Priority

def toJson (p : Priority) : Json := .ofPlain p.name

def ofJson? : Json → Option Priority
  | .object [(key, .null)] => (Json.textOf? key).bind ofName?
  | value => value.string?.bind ofName?

end Priority

end BusTransport
