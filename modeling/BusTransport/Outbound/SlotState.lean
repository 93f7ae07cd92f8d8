/-! # States of the control slot

The slot is free, promised to the holder of a permit, or waiting for the link to finish its frame.
-/

namespace BusTransport

inductive SlotState where
  | free
  | acquired
  | sending
  deriving DecidableEq, Repr

def SlotState.text : SlotState → String
  | .free => "Free"
  | .acquired => "Acquired"
  | .sending => "Sending"

end BusTransport
