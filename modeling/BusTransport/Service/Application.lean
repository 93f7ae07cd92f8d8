import BusTransport.Service.Message

/-! # Applications

An application answers requests and hears of group telegrams, broadcasts and closed connections.
Each call may change it.
-/

namespace BusTransport

class Application (A : Type) where
  respond : A → Request → Option Answer × A
  groupReceived : A → Telegram → A := fun a _ => a
  broadcastReceived : A → Telegram → A := fun a _ => a
  connectionClosed : A → DeviceAddress → A := fun a _ => a

inductive Responder where
  | silent
  | fixed (answer : Answer)
  /-- Send the data back under the command with some bits flipped. -/
  | echo (flipped : UInt16)
  deriving DecidableEq, Repr

namespace Responder

def answer? (r : Responder) (request : Request) : Option Answer :=
  match r with
  | silent => none
  | fixed answer => some answer
  | echo flipped => some (.ofCommand (request.command ^^^ flipped) request.data)

instance : Application Responder where
  respond := fun r request => (r.answer? request, r)

end Responder

end BusTransport
