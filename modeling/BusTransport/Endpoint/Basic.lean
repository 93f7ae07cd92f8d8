import BusTransport.Connection.Decision
import BusTransport.Endpoint.Statistics
import BusTransport.Outbound.AnswerQueue
import BusTransport.Outbound.ControlSlot
import BusTransport.Service.Application

/-! # Endpoints

An endpoint stands between a link and an application and keeps the one connection of its device.
It acts only in turns, which its owner starts with a frame, at a poll or in order to disconnect.
-/

namespace BusTransport

structure Endpoint (L A : Type) where
  link : L
  application : A
  profile : TransportProfile
  connection : Connection
  slot : ControlSlot := {}
  answers : AnswerQueue := {}
  statistics : Statistics := {}
  /-- The last telegram processed, by which repetitions of the link are known. -/
  lastTelegram : Option Telegram := none

namespace Endpoint

variable {L A : Type}

/-- An endpoint without a connection, if its profile can work. -/
def create (link : L) (application : A) (profile : TransportProfile) :
    Except ProfileFault (Endpoint L A) :=
  profile.validate.map fun () =>
    { link, application, profile, connection := .ofProfile profile }

/-- Whether a telegram is a repetition, by the link, of the last one processed. -/
def isRepeatOfLast (e : Endpoint L A) (t : Telegram) : Bool :=
  t.repeated && e.lastTelegram.any (·.agreesWith t)

end Endpoint

end BusTransport
