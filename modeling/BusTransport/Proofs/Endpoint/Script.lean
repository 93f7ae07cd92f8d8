import BusTransport.Proofs.Endpoint.Run
import BusTransport.Proofs.Endpoint.WayOut

/-! # Scripts

A script says what happens, in order, to an endpoint over a recording link: the calls of its owner,
and between them what the bus and other users do to the link.
-/

namespace BusTransport

inductive Happening where
  | call (call : Call)
  | complete
  | inject (frame : Frame)
  /-- Another user gives the link a frame. -/
  | transmit (frame : Frame)
  | occupy (occupied : Bool)
  deriving DecidableEq, Repr

namespace RecordingLink

def carry (l : RecordingLink) (frame : Frame) : RecordingLink :=
  { l with sent := l.sent ++ [frame], sending := !l.completesAtOnce }

theorem send_of_free {l : RecordingLink} (h : l.sending = false) (frame : Frame) :
    l.send frame = (.ok (), l.carry frame) := by
  rw [send, h]
  rfl

theorem send_of_sending {l : RecordingLink} (h : l.sending = true) (frame : Frame) :
    l.send frame = (.error .transmitting, l) := by
  rw [send, h]
  rfl

end RecordingLink

namespace Endpoint

variable {A : Type} [Application A] {e : Endpoint RecordingLink A} {call : Call}

def meet (e : Endpoint RecordingLink A) : Happening → Endpoint RecordingLink A
  | .call call => e.after call
  | .complete => { e with link := e.link.complete }
  | .inject frame => { e with link := e.link.inject frame }
  | .transmit frame => { e with link := (e.link.send frame).2 }
  | .occupy occupied => { e with link := e.link.setOccupied occupied }

def meetAll (e : Endpoint RecordingLink A) (script : List Happening) : Endpoint RecordingLink A :=
  script.foldl meet e

theorem meetAll_append (e : Endpoint RecordingLink A) (script script' : List Happening) :
    e.meetAll (script ++ script') = (e.meetAll script).meetAll script' :=
  List.foldl_append

inductive Recorded (e : Endpoint RecordingLink A) (call : Call) : Prop
  | nothing : offeringsIn (e.journal call) = [] →
      (e.after call).link = e.link ∨ (e.after call).link = e.link.release → Recorded e call
  | frame {frame} : e.link.sending = false → offeringsIn (e.journal call) = [(frame, none)] →
      (e.after call).link = e.link.carry frame ∨
        (e.after call).link = (e.link.carry frame).release → Recorded e call

theorem recorded (e : Endpoint RecordingLink A) (call : Call) : e.Recorded call := by
  cases e.emission call with
  | nothing hread ho hl =>
    obtain rfl := RecordingLink.eq_of_reads hread
    exact .nothing ho hl
  | @frame link frame _ hread hfree ho hl _ =>
    obtain rfl := RecordingLink.eq_of_reads hread
    have hsending : e.link.sending = false := hfree.sending_eq
    have hsend : Link.send e.link frame = (.ok (), e.link.carry frame) :=
      RecordingLink.send_of_free hsending frame
    rw [Link.refusal_of_ok hsend] at ho
    rw [hsend] at hl
    exact .frame hsending ho hl

theorem exists_link_after (e : Endpoint RecordingLink A) (call : Call) :
    ∃ inbound sending, (e.after call).link = { e.link with
      inbound, sending, sent := e.link.sent ++ (offeringsIn (e.journal call)).map Prod.fst } := by
  cases e.recorded call with
  | nothing ho hl =>
    rw [ho, List.map_nil, List.append_nil]
    rcases hl with hl | hl
    · exact ⟨_, _, hl⟩
    · exact ⟨_, _, hl⟩
  | frame _ ho hl =>
    rw [ho]
    rcases hl with hl | hl
    · exact ⟨_, _, hl⟩
    · exact ⟨_, _, hl⟩

omit [Application A] in
theorem inbound_report {α : Type} {turn : Turn RecordingLink A α} (h : Turn.Frugal turn)
    (e : Endpoint RecordingLink A) : (turn.report e).endpoint.link.inbound = e.link.inbound := by
  refine h.preserves (f := fun l => l.inbound) (fun _ => rfl) (fun l frame => ?_) e
  change (l.send frame).2.inbound = l.inbound
  unfold RecordingLink.send
  split
  · rfl
  · rfl

theorem inbound_after (e : Endpoint RecordingLink A) (hne : ∀ now, call ≠ .serve now) :
    (e.after call).link.inbound = e.link.inbound := by
  cases call with
  | receive frame now => exact inbound_report (Turn.frugal_receive frame now) e
  | serve now => exact absurd rfl (hne now)
  | poll now => exact inbound_report (Turn.frugal_poll now) e
  | hangUp now => exact inbound_report (Turn.frugal_hangUp now) e

end Endpoint

end BusTransport
