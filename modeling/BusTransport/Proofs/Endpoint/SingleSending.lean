import BusTransport.Proofs.Endpoint.Script

/-! # One frame at a time

An endpoint gives the link one frame per call at most, and only while nothing is being transmitted.
Over a recording link no frame of an endpoint is ever refused, whatever other users do to the link
between the calls, and after each frame the next one waits for the end of its transmission.
-/

namespace BusTransport

namespace Endpoint

open Link

variable {A : Type} [Application A] {e : Endpoint RecordingLink A} {call : Call}
  {happening : Happening} {script : List Happening}

/-- The call gives the link a frame. -/
def Emits (e : Endpoint RecordingLink A) (call : Call) : Prop := offeringsIn (e.journal call) ≠ []

instance : Decidable (e.Emits call) := inferInstanceAs (Decidable (_ ≠ _))

theorem Emits.link_free (h : e.Emits call) : e.link.sending = false := by
  cases e.recorded call with
  | nothing ho _ => exact absurd ho h
  | frame hfree _ _ => exact hfree

/-- A frame occupies the link, unless its transmission ends at once. -/
theorem Emits.sending_after (h : e.Emits call) :
    (e.after call).link.sending = !e.link.completesAtOnce := by
  cases e.recorded call with
  | nothing ho _ => exact absurd ho h
  | frame _ _ hl => rcases hl with hl | hl <;> rw [hl] <;> rfl

theorem completesAtOnce_meet (e : Endpoint RecordingLink A) (happening : Happening) :
    (e.meet happening).link.completesAtOnce = e.link.completesAtOnce := by
  cases happening with
  | call call =>
    obtain ⟨_, _, hl⟩ := e.exists_link_after call
    change (e.after call).link.completesAtOnce = _
    rw [hl]
  | transmit frame =>
    change (e.link.send frame).2.completesAtOnce = _
    rcases hs : e.link.sending with _ | _
    · rw [RecordingLink.send_of_free hs]
      rfl
    · rw [RecordingLink.send_of_sending hs]
  | complete => rfl
  | inject frame => rfl
  | occupy occupied => rfl

theorem completesAtOnce_meetAll (e : Endpoint RecordingLink A) (script : List Happening) :
    (e.meetAll script).link.completesAtOnce = e.link.completesAtOnce := by
  induction script generalizing e with
  | nil => rfl
  | cons happening script ih =>
    exact (ih (e.meet happening)).trans (e.completesAtOnce_meet happening)

theorem sending_meet (hs : e.link.sending = true) (hne : happening ≠ .complete) :
    (e.meet happening).link.sending = true := by
  cases happening with
  | call call =>
    change (e.after call).link.sending = true
    cases e.recorded call with
    | nothing _ hl => rcases hl with hl | hl <;> rw [hl] <;> exact hs
    | frame hfree _ _ => simp [hs] at hfree
  | transmit frame =>
    change (e.link.send frame).2.sending = true
    rw [RecordingLink.send_of_sending hs]
    exact hs
  | complete => exact absurd rfl hne
  | inject frame => exact hs
  | occupy occupied => exact hs

theorem sending_meetAll (hs : e.link.sending = true) (hnot : .complete ∉ script) :
    (e.meetAll script).link.sending = true := by
  induction script generalizing e with
  | nil => exact hs
  | cons happening script ih =>
    rw [List.mem_cons, not_or] at hnot
    exact ih (sending_meet hs (Ne.symm hnot.1)) hnot.2

/-- In every script the link accepts each frame of the endpoint, and ends its transmission before it
gets the next one. -/
structure OneByOne (e : Endpoint RecordingLink A) : Prop where
  accepted : ∀ before call frame refusal,
    .offered frame refusal ∈ (e.meetAll before).journal call →
      refusal = none ∧ (e.meetAll before).link.sending = false
  completed : ∀ before call between call', (e.meetAll before).Emits call →
    (e.meetAll (before ++ .call call :: between)).Emits call' →
      e.link.completesAtOnce = true ∨ .complete ∈ between

theorem oneByOne (e : Endpoint RecordingLink A) : e.OneByOne where
  accepted before call frame refusal hmem := by
    cases (e.meetAll before).recorded call with
    | nothing ho _ =>
      rw [← mem_offeringsIn, ho] at hmem
      exact absurd hmem List.not_mem_nil
    | frame hfree ho _ =>
      rw [← mem_offeringsIn, ho, List.mem_singleton] at hmem
      exact ⟨(Prod.mk.inj hmem).2, hfree⟩
  completed before call between call' hfirst hsecond := by
    rcases hatonce : e.link.completesAtOnce with _ | _
    · right
      by_contra hnot
      have hs : ((e.meetAll before).after call).link.sending = true := by
        rw [hfirst.sending_after, completesAtOnce_meetAll, hatonce]
        rfl
      -- the first frame is still on the link when the second one is given to it
      have hstill := sending_meetAll hs hnot
      have hfree := hsecond.link_free
      rw [meetAll_append] at hfree
      change (((e.meetAll before).after call).meetAll between).link.sending = false at hfree
      simp [hstill] at hfree
    · exact .inl rfl

end Endpoint

/-- Frames leave an endpoint one by one. A call gives the link at most one frame, with the control
slot free and the link not sending. Over a recording link that others use too, none of them is
refused, and between two of them the transmission of the first one ends. -/
theorem singly_of_call {L A B : Type} [Link L] [Link.Passive L] [Application A] [Application B]
    (e : Endpoint L A) (call : Call) (e₀ : Endpoint RecordingLink B) :
    e.Emission call ∧
      (∀ frame refusal, .offered frame refusal ∈ e.journal call →
        e.refreshed.slot.isFree = true ∧ ∃ link, Link.Reads e.link link ∧
          Link.sending link = false ∧ Link.refusal link frame = refusal) ∧
      e₀.OneByOne :=
  ⟨e.emission call, fun _ _ => Endpoint.offered_of_free, e₀.oneByOne⟩

def Sample.slowHost : Endpoint RecordingLink Responder :=
  { Sample.host with link := { Sample.host.link with completesAtOnce := false } }

open Sample in
theorem singly_slowly :
    Link.Passive RecordingLink ∧ slowHost.Emission (.receive (Sample.control .connect) 0) ∧
      ∃ before call between call', (slowHost.meetAll before).Emits call ∧
        (slowHost.meetAll (before ++ .call call :: between)).Emits call' ∧
        (slowHost.link.completesAtOnce = true ∨ .complete ∈ between) := by
  have hpassive : Link.Passive RecordingLink := inferInstance
  obtain ⟨hemission, -, h⟩ :=
    singly_of_call slowHost (.receive (Sample.control .connect) 0) slowHost
  let before : List Happening := [.call (.receive (Sample.control .connect) 0)]
  let between : List Happening := [.call (.poll 2), .transmit (Sample.control .connect), .complete]
  have hack : (slowHost.meetAll before).Emits (.receive (request 0) 1) := by decide
  have hanswer : (slowHost.meetAll (before ++ .call (.receive (request 0) 1) :: between)).Emits
      (.poll 3) := by decide
  exact ⟨hpassive, hemission, before, _, between, _, hack, hanswer,
    h.completed before _ between _ hack hanswer⟩

end BusTransport
