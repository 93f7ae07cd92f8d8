import Mathlib.Logic.Function.Iterate
import BusTransport.Link.Faulty
import BusTransport.Link.Mailbox
import BusTransport.Link.Recording
import BusTransport.Outbound.ControlSlot

/-! # Readings of a link

Whoever looks for a free way out reads the sending flag of the link, and each reading may change the
link. A slot that is free is acquired right after the first reading that finds the link free.
-/

namespace BusTransport

namespace Link

variable {L : Type} [Link L] {l l' l'' : L}

/-- The second link is the first one after some readings of its flag. -/
def Reads (l l' : L) : Prop := ∃ n, l' = observed^[n] l

/-- The last thing that happened to the link is a reading that found it free. -/
def FoundFree (l : L) : Prop := ∃ l₀ : L, l = observed l₀ ∧ sending l₀ = false

def refusal (l : L) (frame : Frame) : Option LinkFault :=
  match (send l frame).1 with
  | .ok () => none
  | .error fault => some fault

/-- A link at an address that is free at every reading and accepts every frame. -/
structure Works (own : DeviceAddress) (l : L) : Prop where
  address_eq : ∀ {l'}, Reads l l' → address l' = own
  sending_eq : ∀ {l'}, Reads l l' → sending l' = false
  refusal_eq : ∀ {l'}, Reads l l' → ∀ frame, refusal l' frame = none

/-- A link that sends nothing of its own accord: a reading may find that a transmission has ended,
and never that one has begun. -/
class Passive (L : Type) [Link L] : Prop where
  sending_observed : ∀ l : L, sending l = false → sending (observed l) = false

instance : Passive RecordingLink := ⟨fun _ h => h⟩

instance : Passive MailboxLink := ⟨fun _ h => h⟩

instance [Passive L] : Passive (FaultyLink L) where
  sending_observed l h := by
    obtain ⟨hbusy, hl⟩ : l.busyReadings = 0 ∧ sending l.inner = false := by
      simpa [sending, FaultyLink.sending] using h
    simp [sending, observed, FaultyLink.sending, FaultyLink.observed, hbusy,
      Passive.sending_observed _ hl]

theorem Reads.refl (l : L) : Reads l l := ⟨0, rfl⟩

theorem Reads.observed (h : Reads l l') : Reads l (Link.observed l') := by
  obtain ⟨n, rfl⟩ := h
  exact ⟨n + 1, (Function.iterate_succ_apply' ..).symm⟩

theorem Reads.trans (h : Reads l l') (h' : Reads l' l'') : Reads l l'' := by
  obtain ⟨n, rfl⟩ := h
  obtain ⟨m, rfl⟩ := h'
  exact ⟨m + n, (Function.iterate_add_apply ..).symm⟩

/-- What a reading does not change about a link, no number of readings changes. -/
theorem Reads.preserves {β : Type} {f : L → β} (hobserved : ∀ l, f (Link.observed l) = f l)
    (h : Reads l l') : f l' = f l := by
  obtain ⟨n, rfl⟩ := h
  induction n with
  | zero => rfl
  | succ n ih => rw [Function.iterate_succ_apply', hobserved, ih]

theorem FoundFree.sending_eq [Passive L] (h : FoundFree l) : sending l = false := by
  obtain ⟨l₀, rfl, hl⟩ := h
  exact Passive.sending_observed l₀ hl

theorem Works.observed {own : DeviceAddress} (h : Works own l) : Works own (Link.observed l) where
  address_eq hread := h.address_eq ((Reads.refl l).observed.trans hread)
  sending_eq hread := h.sending_eq ((Reads.refl l).observed.trans hread)
  refusal_eq hread := h.refusal_eq ((Reads.refl l).observed.trans hread)

theorem send_of_refusal_none {frame : Frame} (h : refusal l frame = none) :
    ∃ l', send l frame = (.ok (), l') := by
  rcases hs : send l frame with ⟨fault | _, l'⟩
  · simp [refusal, hs] at h
  · exact ⟨l', rfl⟩

theorem refusal_of_ok {frame : Frame} (h : send l frame = (.ok (), l')) :
    refusal l frame = none := by
  rw [refusal, h]

theorem refusal_of_error {frame : Frame} {fault : LinkFault}
    (h : send l frame = (.error fault, l')) : refusal l frame = some fault := by
  rw [refusal, h]

end Link

namespace RecordingLink

variable {l l' : RecordingLink}

theorem eq_of_reads (h : Link.Reads l l') : l' = l := by
  obtain ⟨n, rfl⟩ := h
  exact congrFun (Function.iterate_id n) l

theorem refusal_eq_none_iff {frame : Frame} :
    Link.refusal l frame = none ↔ l.sending = false := by
  change (match (l.send frame).1 with | .ok () => none | .error fault => some fault) = none ↔ _
  unfold send
  rcases l.sending with _ | _ <;> simp

theorem works (h : l.sending = false) : Link.Works l.address l where
  address_eq hread := by rw [eq_of_reads hread]; rfl
  sending_eq hread := by rw [eq_of_reads hread]; exact h
  refusal_eq hread _ := by rw [eq_of_reads hread]; exact refusal_eq_none_iff.mpr h

end RecordingLink

namespace MailboxLink

variable {l l' : MailboxLink}

theorem eq_of_reads (h : Link.Reads l l') : l' = l := by
  obtain ⟨n, rfl⟩ := h
  exact congrFun (Function.iterate_id n) l

theorem refusal_eq (l : MailboxLink) (frame : Frame) : Link.refusal l frame =
    if l.attached then none else some (.failed "outbound channel closed") := by
  rcases ha : l.attached with _ | _
  · have hsend : Link.send l frame = (.error _, l) := if_neg (Bool.eq_false_iff.mp ha)
    exact Link.refusal_of_error hsend
  · have hsend : Link.send l frame = (.ok (), { l with outbox := l.outbox ++ [frame] }) := if_pos ha
    exact Link.refusal_of_ok hsend

theorem works (h : l.attached = true) : Link.Works l.address l where
  address_eq hread := by rw [eq_of_reads hread]; rfl
  sending_eq _ := rfl
  refusal_eq hread frame := by rw [eq_of_reads hread, refusal_eq, if_pos h]

end MailboxLink

namespace ControlSlot

open Link

variable {L : Type} [Link L] {slot : ControlSlot}

theorem reads_refresh (slot : ControlSlot) (link : L) : Reads link (slot.refresh link).2 := by
  unfold refresh
  split
  · exact (Reads.refl link).observed
  · exact .refl link

theorem refresh_of_isFree (h : slot.isFree = true) (link : L) :
    slot.refresh link = (slot, link) := by
  have hs : slot.state ≠ .sending := by
    intro hs
    simp [isFree, hs] at h
  rw [refresh, if_neg hs]

theorem acquire_of_refresh {slot' : ControlSlot} {link link' : L}
    (hr : slot.refresh link = (slot', link')) (h : slot'.isFree = true)
    (hl : sending link' = false) (limit : Nat) :
    ∃ permit, slot.acquire link limit = (.ok permit, ⟨.acquired⟩, observed link') := by
  have hattempt : ∃ permit, slot.attempt link = (.ok permit, ⟨.acquired⟩, observed link') := by
    unfold attempt
    rw [hr]
    dsimp only
    rw [h, hl]
    exact ⟨_, rfl⟩
  obtain ⟨permit, hattempt⟩ := hattempt
  refine ⟨permit, ?_⟩
  unfold acquire
  cases limit - 1 with
  | zero => exact hattempt
  | succ retries => simp only [acquireWithin, hattempt]

/-- How an acquisition of a free slot ends: the permit comes right after a reading that found the
link free, and without permit the slot stays free. -/
inductive Acquires (slot : ControlSlot) (link : L) :
    Except BusyFault Permit × ControlSlot × L → Prop
  | permit {permit link'} : Reads link link' → FoundFree link' →
      Acquires slot link (.ok permit, ⟨.acquired⟩, link')
  | busy {fault link'} : Reads link link' → Acquires slot link (.error fault, slot, link')

theorem acquires_attempt (h : slot.isFree = true) (link : L) :
    slot.Acquires link (slot.attempt link) := by
  have hread := (Reads.refl link).observed
  unfold attempt
  simp only [refresh_of_isFree h, h, Bool.true_and]
  rcases hl : sending link with _ | _
  · exact .permit hread ⟨link, rfl, hl⟩
  · exact .busy hread

theorem acquires_acquireWithin (h : slot.isFree = true) (retries : Nat) (link : L) :
    slot.Acquires link (slot.acquireWithin retries link) := by
  induction retries generalizing link with
  | zero => exact acquires_attempt h link
  | succ retries ih =>
    have hattempt := acquires_attempt h link
    unfold acquireWithin
    generalize slot.attempt link = outcome at hattempt ⊢
    cases hattempt with
    | permit hread hfree => exact .permit hread hfree
    | @busy fault link' hread =>
      have hlater := ih link'
      dsimp only
      generalize slot.acquireWithin retries link' = outcome at hlater ⊢
      cases hlater with
      | permit hread' hfree => exact .permit (hread.trans hread') hfree
      | busy hread' => exact .busy (hread.trans hread')

theorem acquires_acquire (h : slot.isFree = true) (link : L) (limit : Nat) :
    slot.Acquires link (slot.acquire link limit) := acquires_acquireWithin h (limit - 1) link

end ControlSlot

end BusTransport
