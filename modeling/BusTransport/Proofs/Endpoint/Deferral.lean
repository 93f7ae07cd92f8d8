import BusTransport.Proofs.Endpoint.RepeatFilter
import BusTransport.Proofs.Endpoint.SingleSending

/-! # Deferred frames

A frame for this device waits while the link is sending, and waiting changes nothing. Over a
recording link the frames are therefore done with in the order of their arrival, each of them once,
and attempts that had to be made again can be left out of a script.
-/

namespace BusTransport

def Happening.injected : Happening → List Frame
  | .inject frame => [frame]
  | _ => []

def isDeferral : Except Fault (Option Disposition) → Bool
  | .ok (some .deferred) => true
  | _ => false

theorem isDeferral_iff {outcome : Except Fault (Option Disposition)} :
    isDeferral outcome = true ↔ outcome = .ok (some .deferred) := by
  unfold isDeferral
  split
  · exact iff_of_true rfl rfl
  · next hne => exact iff_of_false nofun hne

namespace Endpoint

open Link

section Waiting

variable {L A : Type} [Link L] [Application A] {e : Endpoint L A} {call : Call} {frame : Frame}
  {now : Instant}

/-- A telegram for this device with a known control field, and a command if it is data, that is not
ignored and finds the link sending. -/
structure Waits (e : Endpoint L A) (frame : Frame) (now : Instant) (t : Telegram)
    (field : ControlField) : Prop where
  decoded : Telegram.decode frame = .ok t
  not_ignored : ¬ e.Ignores frame now
  destination : t.destination = .individual (Link.address e.link)
  known : ControlField.decode t.tpci = .ok field
  command : field.isControl = false → t.payload ≠ []
  sending : Link.sending e.link = true

theorem exists_handed_of_deferred (h : e.outcome call = .ok (some .deferred)) :
    ∃ frame, e.handed? call = some frame ∧ (e.receive frame call.now).result = .ok .deferred ∧
      e.journal call = (e.receive frame call.now).journal ∧
      e.after call = (e.receive frame call.now).endpoint := by
  have hunhanded (result : Except Fault Unit) :
      result.map (fun _ => (none : Option Disposition)) ≠ .ok (some .deferred) := by
    rcases result with fault | _
    · nofun
    · nofun
  cases call with
  | receive frame now =>
    refine ⟨frame, rfl, ?_, rfl, rfl⟩
    change (e.receive frame now).result.map some = _ at h
    rcases hresult : (e.receive frame now).result with fault | disposition
    · rw [hresult] at h
      cases h
    · rw [hresult] at h
      cases h
      exact hresult
  | serve now =>
    rcases hreceived : Link.received e.link with _ | frame
    · simp [outcome, serve, hreceived] at h
    refine ⟨frame, hreceived, ?_⟩
    rcases hresult : (e.receive frame now).result with fault | _ | _
    · simp [outcome, serve, hreceived, hresult, Except.map] at h
    · simp [outcome, serve, hreceived, hresult, Except.map] at h
    · simp [journal, after, serve, hreceived, hresult, Call.now]
  | poll now => exact absurd h (hunhanded _)
  | hangUp now => exact absurd h (hunhanded _)

variable [Passive L]

theorem Reachable.receive_deferred_iff (h : e.Reachable) :
    (e.receive frame now).result = .ok .deferred ↔ ∃ t field, e.Waits frame now t field := by
  rw [deferred_iff, wayOutFree_eq h.slot_ne_acquired, Bool.not_eq_false']
  constructor
  · rintro ⟨⟨t, field, hears⟩, hs⟩
    exact ⟨t, field, hears.decoded, (not_ignores_iff hears.decoded).mpr hears.fresh,
      hears.destination, hears.known, hears.command, hs⟩
  · rintro ⟨t, field, hwaits⟩
    exact ⟨⟨t, field, hwaits.decoded, (not_ignores_iff hwaits.decoded).mp hwaits.not_ignored,
      hwaits.destination, hwaits.known, hwaits.command⟩, hwaits.sending⟩

omit [Application A] [Passive L] in
theorem looked_of_sending (hs : Link.sending e.link = true) :
    ∃ link, Reads e.link link ∧ e.looked = { e with link } := by
  have hslot : e.refreshed.slot = e.slot := by
    simp only [refreshed, ControlSlot.refresh, hs, if_true]
    split <;> rfl
  have hread : Reads e.link e.refreshed.link := ControlSlot.reads_refresh _ _
  refine ⟨e.looked.link, ?_, ?_⟩
  · unfold looked
    dsimp only
    split
    · exact hread.observed
    · exact hread
  · exact congrArg (fun slot => { e with slot, link := e.looked.link }) hslot

/-- A call that is deferred does nothing but read the link. -/
theorem Reachable.after_deferred (h : e.Reachable)
    (hdeferred : e.outcome call = .ok (some .deferred)) :
    e.journal call = [] ∧ ∃ link, Reads e.link link ∧ e.after call = { e with link } := by
  obtain ⟨frame, -, hresult, hj, ha⟩ := exists_handed_of_deferred hdeferred
  obtain ⟨t, field, hwaits⟩ := h.receive_deferred_iff.mp hresult
  obtain ⟨link, hread, hlooked⟩ := looked_of_sending hwaits.sending
  have hreception := e.reception frame call.now
  rw [hj, ha]
  generalize e.receive frame call.now = report at hreception hresult ⊢
  cases hreception with
  | deferred => exact ⟨rfl, link, hread, hlooked⟩
  | taken _ _ hne => exact absurd hresult hne
  | _ => cases hresult

end Waiting

section Script

variable {A : Type} [Application A] {e : Endpoint RecordingLink A} {call : Call}
  {happening : Happening} {script : List Happening}

theorem Reachable.meet (h : e.Reachable) (happening : Happening) :
    (e.meet happening).Reachable := by
  cases happening with
  | call call => exact h.run (.call call .start)
  | _ => exact h.run (.outside _ e.application e.statistics .start)

theorem Reachable.meetAll (h : e.Reachable) (script : List Happening) :
    (e.meetAll script).Reachable := by
  induction script generalizing e with
  | nil => exact h
  | cons happening script ih => exact ih (h.meet happening)

/-- Over a recording link a deferred call changes nothing at all. -/
theorem Reachable.after_eq_of_deferred (h : e.Reachable)
    (hdeferred : e.outcome call = .ok (some .deferred)) : e.after call = e := by
  obtain ⟨-, link, hread, ha⟩ := h.after_deferred hdeferred
  rw [ha, RecordingLink.eq_of_reads hread]

/-- The frame that a happening is done with: the first in the receive buffer, unless serving it is
deferred. -/
def finished (e : Endpoint RecordingLink A) : Happening → List Frame
  | .call (.serve now) => match e.outcome (.serve now) with
    | .ok (some .consumed) | .error _ => e.link.inbound.head?.toList
    | .ok (some .deferred) | .ok none => []
  | _ => []

def finishedIn (e : Endpoint RecordingLink A) : List Happening → List Frame
  | [] => []
  | happening :: script => e.finished happening ++ (e.meet happening).finishedIn script

def report? (e : Endpoint RecordingLink A) :
    Happening → Option (Except Fault (Option Disposition) × List Activity)
  | .call call => some (e.outcome call, e.journal call)
  | _ => none

def reports (e : Endpoint RecordingLink A) :
    List Happening → List (Except Fault (Option Disposition) × List Activity)
  | [] => []
  | happening :: script => (e.report? happening).toList ++ (e.meet happening).reports script

def inVain (e : Endpoint RecordingLink A) (happening : Happening) : Bool :=
  (e.report? happening).any fun report => isDeferral report.1

/-- What is left of a script without the calls made in vain. -/
def effective (e : Endpoint RecordingLink A) : List Happening → List Happening
  | [] => []
  | happening :: script =>
    if e.inVain happening then (e.meet happening).effective script
    else happening :: (e.meet happening).effective script

theorem inbound_serve_eq (e : Endpoint RecordingLink A) (now : Instant) :
    e.link.inbound = e.finished (.call (.serve now)) ++ (e.after (.serve now)).link.inbound := by
  rcases hreceived : Link.received e.link with _ | frame
  · have hnil : e.link.inbound = [] := List.head?_eq_none_iff.mp hreceived
    simp [finished, outcome, after, serve, hreceived, hnil]
  obtain ⟨rest, hcons⟩ := List.head?_eq_some_iff.mp hreceived
  have hkept : (e.receive frame now).endpoint.link.inbound = e.link.inbound :=
    inbound_report (Turn.frugal_receive frame now) e
  have hrelease : (e.receive frame now).endpoint.release.link.inbound = rest := by
    change (e.receive frame now).endpoint.link.inbound.tail = rest
    rw [hkept, hcons, List.tail_cons]
  rcases hresult : (e.receive frame now).result with fault | _ | _
  · simp [finished, outcome, after, serve, hreceived, hresult, hcons, Except.map, hrelease]
  · simp [finished, outcome, after, serve, hreceived, hresult, hcons, Except.map, hrelease]
  · simp [finished, outcome, after, serve, hreceived, hresult, hkept]

theorem inbound_meet_eq (e : Endpoint RecordingLink A) (happening : Happening) :
    e.link.inbound ++ happening.injected =
      e.finished happening ++ (e.meet happening).link.inbound := by
  cases happening with
  | call call =>
    refine (List.append_nil _).trans ?_
    cases call with
    | serve now => exact e.inbound_serve_eq now
    | receive frame now => exact (inbound_report (Turn.frugal_receive frame now) e).symm
    | poll now => exact (inbound_report (Turn.frugal_poll now) e).symm
    | hangUp now => exact (inbound_report (Turn.frugal_hangUp now) e).symm
  | inject frame => rfl
  | transmit frame =>
    refine (List.append_nil _).trans ?_
    change _ = (e.link.send frame).2.inbound
    rcases hs : e.link.sending with _ | _
    · rw [RecordingLink.send_of_free hs]
      rfl
    · rw [RecordingLink.send_of_sending hs]
  | complete => exact List.append_nil _
  | occupy occupied => exact List.append_nil _

theorem inbound_meetAll_eq (e : Endpoint RecordingLink A) (script : List Happening) :
    e.link.inbound ++ script.flatMap Happening.injected =
      e.finishedIn script ++ (e.meetAll script).link.inbound := by
  induction script generalizing e with
  | nil => exact List.append_nil _
  | cons happening script ih =>
    calc e.link.inbound ++ (happening.injected ++ script.flatMap Happening.injected)
      _ = e.finished happening ++
          ((e.meet happening).link.inbound ++ script.flatMap Happening.injected) := by
        rw [← List.append_assoc, inbound_meet_eq, List.append_assoc]
      _ = (e.finished happening ++ (e.meet happening).finishedIn script) ++
          ((e.meet happening).meetAll script).link.inbound := by
        rw [ih, List.append_assoc]

theorem Reachable.meet_eq_of_inVain (h : e.Reachable) (hv : e.inVain happening = true) :
    e.meet happening = e ∧ ∃ report, e.report? happening = some report ∧
      isDeferral report.1 = true := by
  cases happening with
  | call call =>
    have hdeferred : isDeferral (e.outcome call) = true := hv
    exact ⟨h.after_eq_of_deferred (isDeferral_iff.mp hdeferred), _, rfl, hdeferred⟩
  | _ => cases hv

theorem Reachable.meetAll_effective (h : e.Reachable) (script : List Happening) :
    e.meetAll (e.effective script) = e.meetAll script := by
  induction script generalizing e with
  | nil => rfl
  | cons happening script ih =>
    have hrest := ih (h.meet happening)
    rw [effective]
    split_ifs with hv
    · obtain ⟨hmeet, -⟩ := h.meet_eq_of_inVain hv
      rw [hmeet] at hrest ⊢
      rw [hrest]
      exact congrArg (Endpoint.meetAll · script) hmeet.symm
    · exact hrest

theorem Reachable.reports_effective (h : e.Reachable) (script : List Happening) :
    e.reports (e.effective script) =
      (e.reports script).filter fun report => !isDeferral report.1 := by
  induction script generalizing e with
  | nil => rfl
  | cons happening script ih =>
    have hrest := ih (h.meet happening)
    rw [effective, reports, List.filter_append, ← hrest]
    split_ifs with hv
    · obtain ⟨hmeet, report, hreport, hdeferral⟩ := h.meet_eq_of_inVain hv
      simp [hmeet, hreport, hdeferral]
    · rw [reports]
      congr 1
      unfold inVain at hv
      cases hreport : e.report? happening with
      | none => rfl
      | some report =>
        have hkept : isDeferral report.1 = false := by simpa [hreport] using hv
        simp [hkept]

/-- Over a recording link no frame is lost, done with twice or overtaken by another, and what was
deferred might as well not have been tried. -/
structure Patient (e : Endpoint RecordingLink A) (script : List Happening) : Prop where
  inbound_eq : e.link.inbound ++ script.flatMap Happening.injected =
    e.finishedIn script ++ (e.meetAll script).link.inbound
  meetAll_eq : e.meetAll (e.effective script) = e.meetAll script
  reports_eq : e.reports (e.effective script) =
    (e.reports script).filter fun report => !isDeferral report.1

end Script

end Endpoint

/-- A frame is deferred exactly if it is for this device, is neither unreadable nor ignored, and
finds the link sending; the call then does nothing but read the link. Over a recording link, in
every script, frames are done with in the order of their arrival, and calls that were deferred
could be left out. -/
theorem patient_of_script {L A B : Type} [Link L] [Link.Passive L] [Application A] [Application B]
    {e : Endpoint L A} {e₀ : Endpoint RecordingLink B} (h : e.Reachable) (h₀ : e₀.Reachable)
    (script : List Happening) :
    (∀ frame now, (e.receive frame now).result = .ok .deferred ↔
        ∃ t field, e.Waits frame now t field) ∧
      (∀ call, e.outcome call = .ok (some .deferred) →
        e.journal call = [] ∧ ∃ link, Link.Reads e.link link ∧ e.after call = { e with link }) ∧
      (∀ call, e₀.outcome call = .ok (some .deferred) → e₀.after call = e₀) ∧
      e₀.Patient script :=
  ⟨fun _ _ => h.receive_deferred_iff, fun _ => h.after_deferred, fun _ => h₀.after_eq_of_deferred,
    e₀.inbound_meetAll_eq script, h₀.meetAll_effective script, h₀.reports_effective script⟩

namespace Sample

def busy : List Happening := [.call (.receive (control .connect) 0), .call (.receive (request 0) 1)]

/-- The next request has to wait until the acknowledgement has left. -/
def postponed : List Happening :=
  busy ++ [.inject (request 1), .call (.serve 2), .call (.serve 3), .complete, .call (.serve 4)]

theorem reachable_slowHost : slowHost.Reachable :=
  ⟨(rfl : Endpoint.create slowHost.link slowHost.application slowHost.profile = .ok slowHost),
    .start⟩

end Sample

open Sample in
theorem patient_postponed :
    Link.Passive RecordingLink ∧ (slowHost.meetAll busy).Reachable ∧ slowHost.Reachable ∧
      (∃ t field, (slowHost.meetAll busy).Waits (request 1) 2 t field) ∧
      slowHost.finishedIn postponed = [request 1] ∧
      slowHost.meetAll (busy ++ [.inject (request 1), .complete, .call (.serve 4)]) =
        slowHost.meetAll postponed := by
  have hpassive : Link.Passive RecordingLink := inferInstance
  have hbusy := reachable_slowHost.meetAll busy
  obtain ⟨hwaits, -, -, hpatient⟩ := patient_of_script hbusy reachable_slowHost postponed
  have heffective : slowHost.effective postponed =
      busy ++ [.inject (request 1), .complete, .call (.serve 4)] := by decide
  have hmeet := hpatient.meetAll_eq
  rw [heffective] at hmeet
  exact ⟨hpassive, hbusy, reachable_slowHost, (hwaits (request 1) 2).mp rfl, by decide, hmeet⟩

end BusTransport
