import Mathlib.Tactic.SplitIfs
import BusTransport.Profile.Document
import BusTransport.Proofs.Text.AddressGrammar
import BusTransport.Proofs.Text.Json.Record
import BusTransport.Proofs.Text.Json.RoundTrip

/-! # Saving and reloading profiles

A text keeps whole milliseconds of 64 bits of each duration. Validation looks at the full duration
before a profile is saved and at what is left of it afterwards, so a profile that can work may come
back with other timing, or not at all.
-/

namespace BusTransport

namespace DeviceAddress

theorem isPlain_of_mem_text {a : DeviceAddress} {c : Char} (h : c ∈ a.text.toList) :
    Json.IsPlain c := by
  have hdigits {n : Nat} (h : c ∈ Nat.toDigits 10 n) : Json.IsPlain c :=
    Json.isPlain_of_isDigit (Nat.isDigit_of_mem_toDigits (by decide) (by decide) h)
  simp only [toList_text, plain, Spelling.chars, dotted, List.nil_append, List.append_nil,
    List.mem_append, List.mem_cons] at h
  rcases h with h | rfl | h | rfl | h
  · exact hdigits h
  · decide
  · exact hdigits h
  · decide
  · exact hdigits h

theorem ofJson?_toJson (a : DeviceAddress) : ofJson? a.toJson = some a := by
  have htext : a.toJson.string? = some a.text := Json.textOf?_plain fun _ => isPlain_of_mem_text
  rw [ofJson?, htext, Option.bind_some, parse_text]
  rfl

theorem plain_toJson (a : DeviceAddress) : Json.Plain a.toJson :=
  .string fun _ => isPlain_of_mem_text

end DeviceAddress

namespace Duration

variable {d : Duration}

/-- What a text keeps of a duration. -/
def stored (d : Duration) : Duration := .ofMilliseconds (d.wholeMilliseconds % UInt64.size)

def IsStorable (d : Duration) : Prop := ∃ n < UInt64.size, d = .ofMilliseconds n

theorem IsStorable.stored_eq (h : d.IsStorable) : d.stored = d := by
  obtain ⟨n, hn, rfl⟩ := h
  have hwhole : (ofMilliseconds n).wholeMilliseconds = n := Nat.mul_div_cancel n (by decide)
  rw [stored, hwhole, Nat.mod_eq_of_lt hn]

theorem isZero_stored_iff : d.stored.isZero = true ↔ d.wholeMilliseconds % UInt64.size = 0 := by
  rw [isZero, decide_eq_true_iff]
  exact Nat.mul_eq_zero.trans (or_iff_left (by decide))

theorem ofJson?_toJson (d : Duration) : ofJson? d.toJson = some d.stored := by
  have hlt : d.wholeMilliseconds % UInt64.size < UInt64.size := Nat.mod_lt _ (by decide)
  rw [ofJson?, toJson, Json.natBelow?_ofNat, if_pos hlt]
  rfl

end Duration

namespace TransportProfile

variable {p : TransportProfile}

def stored (p : TransportProfile) : TransportProfile :=
  { p with
    connectionTimeout := p.connectionTimeout.stored
    ackTimeout := p.ackTimeout.stored }

def durations (p : TransportProfile) : List Duration := [p.connectionTimeout, p.ackTimeout]

theorem wellNamed_fields : Field.WellNamed fields := .of_all (by decide) (by decide)

def values (p : TransportProfile) : List Json :=
  [p.connectionTimeout.toJson, p.ackTimeout.toJson, .ofNat p.maxRepetitions.toNat,
    .ofNat p.slotPollLimit.toNat]

theorem toJson_eq_write (p : TransportProfile) : p.toJson = Field.write fields p.values := rfl

theorem ofJson?_toJson (p : TransportProfile) : ofJson? p.toJson = some p.stored := by
  have hrepetitions : p.maxRepetitions.toNat < UInt8.size := p.maxRepetitions.toNat_lt
  have hlimit : p.slotPollLimit.toNat < UInt32.size := p.slotPollLimit.toNat_lt
  rw [ofJson?, toJson_eq_write, Field.read?_write wellNamed_fields rfl]
  simp [fields, values, Duration.ofJson?_toJson, Json.natBelow?_ofNat, hrepetitions, hlimit, stored]

theorem plain_toJson (p : TransportProfile) : Json.Plain p.toJson := by
  rw [toJson_eq_write]
  refine Field.plain_write wellNamed_fields ?_
  simp only [values, List.forall_mem_cons, List.not_mem_nil, false_implies, implies_true, and_true]
  exact ⟨.ofNat _, .ofNat _, .ofNat _, .ofNat _⟩

theorem kind_of_validate {fault : ProfileFault} (h : p.validate = .error fault) :
    fault.kind = .invalidData := by
  unfold validate at h
  split_ifs at h <;> cases h <;> rfl

theorem exists_validate_error (h : ∃ d ∈ p.durations, d.isZero = true) :
    ∃ fault, p.validate = .error fault := by
  obtain ⟨d, hmem, hzero⟩ := h
  unfold validate
  split_ifs with hconnection hack
  · exact ⟨_, rfl⟩
  · exact ⟨_, rfl⟩
  · exact ⟨_, rfl⟩
  · simp only [durations, List.mem_cons, List.not_mem_nil, or_false] at hmem
    rcases hmem with rfl | rfl <;> contradiction

theorem stored_of_storable (h : ∀ d ∈ p.durations, d.IsStorable) : p.stored = p := by
  simp only [durations, List.forall_mem_cons, List.not_mem_nil, false_implies, implies_true,
    and_true] at h
  obtain ⟨hconnection, hack⟩ := h
  rw [stored, hconnection.stored_eq, hack.stored_eq]

theorem durations_stored (p : TransportProfile) :
    p.stored.durations = p.durations.map Duration.stored := rfl

theorem parse_text (p : TransportProfile) :
    parse p.toJson.text = p.stored.validate.map fun () => p.stored := by
  rw [parse, Json.parse?_text p.plain_toJson, Option.bind_some, ofJson?_toJson]

end TransportProfile

namespace DeviceProfile

variable {p : DeviceProfile}

def stored (p : DeviceProfile) : DeviceProfile :=
  { p with
    pollInterval := p.pollInterval.stored
    transport := p.transport.stored }

def durations (p : DeviceProfile) : List Duration := p.pollInterval :: p.transport.durations

theorem wellNamed_fields : Field.WellNamed fields := .of_all (by decide) (by decide)

def values (p : DeviceProfile) : List Json :=
  [p.address.toJson, p.pollInterval.toJson, p.transport.toJson]

theorem toJson_eq_write (p : DeviceProfile) : p.toJson = Field.write fields p.values := rfl

theorem ofJson?_toJson (p : DeviceProfile) : ofJson? p.toJson = some p.stored := by
  rw [ofJson?, toJson_eq_write, Field.read?_write wellNamed_fields rfl]
  simp [fields, values, DeviceAddress.ofJson?_toJson, Duration.ofJson?_toJson,
    TransportProfile.ofJson?_toJson, stored]

theorem plain_toJson (p : DeviceProfile) : Json.Plain p.toJson := by
  rw [toJson_eq_write]
  refine Field.plain_write wellNamed_fields ?_
  simp only [values, List.forall_mem_cons, List.not_mem_nil, false_implies, implies_true, and_true]
  exact ⟨p.address.plain_toJson, .ofNat _, p.transport.plain_toJson⟩

theorem kind_of_validate {fault : ProfileFault} (h : p.validate = .error fault) :
    fault.kind = .invalidData := by
  unfold validate at h
  split_ifs at h
  · cases h
    rfl
  · exact TransportProfile.kind_of_validate h

theorem exists_validate_error (h : ∃ d ∈ p.durations, d.isZero = true) :
    ∃ fault, p.validate = .error fault := by
  obtain ⟨d, hmem, hzero⟩ := h
  unfold validate
  split_ifs with hpoll
  · exact ⟨_, rfl⟩
  · rcases List.mem_cons.mp hmem with rfl | hmem
    · contradiction
    · exact TransportProfile.exists_validate_error ⟨d, hmem, hzero⟩

theorem stored_of_storable (h : ∀ d ∈ p.durations, d.IsStorable) : p.stored = p := by
  obtain ⟨hpoll, htransport⟩ := List.forall_mem_cons.mp h
  rw [stored, hpoll.stored_eq, TransportProfile.stored_of_storable htransport]

theorem durations_stored (p : DeviceProfile) :
    p.stored.durations = p.durations.map Duration.stored := rfl

theorem parse_text (p : DeviceProfile) :
    parse p.toJson.text = p.stored.validate.map fun () => p.stored := by
  rw [parse, Json.parse?_text p.plain_toJson, Option.bind_some, ofJson?_toJson]

end DeviceProfile

/-- How a profile fares that is saved and reloaded, given its durations and what its text keeps. -/
structure Reloads {P : Type} (validate : P → Except ProfileFault Unit)
    (durations : P → List Duration) (stored : P → P) (p : P) (outcome : Except ProfileFault P) :
    Prop where
  accepted : validate (stored p) = .ok () → outcome = .ok (stored p)
  refused : ∀ fault, validate (stored p) = .error fault →
    outcome = .error fault ∧ (Fault.profile fault).kind = .invalidData
  /-- The text itself is in order. -/
  ne_serialization : ∀ fault, outcome = .error fault → (Fault.profile fault).kind ≠ .serialization
  unchanged : validate p = .ok () → (∀ d ∈ durations p, d.IsStorable) → outcome = .ok p
  /-- A wait of which the text keeps nothing is refused, however long it was. -/
  vanished : (∃ d ∈ durations p, d.wholeMilliseconds % UInt64.size = 0) →
    ∃ fault, outcome = .error fault ∧ (Fault.profile fault).kind = .invalidData

section Outcome

variable {P : Type} {validate : P → Except ProfileFault Unit} {durations : P → List Duration}
  {stored : P → P} {p : P} {outcome : Except ProfileFault P}

theorem Reloads.of_outcome (houtcome : outcome = (validate (stored p)).map fun () => stored p)
    (hkind : ∀ fault, validate (stored p) = .error fault → fault.kind = .invalidData)
    (hzero : (∃ d ∈ durations (stored p), d.isZero = true) →
      ∃ fault, validate (stored p) = .error fault)
    (hdurations : durations (stored p) = (durations p).map Duration.stored)
    (hstored : (∀ d ∈ durations p, d.IsStorable) → stored p = p) :
    Reloads validate durations stored p outcome := by
  have hrefused : ∀ fault, validate (stored p) = .error fault →
      outcome = .error fault ∧ (Fault.profile fault).kind = .invalidData := by
    intro fault h
    rw [houtcome, h]
    exact ⟨rfl, hkind fault h⟩
  have haccepted (h : validate (stored p) = .ok ()) : outcome = .ok (stored p) := by
    rw [houtcome, h]
    rfl
  refine ⟨haccepted, hrefused, ?_, ?_, ?_⟩
  · intro fault h
    rcases hvalid : validate (stored p) with cause | ⟨⟩
    · obtain ⟨hcause, hinvalid⟩ := hrefused cause hvalid
      cases hcause.symm.trans h
      rw [hinvalid]
      decide
    · cases (haccepted hvalid).symm.trans h
  · intro hvalid hstorable
    have hsame := hstored hstorable
    rw [hsame] at haccepted
    exact haccepted hvalid
  · rintro ⟨d, hmem, hd⟩
    have hvanished : ∃ d ∈ durations (stored p), d.isZero = true := by
      rw [hdurations]
      exact ⟨d.stored, List.mem_map_of_mem hmem, Duration.isZero_stored_iff.mpr hd⟩
    obtain ⟨fault, hfault⟩ := hzero hvanished
    exact ⟨fault, hrefused fault hfault⟩

end Outcome

/-- Saving and reloading replaces each duration of a profile by what the text keeps of it, and
validates the result. -/
theorem reloads_of_saved :
    (∀ p : TransportProfile, Reloads TransportProfile.validate TransportProfile.durations
      TransportProfile.stored p (TransportProfile.parse p.toJson.text)) ∧
    ∀ p : DeviceProfile, Reloads DeviceProfile.validate DeviceProfile.durations
      DeviceProfile.stored p (DeviceProfile.parse p.toJson.text) := by
  constructor
  · intro p
    exact .of_outcome p.parse_text (fun _ => TransportProfile.kind_of_validate)
      TransportProfile.exists_validate_error p.durations_stored TransportProfile.stored_of_storable
  · intro p
    exact .of_outcome p.parse_text (fun _ => DeviceProfile.kind_of_validate)
      DeviceProfile.exists_validate_error p.durations_stored DeviceProfile.stored_of_storable

/-- A device that may rest for ages comes back without rest, and a wait below a millisecond does not
come back. -/
theorem reloads_truncated :
    let resting : DeviceProfile := { pollInterval := .ofMilliseconds (UInt64.size + 1) }
    let hasty : TransportProfile := { ackTimeout := ⟨999999⟩ }
    (resting.validate = .ok () ∧ hasty.validate = .ok ()) ∧
      DeviceProfile.parse resting.toJson.text =
        .ok { resting with pollInterval := .ofMilliseconds 1 } ∧
      TransportProfile.parse hasty.toJson.text = .error .zeroAckTimeout := by
  intro resting hasty
  have hstored : resting.stored = { resting with pollInterval := .ofMilliseconds 1 } := by decide
  have hresting := (reloads_of_saved.2 resting).accepted
  rw [hstored] at hresting
  have hvanished : hasty.stored.validate = .error .zeroAckTimeout := by decide
  obtain ⟨hhasty, -⟩ := (reloads_of_saved.1 hasty).refused .zeroAckTimeout hvanished
  exact ⟨⟨rfl, rfl⟩, hresting rfl, hhasty⟩

end BusTransport
