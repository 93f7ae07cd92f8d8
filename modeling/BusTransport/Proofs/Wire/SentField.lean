import BusTransport.Endpoint.Action

/-! # Control fields of sent frames

The control field of a frame is read from the octet after its header. A frame that an endpoint
builds has the field it was built with, so that connected data can be told from all else on the
link.
-/

namespace BusTransport

namespace ControlField

theorem decode_encode_of_isControl {field : ControlField} (h : field.isControl) :
    (decode field.encode).toOption = some field := by
  cases field with
  | connect => rfl
  | disconnect => rfl
  | ack n => revert n; decide
  | nack n => revert n; decide
  | numbered n high => cases h
  | unnumbered high => cases h

/-- Of the high command bits only the two lowest survive. -/
theorem decode_encode_numbered (n : SequenceNumber) (high : UInt8) :
    (decode (numbered n high).encode).toOption =
      some (numbered n (UInt8.ofNat (high.toNat % 4))) := by
  have h : ∀ (n : SequenceNumber) (k : Fin 4),
      (decode (UInt8.ofNat (0x40 + 4 * n.val + k.val))).toOption =
        some (numbered n (UInt8.ofNat k.val)) := by decide
  exact h n ⟨high.toNat % 4, Nat.mod_lt _ (by decide)⟩

theorem decode_encode_unnumbered (high : UInt8) :
    (decode (unnumbered high).encode).toOption =
      some (unnumbered (UInt8.ofNat (high.toNat % 4))) := by
  have h : ∀ k : Fin 4,
      (decode (UInt8.ofNat k.val)).toOption = some (unnumbered (UInt8.ofNat k.val)) := by decide
  exact h ⟨high.toNat % 4, Nat.mod_lt _ (by decide)⟩

end ControlField

/-- The transport control field of a frame, if it has a known one. -/
def fieldOf? (frame : Frame) : Option ControlField :=
  frame[6]?.bind fun octet => (ControlField.decode octet).toOption

def numberOf? (frame : Frame) : Option SequenceNumber :=
  match fieldOf? frame with
  | some (.numbered n _) => some n
  | _ => none

theorem Telegram.getElem?_encode (t : Telegram) : t.encode[6]? = some t.tpci := by
  simp [encode, body]

theorem fieldOf?_encode (t : Telegram) :
    fieldOf? t.encode = (ControlField.decode t.tpci).toOption := by
  simp [fieldOf?, t.getElem?_encode]

namespace Endpoint

variable {own destination : DeviceAddress} {priority : Priority} {field : ControlField}
  {answer : Answer} {frame : Frame}

/-- The frame of an answer is that of a telegram with its parts. -/
theorem answerFrame_eq_ok_iff :
    answerFrame own destination priority field answer = .ok frame ↔
      ∃ hle : answer.payload.length ≤ maxPayloadLength, frame = Telegram.encode
        ⟨priority, false, own, .individual destination, Telegram.ownRoutingCounter, field.encode,
          answer.payload, hle⟩ := by
  unfold answerFrame
  rcases hb : Telegram.build priority own (.individual destination) field.encode answer.payload with
    fault | t
  · refine iff_of_false nofun ?_
    rintro ⟨hle, -⟩
    cases hb.symm.trans (Telegram.build_eq_ok_iff.mpr ⟨hle, rfl⟩)
  · obtain ⟨hle, rfl⟩ := Telegram.build_eq_ok_iff.mp hb
    constructor
    · rintro ⟨⟩
      exact ⟨hle, rfl⟩
    · rintro ⟨-, rfl⟩
      rfl

theorem controlFrame_eq_ok_iff : controlFrame own destination field = .ok frame ↔
    frame = Telegram.encode ⟨.system, false, own, .individual destination,
      Telegram.ownRoutingCounter, field.encode, [], Nat.zero_le _⟩ := by
  constructor
  · rintro ⟨⟩
    rfl
  · rintro rfl
    rfl

theorem fieldOf?_answerFrame (h : answerFrame own destination priority field answer = .ok frame) :
    fieldOf? frame = (ControlField.decode field.encode).toOption := by
  obtain ⟨hle, rfl⟩ := answerFrame_eq_ok_iff.mp h
  exact fieldOf?_encode _

theorem fieldOf?_controlFrame (h : controlFrame own destination field = .ok frame) :
    fieldOf? frame = (ControlField.decode field.encode).toOption := by
  obtain rfl := controlFrame_eq_ok_iff.mp h
  exact fieldOf?_encode _

theorem exists_controlFrame (own destination : DeviceAddress) (field : ControlField) :
    ∃ frame, controlFrame own destination field = .ok frame := ⟨_, rfl⟩

theorem numberOf?_controlFrame (hf : field.isControl)
    (h : controlFrame own destination field = .ok frame) : numberOf? frame = none := by
  have hfield := fieldOf?_controlFrame h
  rw [ControlField.decode_encode_of_isControl hf] at hfield
  unfold numberOf?
  cases field <;> simp_all [ControlField.isControl]

theorem numberOf?_numbered {n : SequenceNumber} {high : UInt8}
    (h : answerFrame own destination priority (.numbered n high) answer = .ok frame) :
    numberOf? frame = some n := by
  simp [numberOf?, fieldOf?_answerFrame h, ControlField.decode_encode_numbered]

theorem numberOf?_unnumbered {high : UInt8}
    (h : answerFrame own destination priority (.unnumbered high) answer = .ok frame) :
    numberOf? frame = none := by
  simp [numberOf?, fieldOf?_answerFrame h, ControlField.decode_encode_unnumbered]

end Endpoint

/-- Whether an answer fits a telegram: its low command octet and at most 14 octets of data. -/
def Answer.fits (a : Answer) : Bool := a.data.length ≤ 14

theorem Answer.fits_iff {a : Answer} : a.fits = true ↔ a.payload.length ≤ maxPayloadLength := by
  rw [fits, decide_eq_true_iff, payload, List.length_cons, maxPayloadLength]
  omega

theorem Endpoint.answerFrame_isOk_iff (own destination : DeviceAddress) (priority : Priority)
    (field : ControlField) (answer : Answer) :
    (∃ frame, answerFrame own destination priority field answer = .ok frame) ↔
      answer.fits = true := by
  rw [Answer.fits_iff]
  constructor
  · rintro ⟨frame, h⟩
    obtain ⟨hle, -⟩ := answerFrame_eq_ok_iff.mp h
    exact hle
  · intro hle
    exact ⟨_, answerFrame_eq_ok_iff.mpr ⟨hle, rfl⟩⟩

end BusTransport
