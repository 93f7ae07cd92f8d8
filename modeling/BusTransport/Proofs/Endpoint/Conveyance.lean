import BusTransport.Proofs.Endpoint.Run
import BusTransport.Proofs.Endpoint.WayOut
import BusTransport.Proofs.Wire.RoundTrip

/-! # Answers as they arrive

The ten bits of a command are divided between the transport control field, which the number of the
frame shares, and the first octet of the payload. Whoever reads the frame of an answer finds the
command whole again, with the data, the number and the addresses that the answer was sent with.
-/

namespace BusTransport

/-- The two highest of the ten bits of a command. -/
def highBits (command : UInt16) : UInt8 := UInt8.ofNat (command.toNat / 256 % 4)

theorem toNat_highBits (command : UInt16) : (highBits command).toNat = command.toNat / 256 % 4 := by
  rw [highBits, UInt8.toNat_ofNat']
  omega

namespace Answer

variable (command : UInt16) (data : List UInt8)

theorem toNat_command_ofCommand :
    (ofCommand command data).command.toNat = command.toNat % 1024 := by
  simp only [ofCommand, UInt16.toNat_ofNat']
  omega

theorem commandHigh_ofCommand : (ofCommand command data).commandHigh = highBits command := by
  rw [commandHigh, toNat_command_ofCommand, highBits]
  congr 1
  omega

end Answer

namespace ControlField

variable {command : UInt16} {field : ControlField}

inductive Brings (command : UInt16) : ControlField → Prop
  | numbered (n : SequenceNumber) : Brings command (.numbered n (highBits command))
  | unnumbered : Brings command (.unnumbered (highBits command))

theorem Brings.toNat_encode (h : Brings command field) :
    field.encode.toNat % 4 = command.toNat / 256 % 4 := by
  cases h with
  | numbered n =>
    simp only [encode, UInt8.toNat_ofNat', toNat_highBits]
    omega
  | unnumbered =>
    simp only [encode, UInt8.toNat_ofNat', toNat_highBits]
    omega

/-- Of two bits none is lost when the field is written. -/
theorem Brings.decode_encode (h : Brings command field) : decode field.encode = .ok field := by
  have hbits : UInt8.ofNat ((highBits command).toNat % 4) = highBits command := by
    rw [toNat_highBits, Nat.mod_mod, highBits]
  have hread : (decode field.encode).toOption = some field := by
    cases h with
    | numbered n => rw [decode_encode_numbered, hbits]
    | unnumbered => rw [decode_encode_unnumbered, hbits]
  rcases hd : decode field.encode with fault | field'
  · rw [hd] at hread
    cases hread
  · rw [hd] at hread
    cases hread
    rfl

end ControlField

/-- What a telegram tells its reader: who sent it to which device, with what priority and control
field, and which command it brings with which data. -/
structure Telegram.Conveys (own destination : DeviceAddress) (priority : Priority)
    (field : ControlField) (command : UInt16) (data : List UInt8) (t : Telegram) : Prop where
  source_eq : t.source = own
  destination_eq : t.destination = .individual destination
  priority_eq : t.priority = priority
  field_eq : ControlField.decode t.tpci = .ok field
  request_eq : ∀ sequence, Request.ofTelegram? t sequence =
    some { command, source := own, sequence, priority, data }

/-- The command of an answer is put together from the bits in which it was sent. -/
theorem Request.ofTelegram?_answer {t : Telegram} {command : UInt16} {data : List UInt8}
    (hpayload : t.payload = (Answer.ofCommand command data).payload)
    (htpci : t.tpci.toNat % 4 = command.toNat / 256 % 4) (sequence : Option SequenceNumber) :
    ofTelegram? t sequence = some {
      command := UInt16.ofNat (command.toNat % 1024)
      source := t.source
      sequence
      priority := t.priority
      data } := by
  have hparts : command.toNat / 256 % 4 * 256 + command.toNat % 1024 % 256 % 2 ^ 8 =
      command.toNat % 1024 := by omega
  simp only [ofTelegram?, hpayload, Answer.payload, Answer.toNat_command_ofCommand, htpci,
    UInt8.toNat_ofNat', hparts]
  rfl

namespace Endpoint

variable {destination : DeviceAddress} {field : ControlField} {command : UInt16}
  {data : List UInt8}

theorem exists_answerFrame_conveys (own : DeviceAddress) (priority : Priority)
    (hdata : data.length ≤ 14) (hdestination : destination.raw ≠ 0)
    (hfield : field.Brings command) : ∃ frame t,
      answerFrame own destination priority field (.ofCommand command data) = .ok frame ∧
      Telegram.decode frame = .ok t ∧
      t.Conveys own destination priority field (UInt16.ofNat (command.toNat % 1024)) data := by
  have hfits : (Answer.ofCommand command data).payload.length ≤ maxPayloadLength :=
    Nat.succ_le_succ hdata
  have hdecode := Telegram.decode_encode ⟨priority, false, own, .individual destination,
    Telegram.ownRoutingCounter, field.encode, _, hfits⟩
  rw [StandardFrame.received_individual, if_neg hdestination] at hdecode
  refine ⟨_, _, ?_, hdecode, ⟨rfl, rfl, rfl, hfield.decode_encode, ?_⟩⟩
  · exact answerFrame_eq_ok_iff.mpr ⟨hfits, rfl⟩
  · exact Request.ofTelegram?_answer rfl hfield.toNat_encode

end Endpoint

namespace Turn

open Endpoint Link

variable {L A : Type} [Link L] {c : Course L A} {frame : Frame}

theorem handsOver_sendPrimary {entry : PendingAnswer} {rest : List PendingAnswer} (now : Instant)
    (hq : c.endpoint.answers.entries = entry :: rest)
    (hf : c.endpoint.dialogue.primaryFrame (address c.endpoint.link) entry = .ok frame) :
    HandsOver (sendPrimary now) c frame := by
  have hrun := run_sendPrimary now hq
  simp only [hf] at hrun
  refine HandsOver.of_run ?_ (cumulative_spares.refl c) hrun
  refine (handsOver_offer frame c).bind fun _ => still_bind (still_updateAnswers _) fun _ => ?_
  exact still_bind (still_updateConnection _) fun _ => still_count _

variable [Application A]

theorem handsOver_replyDirectly {t : Telegram} {r : Request} {answer : Answer}
    (hr : Request.ofTelegram? t none = some r)
    (ha : (Application.respond c.endpoint.application r).1 = some answer)
    (hf : answerFrame (address c.endpoint.link) r.source r.priority
      (.unnumbered answer.commandHigh) answer = .ok frame) :
    HandsOver (replyDirectly t) c frame := by
  have hrun := run_replyDirectly hr c
  simp only [ha, hf] at hrun
  have hspares : Spares c (asked r c) := after_of_ok (run_ask r c) ▸ still_ask r c
  refine HandsOver.of_run ?_ hspares hrun
  exact (handsOver_offer frame _).bind fun _ => still_count _

end Turn

open Turn

variable {L A : Type} [Link L] [Application A]

/-- Every answer of at most fourteen octets leaves in a frame from which its receiver reads it as it
was given, queued under a number or in reply to unconnected data. -/
theorem conveyed_of_answer (c : Course L A) (now : Instant) (priority : Priority)
    (command : UInt16) {destination : DeviceAddress} {data : List UInt8}
    (hdata : data.length ≤ 14) (hdestination : destination.raw ≠ 0) :
    (∀ phase kept? rest, c.endpoint.answers.entries =
        ⟨destination, priority, .ofCommand command data, phase, kept?⟩ :: rest →
      ∃ frame t, HandsOver (sendPrimary now) c frame ∧ Telegram.decode frame = .ok t ∧
        t.Conveys (Link.address c.endpoint.link) destination priority
          (.numbered c.endpoint.connection.sendSequence (highBits command))
          (UInt16.ofNat (command.toNat % 1024)) data) ∧
    (∀ heard r, Request.ofTelegram? heard none = some r → heard.source = destination →
      heard.priority = priority →
      (Application.respond c.endpoint.application r).1 = some (.ofCommand command data) →
      ∃ frame t, HandsOver (replyDirectly heard) c frame ∧ Telegram.decode frame = .ok t ∧
        t.Conveys (Link.address c.endpoint.link) destination priority
          (.unnumbered (highBits command)) (UInt16.ofNat (command.toNat % 1024)) data) := by
  have hhigh := Answer.commandHigh_ofCommand command data
  constructor
  · intro phase kept? rest hq
    obtain ⟨frame, t, hf, hdecode, hconveys⟩ :=
      Endpoint.exists_answerFrame_conveys (Link.address c.endpoint.link) priority hdata
        hdestination (.numbered c.endpoint.connection.sendSequence)
    rw [← hhigh] at hf
    exact ⟨frame, t, handsOver_sendPrimary now hq hf, hdecode, hconveys⟩
  · intro heard r hr hsource hpriority ha
    obtain ⟨frame, t, hf, hdecode, hconveys⟩ :=
      Endpoint.exists_answerFrame_conveys (Link.address c.endpoint.link) priority hdata
        hdestination .unnumbered
    rw [← hhigh, ← hsource, ← hpriority, ← Request.source_of_telegram hr,
      ← Request.priority_of_telegram hr] at hf
    exact ⟨frame, t, handsOver_replyDirectly hr ha hf, hdecode, hconveys⟩

namespace Sample

def burden : List UInt8 := List.replicate 14 0xA5

def laden : Course RecordingLink Responder where
  endpoint := { host with answers := ⟨[⟨guest, .urgent, .ofCommand 0x340 burden, .ready, none⟩]⟩ }

def inquiry : Telegram :=
  ⟨.urgent, false, guest, .individual host.link.address, 6, (ControlField.unnumbered 3).encode,
    0 :: burden, Nat.le_refl 15⟩

end Sample

open Sample in
theorem conveyed_burden : burden.length ≤ 14 ∧ guest.raw ≠ 0 ∧
    (∃ frame t, HandsOver (sendPrimary 0) laden frame ∧ Telegram.decode frame = .ok t ∧
      t.Conveys host.link.address guest .urgent (.numbered 0 3) 0x340 burden) ∧
    ∃ frame t, HandsOver (replyDirectly inquiry) laden frame ∧ Telegram.decode frame = .ok t ∧
      t.Conveys host.link.address guest .urgent (.unnumbered 3) 0x340 burden := by
  have hdata : burden.length ≤ 14 := by decide
  have hguest : guest.raw ≠ 0 := by decide
  obtain ⟨hqueued, hdirect⟩ := conveyed_of_answer laden 0 .urgent 0x340 hdata hguest
  exact ⟨hdata, hguest, hqueued .ready none [] rfl, hdirect inquiry _ rfl rfl rfl rfl⟩

end BusTransport
