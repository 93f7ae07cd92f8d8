import BusTransport.Proofs.Endpoint.Deferral
import BusTransport.Proofs.Endpoint.FaultOrigin

/-! # Traffic beside the connection

Group telegrams, broadcasts, telegrams for other devices and data without connection never touch the
connection and its answers. Group telegrams and broadcasts are handed over even while the link is
sending. Data without connection is answered at once, as soon as the link is free.
-/

namespace BusTransport

namespace Telegram

/-- The request that a telegram makes outside of any connection. -/
structure Asks (t : Telegram) (r : Request) : Prop where
  command : ∃ low, t.payload = low :: r.data ∧
    r.command.toNat = t.tpci.toNat % 4 * 256 + low.toNat
  source_eq : r.source = t.source
  priority_eq : r.priority = t.priority
  sequence_eq : r.sequence = none

/-- The telegram with which a device answers a request outside of any connection. -/
structure Answers (u : Telegram) (own : DeviceAddress) (r : Request) (answer : Answer) : Prop where
  source_eq : u.source = own
  destination_eq : u.destination = .individual r.source
  priority_eq : u.priority = r.priority
  repeated_eq : u.repeated = false
  tpci_eq : u.tpci = (ControlField.unnumbered answer.commandHigh).encode
  payload_eq : u.payload = answer.payload

theorem asks_of_request {t : Telegram} {r : Request} (h : Request.ofTelegram? t none = some r) :
    t.Asks r := by
  refine ⟨?_, Request.source_of_telegram h, Request.priority_of_telegram h,
    Request.sequence_of_telegram h⟩
  unfold Request.ofTelegram? at h
  split at h
  · cases h
  · next low data hpayload =>
    cases h
    have hlow := low.toNat_lt
    refine ⟨low, hpayload, UInt16.toNat_ofNat_of_lt' ?_⟩
    change t.tpci.toNat % 4 * 256 + low.toNat < 65536
    omega

theorem exists_answers {own : DeviceAddress} {r : Request} {answer : Answer} {frame : Frame}
    (h : Endpoint.answerFrame own r.source r.priority (.unnumbered answer.commandHigh) answer =
      .ok frame) : ∃ u : Telegram, u.Answers own r answer ∧ u.encode = frame := by
  unfold Endpoint.answerFrame at h
  rcases hb : build r.priority own (.individual r.source)
    (ControlField.unnumbered answer.commandHigh).encode answer.payload with fault | u
  · rw [hb] at h
    cases h
  · rw [hb] at h
    cases h
    refine ⟨u, ?_, rfl⟩
    unfold build at hb
    split at hb
    · cases hb
      exact ⟨rfl, rfl, rfl, rfl, rfl, rfl⟩
    · cases hb

end Telegram

/-- What comes of a request outside of any connection, depending on what the application answers: an
answer that fits a telegram is offered to the link, and no other frame is. -/
inductive Replied (own : DeviceAddress) (r : Request) :
    Option Answer → List Activity → Except Fault (Option Disposition) → Prop
  | silent : Replied own r none [.requested r none] (.ok (some .consumed))
  | unfit {answer : Answer} : 14 < answer.data.length →
      Replied own r (some answer) [.requested r (some answer)]
        (.error (.frame (.payloadTooLong (answer.data.length + 1))))
  | sent {answer : Answer} {u : Telegram} : answer.data.length ≤ 14 → u.Answers own r answer →
      Replied own r (some answer) [.requested r (some answer), .offered u.encode none]
        (.ok (some .consumed))
  | refused {answer : Answer} {u : Telegram} {fault} : answer.data.length ≤ 14 →
      u.Answers own r answer →
      Replied own r (some answer) [.requested r (some answer), .offered u.encode (some fault)]
        (.error (.link fault))

namespace Endpoint

open Dialogue Turn

variable {L A : Type} [Link L] {e : Endpoint L A} {call : Call} {frame : Frame} {t : Telegram}
  {field : ControlField} {now : Instant}

/-- A telegram that is not for the connection of an endpoint. -/
inductive Bypasses (e : Endpoint L A) (t : Telegram) : Prop
  | group {raw} : t.destination = .group raw → Bypasses e t
  | broadcast : t.destination = .broadcast → Bypasses e t
  | foreign {address} : t.destination = .individual address → address ≠ Link.address e.link →
      Bypasses e t
  | unconnected {high} : t.destination = .individual (Link.address e.link) →
      ControlField.decode t.tpci = .ok (.unnumbered high) → Bypasses e t

theorem eventOf?_of_bypasses (h : e.Bypasses t) : e.eventOf? t = none := by
  unfold eventOf?
  cases h with
  | group hdest | broadcast hdest => rw [hdest, if_neg nofun]
  | foreign hdest hother =>
    rw [hdest, if_neg fun h => hother (Destination.individual.inj h)]
  | unconnected hdest hfield =>
    rw [if_pos hdest, hfield]
    dsimp only
    split <;> rfl

theorem heard?_of_bypasses (hd : Telegram.decode frame = .ok t) (h : e.Bypasses t) :
    e.heard? frame = none := by
  unfold heard?
  rw [hd]
  dsimp only
  rw [eventOf?_of_bypasses h, ite_self]

variable [Application A]

/-- A call has left the connection and its answers alone. Nothing but an answer to data without
connection was sent. -/
structure LeavesAlone (e : Endpoint L A) (call : Call) : Prop where
  connection_eq : (e.after call).connection = e.connection
  answers_eq : (e.after call).answers = e.answers
  unnumbered : ∀ sent refusal, .offered sent refusal ∈ e.journal call →
    ∃ high, fieldOf? sent = some (.unnumbered high)
  unclosed : ∀ p, .closed p ∉ e.journal call
  idle : ∀ action, .performed action ∉ e.journal call

theorem leavesAlone_of_bypasses (hframe : e.handed? call = some frame)
    (hd : Telegram.decode frame = .ok t) (h : e.Bypasses t) : e.LeavesAlone call := by
  have hevent : e.event? call = none :=
    (event?_of_handed hframe).trans (heard?_of_bypasses hd h)
  have hready : e.ready call = e.dialogue := by
    cases call with
    | poll now => cases hframe
    | _ => rfl
  have hstep := (e.proceeds call).step
  rw [hevent, hready] at hstep
  generalize hd' : (e.after call).dialogue = d' at hstep
  generalize hj : e.journal call = journal at hstep
  cases hstep with
  | quiet hquiet =>
    refine ⟨congrArg Dialogue.connection hd', congrArg Dialogue.answers hd', ?_, ?_, ?_⟩
    · rw [hj]
      exact fun sent refusal => hquiet.unnumbered
    · rw [hj]
      cases hquiet <;> simp
    · rw [hj]
      cases hquiet <;> simp

structure Delivers (e : Endpoint L A) (call : Call) (activity : Activity) (application : A) :
    Prop where
  outcome_eq : e.outcome call = .ok (some .consumed)
  journal_eq : e.journal call = [activity]
  application_eq : (e.after call).application = application

theorem delivers_of_receive {activity : Activity} {e' : Endpoint L A}
    (hframe : e.handed? call = some frame)
    (h : e.receive frame call.now = ⟨.ok .consumed, [activity], e'⟩) :
    e.Delivers call activity e'.application := by
  obtain ⟨hj, link, ha⟩ := after_handed hframe
  constructor
  · rw [outcome_handed hframe, outcome, h]
    rfl
  · rw [hj, journal, h]
  · rw [ha, after, h]

theorem delivers_group {raw : UInt16} (hframe : e.handed? call = some frame)
    (hd : Telegram.decode frame = .ok t) (hfresh : e.isRepeatOfLast t = false)
    (hdest : t.destination = .group raw) :
    e.Delivers call (.groupDelivered t) (Application.groupReceived e.application t) := by
  have hrun : (Turn.receive frame call.now).run { endpoint := e } = .ok .consumed {
      endpoint := { e with
        application := Application.groupReceived e.application t, lastTelegram := some t }
      journal := [.groupDelivered t] } := by
    simp only [Turn.receive, hd, run_bind, run_endpoint, hfresh, Bool.false_eq_true, if_false,
      route, hdest]
    rfl
  exact delivers_of_receive hframe (receive_of_run hrun)

theorem delivers_broadcast (hframe : e.handed? call = some frame)
    (hd : Telegram.decode frame = .ok t) (hfresh : e.isRepeatOfLast t = false)
    (hdest : t.destination = .broadcast) :
    e.Delivers call (.broadcastDelivered t) (Application.broadcastReceived e.application t) := by
  have hrun : (Turn.receive frame call.now).run { endpoint := e } = .ok .consumed {
      endpoint := { e with
        application := Application.broadcastReceived e.application t, lastTelegram := some t }
      journal := [.broadcastDelivered t] } := by
    simp only [Turn.receive, hd, run_bind, run_endpoint, hfresh, Bool.false_eq_true, if_false,
      route, hdest]
    rfl
  exact delivers_of_receive hframe (receive_of_run hrun)

structure Serves (e : Endpoint L A) (call : Call) (r : Request) : Prop where
  replied : Replied e.own r (Application.respond e.application r).1 (e.journal call)
    (e.outcome call)
  application_eq : (e.after call).application = (Application.respond e.application r).2

section Serving

variable {r : Request} {c : Course L A}

/-- A frame whose receiving comes down to a direct reply. -/
def RepliesDirectly (e : Endpoint L A) (frame : Frame) (now : Instant) (t : Telegram) : Prop :=
  (Turn.receive frame now).run { endpoint := e } =
    (do replyDirectly t; pure Disposition.consumed).run { endpoint := noted e t }

theorem serves_of_ok (h : e.RepliesDirectly frame now t)
    (hrun : (replyDirectly t).run { endpoint := noted e t } = .ok () c)
    (hreplied : Replied e.own r (Application.respond e.application r).1 c.journal
      (.ok (some .consumed)))
    (ha : c.endpoint.application = (Application.respond e.application r).2) :
    e.Serves (.receive frame now) r := by
  rw [RepliesDirectly, run_bind, hrun] at h
  have hreport : e.receive frame now = _ := report_of_run_ok h
  constructor
  · rw [journal, outcome, hreport]
    exact hreplied
  · rw [after, hreport]
    exact ha

theorem serves_of_error {fault : Fault} (h : e.RepliesDirectly frame now t)
    (hrun : (replyDirectly t).run { endpoint := noted e t } = .error fault c)
    (hreplied : Replied e.own r (Application.respond e.application r).1 c.journal (.error fault))
    (ha : c.endpoint.application = (Application.respond e.application r).2) :
    e.Serves (.receive frame now) r := by
  rw [RepliesDirectly, run_bind, hrun] at h
  have hreport : e.receive frame now = _ := report_of_run_error h
  constructor
  · rw [journal, outcome, hreport]
    exact hreplied
  · rw [after, hreport]
    exact ha

theorem serves_of_answer {answer : Answer} (h : e.RepliesDirectly frame now t)
    (hr : Request.ofTelegram? t none = some r)
    (ha : (Application.respond e.application r).1 = some answer) :
    e.Serves (.receive frame now) r := by
  have hrun := run_replyDirectly hr { endpoint := noted e t }
  have hjournal : (asked r { endpoint := noted e t }).journal = [.requested r (some answer)] :=
    congrArg (fun answer => [Activity.requested r answer]) ha
  rw [show (Application.respond (noted e t).application r).1 = some answer from ha] at hrun
  dsimp only at hrun
  rcases hf : answerFrame (Link.address (noted e t).link) r.source r.priority
      (.unnumbered answer.commandHigh) answer with fault | sent
  · rw [hf] at hrun
    obtain ⟨hlong, rfl⟩ := answerFrame_error hf
    refine serves_of_error h hrun ?_ rfl
    rw [ha, hjournal]
    exact .unfit hlong
  obtain ⟨u, hu, rfl⟩ := Telegram.exists_answers hf
  have hfits : answer.data.length ≤ 14 := by
    simpa [Answer.fits] using (answerFrame_isOk_iff ..).mp ⟨_, hf⟩
  rw [hf] at hrun
  rcases run_offer u.encode (asked r { endpoint := noted e t }) with
    ⟨link, hoffer⟩ | ⟨link, fault, hoffer⟩
  · simp only [run_bind, hoffer, run_count, hjournal] at hrun
    refine serves_of_ok h hrun ?_ rfl
    rw [ha]
    exact .sent hfits hu
  · simp only [run_bind, hoffer, hjournal] at hrun
    refine serves_of_error h hrun ?_ rfl
    rw [ha]
    exact .refused hfits hu

theorem serves_of_repliesDirectly (h : e.RepliesDirectly frame now t)
    (hr : Request.ofTelegram? t none = some r) : e.Serves (.receive frame now) r := by
  rcases ha : (Application.respond e.application r).1 with _ | answer
  · have hrun := run_replyDirectly hr { endpoint := noted e t }
    rw [show (Application.respond (noted e t).application r).1 = none from ha] at hrun
    have hjournal : (asked r { endpoint := noted e t }).journal = [.requested r none] :=
      congrArg (fun answer => [Activity.requested r answer]) ha
    refine serves_of_ok h hrun ?_ rfl
    rw [ha, hjournal]
    exact .silent
  · exact serves_of_answer h hr ha

end Serving

theorem serves_of_hears {high : UInt8} (hframe : e.handed? call = some frame)
    (hears : e.Hears frame t (.unnumbered high)) (hf : e.wayOutFree = true) :
    ∃ r, t.Asks r ∧ e.Serves call r := by
  obtain ⟨r, hr⟩ := exists_request (hears.command rfl) none
  have hreplies : e.RepliesDirectly frame call.now t :=
    (run_receive_of_hears hears call.now).trans (run_accept_of_unconnected call.now hf rfl)
  obtain ⟨hreplied, happlication⟩ := serves_of_repliesDirectly hreplies hr
  obtain ⟨hj, link, ha⟩ := after_handed hframe
  refine ⟨r, Telegram.asks_of_request hr, ?_, ?_⟩
  · rw [outcome_handed hframe, hj]
    exact hreplied
  · rw [ha]
    exact happlication

end Endpoint

/-- What is not meant for the connection leaves it alone, whatever the state of the endpoint, the
link and the application. A group telegram or a broadcast that is no repetition reaches the
application once, even while the link is sending. Data without connection that finds the link free
reaches it once, and its answer, if it fits a telegram, is offered to the link for the sender. -/
theorem undisturbed_of_bypasses {L A : Type} [Link L] [Link.Passive L] [Application A]
    {e : Endpoint L A} {call : Call} {frame : Frame} {t : Telegram} (h : e.Reachable)
    (hframe : e.handed? call = some frame) (hd : Telegram.decode frame = .ok t)
    (hb : e.Bypasses t) :
    e.LeavesAlone call ∧
      (e.isRepeatOfLast t = false →
        (∀ raw, t.destination = .group raw →
          e.Delivers call (.groupDelivered t) (Application.groupReceived e.application t)) ∧
        (t.destination = .broadcast →
          e.Delivers call (.broadcastDelivered t)
            (Application.broadcastReceived e.application t)) ∧
        ∀ high, t.destination = .individual (Link.address e.link) →
          ControlField.decode t.tpci = .ok (.unnumbered high) → t.payload ≠ [] →
          Link.sending e.link = false → ∃ r, t.Asks r ∧ e.Serves call r) := by
  refine ⟨Endpoint.leavesAlone_of_bypasses hframe hd hb, fun hfresh => ⟨?_, ?_, ?_⟩⟩
  · exact fun raw => Endpoint.delivers_group hframe hd hfresh
  · exact Endpoint.delivers_broadcast hframe hd hfresh
  · intro high hdest hfield hpayload hs
    have hf : e.wayOutFree = true := by
      rw [Endpoint.wayOutFree_eq h.slot_ne_acquired, hs]
      rfl
    exact Endpoint.serves_of_hears hframe ⟨hd, hfresh, hdest, hfield, fun _ => hpayload⟩ hf

namespace Sample

def question : Frame :=
  (Endpoint.answerFrame guest host.link.address .normal (.unnumbered 3) ⟨0x300, []⟩).toOption.getD
    []

def circular : Frame :=
  ((Telegram.build .normal guest (.group 0x901) 0 [0x81]).toOption.map (·.encode)).getD []

/-- The slow host has acknowledged a request, whose answer it has yet to send. -/
def owing : Endpoint RecordingLink Responder := slowHost.meetAll (busy ++ [.complete])

def talking : Endpoint RecordingLink Responder := owing.after (.receive question 2)

end Sample

open Sample in
/-- The guest asks a question in the middle of an exchange. A group telegram arrives while the host
is sending its answer to that question. -/
theorem undisturbed_owing :
    Link.Passive RecordingLink ∧ owing.Reachable ∧ talking.Reachable ∧
      owing.answers.entries ≠ [] ∧ talking.answers = owing.answers ∧
      (∃ t r, Telegram.decode question = .ok t ∧ owing.Bypasses t ∧ t.Asks r ∧
        owing.Serves (.receive question 2) r) ∧
      Link.sending talking.link = true ∧
      ∃ t, Telegram.decode circular = .ok t ∧ talking.Bypasses t ∧
        talking.Delivers (.receive circular 3) (.groupDelivered t) talking.application := by
  have hpassive : Link.Passive RecordingLink := inferInstance
  have howing : owing.Reachable := reachable_slowHost.meetAll _
  have htalking : talking.Reachable := howing.meet (.call (.receive question 2))
  have hfree : Link.sending owing.link = false := by decide
  have hasked : owing.handed? (.receive question 2) = some question := rfl
  have hspread : talking.handed? (.receive circular 3) = some circular := rfl
  obtain ⟨halone, hserves⟩ := undisturbed_of_bypasses howing hasked rfl (.unconnected rfl rfl)
  obtain ⟨r, hasks, hserved⟩ := (hserves rfl).2.2 3 rfl rfl nofun hfree
  obtain ⟨-, hdelivers⟩ := undisturbed_of_bypasses htalking hspread rfl (.group rfl)
  exact ⟨hpassive, howing, htalking, nofun, halone.answers_eq,
    ⟨_, r, rfl, .unconnected rfl rfl, hasks, hserved⟩, by decide,
    _, rfl, .group rfl, (hdelivers rfl).1 _ rfl⟩

end BusTransport
