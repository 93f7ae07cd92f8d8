import BusTransport.Proofs.Endpoint.Addressing
import BusTransport.Proofs.Endpoint.Reception
import BusTransport.Proofs.Endpoint.Repetition

/-! # Tallies

What an endpoint counts in a turn is matched by what the turn has in its journal. Frames are counted
as they leave, and a turn that is cut short by a fault has counted exactly what it has done.
-/

namespace BusTransport

def Activity.sent? : Activity → Option Frame
  | offered frame none => some frame
  | _ => none

def Activity.notice? : Activity → Option DeviceAddress
  | closed p => some p
  | _ => none

def sentIn (journal : List Activity) : List Frame := journal.filterMap Activity.sent?

def noticesIn (journal : List Activity) : List DeviceAddress :=
  journal.filterMap Activity.notice?

theorem sentIn_append (journal journal' : List Activity) :
    sentIn (journal ++ journal') = sentIn journal ++ sentIn journal' := List.filterMap_append

theorem noticesIn_append (journal journal' : List Activity) :
    noticesIn (journal ++ journal') = noticesIn journal ++ noticesIn journal' :=
  List.filterMap_append

theorem acceptedIn_append (journal journal' : List Activity) :
    acceptedIn (journal ++ journal') = acceptedIn journal ++ acceptedIn journal' :=
  List.filterMap_append

def ControlField.isAck : ControlField → Bool
  | ack _ => true
  | _ => false

def ControlField.isNack : ControlField → Bool
  | nack _ => true
  | _ => false

def isAckFrame (frame : Frame) : Bool := (fieldOf? frame).any (·.isAck)

def isNackFrame (frame : Frame) : Bool := (fieldOf? frame).any (·.isNack)

def Neutral (frame : Frame) : Prop := isAckFrame frame = false ∧ isNackFrame frame = false

namespace Endpoint

variable {own destination : DeviceAddress} {priority : Priority} {field : ControlField}
  {answer : Answer} {frame : Frame}

theorem isAckFrame_eq (hf : fieldOf? frame = some field) : isAckFrame frame = field.isAck := by
  rw [isAckFrame, hf, Option.any_some]

theorem isNackFrame_eq (hf : fieldOf? frame = some field) :
    isNackFrame frame = field.isNack := by
  rw [isNackFrame, hf, Option.any_some]

theorem fieldOf?_of_control (hc : field.isControl = true)
    (h : controlFrame own destination field = .ok frame) : fieldOf? frame = some field := by
  rw [fieldOf?_controlFrame h, ControlField.decode_encode_of_isControl hc]

theorem neutral_of_numberOf? (h : (numberOf? frame).isSome = true) : Neutral frame := by
  unfold numberOf? at h
  split at h
  · next hf => exact ⟨isAckFrame_eq hf, isNackFrame_eq hf⟩
  · cases h

theorem neutral_numbered {n : SequenceNumber} {high : UInt8}
    (h : answerFrame own destination priority (.numbered n high) answer = .ok frame) :
    Neutral frame :=
  neutral_of_numberOf? (by rw [numberOf?_numbered h]; rfl)

theorem neutral_unnumbered {high : UInt8}
    (h : answerFrame own destination priority (.unnumbered high) answer = .ok frame) :
    Neutral frame := by
  have hf := fieldOf?_answerFrame h
  rw [ControlField.decode_encode_unnumbered] at hf
  exact ⟨isAckFrame_eq hf, isNackFrame_eq hf⟩

theorem neutral_disconnect (h : controlFrame own destination .disconnect = .ok frame) :
    Neutral frame :=
  have hf := fieldOf?_of_control rfl h
  ⟨isAckFrame_eq hf, isNackFrame_eq hf⟩

end Endpoint

def Occurrence.isSending : Occurrence → Bool
  | controlFrameSent | answerSent | repetition => true
  | _ => false

namespace Statistics

def countAll (s : Statistics) (counted : List Occurrence) : Statistics := counted.foldl count s

/-- The counter in which an occurrence is counted under its own name. -/
def counter (s : Statistics) : Occurrence → UInt64
  | .frameReceived => s.framesReceived
  | .controlFrameSent => s.controlFramesSent
  | .answerSent => s.answersSent
  | .repetition => s.repetitions
  | .duplicate => s.duplicates
  | .nackSent => s.nacksSent
  | .frameRejected => s.framesRejected
  | .intrusion => s.intrusions
  | .disconnect => s.disconnects
  | .timeout => s.timeouts
  | .linkRepeatIgnored => s.linkRepeatsIgnored

variable (s : Statistics) (counted counted' : List Occurrence) (o o' : Occurrence)

theorem countAll_append :
    s.countAll (counted ++ counted') = (s.countAll counted).countAll counted' :=
  List.foldl_append

theorem counter_count :
    (s.count o).counter o' = s.counter o' + UInt64.ofNat ([o].count o') := by
  cases o <;> cases o' <;> simp [count, counter]

theorem framesSent_count :
    (s.count o).framesSent = s.framesSent + UInt64.ofNat ([o].countP Occurrence.isSending) := by
  cases o <;> simp [count, Occurrence.isSending]

/-- Every counter goes up with each of its occurrences. -/
theorem counter_countAll :
    (s.countAll counted).counter o = s.counter o + UInt64.ofNat (counted.count o) := by
  induction counted generalizing s with
  | nil => simp [countAll]
  | cons o' counted ih =>
    rw [← List.singleton_append, countAll_append, ih, List.count_append, UInt64.ofNat_add,
      ← UInt64.add_assoc, ← counter_count]
    rfl

theorem framesSent_countAll :
    (s.countAll counted).framesSent =
      s.framesSent + UInt64.ofNat (counted.countP Occurrence.isSending) := by
  induction counted generalizing s with
  | nil => simp [countAll]
  | cons o counted ih =>
    rw [← List.singleton_append, countAll_append, ih, List.countP_append, UInt64.ofNat_add,
      ← UInt64.add_assoc, ← framesSent_count]
    rfl

end Statistics

structure Accounts (journal : List Activity) (counted : List Occurrence) : Prop where
  sent : (sentIn journal).length = counted.countP Occurrence.isSending
  acks : (sentIn journal).countP isAckFrame =
    (acceptedIn journal).length + counted.count .duplicate
  nacks : (sentIn journal).countP isNackFrame = counted.count .nackSent
  notices : (noticesIn journal).length = counted.count .disconnect

namespace Accounts

variable {journal journal' : List Activity} {counted counted' : List Occurrence} {frame : Frame}
  {own p : DeviceAddress} {n : SequenceNumber}

theorem append (h : Accounts journal counted) (h' : Accounts journal' counted') :
    Accounts (journal ++ journal') (counted ++ counted') := by
  constructor
  · rw [sentIn_append, List.length_append, List.countP_append, h.sent, h'.sent]
  · rw [sentIn_append, acceptedIn_append, List.countP_append, List.length_append,
      List.count_append, h.acks, h'.acks]
    omega
  · rw [sentIn_append, List.countP_append, List.count_append, h.nacks, h'.nacks]
  · rw [noticesIn_append, List.length_append, List.count_append, h.notices, h'.notices]

theorem nil : Accounts [] [] := ⟨rfl, rfl, rfl, rfl⟩

theorem performed (action : Action) : Accounts [.performed action] [] := ⟨rfl, rfl, rfl, rfl⟩

theorem closed (p : DeviceAddress) : Accounts [.closed p] [.disconnect] := ⟨rfl, rfl, rfl, rfl⟩

theorem requested {r : Request} (answer : Option Answer) (h : r.sequence = none) :
    Accounts [.requested r answer] [] := by
  refine ⟨rfl, ?_, rfl, rfl⟩
  simp [sentIn, Activity.sent?, acceptedIn, Activity.acceptance?, h]

theorem refused (frame : Frame) (fault : LinkFault) :
    Accounts [.offered frame (some fault)] [] := ⟨rfl, rfl, rfl, rfl⟩

theorem neutral {o : Occurrence} (ho : o.isSending = true) (h : Neutral frame) :
    Accounts [.offered frame none] [o] := by
  have hacks : [frame].countP isAckFrame = 0 := by simp [h.1]
  have hnacks : [frame].countP isNackFrame = 0 := by simp [h.2]
  cases o with
  | controlFrameSent | answerSent | repetition => exact ⟨rfl, hacks, hnacks, rfl⟩
  | _ => cases ho

theorem countP_of_control {field : ControlField} (hc : field.isControl = true)
    (h : Endpoint.controlFrame own p field = .ok frame) :
    [frame].countP isAckFrame = field.isAck.toNat ∧
      [frame].countP isNackFrame = field.isNack.toNat := by
  have hf := Endpoint.fieldOf?_of_control hc h
  rw [List.countP_singleton, List.countP_singleton, Endpoint.isAckFrame_eq hf,
    Endpoint.isNackFrame_eq hf]
  cases field.isAck <;> cases field.isNack <;> exact ⟨rfl, rfl⟩

theorem acknowledged {r : Request} (answer : Option Answer)
    (h : Endpoint.controlFrame own p (.ack n) = .ok frame) (hr : r.sequence = some n) :
    Accounts ([.offered frame none] ++ [.requested r answer]) [.controlFrameSent] := by
  obtain ⟨hacks, hnacks⟩ := countP_of_control rfl h
  have haccepted : acceptedIn [.requested r answer] = [(r, answer)] := by
    simp [acceptedIn, Activity.acceptance?, hr]
  refine ⟨rfl, ?_, hnacks, rfl⟩
  rw [acceptedIn_append, haccepted]
  exact hacks

theorem duplicate (h : Endpoint.controlFrame own p (.ack n) = .ok frame) :
    Accounts [.offered frame none] ([.controlFrameSent] ++ [.duplicate]) :=
  ⟨rfl, (countP_of_control rfl h).1, (countP_of_control rfl h).2, rfl⟩

theorem nack (h : Endpoint.controlFrame own p (.nack n) = .ok frame) :
    Accounts [.offered frame none] ([.controlFrameSent] ++ [.nackSent]) :=
  ⟨rfl, (countP_of_control rfl h).1, (countP_of_control rfl h).2, rfl⟩

end Accounts

namespace Turn

open Endpoint Dialogue

variable {L A α β : Type} {s : Statistics} {c c' : Course L A} {turn turn' : Turn L A α}
  {journal : List Activity}

/-- What was counted since the counters stood at `s` accounts for the journal of the turn. -/
def Booked (s : Statistics) (c : Course L A) : Prop :=
  ∃ counted, c.endpoint.statistics = s.countAll counted ∧ Accounts c.journal counted

theorem Booked.add (h : Booked s c) (counted : List Occurrence)
    (hs : c'.endpoint.statistics = c.endpoint.statistics.countAll counted)
    (hj : c'.journal = c.journal ++ journal) (ha : Accounts journal counted) : Booked s c' := by
  obtain ⟨before, hbefore, haccounts⟩ := h
  refine ⟨before ++ counted, ?_, ?_⟩
  · rw [hs, hbefore, Statistics.countAll_append]
  · rw [hj]
    exact haccounts.append ha

theorem Booked.of_eq (h : Booked s c) (hs : c'.endpoint.statistics = c.endpoint.statistics)
    (hj : c'.journal = c.journal) : Booked s c' :=
  h.add [] hs (hj.trans (List.append_nil _).symm) .nil

theorem Booked.count (h : Booked s c) (o : Occurrence) (ho : Accounts [] [o])
    (hs : c'.endpoint.statistics = c.endpoint.statistics.count o) (hj : c'.journal = c.journal) :
    Booked s c' :=
  h.add [o] hs (hj.trans (List.append_nil _).symm) ho

theorem booked_congr (hrun : turn.run c = turn'.run c') (h : Booked s (turn'.after c')) :
    Booked s (turn.after c) := by
  rw [after_congr hrun]
  exact h

section Sending

variable [Link L] {next : Unit → Turn L A α} {frame : Frame} {destination : DeviceAddress}
  {field : ControlField}

/-- After an offer the books have to be closed only if the frame has left. -/
theorem booked_offer (h : Booked s c)
    (hsent : ∀ c', c'.endpoint.statistics = c.endpoint.statistics →
      c'.journal = c.journal ++ [.offered frame none] → Booked s ((next ()).after c')) :
    Booked s ((offer frame >>= next).after c) := by
  rcases run_offer frame c with ⟨link, hrun⟩ | ⟨link, fault, hrun⟩
  · let c' : Course L A := {
      endpoint := { c.endpoint with link }
      journal := c.journal ++ [.offered frame none] }
    have hrest : (offer frame >>= next).run c = (next ()).run c' := by rw [run_bind, hrun]
    exact booked_congr hrest (hsent c' rfl rfl)
  · rw [after_of_error (by rw [run_bind, hrun])]
    exact h.add [] rfl rfl (.refused frame fault)

theorem booked_sendControl_bind (h : Booked s c)
    (hsent : ∀ frame c', controlFrame (Link.address c.endpoint.link) destination field = .ok frame →
      c'.endpoint.statistics = c.endpoint.statistics.count .controlFrameSent →
      c'.journal = c.journal ++ [.offered frame none] → Booked s ((next ()).after c')) :
    Booked s ((sendControl destination field >>= next).after c) := by
  obtain ⟨frame, hframe⟩ := exists_controlFrame (Link.address c.endpoint.link) destination field
  rcases run_sendControl hframe with
    ⟨link, hrun⟩ | ⟨link, fault, hrun⟩ | ⟨slot, link, fault, -, hrun⟩
  · let c' : Course L A := {
      endpoint := { c.endpoint with
        slot := ⟨.sending⟩, link, statistics := c.endpoint.statistics.count .controlFrameSent }
      journal := c.journal ++ [.offered frame none] }
    have hrest : (sendControl destination field >>= next).run c = (next ()).run c' := by
      rw [run_bind, hrun]
    exact booked_congr hrest (hsent frame c' hframe rfl rfl)
  · rw [after_of_error (by rw [run_bind, hrun])]
    exact h.add [] rfl rfl (.refused frame fault)
  · rw [after_of_error (by rw [run_bind, hrun])]
    exact h.of_eq rfl rfl

theorem booked_disconnect (destination : DeviceAddress) (h : Booked s c) :
    Booked s ((sendControl destination .disconnect).after c) := by
  rw [← bind_pure (sendControl destination .disconnect)]
  refine booked_sendControl_bind h ?_
  intro frame c' hframe hs hj
  change Booked s c'
  exact h.add [.controlFrameSent] hs hj (.neutral rfl (neutral_disconnect hframe))

theorem booked_sendPrimary (now : Instant) (h : Booked s c) :
    Booked s ((sendPrimary now).after c) := by
  rcases hq : c.endpoint.answers.entries with _ | ⟨entry, rest⟩
  · have hrun : (sendPrimary now).run c = .error (.action .noQueuedAnswer) c := by
      have hp : c.endpoint.answers.primary? = none := by rw [AnswerQueue.primary?, hq]; rfl
      simp only [sendPrimary, run_bind, run_endpoint, hp, run_throw]
    rwa [after_of_error hrun]
  have hrun := run_sendPrimary now hq
  rcases hf : c.endpoint.dialogue.primaryFrame (Link.address c.endpoint.link) entry with
    fault | frame
  · rw [hf] at hrun
    rw [after_of_error hrun]
    exact h.of_eq rfl rfl
  · rw [hf] at hrun
    refine booked_congr hrun (booked_offer h ?_)
    intro c' hs hj
    exact h.add [.answerSent] (congrArg (·.count .answerSent) hs) hj
      (.neutral rfl (neutral_numbered hf))

theorem booked_repeatPrimary (now : Instant) (h : Booked s c)
    (hn : ∀ frame, c.endpoint.answers.outstandingFrame? = some frame → Neutral frame) :
    Booked s ((repeatPrimary now).after c) := by
  rcases hf : c.endpoint.answers.outstandingFrame? with _ | frame
  · have hrun : (repeatPrimary now).run c = .error (.action .noOutstandingAnswer) c := by
      simp only [repeatPrimary, run_bind, run_endpoint, hf, run_throw]
    rwa [after_of_error hrun]
  · have hrun : (repeatPrimary now).run c = (do
        offer frame
        updateConnection (·.repeated now)
        count .repetition).run c := by
      simp only [repeatPrimary, run_bind, run_endpoint, hf]
    refine booked_congr hrun (booked_offer h ?_)
    intro c' hs hj
    exact h.add [.repetition] (congrArg (·.count .repetition) hs) hj (.neutral rfl (hn frame hf))

end Sending

section Performing

variable [Application A] {p : DeviceAddress} {n : SequenceNumber} {t : Telegram} {r : Request}

omit [Application A] in
theorem booked_peer {next : DeviceAddress → Turn L A α} (h : Booked s c)
    (hp : ∀ p, Booked s ((next p).after c)) : Booked s ((peer >>= next).after c) := by
  rcases hpeer : c.endpoint.connection.peer? with _ | p
  · have hrun : (peer >>= next).run c = .error .notConnected c := by
      simp only [peer, run_bind, run_endpoint, hpeer, run_throw]
    rwa [after_of_error hrun]
  · exact booked_congr (by rw [run_bind, run_peer hpeer]) (hp p)

theorem booked_closeConnection (p : DeviceAddress) (h : Booked s c) : Booked s (closing p c) :=
  h.add [.disconnect] rfl rfl (.closed p)

omit [Application A] in
theorem after_queueAnswer (t : Telegram) (answer? : Option Answer) (c : Course L A) :
    ∃ answers, (queueAnswer t answer?).after c =
      { c with endpoint := { c.endpoint with answers } } := by
  rcases answer? with _ | answer
  · exact ⟨c.endpoint.answers, rfl⟩
  rcases hstage : c.endpoint.answers.stage t.source t.priority answer with fault | answers
  · have hrun : (queueAnswer t (some answer)).run c = .error (.busy fault) c := by
      simp only [queueAnswer, run_bind, run_endpoint, hstage, run_require_error]
    exact ⟨c.endpoint.answers, after_of_error hrun⟩
  · have hrun : (queueAnswer t (some answer)).run c = .ok ()
        { c with endpoint := { c.endpoint with answers } } := by
      simp only [queueAnswer, run_bind, run_endpoint, hstage, run_require_ok, run_updateAnswers]
    exact ⟨answers, after_of_ok hrun⟩

theorem booked_acceptance {own : DeviceAddress} {frame : Frame} (now : Instant) (h : Booked s c)
    (hframe : controlFrame own p (.ack n) = .ok frame) (hr : r.sequence = some n)
    (hs : c'.endpoint.statistics = c.endpoint.statistics.count .controlFrameSent)
    (hj : c'.journal = c.journal ++ [.offered frame none]) :
    Booked s ((acceptance t r n now).after c') := by
  let answer := (Application.respond c'.endpoint.application r).1
  let accepted : Course L A := { c' with
    endpoint := { c'.endpoint with connection := c'.endpoint.connection.acceptRequest n now } }
  have hrun : (acceptance t r n now).run c' = (queueAnswer t answer).run (asked r accepted) := by
    unfold acceptance
    simp only [run_bind, run_updateConnection, run_ask]
    rfl
  obtain ⟨answers, hafter⟩ := after_queueAnswer t answer (asked r accepted)
  rw [after_congr hrun, hafter]
  refine h.add [.controlFrameSent] hs ?_ (.acknowledged answer hframe hr)
  rw [← List.append_assoc, ← hj]
  rfl

variable [Link L]

theorem booked_deliver (t? : Option Telegram) (n : SequenceNumber) (now : Instant)
    (h : Booked s c) : Booked s ((perform t? now (.deliver n)).after c) := by
  rcases t? with _ | t
  · exact h
  rcases hreq : Request.ofTelegram? t (some n) with _ | r
  · have hrun : (perform (some t) now (.deliver n)).run c = .error (.frame .missingCommand) c := by
      simp only [perform, Turn.deliver, hreq, run_throw]
    rwa [after_of_error hrun]
  · refine booked_congr (run_deliver hreq now c) (booked_sendControl_bind h ?_)
    intro frame c' hframe hs hj
    exact booked_acceptance now h hframe (Request.sequence_of_telegram hreq) hs hj

theorem booked_perform (t? : Option Telegram) (now : Instant) (action : Action) (h : Booked s c)
    (hn : ∀ frame, c.endpoint.answers.outstandingFrame? = some frame → Neutral frame) :
    Booked s ((perform t? now action).after c) := by
  cases action with
  | ignore => exact h
  | connect p => exact h.of_eq rfl rfl
  | deliver n => exact booked_deliver t? n now h
  | ackAgain n =>
    refine booked_peer h fun p => booked_sendControl_bind h ?_
    intro frame c' hframe hs hj
    exact h.add [.controlFrameSent, .duplicate] (congrArg (·.count .duplicate) hs) hj
      (.duplicate hframe)
  | refuse n =>
    refine booked_peer h fun p => booked_sendControl_bind h ?_
    intro frame c' hframe hs hj
    exact h.add [.controlFrameSent, .nackSent] (congrArg (·.count .nackSent) hs) hj (.nack hframe)
  | closeSilently => exact booked_peer h fun p => booked_closeConnection p h
  | closeAndTell =>
    refine booked_peer h fun p => ?_
    exact booked_congr (by rw [run_bind, run_closeConnection])
      (booked_disconnect p (booked_closeConnection p h))
  | sendAnswer => exact booked_sendPrimary now h
  | finishAnswer => exact h.of_eq rfl rfl
  | repeatAnswer => exact booked_repeatPrimary now h hn
  | reject p =>
    have hcount : Booked s { c with endpoint := { c.endpoint with
        statistics := c.endpoint.statistics.count .intrusion } } :=
      h.count .intrusion ⟨rfl, rfl, rfl, rfl⟩ rfl rfl
    exact booked_congr (by simp only [perform, run_bind, run_count])
      (booked_disconnect p hcount)

theorem booked_dispatch (event : Event) (t? : Option Telegram) (now : Instant) (h : Booked s c)
    (hn : ∀ frame, c.endpoint.answers.outstandingFrame? = some frame → Neutral frame) :
    Booked s ((dispatch event t? now).after c) := by
  have hperform := booked_perform t? now (c.endpoint.dialogue.react event).action h hn
  rcases hrun : (perform t? now (c.endpoint.dialogue.react event).action).run c with
    ⟨_, c'⟩ | ⟨fault, c'⟩
  · rw [after_of_ok hrun] at hperform
    rw [dispatch_of_ok rfl hrun]
    exact hperform.add [] rfl rfl (.performed _)
  · rw [after_of_error hrun] at hperform
    rwa [dispatch_of_error rfl hrun]

theorem booked_replyDirectly (t : Telegram) (h : Booked s c) :
    Booked s ((replyDirectly t).after c) := by
  rcases hreq : Request.ofTelegram? t none with _ | r
  · have hrun : (replyDirectly t).run c = .error (.frame .missingCommand) c := by
      simp only [replyDirectly, hreq, run_throw]
    rwa [after_of_error hrun]
  have hasked : Booked s (asked r c) :=
    h.add [] rfl rfl (.requested _ (Request.sequence_of_telegram hreq))
  have hrun := run_replyDirectly hreq c
  rcases ha : (Application.respond c.endpoint.application r).1 with _ | answer
  · rw [ha] at hrun
    rwa [after_of_ok hrun]
  rcases hf : answerFrame (Link.address c.endpoint.link) r.source r.priority
      (.unnumbered answer.commandHigh) answer with fault | frame
  · simp only [ha, hf] at hrun
    rwa [after_of_error hrun]
  · simp only [ha, hf] at hrun
    refine booked_congr hrun (booked_offer hasked ?_)
    intro c' hs hj
    exact hasked.add [.answerSent] (congrArg (·.count .answerSent) hs) hj
      (.neutral rfl (neutral_unnumbered hf))

end Performing

section Calling

variable [Link L] [Application A] {e : Endpoint L A} {max : UInt8}

theorem neutral_of_outstanding {d : Dialogue} (hc : d.Consistent max) {frame : Frame}
    (h : d.answers.outstandingFrame? = some frame) : Neutral frame := by
  obtain ⟨entry, hmem, hframe⟩ := mem_of_outstandingFrame h
  rcases hs : d.connection.state with _ | _ | _
  · rw [(hc.closed hs).answers] at hmem
    exact absurd hmem List.not_mem_nil
  · rw [((hc.openIdle hs).answers entry hmem).frame?_eq] at hframe
    cases hframe
  · exact neutral_of_numberOf? (by rw [Awaits.number ⟨hs, h⟩ hc]; rfl)

theorem booked_accept {t : Telegram} {field : ControlField} (now : Instant)
    (hc : e.dialogue.Consistent max) :
    Booked e.statistics ((accept t field now).after { endpoint := e }) := by
  have hstart : Booked e.statistics { endpoint := noted e t } :=
    ⟨[.frameReceived], rfl, ⟨rfl, rfl, rfl, rfl⟩⟩
  rcases hf : e.wayOutFree with _ | _
  · rw [after_of_ok (run_accept_of_wait t field now hf)]
    exact ⟨[], rfl, .nil⟩
  rcases he : field.event? t.source with _ | event
  · rw [after_congr (run_accept_of_unconnected now hf he), after_bind_pure]
    exact booked_replyDirectly t hstart
  · rw [after_congr (run_accept_of_event now hf he), after_bind_pure]
    exact booked_dispatch event (some t) now hstart fun frame => neutral_of_outstanding hc

theorem booked_duty (now : Instant) (h : Booked s c)
    (hn : ∀ frame, c.endpoint.answers.outstandingFrame? = some frame → Neutral frame) :
    Booked s ((duty now).after c) := by
  let late : Course L A := { c with
    endpoint := { c.endpoint with statistics := c.endpoint.statistics.count .timeout } }
  have hlate : Booked s late := h.count .timeout ⟨rfl, rfl, rfl, rfl⟩ rfl rfl
  have hrun : (duty now).run c =
      if c.endpoint.connection.idleOverdue now then (dispatch .idleTimeout none now).run late
      else if c.endpoint.connection.state = .openIdle && c.endpoint.answers.primaryReady &&
        Link.idle c.endpoint.link then (dispatch .answerReady none now).run c
      else if c.endpoint.connection.ackOverdue now then (dispatch .ackTimeout none now).run late
      else (pure () : Turn L A Unit).run c := by
    simp only [duty, run_bind, run_endpoint]
    split_ifs <;> simp only [run_bind, run_count] <;> rfl
  split_ifs at hrun
  · exact booked_congr hrun (booked_dispatch _ _ now hlate hn)
  · exact booked_congr hrun (booked_dispatch _ _ now h hn)
  · exact booked_congr hrun (booked_dispatch _ _ now hlate hn)
  · exact booked_congr hrun h

theorem booked_poll (now : Instant) (hc : e.dialogue.Consistent max) :
    Booked e.statistics ((Turn.poll now).after { endpoint := e }) := by
  rcases hf : e.wayOutFree with _ | _
  · obtain ⟨link, hrun⟩ := run_poll_of_occupied now hf
    rw [after_of_ok hrun]
    exact ⟨[], rfl, .nil⟩
  · refine booked_congr (run_poll_of_free now hf) (booked_duty now ⟨[], rfl, .nil⟩ ?_)
    intro frame h
    exact neutral_of_outstanding (consistent_released hc) h

theorem booked_hangUp (now : Instant) (hc : e.dialogue.Consistent max) :
    Booked e.statistics ((Turn.hangUp now).after { endpoint := e }) := by
  rcases ho : e.connection.isOpen with _ | _
  · rw [after_of_error (run_hangUp_of_closed now ho)]
    exact ⟨[], rfl, .nil⟩
  rcases hf : e.wayOutFree with _ | _
  · obtain ⟨link, hrun⟩ := run_hangUp_of_occupied now ho hf
    rw [after_of_error hrun]
    exact ⟨[], rfl, .nil⟩
  · refine booked_congr (run_hangUp_of_free now ho hf) (booked_dispatch _ _ now ⟨[], rfl, .nil⟩ ?_)
    exact fun frame => neutral_of_outstanding hc

end Calling

end Turn

namespace Endpoint

open Turn

variable {L A : Type} [Link L] [Application A] {e : Endpoint L A} {call : Call}

def Tallies (e : Endpoint L A) (call : Call) (counted : List Occurrence) : Prop :=
  (e.after call).statistics = e.statistics.countAll counted ∧ Accounts (e.journal call) counted

theorem exists_tallies_receive (hr : e.Reachable) (frame : Frame) (now : Instant) :
    ∃ counted, e.Tallies (.receive frame now) counted := by
  have hc := hr.dialogue_consistent
  change ∃ counted, (e.receive frame now).endpoint.statistics = _ ∧
    Accounts (e.receive frame now).journal counted
  have hreception := e.reception frame now
  generalize hreport : e.receive frame now = report at hreception
  cases hreception with
  | malformed => exact ⟨[.frameRejected], rfl, rfl, rfl, rfl, rfl⟩
  | repetition => exact ⟨[.linkRepeatIgnored], rfl, rfl, rfl, rfl, rfl⟩
  | broadcast => exact ⟨[], rfl, rfl, rfl, rfl, rfl⟩
  | group => exact ⟨[], rfl, rfl, rfl, rfl, rfl⟩
  | foreign => exact ⟨[], rfl, .nil⟩
  | unreadable => exact ⟨[.frameRejected], rfl, rfl, rfl, rfl, rfl⟩
  | deferred => exact ⟨[], rfl, .nil⟩
  | @taken t field _ hears =>
    have hbooked : Booked e.statistics ((Turn.receive frame now).after { endpoint := e }) :=
      booked_congr (run_receive_of_hears hears now) (booked_accept now hc)
    rw [← hreport, Endpoint.receive, report_journal, report_endpoint]
    exact hbooked

/-- Every call of a reachable endpoint tallies, with or without a fault. -/
theorem exists_tallies (hr : e.Reachable) (call : Call) : ∃ counted, e.Tallies call counted := by
  have hc := hr.dialogue_consistent
  cases call with
  | receive frame now => exact exists_tallies_receive hr frame now
  | serve now =>
    rcases h : Link.received e.link with _ | frame
    · refine ⟨[], ?_, ?_⟩
      · simp only [after, serve, h]
        rfl
      · simp only [journal, serve, h]
        exact .nil
    · obtain ⟨hj, link, ha⟩ := serve_of_received now h
      obtain ⟨counted, hs, haccounts⟩ := exists_tallies_receive hr frame now
      refine ⟨counted, ?_, ?_⟩
      · rw [ha]
        exact hs
      · rwa [hj]
  | poll now =>
    unfold Tallies
    rw [show e.journal (.poll now) = _ from report_journal .., after, Endpoint.poll,
      report_endpoint]
    exact booked_poll now hc
  | hangUp now =>
    unfold Tallies
    rw [show e.journal (.hangUp now) = _ from report_journal .., after, Endpoint.hangUp,
      report_endpoint]
    exact booked_hangUp now hc

end Endpoint

end BusTransport
