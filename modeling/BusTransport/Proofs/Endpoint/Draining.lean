import BusTransport.Proofs.Endpoint.FaultOrigin
import BusTransport.Proofs.Endpoint.Posting
import BusTransport.Proofs.Endpoint.Recovery

/-! # Draining the queue

No queued answer is stranded. While no answer is outstanding, the next poll that is free to send
takes the primary answer out of the queue or sends it, whatever has happened to the queue before.
Polls and acknowledgements in turn therefore empty the queue in its order.
-/

namespace BusTransport

namespace AnswerQueue

theorem entries_release (q : AnswerQueue) : q.release.entries =
    q.entries.map PendingAnswer.released := rfl

/-- An answer that was not sent can be sent as soon as the acknowledgements have left. -/
theorem primaryReady_release {q : AnswerQueue} {entry : PendingAnswer} {rest : List PendingAnswer}
    (hq : q.entries = entry :: rest) (hunsent : entry.Unsent) :
    q.release.primaryReady = true := by
  simp [primaryReady, primaryPhase?, primary?, entries_release, hq, hunsent.phase_released]

end AnswerQueue

namespace Endpoint

open Turn Dialogue

theorem exists_answerFrame {answer : Answer} (h : answer.data.length ≤ 14)
    (own destination : DeviceAddress) (priority : Priority) (field : ControlField) :
    ∃ frame, answerFrame own destination priority field answer = .ok frame := by
  have hfits : answer.fits = true := by rwa [Answer.fits, decide_eq_true_iff]
  exact (answerFrame_isOk_iff ..).mpr hfits

theorem answerFrame_of_long {answer : Answer} (h : 14 < answer.data.length)
    (own destination : DeviceAddress) (priority : Priority) (field : ControlField) :
    answerFrame own destination priority field answer =
      .error (.payloadTooLong (answer.data.length + 1)) := by
  rcases hframe : answerFrame own destination priority field answer with fault | frame
  · rw [(answerFrame_error hframe).2]
  · have hfits : answer.fits = true := (answerFrame_isOk_iff ..).mp ⟨frame, hframe⟩
    rw [Answer.fits, decide_eq_true_iff] at hfits
    exact absurd hfits (Nat.not_le.mpr h)

variable {L A : Type} [Link L]

/-- The course in which a poll turns to the primary answer. -/
def answering (e : Endpoint L A) : Course L A :=
  { endpoint := { e.settled with
    answers := e.answers.release, statistics := dutyStatistics e .answerReady } }

structure MaySend (own : DeviceAddress) (now : Instant) (e : Endpoint L A) : Prop where
  awake : e.connection.idleOverdue now = false
  works : Link.Works own e.link
  idle : Link.idle e.settled.link = true

variable [Application A] {own p : DeviceAddress} {now : Instant} {e e' : Endpoint L A}
  {entry : PendingAnswer} {rest : List PendingAnswer}

/-- A poll sends the primary answer, and no more, under the number that is next. -/
structure Posts (own : DeviceAddress) (now : Instant) (entry : PendingAnswer)
    (rest : List PendingAnswer) (frame : Frame) (e : Endpoint L A) : Prop where
  frame_eq : answerFrame own entry.destination entry.priority
    (.numbered e.connection.sendSequence entry.answer.commandHigh) entry.answer = .ok frame
  outcome_eq : e.outcome (.poll now) = .ok none
  journal_eq : e.journal (.poll now) = [.offered frame none, .performed .sendAnswer]
  state : (e.after (.poll now)).connection.state = .openWait
  peer?_eq : (e.after (.poll now)).connection.peer? = e.connection.peer?
  sendSequence_eq : (e.after (.poll now)).connection.sendSequence = e.connection.sendSequence
  answers_eq : (e.after (.poll now)).answers =
    ⟨entry.sentAs frame :: (AnswerQueue.mk rest).release.entries⟩

structure Discards (now : Instant) (entry : PendingAnswer) (rest : List PendingAnswer)
    (e : Endpoint L A) : Prop where
  outcome_eq : e.outcome (.poll now) =
    .error (.frame (.payloadTooLong (entry.answer.data.length + 1)))
  journal_eq : e.journal (.poll now) = []
  connection_eq : (e.after (.poll now)).connection = e.connection
  answers_eq : (e.after (.poll now)).answers = (AnswerQueue.mk rest).release

theorem due?_of_maySend (hr : e.Reachable) (hs : e.connection.state = .openIdle)
    (hq : e.answers.entries = entry :: rest) (hm : e.MaySend own now) :
    e.due? now = some .answerReady := by
  have hf := (settled_of_works hr.slot_ne_acquired hm.works).1
  have hmem : entry ∈ e.answers.entries := by
    rw [hq]
    exact List.mem_cons_self
  have hunsent : entry.Unsent :=
    (hr.dialogue_consistent.openIdle hs).answers entry hmem
  have hready := AnswerQueue.primaryReady_release hq hunsent
  rw [due?_of_free hf hm.awake, if_pos ⟨hs, hready, hm.idle⟩]

omit [Application A] in
theorem react_answering (hs : e.connection.state = .openIdle) :
    e.answering.endpoint.dialogue.react .answerReady = ⟨.openWait, .sendAnswer⟩ := if_pos hs

theorem run_perform_answering (hq : e.answers.entries = entry :: rest) (now : Instant) :
    (perform none now .sendAnswer).run e.answering =
      match answerFrame e.own entry.destination entry.priority
        (.numbered e.connection.sendSequence entry.answer.commandHigh) entry.answer with
      | .error fault => .error (.frame fault) { e.answering with
          endpoint := { e.answering.endpoint with answers := (AnswerQueue.mk rest).release } }
      | .ok frame => (do
        offer frame
        updateAnswers (·.markSending frame)
        updateConnection (·.awaitAck now)
        count .answerSent).run e.answering := by
  have hq' : e.answering.endpoint.answers.entries =
      entry.released :: (AnswerQueue.mk rest).release.entries :=
    congrArg (List.map _) hq
  have hperform : (perform none now .sendAnswer).run e.answering = _ := run_sendPrimary now hq'
  exact hperform

theorem exists_posts (hr : e.Reachable) (hs : e.connection.state = .openIdle)
    (hq : e.answers.entries = entry :: rest) (hm : e.MaySend own now)
    (hfits : entry.answer.data.length ≤ 14) : ∃ frame, e.Posts own now entry rest frame := by
  obtain ⟨-, -, hlink⟩ := settled_of_works hr.slot_ne_acquired hm.works
  obtain ⟨frame, hframe⟩ := exists_answerFrame hfits own entry.destination entry.priority
    (.numbered e.connection.sendSequence entry.answer.commandHigh)
  obtain ⟨link, hoffer⟩ := run_offer_of_works (c := e.answering) hlink frame
  have hown : e.own = own := hlink.address_eq (.refl _)
  have hperform := run_perform_answering hq now
  rw [hown, hframe] at hperform
  simp only [run_bind, hoffer, run_updateAnswers, run_updateConnection, run_count] at hperform
  have hrun := (run_poll_of_duty (due?_of_maySend hr hs hq hm)).trans
    (run_dispatch_of_ok (react_answering hs) hperform)
  have hreport : e.poll now = _ := report_of_run_ok hrun
  refine ⟨frame, hframe, ?_, ?_, ?_, ?_, ?_, ?_⟩
  · rw [outcome, hreport]
    rfl
  · rw [journal, hreport]
    rfl
  · rw [after, hreport]
  · rw [after, hreport]
    exact (Connection.peer?_of_isOpen (Connection.isOpen_of_openIdle hs)).symm
  · rw [after, hreport]
    rfl
  · rw [after, hreport]
    change AnswerQueue.markSending ⟨e.answers.entries.map _⟩ frame = _
    rw [hq]
    rfl

theorem discards_of_due (hdue : e.due? now = some .answerReady)
    (hq : e.answers.entries = entry :: rest) (hlong : 14 < entry.answer.data.length) :
    e.Discards now entry rest := by
  have hperform := run_perform_answering hq now
  rw [answerFrame_of_long hlong] at hperform
  have hrun := (run_poll_of_duty hdue).trans
    (run_dispatch_of_error (react_answering (of_due_answerReady hdue).1) hperform)
  have hreport : e.poll now = _ := report_of_run_error hrun
  constructor
  · rw [outcome, hreport]
    rfl
  · rw [journal, hreport]
    rfl
  · rw [after, hreport]
    rfl
  · rw [after, hreport]

theorem discards_of_long (hr : e.Reachable) (hs : e.connection.state = .openIdle)
    (hq : e.answers.entries = entry :: rest) (hm : e.MaySend own now)
    (hlong : 14 < entry.answer.data.length) : e.Discards now entry rest :=
  discards_of_due (due?_of_maySend hr hs hq hm) hq hlong

structure Acknowledged (own peer : DeviceAddress) (call : Call) (e : Endpoint L A) : Prop where
  works : Link.Works own e.link
  heard : ∃ frame t, e.handed? call = some frame ∧
    e.Hears frame t (.ack e.connection.sendSequence) ∧ t.source = peer

theorem Acknowledged.finishes {call : Call} (h : e.Acknowledged own p call) (hr : e.Reachable)
    (hs : e.connection.state = .openWait) (hp : e.connection.peer? = some p) :
    e.journal call = [.performed .finishAnswer] ∧ (e.after call).dialogue =
      ⟨{ e.connection.acknowledged call.now with state := .openIdle }, e.answers.dropPrimary⟩ := by
  obtain ⟨frame, t, hframe, hears, rfl⟩ := h.heard
  have hf := (settled_of_works hr.slot_ne_acquired h.works).1
  have hevent : e.event? call = some (.ack t.source e.connection.sendSequence) :=
    (event?_of_handed hframe).trans (heard?_of_hears hears hf)
  have hready : e.ready call = e.dialogue := by
    cases call with
    | poll now => cases hframe
    | _ => rfl
  have hstep := (e.proceeds call).step
  rw [hevent, hready] at hstep
  generalize hd : (e.after call).dialogue = d' at hstep
  cases hstep with
  | move hmove => exact hmove.finishes hs hp

/-- A poll that may send, and the acknowledgement of the peer if the poll has sent an answer. Link,
application and counters may change before each of them. -/
inductive Round (own peer : DeviceAddress) (e : Endpoint L A) :
    List (Occasion L A) → Endpoint L A → Prop
  | discard {b now} : Run e [] b → b.MaySend own now →
      (b.after (.poll now)).connection.state = .openIdle →
      Round own peer e [⟨b, .poll now⟩] (b.after (.poll now))
  | send {b now a call} : Run e [] b → b.MaySend own now →
      (b.after (.poll now)).connection.state = .openWait → Run (b.after (.poll now)) [] a →
      a.Acknowledged own peer call → Round own peer e [⟨b, .poll now⟩, ⟨a, call⟩] (a.after call)

inductive Rounds (own peer : DeviceAddress) :
    Nat → Endpoint L A → List (Occasion L A) → Endpoint L A → Prop
  | nil {a} : Rounds own peer 0 a [] a
  | cons {n a os b os' c} : Round own peer a os b → Rounds own peer n b os' c →
      Rounds own peer (n + 1) a (os ++ os') c

/-- The frames of answers under consecutive numbers; an answer that fits no telegram has none, and
takes no number. -/
def framesOf (own : DeviceAddress) : SequenceNumber → List PendingAnswer → List Frame
  | _, [] => []
  | n, entry :: rest =>
    match answerFrame own entry.destination entry.priority
      (.numbered n entry.answer.commandHigh) entry.answer with
    | .ok frame => frame :: framesOf own (SequenceNumber.next n) rest
    | .error _ => framesOf own n rest

theorem framesOf_cons {n : SequenceNumber} {frame : Frame}
    (h : answerFrame own entry.destination entry.priority
      (.numbered n entry.answer.commandHigh) entry.answer = .ok frame) :
    framesOf own n (entry :: rest) = frame :: framesOf own (SequenceNumber.next n) rest := by
  rw [framesOf, h]

theorem framesOf_cons_of_long (h : 14 < entry.answer.data.length) (n : SequenceNumber) :
    framesOf own n (entry :: rest) = framesOf own n rest := by
  rw [framesOf, answerFrame_of_long h]

/-- The frames of answers do not depend on how far the answers have come. -/
theorem framesOf_release (n : SequenceNumber) (entries : List PendingAnswer) :
    framesOf own n (entries.map PendingAnswer.released) = framesOf own n entries := by
  induction entries generalizing n with
  | nil => rfl
  | cons entry rest ih => simp only [List.map_cons, framesOf, PendingAnswer.released, ih]

def offered (os : List (Occasion L A)) : List (Frame × Option LinkFault) :=
  os.flatMap fun o => offeringsIn o.journal

/-- What a round does about a queue with a primary answer: it is gone, and its frame, if it has one,
was sent under the number that was next. -/
structure Advances (own : DeviceAddress) (entry : PendingAnswer) (rest : List PendingAnswer)
    (e : Endpoint L A) (os : List (Occasion L A)) (e' : Endpoint L A) : Prop where
  reachable : e'.Reachable
  state : e'.connection.state = .openIdle
  peer?_eq : e'.connection.peer? = e.connection.peer?
  answers_eq : e'.answers = (AnswerQueue.mk rest).release
  offered_eq : ∃ frames, offered os = frames.map (·, none) ∧
    ∀ later, framesOf own e.connection.sendSequence (entry :: later) =
      frames ++ framesOf own e'.connection.sendSequence later

theorem Round.advances {os : List (Occasion L A)} (h : Round own p e os e') (hr : e.Reachable)
    (hs : e.connection.state = .openIdle) (hp : e.connection.peer? = some p)
    (hq : e.answers.entries = entry :: rest) : Advances own entry rest e os e' := by
  cases h with
  | @discard b now hb hm hstate =>
    have hreachable := hr.run hb
    obtain ⟨link, application, statistics, rfl⟩ := hb.eq_of_nil
    have hlong : 14 < entry.answer.data.length := by
      by_contra hle
      obtain ⟨frame, h⟩ := exists_posts hreachable hs hq hm (Nat.not_lt.mp hle)
      cases h.state.symm.trans hstate
    have h := discards_of_long hreachable hs hq hm hlong
    refine ⟨hreachable.run (.call (.poll now) .start), hstate, ?_, h.answers_eq, [], ?_, ?_⟩
    · rw [h.connection_eq]
    · simp [offered, Occasion.journal, h.journal_eq, offeringsIn]
    · intro later
      rw [h.connection_eq, framesOf_cons_of_long hlong]
      rfl
  | @send b now a call hb hm hstate ha hack =>
    have hreachable := hr.run hb
    obtain ⟨link, application, statistics, rfl⟩ := hb.eq_of_nil
    have hfits : entry.answer.data.length ≤ 14 := by
      by_contra hle
      have h := discards_of_long hreachable hs hq hm (Nat.not_le.mp hle)
      rw [h.connection_eq] at hstate
      cases hs.symm.trans hstate
    obtain ⟨frame, h⟩ := exists_posts hreachable hs hq hm hfits
    have hreachable' := (hreachable.run (.call (.poll now) .start)).run ha
    obtain ⟨link', application', statistics', rfl⟩ := ha.eq_of_nil
    obtain ⟨hjournal, hdialogue⟩ :=
      hack.finishes hreachable' hstate (h.peer?_eq.trans hp)
    have hconnection := congrArg Dialogue.connection hdialogue
    have hanswers := congrArg Dialogue.answers hdialogue
    have hsequence := (congrArg (·.sendSequence) hconnection).trans
      (sendSequence_acknowledged _ call.now)
    refine ⟨hreachable'.run (.call call .start), congrArg (·.state) hconnection, ?_, ?_,
      [frame], ?_, ?_⟩
    · have hlast := Connection.peer?_of_isOpen (Connection.isOpen_of_openWait hstate)
      exact (congrArg (·.peer?) hconnection).trans (hlast.symm.trans h.peer?_eq)
    · refine hanswers.trans ?_
      rw [h.answers_eq]
      rfl
    · simp [offered, Occasion.journal, h.journal_eq, hjournal, offeringsIn, Activity.offering?]
    · intro later
      rw [show (Endpoint.after _ call).connection.sendSequence = _ from hsequence,
        h.sendSequence_eq, framesOf_cons h.frame_eq]
      rfl

/-- Rounds take the answers out of the queue in its order. -/
theorem Rounds.drains {n : Nat} {os : List (Occasion L A)} (h : Rounds own p n e os e')
    (hr : e.Reachable) (hs : e.connection.state = .openIdle)
    (hp : e.connection.peer? = some p) (hn : n ≤ e.answers.size) :
    e'.connection.state = .openIdle ∧
      e'.answers.release.entries = e.answers.release.entries.drop n ∧
      offered os =
        (framesOf own e.connection.sendSequence (e.answers.entries.take n)).map (·, none) := by
  induction h with
  | nil => exact ⟨hs, rfl, rfl⟩
  | @cons n a os b os' c hround _ ih =>
    rcases hq : a.answers.entries with _ | ⟨entry, rest⟩
    · rw [AnswerQueue.size, hq] at hn
      cases hn
    obtain ⟨hr', hs', hpeer, ha, frames, hoffered, hframes⟩ := hround.advances hr hs hp hq
    have hn' : n ≤ b.answers.size := by
      rw [AnswerQueue.size, hq, List.length_cons] at hn
      rw [ha, AnswerQueue.size, AnswerQueue.entries_release, List.length_map]
      exact Nat.le_of_succ_le_succ hn
    obtain ⟨hstate, hentries, hlater⟩ := ih hr' hs' (hpeer.trans hp) hn'
    refine ⟨hstate, ?_, ?_⟩
    · rw [hentries, ha, AnswerQueue.release_release, a.answers.entries_release, hq]
      rfl
    · have happend : offered (os ++ os') = offered os ++ offered os' := List.flatMap_append
      rw [happend, hoffered, hlater, ha, AnswerQueue.entries_release, ← List.map_take,
        framesOf_release, ← List.map_append, ← hframes, List.take_succ_cons]

end Endpoint

open Endpoint in
/-- No queued answer is stranded. While no answer is outstanding, a poll that may send posts the
primary answer or, if that is too long, discards it. As many rounds of such polls and of
acknowledgements as there are answers empty the queue in its order. -/
theorem drains_of_openIdle {L A : Type} [Link L] [Application A] {e : Endpoint L A}
    (hr : e.Reachable) (hs : e.connection.state = .openIdle) :
    (∀ {entry rest own now}, e.answers.entries = entry :: rest → e.MaySend own now →
      (entry.answer.data.length ≤ 14 → ∃ frame, e.Posts own now entry rest frame) ∧
        (14 < entry.answer.data.length → e.Discards now entry rest)) ∧
    ∀ {own p n os e'}, e.connection.peer? = some p → n ≤ e.answers.size →
      Rounds own p n e os e' →
      e'.connection.state = .openIdle ∧
        e'.answers.release.entries = e.answers.release.entries.drop n ∧
        (n = e.answers.size → e'.answers.entries = []) ∧
        offered os =
          (framesOf own e.connection.sendSequence (e.answers.entries.take n)).map (·, none) := by
  refine ⟨fun hq hm => ⟨exists_posts hr hs hq hm, discards_of_long hr hs hq hm⟩,
    fun hp hn hrounds => ?_⟩
  obtain ⟨hstate, hentries, hoffered⟩ := hrounds.drains hr hs hp hn
  refine ⟨hstate, hentries, fun hall => ?_, hoffered⟩
  rw [hall, List.drop_of_length_le (by simp [AnswerQueue.size, AnswerQueue.entries_release]),
    AnswerQueue.entries_release] at hentries
  exact List.map_eq_nil_iff.mp hentries

namespace Sample

/-- The host has an answer to the first request, and one that is too long to the second. -/
def backlog : Endpoint RecordingLink Responder :=
  let e : Endpoint RecordingLink Responder := { host.afterAll (exchange.take 2) with
    application := .fixed ⟨0x340, List.replicate 15 0⟩ }
  e.after (.receive (request 1) 2)

theorem reachable_backlog : backlog.Reachable := by
  let e := host.afterAll (exchange.take 2)
  have hrun : Run e [] { e with application := .fixed ⟨0x340, List.replicate 15 0⟩ } :=
    .outside _ _ _ .start
  exact ((reachable _).run hrun).run (.call (.receive (request 1) 2) .start)

def receipt : Telegram :=
  ⟨.system, false, guest, .individual host.link.address, Telegram.ownRoutingCounter,
    (ControlField.ack 0).encode, [], Nat.zero_le _⟩

end Sample

open Sample Endpoint in
theorem drains_backlog : ∃ os e' first,
    backlog.Reachable ∧ backlog.connection.state = .openIdle ∧ backlog.answers.size = 2 ∧
    (∃ entry rest, backlog.answers.entries = entry :: rest ∧
      backlog.MaySend host.link.address 3 ∧
      backlog.Posts host.link.address 3 entry rest first) ∧
    Rounds host.link.address guest 2 backlog os e' ∧ e'.answers.entries = [] ∧
    offered os = [(first, none)] := by
  have hs : backlog.connection.state = .openIdle := rfl
  have hworks {l : RecordingLink} (ha : l.address = host.link.address)
      (hl : l.sending = false) : Link.Works host.link.address l := ha ▸ RecordingLink.works hl
  obtain ⟨hpost, hrounds⟩ := drains_of_openIdle reachable_backlog hs
  have hfirst : backlog.MaySend host.link.address 3 := ⟨rfl, hworks rfl rfl, rfl⟩
  obtain ⟨frame, hposts⟩ := (hpost rfl hfirst).1 (by decide)
  have hack : (backlog.after (.poll 3)).Acknowledged host.link.address guest
      (.receive (Sample.control (.ack 0)) 4) :=
    ⟨hworks rfl rfl, _, receipt, rfl, ⟨rfl, rfl, rfl, rfl, fun h => nomatch h⟩, rfl⟩
  have hsecond : ((backlog.after (.poll 3)).after (.receive (Sample.control (.ack 0)) 4)).MaySend
      host.link.address 5 := ⟨rfl, hworks rfl rfl, rfl⟩
  have hboth : Rounds host.link.address guest 2 backlog _ _ :=
    .cons (.send .start hfirst rfl .start hack) (.cons (.discard .start hsecond rfl) .nil)
  obtain ⟨-, -, hnil, hoffered⟩ := hrounds rfl (by decide) hboth
  obtain rfl : frame = _ := Except.ok.inj (hposts.frame_eq.symm.trans rfl)
  exact ⟨_, _, _, reachable_backlog, hs, rfl, ⟨_, _, rfl, hfirst, hposts⟩, hboth, hnil rfl,
    hoffered.trans rfl⟩

end BusTransport
