import BusTransport.Proofs.Connection.Table
import BusTransport.Proofs.Endpoint.Dialogue
import BusTransport.Proofs.Endpoint.Sending
import BusTransport.Proofs.Wire.SentField

/-! # Dispatched events

Dispatching an event does to the dialogue exactly what one of its moves does, and nothing to profile
and filter. The proof follows the table of decisions, one action at a time.
-/

namespace BusTransport

namespace Turn

open Endpoint Dialogue

variable {L A α : Type} [Link L] [Application A]

/-- The journal that a turn adds and the dialogue that it leads to. Profile and last telegram are
kept, and the control slot is not left with a permit. -/
structure Leads (turn : Turn L A α) (c : Course L A) (journal : List Activity) (d : Dialogue) :
    Prop where
  journal_eq : (turn.after c).journal = c.journal ++ journal
  dialogue_eq : (turn.after c).endpoint.dialogue = d
  profile_eq : (turn.after c).endpoint.profile = c.endpoint.profile
  lastTelegram_eq : (turn.after c).endpoint.lastTelegram = c.endpoint.lastTelegram
  slot_acquired : (turn.after c).endpoint.slot.state = .acquired →
    c.endpoint.slot.state = .acquired

/-- Dispatching an event is a move of the dialogue. -/
def Moves (event : Event) (t? : Option Telegram) (now : Instant) (c : Course L A) : Prop :=
  ∃ journal d, Leads (dispatch event t? now) c journal d ∧
    Move (Link.address c.endpoint.link) now c.endpoint.dialogue event journal d

variable {event : Event} {t? : Option Telegram} {now : Instant} {c c' : Course L A}
  {decision : Decision} {journal : List Activity} {p : DeviceAddress} {n : SequenceNumber}

theorem run_dispatch_of_ok (hr : c.endpoint.dialogue.react event = decision)
    (h : (perform t? now decision.action).run c = .ok () c') :
    (dispatch event t? now).run c = .ok () {
      endpoint := { c'.endpoint with
        connection := { c'.endpoint.connection with state := decision.state } }
      journal := c'.journal ++ [.performed decision.action] } := by
  change c.endpoint.connection.react c.endpoint.answers.hasRoom event = decision at hr
  unfold dispatch
  simp only [run_bind, run_endpoint, hr, h, run_updateConnection, run_record]

theorem run_dispatch_of_error {fault : Fault} (hr : c.endpoint.dialogue.react event = decision)
    (h : (perform t? now decision.action).run c = .error fault c') :
    (dispatch event t? now).run c = .error fault c' := by
  change c.endpoint.connection.react c.endpoint.answers.hasRoom event = decision at hr
  unfold dispatch
  simp only [run_bind, run_endpoint, hr, h]

theorem dispatch_of_ok (hr : c.endpoint.dialogue.react event = decision)
    (h : (perform t? now decision.action).run c = .ok () c') :
    (dispatch event t? now).after c = {
      endpoint := { c'.endpoint with
        connection := { c'.endpoint.connection with state := decision.state } }
      journal := c'.journal ++ [.performed decision.action] } :=
  after_of_ok (run_dispatch_of_ok hr h)

theorem dispatch_of_error {fault : Fault} (hr : c.endpoint.dialogue.react event = decision)
    (h : (perform t? now decision.action).run c = .error fault c') :
    (dispatch event t? now).after c = c' :=
  after_of_error (run_dispatch_of_error hr h)

omit [Link L] [Application A] in
theorem leads_of_after {turn : Turn L A α} (ha : turn.after c = c')
    (hj : c'.journal = c.journal ++ journal) (hp : c'.endpoint.profile = c.endpoint.profile)
    (hl : c'.endpoint.lastTelegram = c.endpoint.lastTelegram)
    (hs : c'.endpoint.slot.state = .acquired → c.endpoint.slot.state = .acquired) :
    Leads turn c journal c'.endpoint.dialogue := by
  subst ha
  exact ⟨hj, rfl, hp, hl, hs⟩

theorem leads_of_ok (hr : c.endpoint.dialogue.react event = decision)
    (h : (perform t? now decision.action).run c = .ok () c')
    (hj : c'.journal = c.journal ++ journal) (hp : c'.endpoint.profile = c.endpoint.profile)
    (hl : c'.endpoint.lastTelegram = c.endpoint.lastTelegram)
    (hs : c'.endpoint.slot.state = .acquired → c.endpoint.slot.state = .acquired) :
    Leads (dispatch event t? now) c (journal ++ [.performed decision.action])
      ⟨{ c'.endpoint.connection with state := decision.state }, c'.endpoint.answers⟩ :=
  leads_of_after (dispatch_of_ok hr h) (by rw [hj, List.append_assoc]) hp hl hs

theorem leads_of_error {fault : Fault} (hr : c.endpoint.dialogue.react event = decision)
    (h : (perform t? now decision.action).run c = .error fault c')
    (hj : c'.journal = c.journal ++ journal) (hp : c'.endpoint.profile = c.endpoint.profile)
    (hl : c'.endpoint.lastTelegram = c.endpoint.lastTelegram)
    (hs : c'.endpoint.slot.state = .acquired → c.endpoint.slot.state = .acquired) :
    Leads (dispatch event t? now) c journal c'.endpoint.dialogue :=
  leads_of_after (dispatch_of_error hr h) hj hp hl hs

theorem acquired_of_eq_or_free {slot slot' : ControlSlot} (h : slot' = slot ∨ slot' = ⟨.free⟩)
    (ha : slot'.state = .acquired) : slot.state = .acquired := by
  rcases h with rfl | rfl
  · exact ha
  · cases ha

/-- An action that begins with a control frame can fail only before it has had any effect. -/
theorem moves_of_control {destination : DeviceAddress} {field : ControlField}
    {statistics : Statistics} (k : Unit → Turn L A Unit)
    (hr : c.endpoint.dialogue.react event = decision)
    (hs : decision.action.sendsFirst = true) (hreply : ControlReply event destination field)
    (hrun : (perform t? now decision.action).run c = (sendControl destination field >>= k).run
      { c with endpoint := { c.endpoint with statistics } })
    (hsent : ∀ frame link statistics,
      controlFrame (Link.address c.endpoint.link) destination field = .ok frame →
      (perform t? now decision.action).run c = (k ()).run {
        endpoint := { c.endpoint with slot := ⟨.sending⟩, link, statistics }
        journal := c.journal ++ [.offered frame none] } → Moves event t? now c) :
    Moves event t? now c := by
  obtain ⟨frame, hframe⟩ := exists_controlFrame (Link.address c.endpoint.link) destination field
  have hs' : (c.endpoint.dialogue.react event).action.sendsFirst = true := by rw [hr]; exact hs
  let c₀ : Course L A := { c with endpoint := { c.endpoint with statistics } }
  rcases run_sendControl (c := c₀) hframe with
    ⟨link, h⟩ | ⟨link, fault, h⟩ | ⟨slot, link, fault, hslot, h⟩
  · exact hsent frame link _ hframe (by rw [hrun, run_bind, h])
  · have he : (perform t? now decision.action).run c = .error (.link fault) {
        endpoint := { c.endpoint with slot := ⟨.free⟩, link, statistics }
        journal := c.journal ++ [.offered frame (some fault)] } := by
      rw [hrun, run_bind, h]
    exact ⟨_, _, leads_of_error hr he rfl rfl rfl nofun, .refused (.control hs' hreply hframe)⟩
  · have he : (perform t? now decision.action).run c = .error (.busy fault)
        { c with endpoint := { c.endpoint with slot, link, statistics } } := by
      rw [hrun, run_bind, h]
    exact ⟨_, _, leads_of_error hr he (List.append_nil _).symm rfl rfl
      (acquired_of_eq_or_free hslot), .halted hs'⟩

theorem moves_reject (ho : c.endpoint.connection.isOpen = true)
    (hp : c.endpoint.connection.peer? ≠ some p)
    (hr : c.endpoint.dialogue.react (.connect p) = c.endpoint.connection.stay (.reject p)) :
    Moves (.connect p) t? now c := by
  have hrun : (perform t? now (.reject p)).run c =
      (sendControl p .disconnect >>= pure).run { c with
        endpoint := { c.endpoint with
          statistics := c.endpoint.statistics.count .intrusion } } := by
    simp only [perform, run_bind, run_count, bind_pure]
  refine moves_of_control pure hr rfl .reject hrun ?_
  intro frame link statistics hf h
  exact ⟨_, _, leads_of_ok hr h rfl rfl rfl nofun, .reject ho hp hf⟩

theorem moves_ackAgain (hp : c.endpoint.connection.peer? = some p)
    (hn : n = SequenceNumber.previous c.endpoint.connection.receiveSequence)
    (hr : c.endpoint.dialogue.react (.data p n) = c.endpoint.connection.stay (.ackAgain n)) :
    Moves (.data p n) t? now c := by
  have hrun : (perform t? now (.ackAgain n)).run c =
      (sendControl p (.ack n) >>= fun _ => do
        count .duplicate
        updateConnection (·.touch now)).run c := by
    simp only [perform, run_bind, run_peer hp]
  refine moves_of_control _ hr rfl .ack hrun ?_
  intro frame link statistics hf h
  exact ⟨_, _, leads_of_ok hr h rfl rfl rfl nofun, .ackAgain hp hn hf⟩

theorem moves_refuse (hp : c.endpoint.connection.peer? = some p)
    (hn : n ≠ c.endpoint.connection.receiveSequence)
    (hn' : n ≠ SequenceNumber.previous c.endpoint.connection.receiveSequence)
    (hr : c.endpoint.dialogue.react (.data p n) = c.endpoint.connection.stay (.refuse n)) :
    Moves (.data p n) t? now c := by
  have hrun : (perform t? now (.refuse n)).run c =
      (sendControl p (.nack n) >>= fun _ => count .nackSent).run c := by
    simp only [perform, run_bind, run_peer hp]
  refine moves_of_control _ hr rfl .nack hrun ?_
  intro frame link statistics hf h
  exact ⟨_, _, leads_of_ok hr h rfl rfl rfl nofun, .refuse hp hn hn' hf⟩

/-- Data is delivered only while the queue has room, so that its answer can always be staged. -/
theorem stage_of_hasRoom {q : AnswerQueue} {t : Telegram} {r : Request}
    {number : Option SequenceNumber} (hroom : q.hasRoom = true)
    (hreq : Request.ofTelegram? t number = some r) (answer : Answer) :
    q.stage t.source t.priority answer = .ok (q.add r (some answer)) := by
  have hfull : ¬ q.isFull = true := by simpa [AnswerQueue.hasRoom] using hroom
  rw [AnswerQueue.stage, if_neg hfull, AnswerQueue.add, Request.source_of_telegram hreq,
    Request.priority_of_telegram hreq]

def queueAnswer (t : Telegram) : Option Answer → Turn L A Unit
  | none => pure ()
  | some answer => do
    let queue := (← endpoint).answers.stage t.source t.priority answer
    let queue ← require .busy queue
    updateAnswers fun _ => queue

omit [Link L] [Application A] in
theorem run_queueAnswer {t : Telegram} {r : Request} {number : Option SequenceNumber}
    (hroom : c.endpoint.answers.hasRoom = true)
    (hreq : Request.ofTelegram? t number = some r) (answer? : Option Answer) :
    (queueAnswer t answer?).run c = .ok ()
      { c with endpoint := { c.endpoint with answers := c.endpoint.answers.add r answer? } } := by
  cases answer? with
  | none => rfl
  | some answer =>
    simp only [queueAnswer, run_bind, run_endpoint, stage_of_hasRoom hroom hreq, run_require_ok,
      run_updateAnswers]

def acceptance (t : Telegram) (r : Request) (n : SequenceNumber) (now : Instant) :
    Turn L A Unit := do
  updateConnection (·.acceptRequest n now)
  queueAnswer t (← ask r)

theorem run_deliver {t : Telegram} {r : Request} (hreq : Request.ofTelegram? t (some n) = some r)
    (now : Instant) (c : Course L A) : (perform (some t) now (.deliver n)).run c =
      (sendControl t.source (.ack n) >>= fun _ => acceptance t r n now).run c := by
  simp only [perform, Turn.deliver, hreq]
  rfl

theorem leads_deliver {t : Telegram} {r : Request} {frame : Frame} {link : L}
    {statistics : Statistics} (hroom : c.endpoint.answers.hasRoom = true)
    (hreq : Request.ofTelegram? t (some n) = some r)
    (hr : c.endpoint.dialogue.react event = c.endpoint.connection.stay (.deliver n))
    (h : (perform (some t) now (.deliver n)).run c = (acceptance t r n now).run {
      endpoint := { c.endpoint with slot := ⟨.sending⟩, link, statistics }
      journal := c.journal ++ [.offered frame none] }) :
    Leads (dispatch event (some t) now) c
      [.offered frame none, .requested r (Application.respond c.endpoint.application r).1,
        .performed (.deliver n)]
      ⟨c.endpoint.connection.acceptRequest n now,
        c.endpoint.answers.add r (Application.respond c.endpoint.application r).1⟩ := by
  unfold acceptance at h
  simp only [run_bind, run_updateConnection, run_ask] at h
  have h' := h.trans (run_queueAnswer (by exact hroom) hreq _)
  exact leads_of_ok hr h' (List.append_assoc ..) rfl rfl nofun

theorem moves_deliver {t : Telegram} {r : Request}
    (hs : c.endpoint.connection.state = .openIdle)
    (hp : c.endpoint.connection.peer? = some t.source)
    (hroom : c.endpoint.answers.hasRoom = true)
    (hreq : Request.ofTelegram? t (some c.endpoint.connection.receiveSequence) = some r)
    (hr : c.endpoint.dialogue.react (.data t.source c.endpoint.connection.receiveSequence) =
      c.endpoint.connection.stay (.deliver c.endpoint.connection.receiveSequence)) :
    Moves (.data t.source c.endpoint.connection.receiveSequence) (some t) now c := by
  refine moves_of_control _ hr rfl .ack (run_deliver hreq now c) ?_
  intro frame link statistics hf h
  have hsource := Request.source_of_telegram hreq
  have hsequence := Request.sequence_of_telegram hreq
  exact ⟨_, _, leads_deliver hroom hreq hr h, .deliver hs hp hroom hsource hsequence hf⟩

theorem moves_closeSilently (hp : c.endpoint.connection.peer? = some p)
    (hr : c.endpoint.dialogue.react (.disconnect p) = ⟨.closed, .closeSilently⟩) :
    Moves (.disconnect p) t? now c := by
  have h : (perform t? now .closeSilently).run c = .ok () (closing p c) := by
    simp only [perform, run_bind, run_peer hp, run_closeConnection]
  exact ⟨_, _, leads_of_ok hr h rfl rfl rfl id, .closeSilently hp⟩

/-- The connection is closed before the disconnect is offered, whatever becomes of that frame. -/
theorem moves_closeAndTell (hr : c.endpoint.dialogue.react event = ⟨.closed, .closeAndTell⟩) :
    Moves event t? now c := by
  rcases hp : c.endpoint.connection.peer? with _ | p
  · have h : (perform t? now .closeAndTell).run c = .error .notConnected c := by
      simp only [perform, peer, run_bind, run_endpoint, hp, run_throw]
    exact ⟨_, _, leads_of_error hr h (List.append_nil _).symm rfl rfl id, .lost hr hp⟩
  have hrun : (perform t? now .closeAndTell).run c =
      (sendControl p .disconnect).run (closing p c) := by
    simp only [perform, run_bind, run_peer hp, run_closeConnection]
  obtain ⟨frame, hf⟩ := exists_controlFrame (Link.address c.endpoint.link) p .disconnect
  rcases run_sendControl (c := closing p c) hf with
    ⟨link, h⟩ | ⟨link, fault, h⟩ | ⟨slot, link, fault, hslot, h⟩
  · exact ⟨_, _, leads_of_ok hr (hrun.trans h) (List.append_assoc ..) rfl rfl nofun,
      .closeAndTell hr hp (.sent hf)⟩
  · exact ⟨_, _, leads_of_error hr (hrun.trans h) (List.append_assoc ..) rfl rfl nofun,
      .closeAndTell hr hp (.refused hf)⟩
  · exact ⟨_, _, leads_of_error hr (hrun.trans h) rfl rfl rfl (acquired_of_eq_or_free hslot),
      .closeAndTell hr hp .blocked⟩

theorem leads_sendAnswer {entry : PendingAnswer} {rest : List PendingAnswer} {frame : Frame}
    {link : L} (hr : c.endpoint.dialogue.react .answerReady = ⟨.openWait, .sendAnswer⟩)
    (hq : c.endpoint.answers.entries = entry :: rest)
    (hf : c.endpoint.dialogue.primaryFrame (Link.address c.endpoint.link) entry = .ok frame)
    (h : (offer frame).run c = .ok () {
      endpoint := { c.endpoint with link }
      journal := c.journal ++ [.offered frame none] }) :
    Leads (dispatch .answerReady t? now) c [.offered frame none, .performed .sendAnswer]
      ⟨{ c.endpoint.connection.awaitAck now with state := .openWait },
        ⟨entry.sentAs frame :: rest⟩⟩ := by
  have hrun : (perform t? now .sendAnswer).run c = _ := run_sendPrimary now hq
  have hm : c.endpoint.answers.markSending frame =
      ⟨entry.sentAs frame :: rest⟩ := by rw [AnswerQueue.markSending, hq]
  rw [hf] at hrun
  simp only [run_bind, h, run_updateAnswers, run_updateConnection, run_count, hm] at hrun
  exact leads_of_ok hr hrun rfl rfl rfl id

theorem moves_sendAnswer (hs : c.endpoint.connection.state = .openIdle)
    (hr : c.endpoint.dialogue.react .answerReady = ⟨.openWait, .sendAnswer⟩) :
    Moves .answerReady t? now c := by
  rcases hq : c.endpoint.answers.entries with _ | ⟨entry, rest⟩
  · have h : (perform t? now .sendAnswer).run c = .error (.action .noQueuedAnswer) c := by
      have hp : c.endpoint.answers.primary? = none := by rw [AnswerQueue.primary?, hq]; rfl
      simp only [perform, sendPrimary, run_bind, run_endpoint, hp, run_throw]
    exact ⟨_, _, leads_of_error hr h (List.append_nil _).symm rfl rfl id,
      .halted (by rw [hr]; rfl)⟩
  have hrun : (perform t? now .sendAnswer).run c = _ := run_sendPrimary now hq
  rcases hf : c.endpoint.dialogue.primaryFrame (Link.address c.endpoint.link) entry with
    fault | frame
  · rw [hf] at hrun
    exact ⟨_, _, leads_of_error hr hrun (List.append_nil _).symm rfl rfl id,
      .dropAnswer hs hq hf⟩
  rcases run_offer frame c with ⟨link, h⟩ | ⟨link, fault, h⟩
  · exact ⟨_, _, leads_sendAnswer hr hq hf h, .sendAnswer hs hq hf⟩
  · rw [hf] at hrun
    simp only [run_bind, h] at hrun
    exact ⟨_, _, leads_of_error hr hrun rfl rfl rfl id, .refused (.answer hs hq hf)⟩

theorem run_repeatAnswer {frame : Frame} (hf : c.endpoint.answers.outstandingFrame? = some frame) :
    (perform t? now .repeatAnswer).run c = (do
      offer frame
      updateConnection (·.repeated now)
      count .repetition).run c := by
  simp only [perform, repeatPrimary, run_bind, run_endpoint, hf]

theorem leads_repeatAnswer {frame : Frame} {link : L}
    (hs : c.endpoint.connection.state = .openWait)
    (hr : c.endpoint.dialogue.react event = ⟨.openWait, .repeatAnswer⟩)
    (hf : c.endpoint.answers.outstandingFrame? = some frame)
    (h : (offer frame).run c = .ok () {
      endpoint := { c.endpoint with link }
      journal := c.journal ++ [.offered frame none] }) :
    Leads (dispatch event t? now) c [.offered frame none, .performed .repeatAnswer]
      ⟨c.endpoint.connection.repeated now, c.endpoint.answers⟩ := by
  have hrun : (perform t? now .repeatAnswer).run c = _ := run_repeatAnswer hf
  have hc : { c.endpoint.connection.repeated now with state := .openWait } =
      c.endpoint.connection.repeated now := by rw [← hs]; rfl
  simp only [run_bind, h, run_updateConnection, run_count] at hrun
  have hl := leads_of_ok hr hrun rfl rfl rfl id
  rw [hc] at hl
  exact hl

theorem moves_repeatAnswer (hs : c.endpoint.connection.state = .openWait)
    (hm : c.endpoint.connection.mayRepeat = true)
    (hr : c.endpoint.dialogue.react event = ⟨.openWait, .repeatAnswer⟩) :
    Moves event t? now c := by
  rcases hf : c.endpoint.answers.outstandingFrame? with _ | frame
  · have h : (perform t? now .repeatAnswer).run c = .error (.action .noOutstandingAnswer) c := by
      simp only [perform, repeatPrimary, run_bind, run_endpoint, hf, run_throw]
    exact ⟨_, _, leads_of_error hr h (List.append_nil _).symm rfl rfl id,
      .halted (by rw [hr]; rfl)⟩
  rcases run_offer frame c with ⟨link, h⟩ | ⟨link, fault, h⟩
  · exact ⟨_, _, leads_repeatAnswer hs hr hf h, .repeatAnswer hr hs hm hf⟩
  · have hrun : (perform t? now .repeatAnswer).run c = _ := run_repeatAnswer hf
    simp only [run_bind, h] at hrun
    exact ⟨_, _, leads_of_error hr hrun rfl rfl rfl id, .refused (.repetition hr hf)⟩

/-- A retry is a repetition while one is left, and a closing after that. -/
theorem moves_retry (hs : c.endpoint.connection.state = .openWait)
    (hr : c.endpoint.dialogue.react event = c.endpoint.connection.retry) :
    Moves event t? now c := by
  by_cases hm : c.endpoint.connection.mayRepeat = true
  · exact moves_repeatAnswer hs hm (by rw [hr, Connection.retry, if_pos hm, Connection.stay, hs])
  · exact moves_closeAndTell (by rw [hr, Connection.retry, if_neg hm])

/-- What dispatching an event does is a move, if data comes with a telegram that has a command. -/
theorem dispatch_moves (event : Event) (t? : Option Telegram) (now : Instant) (c : Course L A)
    (ht : ∀ p n, event = .data p n →
      ∃ t r, t? = some t ∧ t.source = p ∧ Request.ofTelegram? t (some n) = some r) :
    Moves event t? now c := by
  have hd := Connection.react_decides c.endpoint.connection c.endpoint.answers.hasRoom event
  generalize hr : c.endpoint.connection.react c.endpoint.answers.hasRoom event = decision at hd
  cases hd with
  | connect hs =>
    exact ⟨_, _, leads_of_ok hr rfl (List.append_nil _).symm rfl rfl id, .connect hs⟩
  | reject ho hp => exact moves_reject ho hp hr
  | leave hp => exact moves_closeSilently hp hr
  | finish hs hp =>
    exact ⟨_, _, leads_of_ok hr rfl (List.append_nil _).symm rfl rfl id, .finishAnswer hs hp⟩
  | mismatch => exact moves_closeAndTell hr
  | retryNacked hs => exact moves_retry hs hr
  | deliver hs hp hroom =>
    obtain ⟨t, r, rfl, rfl, hreq⟩ := ht _ _ rfl
    exact moves_deliver hs hp hroom hreq hr
  | ackAgain hp => exact moves_ackAgain hp rfl hr
  | refuse hp hn hn' => exact moves_refuse hp hn hn' hr
  | expire => exact moves_closeAndTell hr
  | hangUp => exact moves_closeAndTell hr
  | sendAnswer hs => exact moves_sendAnswer hs hr
  | retryLate hs => exact moves_retry hs hr
  | ignore h =>
    exact ⟨_, _, leads_of_ok hr rfl (List.append_nil _).symm rfl rfl id, .ignore h⟩

end Turn

end BusTransport
