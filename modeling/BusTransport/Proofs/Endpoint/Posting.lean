import BusTransport.Proofs.Endpoint.Consistency

/-! # Postings

What a step means for the answers of an endpoint. Those that wait are kept in the order of their
requests, one leaves for the first time only while none is outstanding, and what the queue loses
without sending it fits no telegram.
-/

namespace BusTransport

/-- The connected data that left for the first time, since no retry was asked for. -/
def firstsIn (event? : Option Event) (journal : List Activity) : List Frame :=
  if event?.any Event.isRetry then [] else transmissionsIn journal

def fitting (xs : List (Request × Option Answer)) : List (Request × Answer) :=
  xs.filterMap fun x => (x.2.filter Answer.fits).map (x.1, ·)

def queued (x : Request × Answer) : Priority × Answer := (x.1.priority, x.2)

theorem firstsIn_of_transmissionsIn {journal : List Activity} (event? : Option Event)
    (h : transmissionsIn journal = []) : firstsIn event? journal = [] := by
  rw [firstsIn, h, ite_self]

namespace Dialogue

open Endpoint

/-- The queued answers that have not left yet and fit a telegram. -/
def unsent (d : Dialogue) : List (Priority × Answer) :=
  (d.answers.entries.filter fun entry => entry.phase ≠ .sending && entry.answer.fits).map
    fun entry => (entry.priority, entry.answer)

variable {own : DeviceAddress} {now : Instant} {d d' : Dialogue} {event? : Option Event}
  {journal : List Activity}

/-- What a step that opens no connection means for the answers: it keeps those that wait and adds
new ones, closes the connection, sends one for the first time, or finishes the outstanding one. -/
inductive Posting (own : DeviceAddress) (d : Dialogue) (event? : Option Event)
    (journal : List Activity) (d' : Dialogue) : Prop
  | keep : ¬ d.Acknowledges event? → firstsIn event? journal = [] →
      d'.unsent = d.unsent ++ (fitting (acceptedIn journal)).map queued →
      d'.connection.state = d.connection.state →
      d'.connection.sendSequence = d.connection.sendSequence → Posting own d event? journal d'
  | close : ¬ d.Acknowledges event? → firstsIn event? journal = [] →
      acceptedIn journal = [] → d'.connection.state = .closed →
      d'.connection.sendSequence = d.connection.sendSequence → Posting own d event? journal d'
  | send {entry frame} : ¬ d.Acknowledges event? → d.connection.state = .openIdle →
      firstsIn event? journal = [frame] → acceptedIn journal = [] →
      d.unsent = (entry.priority, entry.answer) :: d'.unsent →
      d.connection.peer? = some entry.destination → d.primaryFrame own entry = .ok frame →
      d'.connection.state = .openWait →
      d'.connection.sendSequence = d.connection.sendSequence → Posting own d event? journal d'
  | finish : d.Acknowledges event? → firstsIn event? journal = [] → acceptedIn journal = [] →
      d'.unsent = d.unsent → d'.connection.state = .openIdle →
      d'.connection.sendSequence = SequenceNumber.next d.connection.sendSequence →
      Posting own d event? journal d'

theorem unsent_released (d : Dialogue) : d.released.unsent = d.unsent := by
  unfold unsent released AnswerQueue.release
  rw [List.filter_map, List.map_map]
  simp only [Function.comp_def, PendingAnswer.released, ne_eq, AnswerPhase.released_eq_sending_iff]

theorem unsent_add (d : Dialogue) (c : Connection) (r : Request) (answer : Option Answer) :
    unsent ⟨c, d.answers.add r answer⟩ = d.unsent ++ (fitting [(r, answer)]).map queued := by
  cases answer with
  | none => exact (List.append_nil _).symm
  | some answer =>
    unfold unsent AnswerQueue.add
    rw [List.filter_append, List.map_append]
    by_cases h : answer.fits = true
    · simp [fitting, queued, Option.filter, h]
    · simp [fitting, Option.filter, h]

theorem not_acknowledges_of_openIdle (h : d.connection.state = .openIdle)
    (event? : Option Event) : ¬ d.Acknowledges event? := by
  rintro ⟨hs, -⟩
  rw [h] at hs
  cases hs

/-- A sent answer is none of those that wait. -/
theorem unsent_cons_sending {c : Connection} {entry : PendingAnswer} {rest : List PendingAnswer}
    (h : entry.phase = .sending) :
    unsent ⟨c, ⟨entry :: rest⟩⟩ = unsent ⟨c, ⟨rest⟩⟩ := by
  simp [unsent, h]

theorem firstsIn_sendAnswer {entry : PendingAnswer} {frame : Frame}
    (h : d.primaryFrame own entry = .ok frame) :
    firstsIn (some .answerReady) [.offered frame none, .performed .sendAnswer] = [frame] := by
  simp [firstsIn, Event.isRetry, transmissionsIn, Activity.transmission?, numberOf?_numbered h]

theorem firstsIn_of_recalls {event : Event} {frame : Frame} (h : d.Recalls event frame)
    (journal : List Activity) : firstsIn (some event) journal = [] := by
  simp [firstsIn, h.isRetry]

theorem posting_sendAnswer {max : UInt8} {entry : PendingAnswer} {rest : List PendingAnswer}
    {frame : Frame} (hc : d.Consistent max) (hs : d.connection.state = .openIdle)
    (hq : d.answers.entries = entry :: rest) (hf : d.primaryFrame own entry = .ok frame) :
    Posting own d (some .answerReady) [.offered frame none, .performed .sendAnswer]
      ⟨{ d.connection.awaitAck now with state := .openWait },
        ⟨entry.sentAs frame :: rest⟩⟩ := by
  have hmem : entry ∈ d.answers.entries := by rw [hq]; exact List.mem_cons_self
  have hfits : entry.answer.fits = true := (answerFrame_isOk_iff ..).mp ⟨frame, hf⟩
  have hphase := ((hc.openIdle hs).answers entry hmem).phase_ne
  have hunsent : d.unsent = (entry.priority, entry.answer) :: unsent ⟨d.connection, ⟨rest⟩⟩ := by
    simp [unsent, hq, hphase, hfits]
  refine .send (not_acknowledges_of_openIdle hs _) hs (firstsIn_sendAnswer hf) rfl ?_
    (hc.addressed entry hmem) hf rfl rfl
  rw [hunsent, unsent_cons_sending rfl]
  rfl

theorem posting_dropAnswer {entry : PendingAnswer} {rest : List PendingAnswer}
    {fault : FrameFault} (hs : d.connection.state = .openIdle)
    (hq : d.answers.entries = entry :: rest) (hf : d.primaryFrame own entry = .error fault) :
    Posting own d (some .answerReady) [] ⟨d.connection, ⟨rest⟩⟩ := by
  have hfits : entry.answer.fits = false := by
    rw [← Bool.not_eq_true, ← answerFrame_isOk_iff own entry.destination entry.priority
      (.numbered d.connection.sendSequence entry.answer.commandHigh)]
    rintro ⟨frame, h⟩
    exact nomatch h.symm.trans hf
  refine .keep (not_acknowledges_of_openIdle hs _) rfl ?_ rfl rfl
  simp [unsent, hq, hfits, acceptedIn, fitting]

theorem sendSequence_acknowledged (c : Connection) (now : Instant) :
    (c.acknowledged now).sendSequence = SequenceNumber.next c.sendSequence := by
  simp [Connection.acknowledged, Connection.touch, Connection.sendSequence,
    SendWindow.acknowledge, SendWindow.fits]

theorem Effect.posting {max : UInt8} (h : Effect own now d event? journal d')
    (hc : d.Consistent max)
    (ho : d.connection.isOpen = true ∨ d'.connection.isOpen = false) :
    Posting own d event? journal d' := by
  cases h with
  | calm hn ha ht =>
    refine .keep hn (firstsIn_of_transmissionsIn _ ht) ?_ rfl rfl
    rw [ha]
    exact (List.append_nil _).symm
  | connect hs =>
    rcases ho with ho | ho
    · exact absurd hs (Connection.isOpen_iff.mp ho)
    · cases ho
  | deliver hs hp hroom hsource hsequence hf =>
    refine .keep (not_acknowledges_of_openIdle hs _)
      (firstsIn_of_transmissionsIn _ (transmissionsIn_deliver hf ..)) ?_ rfl rfl
    rw [acceptedIn_deliver hsequence]
    exact unsent_add ..
  | close hn _ ha hoffers =>
    exact .close hn (firstsIn_of_transmissionsIn _ (transmissionsIn_eq_nil hoffers)) ha rfl rfl
  | sendAnswer hs hq hf => exact posting_sendAnswer hc hs hq hf
  | dropAnswer hs hq hf => exact posting_dropAnswer hs hq hf
  | @finishAnswer p hs hp =>
    obtain ⟨-, ⟨entry, rest, -, hq, hphase, -, -, -⟩, -, -⟩ := hc.openWait hs
    refine .finish ⟨hs, p, hp, rfl⟩ rfl rfl ?_ rfl (sendSequence_acknowledged _ now)
    have hd : d = ⟨d.connection, ⟨entry :: rest⟩⟩ := by rw [← hq]
    rw [hd, unsent_cons_sending hphase]
    rfl
  | repeatAnswer hr hs =>
    refine .keep ?_ (firstsIn_of_recalls hr _) (List.append_nil _).symm rfl rfl
    rintro ⟨-, p, -, he⟩
    rw [Option.some.inj he] at hr
    exact nomatch hr.isRetry

end Dialogue

end BusTransport
