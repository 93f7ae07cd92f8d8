import BusTransport.Proofs.Endpoint.Call
import BusTransport.Proofs.Endpoint.Preservation
import BusTransport.Proofs.Link.Reading

/-! # The way out

A turn gives the link at most one frame. It does so only where it has found the control slot free,
and right after a reading that found the link free. A frame that is refused leaves the slot free.
-/

namespace BusTransport

def Activity.offering? : Activity → Option (Frame × Option LinkFault)
  | offered frame refusal => some (frame, refusal)
  | _ => none

def offeringsIn (journal : List Activity) : List (Frame × Option LinkFault) :=
  journal.filterMap Activity.offering?

theorem offeringsIn_append (journal journal' : List Activity) :
    offeringsIn (journal ++ journal') = offeringsIn journal ++ offeringsIn journal' :=
  List.filterMap_append

theorem mem_offeringsIn {journal : List Activity} {frame : Frame} {refusal : Option LinkFault} :
    (frame, refusal) ∈ offeringsIn journal ↔ .offered frame refusal ∈ journal := by
  rw [offeringsIn, List.mem_filterMap]
  constructor
  · rintro ⟨activity, hmem, h⟩
    cases activity with
    | offered frame' refusal' =>
      cases h
      exact hmem
    | _ => cases h
  · intro hmem
    exact ⟨_, hmem, rfl⟩

theorem eq_of_offered {journal : List Activity} {frame frame' : Frame}
    {refusal refusal' : Option LinkFault} (h : .offered frame refusal ∈ journal)
    (hj : offeringsIn journal = [(frame', refusal')]) : frame = frame' := by
  rw [← mem_offeringsIn, hj, List.mem_singleton] at h
  exact congrArg Prod.fst h

namespace Turn

open Link

variable {L A α β ε : Type} {turn : Turn L A α} {next : α → Turn L A β} {c c' c'' : Course L A}
  {free : Bool}

/-- Between two courses the way out was left alone. -/
structure Spares (c c' : Course L A) : Prop where
  link_eq : c'.endpoint.link = c.endpoint.link
  slot_eq : c'.endpoint.slot = c.endpoint.slot
  offerings_eq : offeringsIn c'.journal = offeringsIn c.journal

/-- A turn that leaves the way out alone. -/
def Still (turn : Turn L A α) : Prop := ∀ c, Spares c (turn.after c)

section Still

theorem Spares.trans (h : Spares c c') (h' : Spares c' c'') : Spares c c'' :=
  ⟨h'.link_eq.trans h.link_eq, h'.slot_eq.trans h.slot_eq, h'.offerings_eq.trans h.offerings_eq⟩

theorem cumulative_spares : Cumulative (Spares : Course L A → Course L A → Prop) :=
  ⟨fun _ => ⟨rfl, rfl, rfl⟩, .trans⟩

theorem still_bind (ht : Still turn) (hn : ∀ a, Still (next a)) : Still (turn >>= next) :=
  obeys_bind cumulative_spares ht hn

theorem offerings_bind (hn : ∀ a, Still (next a)) (c : Course L A) :
    offeringsIn ((turn >>= next).after c).journal = offeringsIn (turn.after c).journal := by
  rcases after_bind turn next c with h | ⟨a, h⟩
  · rw [h]
  · rw [h]
    exact (hn a _).offerings_eq

theorem still_pure (a : α) : Still (pure a : Turn L A α) := obeys_pure cumulative_spares a

theorem still_throw (fault : Fault) : Still (throw fault : Turn L A α) :=
  obeys_throw cumulative_spares fault

theorem still_endpoint : Still (endpoint : Turn L A _) := obeys_endpoint cumulative_spares

theorem still_updateConnection (f : Connection → Connection) :
    Still (updateConnection f : Turn L A Unit) := fun _ => ⟨rfl, rfl, rfl⟩

theorem still_updateAnswers (f : AnswerQueue → AnswerQueue) :
    Still (updateAnswers f : Turn L A Unit) := fun _ => ⟨rfl, rfl, rfl⟩

theorem still_count (o : Occurrence) : Still (count o : Turn L A Unit) := fun _ => ⟨rfl, rfl, rfl⟩

theorem still_remember (t : Telegram) : Still (remember t : Turn L A Unit) :=
  fun _ => ⟨rfl, rfl, rfl⟩

theorem still_require (fault : ε → Fault) (x : Except ε α) :
    Still (require fault x : Turn L A α) := obeys_require cumulative_spares fault x

theorem still_record {activity : Activity} (h : activity.offering? = none) :
    Still (record activity : Turn L A Unit) := by
  intro c
  refine ⟨rfl, rfl, ?_⟩
  change offeringsIn (c.journal ++ [activity]) = _
  rw [offeringsIn, List.filterMap_append, List.filterMap_cons_none h]
  exact List.append_nil _

theorem still_peer : Still (peer : Turn L A DeviceAddress) := obeys_peer cumulative_spares

theorem still_drop (o : Occurrence) : Still (drop o : Turn L A Disposition) :=
  still_bind (still_count o) fun _ => still_pure _

variable [Application A]

theorem still_ask (r : Request) : Still (ask r : Turn L A (Option Answer)) := by
  refine still_bind still_endpoint fun e => still_bind (fun _ => ⟨rfl, rfl, rfl⟩) fun _ => ?_
  exact still_bind (still_record rfl) fun _ => still_pure _

theorem still_deliverGroup (t : Telegram) : Still (deliverGroup t : Turn L A Unit) :=
  still_bind (fun _ => ⟨rfl, rfl, rfl⟩) fun _ => still_record rfl

theorem still_deliverBroadcast (t : Telegram) : Still (deliverBroadcast t : Turn L A Unit) :=
  still_bind (fun _ => ⟨rfl, rfl, rfl⟩) fun _ => still_record rfl

theorem still_closeConnection (p : DeviceAddress) : Still (closeConnection p : Turn L A Unit) := by
  refine still_bind (still_updateAnswers _) fun _ => ?_
  refine still_bind (still_updateConnection _) fun _ => ?_
  refine still_bind (still_count _) fun _ => ?_
  exact still_bind (fun _ => ⟨rfl, rfl, rfl⟩) fun _ => still_record rfl

end Still

variable [Link L]

/-- What became of the way out between two courses: the link was read and no more, or it got one
frame. The latter happens only if the way out was `free` at first. -/
inductive Uses (free : Bool) (c c' : Course L A) : Prop
  | nothing : Reads c.endpoint.link c'.endpoint.link →
      offeringsIn c'.journal = offeringsIn c.journal → Uses free c c'
  | frame {link frame} : free = true → Reads c.endpoint.link link → FoundFree link →
      c'.endpoint.link = (send link frame).2 →
      offeringsIn c'.journal = offeringsIn c.journal ++ [(frame, refusal link frame)] →
      ((refusal link frame).isSome = true → c'.endpoint.slot.isFree = true) → Uses free c c'

/-- The control slot is free, and so was the link at its last reading. -/
structure Clear (c : Course L A) : Prop where
  slot_isFree : c.endpoint.slot.isFree = true
  foundFree : FoundFree c.endpoint.link

/-- A turn hands one frame to the link, whatever the link makes of it, and leaves the slot alone. -/
structure HandsOver (turn : Turn L A α) (c : Course L A) (frame : Frame) : Prop where
  link_eq : (turn.after c).endpoint.link = (send c.endpoint.link frame).2
  slot_eq : (turn.after c).endpoint.slot = c.endpoint.slot
  offerings_eq : offeringsIn (turn.after c).journal =
    offeringsIn c.journal ++ [(frame, refusal c.endpoint.link frame)]

/-- A turn that may use a clear way out for one frame. -/
def Guarded (turn : Turn L A α) : Prop := ∀ c, Clear c → Uses true c (turn.after c)

/-- A turn that reads the way out itself and may use it for one frame if it is free. -/
def Gated (turn : Turn L A α) : Prop := ∀ c, Uses c.endpoint.slot.isFree c (turn.after c)

/-- A turn that may use the way out for one frame if it is free after a refresh. -/
def Frugal (turn : Turn L A α) : Prop :=
  ∀ c, Uses c.endpoint.refreshed.slot.isFree c (turn.after c)

theorem Spares.uses (h : Spares c c') : Uses free c c' := by
  refine .nothing ?_ h.offerings_eq
  rw [h.link_eq]
  exact .refl _

theorem Spares.clear (h : Spares c c') (hc : Clear c) : Clear c' := by
  refine ⟨?_, ?_⟩
  · rw [h.slot_eq]
    exact hc.slot_isFree
  · rw [h.link_eq]
    exact hc.foundFree

theorem Uses.spares (h : Uses free c c') (hs : Spares c' c'') : Uses free c c'' := by
  cases h with
  | nothing hr hj =>
    refine .nothing ?_ (hs.offerings_eq.trans hj)
    rwa [hs.link_eq]
  | frame hf hr hfree hl hj hslot =>
    refine .frame hf hr hfree (hs.link_eq.trans hl) (hs.offerings_eq.trans hj) ?_
    rwa [hs.slot_eq]

theorem Uses.of_reads (h : Uses free c' c'') (hr : Reads c.endpoint.link c'.endpoint.link)
    (hj : offeringsIn c'.journal = offeringsIn c.journal) : Uses free c c'' := by
  cases h with
  | nothing hr' hj' => exact .nothing (hr.trans hr') (hj'.trans hj)
  | frame hf hr' hfree hl hj' hslot =>
    rw [hj] at hj'
    exact .frame hf (hr.trans hr') hfree hl hj' hslot

theorem Spares.uses_trans (h : Spares c c') (h' : Uses free c' c'') : Uses free c c'' := by
  refine h'.of_reads ?_ h.offerings_eq
  rw [h.link_eq]
  exact .refl _

theorem Uses.preserves {f : L → β} (hobserved : ∀ l, f (observed l) = f l)
    (hsend : ∀ l frame, f (send l frame).2 = f l) (h : Uses free c c') :
    f c'.endpoint.link = f c.endpoint.link := by
  cases h with
  | nothing hread _ => exact hread.preserves hobserved
  | frame _ hread _ hl _ _ => rw [hl, hsend, hread.preserves hobserved]

theorem Frugal.preserves {f : L → β} (hobserved : ∀ l, f (observed l) = f l)
    (hsend : ∀ l frame, f (send l frame).2 = f l) (h : Frugal turn) (e : Endpoint L A) :
    f (turn.report e).endpoint.link = f e.link := by
  rw [report_endpoint]
  exact (h { endpoint := e }).preserves hobserved hsend

section HandsOver

variable {turn' : Turn L A α} {frame : Frame}

theorem handsOver_offer (frame : Frame) (c : Course L A) : HandsOver (offer frame) c frame := by
  rcases h : send c.endpoint.link frame with ⟨fault | _, link⟩
  · have hrun : (offer frame).run c = .error (.link fault) {
        endpoint := { c.endpoint with link }
        journal := c.journal ++ [.offered frame (some fault)] } := by
      unfold offer
      simp only [run_bind, run_endpoint, h, run_update, run_record, run_throw]
    have hafter := after_of_error hrun
    refine ⟨?_, ?_, ?_⟩
    · rw [hafter, h]
    · rw [hafter]
    · rw [hafter, refusal_of_error h]
      exact offeringsIn_append ..
  · have hrun : (offer frame).run c = .ok () {
        endpoint := { c.endpoint with link }
        journal := c.journal ++ [.offered frame none] } := by
      unfold offer
      simp only [run_bind, run_endpoint, h, run_update, run_record]
    have hafter := after_of_ok hrun
    refine ⟨?_, ?_, ?_⟩
    · rw [hafter, h]
    · rw [hafter]
    · rw [hafter, refusal_of_ok h]
      exact offeringsIn_append ..

theorem HandsOver.bind (h : HandsOver turn c frame) (hn : ∀ a, Still (next a)) :
    HandsOver (turn >>= next) c frame := by
  rcases after_bind turn next c with ha | ⟨a, ha⟩
  · exact ⟨ha ▸ h.link_eq, ha ▸ h.slot_eq, ha ▸ h.offerings_eq⟩
  · have hspares := hn a (turn.after c)
    rw [← ha] at hspares
    exact ⟨hspares.link_eq.trans h.link_eq, hspares.slot_eq.trans h.slot_eq,
      hspares.offerings_eq.trans h.offerings_eq⟩

/-- A turn that leaves the way out alone at first hands over what the rest of it does. -/
theorem HandsOver.of_run (h : HandsOver turn' c' frame) (hs : Spares c c')
    (hrun : turn.run c = turn'.run c') : HandsOver turn c frame := by
  have hafter := after_congr hrun
  refine ⟨?_, ?_, ?_⟩
  · rw [hafter, h.link_eq, hs.link_eq]
  · rw [hafter, h.slot_eq, hs.slot_eq]
  · rw [hafter, h.offerings_eq, hs.offerings_eq, hs.link_eq]

end HandsOver

section Guarded

theorem Still.guarded (h : Still turn) : Guarded turn := fun c _ => (h c).uses

theorem guarded_bind (ht : Guarded turn) (hn : ∀ a, Still (next a)) :
    Guarded (turn >>= next) := by
  intro c hc
  rcases after_bind turn next c with h | ⟨a, h⟩
  · rw [h]
    exact ht c hc
  · rw [h]
    exact (ht c hc).spares (hn a _)

theorem Still.guarded_bind (ht : Still turn) (hn : ∀ a, Guarded (next a)) :
    Guarded (turn >>= next) := by
  intro c hc
  rcases after_bind turn next c with h | ⟨a, h⟩
  · rw [h]
    exact (ht c).uses
  · rw [h]
    exact (ht c).uses_trans (hn a _ ((ht c).clear hc))

theorem guarded_offer (frame : Frame) : Guarded (offer frame : Turn L A Unit) := by
  intro c hc
  have h := handsOver_offer frame c
  refine .frame rfl (.refl _) hc.foundFree h.link_eq h.offerings_eq fun _ => ?_
  rw [h.slot_eq]
  exact hc.slot_isFree

theorem guarded_offerControl (frame : Frame) : Guarded (offerControl frame : Turn L A Unit) := by
  intro c hc
  have hacquires := ControlSlot.acquires_acquire hc.slot_isFree c.endpoint.link
    c.endpoint.profile.slotPollLimit.toNat
  rcases ha : c.endpoint.slot.acquire c.endpoint.link c.endpoint.profile.slotPollLimit.toNat with
    ⟨result, slot, link⟩
  rw [ha] at hacquires
  cases hacquires with
  | @busy fault _ hr =>
    have hrun : (offerControl frame).run c = .error (.busy fault)
        { c with endpoint := { c.endpoint with link } } := by
      unfold offerControl
      simp only [run_bind, run_endpoint, ha, run_update, run_require_error]
    rw [after_of_error hrun]
    exact .nothing hr rfl
  | @permit permit _ hr hfree =>
    rcases h : send link frame with ⟨fault | _, link'⟩
    · have hrun : (offerControl frame).run c = .error (.link fault) {
          endpoint := { c.endpoint with slot := ⟨.free⟩, link := link' }
          journal := c.journal ++ [.offered frame (some fault)] } := by
        unfold offerControl
        simp only [run_bind, run_endpoint, ha, ControlSlot.transmit, h, run_update,
          run_require_ok, run_record, run_throw]
      rw [after_of_error hrun]
      refine .frame rfl hr hfree (by rw [h]) ?_ fun _ => rfl
      rw [refusal_of_error h]
      exact offeringsIn_append ..
    · have hrun : (offerControl frame).run c = .ok () {
          endpoint := { c.endpoint with slot := ⟨.sending⟩, link := link' }
          journal := c.journal ++ [.offered frame none] } := by
        unfold offerControl
        simp only [run_bind, run_endpoint, ha, ControlSlot.transmit, h, run_update,
          run_require_ok, run_record]
      have hnone := refusal_of_ok h
      rw [after_of_ok hrun]
      refine .frame rfl hr hfree (by rw [h]) ?_ fun hsome => ?_
      · rw [hnone]
        exact offeringsIn_append ..
      · rw [hnone] at hsome
        cases hsome

theorem guarded_sendControl (destination : DeviceAddress) (field : ControlField) :
    Guarded (sendControl destination field : Turn L A Unit) := by
  refine still_endpoint.guarded_bind fun e => (still_require _ _).guarded_bind fun frame => ?_
  exact guarded_bind (guarded_offerControl frame) fun _ => still_count _

theorem guarded_sendPrimary (now : Instant) : Guarded (sendPrimary now : Turn L A Unit) := by
  refine still_endpoint.guarded_bind fun e => ?_
  split
  · exact (still_throw _).guarded
  · dsimp only
    split
    · exact (still_bind (still_updateAnswers _) fun _ => still_throw _).guarded
    · refine guarded_bind (guarded_offer _) fun _ => still_bind (still_updateAnswers _) fun _ => ?_
      exact still_bind (still_updateConnection _) fun _ => still_count _

theorem guarded_repeatPrimary (now : Instant) : Guarded (repeatPrimary now : Turn L A Unit) := by
  refine still_endpoint.guarded_bind fun e => ?_
  split
  · exact (still_throw _).guarded
  · refine guarded_bind (guarded_offer _) fun _ => ?_
    exact still_bind (still_updateConnection _) fun _ => still_count _

variable [Application A]

theorem guarded_deliver (t? : Option Telegram) (n : SequenceNumber) (now : Instant) :
    Guarded (deliver t? n now : Turn L A Unit) := by
  unfold deliver
  split
  · exact (still_throw _).guarded
  · split
    · exact (still_throw _).guarded
    · refine guarded_bind (guarded_sendControl _ _) fun _ => ?_
      refine still_bind (still_updateConnection _) fun _ =>
        still_bind (still_ask _) fun answer => ?_
      split
      · exact still_pure _
      · refine still_bind still_endpoint fun e => still_bind (still_require _ _) fun queue => ?_
        exact still_updateAnswers _

/-- Every action sends at most one frame, and nothing after it. -/
theorem guarded_perform (t? : Option Telegram) (now : Instant) (action : Action) :
    Guarded (perform t? now action : Turn L A Unit) := by
  cases action with
  | ignore => exact (still_pure _).guarded
  | connect p =>
    exact (still_bind (still_updateAnswers _) fun _ => still_updateConnection _).guarded
  | deliver n => exact guarded_deliver t? n now
  | ackAgain n =>
    refine still_peer.guarded_bind fun p => guarded_bind (guarded_sendControl _ _) fun _ => ?_
    exact still_bind (still_count _) fun _ => still_updateConnection _
  | refuse n =>
    refine still_peer.guarded_bind fun p => ?_
    exact guarded_bind (guarded_sendControl _ _) fun _ => still_count _
  | closeSilently => exact (still_bind still_peer fun p => still_closeConnection p).guarded
  | closeAndTell =>
    refine still_peer.guarded_bind fun p => (still_closeConnection p).guarded_bind fun _ => ?_
    exact guarded_sendControl _ _
  | sendAnswer => exact guarded_sendPrimary now
  | finishAnswer =>
    exact (still_bind (still_updateConnection _) fun _ => still_updateAnswers _).guarded
  | repeatAnswer => exact guarded_repeatPrimary now
  | reject p => exact (still_count _).guarded_bind fun _ => guarded_sendControl _ _

theorem guarded_dispatch (event : Event) (t? : Option Telegram) (now : Instant) :
    Guarded (dispatch event t? now : Turn L A Unit) := by
  refine still_endpoint.guarded_bind fun e => guarded_bind (guarded_perform _ _ _) fun _ => ?_
  exact still_bind (still_updateConnection _) fun _ => still_record rfl

theorem guarded_replyDirectly (t : Telegram) :
    Guarded (replyDirectly t : Turn L A Unit) := by
  unfold replyDirectly
  split
  · exact (still_throw _).guarded
  · refine (still_ask _).guarded_bind fun answer => ?_
    split
    · exact (still_pure _).guarded
    · refine still_endpoint.guarded_bind fun e => (still_require _ _).guarded_bind fun frame => ?_
      exact guarded_bind (guarded_offer _) fun _ => still_count _

theorem guarded_duty (now : Instant) : Guarded (duty now : Turn L A Unit) := by
  refine still_endpoint.guarded_bind fun e => ?_
  split
  · exact (still_count _).guarded_bind fun _ => guarded_dispatch _ _ _
  · split
    · exact guarded_dispatch _ _ _
    · split
      · exact (still_count _).guarded_bind fun _ => guarded_dispatch _ _ _
      · exact (still_pure _).guarded

end Guarded

section Frugal

theorem Still.gated_bind (ht : Still turn) (hn : ∀ a, Gated (next a)) :
    Gated (turn >>= next) := by
  intro c
  rcases after_bind turn next c with h | ⟨a, h⟩
  · rw [h]
    exact (ht c).uses
  · rw [h, ← (ht c).slot_eq]
    exact (ht c).uses_trans (hn a _)

/-- Only a turn that finds slot and link free goes on to what may send. -/
theorem gated_outboundFree {go wait : Turn L A α} (hg : Guarded go) (hw : Still wait) :
    Gated (outboundFree >>= fun free => if free = true then go else wait) := by
  intro c
  have hrun := run_outboundFree c
  rcases hs : c.endpoint.slot.isFree with _ | _
  · rw [hs, if_neg Bool.false_ne_true] at hrun
    have ha : (outboundFree >>= fun free => if free = true then go else wait).after c =
        wait.after c := by
      apply after_congr
      rw [run_bind, hrun]
      rfl
    rw [ha]
    exact (hw c).uses
  let c' : Course L A :=
    { c with endpoint := { c.endpoint with link := observed c.endpoint.link } }
  have hread : Reads c.endpoint.link c'.endpoint.link := (Reads.refl _).observed
  rw [hs, if_pos rfl] at hrun
  rcases hl : sending c.endpoint.link with _ | _
  · have ha : (outboundFree >>= fun free => if free = true then go else wait).after c =
        go.after c' := by
      apply after_congr
      rw [run_bind, hrun, hl]
      rfl
    rw [ha]
    exact (hg c' ⟨hs, _, rfl, hl⟩).of_reads hread rfl
  · have ha : (outboundFree >>= fun free => if free = true then go else wait).after c =
        wait.after c' := by
      apply after_congr
      rw [run_bind, hrun, hl]
      rfl
    rw [ha]
    exact (hw c').uses.of_reads hread rfl

theorem frugal_refreshSlot (h : Gated turn) : Frugal (refreshSlot >>= fun _ => turn) := by
  intro c
  let c' : Course L A := { c with endpoint := c.endpoint.refreshed }
  have ha : (refreshSlot >>= fun _ => turn).after c = turn.after c' := by
    apply after_congr
    rw [run_bind, run_refreshSlot]
  rw [ha]
  exact (h c').of_reads (ControlSlot.reads_refresh _ _) rfl

theorem Still.frugal (h : Still turn) : Frugal turn := fun c => (h c).uses

theorem Still.frugal_bind (ht : Still turn) (hn : ∀ a, Frugal (next a)) :
    Frugal (turn >>= next) := by
  intro c
  rcases after_bind turn next c with h | ⟨a, h⟩
  · rw [h]
    exact (ht c).uses
  · have hslot : (turn.after c).endpoint.refreshed.slot = c.endpoint.refreshed.slot := by
      simp only [Endpoint.refreshed, (ht c).slot_eq, (ht c).link_eq]
    rw [h, ← hslot]
    exact (ht c).uses_trans (hn a _)

variable [Application A]

theorem frugal_accept (t : Telegram) (field : ControlField) (now : Instant) :
    Frugal (accept t field now : Turn L A Disposition) := by
  refine frugal_refreshSlot (gated_outboundFree ?_ (still_pure _))
  refine (still_count _).guarded_bind fun _ => (still_remember _).guarded_bind fun _ => ?_
  dsimp only
  split
  · exact guarded_bind (guarded_replyDirectly t) fun _ => still_pure _
  · exact guarded_bind (guarded_dispatch _ _ _) fun _ => still_pure _

theorem frugal_route (t : Telegram) (now : Instant) :
    Frugal (route t now : Turn L A Disposition) := by
  unfold route
  split
  · refine (still_bind (still_deliverBroadcast t) fun _ => ?_).frugal
    exact still_bind (still_remember t) fun _ => still_pure _
  · refine (still_bind (still_deliverGroup t) fun _ => ?_).frugal
    exact still_bind (still_remember t) fun _ => still_pure _
  · refine still_endpoint.frugal_bind fun e => ?_
    split
    · split
      · exact (still_drop _).frugal
      · split
        · exact (still_drop _).frugal
        · exact frugal_accept t _ now
    · exact (still_pure _).frugal

theorem frugal_receive (frame : Frame) (now : Instant) :
    Frugal (receive frame now : Turn L A Disposition) := by
  unfold receive
  split
  · exact (still_drop _).frugal
  · refine still_endpoint.frugal_bind fun e => ?_
    split
    · exact (still_drop _).frugal
    · exact frugal_route _ now

theorem frugal_poll (now : Instant) : Frugal (Turn.poll now : Turn L A Unit) := by
  have hduty : Gated (outboundFree >>= fun free => if free = true then duty now else pure () :
      Turn L A Unit) := gated_outboundFree (guarded_duty now) (still_pure _)
  refine frugal_refreshSlot (still_endpoint.gated_bind fun e => ?_)
  dsimp only
  split
  · exact (still_updateAnswers _).gated_bind fun _ => hduty
  · exact hduty

theorem frugal_hangUp (now : Instant) : Frugal (Turn.hangUp now : Turn L A Unit) := by
  refine still_endpoint.frugal_bind fun e => ?_
  split
  · exact frugal_refreshSlot (gated_outboundFree (guarded_dispatch _ _ _) (still_throw _))
  · exact (still_throw _).frugal

end Frugal

end Turn

namespace Endpoint

open Link Turn

variable {L A : Type} [Link L] [Application A]

/-- What a call gives to the link: nothing, or one frame. A frame goes out only if the refreshed
control slot is free and the link was found free just before. -/
inductive Emission (e : Endpoint L A) (call : Call) : Prop
  | nothing {link} : Reads e.link link → offeringsIn (e.journal call) = [] →
      (e.after call).link = link ∨ (e.after call).link = Link.release link → Emission e call
  | frame {link frame} : e.refreshed.slot.isFree = true → Reads e.link link → FoundFree link →
      offeringsIn (e.journal call) = [(frame, refusal link frame)] →
      (e.after call).link = (send link frame).2 ∨
        (e.after call).link = Link.release (send link frame).2 →
      ((refusal link frame).isSome = true → (e.after call).slot.isFree = true) → Emission e call

variable {e : Endpoint L A} {call : Call}

theorem emission_of_uses {c : Course L A} (hu : Uses e.refreshed.slot.isFree { endpoint := e } c)
    (hj : e.journal call = c.journal)
    (ha : e.after call = c.endpoint ∨ e.after call = c.endpoint.release) : e.Emission call := by
  have hlink : (e.after call).link = c.endpoint.link ∨
      (e.after call).link = Link.release c.endpoint.link := by
    rcases ha with ha | ha
    · exact .inl (congrArg _ ha)
    · exact .inr (congrArg _ ha)
  have hslot : (e.after call).slot = c.endpoint.slot := by
    rcases ha with ha | ha
    · rw [ha]
    · rw [ha]
      rfl
  cases hu with
  | nothing hr ho => exact .nothing hr (hj ▸ ho) hlink
  | frame hf hr hfree hl ho hs =>
    rw [hl] at hlink
    rw [← hslot] at hs
    exact .frame hf hr hfree (hj ▸ ho) hlink hs

theorem emission (e : Endpoint L A) (call : Call) : e.Emission call := by
  have hreceive (frame : Frame) (now : Instant) :
      Uses e.refreshed.slot.isFree { endpoint := e } ((Turn.receive frame now).after _) :=
    frugal_receive frame now { endpoint := e }
  cases call with
  | receive frame now =>
    exact emission_of_uses (hreceive frame now) (report_journal ..) (.inl (report_endpoint ..))
  | serve now =>
    rcases h : Link.received e.link with _ | frame
    · refine .nothing (.refl _) ?_ (.inl ?_)
      · simp only [journal, serve, h]
        rfl
      · simp only [after, serve, h]
    · refine emission_of_uses (hreceive frame now) ?_ ?_
      · exact (serve_of_received now h).1.trans (report_journal ..)
      · rw [← report_endpoint]
        simp only [after, serve, h]
        split
        · exact .inl rfl
        · exact .inr rfl
  | poll now =>
    exact emission_of_uses (frugal_poll now { endpoint := e }) (report_journal ..)
      (.inl (report_endpoint ..))
  | hangUp now =>
    exact emission_of_uses (frugal_hangUp now { endpoint := e }) (report_journal ..)
      (.inl (report_endpoint ..))

theorem slot_isFree_of_refused {frame : Frame} {fault : LinkFault}
    (h : .offered frame (some fault) ∈ e.journal call) : (e.after call).slot.isFree = true := by
  have hmem := mem_offeringsIn.mpr h
  cases e.emission call with
  | nothing _ ho _ =>
    rw [ho] at hmem
    exact absurd hmem List.not_mem_nil
  | frame _ _ _ ho _ hfree =>
    rw [ho, List.mem_singleton] at hmem
    obtain ⟨-, hrefusal⟩ := Prod.mk.inj hmem
    exact hfree (by rw [← hrefusal]; rfl)

/-- Every frame of a call finds the control slot free, and a link that is not sending. -/
theorem offered_of_free [Passive L] {frame : Frame} {refusal : Option LinkFault}
    (h : .offered frame refusal ∈ e.journal call) :
    e.refreshed.slot.isFree = true ∧ ∃ link, Reads e.link link ∧ sending link = false ∧
      Link.refusal link frame = refusal := by
  have hmem := mem_offeringsIn.mpr h
  cases e.emission call with
  | nothing _ ho _ =>
    rw [ho] at hmem
    exact absurd hmem List.not_mem_nil
  | @frame link _ hslot hread hfree ho _ _ =>
    rw [ho, List.mem_singleton] at hmem
    obtain ⟨rfl, hrefusal⟩ := Prod.mk.inj hmem
    exact ⟨hslot, link, hread, hfree.sending_eq, hrefusal.symm⟩

omit [Application A] in
theorem wayOutFree_eq [Passive L] (hs : e.slot.state ≠ .acquired) :
    e.wayOutFree = !sending e.link := by
  rcases e with ⟨link, application, profile, connection, ⟨_ | _ | _⟩, answers, statistics, last⟩
  · rfl
  · exact absurd rfl hs
  · rcases hl : sending link with _ | _
    · have hobserved := Passive.sending_observed link hl
      simp [wayOutFree, refreshed, ControlSlot.refresh, ControlSlot.isFree, hl, hobserved]
    · simp [wayOutFree, refreshed, ControlSlot.refresh, ControlSlot.isFree, hl]

end Endpoint

end BusTransport
