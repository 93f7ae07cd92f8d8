import Mathlib.Data.List.DropRight
import BusTransport.Outbound.AnswerQueue

/-! # Order of the answer queue

In whatever order its owner calls it, the queue holds the answers that were staged since it was last
cleared, first come first, without those that were done. Only the first of them may be sent, and it
keeps the frame under which it was sent last.
-/

namespace BusTransport

theorem AnswerQueue.hasRoom_iff {q : AnswerQueue} : q.hasRoom = true ↔ q.size < 2 := by
  rw [hasRoom, isFull, Bool.not_eq_true', decide_eq_false_iff_not, Nat.not_le, capacity]

theorem AnswerQueue.exists_ready {q : AnswerQueue} (h : q.primaryReady = true) :
    ∃ entry rest, q.entries = entry :: rest ∧ entry.phase = .ready := by
  rcases hq : q.entries with _ | ⟨entry, rest⟩
  · simp [primaryReady, primaryPhase?, primary?, hq] at h
  · refine ⟨entry, rest, rfl, ?_⟩
    simpa [primaryReady, primaryPhase?, primary?, hq] using h

theorem AnswerPhase.released_ne_awaitingAck (phase : AnswerPhase) :
    phase.released ≠ .awaitingAck := by
  cases phase <;> nofun

@[simp] theorem AnswerPhase.released_eq_sending_iff {phase : AnswerPhase} :
    phase.released = .sending ↔ phase = .sending := by
  cases phase <;> decide

@[simp] theorem AnswerPhase.released_released (phase : AnswerPhase) :
    phase.released.released = phase.released := by
  cases phase <;> rfl

namespace PendingAnswer

def item (entry : PendingAnswer) : DeviceAddress × Priority × Answer :=
  (entry.destination, entry.priority, entry.answer)

structure Unsent (entry : PendingAnswer) : Prop where
  phase_ne : entry.phase ≠ .sending
  frame?_eq : entry.frame? = none

/-- A frame is kept for the answer exactly while it is being sent. -/
def Keeps (entry : PendingAnswer) : Prop := entry.frame?.isSome ↔ entry.phase = .sending

variable {entry : PendingAnswer}

@[simp] theorem item_released (entry : PendingAnswer) : entry.released.item = entry.item := rfl

@[simp] theorem item_sentAs (entry : PendingAnswer) (frame : Frame) :
    (entry.sentAs frame).item = entry.item := rfl

@[simp] theorem released_released (entry : PendingAnswer) :
    entry.released.released = entry.released := by
  simp [released]

theorem Unsent.released (h : entry.Unsent) : entry.released.Unsent where
  phase_ne := mt AnswerPhase.released_eq_sending_iff.mp h.phase_ne
  frame?_eq := h.frame?_eq

theorem Unsent.phase_released (h : entry.Unsent) : entry.released.phase = .ready := by
  rcases hphase : entry.phase with _ | _ | _
  · simp [PendingAnswer.released, hphase, AnswerPhase.released]
  · simp [PendingAnswer.released, hphase, AnswerPhase.released]
  · exact absurd hphase h.phase_ne

theorem Keeps.released (h : entry.Keeps) : entry.released.Keeps :=
  Iff.trans h AnswerPhase.released_eq_sending_iff.symm

theorem keeps_sentAs (entry : PendingAnswer) (frame : Frame) : (entry.sentAs frame).Keeps :=
  iff_of_true rfl rfl

theorem Keeps.unsent (h : entry.Keeps) (hphase : entry.phase ≠ .sending) : entry.Unsent where
  phase_ne := hphase
  frame?_eq := Option.not_isSome_iff_eq_none.mp (mt h.mp hphase)

end PendingAnswer

namespace AnswerQueue

@[simp] theorem release_release (q : AnswerQueue) : q.release.release = q.release := by
  simp [release]

@[simp] theorem hasRoom_release (q : AnswerQueue) : q.release.hasRoom = q.hasRoom := by
  have hsize : q.release.size = q.size := List.length_map _
  rw [hasRoom, hasRoom, isFull, isFull, hsize]

theorem outstandingFrame?_of_entries {q : AnswerQueue} {entry : PendingAnswer}
    {rest : List PendingAnswer} (h : q.entries = entry :: rest) :
    q.outstandingFrame? = entry.frame? := by
  simp [outstandingFrame?, primary?, h]

@[simp] theorem outstandingFrame?_release (q : AnswerQueue) :
    q.release.outstandingFrame? = q.outstandingFrame? := by
  obtain ⟨_ | ⟨entry, rest⟩⟩ := q
  · rfl
  · rfl

end AnswerQueue

inductive QueueCall where
  | stage (destination : DeviceAddress) (priority : Priority) (answer : Answer)
  | release
  | markSending (frame : Frame)
  | dropPrimary
  | clear
  deriving DecidableEq, Repr

/-- The call leaves the primary answer, and the frame under which it was sent, as they are. -/
def QueueCall.sparesPrimary : QueueCall → Bool
  | stage .. | release => true
  | markSending _ | dropPrimary | clear => false

namespace AnswerQueue

variable {q : AnswerQueue} {calls : List QueueCall} {frame : Frame}

/-- A call that fails leaves the queue as it was. -/
def after (q : AnswerQueue) : QueueCall → AnswerQueue
  | .stage destination priority answer =>
    match q.stage destination priority answer with
    | .ok q' => q'
    | .error _ => q
  | .release => q.release
  | .markSending frame => q.markSending frame
  | .dropPrimary => q.dropPrimary
  | .clear => q.clear

def run (calls : List QueueCall) : AnswerQueue := calls.foldl after {}

/-- Each call with the queue that it meets. -/
def meetings : AnswerQueue → List QueueCall → List (AnswerQueue × QueueCall)
  | _, [] => []
  | q, call :: calls => (q, call) :: meetings (q.after call) calls

def recent (calls : List QueueCall) : List (AnswerQueue × QueueCall) :=
  (meetings {} calls).rtakeWhile (·.2 ≠ .clear)

def staged? : AnswerQueue × QueueCall → Option (DeviceAddress × Priority × Answer)
  | (q, .stage destination priority answer) =>
    if (q.stage destination priority answer).isOk then some (destination, priority, answer)
    else none
  | _ => none

def drops : AnswerQueue × QueueCall → Bool
  | (q, .dropPrimary) => !q.isEmpty
  | _ => false

/-- What was staged since the last clearance. -/
def staged (calls : List QueueCall) : List (DeviceAddress × Priority × Answer) :=
  (recent calls).filterMap staged?

def dropped (calls : List QueueCall) : Nat := (recent calls).countP drops

/-- The primary answer was marked as sent under this frame, and nothing has happened to it since. -/
def LastMarked (calls : List QueueCall) (frame : Frame) : Prop :=
  ∃ before later, calls = before ++ .markSending frame :: later ∧ (run before).entries ≠ [] ∧
    ∀ call ∈ later, call.sparesPrimary = true

@[simp] theorem run_concat (calls : List QueueCall) (call : QueueCall) :
    run (calls ++ [call]) = (run calls).after call := List.foldl_concat ..

theorem meetings_concat (q : AnswerQueue) (calls : List QueueCall) (call : QueueCall) :
    meetings q (calls ++ [call]) = meetings q calls ++ [(calls.foldl after q, call)] := by
  induction calls generalizing q with
  | nil => rfl
  | cons first calls ih => simp [meetings, ih]

@[simp] theorem recent_clear (calls : List QueueCall) : recent (calls ++ [.clear]) = [] := by
  simp [recent, meetings_concat]

theorem recent_concat {call : QueueCall} (calls : List QueueCall) (hne : call ≠ .clear) :
    recent (calls ++ [call]) = recent calls ++ [(run calls, call)] := by
  simp [recent, meetings_concat, hne, run]

theorem stage_of_lt (h : q.size < 2) (destination : DeviceAddress) (priority : Priority)
    (answer : Answer) : q.stage destination priority answer =
      .ok ⟨q.entries ++ [⟨destination, priority, answer, .awaitingAck, none⟩]⟩ := by
  simp [stage, isFull, capacity, Nat.not_le.mpr h]

theorem stage_of_le (h : 2 ≤ q.size) (destination : DeviceAddress) (priority : Priority)
    (answer : Answer) : q.stage destination priority answer = .error .answerQueue := by
  simp [stage, isFull, capacity, h]

theorem staged_concat {call : QueueCall} (calls : List QueueCall) (hne : call ≠ .clear) :
    staged (calls ++ [call]) = staged calls ++ (staged? (run calls, call)).toList := by
  rw [staged, recent_concat calls hne, List.filterMap_append]
  rcases h : staged? (run calls, call) with _ | item
  · simp [staged, h]
  · simp [staged, h]

theorem dropped_concat {call : QueueCall} (calls : List QueueCall) (hne : call ≠ .clear) :
    dropped (calls ++ [call]) = dropped calls + (drops (run calls, call)).toNat := by
  rw [dropped, recent_concat calls hne, List.countP_append]
  rcases h : drops (run calls, call) with _ | _
  · simp [dropped, h]
  · simp [dropped, h]

/-- What one call does to the items: it may add one at the end, and it may drop the first. -/
theorem items_after {call : QueueCall} (q : AnswerQueue) (hne : call ≠ .clear) :
    (q.after call).entries.map PendingAnswer.item =
      (q.entries.map PendingAnswer.item ++ (staged? (q, call)).toList).drop
        (drops (q, call)).toNat := by
  cases call with
  | stage destination priority answer =>
    rcases Nat.lt_or_ge q.size 2 with hlt | hle
    · simp [after, stage_of_lt hlt, staged?, drops, PendingAnswer.item, Except.isOk, Except.toBool]
    · simp [after, stage_of_le hle, staged?, drops, Except.isOk, Except.toBool]
  | release => simp [after, release, staged?, drops]
  | markSending frame =>
    obtain ⟨_ | ⟨entry, rest⟩⟩ := q
    · rfl
    · simp [after, markSending, staged?, drops]
  | dropPrimary =>
    obtain ⟨_ | ⟨entry, rest⟩⟩ := q
    · rfl
    · simp [after, dropPrimary, staged?, drops, isEmpty]
  | clear => exact absurd rfl hne

theorem ne_nil_of_drops {call : QueueCall} (h : drops (q, call) = true) : q.entries ≠ [] := by
  cases call with
  | dropPrimary => simpa [drops, isEmpty] using h
  | stage | release | markSending | clear => cases h

structure Holds (calls : List QueueCall) : Prop where
  items_eq : (run calls).entries.map PendingAnswer.item = (staged calls).drop (dropped calls)
  dropped_le : dropped calls ≤ (staged calls).length

theorem holds_concat {call : QueueCall} (h : Holds calls) (hne : call ≠ .clear) :
    Holds (calls ++ [call]) := by
  obtain ⟨hitems, hle⟩ := h
  constructor
  · rw [run_concat, items_after _ hne, hitems, staged_concat calls hne, dropped_concat calls hne,
      ← List.drop_append_of_le_length hle, List.drop_drop]
  · rw [staged_concat calls hne, dropped_concat calls hne, List.length_append]
    rcases hdrops : drops (run calls, call) with _ | _
    · simp only [Bool.toNat_false]
      omega
    · -- there is an answer left to be dropped
      have hlength := congrArg List.length hitems
      have hpos := List.length_pos_iff.mpr (ne_nil_of_drops hdrops)
      simp only [List.length_map, List.length_drop] at hlength
      simp only [Bool.toNat_true]
      omega

theorem holds (calls : List QueueCall) : Holds calls := by
  induction calls using List.reverseRecOn with
  | nil => exact ⟨rfl, Nat.le_refl _⟩
  | append_singleton calls call ih =>
    by_cases hclear : call = .clear
    · subst hclear
      constructor
      · simp [after, clear, staged, dropped]
      · simp [dropped]
    · exact holds_concat ih hclear

structure Leads (entry later : PendingAnswer) : Prop where
  unsent : later.phase ≠ .sending
  unreleased : entry.phase = .awaitingAck → later.phase = .awaitingAck

/-- No entry but the first was sent, and none was released before the first. -/
structure Tidy (q : AnswerQueue) : Prop where
  size_le : q.size ≤ 2
  leads : q.entries.Pairwise Leads
  keeps : ∀ entry ∈ q.entries, entry.Keeps

theorem Tidy.after (h : q.Tidy) (call : QueueCall) : (q.after call).Tidy := by
  obtain ⟨hsize, hleads, hkeeps⟩ := h
  cases call with
  | stage destination priority answer =>
    rcases Nat.lt_or_ge q.size 2 with hlt | hle
    · rw [AnswerQueue.after, stage_of_lt hlt]
      constructor
      · simp only [size, List.length_append, List.length_singleton] at hlt ⊢
        omega
      · rw [List.pairwise_append]
        refine ⟨hleads, List.pairwise_singleton .., ?_⟩
        simp only [List.mem_singleton]
        rintro entry - _ rfl
        exact ⟨nofun, fun _ => rfl⟩
      · refine List.forall_mem_append.mpr ⟨hkeeps, List.forall_mem_singleton.mpr ?_⟩
        exact iff_of_false nofun nofun
    · rw [AnswerQueue.after, stage_of_le hle]
      exact ⟨hsize, hleads, hkeeps⟩
  | release =>
    constructor
    · simpa [AnswerQueue.after, release, size] using hsize
    · rw [AnswerQueue.after, release, List.pairwise_map]
      refine hleads.imp fun hlead => ⟨?_, fun hawaits => ?_⟩
      · exact mt AnswerPhase.released_eq_sending_iff.mp hlead.unsent
      · exact absurd hawaits (AnswerPhase.released_ne_awaitingAck _)
    · exact List.forall_mem_map.mpr fun entry hmem => (hkeeps entry hmem).released
  | markSending frame =>
    obtain ⟨_ | ⟨entry, rest⟩⟩ := q
    · exact ⟨hsize, hleads, hkeeps⟩
    · rw [List.pairwise_cons] at hleads
      rw [List.forall_mem_cons] at hkeeps
      refine ⟨hsize, List.pairwise_cons.mpr ⟨?_, hleads.2⟩,
        List.forall_mem_cons.mpr ⟨entry.keeps_sentAs frame, hkeeps.2⟩⟩
      intro later hmem
      exact ⟨(hleads.1 later hmem).unsent, nofun⟩
  | dropPrimary =>
    constructor
    · simp only [AnswerQueue.after, dropPrimary, size, List.length_tail] at hsize ⊢
      omega
    · exact hleads.tail
    · exact fun entry hmem => hkeeps entry (List.mem_of_mem_tail hmem)
  | clear => exact ⟨Nat.zero_le _, .nil, nofun⟩

theorem tidy_run (calls : List QueueCall) : (run calls).Tidy := by
  induction calls using List.reverseRecOn with
  | nil => exact ⟨Nat.zero_le _, .nil, nofun⟩
  | append_singleton calls call ih =>
    rw [run_concat]
    exact ih.after call

theorem Tidy.unsent (h : q.Tidy) {place : Nat} {entry : PendingAnswer} (hplace : place ≠ 0)
    (hentry : q.entries[place]? = some entry) : entry.Unsent := by
  obtain ⟨-, hleads, hkeeps⟩ := h
  refine (hkeeps entry (List.mem_of_getElem? hentry)).unsent ?_
  obtain ⟨_ | ⟨first, rest⟩⟩ := q
  · cases hentry
  · obtain ⟨place, rfl⟩ := Nat.exists_eq_succ_of_ne_zero hplace
    rw [List.pairwise_cons] at hleads
    exact (hleads.1 entry (List.mem_of_getElem? hentry)).unsent

theorem Tidy.frame?_eq_none (h : q.Tidy) {place : Nat} (hplace : place ≠ 0) :
    q.entries[place]?.bind (·.frame?) = none := by
  rcases hentry : q.entries[place]? with _ | entry
  · rfl
  · exact (h.unsent hplace hentry).frame?_eq

theorem outstandingFrame?_eq (q : AnswerQueue) :
    q.outstandingFrame? = q.entries[0]?.bind (·.frame?) := by
  obtain ⟨_ | ⟨entry, rest⟩⟩ := q
  · rfl
  · rfl

theorem outstandingFrame?_of_spares {call : QueueCall} (h : call.sparesPrimary = true) :
    (q.after call).outstandingFrame? = q.outstandingFrame? := by
  cases call with
  | stage destination priority answer =>
    rcases Nat.lt_or_ge q.size 2 with hlt | hle
    · rw [after, stage_of_lt hlt]
      obtain ⟨_ | ⟨entry, rest⟩⟩ := q
      · rfl
      · rfl
    · rw [after, stage_of_le hle]
  | release => exact outstandingFrame?_release q
  | markSending | dropPrimary | clear => cases h

theorem outstandingFrame?_markSending (q : AnswerQueue) (frame : Frame) :
    (q.markSending frame).outstandingFrame? = if q.entries = [] then none else some frame := by
  obtain ⟨_ | ⟨entry, rest⟩⟩ := q
  · rfl
  · rfl

/-- The answer that comes to the front was never sent. -/
theorem Tidy.outstandingFrame?_dropPrimary (h : q.Tidy) :
    q.dropPrimary.outstandingFrame? = none := by
  have hsecond : q.dropPrimary.entries[0]? = q.entries[1]? := by simp [dropPrimary]
  rw [outstandingFrame?_eq, hsecond]
  exact h.frame?_eq_none Nat.one_ne_zero

theorem lastMarked_concat {call : QueueCall} : LastMarked (calls ++ [call]) frame ↔
    (call.sparesPrimary = true ∧ LastMarked calls frame) ∨
      (call = .markSending frame ∧ (run calls).entries ≠ []) := by
  constructor
  · rintro ⟨before, later, hcalls, hne, hspares⟩
    rcases List.eq_nil_or_concat later with rfl | ⟨later, last, rfl⟩
    · obtain ⟨rfl, hcall⟩ := List.append_inj' hcalls rfl
      exact .inr ⟨List.singleton_injective hcall, hne⟩
    · rw [List.concat_eq_append, ← List.cons_append, ← List.append_assoc] at hcalls
      obtain ⟨hbefore, hcall⟩ := List.append_inj' hcalls rfl
      obtain rfl := List.singleton_injective hcall
      exact .inl ⟨hspares call (by simp), before, later, hbefore, hne,
        fun call' hmem => hspares call' (by simp [hmem])⟩
  · rintro (⟨hspares, before, later, rfl, hne, hlater⟩ | ⟨rfl, hne⟩)
    · refine ⟨before, later ++ [call], by simp, hne, ?_⟩
      simp only [List.mem_append, List.mem_singleton]
      rintro call' (hmem | rfl)
      · exact hlater call' hmem
      · exact hspares
    · exact ⟨calls, [], rfl, hne, by simp⟩

theorem outstandingFrame?_iff (calls : List QueueCall) (frame : Frame) :
    (run calls).outstandingFrame? = some frame ↔ LastMarked calls frame := by
  induction calls using List.reverseRecOn with
  | nil => exact iff_of_false nofun (by simp [LastMarked])
  | append_singleton calls call ih =>
    rw [run_concat, lastMarked_concat]
    cases call with
    | stage destination priority answer =>
      rw [outstandingFrame?_of_spares rfl, ih]
      simp [QueueCall.sparesPrimary]
    | release =>
      rw [outstandingFrame?_of_spares rfl, ih]
      simp [QueueCall.sparesPrimary]
    | markSending frame' =>
      rw [after, outstandingFrame?_markSending]
      simp [QueueCall.sparesPrimary, and_comm]
    | dropPrimary =>
      rw [after, (tidy_run calls).outstandingFrame?_dropPrimary]
      simp [QueueCall.sparesPrimary]
    | clear =>
      have hnone : (after (run calls) .clear).outstandingFrame? = none := rfl
      simp [hnone, QueueCall.sparesPrimary]

theorem primaryPhase?_ne_none (h : q.secondaryPhase? ≠ none) : q.primaryPhase? ≠ none := by
  obtain ⟨_ | ⟨entry, rest⟩⟩ := q
  · exact absurd rfl h
  · nofun

theorem Tidy.secondaryPhase?_ne (h : q.Tidy) : q.secondaryPhase? ≠ some .sending := by
  intro hphase
  obtain ⟨entry, hentry, hsending⟩ := Option.map_eq_some_iff.mp hphase
  exact (h.unsent Nat.one_ne_zero hentry).phase_ne hsending

theorem Tidy.unreleased (h : q.Tidy) (hprimary : q.primaryPhase? = some .awaitingAck) :
    q.secondaryPhase? ≠ some .ready := by
  obtain ⟨-, hleads, -⟩ := h
  obtain ⟨_ | ⟨entry, _ | ⟨later, rest⟩⟩⟩ := q
  · nofun
  · nofun
  · have hawaits : entry.phase = .awaitingAck := Option.some.inj hprimary
    have hlater := (List.rel_of_pairwise_cons hleads (List.mem_cons_self ..)).unreleased hawaits
    simp [secondaryPhase?, hlater]

theorem exists_error_iff (q : AnswerQueue) (destination : DeviceAddress) (priority : Priority)
    (answer : Answer) :
    (∃ fault, q.stage destination priority answer = .error fault) ↔ 2 ≤ q.size := by
  rcases Nat.lt_or_ge q.size 2 with hlt | hle
  · rw [stage_of_lt hlt]
    exact iff_of_false nofun (Nat.not_le.mpr hlt)
  · exact iff_of_true ⟨_, stage_of_le hle destination priority answer⟩ hle

structure Fifo (calls : List QueueCall) : Prop where
  items_eq : (run calls).entries.map PendingAnswer.item = (staged calls).drop (dropped calls)
  dropped_le : dropped calls ≤ (staged calls).length
  size_le : (run calls).size ≤ 2
  refuses_iff : ∀ destination priority answer,
    (∃ fault, (run calls).stage destination priority answer = .error fault) ↔ (run calls).size = 2
  refused : ∀ destination priority answer fault,
    (run calls).stage destination priority answer = .error fault →
      (Fault.busy fault).kind = .slotBusy ∧
        run (calls ++ [.stage destination priority answer]) = run calls
  /-- There is no second answer without a first one. -/
  primary : (run calls).secondaryPhase? ≠ none → (run calls).primaryPhase? ≠ none
  secondary : (run calls).secondaryPhase? ≠ some .sending
  keeps_iff : ∀ entry ∈ (run calls).entries, entry.frame?.isSome ↔ entry.phase = .sending
  frame_iff : ∀ place frame, (run calls).entries[place]?.bind (·.frame?) = some frame ↔
    place = 0 ∧ LastMarked calls frame
  /-- The acknowledgement before the second answer does not leave before that of the first. -/
  released : (run calls).primaryPhase? = some .awaitingAck →
    (run calls).secondaryPhase? ≠ some .ready

/-- Whatever its owner does with it, the queue serves the answers in the order of their requests. -/
theorem fifo_of_calls (calls : List QueueCall) : Fifo calls := by
  have htidy := tidy_run calls
  constructor
  case items_eq => exact (holds calls).items_eq
  case dropped_le => exact (holds calls).dropped_le
  case size_le => exact htidy.size_le
  case refuses_iff =>
    intro destination priority answer
    have hsize := htidy.size_le
    rw [exists_error_iff]
    omega
  case refused =>
    intro destination priority answer fault hstage
    constructor
    · have hle := (exists_error_iff _ destination priority answer).mp ⟨fault, hstage⟩
      rw [stage_of_le hle] at hstage
      obtain rfl := Except.error.inj hstage
      rfl
    · rw [run_concat, after, hstage]
  case primary => exact primaryPhase?_ne_none
  case secondary => exact htidy.secondaryPhase?_ne
  case keeps_iff => exact htidy.keeps
  case frame_iff =>
    intro place frame
    by_cases hplace : place = 0
    · subst hplace
      rw [← outstandingFrame?_eq, outstandingFrame?_iff]
      simp
    · simp [htidy.frame?_eq_none hplace, hplace]
  case released => exact htidy.unreleased

end AnswerQueue

/-- Two answers are staged and the first one is sent twice; a third one finds no room. -/
def Sample.queueCalls : List QueueCall := [
  .stage ⟨0xA001⟩ .low (.ofCommand 0x140 []), .release, .markSending [0xAA],
  .stage ⟨0xA001⟩ .normal (.ofCommand 0x240 []), .markSending [0xBB],
  .stage ⟨0xA001⟩ .low (.ofCommand 0x340 [])]

open AnswerQueue Sample in
theorem fifo_promotion : LastMarked queueCalls [0xBB] ∧
    (run (queueCalls ++ [.dropPrimary])).entries.map PendingAnswer.item =
      [(⟨0xA001⟩, .normal, .ofCommand 0x240 [])] := by
  have hfirst := fifo_of_calls queueCalls
  have hsecond := fifo_of_calls (queueCalls ++ [.dropPrimary])
  exact ⟨((hfirst.frame_iff 0 [0xBB]).mp rfl).2, hsecond.items_eq.trans rfl⟩

end BusTransport
