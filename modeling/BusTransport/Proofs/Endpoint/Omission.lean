import BusTransport.Proofs.Endpoint.Lockstep
import BusTransport.Proofs.Endpoint.Stranger

/-! # Scripts without the frames of strangers

When frames of strangers are left out of a script, what is left of it goes as before. Over a link
that finishes every frame at once each remaining happening finds and leaves the same dialogue and
application, and sends the same frames. What went with the others are disconnects to the strangers.
-/

namespace BusTransport

/-- What can be seen of a happening: the frame that it handed over, its journal, what the link took
to send, and the dialogue and the application after it. -/
@[ext]
structure Moment (A : Type) where
  handed? : Option Frame
  journal : List Activity
  sent : List Frame
  dialogue : Dialogue
  application : A

/-- No telegram that is marked as repeated. -/
def Plain (frame : Frame) : Prop := ∀ t, Telegram.decode frame = .ok t → t.repeated = false

namespace Happening

def arriving? : Happening → Option Frame
  | .inject frame | .call (.receive frame _) => some frame
  | _ => none

/-- Whether a happening is left out of a script, and the marks of the frames that wait after it. Its
own mark is that of the frame that arrives; a waiting frame goes with the call that serves it. -/
def leaves (waiting : List Bool) (mark : Bool) : Happening → Bool × List Bool
  | .inject _ => (mark, waiting ++ [mark])
  | .call (.receive _ _) => (mark, waiting)
  | .call (.serve _) => (waiting.headD false, waiting.tail)
  | .call (.poll _) | .call (.hangUp _) | .complete | .transmit _ | .occupy _ => (false, waiting)

end Happening

def leavings (waiting : List Bool) : List (Happening × Bool) → List Bool
  | [] => []
  | (happening, mark) :: rest =>
    (happening.leaves waiting mark).1 :: leavings (happening.leaves waiting mark).2 rest

def select {α : Type} (out : Bool) : List Bool → List α → List α
  | leaving :: leavings, a :: as =>
    if leaving = out then a :: select out leavings as else select out leavings as
  | _, _ => []

theorem select_append {α : Type} {out : Bool} {marks : List Bool} {as : List α}
    (h : marks.length = as.length) (mark : Bool) (a : α) :
    select out (marks ++ [mark]) (as ++ [a]) =
      select out marks as ++ if mark = out then [a] else [] := by
  induction marks generalizing as with
  | nil =>
    obtain rfl := List.length_eq_zero_iff.mp h.symm
    simp [select]
  | cons m marks ih =>
    cases as with
    | nil => cases h
    | cons b as =>
      simp only [List.cons_append, select, ih (Nat.succ.inj h)]
      split <;> rfl

namespace Endpoint

variable {A : Type} [Application A]

def moment (e : Endpoint RecordingLink A) (happening : Happening) : Moment A where
  handed? := match happening with
    | .call call => e.handed? call
    | _ => none
  journal := match happening with
    | .call call => e.journal call
    | _ => []
  sent := (e.meet happening).link.sent.drop e.link.sent.length
  dialogue := (e.meet happening).dialogue
  application := (e.meet happening).application

def moments (e : Endpoint RecordingLink A) : List Happening → List (Moment A)
  | [] => []
  | happening :: script => e.moment happening :: (e.meet happening).moments script

theorem sent_meet (e : Endpoint RecordingLink A) (happening : Happening) :
    (e.meet happening).link.sent = e.link.sent ++ (e.moment happening).sent := by
  have hgrows : ∃ frames, (e.meet happening).link.sent = e.link.sent ++ frames := by
    cases happening with
    | call call =>
      obtain ⟨_, _, hl⟩ := e.exists_link_after call
      exact ⟨_, congrArg (·.sent) hl⟩
    | transmit frame =>
      rcases hs : e.link.sending with _ | _
      · exact ⟨[frame], congrArg (·.2.sent) (RecordingLink.send_of_free hs frame)⟩
      · refine ⟨[], ?_⟩
        rw [List.append_nil]
        exact congrArg (·.2.sent) (RecordingLink.send_of_sending hs frame)
    | _ => exact ⟨[], (List.append_nil _).symm⟩
  obtain ⟨frames, h⟩ := hgrows
  change _ = _ ++ (e.meet happening).link.sent.drop _
  rw [h, List.drop_left]

theorem sent_meetAll (e : Endpoint RecordingLink A) (script : List Happening) :
    (e.meetAll script).link.sent = e.link.sent ++ (e.moments script).flatMap (·.sent) := by
  induction script generalizing e with
  | nil => exact (List.append_nil _).symm
  | cons happening script ih =>
    refine (ih (e.meet happening)).trans ?_
    rw [sent_meet, List.append_assoc, moments, List.flatMap_cons]

theorem sent_moment_call (e : Endpoint RecordingLink A) (call : Call) :
    (e.moment (.call call)).sent = (offeringsIn (e.journal call)).map Prod.fst := by
  obtain ⟨_, _, hl⟩ := e.exists_link_after call
  change (e.after call).link.sent.drop _ = _
  rw [hl, List.drop_left]

/-- Every frame that a left out call hands over comes from a stranger to the open connection. -/
def Admits (e : Endpoint RecordingLink A) (waiting : List Bool) : List (Happening × Bool) → Prop
  | [] => True
  | (happening, mark) :: rest =>
    ((happening.leaves waiting mark).1 = true → ∀ frame, (e.moment happening).handed? = some frame →
      ∃ p t field, e.Strange p frame t field) ∧
    (e.meet happening).Admits (happening.leaves waiting mark).2 rest

end Endpoint

/-- Frames that wait, with their marks, and those of them that are not left out. -/
structure Stock (waiting : List Bool) (frames kept : List Frame) : Prop where
  length_eq : waiting.length = frames.length
  kept_eq : kept = select false waiting frames
  plain : ∀ frame ∈ frames, Plain frame

namespace Stock

variable {waiting : List Bool} {frames kept : List Frame} {frame : Frame}

theorem add (h : Stock waiting frames kept) (hframe : Plain frame) (mark : Bool) :
    Stock (waiting ++ [mark]) (frames ++ [frame])
      (kept ++ if mark = false then [frame] else []) where
  length_eq := by
    rw [List.length_append, List.length_append, h.length_eq]
    rfl
  kept_eq := by rw [h.kept_eq, select_append h.length_eq]
  plain frame' hmem := (List.mem_append.mp hmem).elim (h.plain frame') fun hmem =>
    List.mem_singleton.mp hmem ▸ hframe

theorem length_tail (h : Stock waiting frames kept) : waiting.tail.length = frames.tail.length := by
  rw [List.length_tail, List.length_tail, h.length_eq]

theorem keep (h : Stock waiting frames kept) (hhead : waiting.headD false = false) :
    kept.head? = frames.head? ∧ Stock waiting.tail frames.tail kept.tail := by
  obtain rfl := h.kept_eq
  match frames, waiting, h with
  | [], [], h => exact ⟨rfl, h⟩
  | frame :: frames, false :: waiting, h =>
    exact ⟨rfl, h.length_tail, rfl, fun frame' hmem => h.plain frame' (List.mem_of_mem_tail hmem)⟩

theorem leave (h : Stock waiting frames kept) (hhead : waiting.headD false = true) :
    ∃ frame, frames.head? = some frame ∧ Stock waiting.tail frames.tail kept := by
  match frames, waiting, h with
  | [], [], _ => cases hhead
  | frame :: frames, true :: waiting, h =>
    exact ⟨frame, rfl, h.length_tail, h.kept_eq,
      fun frame' hmem => h.plain frame' (List.mem_of_mem_tail hmem)⟩

end Stock

/-- At most a disconnect was sent, to the device that the frame handed over came from. -/
inductive Moment.Rebuffed {A : Type} (own : DeviceAddress) (m : Moment A) : Prop
  | arrival : m.handed? = none → m.journal = [] → m.sent = [] → Rebuffed own m
  | call {frame t field} : m.handed? = some frame → Telegram.decode frame = .ok t →
      ControlField.decode t.tpci = .ok field → Rebuff own t.source field m.journal →
      (m.sent = [] ∨ field = .connect ∧ ∃ frame,
        Endpoint.controlFrame own t.source .disconnect = .ok frame ∧ m.sent = [frame]) →
      Rebuffed own m

namespace Endpoint

variable {A : Type} {e e' : Endpoint RecordingLink A} {call : Call} {happening : Happening}
  {waiting : List Bool} {mark : Bool} {own : DeviceAddress} {frame : Frame}

/-- The second endpoint has missed the frames that are marked. -/
structure Shadows (own : DeviceAddress) (e e' : Endpoint RecordingLink A) (waiting : List Bool) :
    Prop where
  alike : e.Alike e'
  address_eq : e.link.address = own
  stock : Stock waiting e.link.inbound e'.link.inbound

theorem own_of_quick (h : Quick e.link e.slot) : e.own = e.link.address := by
  unfold Endpoint.own settled refreshed
  rw [h.refresh]
  rfl

theorem Shadows.plain_handed (h : Shadows own e e' waiting)
    (hplain : ∀ frame, (Happening.call call).arriving? = some frame → Plain frame)
    (hframe : e.handed? call = some frame) : Plain frame := by
  cases call with
  | receive frame' now => exact hplain frame hframe
  | serve now => exact h.stock.plain frame (List.mem_of_mem_head? hframe)
  | poll now => cases hframe
  | hangUp now => cases hframe

theorem Shadows.handed?_eq (h : Shadows own e e' waiting)
    (hkeep : ((Happening.call call).leaves waiting mark).1 = false) :
    e'.handed? call = e.handed? call := by
  cases call with
  | serve now => exact (h.stock.keep hkeep).1
  | _ => rfl

variable [Application A]

theorem address_after (e : Endpoint RecordingLink A) (call : Call) :
    (e.after call).link.address = e.link.address := by
  obtain ⟨_, _, hl⟩ := e.exists_link_after call
  rw [hl]

theorem inbound_receive (e : Endpoint RecordingLink A) (frame : Frame) (now : Instant) :
    (e.after (.receive frame now)).link.inbound = e.link.inbound :=
  e.inbound_after nofun

theorem inbound_serve (h : Quick e.link e.slot) (now : Instant) :
    (e.after (.serve now)).link.inbound = e.link.inbound.tail := by
  rcases hr : Link.received e.link with _ | frame
  · have hnil : e.link.inbound = [] := List.head?_eq_none_iff.mp hr
    have ha : e.after (.serve now) = e := by simp only [Endpoint.after, serve, hr]
    rw [ha, hnil]
    rfl
  · rw [serve_of_quick h hr]
    exact congrArg List.tail (e.inbound_receive frame now)

theorem Alike.moment_eq (h : (e.meet happening).Alike (e'.meet happening))
    (hhanded : (e'.moment happening).handed? = (e.moment happening).handed?)
    (hjournal : (e'.moment happening).journal = (e.moment happening).journal)
    (hsent : (e'.moment happening).sent = (e.moment happening).sent) :
    e'.moment happening = e.moment happening :=
  Moment.ext hhanded hjournal hsent (congrArg₂ Dialogue.mk h.connection_eq h.answers_eq)
    h.application_eq

theorem Shadows.keep_call (h : Shadows own e e' waiting)
    (hplain : ∀ frame, (Happening.call call).arriving? = some frame → Plain frame)
    (hkeep : ((Happening.call call).leaves waiting mark).1 = false) :
    e'.moment (.call call) = e.moment (.call call) ∧ Shadows own (e.after call) (e'.after call)
      ((Happening.call call).leaves waiting mark).2 := by
  have hhanded := h.handed?_eq hkeep
  obtain ⟨hjournal, halike⟩ :=
    h.alike.after hhanded fun frame t hframe ht => h.plain_handed hplain hframe t ht
  refine ⟨Alike.moment_eq halike hhanded hjournal ?_, halike, ?_, ?_⟩
  · rw [sent_moment_call, sent_moment_call, hjournal]
  · exact (e.address_after call).trans h.address_eq
  have hother (hne : ∀ now, call ≠ .serve now) :
      Stock waiting (e.after call).link.inbound (e'.after call).link.inbound := by
    rw [inbound_after e hne, inbound_after e' hne]
    exact h.stock
  cases call with
  | serve now =>
    rw [inbound_serve h.alike.left, inbound_serve h.alike.right]
    exact (h.stock.keep hkeep).2
  | _ => exact hother nofun

/-- What is not left out goes the same way on both sides. -/
theorem Shadows.keep (h : Shadows own e e' waiting)
    (hplain : ∀ frame, happening.arriving? = some frame → Plain frame)
    (hkeep : (happening.leaves waiting mark).1 = false) :
    e'.moment happening = e.moment happening ∧
      Shadows own (e.meet happening) (e'.meet happening) (happening.leaves waiting mark).2 := by
  obtain ⟨hl, hr⟩ := And.intro h.alike.left h.alike.right
  have hquiet {link link' : RecordingLink} (hs : link.sent = e.link.sent)
      (hs' : link'.sent = e'.link.sent) :
      link'.sent.drop e'.link.sent.length = link.sent.drop e.link.sent.length := by
    rw [hs, hs', List.drop_length, List.drop_length]
  cases happening with
  | call call => exact h.keep_call hplain hkeep
  | complete =>
    have halike : (e.meet .complete).Alike (e'.meet .complete) := { h.alike with
      left := ⟨hl.completesAtOnce, rfl, hl.slot⟩, right := ⟨hr.completesAtOnce, rfl, hr.slot⟩ }
    exact ⟨halike.moment_eq rfl rfl (hquiet rfl rfl), halike, h.address_eq, h.stock⟩
  | occupy occupied =>
    have halike : (e.meet (.occupy occupied)).Alike (e'.meet (.occupy occupied)) := { h.alike with
      left := ⟨hl.completesAtOnce, hl.sending, hl.slot⟩
      right := ⟨hr.completesAtOnce, hr.sending, hr.slot⟩
      occupied_eq := rfl }
    exact ⟨halike.moment_eq rfl rfl (hquiet rfl rfl), halike, h.address_eq, h.stock⟩
  | inject frame =>
    obtain rfl : mark = false := hkeep
    have halike : (e.meet (.inject frame)).Alike (e'.meet (.inject frame)) := { h.alike with
      left := ⟨hl.completesAtOnce, hl.sending, hl.slot⟩
      right := ⟨hr.completesAtOnce, hr.sending, hr.slot⟩ }
    exact ⟨halike.moment_eq rfl rfl (hquiet rfl rfl), halike, h.address_eq,
      h.stock.add (hplain frame rfl) false⟩
  | transmit frame =>
    have hsend : e.meet (.transmit frame) = { e with link := e.link.carry frame } := by
      rw [meet, RecordingLink.send_of_free hl.sending]
    have hsend' : e'.meet (.transmit frame) = { e' with link := e'.link.carry frame } := by
      rw [meet, RecordingLink.send_of_free hr.sending]
    have halike : (e.meet (.transmit frame)).Alike (e'.meet (.transmit frame)) := by
      rw [hsend, hsend']
      exact { h.alike with
        left := ⟨hl.completesAtOnce, hl.carry frame, hl.slot⟩
        right := ⟨hr.completesAtOnce, hr.carry frame, hr.slot⟩ }
    refine ⟨halike.moment_eq rfl rfl ?_, halike, ?_, ?_⟩
    · simp only [moment, hsend, hsend']
      exact List.drop_left.trans List.drop_left.symm
    · rw [hsend]
      exact h.address_eq
    · rw [hsend, hsend']
      exact h.stock

theorem rebuffed_of_rebuffs {p : DeviceAddress} {t : Telegram} {field : ControlField}
    (hq : Quick e.link e.slot) (hframe : e.handed? call = some frame)
    (h : e.Strange p frame t field) (hr : e.Rebuffs call t.source field) :
    (e.moment (.call call)).Rebuffed e.link.address := by
  have hrebuff := hr.journal
  rw [own_of_quick hq] at hrebuff
  refine .call hframe h.decoded h.known hrebuff ?_
  rw [sent_moment_call]
  generalize e.journal call = journal at hrebuff
  cases hrebuff with
  | unheard => exact .inl rfl
  | ignored => exact .inl rfl
  | rejected hfield hf => exact .inr ⟨hfield, _, hf, rfl⟩
  | refused hfield hf => exact .inr ⟨hfield, _, hf, rfl⟩

theorem Shadows.leave_call (h : Shadows own e e' waiting)
    (hplain : ∀ frame, (Happening.call call).arriving? = some frame → Plain frame)
    (hleave : ((Happening.call call).leaves waiting mark).1 = true)
    (hstrange : ∀ frame, e.handed? call = some frame → ∃ p t field, e.Strange p frame t field) :
    (e.moment (.call call)).Rebuffed own ∧
      Shadows own (e.after call) e' ((Happening.call call).leaves waiting mark).2 := by
  obtain ⟨⟨frame, hframe⟩, hstock⟩ : (∃ frame, e.handed? call = some frame) ∧
      Stock ((Happening.call call).leaves waiting mark).2 (e.after call).link.inbound
        e'.link.inbound := by
    cases call with
    | receive frame now =>
      refine ⟨⟨frame, rfl⟩, ?_⟩
      rw [inbound_receive]
      exact h.stock
    | serve now =>
      obtain ⟨frame, hframe, hstock⟩ := h.stock.leave hleave
      refine ⟨⟨frame, hframe⟩, ?_⟩
      rw [inbound_serve h.alike.left]
      exact hstock
    | poll now => cases hleave
    | hangUp now => cases hleave
  obtain ⟨p, t, field, hforeign⟩ := hstrange frame hframe
  have hrebuffs := rebuffs_of_strange hforeign hframe
  refine ⟨h.address_eq ▸ rebuffed_of_rebuffs h.alike.left hframe hforeign hrebuffs, ?_, ?_, hstock⟩
  · obtain ⟨_, hself⟩ := (Alike.refl h.alike.left).after rfl fun frame t hframe ht =>
      h.plain_handed hplain hframe t ht
    obtain ⟨_, _, hlink⟩ := e.exists_link_after call
    refine ⟨hself.left, h.alike.right, ?_, ?_, ?_, ?_, ?_, ?_⟩
    · exact h.alike.connection_eq.trans (congrArg (·.connection) hrebuffs.dialogue_eq).symm
    · exact h.alike.answers_eq.trans (congrArg (·.answers) hrebuffs.dialogue_eq).symm
    · exact h.alike.application_eq.trans hrebuffs.application_eq.symm
    · exact h.alike.profile_eq.trans (e.proceeds call).profile_eq.symm
    · exact h.alike.address_eq.trans (e.address_after call).symm
    · rw [hlink]
      exact h.alike.occupied_eq
  · exact (e.address_after call).trans h.address_eq

theorem Shadows.leave (h : Shadows own e e' waiting)
    (hplain : ∀ frame, happening.arriving? = some frame → Plain frame)
    (hleave : (happening.leaves waiting mark).1 = true)
    (hstrange : ∀ frame, (e.moment happening).handed? = some frame →
      ∃ p t field, e.Strange p frame t field) :
    (e.moment happening).Rebuffed own ∧
      Shadows own (e.meet happening) e' (happening.leaves waiting mark).2 := by
  cases happening with
  | call call => exact h.leave_call hplain hleave hstrange
  | inject frame =>
    obtain rfl : mark = true := hleave
    have hleft : Quick (e.meet (.inject frame)).link (e.meet (.inject frame)).slot :=
      ⟨h.alike.left.completesAtOnce, h.alike.left.sending, h.alike.left.slot⟩
    have hstock := h.stock.add (hplain frame rfl) true
    rw [if_neg nofun, List.append_nil] at hstock
    exact ⟨.arrival rfl rfl (List.drop_length ..), { h.alike with left := hleft }, h.address_eq,
      hstock⟩
  | complete => cases hleave
  | transmit frame => cases hleave
  | occupy occupied => cases hleave

/-- The moments of what is left go as before, and what was left out was rebuffed. -/
theorem Shadows.moments (h : Shadows own e e' waiting) {script : List (Happening × Bool)}
    (hplain : ∀ frame, frame ∈ script.filterMap (·.1.arriving?) → Plain frame)
    (hadmits : e.Admits waiting script) :
    e'.moments (select false (leavings waiting script) (script.map Prod.fst)) =
      select false (leavings waiting script) (e.moments (script.map Prod.fst)) ∧
      ∀ m ∈ select true (leavings waiting script) (e.moments (script.map Prod.fst)),
        m.Rebuffed own := by
  induction script generalizing e e' waiting with
  | nil => exact ⟨rfl, List.forall_mem_nil _⟩
  | cons first script ih =>
    obtain ⟨happening, mark⟩ := first
    obtain ⟨hstrange, hrest⟩ := hadmits
    have hfirst : ∀ frame, happening.arriving? = some frame → Plain frame := fun frame harriving =>
      hplain frame (List.mem_filterMap.mpr ⟨_, List.mem_cons_self, harriving⟩)
    have hplain' : ∀ frame ∈ script.filterMap (·.1.arriving?), Plain frame := fun frame hmem => by
      obtain ⟨marked, hmem, harriving⟩ := List.mem_filterMap.mp hmem
      exact hplain frame (List.mem_filterMap.mpr ⟨_, List.mem_cons_of_mem _ hmem, harriving⟩)
    simp only [leavings, List.map_cons, Endpoint.moments]
    rcases hout : (happening.leaves waiting mark).1 with _ | _
    · obtain ⟨hmoment, hshadows⟩ := h.keep hfirst hout
      obtain ⟨hkept, hleft⟩ := ih hshadows hplain' hrest
      refine ⟨?_, hleft⟩
      exact congrArg₂ List.cons hmoment hkept
    · obtain ⟨hrebuffed, hshadows⟩ := h.leave hfirst hout (hstrange hout)
      obtain ⟨hkept, hleft⟩ := ih hshadows hplain' hrest
      exact ⟨hkept, List.forall_mem_cons.mpr ⟨hrebuffed, hleft⟩⟩

def remaining (script : List (Happening × Bool)) : List Happening :=
  select false (leavings [] script) (script.map Prod.fst)

/-- What is left of a script goes as before, and the whole script sends no more than that but
disconnects to strangers. -/
structure Undisturbed (e : Endpoint RecordingLink A) (script : List (Happening × Bool)) : Prop where
  remaining_eq : e.moments (remaining script) =
    select false (leavings [] script) (e.moments (script.map Prod.fst))
  rebuffed : ∀ m ∈ select true (leavings [] script) (e.moments (script.map Prod.fst)),
    m.Rebuffed e.link.address
  sent_script : (e.meetAll (script.map Prod.fst)).link.sent =
    e.link.sent ++ (e.moments (script.map Prod.fst)).flatMap (·.sent)
  sent_remaining : (e.meetAll (remaining script)).link.sent = e.link.sent ++
    (select false (leavings [] script) (e.moments (script.map Prod.fst))).flatMap (·.sent)

theorem undisturbed {script : List (Happening × Bool)} (hq : Quick e.link e.slot)
    (hempty : e.link.inbound = [])
    (hplain : ∀ frame ∈ script.filterMap (·.1.arriving?), Plain frame)
    (hadmits : e.Admits [] script) : e.Undisturbed script := by
  have hstock : Stock [] e.link.inbound e.link.inbound := by
    rw [hempty]
    exact ⟨rfl, rfl, List.forall_mem_nil _⟩
  have hshadows : Shadows e.link.address e e [] := ⟨.refl hq, rfl, hstock⟩
  obtain ⟨hkept, hleft⟩ := hshadows.moments hplain hadmits
  exact ⟨hkept, hleft, e.sent_meetAll _, (e.sent_meetAll _).trans (by rw [← hkept]; rfl)⟩

end Endpoint

open Endpoint in
/-- While a connection is open, a frame of a stranger is at most answered by a disconnect. Over a
link that finishes every frame at once, a script without repeated telegrams goes the same way if
frames of strangers are left out, but for those disconnects. -/
theorem undisturbed_of_strange {L A B : Type} [Link L] [Application A] [Application B]
    (e : Endpoint L A) (call : Call) (e₀ : Endpoint RecordingLink B)
    (script : List (Happening × Bool)) :
    (∀ {p frame t field}, e.Strange p frame t field → e.handed? call = some frame →
      e.Rebuffs call t.source field) ∧
    (Quick e₀.link e₀.slot → e₀.link.inbound = [] →
      (∀ frame ∈ script.filterMap (·.1.arriving?), Plain frame) → e₀.Admits [] script →
      e₀.Undisturbed script) :=
  ⟨rebuffs_of_strange, undisturbed⟩

namespace Sample

def stranger : DeviceAddress := ⟨0x1103⟩

def foreign (field : ControlField) : Frame :=
  (Endpoint.controlFrame stranger host.link.address field).toOption.getD []

/-- The stranger would like to connect or to hang up while the guest is connected. -/
def intrusion : List (Happening × Bool) := [
  (.call (.receive (control .connect) 0), false), (.call (.receive (foreign .connect) 1), true),
  (.inject (foreign .disconnect), true), (.inject (request 0), false), (.call (.serve 2), false),
  (.call (.serve 3), false), (.call (.poll 4), false)]

def foreignTelegram (field : ControlField) : Telegram :=
  ⟨.system, false, stranger, .individual host.link.address, Telegram.ownRoutingCounter,
    field.encode, [], by decide⟩

theorem strange_foreign {e : Endpoint RecordingLink Responder} {field : ControlField}
    (hp : e.connection.peer? = some guest) (ha : e.link.address = host.link.address)
    (hfield : field = .connect ∨ field = .disconnect) :
    e.Strange guest (foreign field) (foreignTelegram field) field := by
  obtain rfl | rfl := hfield
  · exact ⟨hp, rfl, congrArg _ ha.symm, rfl, nofun, by decide⟩
  · exact ⟨hp, rfl, congrArg _ ha.symm, rfl, nofun, by decide⟩

end Sample

open Sample in
theorem undisturbed_intrusion :
    (host.after (.receive (Sample.control .connect) 0)).Rebuffs (.receive (foreign .connect) 1)
        stranger .connect ∧
      host.Undisturbed intrusion := by
  let e := host.after (.receive (Sample.control .connect) 0)
  obtain ⟨hrebuffs, hundisturbed⟩ :=
    undisturbed_of_strange e (.receive (foreign .connect) 1) host intrusion
  have hforeign : e.Strange guest (foreign .connect) _ _ := strange_foreign rfl rfl (.inl rfl)
  have hunmarked : ∀ frame ∈ intrusion.filterMap (·.1.arriving?),
      (Telegram.decode frame).toOption.map (·.repeated) = some false := by decide
  refine ⟨hrebuffs hforeign rfl, hundisturbed ⟨rfl, rfl, nofun⟩ rfl ?_ ?_⟩
  · intro frame hmem t ht
    have h := hunmarked frame hmem
    rw [ht] at h
    exact Option.some.inj h
  -- the connect comes at once, the disconnect when it is served
  · refine ⟨nofun, fun _ frame hframe => ?_, fun _ => nofun, nofun, fun _ frame hframe => ?_, nofun,
      nofun, trivial⟩
    · obtain rfl : foreign .connect = frame := Option.some.inj hframe
      exact ⟨_, _, _, strange_foreign (by rfl) (by rfl) (.inl rfl)⟩
    · obtain rfl : foreign .disconnect = frame := Option.some.inj hframe
      exact ⟨_, _, _, strange_foreign (by rfl) (by rfl) (.inr rfl)⟩

end BusTransport
