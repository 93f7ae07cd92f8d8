import BusTransport.Proofs.Endpoint.Reception
import BusTransport.Proofs.Endpoint.Resemblance
import BusTransport.Proofs.Endpoint.SingleSending

/-! # Rejected frames

A frame that cannot be read is counted and forgotten, whatever the state of the endpoint and its
link. A run in which such frames are handed over in between differs in no call from the run without
them, but for the counter of rejected frames.
-/

namespace BusTransport

namespace Endpoint

section Rejecting

variable {L A : Type}

def rejecting (e : Endpoint L A) (k : Nat) : Endpoint L A :=
  { e with statistics := { e.statistics with
    framesRejected := e.statistics.framesRejected + UInt64.ofNat k } }

theorem rejecting_zero (e : Endpoint L A) : e.rejecting 0 = e := by
  simp [rejecting]

theorem rejecting_succ (e : Endpoint L A) (k : Nat) :
    e.rejecting (k + 1) = (e.rejecting k).counted .frameRejected := by
  simp [rejecting, counted, Statistics.count, UInt64.ofNat_add, UInt64.add_assoc]

theorem counted_rejecting (e : Endpoint L A) (k : Nat) (o : Occurrence) :
    (e.rejecting k).counted o = (e.counted o).rejecting k := by
  cases o with
  | frameRejected =>
    have hcomm (a b : UInt64) : a + b + 1 = a + 1 + b := by
      rw [UInt64.add_assoc, UInt64.add_comm b, ← UInt64.add_assoc]
    simp only [rejecting, counted, Statistics.count, hcomm]
  | _ => rfl

variable [Link L]

/-- A frame that an endpoint cannot read. -/
inductive Rejects (e : Endpoint L A) (frame : Frame) : Prop
  /-- The frame holds no telegram. -/
  | malformed {fault} : Telegram.decode frame = .error fault → Rejects e frame
  /-- The telegram is meant for this device, and has an unknown control field. -/
  | unknown {t fault} : Telegram.decode frame = .ok t → e.isRepeatOfLast t = false →
      t.destination = .individual (Link.address e.link) →
      ControlField.decode t.tpci = .error fault → Rejects e frame
  /-- The telegram is data for this device without a command. -/
  | empty {t field} : Telegram.decode frame = .ok t → e.isRepeatOfLast t = false →
      t.destination = .individual (Link.address e.link) →
      ControlField.decode t.tpci = .ok field → field.isControl = false → t.payload = [] →
      Rejects e frame

variable [Application A] {e : Endpoint L A} {frame : Frame}

open Turn in
theorem receive_of_rejects (h : e.Rejects frame) (now : Instant) :
    e.receive frame now = ⟨.ok .consumed, [], e.counted .frameRejected⟩ := by
  have hdrop : (drop .frameRejected : Turn L A Disposition).run { endpoint := e } =
      .ok .consumed { endpoint := e.counted .frameRejected } := rfl
  refine receive_of_run (Eq.trans ?_ hdrop)
  cases h with
  | malformed hd => simp only [Turn.receive, hd]
  | unknown hd hfresh hdest hf =>
    simp only [Turn.receive, hd, run_bind, run_endpoint, hfresh, Bool.false_eq_true, if_false,
      route, hdest, if_true, hf]
  | empty hd hfresh hdest hf hc hp =>
    simp only [Turn.receive, hd, run_bind, run_endpoint, hfresh, Bool.false_eq_true, if_false,
      route, hdest, if_true, hf, hc, hp, Bool.not_false, List.isEmpty_nil, Bool.and_self]

end Rejecting

end Endpoint

namespace Turn

open Endpoint

variable {L A : Type} [Link L] {k : Nat}

/-- The second endpoint has rejected more frames, and differs in nothing else. -/
def Trails (k : Nat) (e e' : Endpoint L A) : Prop := e' = e.rejecting k

theorem follows_offer_of_trails (frame : Frame) :
    Follows (Trails k) (offer frame : Turn L A Unit) (offer frame) := by
  apply follows_endpoint
  rintro e _ rfl
  apply follows_bind (follows_update <| by rintro _ _ rfl; rfl)
  intro _
  exact follows_outcome _ frame

theorem follows_offerControl_of_trails (frame : Frame) :
    Follows (Trails k) (offerControl frame : Turn L A Unit) (offerControl frame) := by
  apply follows_endpoint
  rintro e _ rfl
  apply follows_bind (follows_update <| by rintro _ _ rfl; rfl)
  intro _
  apply follows_bind (follows_require _ _)
  intro permit
  apply follows_bind (follows_update <| by rintro _ _ rfl; rfl)
  intro _
  exact follows_outcome _ frame

variable [Application A]

omit [Link L] in
theorem follows_ask_of_trails (r : Request) :
    Follows (Trails k) (ask r : Turn L A (Option Answer)) (ask r) := by
  apply follows_endpoint
  rintro e _ rfl
  apply follows_bind (follows_update <| by rintro _ _ rfl; rfl)
  intro _
  exact follows_bind (follows_record _) fun _ => follows_pure _

/-- No turn looks at the counters. -/
theorem congruent_trails : Congruent (Trails k : Endpoint L A → Endpoint L A → Prop) where
  connection_eq := by rintro e _ rfl; rfl
  answers_eq := by rintro e _ rfl; rfl
  address_eq := by rintro e _ rfl; rfl
  idle_eq := by rintro e _ rfl; rfl
  sending_eq := by rintro e _ rfl; rfl
  isFree_eq := by rintro e _ rfl; rfl
  refreshed := by rintro e _ rfl; rfl
  observed := by rintro e _ rfl; rfl
  release := by rintro e _ rfl; rfl
  connection := by rintro e _ rfl _; rfl
  answers := by rintro e _ rfl _; rfl
  counted := by
    rintro e _ rfl o
    exact counted_rejecting e k o
  lastTelegram := by rintro e _ rfl _; rfl
  offer := follows_offer_of_trails
  offerControl := follows_offerControl_of_trails
  ask := follows_ask_of_trails
  deliverGroup t :=
    follows_bind (follows_update <| by rintro _ _ rfl; rfl) fun _ => follows_record _
  deliverBroadcast t :=
    follows_bind (follows_update <| by rintro _ _ rfl; rfl) fun _ => follows_record _
  tellClosed p :=
    follows_bind (follows_update <| by rintro _ _ rfl; rfl) fun _ => follows_record _

end Turn

section Padded

variable {L A : Type} [Link L] [Application A]

/-- An occasion of a longer run, with the occasion of the shorter one that it stands for, if any. -/
abbrev Counterpart (L A : Type) := Option (Occasion L A) × Occasion L A

/-- A run, and the same run with frames in between that the endpoint rejects. They are handed over
directly, or found in the receive buffer of the link, which they leave as it was before them. From
outside both endpoints see the same changes; `k` frames were rejected in the longer run since the
counters were last written. -/
inductive Padded (e₀ : Endpoint L A) :
    List (Counterpart L A) → Nat → Endpoint L A → Endpoint L A → Prop
  | start : Padded e₀ [] 0 e₀ e₀
  | outside {os k e e'} (link : L) (application : A) : Padded e₀ os k e e' →
      Padded e₀ os k { e with link, application } { e' with link, application }
  | overwrite {os k e e'} (statistics : Statistics) : Padded e₀ os k e e' →
      Padded e₀ os 0 { e with statistics } { e' with statistics }
  | call {os k e e'} (call : Call) : Padded e₀ os k e e' →
      Padded e₀ (os ++ [(some ⟨e, call⟩, ⟨e', call⟩)]) k (e.after call) (e'.after call)
  | handed {os k e e' frame} (now : Instant) : e'.Rejects frame → Padded e₀ os k e e' →
      Padded e₀ (os ++ [(none, ⟨e', .receive frame now⟩)]) (k + 1) e
        (e'.after (.receive frame now))
  | served {os k e e' frame} (link : L) (now : Instant) : Link.received link = some frame →
      Link.release link = e'.link → { e' with link }.Rejects frame → Padded e₀ os k e e' →
      Padded e₀ (os ++ [(none, ⟨{ e' with link }, .serve now⟩)]) (k + 1) e
        ({ e' with link }.after (.serve now))

structure Occasion.Reenacts (o o' : Occasion L A) : Prop where
  call_eq : o'.call = o.call
  outcome_eq : o'.outcome = o.outcome
  journal_eq : o'.journal = o.journal
  before_eq : ∃ k, o'.before = o.before.rejecting k

/-- A call that does nothing but reject a frame. -/
structure Occasion.Fruitless (o : Occasion L A) : Prop where
  outcome_eq : o.outcome = .ok (some .consumed)
  journal_eq : o.journal = []
  after_eq : ∃ link, o.after = { o.before with link }.counted .frameRejected

def Counterpart.Fits : Counterpart L A → Prop
  | (some o, o') => o.Reenacts o'
  | (none, o') => o'.Fruitless

namespace Endpoint

variable {e e' : Endpoint L A} {frame : Frame} {k : Nat}

theorem fruitless_receive (h : e.Rejects frame) (now : Instant) :
    Occasion.Fruitless (⟨e, .receive frame now⟩ : Occasion L A) := by
  have hr := receive_of_rejects h now
  refine ⟨?_, congrArg Report.journal hr, e.link, congrArg Report.endpoint hr⟩
  exact congrArg (fun r : Report L A Disposition => r.result.map some) hr

theorem serve_of_rejects (h : e.Rejects frame) (hr : Link.received e.link = some frame)
    (now : Instant) :
    e.serve now = ⟨.ok (some .consumed), [], (e.counted .frameRejected).release⟩ := by
  simp only [serve, hr, receive_of_rejects h now]
  rfl

theorem fruitless_serve (h : e.Rejects frame) (hr : Link.received e.link = some frame)
    (now : Instant) : Occasion.Fruitless (⟨e, .serve now⟩ : Occasion L A) := by
  have hs := serve_of_rejects h hr now
  exact ⟨congrArg Report.result hs, congrArg Report.journal hs, Link.release e.link,
    congrArg Report.endpoint hs⟩

theorem concur_rejecting (e : Endpoint L A) (k : Nat) (call : Call) :
    Concur (Turn.Trails k) e (e.rejecting k) call := by
  apply concur_of_congruent Turn.congruent_trails rfl
  · cases call <;> rfl
  · rintro _ t _ _ e _ rfl
    rfl

end Endpoint

variable {e₀ e e' : Endpoint L A} {os : List (Counterpart L A)} {k : Nat}

/-- Rejected frames leave no trace but in their counter. -/
theorem Padded.eq_rejecting (h : Padded e₀ os k e e') : e' = e.rejecting k := by
  induction h with
  | start => exact (Endpoint.rejecting_zero _).symm
  | outside link application _ ih =>
    rw [ih]
    rfl
  | overwrite statistics _ ih =>
    rw [ih, Endpoint.rejecting_zero]
    rfl
  | @call _ k e _ call _ ih =>
    rw [ih]
    exact (Endpoint.concur_rejecting e k call).after
  | handed now hrejects _ ih =>
    rw [Endpoint.rejecting_succ, ← ih]
    exact congrArg Report.endpoint (Endpoint.receive_of_rejects hrejects now)
  | served _ now hr hrelease hrejects _ ih =>
    rw [Endpoint.rejecting_succ, ← ih]
    refine (congrArg Report.endpoint (Endpoint.serve_of_rejects hrejects hr now)).trans ?_
    rw [Endpoint.release, Endpoint.counted, Endpoint.counted, ← hrelease]

theorem Padded.fits (h : Padded e₀ os k e e') : ∀ o ∈ os, o.Fits := by
  have hlast {os : List (Counterpart L A)} {o} (hos : ∀ o ∈ os, o.Fits) (ho : o.Fits) :
      ∀ o' ∈ os ++ [o], o'.Fits :=
    List.forall_mem_append.mpr ⟨hos, List.forall_mem_singleton.mpr ho⟩
  induction h with
  | start => exact fun _ ho => absurd ho List.not_mem_nil
  | outside _ _ _ ih => exact ih
  | overwrite _ _ ih => exact ih
  | @call _ k e e' call h ih =>
    refine hlast ih ?_
    obtain rfl := h.eq_rejecting
    have hconcur := Endpoint.concur_rejecting e k call
    exact ⟨rfl, hconcur.outcome_eq, hconcur.journal_eq, k, rfl⟩
  | handed now hrejects _ ih => exact hlast ih (Endpoint.fruitless_receive hrejects now)
  | served _ now hr _ hrejects _ ih => exact hlast ih (Endpoint.fruitless_serve hrejects hr now)

theorem Padded.run_filterMap (h : Padded e₀ os k e e') : Run e₀ (os.filterMap Prod.fst) e := by
  induction h with
  | start => exact .start
  | @outside _ _ e _ link application _ ih => exact .outside link application e.statistics ih
  | @overwrite _ _ e _ statistics _ ih => exact .outside e.link e.application statistics ih
  | call call _ ih =>
    rw [List.filterMap_append]
    exact .call call ih
  | handed _ _ _ ih => rwa [List.filterMap_append, List.filterMap_cons_none rfl,
      List.filterMap_nil, List.append_nil]
  | served _ _ _ _ _ _ ih => rwa [List.filterMap_append, List.filterMap_cons_none rfl,
      List.filterMap_nil, List.append_nil]

theorem Padded.run_map (h : Padded e₀ os k e e') : Run e₀ (os.map Prod.snd) e' := by
  induction h with
  | start => exact .start
  | @outside _ _ _ e' link application _ ih => exact .outside link application e'.statistics ih
  | @overwrite _ _ _ e' statistics _ ih => exact .outside e'.link e'.application statistics ih
  | call call _ ih =>
    rw [List.map_append]
    exact .call call ih
  | handed now _ _ ih =>
    rw [List.map_append]
    exact .call (.receive _ now) ih
  | @served _ _ _ e' _ link now _ _ _ _ ih =>
    rw [List.map_append]
    exact .call (.serve now) (.outside link e'.application e'.statistics ih)

end Padded

/-- A frame that is no telegram, or one for this device with an unknown control field or without a
command, is consumed in every state, even while the link is sending, and changes nothing but the
counter of rejected frames. However many such frames are put into a run, all its calls end as before
and do to link and application what they did before, at endpoints that differ in this counter
alone. -/
theorem unimpaired_by_rejected {L A : Type} [Link L] [Application A] {e₀ : Endpoint L A} :
    (∀ (e : Endpoint L A) frame, e.Rejects frame → ∀ now,
      e.receive frame now = ⟨.ok .consumed, [], e.counted .frameRejected⟩) ∧
    ∀ {os k e e'}, Padded e₀ os k e e' →
      Run e₀ (os.filterMap Prod.fst) e ∧ Run e₀ (os.map Prod.snd) e' ∧ (∀ o ∈ os, o.Fits) ∧
        e' = e.rejecting k :=
  ⟨fun _ _ h => Endpoint.receive_of_rejects h,
    fun h => ⟨h.run_filterMap, h.run_map, h.fits, h.eq_rejecting⟩⟩

namespace Sample

def garbled : Frame :=
  ((Telegram.build .normal guest (.individual host.link.address) 0x82 []).toOption.map
    (·.encode)).getD []

theorem rejects_empty (e : Endpoint RecordingLink Responder) : e.Rejects [] := .malformed rfl

def acking : Endpoint RecordingLink Responder :=
  slowHost.afterAll [.receive (control .connect) 0, .receive (request 0) 1]

end Sample

open Sample in
/-- While the slow host is sending an acknowledgement it is handed no octets at all, and finds a
garbled telegram in its buffer. After that it answers the request as ever. -/
theorem unimpaired_acking :
    Link.sending acking.link = true ∧ acking.Rejects [] ∧
      acking.receive [] 2 = ⟨.ok .consumed, [], acking.counted .frameRejected⟩ ∧
      ∃ os e e', Padded slowHost os 2 e e' ∧
        (os.filterMap Prod.fst).map (·.call) =
          [.receive (Sample.control .connect) 0, .receive (request 0) 1, .poll 4] ∧
        (os.map Prod.snd).map (·.call) = [.receive (Sample.control .connect) 0,
          .receive (request 0) 1, .receive [] 2, .serve 3, .poll 4] ∧
        e.connection.state = .openWait ∧ (∀ o ∈ os, o.Fits) ∧ e' = e.rejecting 2 := by
  obtain ⟨hreceive, hpadded⟩ := @unimpaired_by_rejected _ _ _ _ slowHost
  have hacking := Padded.call (.receive (request 0) 1) <|
    .call (.receive (Sample.control .connect) 0) <|
      (.start : Padded slowHost [] 0 slowHost slowHost)
  have hfull := hacking.handed 2 (rejects_empty acking)
  have hserved := hfull.served ((acking.after (.receive [] 2)).link.inject garbled) 3 rfl rfl
    (.unknown rfl rfl rfl rfl)
  have hrun := (hserved.outside acking.link.complete acking.application).call (.poll 4)
  obtain ⟨-, -, hfits, heq⟩ := hpadded hrun
  exact ⟨by decide, rejects_empty _, hreceive _ _ (rejects_empty _) 2, _, _, _, hrun, rfl, rfl,
    by decide, hfits, heq⟩

end BusTransport
