import BusTransport.Proofs.Endpoint.Correspondence
import BusTransport.Proofs.Endpoint.Run

/-! # Resemblance

Links that behave alike and applications that answer alike need not be of the same kind. Endpoints
that are equal but for such a link, such an application and their counters can be told apart by no
sequence of calls.
-/

namespace BusTransport

namespace Link

variable {L L' : Type} [Link L] [Link L']

/-- The relation is kept by all that can be done to links, and what is read of related links is the
same. -/
structure Mirrors (R : L → L' → Prop) : Prop where
  address_eq : ∀ {l l'}, R l l' → address l' = address l
  idle_eq : ∀ {l l'}, R l l' → idle l' = idle l
  sending_eq : ∀ {l l'}, R l l' → sending l' = sending l
  received_eq : ∀ {l l'}, R l l' → received l' = received l
  result_eq : ∀ {l l'}, R l l' → ∀ frame, (send l' frame).1 = (send l frame).1
  observed : ∀ {l l'}, R l l' → R (observed l) (observed l')
  send : ∀ {l l'}, R l l' → ∀ frame, R (send l frame).2 (send l' frame).2
  release : ∀ {l l'}, R l l' → R (release l) (release l')

/-- Two links behave alike, whatever is done to them. -/
def Similar (l : L) (l' : L') : Prop := ∃ R : L → L' → Prop, Mirrors R ∧ R l l'

theorem mirrors_similar : Mirrors (Similar : L → L' → Prop) where
  address_eq := fun ⟨_, hR, h⟩ => hR.address_eq h
  idle_eq := fun ⟨_, hR, h⟩ => hR.idle_eq h
  sending_eq := fun ⟨_, hR, h⟩ => hR.sending_eq h
  received_eq := fun ⟨_, hR, h⟩ => hR.received_eq h
  result_eq := fun ⟨_, hR, h⟩ => hR.result_eq h
  observed := fun ⟨_, hR, h⟩ => ⟨_, hR, hR.observed h⟩
  send := fun ⟨_, hR, h⟩ frame => ⟨_, hR, hR.send h frame⟩
  release := fun ⟨_, hR, h⟩ => ⟨_, hR, hR.release h⟩

end Link

namespace Application

variable {A A' : Type} [Application A] [Application A']

structure Mirrors (R : A → A' → Prop) : Prop where
  answer_eq : ∀ {a a'}, R a a' → ∀ r, (respond a' r).1 = (respond a r).1
  respond : ∀ {a a'}, R a a' → ∀ r, R (respond a r).2 (respond a' r).2
  groupReceived : ∀ {a a'}, R a a' → ∀ t, R (groupReceived a t) (groupReceived a' t)
  broadcastReceived : ∀ {a a'}, R a a' → ∀ t, R (broadcastReceived a t) (broadcastReceived a' t)
  connectionClosed : ∀ {a a'}, R a a' → ∀ p, R (connectionClosed a p) (connectionClosed a' p)

/-- Two applications answer alike, whatever they are told. -/
def Similar (a : A) (a' : A') : Prop := ∃ R : A → A' → Prop, Mirrors R ∧ R a a'

theorem mirrors_similar : Mirrors (Similar : A → A' → Prop) where
  answer_eq := fun ⟨_, hR, h⟩ => hR.answer_eq h
  respond := fun ⟨_, hR, h⟩ r => ⟨_, hR, hR.respond h r⟩
  groupReceived := fun ⟨_, hR, h⟩ t => ⟨_, hR, hR.groupReceived h t⟩
  broadcastReceived := fun ⟨_, hR, h⟩ t => ⟨_, hR, hR.broadcastReceived h t⟩
  connectionClosed := fun ⟨_, hR, h⟩ p => ⟨_, hR, hR.connectionClosed h p⟩

theorem mirrors_eq : Mirrors (Eq : A → A → Prop) := by
  constructor
  all_goals
    rintro a _ rfl
    simp

@[refl] theorem Similar.refl (a : A) : Similar a a := ⟨_, mirrors_eq, rfl⟩

end Application

namespace ControlSlot

open Link

variable {L L' α : Type} [Link L] [Link L'] {link : L} {link' : L'}

structure Matches (outcome : α × ControlSlot × L) (outcome' : α × ControlSlot × L') : Prop where
  result_eq : outcome'.1 = outcome.1
  slot_eq : outcome'.2.1 = outcome.2.1
  similar : Similar outcome.2.2 outcome'.2.2

theorem refresh_similar (slot : ControlSlot) (h : Similar link link') :
    (slot.refresh link').1 = (slot.refresh link).1 ∧
      Similar (slot.refresh link).2 (slot.refresh link').2 := by
  unfold refresh
  rw [mirrors_similar.sending_eq h]
  split_ifs
  · exact ⟨rfl, mirrors_similar.observed h⟩
  · exact ⟨rfl, mirrors_similar.observed h⟩
  · exact ⟨rfl, h⟩

theorem attempt_matches (slot : ControlSlot) (h : Similar link link') :
    Matches (slot.attempt link) (slot.attempt link') := by
  obtain ⟨hslot, hlink⟩ := refresh_similar slot h
  unfold attempt
  dsimp only
  rw [hslot, mirrors_similar.sending_eq hlink]
  split_ifs
  · exact ⟨rfl, rfl, mirrors_similar.observed hlink⟩
  · exact ⟨rfl, rfl, mirrors_similar.observed hlink⟩

theorem acquireWithin_matches (slot : ControlSlot) (h : Similar link link') (retries : Nat) :
    Matches (slot.acquireWithin retries link) (slot.acquireWithin retries link') := by
  induction retries generalizing slot link link' with
  | zero => exact attempt_matches slot h
  | succ retries ih =>
    obtain ⟨hresult, hslot, hlink⟩ := attempt_matches slot h
    rcases ha : slot.attempt link with ⟨fault | permit, slot₁, link₁⟩
    all_goals
      rcases ha' : slot.attempt link' with ⟨result', slot₁', link₁'⟩
      rw [ha, ha'] at hresult hslot hlink
      dsimp only at hresult hslot hlink
      subst hresult hslot
      simp only [acquireWithin, ha, ha']
    · exact ih _ hlink
    · exact ⟨rfl, rfl, hlink⟩

theorem acquire_matches (slot : ControlSlot) (h : Similar link link') (limit : Nat) :
    Matches (slot.acquire link limit) (slot.acquire link' limit) :=
  acquireWithin_matches slot h (limit - 1)

theorem transmit_matches (h : Similar link link') (permit : Permit) (frame : Frame) :
    Matches (transmit permit link frame) (transmit permit link' frame) := by
  have hresult := mirrors_similar.result_eq h frame
  have hlink := mirrors_similar.send h frame
  unfold transmit
  rcases hs : Link.send link frame with ⟨fault | _, after⟩
  all_goals
    rcases hs' : Link.send link' frame with ⟨result', after'⟩
    rw [hs, hs'] at hresult hlink
    dsimp only at hresult
    subst hresult
    exact ⟨rfl, rfl, hlink⟩

end ControlSlot

namespace Endpoint

/-- Endpoints that differ at most in links, applications and counters. -/
structure Equals {L L' A A' : Type} (e : Endpoint L A) (e' : Endpoint L' A') : Prop where
  profile_eq : e'.profile = e.profile
  connection_eq : e'.connection = e.connection
  slot_eq : e'.slot = e.slot
  answers_eq : e'.answers = e.answers
  lastTelegram_eq : e'.lastTelegram = e.lastTelegram

structure Resembles {L L' A A' : Type} [Link L] [Link L'] [Application A] [Application A']
    (e : Endpoint L A) (e' : Endpoint L' A') : Prop extends Equals e e' where
  link : Link.Similar e.link e'.link
  application : Application.Similar e.application e'.application

end Endpoint

namespace Turn

open Endpoint Link

variable {L L' A A' : Type} [Link L] [Link L'] [Application A] [Application A']
  {e : Endpoint L A} {e' : Endpoint L' A'}

theorem follows_offer_of_resembles (frame : Frame) :
    Follows (Resembles : Endpoint L A → Endpoint L' A' → Prop) (offer frame) (offer frame) := by
  apply follows_endpoint
  intro e e' h
  have hresult := mirrors_similar.result_eq h.link frame
  have hlink := mirrors_similar.send h.link frame
  dsimp only
  rw [hresult]
  apply follows_bind (follows_update fun _ _ h' => { h' with link := hlink })
  intro _
  exact follows_outcome _ frame

theorem follows_offerControl_of_resembles (frame : Frame) :
    Follows (Resembles : Endpoint L A → Endpoint L' A' → Prop) (offerControl frame)
      (offerControl frame) := by
  apply follows_endpoint
  intro e e' h
  have hacquired := ControlSlot.acquire_matches e.slot h.link
    e.profile.slotPollLimit.toNat
  rw [h.slot_eq, h.profile_eq]
  dsimp only
  rw [hacquired.result_eq, hacquired.slot_eq]
  apply follows_bind (follows_update fun _ _ h' =>
    { h' with link := hacquired.similar, slot_eq := rfl })
  intro _
  apply follows_bind (follows_require _ _)
  intro permit
  have hsent := ControlSlot.transmit_matches hacquired.similar permit frame
  rw [hsent.result_eq, hsent.slot_eq]
  apply follows_bind (follows_update fun _ _ h' =>
    { h' with link := hsent.similar, slot_eq := rfl })
  intro _
  exact follows_outcome _ frame

theorem follows_ask_of_resembles (r : Request) :
    Follows (Resembles : Endpoint L A → Endpoint L' A' → Prop) (ask r) (ask r) := by
  apply follows_endpoint
  intro e e' h
  have hanswer := Application.mirrors_similar.answer_eq h.application r
  have happ := Application.mirrors_similar.respond h.application r
  dsimp only
  rw [hanswer]
  apply follows_bind (follows_update fun _ _ h' => { h' with application := happ })
  intro _
  exact follows_bind (follows_record _) fun _ => follows_pure _

theorem refreshed_resembles (h : e.Resembles e') : e.refreshed.Resembles e'.refreshed := by
  obtain ⟨hslot, hlink⟩ := ControlSlot.refresh_similar e.slot h.link
  rw [← h.slot_eq] at hslot
  unfold refreshed
  rw [h.slot_eq] at hslot ⊢
  exact { h with link := hlink, slot_eq := hslot }

theorem congruent_resembles :
    Congruent (Resembles : Endpoint L A → Endpoint L' A' → Prop) where
  connection_eq h := h.connection_eq
  answers_eq h := h.answers_eq
  address_eq h := mirrors_similar.address_eq h.link
  idle_eq h := mirrors_similar.idle_eq h.link
  sending_eq h := mirrors_similar.sending_eq h.link
  isFree_eq h := by rw [(refreshed_resembles h).slot_eq]
  refreshed := refreshed_resembles
  observed h := { h with link := mirrors_similar.observed h.link }
  release h := { h with link := mirrors_similar.release h.link }
  connection h _ := { h with connection_eq := rfl }
  answers h _ := { h with answers_eq := rfl }
  counted h _ := { h with }
  lastTelegram h _ := { h with lastTelegram_eq := rfl }
  offer := follows_offer_of_resembles
  offerControl := follows_offerControl_of_resembles
  ask := follows_ask_of_resembles
  deliverGroup t := follows_bind (follows_update fun _ _ h => { h with
    application := Application.mirrors_similar.groupReceived h.application t })
    fun _ => follows_record _
  deliverBroadcast t := follows_bind (follows_update fun _ _ h => { h with
    application := Application.mirrors_similar.broadcastReceived h.application t })
    fun _ => follows_record _
  tellClosed p := follows_bind (follows_update fun _ _ h => { h with
    application := Application.mirrors_similar.connectionClosed h.application p })
    fun _ => follows_record _

end Turn

def Occasion.outcome {L A : Type} [Link L] [Application A] (o : Occasion L A) :
    Except Fault (Option Disposition) := o.before.outcome o.call

section Duet

variable {L L' A A' : Type} [Link L] [Link L'] [Application A] [Application A']

/-- Two endpoints go through the same calls. At first and between the calls their owners and the bus
may change links, applications and counters in every way that leaves links and applications
similar. -/
inductive Duet (e₀ : Endpoint L A) (e₀' : Endpoint L' A') :
    List (Occasion L A × Occasion L' A') → Endpoint L A → Endpoint L' A' → Prop
  | start {link link' application application'} (statistics statistics' : Statistics) :
      Link.Similar link link' → Application.Similar application application' →
      Duet e₀ e₀' [] { e₀ with link, application, statistics }
        { e₀' with link := link', application := application', statistics := statistics' }
  | outside {os e e' link link' application application'} (statistics statistics' : Statistics) :
      Link.Similar link link' → Application.Similar application application' → Duet e₀ e₀' os e e' →
      Duet e₀ e₀' os { e with link, application, statistics }
        { e' with link := link', application := application', statistics := statistics' }
  | call {os e e'} (call : Call) : Duet e₀ e₀' os e e' →
      Duet e₀ e₀' (os ++ [(⟨e, call⟩, ⟨e', call⟩)]) (e.after call) (e'.after call)

variable {e₀ e : Endpoint L A} {e₀' e' : Endpoint L' A'}
  {os : List (Occasion L A × Occasion L' A')}

/-- In the two parts of a duet all calls end alike and do the same. -/
theorem Duet.unison (h : Duet e₀ e₀' os e e') (heq : e₀.Equals e₀') :
    (∀ o ∈ os, o.2.outcome = o.1.outcome ∧ o.2.journal = o.1.journal) ∧ e.Resembles e' := by
  induction h with
  | start _ _ hlink happ =>
    refine ⟨fun o ho => absurd ho List.not_mem_nil, ?_⟩
    exact { heq with link := hlink, application := happ }
  | outside _ _ hlink happ _ ih =>
    exact ⟨ih.1, { ih.2 with link := hlink, application := happ }⟩
  | @call os e e' call _ ih =>
    obtain ⟨hearlier, hresembles⟩ := ih
    have hhanded : e'.handed? call = e.handed? call := by
      cases call with
      | serve now => exact Link.mirrors_similar.received_eq hresembles.link
      | _ => rfl
    have hconcur : Endpoint.Concur Endpoint.Resembles e e' call := by
      apply Endpoint.concur_of_congruent Turn.congruent_resembles hresembles hhanded
      intro _ t _ _ e e' h
      rw [Endpoint.isRepeatOfLast, Endpoint.isRepeatOfLast, h.lastTelegram_eq]
    refine ⟨?_, hconcur.after⟩
    intro o ho
    rcases List.mem_append.mp ho with hold | hnew
    · exact hearlier o hold
    · obtain rfl := List.mem_singleton.mp hnew
      exact ⟨hconcur.outcome_eq, hconcur.journal_eq⟩

end Duet

end BusTransport
