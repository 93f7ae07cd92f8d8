import BusTransport.Link.Recording
import BusTransport.Proofs.Endpoint.Call

/-! # Runs

A run is any sequence of calls at an endpoint. Between two calls its owner and the bus may change
link, application and counters in every way, so that all answers and all refusals of the link occur.
-/

namespace BusTransport

structure Occasion (L A : Type) where
  before : Endpoint L A
  call : Call

namespace Occasion

variable {L A : Type} [Link L]

def event? (o : Occasion L A) : Option Event := o.before.event? o.call

def own (o : Occasion L A) : DeviceAddress := o.before.own

variable [Application A]

def journal (o : Occasion L A) : List Activity := o.before.journal o.call

def after (o : Occasion L A) : Endpoint L A := o.before.after o.call

theorem profile_after (o : Occasion L A) : o.after.profile = o.before.profile :=
  (o.before.proceeds o.call).profile_eq

end Occasion

variable {L A : Type} [Link L] [Application A]

/-- The endpoint, the occasions that follow, and the endpoint after them. -/
inductive Run (e₀ : Endpoint L A) : List (Occasion L A) → Endpoint L A → Prop
  | start : Run e₀ [] e₀
  | outside {os e} (link : L) (application : A) (statistics : Statistics) : Run e₀ os e →
      Run e₀ os { e with link, application, statistics }
  | call {os e} (call : Call) : Run e₀ os e → Run e₀ (os ++ [⟨e, call⟩]) (e.after call)

inductive Endpoint.Reachable : Endpoint L A → Prop
  | intro {link : L} {application : A} {profile : TransportProfile} {e₀ os e} :
      create link application profile = .ok e₀ → Run e₀ os e → Reachable e

namespace Run

variable {e₀ e e' : Endpoint L A} {os os' m : List (Occasion L A)} {o : Occasion L A}

theorem append (h : Run e₀ os e) (h' : Run e os' e') : Run e₀ (os ++ os') e' := by
  induction h' with
  | start => rwa [List.append_nil]
  | outside link application statistics _ ih => exact .outside link application statistics ih
  | call call _ ih => rw [← List.append_assoc]; exact .call call ih

theorem split (h : Run e₀ (os ++ o :: os') e) : Run e₀ os o.before ∧ Run o.after os' e := by
  generalize hos : os ++ o :: os' = all at h
  induction h generalizing os' with
  | start => simp at hos
  | outside link application statistics _ ih =>
    obtain ⟨h₁, h₂⟩ := ih hos
    exact ⟨h₁, .outside link application statistics h₂⟩
  | call call h ih =>
    rcases List.eq_nil_or_concat os' with rfl | ⟨m, last, rfl⟩
    · obtain ⟨rfl, hlast⟩ := List.append_inj' hos rfl
      obtain rfl : o = _ := by simpa using hlast
      exact ⟨h, .start⟩
    · rw [List.concat_eq_append, ← List.cons_append, ← List.append_assoc] at hos
      obtain ⟨rfl, hlast⟩ := List.append_inj' hos rfl
      obtain rfl : last = _ := by simpa using hlast
      obtain ⟨h₁, h₂⟩ := ih rfl
      rw [List.concat_eq_append]
      exact ⟨h₁, .call call h₂⟩

theorem split_first (h : Run e₀ (o :: os) e) : Run e₀ [] o.before ∧ Run o.after os e := by
  rw [← List.nil_append (o :: os)] at h
  exact h.split

theorem of_append (h : Run e₀ (os ++ os') e) : ∃ e', Run e₀ os e' := by
  cases os' with
  | nil =>
    rw [List.append_nil] at h
    exact ⟨e, h⟩
  | cons o os' => exact ⟨o.before, h.split.1⟩

/-- A run without calls changes link, application and counters alone. -/
theorem eq_of_nil (h : Run e₀ [] e) :
    ∃ link application statistics, e = { e₀ with link, application, statistics } := by
  generalize hos : [] = os at h
  induction h with
  | start => exact ⟨_, _, _, rfl⟩
  | outside link application statistics _ ih =>
    obtain ⟨_, _, _, rfl⟩ := ih hos
    exact ⟨link, application, statistics, rfl⟩
  | call call _ _ => simp at hos

theorem profile_eq (h : Run e₀ os e) : e.profile = e₀.profile := by
  induction h with
  | start => rfl
  | outside _ _ _ _ ih => exact ih
  | call call _ ih => exact ((Endpoint.proceeds _ call).profile_eq).trans ih

end Run

namespace Endpoint

variable {e e' : Endpoint L A} {os : List (Occasion L A)}

theorem Reachable.run (h : Reachable e) (hrun : Run e os e') : Reachable e' := by
  obtain ⟨hc, h⟩ := h
  exact ⟨hc, h.append hrun⟩

/-- What a call keeps and no change from outside can touch holds of every reachable endpoint. -/
theorem Reachable.induction {P : Endpoint L A → Prop}
    (hcreate : ∀ link application profile e, create link application profile = .ok e → P e)
    (houtside : ∀ e link application statistics, P e →
      P { e with link, application, statistics })
    (hcall : ∀ e call, P e → P (e.after call)) (h : Reachable e) : P e := by
  obtain ⟨hc, h⟩ := h
  induction h with
  | start => exact hcreate _ _ _ _ hc
  | outside link application statistics _ ih => exact houtside _ link application statistics ih
  | call call _ ih => exact hcall _ call ih

/-- The occasions of calls that follow each other without a change from outside. -/
def history (e : Endpoint L A) : List Call → List (Occasion L A)
  | [] => []
  | call :: calls => ⟨e, call⟩ :: history (e.after call) calls

def afterAll (e : Endpoint L A) (calls : List Call) : Endpoint L A := calls.foldl after e

theorem run_history (e : Endpoint L A) (calls : List Call) :
    Run e (e.history calls) (e.afterAll calls) := by
  induction calls generalizing e with
  | nil => exact .start
  | cons call calls ih => exact Run.append (.call call .start) (ih (e.after call))

end Endpoint

/-! A guest talks to a host that echoes every request and repeats an answer once. -/

namespace Sample

def guest : DeviceAddress := ⟨0x1102⟩

def host : Endpoint RecordingLink Responder where
  link := { address := ⟨0x1101⟩, completesAtOnce := true }
  application := .echo 0x40
  profile := { maxRepetitions := 1 }
  connection := .ofProfile { maxRepetitions := 1 }

def control (field : ControlField) : Frame :=
  (Endpoint.controlFrame guest host.link.address field).toOption.getD []

def request (n : SequenceNumber) : Frame :=
  (Endpoint.answerFrame guest host.link.address .normal (.numbered n 3) ⟨0x300, []⟩).toOption.getD
    []

/-- Two requests are answered, and the first answer is acknowledged. -/
def exchange : List Call := [
  .receive (control .connect) 0, .receive (request 0) 1, .poll 2,
  .receive (control (.ack 0)) 3, .receive (request 1) 4, .poll 5]

/-- An answer is never acknowledged: it is repeated after four seconds and given up after eight. -/
def silence : List Call := [
  .receive (control .connect) 0, .receive (request 0) 1, .poll 2, .poll 4000000000,
  .poll 8000000000]

theorem create_host : Endpoint.create host.link host.application host.profile = .ok host := rfl

theorem reachable (calls : List Call) : (host.afterAll calls).Reachable :=
  ⟨create_host, host.run_history calls⟩

end Sample

end BusTransport
