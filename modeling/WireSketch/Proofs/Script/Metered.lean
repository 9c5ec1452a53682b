import WireSketch.Proofs.Script.Composed
import WireSketch.Proofs.Script.Stepless

/-! Programs whose runs a budget of steps can only cut short, expressions and targets among them. -/
namespace WireSketch
open Contract

namespace ScriptM

variable {α β : Type}

def final : EStateM.Result Failure Session α → Session
  | .ok _ s => s
  | .error _ s => s

def isStopped : EStateM.Result Failure Session α → Bool
  | .ok .. => false
  | .error e _ => e.isStepLimit

/-- The run ends at the first step that the budget does not cover. -/
def StopsAt (budget : Int) (r : EStateM.Result Failure Session α) : Prop :=
  ∃ line s, r = .error (.script ⟨.stepLimit budget, line, none⟩) s ∧ (s.steps : Int) = budget + 1

/-- What a program does from a session if it is not stopped, and that any smaller budget stops it. -/
structure RunsAs (x : Int → ScriptM α) (s : Session) (r : EStateM.Result Failure Session α) :
    Prop where
  unstopped : isStopped r = false
  counts : s.steps ≤ (final r).steps
  enough : ∀ budget : Int, (final r).steps ≤ budget → x budget s = r
  less : ∀ budget : Int, s.steps ≤ budget → budget < (final r).steps → StopsAt budget (x budget s)

/-- The budget has no say in what a program does. -/
def Metered (x : Int → ScriptM α) : Prop := ∀ s, ∃ r, RunsAs x s r

theorem Metered.of_keeps {x : ScriptM α} (hx : stepless.Keeps x) : Metered fun _ => x := by
  intro s
  refine ⟨x s, ?_⟩
  cases hr : x s with
  | ok a t =>
    have ht : t.steps = s.steps := (hx.of_ok hr).1
    refine ⟨rfl, Nat.le_of_eq ht.symm, fun _ _ => hr, fun budget hs hlt => ?_⟩
    simp only [final] at hlt
    omega
  | error e t =>
    obtain ⟨ht, he⟩ : t.steps = s.steps ∧ e.isStepLimit = false := hx.of_error hr
    refine ⟨he, Nat.le_of_eq ht.symm, fun _ _ => hr, fun budget hs hlt => ?_⟩
    simp only [final] at hlt
    omega

/-- A step is counted before the budget is looked at. -/
theorem metered_tick : Metered tick := by
  intro ⟨world, bindings, steps, line, column⟩
  refine ⟨.ok () ⟨world, bindings, steps + 1, line, column⟩, rfl, Nat.le_succ steps, ?_, ?_⟩
  · intro budget hb
    simp only [final] at hb
    unfold tick
    exact if_neg (by omega)
  · intro budget hs hb
    simp only [final] at hs hb
    refine ⟨line, ⟨world, bindings, steps + 1, line, column⟩, ?_, ?_⟩
    · unfold tick
      exact if_pos (by omega)
    · simp only
      omega

theorem StopsAt.bind {budget : Int} {x : ScriptM α} {s : Session} (f : α → ScriptM β)
    (hx : StopsAt budget (x s)) : StopsAt budget ((x >>= f) s) := by
  obtain ⟨line, t, hr, ht⟩ := hx
  exact ⟨line, t, Run.bind_error hr, ht⟩

theorem Metered.bind {x : Int → ScriptM α} {f : α → Int → ScriptM β} (hx : Metered x)
    (hf : ∀ a, Metered (f a)) : Metered fun budget => x budget >>= fun a => f a budget := by
  intro s
  obtain ⟨r, hr⟩ := hx s
  cases r with
  | error e t =>
    exact ⟨.error e t, hr.unstopped, hr.counts, fun budget hb => Run.bind_error (hr.enough budget hb),
      fun budget hs hb => (hr.less budget hs hb).bind _⟩
  | ok a t =>
    obtain ⟨q, hq⟩ := hf a t
    have hst : s.steps ≤ t.steps := hr.counts
    have htq : t.steps ≤ (final q).steps := hq.counts
    refine ⟨q, hq.unstopped, Nat.le_trans hst htq, fun budget hb => ?_, fun budget hs hb => ?_⟩
    · have hxs : x budget s = .ok a t := hr.enough budget (by simp only [final]; omega)
      rw [Run.bind_ok hxs]
      exact hq.enough budget hb
    · by_cases ht : budget < t.steps
      · exact (hr.less budget hs ht).bind _
      · have hxs : x budget s = .ok a t := hr.enough budget (by simp only [final]; omega)
        rw [Run.bind_ok hxs]
        exact hq.less budget (by omega) hb

/-- Work between two steps, followed by more steps. -/
theorem Metered.after {x : ScriptM α} {f : α → Int → ScriptM β} (hx : stepless.Keeps x)
    (hf : ∀ a, Metered (f a)) : Metered fun budget => x >>= fun a => f a budget :=
  (Metered.of_keeps hx).bind hf

theorem metered_pure (a : α) : Metered fun _ => (pure a : ScriptM α) := .of_keeps (keeps_pure a)

/-- Expressions and targets are made of metered programs. -/
theorem metered_assigns : Assigns fun _ x => Metered x where
  pure := metered_pure
  bind := Metered.bind
  inside hx := .of_keeps (hx stepless_working.toInside)
  tick := metered_tick
  call f a := .of_keeps (keeps_call f a)
  assignItem c i v := .of_keeps (stepless_working.keeps_ofStore (Value.keeps_assignItem c i v))
  store p name v := .of_keeps (keeps_store p name v)

end ScriptM
end WireSketch
