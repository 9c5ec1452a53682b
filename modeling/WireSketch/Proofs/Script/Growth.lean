import WireSketch.Proofs.Script.Names

/-! Scripts only add to the scene, and change the drawing only by its functions and stores to its geometry. -/
namespace WireSketch
open Contract

/-- No function of the diagram runs in the event, and no name of the geometry is assigned. -/
def Event.IsQuiet (ev : Event) : Prop :=
  match ev.action with
  | .work => True
  | .store _ name _ => Field.ofName? name = none
  | .call f a => ¬ f.RunsMethod a ev.before.world

namespace Action.Leads

variable {act : Action} {s t : Session}

theorem changes (h : act.Leads s t) : World.Changes s.world t.world := by
  cases act with
  | work => exact h.2.changes
  | call f a =>
    rw [show t = _ from h]
    exact f.changes_call a s.world
  | store p name v =>
    rw [show t = _ from h]
    rcases ScriptM.store_cases p name v s with ⟨f, -, hrun⟩ | ⟨-, hrun⟩ | ⟨-, -, hrun⟩
    · rw [hrun]
      exact .single (.field f v)
    · rw [hrun]
    · rw [hrun]

theorem sameDrawing (h : act.Leads s t) (hquiet : Event.IsQuiet ⟨act, s, t⟩) :
    World.SameDrawing s.world t.world := by
  cases act with
  | work => exact h.2
  | call f a =>
    rw [show t = _ from h]
    exact Callable.sameDrawing_call hquiet
  | store p name v =>
    rw [show t = _ from h]
    rcases ScriptM.store_cases p name v s with ⟨f, hfield, -⟩ | ⟨-, hrun⟩ | ⟨-, -, hrun⟩
    · have hnone : Field.ofName? name = none := hquiet
      rw [hnone] at hfield
      cases hfield
    · rw [hrun]
      exact .refl s.world
    · rw [hrun]
      exact .refl s.world

end Action.Leads

namespace Explains

variable {s t : Session} {es : Trace}

theorem changes (h : Explains s es t) : World.Changes s.world t.world := by
  induction h with
  | nil => exact .refl
  | cons hact _ ih => exact hact.changes.trans ih

theorem sameDrawing (h : Explains s es t) (hquiet : ∀ ev ∈ es, ev.IsQuiet) :
    World.SameDrawing s.world t.world := by
  induction h with
  | nil s => exact .refl s.world
  | cons hact _ ih =>
    have hrest := ih fun ev hev => hquiet ev (List.mem_cons_of_mem _ hev)
    exact (hact.sameDrawing (hquiet _ List.mem_cons_self)).trans hrest

end Explains

namespace Session

/-- Between any two points of a script's run, the last one among them, the world changes by one change at a
time, each of which leaves all nodes and labels in place; the drawing stays the same if no function of the
diagram runs and no name of the geometry is assigned. -/
theorem pointAt_grows (budget : Int) (source : String) (s : Session) :
    s.pointAt budget source (s.trace budget source).length = Run.final (ScriptM.runSource budget source s) ∧
    (∀ w t, World.Change w t → World.Grows w t) ∧
    ∀ m n, m ≤ n →
      World.Changes (s.pointAt budget source m).world (s.pointAt budget source n).world ∧
      World.Grows (s.pointAt budget source m).world (s.pointAt budget source n).world ∧
      ((∀ ev ∈ ((s.trace budget source).take n).drop m, ev.IsQuiet) →
        World.SameDrawing (s.pointAt budget source m).world (s.pointAt budget source n).world) := by
  refine ⟨pointAt_length budget source s, fun _ _ => World.Change.grows, fun m n hmn => ?_⟩
  have hbetween := explains_between budget source s hmn
  exact ⟨hbetween.changes, World.grows_of_changes hbetween.changes, hbetween.sameDrawing⟩

end Session
end WireSketch
