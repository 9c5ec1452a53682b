import WireSketch.Proofs.Call.Method
import WireSketch.Proofs.Script.Composed
import WireSketch.Proofs.Value.Onward

/-! Expressions without calls change nothing but the count of steps and the positions of the iterators they walk. -/
namespace WireSketch
open Contract ScriptM

/-- Steps were counted, containers made and items of iterators taken; all else is as it was. -/
structure Session.Walks (s t : Session) : Prop where
  store : s.world.store.Walks t.world.store
  drawing : s.world.SameDrawing t.world
  bindings : t.bindings = s.bindings
  line : t.line = s.line
  column : t.column = s.column
  steps : s.steps ≤ t.steps

namespace Session.Walks

theorem refl (s : Session) : s.Walks s := ⟨.refl, .refl s.world, rfl, rfl, rfl, Nat.le_refl _⟩

theorem trans {s t u : Session} (h : s.Walks t) (h' : t.Walks u) : s.Walks u where
  store := h.store.trans h'.store
  drawing := h.drawing.trans h'.drawing
  bindings := h'.bindings.trans h.bindings
  line := h'.line.trans h.line
  column := h'.column.trans h.column
  steps := Nat.le_trans h.steps h'.steps

end Session.Walks

def Contract.pacing : Contract Failure Session where
  rel := Session.Walks
  fails _ := True
  refl := .refl
  trans := .trans

theorem pacing_inside : walking.Inside pacing where
  heap _ _ h := ⟨h, ⟨rfl, rfl, rfl, rfl⟩, rfl, rfl, rfl, Nat.le_refl _⟩
  fault _ _ := trivial
  script _ _ := trivial

theorem pacing_tick (budget : Int) : pacing.Keeps (tick budget) :=
  keeps_tick (C := pacing) (fun s => ⟨.refl, .refl s.world, rfl, rfl, rfl, Nat.le_succ _⟩) (fun _ _ => trivial) budget

namespace Expr

/-- Whether it succeeds or fails, an expression without calls counts steps, makes containers and takes items of
iterators, and does nothing else; so every container that there was has the contents it had. -/
theorem eval_callFree (e : Expr) (he : e.callFree = true) (budget : Int) (s : Session) :
    let t := Run.final (e.eval budget s)
    s.Walks t ∧ ∀ (r : Ref) c, s.world.store.cells[r]? = some c → t.world.store.cells[r]? = some c ∨
      ∃ a b, c = .iterator a ∧ t.world.store.cells[r]? = some (.iterator b) ∧ a.Onward b := by
  intro t
  have hkeeps : pacing.Keeps (e.eval budget) := (pacing_inside.evaluates pacing_tick).eval e (.inl he) budget
  have hwalks : s.Walks t := hkeeps.final s
  refine ⟨hwalks, fun r c hc => ?_⟩
  obtain ⟨c', hc', honward⟩ := hwalks.store.onward r c hc
  cases honward with
  | same => exact .inl hc'
  | iterator hit => exact .inr ⟨_, _, rfl, hc', hit⟩

/-- A search ends at the first item it takes, and the tuple around it divides by zero: the step count and the
position of the iterator are all that remains of it. -/
theorem eval_callFree_search :
    let p : Place := ⟨1, 1⟩
    let position (left : Nat) := Cell.iterator (.plain (.listBackward 0 left))
    let s : Session :=
      { world := { World.initial {} with store := ⟨#[.list #[.int 8, .int 7], position 2]⟩ },
        bindings := [("z", .iterator .listBackward 1)] }
    let search := Expr.compare p (.const p (.int 7)) [.mk .isIn (.name p "z")]
    let e := Expr.tuple p [search, .binary p .floorDiv (.const p (.int 1)) (.const p (.int 0))]
    let r := e.eval 100 s
    s.Walks (Run.final r) ∧ (∃ t, r = .error (.fault .integerDivisionByZero) t) ∧
      (Run.final r).world.store.cells = #[.list #[.int 8, .int 7], position 1] ∧ (Run.final r).steps = 7 := by
  intro p position s search e r
  refine ⟨(eval_callFree e (by decide) 100 s).1, ⟨_, rfl⟩, rfl, rfl⟩

end Expr
end WireSketch
