import WireSketch.Proofs.Call.Move
import WireSketch.Proofs.Value.Table

/-! The cursor after any run of calls: the sum of the moves of those that succeeded. -/
namespace WireSketch
open Contract

/-- A call of a drawing function by a caller who may have changed the containers before. -/
structure DrawingCall where
  prepare : Store → Store
  function : Primitive
  arguments : Arguments

namespace DrawingCall

def entered (c : DrawingCall) (w : World) : World := { w with store := c.prepare w.store }

def run (c : DrawingCall) (w : World) : EStateM.Result Failure World Value :=
  c.function.call c.arguments (c.entered w)

/-- The world after a call, also after one that failed. -/
def after (c : DrawingCall) (w : World) : World :=
  match c.run w with
  | .ok _ t => t
  | .error _ t => t

def move? (c : DrawingCall) (w : World) : Option Move :=
  match c.run w, c.function.signature.bind c.arguments with
  | .ok .., .ok b => some (c.function.move b (c.entered w))
  | _, _ => none

/-- The world after calls one after another, the failing ones among them. -/
def runAll (calls : List DrawingCall) (w : World) : World := calls.foldl (fun w c => c.after w) w

def moves : List DrawingCall → World → List Move
  | [], _ => []
  | c :: rest, w => (c.move? w).toList ++ moves rest (c.after w)

/-- A call that succeeds makes its move; one that fails leaves all of the geometry as it was. -/
theorem after_layout (c : DrawingCall) (w : World) :
    match c.run w with
    | .ok _ t => ∃ m, c.move? w = some m ∧ m.Makes w.layout t.layout
    | .error _ t => c.move? w = none ∧ t.layout = w.layout := by
  unfold move?
  cases hb : c.function.signature.bind c.arguments with
  | error f =>
    have hrun : c.run w = .error (.fault f) (c.entered w) := by
      unfold run Primitive.call
      rw [hb]
      rfl
    rw [hrun]
    exact ⟨rfl, rfl⟩
  | ok b =>
    have hrun : c.run w = c.function.perform b (c.entered w) := by
      unfold run Primitive.call
      rw [hb]
      rfl
    have hmoves : Moves (c.function.move b (c.entered w)) (c.function.perform b) (c.entered w) :=
      c.function.moves_perform b _
    unfold Moves at hmoves
    rw [← hrun] at hmoves
    cases hr : c.run w with
    | ok v t =>
      rw [hr] at hmoves
      exact ⟨_, rfl, hmoves⟩
    | error e t =>
      rw [hr] at hmoves
      exact ⟨rfl, hmoves⟩

end DrawingCall

namespace Move

def isRow : Move → Bool
  | row _ => true
  | _ => false

def span? : Move → Option Value
  | across span => some span
  | _ => none

def height? : Move → Option Value
  | down height | row height => some height
  | _ => none

/-- The moves after the last row that began. -/
def sinceRow (ms : List Move) : List Move := (ms.reverse.takeWhile fun m => !m.isRow).reverse

def rowSpans (ms : List Move) : List Value := (sinceRow ms).filterMap span?

def heights (ms : List Move) : List Value := ms.filterMap height?

/-- The column from which the moves of the last row count. -/
def rowStart (ms : List Move) (first : Value) : Value := if ms.any isRow then .int 0 else first

/-- The sum of values from the left, as `+` adds them. -/
def total (first : Value) (vs : List Value) : StoreM Value := vs.foldlM Value.add first

/-- The cursor of the second layout is where the moves have brought that of the first one. -/
structure Brings (ms : List Move) (l l' : Layout) : Prop where
  boxIndex : ∀ s, total (rowStart ms l.boxIndex) (rowSpans ms) s = .ok l'.boxIndex s
  diagramY : ∀ s, total l.diagramY (heights ms) s = .ok l'.diagramY s
  columns : l'.boxIndex.num?.isSome
  rows : l'.diagramY.num?.isSome
  others : ∀ f, f ≠ .boxIndex → f ≠ .diagramY → l'.get f = l.get f

theorem Brings.refl {l : Layout} (hx : l.boxIndex.num?.isSome) (hy : l.diagramY.num?.isSome) :
    Brings [] l l := ⟨fun _ => rfl, fun _ => rfl, hx, hy, fun _ _ _ => rfl⟩

theorem total_concat {first v : Value} {vs : List Value} {a : Value}
    (h : ∀ s, total first vs s = .ok a s) (s : Store) : total first (vs ++ [v]) s = a.add v s := by
  have hfold : total first (vs ++ [v]) = total first vs >>= fun x => x.add v := by
    unfold total
    rw [List.foldlM_append]
    simp only [List.foldlM_cons, List.foldlM_nil, bind_pure]
  rw [hfold]
  exact Run.bind_ok (h s)

theorem rowSpans_concat (ms : List Move) (m : Move) :
    rowSpans (ms ++ [m]) = if m.isRow then [] else rowSpans ms ++ m.span?.toList := by
  unfold rowSpans sinceRow
  rw [List.reverse_append]
  cases hm : m.isRow with
  | true => simp [hm]
  | false => cases hs : m.span? <;> simp [hm, hs]

theorem heights_concat (ms : List Move) (m : Move) :
    heights (ms ++ [m]) = heights ms ++ m.height?.toList := by
  unfold heights
  rw [List.filterMap_append]
  cases hm : m.height? <;> simp [hm]

theorem rowStart_concat (ms : List Move) (m : Move) (first : Value) :
    rowStart (ms ++ [m]) first = if m.isRow then .int 0 else rowStart ms first := by
  unfold rowStart
  cases hm : m.isRow <;> simp [List.any_append, hm]

/-- One more move brings the cursor on. -/
theorem Brings.step {ms : List Move} {m : Move} {l l' l'' : Layout} (h : Brings ms l l')
    (hm : m.Makes l' l'') : Brings (ms ++ [m]) l l'' := by
  cases m with
  | stay =>
    obtain rfl : l'' = l' := hm
    refine ⟨fun s => ?_, fun s => ?_, h.columns, h.rows, h.others⟩
    · rw [rowStart_concat, rowSpans_concat]
      exact (List.append_nil (rowSpans ms)).symm ▸ h.boxIndex s
    · rw [heights_concat]
      exact (List.append_nil (heights ms)).symm ▸ h.diagramY s
  | across span =>
    obtain ⟨v, s₀, s₁, hv, rfl⟩ := hm
    obtain ⟨hnum, hadd⟩ := Value.addInto_number h.columns hv
    refine ⟨fun s => ?_, fun s => ?_, hnum, h.rows, fun f hx hy => ?_⟩
    · rw [rowStart_concat, rowSpans_concat]
      exact (total_concat h.boxIndex s).trans (hadd s)
    · rw [heights_concat]
      exact (List.append_nil (heights ms)).symm ▸ h.diagramY s
    · rw [Layout.get_set_other _ hx]
      exact h.others f hx hy
  | down height =>
    obtain ⟨v, s₀, s₁, hv, rfl⟩ := hm
    obtain ⟨hnum, hadd⟩ := Value.addInto_number h.rows hv
    refine ⟨fun s => ?_, fun s => ?_, h.columns, hnum, fun f hx hy => ?_⟩
    · rw [rowStart_concat, rowSpans_concat]
      exact (List.append_nil (rowSpans ms)).symm ▸ h.boxIndex s
    · rw [heights_concat]
      exact (total_concat h.diagramY s).trans (hadd s)
    · rw [Layout.get_set_other _ hy]
      exact h.others f hx hy
  | row height =>
    obtain ⟨v, s₀, s₁, hv, rfl⟩ := hm
    obtain ⟨hnum, hadd⟩ := Value.addInto_number h.rows hv
    refine ⟨fun s => ?_, fun s => ?_, rfl, hnum, fun f hx hy => ?_⟩
    · rw [rowStart_concat, rowSpans_concat]
      rfl
    · rw [heights_concat]
      exact (total_concat h.diagramY s).trans (hadd s)
    · rw [Layout.get_set_other _ hx, Layout.get_set_other _ hy]
      exact h.others f hx hy

end Move

namespace DrawingCall

/-- The moves of a run bring the cursor from where it was to where it is. -/
theorem brings_runAll {ms : List Move} {l : Layout} :
    (calls : List DrawingCall) → (w : World) → Move.Brings ms l w.layout →
      Move.Brings (ms ++ moves calls w) l (runAll calls w).layout
  | [], w, h => by
    rw [moves, List.append_nil]
    exact h
  | c :: rest, w, h => by
    have hafter := c.after_layout w
    have hrun : runAll (c :: rest) w = runAll rest (c.after w) := rfl
    rw [moves, hrun, ← List.append_assoc]
    refine brings_runAll rest (c.after w) ?_
    unfold after
    cases hr : c.run w with
    | ok v t =>
      rw [hr] at hafter
      obtain ⟨m, hm, hmakes⟩ := hafter
      rw [hm]
      exact h.step hmakes
    | error e t =>
      rw [hr] at hafter
      obtain ⟨hm, ht⟩ := hafter
      rw [hm, Option.toList_none, List.append_nil]
      exact ht ▸ h

/-- From numbers, any run of calls leaves the cursor at the sums of what the successful ones moved it. -/
theorem cursor_runAll (calls : List DrawingCall) (w : World) (hx : w.layout.boxIndex.num?.isSome)
    (hy : w.layout.diagramY.num?.isSome) :
    (∀ s, Move.total (Move.rowStart (moves calls w) w.layout.boxIndex)
        (Move.rowSpans (moves calls w)) s = .ok (runAll calls w).layout.boxIndex s) ∧
      (∀ s, Move.total w.layout.diagramY (Move.heights (moves calls w)) s =
        .ok (runAll calls w).layout.diagramY s) ∧
      (∀ f, f ≠ .boxIndex → f ≠ .diagramY → (runAll calls w).layout.get f = w.layout.get f) ∧
      ∀ c ∈ calls, ∀ u e t, c.run u = .error e t → t.layout = u.layout := by
  have hbrings := brings_runAll calls w (Move.Brings.refl hx hy)
  rw [List.nil_append] at hbrings
  refine ⟨hbrings.boxIndex, hbrings.diagramY, hbrings.others, fun c _ u e t hr => ?_⟩
  have hafter := c.after_layout u
  rw [hr] at hafter
  exact hafter.2

/-- Boxes before and after two rows and a gap; two calls in between fail. -/
theorem cursor_runAll_rows :
    let wide : Dict := .ofDistinct [(.str "span", .int 3), (.str "borders", .str "top left")] (by decide)
    let narrow : Dict := .ofDistinct [(.str "borders", .str "right")] (List.pairwise_singleton _ _)
    let calls : List DrawingCall := [
      ⟨id, .drawBox, ⟨[.none, .dict 0], []⟩⟩,
      ⟨id, .nextRow, ⟨[], []⟩⟩,
      ⟨id, .drawBox, ⟨[.none, .int 5], []⟩⟩,
      ⟨id, .drawBox, ⟨[.none, .dict 1], []⟩⟩,
      ⟨id, .drawGap, ⟨[], []⟩⟩,
      ⟨id, .nextRow, ⟨[.str "tall"], []⟩⟩,
      ⟨id, .nextRow, ⟨[], [("height", .int 25)]⟩⟩,
      ⟨id, .drawBox, ⟨[.none, .dict 1], []⟩⟩,
      ⟨id, .drawBox, ⟨[.none, .dict 0], []⟩⟩]
    let w : World := { World.initial {} with store := ⟨#[.dict wide, .dict narrow]⟩ }
    (runAll calls w).layout.boxIndex.asInt? = some 4 ∧ (runAll calls w).layout.diagramY.asInt? = some 125 ∧
      (moves calls w).length = 7 ∧ (Move.rowSpans (moves calls w)).length = 2 ∧
      (∀ s, Move.total (Move.rowStart (moves calls w) (.int 0)) (Move.rowSpans (moves calls w)) s =
        .ok (runAll calls w).layout.boxIndex s) ∧
      ∀ s, Move.total (.int 0) (Move.heights (moves calls w)) s =
        .ok (runAll calls w).layout.diagramY s := by
  intro wide narrow calls w
  obtain ⟨hacross, hdown, -⟩ := cursor_runAll calls w rfl rfl
  exact ⟨by decide +kernel, by decide +kernel, by decide +kernel, by decide +kernel, hacross, hdown⟩

end DrawingCall
end WireSketch
