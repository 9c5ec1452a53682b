import WireSketch.Proofs.Call.Frame
import WireSketch.Proofs.Value.Number

/-! What a call of a drawing function does to the geometry: one move of the cursor, or nothing at all. -/
namespace WireSketch
open Contract

inductive Move
  | stay
  /-- The next box stands further right. -/
  | across (span : Value)
  /-- The row stands further down. -/
  | down (height : Value)
  /-- The next row begins. -/
  | row (height : Value)

namespace Move

/-- The second layout is the first one after the move. -/
def Makes (m : Move) (l l' : Layout) : Prop :=
  match m with
  | stay => l' = l
  | across span => ∃ v s s', l.boxIndex.addInto span s = .ok v s' ∧ l' = l.set .boxIndex v
  | down height => ∃ v s s', l.diagramY.addInto height s = .ok v s' ∧ l' = l.set .diagramY v
  | row height => ∃ v s s', l.diagramY.addInto height s = .ok v s' ∧
      l' = (l.set .diagramY v).set .boxIndex (.int 0)

def resolved (spec : Value) (w : World) (move : Attrs → Move) : Move :=
  match resolveValue spec w with
  | .ok options _ => move options
  | .error .. => stay

end Move

def Primitive.move (p : Primitive) (b : Bound) (w : World) : Move :=
  match p, b.values with
  | drawColumnHeaders, [spec] => Move.resolved spec w fun options => .down (headerHeight options)
  | nextRow, [height] => .row (rowStep w.layout height)
  | drawBox, [_, spec] => Move.resolved spec w fun options => .across (boxSpan options)
  | drawGroupLabelHeader, [span, _] => .across span
  | drawGap, [height, _, _] => .down height
  | _, _ => .stay

def Contract.still : Contract Failure World where
  rel w t := t.layout = w.layout
  fails _ := True
  refl _ := rfl
  trans hst htu := htu.trans hst

theorem still_drawing : Contract.still.Drawing where
  store _ _ := rfl
  styles _ _ := rfl
  scene _ _ := rfl
  labels _ _ := rfl
  fault _ _ := trivial
  diagram _ := trivial

/-- What a program may do to the geometry: a move if it succeeds, else nothing. -/
def Moves {α : Type} (m : Move) (x : DrawM α) (w : World) : Prop :=
  match x w with
  | .ok _ t => m.Makes w.layout t.layout
  | .error _ t => t.layout = w.layout

namespace Moves

variable {α β : Type} {w : World} {m : Move}

theorem stay {x : DrawM α} (hx : still.Keeps x) : Moves .stay x w := by
  unfold Moves
  cases hr : x w with
  | ok a t => exact (hx.of_ok hr).1
  | error e t => exact (hx.of_error hr).1

theorem of_commitsAt {x : DrawM α} {P : World → World → Prop} (hx : still.CommitsAt P x w)
    (hP : ∀ u t, u.layout = w.layout → P u t → m.Makes w.layout t.layout) : Moves m x w := by
  unfold Moves
  cases hr : x w with
  | ok a t =>
    obtain ⟨u, hu, hut⟩ := hx.of_ok hr
    exact hP u t hu hut
  | error e t => exact (hx.of_error hr).1

/-- Work that leaves the geometry alone comes first. -/
theorem after {x : DrawM α} {f : α → DrawM β} (hx : still.Keeps x)
    (hf : ∀ a t, x w = .ok a t → Moves m (f a) t) : Moves m (x >>= f) w := by
  unfold Moves
  cases hr : x w with
  | error e t =>
    rw [Run.bind_error hr]
    exact (hx.of_error hr).1
  | ok a t =>
    have ht : t.layout = w.layout := (hx.of_ok hr).1
    have hfa := hf a t hr
    rw [Run.bind_ok hr]
    unfold Moves at hfa
    rwa [ht] at hfa

/-- A function of which nothing is returned. -/
theorem done {x : DrawM Unit} (hx : Moves m x w) : Moves m (do x; return .none : DrawM Value) w := by
  unfold Moves at *
  cases hr : x w with
  | error e t =>
    rw [hr] at hx
    rw [Run.bind_error hr]
    exact hx
  | ok a t =>
    rw [hr] at hx
    rw [Run.bind_ok hr]
    exact hx

theorem drawBoxOf (label : Value) (options : Attrs) (w : World) :
    Moves (.across (boxSpan options)) (WireSketch.drawBoxOf label options) w := by
  refine of_commitsAt (still_drawing.commitsAt_drawBoxOf label options w) fun u t hu hut => ?_
  obtain ⟨v, s, s', hv, rfl⟩ := hut
  exact ⟨v, s, s', hv, by rw [hu]⟩

/-- A function that resolves its specification first makes the move that the attributes say. -/
theorem resolved {spec : Value} {f : Attrs → DrawM Unit} {move : Attrs → Move}
    (hf : ∀ options t, Moves (move options) (f options) t) :
    Moves (Move.resolved spec w move) (resolveValue spec >>= f) w := by
  refine after (still_drawing.keeps_resolveValue spec) fun options t hr => ?_
  unfold Move.resolved
  rw [hr]
  exact hf options t

theorem drawBox (label spec : Value) (w : World) :
    Moves (Move.resolved spec w fun options => .across (boxSpan options))
      (WireSketch.drawBox label (Spec.ofValue spec)) w := by
  rw [drawBox_ofValue]
  exact resolved fun options t => drawBoxOf label options t

theorem drawColumnHeaders (spec : Value) (w : World) :
    Moves (Move.resolved spec w fun options => .down (headerHeight options))
      (WireSketch.drawColumnHeaders spec) w := by
  refine resolved fun options t => ?_
  refine of_commitsAt (still_drawing.commitsAt_drawHeadersOf options t) fun u t' hu hut => ?_
  obtain ⟨v, s, s', hv, rfl⟩ := hut
  exact ⟨v, s, s', hv, by rw [hu]⟩

theorem nextRow (height : Value) (w : World) :
    Moves (.row (rowStep w.layout height)) (WireSketch.nextRow height) w := by
  refine of_commitsAt (still_drawing.commitsAt_nextRow height w) fun u t hu hut => ?_
  obtain ⟨v, s, s', hv, rfl⟩ := hut
  exact ⟨v, s, s', hv, by rw [hu]⟩

theorem drawGap (height gap edge : Value) (w : World) :
    Moves (.down height) (WireSketch.drawGap height gap edge) w := by
  refine of_commitsAt (still_drawing.commitsAt_drawGap height gap edge w) fun u t hu hut => ?_
  obtain ⟨v, s, s', hv, rfl⟩ := hut
  exact ⟨v, s, s', hu ▸ hv, by rw [hu]⟩

/-- The label of a group is drawn as a box of the given span. -/
theorem drawGroupLabelHeader (span label : Value) (w : World) :
    Moves (.across span) (WireSketch.drawGroupLabelHeader span label) w := by
  have style : (Spec.composite [.named (.str "math"),
      .ofNames [("font-size", .int 12)] (by decide)]).Allowed still := .styled _ (.own _ _)
  unfold WireSketch.drawGroupLabelHeader
  refine after (still_drawing.keeps_buildLabel label (yields_pure style) []) fun n t _ => ?_
  exact drawBoxOf (.node n)
    (Attrs.ofNames [("span", span), ("borders", .frozenset #[]), ("height", .int 14)]) t

end Moves

/-- Every drawing function makes its move when it succeeds and none when it fails. -/
theorem Primitive.moves_perform (p : Primitive) (b : Bound) (w : World) :
    Moves (p.move b w) (p.perform b) w := by
  by_cases hp : p.movesCursor = false
  · have hstay : p.move b w = .stay := by
      unfold Primitive.move
      split <;> first | cases hp | rfl
    rw [hstay]
    exact .stay (still_drawing.keeps_perform hp fun _ _ _ _ _ => trivial)
  · obtain ⟨values, rest, extra⟩ := b
    cases p <;> try exact absurd rfl hp
    case drawColumnHeaders =>
      match values with
      | [spec] => exact .done (.drawColumnHeaders spec w)
      | [] | _ :: _ :: _ => exact .stay (keeps_pure _)
    case nextRow =>
      match values with
      | [height] => exact .done (.nextRow height w)
      | [] | _ :: _ :: _ => exact .stay (keeps_pure _)
    case drawBox =>
      match values with
      | [label, spec] => exact .done (.drawBox label spec w)
      | [] | [_] | _ :: _ :: _ :: _ => exact .stay (keeps_pure _)
    case drawGroupLabelHeader =>
      match values with
      | [span, label] => exact .done (.drawGroupLabelHeader span label w)
      | [] | [_] | _ :: _ :: _ :: _ => exact .stay (keeps_pure _)
    case drawGap =>
      match values with
      | [height, gap, edge] => exact .done (.drawGap height gap edge w)
      | [] | [_] | [_, _] | _ :: _ :: _ :: _ :: _ => exact .stay (keeps_pure _)

end WireSketch
