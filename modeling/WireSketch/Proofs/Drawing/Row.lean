import WireSketch.Proofs.Drawing.Gap

/-! Boxes drawn one after another: they fill a row without gap or overlap, up to where its last line ends. -/
namespace WireSketch
open Contract

/-- A call that has drawn a box of integer span and height, its borders named by texts. -/
structure DrawnBox where
  label : Value
  spec : Value
  before : World
  resolved : World
  after : World
  options : Attrs
  span : Int
  height : Int
  sides : List String
  resolves : resolveValue spec before = .ok options resolved
  draws : drawBox label (Spec.ofValue spec) before = .ok () after
  hasSpan : boxSpan options = .int span
  hasHeight : boxHeight before.layout options = .int height
  hasBorders : Value.Names resolved.store (boxBorders options) sides

namespace DrawnBox

/-- What the call has added to the scene: area, borders and label between two edges, and nothing else. -/
def Shows (d : DrawnBox) (left right top : Int) : Prop :=
  ∃ filled label,
    (boxFill d.options).truth d.resolved.store = .ok filled d.resolved.store ∧
    LabelNodes d.label (.int d.span) (.int left) (.int right) (.int top) (.int d.height) label ∧
    d.after.scene = d.before.scene ++ ((if filled then
        [areaNode (.int left) (.int top) (.int (right - left)) (.int d.height) (boxFill d.options)]
      else []) ++ borderNodes d.sides (.int left) (.int right) (.int top) (.int (top + d.height)) ++
        label).toArray

theorem shows {d : DrawnBox} {m b y i : Int} (hl : d.before.layout.Whole m b y i) :
    d.after.layout = d.before.layout.set .boxIndex (.int (i + d.span)) ∧
      d.Shows (m + i * b) (m + (i + d.span) * b) y := by
  have hdraws := d.draws
  rw [drawBox_ofValue, Run.bind_ok d.resolves] at hdraws
  obtain ⟨s, hs⟩ := ((storing_resolving.keeps_resolveValue d.spec).of_ok d.resolves).1
  have hlayout : d.resolved.layout = d.before.layout := by rw [hs]
  have hscene : d.resolved.scene = d.before.scene := by rw [hs]
  obtain ⟨hafter, filled, label, htruth, hlabel, hnodes⟩ := of_drawBoxOf_ok (hlayout ▸ hl) d.hasSpan
    (hlayout ▸ d.hasHeight) d.hasBorders hdraws
  have hright : m + i * b + d.span * b = m + (i + d.span) * b := by rw [Int.add_mul, Int.add_assoc]
  have hwidth : d.span * b = m + (i + d.span) * b - (m + i * b) := by
    rw [← hright]
    omega
  rw [hright] at hlabel hnodes
  rw [hscene, hwidth] at hnodes
  exact ⟨hlayout ▸ hafter, filled, label, htruth, hlabel, hnodes⟩

/-- Each call starts with the geometry that the one before it has left. -/
def InRow : Layout → List DrawnBox → Prop
  | _, [] => True
  | l, d :: rest => d.before.layout = l ∧ InRow d.after.layout rest

def rowEnd : Layout → List DrawnBox → Layout
  | l, [] => l
  | _, d :: rest => rowEnd d.after.layout rest

def columns : List DrawnBox → Int
  | [] => 0
  | d :: rest => d.span + columns rest

/-- The left edge of the box at place `k` of a row, which is the right edge of the one before it. -/
def edge (m b i : Int) (boxes : List DrawnBox) (k : Nat) : Int :=
  m + (i + columns (boxes.take k)) * b

theorem edge_zero (m b i : Int) (boxes : List DrawnBox) : edge m b i boxes 0 = m + i * b := by
  simp [edge, columns]

theorem edge_cons (m b i : Int) (d : DrawnBox) (rest : List DrawnBox) (k : Nat) :
    edge m b i (d :: rest) (k + 1) = edge m b (i + d.span) rest k := by
  simp [edge, columns, Int.add_assoc]

/-- Every box of a row stands between its own edge and the next one. -/
theorem shows_inRow {m b y : Int} : (boxes : List DrawnBox) → (l : Layout) → (i : Int) →
    l.Whole m b y i → InRow l boxes → ∀ (k : Nat) (hk : k < boxes.length),
      boxes[k].Shows (edge m b i boxes k) (edge m b i boxes (k + 1)) y
  | d :: rest, l, i, hl, ⟨hd, hrest⟩, k, hk => by
    subst hd
    obtain ⟨hafter, hshows⟩ := d.shows hl
    cases k with
    | zero =>
      rw [edge_cons, edge_zero, edge_zero]
      exact hshows
    | succ k =>
      rw [edge_cons, edge_cons]
      refine shows_inRow rest d.after.layout (i + d.span) ?_ hrest k (Nat.lt_of_succ_lt_succ hk)
      rw [hafter]
      exact ⟨hl.leftMargin, hl.boxWidth, hl.diagramY, rfl⟩

/-- The boxes of a row change the column alone. -/
theorem whole_rowEnd {m b y : Int} : (boxes : List DrawnBox) → (l : Layout) → (i : Int) →
    l.Whole m b y i → InRow l boxes →
      (rowEnd l boxes).Whole m b y (i + columns boxes) ∧
        (rowEnd l boxes).boxesPerRow = l.boxesPerRow
  | [], l, i, hl, _ => by
    simpa [rowEnd, columns] using hl
  | d :: rest, l, i, hl, ⟨hd, hrest⟩ => by
    subst hd
    obtain ⟨hafter, -⟩ := d.shows hl
    have hnext : d.after.layout.Whole m b y (i + d.span) := by
      rw [hafter]
      exact ⟨hl.leftMargin, hl.boxWidth, hl.diagramY, rfl⟩
    obtain ⟨hend, hrow⟩ := whole_rowEnd rest d.after.layout (i + d.span) hnext hrest
    rw [columns, ← Int.add_assoc]
    refine ⟨hend, hrow.trans ?_⟩
    rw [hafter]
    rfl

/--
The boxes of a row stand edge to edge. If they fill it, its last edge is where the closing line ends and
where the right borders of a gap stand.
-/
theorem row_edges {l : Layout} {m b y i : Int} (boxes : List DrawnBox) (hl : l.Whole m b y i)
    (hrow : InRow l boxes) :
    (∀ (k : Nat) (hk : k < boxes.length),
      boxes[k].Shows (edge m b i boxes k) (edge m b i boxes (k + 1)) y) ∧
    ∀ n, l.boxesPerRow = .int n → i = 0 → columns boxes = n →
      ∀ w, w.layout = rowEnd l boxes →
        drawBottom w = .ok () (w.shows [lineNode (.int m) (.int y)
          (.int (edge m b i boxes boxes.length)) (.int y)]) ∧
        ∀ height gap inset t, drawGap height gap inset w = .ok () t → ∃ nodes,
          GapNodes (.int m) (.int (edge m b i boxes boxes.length)) (.int y) nodes ∧
            t.scene = w.scene ++ nodes.toArray := by
  refine ⟨shows_inRow boxes l i hl hrow, fun n hn hi hfull w hw => ?_⟩
  obtain ⟨hend, hper⟩ := whole_rowEnd boxes l i hl hrow
  have hlast : edge m b i boxes boxes.length = m + b * n := by
    unfold edge
    rw [List.take_length, hfull, hi, Int.zero_add, Int.mul_comm]
  rw [hlast]
  rw [← hw] at hend hper
  exact ⟨run_drawBottom hend (hper.trans hn), fun _ _ _ _ h => of_drawGap_ok hend (hper.trans hn) h⟩

def plainAfter (w : World) (m b y i h : Int) : World :=
  { w.shows (borderNodes ["left", "right", "top", "bottom"] (.int (m + i * b))
      (.int (m + i * b + 1 * b)) (.int y) (.int (y + h))) with
    layout := w.layout.set .boxIndex (.int (i + 1)) }

/-- A box without label and specification is always drawn. -/
theorem run_plainBox {w : World} {m b y i h : Int} (hl : w.layout.Whole m b y i)
    (hh : w.layout.rowHeight = .int h) :
    drawBox .none (Spec.ofValue .none) w = .ok () (plainAfter w m b y i h) := by
  have hresolve : resolveValue .none w = .ok [] w := rfl
  have hfill : drawFill .none (.int (m + i * b)) (.int y) (.int (1 * b)) (.int h) w = .ok () w := by
    obtain ⟨store, layout, styles, scene, labels⟩ := w
    rfl
  have hborders : Value.Names w.store allSides ["left", "right", "top", "bottom"] := .frozenset _
  have hspan : boxSpan [] = .int 1 := rfl
  have hheight : boxHeight w.layout [] = .int h := hh
  rw [drawBox_ofValue, Run.bind_ok hresolve, drawBoxOf_whole hl hspan hheight]
  refine (Run.bind_ok hfill).trans ?_
  refine (Run.bind_ok (run_drawBorders w _ _ _ _ hborders)).trans ?_
  rfl

def plain (w : World) {m b y i h : Int} (hl : w.layout.Whole m b y i)
    (hh : w.layout.rowHeight = .int h) : DrawnBox where
  label := .none
  spec := .none
  before := w
  resolved := w
  after := plainAfter w m b y i h
  options := []
  span := 1
  height := h
  sides := ["left", "right", "top", "bottom"]
  resolves := rfl
  draws := run_plainBox hl hh
  hasSpan := rfl
  hasHeight := hh
  hasBorders := .frozenset _

/-- Two boxes fill a row of two columns. -/
theorem row_edges_pair :
    let l : Layout := { boxesPerRow := .int 2 }
    let first := plain (.initial l) (m := 40) (b := 40) (y := 0) (i := 0) (h := 30)
      ⟨rfl, rfl, rfl, rfl⟩ rfl
    let second := plain first.after (m := 40) (b := 40) (y := 0) (i := 1) (h := 30)
      ⟨rfl, rfl, rfl, rfl⟩ rfl
    first.Shows 40 80 0 ∧ second.Shows 80 120 0 ∧
      ∀ w, w.layout = rowEnd l [first, second] →
        drawBottom w = .ok () (w.shows [lineNode (.int 40) (.int 0) (.int 120) (.int 0)]) := by
  intro l first second
  obtain ⟨hboxes, hend⟩ := row_edges (l := l) (m := 40) (b := 40) (y := 0) (i := 0) [first, second]
    ⟨rfl, rfl, rfl, rfl⟩ ⟨rfl, rfl, trivial⟩
  exact ⟨hboxes 0 (by decide), hboxes 1 (by decide), fun w hw => (hend 2 rfl rfl rfl w hw).1⟩

end DrawnBox
end WireSketch
