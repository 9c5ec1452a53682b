import WireSketch.Failure
import WireSketch.Value.Convert

/-! The state of one drawing: geometry and cursor, named styles, the scene, and the labels placed in boxes. -/
namespace WireSketch

/-- Attributes in the order in which they were set. -/
abbrev Attrs := List (Value × Value)

namespace Attrs

def find? (name : String) : Attrs → Option Value
  | [] => none
  | (.str k, v) :: rest => if k == name then some v else find? name rest
  | _ :: rest => find? name rest

/-- An attribute that is set again keeps its place. -/
def set (key value : Value) : Attrs → Attrs
  | [] => [(key, value)]
  | (k, v) :: rest =>
    if k.sameKey key then (k, value) :: rest else (k, v) :: set key value rest

def put (name : String) (value : Value) (a : Attrs) : Attrs := set (.str name) value a

def setDefault (name : String) (value : Value) (a : Attrs) : Attrs :=
  if (a.find? name).isSome then a else a ++ [(.str name, value)]

def erase (name : String) : Attrs → Attrs
  | [] => []
  | (.str k, v) :: rest => if k == name then rest else (.str k, v) :: erase name rest
  | entry :: rest => entry :: erase name rest

/-- The attributes of the second map win. -/
def merge (a b : Attrs) : Attrs := b.foldl (fun a (k, v) => a.set k v) a

def ofNames (entries : List (String × Value)) : Attrs := entries.map fun (k, v) => (.str k, v)

/-- No two entries have the same key. -/
def IsMap (a : Attrs) : Prop := a.Pairwise fun x y => ¬ y.1.sameKey x.1

instance (a : Attrs) : Decidable a.IsMap := inferInstanceAs (Decidable (a.Pairwise _))

theorem isMap_ofNames {entries : List (String × Value)} (h : (entries.map (·.1)).Nodup) :
    (ofNames entries).IsMap := by
  unfold IsMap ofNames
  rw [List.pairwise_map]
  refine (List.pairwise_map.mp h).imp fun hne hsame => hne ?_
  exact (beq_iff_eq.mp hsame).symm

end Attrs

/-- Geometry and cursor: the column offset of the next box and the top of the row being drawn. -/
structure Layout where
  leftMargin : Value := .int 40
  rightMargin : Value := .int 1
  bottomMargin : Value := .int 1
  boxWidth : Value := .int 40
  boxesPerRow : Value := .int 16
  rowHeight : Value := .int 30
  boxIndex : Value := .int 0
  diagramY : Value := .int 0

/-- The fields of the geometry, by the names that scripts use. -/
inductive Field
  | leftMargin | rightMargin | bottomMargin | boxWidth | boxesPerRow | rowHeight | boxIndex | diagramY
deriving Repr, DecidableEq

namespace Field

def name : Field → String
  | leftMargin => "left_margin"
  | rightMargin => "right_margin"
  | bottomMargin => "bottom_margin"
  | boxWidth => "box_width"
  | boxesPerRow => "boxes_per_row"
  | rowHeight => "row_height"
  | boxIndex => "box_index"
  | diagramY => "diagram_y"

def all : List Field :=
  [leftMargin, rightMargin, bottomMargin, boxWidth, boxesPerRow, rowHeight, boxIndex, diagramY]

theorem mem_all (f : Field) : f ∈ all := by cases f <;> decide

def ofName? (name : String) : Option Field := all.find? (·.name == name)

end Field

namespace Layout

def get (l : Layout) : Field → Value
  | .leftMargin => l.leftMargin
  | .rightMargin => l.rightMargin
  | .bottomMargin => l.bottomMargin
  | .boxWidth => l.boxWidth
  | .boxesPerRow => l.boxesPerRow
  | .rowHeight => l.rowHeight
  | .boxIndex => l.boxIndex
  | .diagramY => l.diagramY

def set (l : Layout) (f : Field) (v : Value) : Layout :=
  match f with
  | .leftMargin => { l with leftMargin := v }
  | .rightMargin => { l with rightMargin := v }
  | .bottomMargin => { l with bottomMargin := v }
  | .boxWidth => { l with boxWidth := v }
  | .boxesPerRow => { l with boxesPerRow := v }
  | .rowHeight => { l with rowHeight := v }
  | .boxIndex => { l with boxIndex := v }
  | .diagramY => { l with diagramY := v }

@[simp] theorem get_set_same (l : Layout) (f : Field) (v : Value) : (l.set f v).get f = v := by
  cases f <;> rfl

theorem get_set_other (l : Layout) {f g : Field} (h : g ≠ f) (v : Value) :
    (l.set f v).get g = l.get g := by
  cases f <;> cases g <;> first | rfl | exact absurd rfl h

end Layout

/-- A named style: one of the drawing's own, or a map that a script has registered and may still change. -/
inductive Style
  | own (attrs : Attrs) (distinct : attrs.IsMap)
  | shared (map : Ref)

def Style.ofNames (entries : List (String × Value)) (h : (entries.map (·.1)).Nodup) : Style :=
  .own (Attrs.ofNames entries) (Attrs.isMap_ofNames h)

/-- A box label as drawn, with the width of its box. -/
structure PlacedLabel where
  label : Node
  available : Value

structure World where
  store : Store
  layout : Layout
  styles : List (String × Style)
  scene : Array Value
  labels : Array PlacedLabel

/-- A drawing program; what it drew before a failure stays. -/
abbrev DrawM := EStateM Failure World

namespace DrawM

def ofStore {α : Type} (x : StoreM α) : DrawM α := fun
  | ⟨store, layout, styles, scene, labels⟩ =>
    match x store with
    | .ok a store => .ok a ⟨store, layout, styles, scene, labels⟩
    | .error f store => .error (.fault f) ⟨store, layout, styles, scene, labels⟩

instance : MonadLift StoreM DrawM := ⟨ofStore⟩

def ofExcept {α : Type} : Except Fault α → DrawM α
  | .ok a => pure a
  | .error f => throw (.fault f)

instance : MonadLift (Except Fault) DrawM := ⟨ofExcept⟩

def refuse {α : Type} (e : DiagramError) : DrawM α := throw (.diagram e)

def layout : DrawM Layout := return (← get).layout

def setField (f : Field) (v : Value) : DrawM Unit := fun
  | ⟨store, layout, styles, scene, labels⟩ => .ok () ⟨store, layout.set f v, styles, scene, labels⟩

def append (v : Value) : DrawM Unit := fun
  | ⟨store, layout, styles, scene, labels⟩ => .ok () ⟨store, layout, styles, scene.push v, labels⟩

def place (p : PlacedLabel) : DrawM Unit := fun
  | ⟨store, layout, styles, scene, labels⟩ => .ok () ⟨store, layout, styles, scene, labels.push p⟩

end DrawM
end WireSketch
