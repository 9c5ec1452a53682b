import WireSketch.Diagram.Element

/-!
Programs that measure texts, with a state of the measurer beside the store, what they read from attributes, and the
box labels that are wider than their boxes.
-/
namespace WireSketch

/-- A program over the store with a further state, which a measurer keeps. -/
abbrev FitM (σ : Type) := EStateM Fault (Store × σ)

/-- The width of a text of the given size in a list of families. -/
abbrev Measurer (σ : Type) := String → Value → Value → FitM σ Float

namespace FitM

def ofStore {σ α : Type} (x : StoreM α) : FitM σ α := fun (s, t) =>
  match x s with
  | .ok a s => .ok a (s, t)
  | .error f s => .error f (s, t)

instance {σ : Type} : MonadLift StoreM (FitM σ) := ⟨ofStore⟩

def getOwn {σ : Type} : FitM σ σ := return (← get).2

def modifyOwn {σ : Type} (f : σ → σ) : FitM σ Unit := modify fun (s, t) => (s, f t)

end FitM

/-- The decimal number at the start of a text: digits, and a point with digits after it. -/
def leadingNumber (s : List Char) : List Char :=
  let (sign, r) := match s with
    | '-' :: r => (['-'], r)
    | r => ([], r)
  let whole := r.takeWhile Text.isDecimalDigit
  let fraction := match r.dropWhile Text.isDecimalDigit with
    | '.' :: r =>
      let ds := r.takeWhile Text.isDecimalDigit
      if ds.isEmpty then [] else '.' :: ds
    | _ => []
  if whole.isEmpty then [] else sign ++ whole ++ fraction

/-- The length that a value gives, else the default. -/
def lengthOf (v default : Value) : StoreM Value := do
  match v with
  | .none => return default
  | .int _ | .bool _ | .float _ => return .float (← (v.toFloat : Except Fault Float))
  | v =>
    match Reading.float? (leadingNumber (← v.plain).toList) with
    | some x => return .float x
    | none => return default

/-- The text without the quotes around it; both have to be of one kind. -/
def withoutQuotes (s : String) : String :=
  let cs := s.toList
  match cs.head?, cs.getLast? with
  | some '"', some '"' | some '\'', some '\'' => String.ofList (cs.drop 1).dropLast
  | _, _ => s

structure LabelFit where
  text : String
  width : Float
  available : Value

namespace LabelFit

def overflow (f : LabelFit) : StoreM Value := (Value.float f.width).sub f.available

def isTooWide (f : LabelFit) : StoreM Bool := do (← f.overflow).compareBy .gt (.int 0)

end LabelFit

/-- The size of a text without a size of its own. -/
def defaultFontSize : Float := 16

def measureLabel {σ : Type} (measure : Measurer σ) (p : PlacedLabel) : FitM σ LabelFit := do
  let text ← (p.label.textContent : Except Fault String)
  let given (name : String) : Value := (Attrs.find? name p.label.attrs).getD .none
  let size ← lengthOf (given "font-size") (.float defaultFontSize)
  let width ← measure text size (given "font-family")
  return ⟨text, width, p.available⟩

/-- The labels that are wider than their boxes; all are measured before the first is compared. -/
def checkLabelFit {σ : Type} (measure : Measurer σ) (labels : List PlacedLabel) :
    FitM σ (List LabelFit) := do
  let fits ← labels.mapM (measureLabel measure)
  fits.filterM fun f => f.isTooWide

end WireSketch
