import WireSketch.Call.Primitive
import WireSketch.Script.Tree

/-! The state of a running script: its drawing, its variables, the steps taken and the statement begun last. -/
namespace WireSketch

/-- Names with their values, in the order in which they were first stored. -/
abbrev Bindings := List (String × Value)

namespace Bindings

def find? (name : String) : Bindings → Option Value
  | [] => none
  | (k, v) :: rest => if k == name then some v else find? name rest

def set (name : String) (v : Value) : Bindings → Bindings
  | [] => [(name, v)]
  | (k, w) :: rest => if k == name then (k, v) :: rest else (k, w) :: set name v rest

end Bindings

structure Session where
  world : World
  bindings : Bindings := []
  steps : Nat := 0
  line : Option Nat := none
  column : Option Nat := none

/-- A program that scripts run; what it changed before a failure stays. -/
abbrev ScriptM := EStateM Failure Session

namespace ScriptM

def ofDraw {α : Type} (x : DrawM α) : ScriptM α := fun
  | ⟨world, bindings, steps, line, column⟩ =>
    match x world with
    | .ok a world => .ok a ⟨world, bindings, steps, line, column⟩
    | .error f world => .error f ⟨world, bindings, steps, line, column⟩

instance : MonadLift DrawM ScriptM := ⟨ofDraw⟩

def failAt {α : Type} (p : Place) (r : ScriptReason) : ScriptM α :=
  throw (.script ⟨r, some p.line, some p.column⟩)

def failInLine {α : Type} (r : ScriptReason) : ScriptM α := do
  throw (.script ⟨r, (← get).line, none⟩)

/-- Counts one step, which has to be within the budget. -/
def tick (budget : Int) : ScriptM Unit := fun
  | ⟨world, bindings, steps, line, column⟩ =>
    let s := Session.mk world bindings (steps + 1) line column
    if (steps + 1 : Nat) > budget then .error (.script ⟨.stepLimit budget, line, none⟩) s
    else .ok () s

/-- Begins a statement: later failures are reported at its place. -/
def beginAt (p : Place) : ScriptM Unit := fun
  | ⟨world, bindings, steps, _, _⟩ => .ok () ⟨world, bindings, steps, some p.line, some p.column⟩

/-- Names with two underscores in front are not used. -/
def checkName (p : Place) (name : String) : ScriptM Unit := do
  if name.startsWith "__" then failAt p (.privateName (Text.quote name))

def function? (name : String) : Option Callable :=
  match Primitive.all.find? (·.name == name) with
  | some f => some (.primitive f)
  | none => (Builtin.all.find? (·.name == name)).map .builtin

/-- The value of a name: a variable, a field of the geometry, or a function. -/
def lookup (p : Place) (name : String) : ScriptM Value := do
  checkName p name
  let s ← get
  match s.bindings.find? name with
  | some v => return v
  | none =>
    match Field.ofName? name with
    | some f => return s.world.layout.get f
    | none =>
      match function? name with
      | some f => return .function f
      | none => failAt p (.undefinedName (Text.quote name))

def setVariable (name : String) (v : Value) : ScriptM Unit := fun
  | ⟨world, bindings, steps, line, column⟩ =>
    .ok () ⟨world, bindings.set name v, steps, line, column⟩

/-- Stores a value under a name: in the geometry or in a variable, never in place of a function. -/
def store (p : Place) (name : String) (v : Value) : ScriptM Unit := do
  checkName p name
  match Field.ofName? name with
  | some f => DrawM.setField f v
  | none =>
    if (function? name).isSome then failAt p (.rebinding (Text.quote name))
    else setVariable name v

end ScriptM
end WireSketch
