import WireSketch.Script.Evaluate
import WireSketch.Script.Statement

/-! Running a script: statements in order, loops over finished lists of items, stores to names and containers. -/
namespace WireSketch

open ScriptM (beginAt failAt failInLine tick)

/-- How a statement ends: with the next one, or by leaving the round or the whole of a loop. -/
inductive Flow
  | next | breakLoop | continueLoop
deriving Repr, DecidableEq

namespace Expr

variable (budget : Int)

mutual

/-- Stores a value to a target: a name, a pattern of targets, or an item of a container. -/
def assign : Expr → Value → ScriptM Unit
  | name p id, v => ScriptM.store p id v
  | tuple p targets, v | list p targets, v => do
    let xs ← (v.items : StoreM (Array Value))
    if xs.size = targets.length then assignAll targets xs.toList
    else failAt p (.unpacking xs.size targets.length)
  | subscript _ container index, v => do
    let c ← container.eval budget
    let i ← index.eval budget
    c.assignItem i v
  | starred p _, _ => failAt p (.forbidden Construct.starred.name)
  | forbidden p c, _ => failAt p (.forbidden c.name)
  | e, _ => failAt e.place .malformed

def assignAll : List Expr → List Value → ScriptM Unit
  | e :: targets, v :: vs => do
    assign e v
    assignAll targets vs
  | _, _ => return

end

/-- Stores one value to each of several targets. -/
def assignEach : List Expr → Value → ScriptM Unit
  | [], _ => return
  | e :: targets, v => do
    e.assign budget v
    assignEach targets v

def current (e : Expr) : ScriptM Value := do
  match e with
  | name .. | subscript .. => e.eval budget
  | starred p _ => failAt p (.forbidden Construct.starred.name)
  | forbidden p c => failAt p (.forbidden c.name)
  | e => failAt e.place .malformed

end Expr

namespace Stmt

variable (budget : Int)

/-- Refuses a loop over too many items when their number is known. -/
def checkLoop (p : Place) (v : Value) : ScriptM Unit := do
  match ← v.sizedLength? with
  | some n => if n > maxSequenceLength then failAt p (.loopLimit n)
  | none => return

/-- The items that a loop walks, taken before its first round. -/
def loopItems (p : Place) (v : Value) : ScriptM (List Value) := do
  checkLoop p v
  let xs ← (v.firstItems (maxSequenceLength + 1) : StoreM (Array Value))
  if xs.size > maxSequenceLength then failAt p .longLoop else return xs.toList

/-- The rounds of a loop; tells whether it ended by itself. -/
def rounds (round : Value → ScriptM Flow) : List Value → ScriptM Bool
  | [] => return true
  | x :: rest => do
    match ← round x with
    | .breakLoop => return false
    | .next | .continueLoop => rounds round rest

mutual

def run : Stmt → ScriptM Flow
  | expr p e => do
    beginAt p
    tick budget
    let _ ← e.eval budget
    return .next
  | assign p targets value => do
    beginAt p
    tick budget
    let v ← value.eval budget
    Expr.assignEach budget targets v
    return .next
  | augmented p target op value => do
    beginAt p
    tick budget
    let a ← target.current budget
    let b ← value.eval budget
    let v ← op.guarded a b
    target.assign budget v
    return .next
  | branch p test yes no => do
    beginAt p
    tick budget
    let v ← test.eval budget
    if ← v.truth then runAll yes else runAll no
  | loop p target items body after => do
    beginAt p
    tick budget
    let v ← items.eval budget
    let xs ← loopItems p v
    let ended ← rounds (fun x => do
      target.assign budget x
      runAll body) xs
    if ended then runAll after else return .next
  | pass p => do
    beginAt p
    tick budget
    return .next
  | breakLoop p => do
    beginAt p
    tick budget
    return .breakLoop
  | continueLoop p => do
    beginAt p
    tick budget
    return .continueLoop
  | forbidden p c => do
    beginAt p
    tick budget
    failAt p (.forbidden c.name)

/-- Runs statements in order until one leaves a loop. -/
def runAll : List Stmt → ScriptM Flow
  | [] => return .next
  | s :: rest => do
    match ← run s with
    | .next => runAll rest
    | flow => return flow

end

end Stmt

namespace Session

/-- A session before its first step. -/
def start (layout : Layout) : Session := { world := .initial layout }

end Session

namespace ScriptM

/-- Faults are reported at the statement begun last; some kinds are not caught. -/
def reported {α : Type} (x : ScriptM α) : ScriptM α := fun s =>
  match x s with
  | .error (.fault f) s =>
    if f.faultClass.isReported then .error (.script ⟨.fault f, s.line, s.column⟩) s
    else .error (.fault f) s
  | r => r

/-- Runs a whole script; leaving a loop outside of every loop is an error. -/
def runScript (budget : Int) (script : List Stmt) : ScriptM Unit := reported do
  match ← Stmt.runAll budget script with
  | .next => return
  | _ => failInLine .strayJump

def runSource (budget : Int) (source : String) : ScriptM Unit := do
  if source.toList.contains '\x00' then throw (.fault .nullInSource)
  else match Stmt.ofSource? source with
    | none => throw (.script ⟨.malformed, none, none⟩)
    | some script => runScript budget script

end ScriptM

/-- The number of steps that a script may take if nothing else is said. -/
def defaultBudget : Int := 100000

def buildDiagram (budget : Int) (source : String) : Except Failure World :=
  match ScriptM.runSource budget source (.start {}) with
  | .ok _ s => .ok s.world
  | .error f _ => .error f

def generate (budget : Int) (source : String) : Except Failure String := do
  let w ← buildDiagram budget source
  match emit w with
  | .ok text _ => return text
  | .error f _ => throw f

end WireSketch
