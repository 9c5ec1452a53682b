import WireSketch.Script.Guard

/-! Evaluation of expressions: one step for each node, operands from left to right. -/
namespace WireSketch

open ScriptM (failAt tick checkLength)

namespace Value

def callable? : Value → Option Callable
  | function f => some f
  | _ => Option.none

def converted (v : Value) : Option Conversion → StoreM Value
  | Option.none => return v
  | some .shown => return str (← v.shown)
  | some .plain => return str (← v.plain)
  | some .ascii => return str (Text.escapeWide (← v.shown))

/-- A value in a field of a text, whose width and precision are limited. -/
def formattedAt (p : Place) (v : Value) (spec : String) : ScriptM Value := do
  match FormatSpec.checkLimits spec with
  | .ok () => return str (← (v.format spec : StoreM String))
  | .error (.fault f) => throw (.fault f)
  | .error r => failAt p r

/-- Refuses a starred part that would make a display too long. -/
def checkAppended (done : Array Value) (v : Value) : ScriptM Unit := do
  match ← v.sizedLength? with
  | some n => checkLength (done.size + n)
  | Option.none => return

def appendItems (done : Array Value) (v : Value) : ScriptM (Array Value) := do
  checkAppended done v
  return done ++ (← (v.items : StoreM (Array Value)))

end Value

/-- Arguments by name, by the values that stand for their names. -/
abbrev NamedValues := List (Value × Value)

namespace NamedValues

/-- An argument that is given again keeps its place. -/
def set (a : NamedValues) (key v : Value) : NamedValues := Attrs.set key v a

/-- The entries of a map as further arguments. -/
def spread (a : NamedValues) (map : Value) : StoreM NamedValues := do
  let d ← (Dict.ofPairs a : Except Fault Dict)
  return (← Value.addEntries d map).entries.toList

def names (a : NamedValues) : Except Fault (List (String × Value)) :=
  a.mapM fun
    | (.str name, v) => .ok (name, v)
    | _ => .error (.call .keywordsMustBeText)

end NamedValues

namespace Expr

variable (budget : Int)

mutual

def eval (e : Expr) : ScriptM Value := do
  tick budget
  match e with
  | const _ v => return v
  | name p id => ScriptM.lookup p id
  | list _ items => do
    let xs ← evalItems items #[]
    StoreM.newList xs
  | tuple _ items => return .tuple (← evalItems items #[])
  | set _ items => do
    let xs ← evalItems items #[]
    StoreM.newSet (← (ItemSet.ofItems xs : Except Fault ItemSet))
  | dict _ entries => do
    let d ← evalEntries entries Table.empty
    StoreM.newDict d
  | binary _ op left right => do
    let a ← eval left
    let b ← eval right
    op.guarded a b
  | unary _ op operand => do
    let v ← eval operand
    v.unary op
  | conj _ operands => evalConj operands .none
  | disj _ operands => evalDisj operands .none
  | compare _ first links => do
    let v ← eval first
    evalLinks links v
  | conditional _ test yes no => do
    let v ← eval test
    if ← v.truth then eval yes else eval no
  | subscript _ container index => do
    let c ← eval container
    let i ← eval index
    c.subscript i Value.shown
  | slice _ start stop step => do
    let a ← evalOption start
    let b ← evalOption stop
    let c ← evalOption step
    return .slice a b c
  | call p function args keywords => do
    let f ← eval function
    match f.callable? with
    | none => failAt p (.notCallable (← (f.shown : StoreM String)))
    | some f => do
      let xs ← evalItems args #[]
      let named ← evalKeywords keywords []
      let named ← (NamedValues.names named : Except Fault _)
      f.call ⟨xs.toList, named⟩
  | joined _ parts => return .str (← evalParts parts "" 0)
  | formatted p value conversion spec => do
    let v ← eval value
    let v ← (v.converted conversion : StoreM Value)
    match ← evalOption spec with
    | .str s => v.formattedAt p s
    | _ => v.formattedAt p ""
  | starred p _ => failAt p (.forbidden Construct.starred.name)
  | forbidden p c => failAt p (.forbidden c.name)

def evalOption : Option Expr → ScriptM Value
  | none => return .none
  | some e => eval e

/-- The items of a display or the arguments of a call, those of starred parts in their place. -/
def evalItems : List Expr → Array Value → ScriptM (Array Value)
  | [], done => return done
  | starred _ e :: rest, done => do
    let v ← eval e
    let done ← Value.appendItems done v
    evalItems rest done
  | e :: rest, done => do
    let v ← eval e
    evalItems rest (done.push v)

/-- The entries of a map display; a value is evaluated before its key. -/
def evalEntries : List Entry → Dict → ScriptM Dict
  | [], d => return d
  | .pair key value :: rest, d => do
    let v ← eval value
    let k ← eval key
    let d ← (Dict.set d k v : Except Fault Dict)
    evalEntries rest d
  | .spread map :: rest, d => do
    let m ← eval map
    let d ← (Value.addEntries d m : StoreM Dict)
    evalEntries rest d

/-- The first operand that is false, else the last one. -/
def evalConj : List Expr → Value → ScriptM Value
  | [], last => return last
  | e :: rest, _ => do
    let v ← eval e
    if ← v.truth then evalConj rest v else return v

/-- The first operand that is true, else the last one. -/
def evalDisj : List Expr → Value → ScriptM Value
  | [], last => return last
  | e :: rest, _ => do
    let v ← eval e
    if ← v.truth then return v else evalDisj rest v

/-- A chain holds if each link holds; the first one that does not ends it. -/
def evalLinks : List Link → Value → ScriptM Value
  | [], _ => return .bool true
  | .mk op right :: rest, left => do
    let v ← eval right
    if ← left.compareBy op v then evalLinks rest v else return .bool false

def evalKeywords : List Keyword → NamedValues → ScriptM NamedValues
  | [], named => return named
  | .named id e :: rest, named => do
    let v ← eval e
    evalKeywords rest (NamedValues.set named (.str id) v)
  | .spread e :: rest, named => do
    let m ← eval e
    let named ← (NamedValues.spread named m : StoreM NamedValues)
    evalKeywords rest named

/-- The parts of a text in a row, limited in length. -/
def evalParts : List Expr → String → Nat → ScriptM String
  | [], done, _ => return done
  | e :: rest, done, length => do
    let v ← eval e
    let s ← (v.plain : StoreM String)
    let length := length + s.length
    checkLength length
    evalParts rest (done ++ s) length

end

end Expr
end WireSketch
