import WireSketch.Number.Reading
import WireSketch.Number.Written
import WireSketch.Text.Quoted
import WireSketch.Value.Compare

/-! The text of a value, as it is read back where that is possible. -/
namespace WireSketch.Value

/-- The decimal text of an integer, which has a greatest length. -/
def intText (n : Int) : Except Fault String :=
  if n.natAbs.log2 ≥ 14000 ∧ n.natAbs ≥ Nat.pow 10 Reading.maxDigits then .error (.tooManyDigits .none)
  else .ok (toString n)

/-- A complex number: the real part is left out when it is plain zero. -/
def complexText (re im : Float) : String :=
  let style : NumberStyle := { rule := .shortest }
  if re == 0 && !Binary64.isNegative re then style.write im ++ "j"
  else
    let imaginary := style.write im
    let sign := if imaginary.startsWith "-" then "" else "+"
    "(" ++ style.write re ++ sign ++ imaginary ++ "j)"

def functionText : Callable → String
  | .builtin b =>
    if b.isType then s!"<class '{b.name}'>"
    else if b.ownName == b.name then s!"<built-in function {b.name}>"
    else s!"<function {b.ownName}>"
  | .primitive p =>
    if p.ofDiagram then s!"<bound method Diagram.{p.name}>" else s!"<function {p.ownName}>"

/-- The open brace and the close brace around a text. -/
def braced (s : String) : String := "\x7b" ++ s ++ "\x7d"

def shownAll (show1 : Value → StoreM String) (xs : List Value) : StoreM (List String) :=
  xs.mapM show1

def shownEntries (show1 : Value → StoreM String) (entries : List (Value × Value)) : StoreM String := do
  let parts ← entries.mapM fun (k, v) => do
    let k ← show1 k
    let v ← show1 v
    return k ++ ": " ++ v
  return braced (", ".intercalate parts)

/-- A tuple of one item keeps a comma. -/
def shownTuple (show1 : Value → StoreM String) (xs : List Value) : StoreM String := do
  match ← shownAll show1 xs with
  | [x] => return "(" ++ x ++ ",)"
  | texts => return "(" ++ ", ".intercalate texts ++ ")"

def shownContent (show1 : Value → StoreM String) (content : List Item) : StoreM String := do
  let parts ← content.mapM fun
    | .text s => return Text.quote s
    | .node n => show1 (.node n)
    | .other v => show1 v
  return "[" ++ ", ".intercalate parts ++ "]"

/-- The text of a value inside the containers `around`; one of those is shortened to dots. -/
def shownIn : Nat → List Ref → Value → StoreM String
  | 0, _, _ => throw (.nesting "while getting the repr of an object")
  | fuel + 1, around, v => do
    let inner := shownIn fuel around
    match v with
    | none => return "None"
    | bool b => return if b then "True" else "False"
    | int n => intText n
    | float x => return NumberStyle.default.write x
    | complex re im => return complexText re im
    | str s => return Text.quote s
    | bytes b => return Text.quoteBytes b
    | ellipsis => return "Ellipsis"
    | tuple xs => shownTuple inner xs.toList
    | frozenset xs =>
      if xs.isEmpty then return "frozenset()"
      return "frozenset(" ++ braced (", ".intercalate (← shownAll inner xs.toList)) ++ ")"
    | range r =>
      let step := if r.step = 1 then "" else s!", {r.step}"
      return s!"range({r.start}, {r.stop}{step})"
    | slice a b c =>
      let a ← inner a
      let b ← inner b
      let c ← inner c
      return s!"slice({a}, {b}, {c})"
    | list r =>
      if around.contains r then return "[...]"
      let texts ← shownAll (shownIn fuel (r :: around)) (← StoreM.getList r).toList
      return "[" ++ ", ".intercalate texts ++ "]"
    | dict r =>
      if around.contains r then return braced "..."
      shownEntries (shownIn fuel (r :: around)) (← StoreM.getDict r).entries.toList
    | set r =>
      let xs := (← StoreM.getSet r).entries
      if xs.isEmpty then return "set()"
      return braced (", ".intercalate (← shownAll inner xs.toList))
    | iterator k _ => return s!"<{k.typeName} object>"
    | function f => return functionText f
    | node n =>
      let tag ← inner n.tag
      let attrs ← shownEntries inner n.attrs
      let content ← shownContent inner n.content
      return s!"Node(tag={tag}, attrs={attrs}, content={content})"
    | emptySpec => return "Empty()"
    | directSpec a => return "Direct(attrs=" ++ (← inner a) ++ ")"
    | namedSpec k => return "Named(key=" ++ (← inner k) ++ ")"
    | compositeSpec xs => return "Composite(specs=" ++ (← shownTuple inner xs.toList) ++ ")"

/-- The text of a value, with quotes around texts. -/
def shown (v : Value) : StoreM String := shownIn nestingLimit [] v

/-- The text of a value as it is written into a label: a text stands for itself. -/
def plain : Value → StoreM String
  | str s => return s
  | v => v.shown

end WireSketch.Value
