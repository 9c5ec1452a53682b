import WireSketch.Diagram.World

/-! Attribute specifications: maps, names of styles and lists of further specifications, merged left to right. -/
namespace WireSketch

inductive Spec
  | empty
  /-- Attributes given by the drawing itself. -/
  | own (attrs : Attrs) (distinct : attrs.IsMap)
  /-- A map of the script. -/
  | direct (map : Value)
  | named (key : Value)
  | composite (parts : List Spec)
  /-- A part that fails when its turn to be resolved comes. -/
  | refused (e : Failure)

namespace Spec

def ofNames (entries : List (String × Value)) (h : (entries.map (·.1)).Nodup) : Spec :=
  own (Attrs.ofNames entries) (Attrs.isMap_ofNames h)

/-- A failure to convert a part is kept as a part. -/
def orRefused (x : DrawM Spec) : DrawM Spec := tryCatch x fun e => return refused e

/--
The specification that a value stands for. Parts of lists are converted first to last; those of a
composite are looked at when they are resolved.
-/
def ofValueIn : Nat → Value → DrawM Spec
  | 0, _ => throw (.fault (.nesting "in comparison"))
  | fuel + 1, v => do
    match v with
    | .none | .emptySpec => return empty
    | .dict _ => return direct v
    | .directSpec m => return direct m
    | .str _ => return named v
    | .namedSpec k => return named k
    | .compositeSpec parts => return composite (← parts.toList.mapM fun p => orRefused (ofValueIn fuel p))
    | .tuple xs => return composite (← xs.toList.mapM (ofValueIn fuel))
    | .list r => return composite (← (← StoreM.getList r).toList.mapM (ofValueIn fuel))
    | v => DrawM.refuse (.badSpec (← v.shown))

def ofValue (v : Value) : DrawM Spec := ofValueIn nestingLimit v

/-- The value of a specification that a value is written for; one that is a specification stays. -/
def taggedIn : Nat → Value → DrawM Value
  | 0, _ => throw (.fault (.nesting "in comparison"))
  | fuel + 1, v => do
    match v with
    | .emptySpec | .directSpec _ | .namedSpec _ | .compositeSpec _ => return v
    | .none => return .emptySpec
    | .dict _ => return .directSpec v
    | .str _ => return .namedSpec v
    | .tuple xs => return .compositeSpec (← xs.mapM (taggedIn fuel))
    | .list r => return .compositeSpec (← (← StoreM.getList r).mapM (taggedIn fuel))
    | v => DrawM.refuse (.badSpec (← v.shown))

def tagged (v : Value) : DrawM Value := taggedIn nestingLimit v

end Spec

/-- The entries of a map, or of an iterable of pairs. -/
def entriesOf (v : Value) : StoreM Attrs := do
  match v with
  | .dict r => return (← StoreM.getDict r).entries.toList
  | v => return (← Value.addEntries Table.empty v).entries.toList

namespace Style

def attrs : Style → StoreM Attrs
  | own a _ => return a
  | shared r => entriesOf (.dict r)

end Style

/-- The borders that a box has on all four sides. -/
def sides (names : List String) : Value := .frozenset (names.map Value.str).toArray

def allSides : Value := sides ["left", "right", "top", "bottom"]

def serifFamily : Value := .str "Palatino, Georgia, Times New Roman, serif"

def monoFamily : Value := .str "Courier New, monospace"

def defaultStyles : List (String × Style) :=
  [("hex", .ofNames [("font-size", .int 18), ("font-family", monoFamily)] (by decide)),
    ("plain", .ofNames [("font-size", .int 18), ("font-family", serifFamily)] (by decide)),
    ("math", .ofNames [("font-size", .int 18), ("font-family", serifFamily), ("font-style", .str "italic")]
      (by decide)),
    ("sub", .ofNames [("font-size", .str "70%"), ("baseline-shift", .str "sub")] (by decide)),
    ("bold", .ofNames [("font-weight", .str "bold")] (by decide)),
    ("dotted", .ofNames [("stroke-dasharray", .str "1,1")] (by decide)),
    ("box-first", .ofNames [("borders", sides ["left", "top", "bottom"])] (by decide)),
    ("box-related", .ofNames [("borders", sides ["top", "bottom"])] (by decide)),
    ("box-last", .ofNames [("borders", sides ["right", "top", "bottom"])] (by decide)),
    ("box-above", .ofNames [("borders", sides ["left", "right", "top"])] (by decide)),
    ("box-below", .ofNames [("borders", sides ["left", "right", "bottom"])] (by decide))]

namespace Styles

def find? (name : String) (styles : List (String × Style)) : Option Style :=
  (styles.find? (·.1 == name)).map (·.2)

/-- A style that is registered again keeps its place. -/
def set (name : String) (s : Style) : List (String × Style) → List (String × Style)
  | [] => [(name, s)]
  | (k, t) :: rest => if k == name then (k, s) :: rest else (k, t) :: set name s rest

end Styles

/-- Letters, digits, underscores and hyphens, no digit or hyphen first; one line end may follow. -/
def isStyleName (s : String) : Bool :=
  let first (c : Char) := c.isAlpha || c == '_'
  let further (c : Char) := c.isAlphanum || c == '_' || c == '-'
  match s.toList with
  | [] => false
  | c :: rest =>
    let rest := if rest.getLast? == some '\n' then rest.dropLast else rest
    first c && rest.all further

/-- A drawing without geometry of its own. -/
def World.initial (layout : Layout) : World := ⟨.empty, layout, defaultStyles, #[], #[]⟩

/-- The symbolic name that a value is. -/
def styleName (key : Value) : DrawM String := do
  match key with
  | .str s => if isStyleName s then return s else DrawM.refuse (.badStyleName (← key.shown))
  | key => DrawM.refuse (.badStyleName (← key.shown))

def registerAttrs (key map : Value) : DrawM Unit := do
  let name ← styleName key
  match map with
  | .dict r => modify fun w => { w with styles := Styles.set name (.shared r) w.styles }
  | map => DrawM.refuse (.badStyleMap (← map.shown))

def lookupStyle (key : Value) : DrawM Style := do
  let _ ← (key.key : Except Fault Key)
  let found := match key with
    | .str s => fun (w : World) => Styles.find? s w.styles
    | _ => fun _ => none
  match found (← get) with
  | some s => return s
  | none => DrawM.refuse (.unknownStyle (← key.plain))

mutual

def resolve : Spec → DrawM Attrs
  | .empty => return []
  | .own a _ => return a
  | .direct m => entriesOf m
  | .named k => do (← lookupStyle k).attrs
  | .composite parts => resolveAll parts []
  | .refused e => throw e

/-- The attributes of specifications in a row; later ones win. -/
def resolveAll : List Spec → Attrs → DrawM Attrs
  | [], merged => return merged
  | s :: rest, merged => do
    let a ← resolve s
    resolveAll rest (merged.merge a)

end

def resolveValue (v : Value) : DrawM Attrs := do resolve (← Spec.ofValue v)

end WireSketch
