import WireSketch.Call.Signature
import WireSketch.Call.Sorting
import WireSketch.Diagram.World
import WireSketch.Format.Spec
import WireSketch.Text.Encoding

/-! The functions of the language itself: conversions, iterators, extremes and sorting. -/
namespace WireSketch.Builtin

/-- Calls a function with one argument. -/
abbrev Apply := Callable → Value → DrawM Value

def refused {α : Type} (c : CallFault) : Except Fault α := .error (.call c)

def positionalOnly (f : String) (a : Arguments) : Except Fault (List Value) :=
  if a.named.isEmpty then .ok a.positional else refused (.noKeywords f)

def oneArgument (f : String) (a : Arguments) : Except Fault Value := do
  match ← positionalOnly f a with
  | [x] => return x
  | xs => refused (.exactlyOne f xs.length)

def possiblyOne (f : String) (positional : List Value) : Except Fault (Option Value) :=
  match positional with
  | [] => .ok none
  | [x] => .ok (some x)
  | xs => refused (.expectedAtMost f 1 xs.length)

/--
Arguments by position or by name; the first `required` have to be given. An empty name is by position
only.
-/
def arguments (f : String) (names : List String) (required : Nat) (a : Arguments) :
    Except Fault (List (Option Value)) := do
  let given := a.positional.length + a.named.length
  if given > names.length then
    refused (.takesAtMost f names.length given a.positional.isEmpty)
  let byName (name : String) : Option Value := if name.isEmpty then none else a.named.lookup name
  let slots := names.mapIdx fun i name => a.positional[i]? <|> byName name
  for (slot, name, i) in (slots.zip (names.zipIdx)).take required do
    if slot.isNone then refused (.missingArgument f name (some (i + 1)))
  for (name, i) in (names.zipIdx).take a.positional.length do
    if (byName name).isSome then refused (.nameAndPosition f name (i + 1))
  for (name, _) in a.named do
    unless (names.filter (· ≠ "")).contains name do refused (.invalidKeyword f name)
  return slots

def options (f : String) (names : List String) (named : List (String × Value)) :
    Except Fault (List (Option Value)) :=
  arguments f names 0 ⟨[], named⟩

/-- The first of all items such that no later one comes before it; none if there are no items. -/
def best (before : Value → Value → StoreM Bool) (key : Value → DrawM Value) :
    List Value → Option (Value × Value) → DrawM (Option Value)
  | [], found => return found.map (·.1)
  | x :: rest, found => do
    let k ← key x
    match found with
    | none => best before key rest (some (x, k))
    | some (y, l) =>
      if ← before k l then best before key rest (some (x, k)) else best before key rest (some (y, l))

def keyFunction (apply : Apply) : Option Value → Value → DrawM Value
  | none, x | some .none, x => return x
  | some (.function f), x => apply f x
  | some v, _ => throw (.fault (.call (.notCallable v.typeName)))

def firstArgument (f : String) (a : Arguments) : Except Fault Value :=
  match a.positional with
  | [] => refused (.expectedAtLeast f 1 0)
  | x :: _ => .ok x

/-- Several arguments are the items themselves; a single one is walked. -/
def severalItems (a : Arguments) (single : Value) : StoreM (List Value) := do
  if a.positional.length > 1 then return a.positional else return (← single.items).toList

/-- Several arguments have no default. -/
def checkDefault (f : String) (a : Arguments) (default : Option Value) : Except Fault Unit :=
  if a.positional.length > 1 && default.isSome then refused (.noDefault f) else .ok ()

/-- The least or greatest item, of one iterable or of the arguments themselves. -/
def extreme (apply : Apply) (f : String) (op : CompareOp) (a : Arguments) : DrawM Value := do
  let single ← (firstArgument f a : Except Fault Value)
  let given ← (options f ["key", "default"] a.named : Except Fault (List (Option Value)))
  let default := given[1]?.join
  let _ ← (checkDefault f a default : Except Fault Unit)
  let items ← severalItems a single
  let found ← best (Value.ordered op nestingLimit) (keyFunction apply given[0]?.join) items none
  match found, default with
  | some x, _ | none, some x => return x
  | none, none => throw (.fault (.emptyArgument f))

def soleArgument (f : String) (a : Arguments) : Except Fault Value :=
  match a.positional with
  | [x] => .ok x
  | xs => refused (.expected f 1 xs.length)

def isReversed (v : Value) : Except Fault Bool := do
  let n ← v.toIndex
  if !(-Int.pow 2 31 ≤ n && n < Int.pow 2 31) then throw (.wordTooLarge "C int")
  return n ≠ 0

/-- A new list of the items in ascending or descending order of their keys. -/
def sortedList (apply : Apply) (a : Arguments) : DrawM Value := do
  let seq ← (soleArgument "sorted" a : Except Fault Value)
  let items ← seq.items
  let given ← (options "sort" ["key", "reverse"] a.named : Except Fault (List (Option Value)))
  let down ← (isReversed (given[1]?.join.getD (.int 0)) : Except Fault Bool)
  let keyed ← items.mapM fun x => return (x, ← keyFunction apply (given[0]?.join) x)
  let less (x y : Value × Value) : StoreM Bool := Value.lessThan x.2 y.2
  let ordered ← (if down then Sorting.sortDown less keyed else Sorting.sort less keyed : StoreM _)
  StoreM.newList (ordered.map (·.1))

def magnitude (v : Value) : Except Fault Value :=
  match v.num? with
  | some (.int n) => .ok (.int n.natAbs)
  | some (.float x) => .ok (.float x.abs)
  | some (.complex re im) =>
    let r := Binary64.hypot re im
    if Binary64.isFinite re && Binary64.isFinite im && !Binary64.isFinite r then
      .error .magnitudeTooLarge
    else .ok (.float r)
  | none => .error (.badAbs v.typeName)

/-- The name of an encoding without marks and case. -/
def encodingName (name : String) : String :=
  String.ofList ((name.toList.filter fun c => c != '-' && c != '_' && c != ' ').map Char.toLower)

/-- What is read for bytes at fault. Handlers but these three are refused as unknown. -/
def errorHandler (handler : String) (e : Text.DecodeError) : Except Fault (List Char) :=
  match handler with
  | "strict" => .error (.undecodable e.codec e.message)
  | "ignore" => .ok []
  | "replace" => .ok ['\ufffd']
  | h => .error (.unknownHandler h)

/-- The text of a byte string in an encoding. Encodings but these three are refused as unknown. -/
def decoded (bytes : List UInt8) (encoding handler : String) : Except Fault Value := do
  let (codec, step) ← match encodingName encoding with
    | "utf8" | "u8" | "utf" => pure ("utf-8", Text.utf8Step)
    | "ascii" | "usascii" | "646" => pure ("ascii", Text.asciiStep)
    | "latin1" | "iso88591" | "latin" | "l1" | "88591" => pure ("latin-1", Text.latinStep)
    | _ => .error (.unknownEncoding encoding)
  -- The first fault decides unless its handler goes on.
  match Text.decodeBy codec step .error bytes.length 0 bytes #[] with
  | .ok cs => return .str (String.ofList cs.toList)
  | .error e =>
    let _ ← errorHandler handler e
    let keep (e : Text.DecodeError) : Except Text.DecodeError (List Char) :=
      (errorHandler handler e).mapError fun _ => e
    match Text.decodeBy codec step keep bytes.length 0 bytes #[] with
    | .ok cs => return .str (String.ofList cs.toList)
    | .error e => .error (.undecodable e.codec e.message)

/-- The argument of a conversion to text that has to be a text itself. -/
def encodingArgument (name : String) : Option Value → Except Fault (Option String)
  | none => .ok none
  | some (.str s) => .ok (some s)
  | some v => .error (.encodingArgument name v.typeName)

def text (a : Arguments) : StoreM Value := do
  let given ← (arguments "str" ["object", "encoding", "errors"] 0 a : Except Fault _)
  let encoding ← (encodingArgument "encoding" given[1]?.join : Except Fault _)
  let handler ← (encodingArgument "errors" given[2]?.join : Except Fault _)
  match given[0]?.join with
  | none => return .str ""
  | some v =>
    if encoding.isNone && handler.isNone then return .str (← v.plain)
    match v with
    | .bytes b => (decoded b (encoding.getD "utf-8") (handler.getD "strict") : Except Fault Value)
    | .str _ => throw .decodingText
    | v => throw (.decodingOther v.typeName)

def integer (a : Arguments) : Except Fault Value := do
  match ← arguments "int" ["", "base"] 0 a with
  | [none, none] => return .int 0
  | [none, some _] => throw .missingText
  | [some x, none] => x.toInt
  | [some x, some b] => x.toIntBase b
  | _ => return .int 0

def rangeOf : List Value → Except Fault IntRange
  | [] => refused (.expectedAtLeast "range" 1 0)
  | [stop] => return ⟨0, ← stop.toIndex, 1⟩
  | [start, stop] => return ⟨← start.toIndex, ← stop.toIndex, 1⟩
  | [start, stop, step] => do
    let r := IntRange.mk (← start.toIndex) (← stop.toIndex) (← step.toIndex)
    if r.step = 0 then throw .rangeStepZero
    return r
  | xs => refused (.expectedAtMost "range" 3 xs.length)

def limitedRange (a : Arguments) : DrawM Value := do
  let s : Signature := { name := Builtin.range.ownName, rest := true }
  let b ← (s.bind a : Except Fault Bound)
  let r ← (rangeOf b.rest : Except Fault IntRange)
  if r.length ≥ Nat.pow 2 63 then throw (.fault (.wordTooLarge "C ssize_t"))
  else if r.length > maxSequenceLength then throw (.script ⟨.rangeLimit r.length, none, none⟩)
  else return .range r

def formatted (a : Arguments) : DrawM Value := do
  let s : Signature := {
    name := Builtin.format.ownName
    parameters := [.required "value", .withDefault "format_spec" (.str "")] }
  match (← (s.bind a : Except Fault Bound)).values with
  | [v, .str spec] =>
    match FormatSpec.checkLimits spec with
    | .ok () => return .str (← v.format spec)
    | .error (.fault f) => throw (.fault f)
    | .error r => throw (.script ⟨r, none, none⟩)
  | [_, spec] => throw (.fault (.formatArgument spec.typeName))
  | _ => return .none

/-- Pairs of a counter and the items of an iterable. -/
def enumeration (a : Arguments) : StoreM Value := do
  let invalid (name : String) : StoreM (Value × Value) :=
    throw (.call (.invalidKeyword "enumerate" name))
  let (items, start) ← match a.positional, a.named with
    | [x], [] => pure (x, Value.int 0)
    | [], [(name, x)] => if name == "iterable" then pure (x, Value.int 0) else invalid name
    | [x, n], [] => pure (x, n)
    | [x], [(name, n)] => if name == "start" then pure (x, n) else invalid name
    | [], [(name, x), (other, y)] =>
      if name == "start" then if other == "iterable" then pure (y, x) else invalid other
      else if name != "iterable" then invalid name
      else if other == "start" then pure (x, y)
      else invalid other
    | [], _ => throw (.call (.missingArgument "enumerate" "iterable" none))
    | _, named =>
      let given := a.positional.length + named.length
      throw (.call (.takesAtMost "enumerate" 2 given false))
  let n ← (start.toIndex : Except Fault Int)
  StoreM.newIterator .enumerate (.enumerate (← items.source) n)

def zipped (a : Arguments) : StoreM Value := do
  let given ← (options "zip" ["strict"] a.named : Except Fault _)
  let strict ← match given[0]?.join with
    | none => pure false
    | some v => v.truth
  let sources ← a.positional.mapM Value.source
  StoreM.newIterator .zip (.zip strict sources)

/-- An iterator from the last item to the first. -/
def backward (v : Value) : StoreM Value := do
  match v with
  | .list r => StoreM.newIterator .listBackward (.plain (.listBackward r (← StoreM.getList r).size))
  | .dict r =>
    let n := (← StoreM.getDict r).size
    StoreM.newIterator .dictBackward (.plain (.dictBackward r n n))
  | .range r =>
    let b := r.reverse
    let short := Value.fitsWord r.start && Value.fitsWord r.stop && Value.fitsWord r.step
    StoreM.newIterator (if short then .range else .longRange)
      (.plain (.range b.start b.step r.length))
  | .str _ | .bytes _ | .tuple _ =>
    StoreM.newIterator .backward (.plain (.items (← v.items).reverse 0))
  | v => throw (.notReversible v.typeName)

def length (v : Value) : StoreM Value := do
  match ← v.length? with
  | none => throw (.noLength v.typeName)
  | some n => if n < Nat.pow 2 63 then return .int n else throw (.wordTooLarge "C ssize_t")

/-- A new map of the entries of an argument and of the arguments by name. -/
def mapping (a : Arguments) : StoreM Value := do
  let d ← match ← (possiblyOne "dict" a.positional : Except Fault _) with
    | none => pure Table.empty
    | some v => Value.addEntries Table.empty v
  let d ← (a.named.foldlM (fun d (k, v) => Dict.set d (.str k) v) d : Except Fault Dict)
  StoreM.newDict d

def itemsOf (f : String) (a : Arguments) : StoreM (Array Value) := do
  match ← (positionalOnly f a >>= possiblyOne f : Except Fault _) with
  | none => return #[]
  | some v => v.items

/-- Calls a function; `apply` is how key functions are called. -/
def call (apply : Apply) (f : Builtin) (a : Arguments) : DrawM Value := do
  match f with
  | abs => (do magnitude (← oneArgument "abs" a) : Except Fault Value)
  | bool =>
    match ← (positionalOnly "bool" a >>= possiblyOne "bool" : Except Fault _) with
    | none => return .bool false
    | some v => return .bool (← v.truth)
  | dict => mapping a
  | enumerate => enumeration a
  | float =>
    match ← (positionalOnly "float" a >>= possiblyOne "float" : Except Fault _) with
    | none => return .float 0
    | some v => return .float (← (v.toFloat : Except Fault Float))
  | format => formatted a
  | hex => (do
      let n ← (← oneArgument "hex" a).toIndex
      let digits := "0x" ++ String.ofList (Nat.toDigits 16 n.natAbs)
      return .str (if n < 0 then "-" ++ digits else digits) : Except Fault Value)
  | int => integer a
  | len => length (← (oneArgument "len" a : Except Fault Value))
  | list => StoreM.newList (← itemsOf "list" a)
  | max => extreme apply "max" .gt a
  | min => extreme apply "min" .lt a
  | range => limitedRange a
  | reversed =>
    match ← (positionalOnly "reversed" a : Except Fault _) with
    | [v] => backward v
    | vs => throw (.fault (.call (.expected "reversed" 1 vs.length)))
  | round =>
    match ← (arguments "round" ["number", "ndigits"] 1 a : Except Fault _) with
    | [some v, places] => (v.rounded (places.getD .none) : Except Fault Value)
    | _ => return .none
  | set => StoreM.newSet (← (ItemSet.ofItems (← itemsOf "set" a) : Except Fault ItemSet))
  | sorted => sortedList apply a
  | str => text a
  | tuple => return .tuple (← itemsOf "tuple" a)
  | zip => zipped a

end WireSketch.Builtin
