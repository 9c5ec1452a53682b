/-! Values of diagram scripts: plain data, references to mutable containers, scene nodes and functions. -/
namespace WireSketch

/-- A place in the store of mutable containers. -/
abbrev Ref := Nat

inductive Builtin
  | abs | bool | dict | enumerate | float | format | hex | int | len | list | max | min | range
  | reversed | round | set | sorted | str | tuple | zip
deriving Repr, DecidableEq, Inhabited

inductive Primitive
  | registerAttrs | appendScene | drawColumnHeaders | drawRowHeader | drawLine | nextRow | hexLabel
  | drawBox | drawGroupLabelHeader | drawGap | drawBottom | buildLabel | buildSpan
  | line | rect | circle | ellipse | path | polygon | text | tspan | group
  | mergeAttrs | addAttrs | getAttrs | getContent | setContent | addContent
deriving Repr, DecidableEq, Inhabited

inductive Callable
  | builtin (b : Builtin)
  | primitive (p : Primitive)
deriving Repr, DecidableEq, Inhabited

/-- What an iterator walks, as its type's name says it. -/
inductive IteratorKind
  | zip | enumerate | listBackward | backward | range | longRange | dictBackward
deriving Repr, DecidableEq, Inhabited

/-- The integers `start, start + step, …` that stand before `stop`. -/
structure IntRange where
  start : Int
  stop : Int
  step : Int
deriving Repr, DecidableEq, Inhabited

mutual

inductive Value
  | none
  | bool (b : Bool)
  | int (n : Int)
  | float (x : Float)
  | complex (re im : Float)
  | str (s : String)
  | bytes (b : List UInt8)
  | ellipsis
  | tuple (items : Array Value)
  | frozenset (items : Array Value)
  | range (r : IntRange)
  | slice (start stop step : Value)
  | list (r : Ref)
  | dict (r : Ref)
  | set (r : Ref)
  | iterator (kind : IteratorKind) (r : Ref)
  | function (f : Callable)
  | node (n : Node)
  | emptySpec
  | directSpec (attrs : Value)
  | namedSpec (key : Value)
  | compositeSpec (parts : Array Value)

/-- One scene element: tag, attributes in order, and mixed content. -/
inductive Node
  | mk (tag : Value) (attrs : List (Value × Value)) (content : List Item)

inductive Item
  | text (s : String)
  | node (n : Node)
  /-- A value that a document cannot hold. -/
  | other (v : Value)

end

instance : Inhabited Value := ⟨.none⟩
instance : Inhabited Node := ⟨.mk .none [] []⟩
instance : Inhabited Item := ⟨.text ""⟩

namespace Node

def tag : Node → Value
  | mk t _ _ => t

def attrs : Node → List (Value × Value)
  | mk _ a _ => a

def content : Node → List Item
  | mk _ _ c => c

@[simp] theorem tag_mk (t : Value) (a : List (Value × Value)) (c : List Item) : (mk t a c).tag = t := rfl

@[simp] theorem attrs_mk (t : Value) (a : List (Value × Value)) (c : List Item) :
    (mk t a c).attrs = a := rfl

@[simp] theorem content_mk (t : Value) (a : List (Value × Value)) (c : List Item) :
    (mk t a c).content = c := rfl

end Node

namespace IntRange

/-- How many integers the range holds; a range with step zero holds none. -/
def length (r : IntRange) : Nat :=
  if 0 < r.step then ((r.stop - r.start + r.step - 1).fdiv r.step).toNat
  else if r.step < 0 then ((r.start - r.stop - r.step - 1).fdiv (-r.step)).toNat
  else 0

def get (r : IntRange) (i : Int) : Int := r.start + i * r.step

def indexOf? (r : IntRange) (n : Int) : Option Nat :=
  if r.step = 0 then none
  else
    let d := n - r.start
    let i := d.fdiv r.step
    if d.fmod r.step = 0 ∧ 0 ≤ i ∧ i < r.length then some i.toNat else none

def items (r : IntRange) : Array Value :=
  (Array.range r.length).map fun i : Nat => .int (r.get i)

def reverse (r : IntRange) : IntRange :=
  let n := r.length
  ⟨r.get ((n : Int) - 1), r.start - r.step, -r.step⟩

end IntRange

namespace Builtin

def name : Builtin → String
  | abs => "abs" | bool => "bool" | dict => "dict" | enumerate => "enumerate" | float => "float"
  | format => "format" | hex => "hex" | int => "int" | len => "len" | list => "list" | max => "max"
  | min => "min" | range => "range" | reversed => "reversed" | round => "round" | set => "set"
  | sorted => "sorted" | str => "str" | tuple => "tuple" | zip => "zip"

def all : List Builtin :=
  [abs, bool, dict, enumerate, float, format, hex, int, len, list, max, min, range, reversed, round,
    set, sorted, str, tuple, zip]

theorem mem_all (b : Builtin) : b ∈ all := by cases b <;> decide

def ownName : Builtin → String
  | format => "_bounded_format"
  | range => "_bounded_range"
  | b => b.name

def isType : Builtin → Bool
  | bool | dict | enumerate | float | int | list | reversed | set | str | tuple | zip => true
  | _ => false

end Builtin

namespace Primitive

def name : Primitive → String
  | registerAttrs => "register_attrs" | appendScene => "append_scene"
  | drawColumnHeaders => "draw_column_headers" | drawRowHeader => "draw_row_header"
  | drawLine => "draw_line" | nextRow => "next_row" | hexLabel => "hex_label" | drawBox => "draw_box"
  | drawGroupLabelHeader => "draw_group_label_header" | drawGap => "draw_gap"
  | drawBottom => "draw_bottom" | buildLabel => "build_label" | buildSpan => "build_span"
  | line => "svg_line" | rect => "svg_rect" | circle => "svg_circle" | ellipse => "svg_ellipse"
  | path => "svg_path" | polygon => "svg_polygon" | text => "svg_text" | tspan => "svg_tspan"
  | group => "svg_group" | mergeAttrs => "merge_attrs" | addAttrs => "add_attrs"
  | getAttrs => "get_attrs" | getContent => "get_content" | setContent => "set_content"
  | addContent => "add_content"

def all : List Primitive :=
  [registerAttrs, appendScene, drawColumnHeaders, drawRowHeader, drawLine, nextRow, hexLabel, drawBox,
    drawGroupLabelHeader, drawGap, drawBottom, buildLabel, buildSpan, line, rect, circle, ellipse, path,
    polygon, text, tspan, group, mergeAttrs, addAttrs, getAttrs, getContent, setContent, addContent]

theorem mem_all (p : Primitive) : p ∈ all := by cases p <;> decide

def ownName : Primitive → String
  | line => "line" | rect => "rect" | circle => "circle" | ellipse => "ellipse" | path => "path"
  | polygon => "polygon" | text => "text" | tspan => "tspan" | group => "group"
  | p => p.name

/-- Does the function act on the diagram that is drawn? -/
def ofDiagram : Primitive → Bool
  | line | rect | circle | ellipse | path | polygon | text | tspan | group | mergeAttrs | addAttrs
  | getAttrs | getContent | setContent | addContent => false
  | _ => true

end Primitive

namespace IteratorKind

def typeName : IteratorKind → String
  | zip => "zip"
  | enumerate => "enumerate"
  | listBackward => "list_reverseiterator"
  | backward => "reversed"
  | range => "range_iterator"
  | longRange => "longrange_iterator"
  | dictBackward => "dict_reversekeyiterator"

end IteratorKind

namespace Value

def typeName : Value → String
  | none => "NoneType"
  | bool _ => "bool"
  | int _ => "int"
  | float _ => "float"
  | complex .. => "complex"
  | str _ => "str"
  | bytes _ => "bytes"
  | ellipsis => "ellipsis"
  | tuple _ => "tuple"
  | frozenset _ => "frozenset"
  | range _ => "range"
  | slice .. => "slice"
  | list _ => "list"
  | dict _ => "dict"
  | set _ => "set"
  | iterator k _ => k.typeName
  | function (.builtin .format) | function (.builtin .range) => "function"
  | function (.builtin b) => if b.isType then "type" else "builtin_function_or_method"
  | function (.primitive p) => if p.ofDiagram then "method" else "function"
  | node _ => "Node"
  | emptySpec => "Empty"
  | directSpec _ => "Direct"
  | namedSpec _ => "Named"
  | compositeSpec _ => "Composite"

/-- The integer that an integer or truth value stands for. -/
def asInt? : Value → Option Int
  | int n => some n
  | bool b => some (if b then 1 else 0)
  | _ => Option.none

/-- A byte string as characters of the same codes. -/
def byteChars (b : List UInt8) : List Char := b.map fun x => Char.ofNat x.toNat

def pair (a b : Value) : Value := .tuple #[a, b]

end Value
end WireSketch
