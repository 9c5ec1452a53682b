import WireSketch.Diagram.Style

/-! Scene nodes: building them, and copies with other attributes or content. -/
namespace WireSketch

/--
The text of a number: an integer as it is, a near integer without its fraction, else three places at
most.
-/
def coordinateOfFloat (x : Float) : String :=
  let near (n : Int) : Bool :=
    -- Relative distance of a billionth.
    match Binary64.ofInt? n with
    | some y => x == y || (let d := (y - x).abs; d ≤ (1e-9 * y).abs || d ≤ (1e-9 * x).abs)
    | none => false
  let whole := if Binary64.isFinite x then some (Binary64.roundEven x) else none
  match whole.filter near with
  | some n => toString n
  | none =>
    let style : NumberStyle := { rule := .fixed 3 }
    Text.trimEnd '.' (Text.trimEnd '0' (style.write x))

def coordinate (v : Value) : Except Fault String :=
  match v with
  | .int n => Value.intText n
  | .bool b => .ok (if b then "True" else "False")
  | .float x => .ok (coordinateOfFloat x)
  | v => .error (.notReal v.typeName)

/-- The type that a missing attribute of a value is reported for. -/
def Value.memberFault (v : Value) (name : String) : Fault :=
  match v with
  | .function (.primitive _) => .noAttribute "function" name
  | v => .noAttribute v.typeName name

/-- The node that a value is, or a fault about the given part of a node. -/
def Value.toNode (part : String) : Value → DrawM Node
  | .node n => return n
  | v => throw (.fault (v.memberFault part))

namespace Node

/-- Nodes stay in the content, all else becomes text. -/
def contentItem : Value → StoreM Item
  | .node n => return .node n
  | v => return .text (← v.plain)

def contentItems (xs : List Value) : StoreM (List Item) := xs.mapM contentItem

def element (tag : String) (attrs : Attrs) (content : List Value) : StoreM Node := do
  return .mk (.str tag) attrs (← contentItems content)

def mergeAttrs (n : Node) (a : Attrs) : Node := .mk n.tag (Attrs.merge n.attrs a) n.content

def children (n : Node) : List Node :=
  n.content.filterMap fun
    | .node m => some m
    | _ => none

/-- Texts in a row; the place and type of the first part that is no text are a fault. -/
def joinTexts : Nat → List (Except String String) → Except Fault String
  | _, [] => .ok ""
  | i, .ok s :: rest => return s ++ (← joinTexts (i + 1) rest)
  | i, .error t :: _ => .error (.joinedItem i t)

mutual

def textContent : Node → Except Fault String
  | mk _ _ content => do joinTexts 0 (← contentTexts content)

/-- The texts of the parts, or the types of those that are no text. -/
def contentTexts : List Item → Except Fault (List (Except String String))
  | [] => .ok []
  | .text s :: rest => return .ok s :: (← contentTexts rest)
  | .node n :: rest => do
    let s ← textContent n
    return .ok s :: (← contentTexts rest)
  | .other v :: rest => return .error v.typeName :: (← contentTexts rest)

end

mutual

/-- The tree with every node centred on its base line. -/
def centerBaseline : Node → Node
  | mk tag attrs content =>
    mk tag (Attrs.merge attrs [(.str "dominant-baseline", .str "middle")]) (centerItems content)

def centerItems : List Item → List Item
  | [] => []
  | .text s :: rest => .text s :: centerItems rest
  | .other v :: rest => .other v :: centerItems rest
  | .node n :: rest => .node (centerBaseline n) :: centerItems rest

end

end Node

/-- An attribute's name as a keyword spells it: underscores at its end are dropped, others are hyphens. -/
def attributeName (keyword : String) : String :=
  String.ofList ((Text.trimEnd '_' keyword).toList.map fun c => if c == '_' then '-' else c)

def keywordAttrs (keywords : List (String × Value)) : Attrs :=
  keywords.foldl (fun a (k, v) => a.put (attributeName k) v) []

/-- Shapes with fixed attributes, in the order in which they take them. -/
def shapeAttrs : Primitive → List String
  | .line => ["x1", "y1", "x2", "y2"]
  | .rect => ["x", "y", "width", "height"]
  | .circle => ["cx", "cy", "r"]
  | .ellipse => ["cx", "cy", "rx", "ry"]
  | .path => ["d"]
  | _ => []

/-- A node without content: fixed attributes, then those of the keywords. -/
def shape (tag : String) (names : List String) (values : List Value)
    (keywords : List (String × Value)) : Value :=
  .node (.mk (.str tag) (Attrs.merge (Attrs.ofNames (names.zip values)) (keywordAttrs keywords)) [])

def unpackPoint (v : Value) : StoreM (Value × Value) := do
  let parts ← Value.assignedItems v (.notUnpackable v.typeName)
  match parts.toList with
  | [x, y] => return (x, y)
  | parts =>
    if parts.length > 2 then throw (.tooManyToUnpack 2)
    throw (.tooFewToUnpack 2 parts.length)

def pointText (v : Value) : StoreM String := do
  let (x, y) ← unpackPoint v
  let x ← (coordinate x : Except Fault String)
  let y ← (coordinate y : Except Fault String)
  return x ++ "," ++ y

def polygon (points : List Value) (keywords : List (String × Value)) : StoreM Value := do
  let coordinates ← points.mapM pointText
  return shape "polygon" ["points"] [.str (" ".intercalate coordinates)] keywords

/-- A node with content: text, span or group. -/
def container (tag : String) (content : List Value) (keywords : List (String × Value)) :
    StoreM Value := do
  return .node (.mk (.str tag) (keywordAttrs keywords) (← Node.contentItems content))

def mappingEntries : Value → StoreM Attrs
  | .dict r => return (← StoreM.getDict r).entries.toList
  | v => throw (.notMapping v.typeName)

def mergeAttrs (node attrs : Value) : DrawM Value := do
  let n ← node.toNode "tag"
  return .node (n.mergeAttrs (← mappingEntries attrs))

def addAttrs (node : Value) (keywords : List (String × Value)) : DrawM Value := do
  let n ← node.toNode "tag"
  return .node (n.mergeAttrs (keywordAttrs keywords))

def getAttrs (node : Value) : DrawM Value := do
  let entries ← match node with
    | .directSpec m => (entriesOf m : DrawM Attrs)
    | node => pure (← node.toNode "attrs").attrs
  StoreM.newDict (← (Dict.ofPairs entries : Except Fault Dict))

def Item.toValue : Item → Value
  | .text s => .str s
  | .node n => .node n
  | .other v => v

def getContent (node : Value) : DrawM Value := do
  let n ← node.toNode "content"
  StoreM.newList (n.content.map Item.toValue).toArray

def setContent (node : Value) (content : List Value) : DrawM Value := do
  let n ← node.toNode "tag"
  return .node (.mk n.tag n.attrs (← Node.contentItems content))

def addContent (node : Value) (content : List Value) : DrawM Value := do
  let n ← node.toNode "tag"
  return .node (.mk n.tag n.attrs (n.content ++ (← Node.contentItems content)))

end WireSketch
