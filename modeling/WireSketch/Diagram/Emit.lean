import WireSketch.Diagram.Draw
import WireSketch.Xml.Markup

/-! The finished drawing as an SVG document. -/
namespace WireSketch

def svgSpace : String := "http://www.w3.org/2000/svg"

def qualified (tag : String) : String := Value.braced svgSpace ++ tag

def attributeText : Value → StoreM String
  | .bool b => return if b then "true" else "false"
  | .int n => Value.intText n
  | .float x => return coordinateOfFloat x
  | v => v.plain

/-- Sets an attribute that may be there already. -/
def setText (name value : String) : List (String × String) → List (String × String)
  | [] => [(name, value)]
  | (k, v) :: rest => if k == name then (k, value) :: rest else (k, v) :: setText name value rest

def attributeTexts : Attrs → List (String × String) → StoreM (List (String × String))
  | [], done => return done
  | (_, .none) :: rest, done => attributeTexts rest done
  | (k, v) :: rest, done => do
    let k ← k.plain
    let v ← attributeText v
    attributeTexts rest (setText k v done)

namespace Node

mutual

def toMarkup : Node → StoreM Markup
  | mk tag attrs content => do
    let name ← tag.plain
    let attrs ← attributeTexts attrs []
    return .element (qualified name) attrs (← contentMarkup content)

def contentMarkup : List Item → StoreM (List Markup)
  | [] => return []
  | .text s :: rest => return .text s :: (← contentMarkup rest)
  | .other v :: _ => throw (.concatenation "str" v.typeName)
  | .node n :: rest => do
    let m ← toMarkup n
    return m :: (← contentMarkup rest)

end

end Node

/-- Each element on a line of its own, indented. -/
def indented : List Markup → List Markup
  | [] => []
  | [m] => [.text "\n  ", m, .text "\n"]
  | m :: rest => .text "\n  " :: m :: indented rest

def sceneMarkup (v : Value) : DrawM Markup := do (← v.toNode "tag").toMarkup

def document (width height : Value) (body : List Value) : DrawM String := do
  let width ← (coordinate width : Except Fault String)
  let height ← (coordinate height : Except Fault String)
  let elements ← body.mapM sceneMarkup
  let root := Markup.element (qualified "svg") [("width", width), ("height", height)]
    (indented elements)
  return (← (root.write : Except Fault String)) ++ "\n"

def emit : DrawM String := do
  document (← diagramWidth) (← diagramHeight) (← get).scene.toList

end WireSketch
