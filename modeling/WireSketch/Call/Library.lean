import WireSketch.Call.Primitive
import WireSketch.Fit.Measurer

/-! The functions of the library by name, those that scripts cannot call among them. -/
namespace WireSketch

inductive LibraryFunction
  | primitive (p : Primitive)
  | resolve | emit | width | height | setField
  | element | document | coordinate | toXml
  | children | textContent
  | formatBoxLabel | centerBaseline
  | asSpec | isSymbol | contains | keys | lookup
  | lengthOf | withoutQuotes
deriving Repr, DecidableEq

namespace LibraryFunction

open Parameter (required withDefault)

def signature : LibraryFunction → Signature
  | primitive p => p.signature
  | resolve => { name := "resolve", owner := some "Diagram", parameters := [required "spec"] }
  | emit => { name := "emit", owner := some "Diagram" }
  | width => { name := "width", owner := some "Diagram" }
  | height => { name := "height", owner := some "Diagram" }
  | setField => { name := "set", parameters := [required "name", required "value"] }
  | element =>
    { name := "element", parameters := [required "tag", withDefault "attrs" .none], rest := true }
  | document => { name := "document", parameters := ["width", "height", "body"].map required }
  | coordinate => { name := "_fmt", parameters := [required "value"] }
  | toXml => { name := "to_element", parameters := [required "node"] }
  | children => { name := "children", parameters := [required "node"] }
  | textContent => { name := "text_content", parameters := [required "node"] }
  | formatBoxLabel =>
    { name := "format_box_label", parameters := [required "label", required "span"] }
  | centerBaseline => { name := "center_baseline", parameters := [required "node"] }
  | asSpec => { name := "as_spec", parameters := [required "raw"] }
  | isSymbol => { name := "is_symbol", parameters := [required "value"] }
  | contains =>
    { name := "__contains__", owner := some "NamedAttributes", parameters := [required "key"] }
  | keys => { name := "keys", owner := some "NamedAttributes" }
  | lookup => { name := "lookup", owner := some "NamedAttributes", parameters := [required "key"] }
  | lengthOf => { name := "_parse_length", parameters := [required "value", required "default"] }
  | withoutQuotes => { name := "_strip_quotes", parameters := [required "value"] }

/-- The map of a style: the one that was registered, or a new one for a style of the drawing's own. -/
def styleMap : Style → StoreM Value
  | .own a _ => do StoreM.newDict (← (Dict.ofPairs a : Except Fault Dict))
  | .shared r => return .dict r

/-- A node alone as a document. -/
def xmlText (v : Value) : DrawM Value := do
  let m ← sceneMarkup v
  return .str (← (m.write : Except Fault String))

def documentOf (w h body : Value) : DrawM Value := do
  let _ ← (WireSketch.coordinate w : Except Fault String)
  let _ ← (WireSketch.coordinate h : Except Fault String)
  return .str (← WireSketch.document w h (← body.items).toList)

def elementOf (tag attrs : Value) (content : List Value) : StoreM Value := do
  let attrs ← if ← attrs.truth then entriesOf attrs else pure []
  return .node (.mk tag attrs (← Node.contentItems content))

def perform (f : LibraryFunction) (b : Bound) : DrawM Value := do
  match f, b.values with
  | primitive p, _ => p.perform b
  | resolve, [spec] =>
    StoreM.newDict (← (Dict.ofPairs (← resolveValue spec) : Except Fault Dict))
  | emit, _ => return .str (← WireSketch.emit)
  | width, _ => diagramWidth
  | height, _ => diagramHeight
  | setField, [.str name, v] =>
    if let some field := Field.ofName? name then DrawM.setField field v
    return .none
  | element, [tag, attrs] => elementOf tag attrs b.rest
  | document, [w, h, body] => documentOf w h body
  | coordinate, [v] => return .str (← (WireSketch.coordinate v : Except Fault String))
  | toXml, [v] => xmlText v
  | children, [v] =>
    let n ← v.toNode "children"
    StoreM.newList (n.children.map Value.node).toArray
  | textContent, [v] =>
    let n ← v.toNode "text_content"
    return .str (← (n.textContent : Except Fault String))
  | formatBoxLabel, [label, span] => return .node (← WireSketch.formatBoxLabel label span)
  | centerBaseline, [v] => return .node (← v.toNode "content").centerBaseline
  | asSpec, [v] => Spec.tagged v
  | isSymbol, [.str s] => return .bool (isStyleName s)
  | isSymbol, _ => return .bool false
  | contains, [key] =>
    let _ ← (key.key : Except Fault Key)
    match key with
    | .str s => return .bool (Styles.find? s (← get).styles).isSome
    | _ => return .bool false
  | keys, _ => StoreM.newList ((← get).styles.map fun (name, _) => Value.str name).toArray
  | lookup, [key] => styleMap (← lookupStyle key)
  | lengthOf, [v, default] => WireSketch.lengthOf v default
  | withoutQuotes, [.str s] => return .str (WireSketch.withoutQuotes s)
  | withoutQuotes, [v] => throw (.fault (.noAttribute v.typeName "startswith"))
  | _, _ => return .none

def call (f : LibraryFunction) (a : Arguments) : DrawM Value := do
  f.perform (← (f.signature.bind a : Except Fault Bound))

end LibraryFunction
end WireSketch
