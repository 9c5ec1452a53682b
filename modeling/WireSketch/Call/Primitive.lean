import WireSketch.Call.Builtin
import WireSketch.Call.Signature
import WireSketch.Diagram.Emit

/-! The drawing functions as scripts call them: their parameters, what each one does, and calls of any function. -/
namespace WireSketch.Primitive

open Parameter (required withDefault)

def specOption : Parameter := withDefault "spec" .none

def parameters : Primitive → List Parameter
  | registerAttrs => [required "key", required "attrs"]
  | appendScene => [required "node"]
  | drawColumnHeaders => [specOption]
  | drawRowHeader => [required "label", specOption]
  | drawLine => ["x1", "y1", "x2", "y2"].map required ++ [specOption]
  | nextRow => [withDefault "height" .none]
  | hexLabel => [required "n", withDefault "digits" (.int 2), withDefault "spec" (.str "hex")]
  | drawBox => [withDefault "label" .none, specOption]
  | drawGroupLabelHeader => [required "span", required "label"]
  | drawGap =>
    [withDefault "height" (.int 70), withDefault "gap" (.int 10), withDefault "edge" (.int 15)]
  | drawBottom => []
  | buildLabel => [required "label", withDefault "spec" (.str "plain")]
  | buildSpan => [required "spec", withDefault "content" (.tuple #[])]
  | line | rect | circle | ellipse | path => []
  | polygon | group => []
  | text | tspan => [required "content"]
  | mergeAttrs => [required "node", required "attrs"]
  | addAttrs | getAttrs | getContent | setContent | addContent => [required "node"]

def signature (p : Primitive) : Signature where
  name := p.ownName
  owner := if p.ofDiagram then some "Diagram" else none
  parameters := (shapeAttrs p).map required ++ p.parameters
  rest := p matches buildLabel | polygon | group | setContent | addContent
  extra := p matches line | rect | circle | ellipse | path | polygon | text | tspan | group | addAttrs

def perform (p : Primitive) (b : Bound) : DrawM Value := do
  match p, b.values with
  | registerAttrs, [key, attrs] => WireSketch.registerAttrs key attrs; return .none
  | appendScene, [node] => DrawM.append node; return .none
  | drawColumnHeaders, [spec] => WireSketch.drawColumnHeaders spec; return .none
  | drawRowHeader, [label, spec] => WireSketch.drawRowHeader label spec; return .none
  | drawLine, [x1, y1, x2, y2, spec] =>
    WireSketch.drawLine x1 y1 x2 y2 (Spec.ofValue spec)
    return .none
  | nextRow, [height] => WireSketch.nextRow height; return .none
  | hexLabel, [n, digits, spec] =>
    return .node (← WireSketch.hexLabel n digits (Spec.ofValue spec))
  | drawBox, [label, spec] => WireSketch.drawBox label (Spec.ofValue spec); return .none
  | drawGroupLabelHeader, [span, label] =>
    WireSketch.drawGroupLabelHeader span label
    return .none
  | drawGap, [height, gap, edge] => WireSketch.drawGap height gap edge; return .none
  | drawBottom, _ => WireSketch.drawBottom; return .none
  | buildLabel, [label, spec] =>
    return .node (← WireSketch.buildLabel label (Spec.ofValue spec) b.rest)
  | buildSpan, [spec, content] => return .node (← WireSketch.buildSpan spec content)
  | line, values => return shape "line" (shapeAttrs p) values b.extra
  | rect, values => return shape "rect" (shapeAttrs p) values b.extra
  | circle, values => return shape "circle" (shapeAttrs p) values b.extra
  | ellipse, values => return shape "ellipse" (shapeAttrs p) values b.extra
  | path, values => return shape "path" (shapeAttrs p) values b.extra
  | polygon, _ => WireSketch.polygon b.rest b.extra
  | text, content => container "text" content b.extra
  | tspan, content => container "tspan" content b.extra
  | group, _ => container "g" b.rest b.extra
  | mergeAttrs, [node, attrs] => WireSketch.mergeAttrs node attrs
  | addAttrs, [node] => WireSketch.addAttrs node b.extra
  | getAttrs, [node] => WireSketch.getAttrs node
  | getContent, [node] => WireSketch.getContent node
  | setContent, [node] => WireSketch.setContent node b.rest
  | addContent, [node] => WireSketch.addContent node b.rest
  | _, _ => return .none

/-- Calls a function: its arguments are bound before it does anything. -/
def call (p : Primitive) (a : Arguments) : DrawM Value := do
  p.perform (← (p.signature.bind a : Except Fault Bound))

end WireSketch.Primitive

namespace WireSketch.Callable

/-- Calls a function as a key: with one argument it needs no key function of its own. -/
def callWithOne (f : Callable) (x : Value) : DrawM Value :=
  match f with
  | builtin b => b.call (fun _ x => return x) ⟨[x], []⟩
  | primitive p => p.call ⟨[x], []⟩

def call (f : Callable) (a : Arguments) : DrawM Value :=
  match f with
  | builtin b => b.call callWithOne a
  | primitive p => p.call a

end WireSketch.Callable
