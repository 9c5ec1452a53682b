import WireSketch.Diagram.Element

/-! Styled labels: text nodes with nested spans, and the labels that boxes are given. -/
namespace WireSketch

/-- The items of a tuple or a list, which stand for a nested label. -/
def nestedParts? : Value → StoreM (Option (List Value))
  | .tuple xs => return some xs.toList
  | .list r => return some (← StoreM.getList r).toList
  | _ => return none

/-- Content of a label: a nested sequence is a span whose first item is its specification. -/
def expandIn : Nat → List Value → DrawM (List Item)
  | 0, _ => throw (.fault (.nesting "in comparison"))
  | fuel + 1, content => content.mapM fun v => do
    match ← nestedParts? v with
    | some parts =>
      let attrs ← resolveValue (parts.head?.getD .none)
      return .node (.mk (.str "tspan") attrs (← expandIn fuel parts.tail))
    | none => Node.contentItem v

def expand (content : List Value) : DrawM (List Item) := expandIn nestingLimit content

/-- A text node that starts with a label and goes on with nested content. -/
def buildLabel (label : Value) (spec : DrawM Spec) (content : List Value) : DrawM Node := do
  let attrs ← resolve (← spec)
  let text ← label.plain
  return .mk (.str "text") attrs (.text text :: (← expand content))

def buildSpan (spec content : Value) : DrawM Node := do
  let attrs ← resolveValue spec
  return .mk (.str "tspan") attrs (← expand (← content.items).toList)

def isNumber : Value → Bool
  | .int _ | .float _ => true
  | _ => false

def isWhole : Value → Bool
  | .int _ => true
  | .float x => Binary64.isIntegral x
  | _ => false

/-- A whole number in lower case hexadecimal, zeros in front up to a number of digits. -/
def hexLabel (n digits : Value) (spec : DrawM Spec) : DrawM Node := do
  if !isWhole n then DrawM.refuse (.notWhole (← n.shown))
  let n ← (n.toInt : Except Fault Value)
  let digits ← (← (digits.toInt : Except Fault Value)).plain
  let text ← n.format ("0" ++ digits ++ "x")
  buildLabel (.str text) (do
    let own ← spec
    return .composite [.named (.str "hex"), own]) []

/-- The label of a box of the given span: numbers in two digits for each column. -/
def formatBoxLabel (label span : Value) : DrawM Node := do
  if isNumber label then
    let doubled ← span.mul (.int 2)
    let digits ← (doubled.toInt : Except Fault Value)
    hexLabel label digits (return .named (.str "hex"))
  else
    match label with
    | .node n => return n
    | .str _ => buildLabel label (return .named (.str "plain")) []
    | label => DrawM.refuse (.badLabel (← label.shown))

end WireSketch
