import WireSketch.Diagram.Label

/-! Drawing at the cursor: rows of boxes, headers, gaps and lines. -/
namespace WireSketch

open Value (add sub mul div)

def rowWidth : DrawM Value := do
  let l ← DrawM.layout
  l.boxWidth.mul l.boxesPerRow

def drawLine (x1 y1 x2 y2 : Value) (spec : DrawM Spec) : DrawM Unit := do
  let options ← resolve (← spec)
  let options := options.setDefault "stroke" (.str "#000000")
  let options := options.setDefault "stroke-width" (.int 1)
  let attrs := options.merge (Attrs.ofNames [("x1", x1), ("y1", y1), ("x2", x2), ("y2", y2)])
  DrawM.append (.node (.mk (.str "line") attrs []))

def drawPlainLine (x1 y1 x2 y2 : Value) : DrawM Unit := drawLine x1 y1 x2 y2 (return .empty)

def hexDigitLabels : Value :=
  .tuple #[.str "0", .str "1", .str "2", .str "3", .str "4", .str "5", .str "6", .str "7", .str "8",
    .str "9", .str "a", .str "b", .str "c", .str "d", .str "e", .str "f"]

def missingLabel (labels : Value) (i : Nat) (perRow : Value) : DrawM Value := do
  let some n ← labels.length? | throw (.fault (.noLength labels.typeName))
  DrawM.refuse (.missingHeader i n (← perRow.plain))

/-- The label of column `i`; an index beyond the labels is an error of the header. -/
def headerLabel (labels : Value) (i : Nat) (perRow : Value) : DrawM Value := fun w =>
  let label : DrawM Value := labels.subscript (.int i) Value.shown
  match label w with
  | .error (.fault f) w =>
    if f.faultClass = .index then missingLabel labels i perRow w else .error (.fault f) w
  | r => r

/-- Column labels from column `i` on, `count` of them, centred at height `y`. -/
def drawHeaderLabels (labels y : Value) (options : Attrs) : Nat → Nat → DrawM Unit
  | _, 0 => return
  | i, count + 1 => do
    let l ← DrawM.layout
    let label ← headerLabel labels i l.boxesPerRow
    let middle ← (Value.int i).add (.float 0.5)
    let x ← l.leftMargin.add (← middle.mul l.boxWidth)
    let attrs := options.merge (Attrs.ofNames
      [("x", x), ("y", y), ("dominant-baseline", .str "middle"), ("text-anchor", .str "middle")])
    DrawM.append (.node (.mk (.str "text") attrs [← Node.contentItem label]))
    drawHeaderLabels labels y options (i + 1) count

def headerHeight (options : Attrs) : Value := (options.find? "height").getD (.int 14)

def drawHeadersOf (options : Attrs) : DrawM Unit := do
  let labels := (options.find? "labels").getD hexDigitLabels
  let height := headerHeight options
  let options := (options.erase "labels").erase "height"
  let options := options.setDefault "font-size" (.int 11)
  let options := options.setDefault "font-family" monoFamily
  let l ← DrawM.layout
  let y ← l.diagramY.add (← (Value.float 0.5).mul height)
  let count ← (l.boxesPerRow.toInt : Except Fault Value)
  drawHeaderLabels labels y options 0 (count.asInt?.getD 0).toNat
  DrawM.setField .diagramY (← l.diagramY.addInto height)

def drawColumnHeaders (spec : Value) : DrawM Unit := do drawHeadersOf (← resolveValue spec)

/-- A label at the right end of the left margin; a node keeps its own style. -/
def drawRowHeader (label spec : Value) : DrawM Unit := do
  let options ← resolveValue spec
  let options := options.setDefault "font-size" (.int 11)
  let options := options.setDefault "font-family" monoFamily
  let options := options.setDefault "dominant-baseline" (.str "middle")
  let l ← DrawM.layout
  let x ← l.leftMargin.sub (.int 5)
  let y ← l.diagramY.add (← (Value.float 0.5).mul l.rowHeight)
  let position := Attrs.ofNames [("x", x), ("y", y), ("text-anchor", .str "end")]
  match label with
  | .node n =>
    let baseline := (options.find? "dominant-baseline").getD .none
    let own (name : String) : Attrs := (options.find? name).toList.map fun v => (.str name, v)
    let placement := (position.put "dominant-baseline" baseline).merge
      (own "x" ++ own "y" ++ own "text-anchor")
    DrawM.append (.node (n.mergeAttrs placement))
  | label =>
    DrawM.append (.node (.mk (.str "text") (options.merge position) [← Node.contentItem label]))

/-- The height of a row that is left, that of the layout if none is given. -/
def rowStep (l : Layout) (height : Value) : Value :=
  match height with
  | .none => l.rowHeight
  | h => h

/-- Moves down by a height, the row's height if none is given, and back to column zero. -/
def nextRow (height : Value) : DrawM Unit := do
  let l ← DrawM.layout
  DrawM.setField .diagramY (← l.diagramY.addInto (rowStep l height))
  DrawM.setField .boxIndex (.int 0)

def drawFill (fill left top width height : Value) : DrawM Unit := do
  if ← fill.truth then
    DrawM.append (shape "rect" (shapeAttrs .rect) [left, top, width, height] [("fill", fill)])

def drawBorder (borders : Value) (name : String) (x1 y1 x2 y2 : Value) : DrawM Unit := do
  if ← Value.isMember (.str name) borders then drawPlainLine x1 y1 x2 y2

def drawBorders (borders left right top bottom : Value) : DrawM Unit := do
  drawBorder borders "top" left top right top
  drawBorder borders "bottom" left bottom right bottom
  drawBorder borders "right" right top right bottom
  drawBorder borders "left" left top left bottom

def placeLabel (label span left right top height width : Value) : DrawM Unit := do
  let n ← formatBoxLabel label span
  let x ← (← left.add right).div (.float 2)
  let y ← (← top.add (.int 1)).add (← height.div (.float 2))
  let placed := (n.mergeAttrs (Attrs.ofNames
    [("x", x), ("y", y), ("text-anchor", .str "middle")])).centerBaseline
  DrawM.append (.node placed)
  DrawM.place ⟨placed, width⟩

def drawLabel (label span left right top height width : Value) : DrawM Unit :=
  match label with
  | .none => return
  | label => placeLabel label span left right top height width

def boxSpan (options : Attrs) : Value := (options.find? "span").getD (.int 1)

def boxBorders (options : Attrs) : Value := (options.find? "borders").getD allSides

def boxFill (options : Attrs) : Value := (options.find? "fill").getD .none

/-- The height of a box, that of the row if none is given. -/
def boxHeight (l : Layout) (options : Attrs) : Value := (options.find? "height").getD l.rowHeight

/-- One box at the cursor under resolved options. -/
def drawBoxOf (label : Value) (options : Attrs) : DrawM Unit := do
  let l ← DrawM.layout
  let span := boxSpan options
  let height := boxHeight l options
  let left ← l.leftMargin.add (← l.boxIndex.mul l.boxWidth)
  let width ← span.mul l.boxWidth
  let right ← left.add width
  let top := l.diagramY
  let bottom ← top.add height
  drawFill (boxFill options) left top width height
  drawBorders (boxBorders options) left right top bottom
  drawLabel label span left right top height width
  DrawM.setField .boxIndex (← l.boxIndex.addInto span)

/-- One box at the cursor, which moves on by the box's span. -/
def drawBox (label : Value) (spec : DrawM Spec) : DrawM Unit := do
  drawBoxOf label (← resolve (← spec))

/-- A low box without borders for the label of a group of columns. -/
def drawGroupLabelHeader (span label : Value) : DrawM Unit := do
  let style : Spec := .composite
    [.named (.str "math"), .ofNames [("font-size", .int 12)] (by decide)]
  let n ← buildLabel label (return style) []
  let options : Spec := .ofNames [("span", span), ("borders", .frozenset #[]), ("height", .int 14)]
    (by change ["span", "borders", "height"].Nodup; decide)
  drawBox (.node n) (return options)

/-- A mark of a discontinuity over the full width. -/
def drawGap (height gap edge : Value) : DrawM Unit := do
  let l ← DrawM.layout
  let y := l.diagramY
  let top ← y.add edge
  let left := l.leftMargin
  let right ← left.add (← rowWidth)
  let bottom ← (← y.add height).sub edge
  let dotted : DrawM Spec := return .named (.str "dotted")
  drawPlainLine left y left top
  drawPlainLine right y right top
  drawLine left top right (← bottom.sub gap) dotted
  drawPlainLine right y right (← bottom.sub gap)
  drawLine left (← top.add gap) right bottom dotted
  drawPlainLine left (← top.add gap) left bottom
  drawPlainLine left bottom left (← y.add height)
  drawPlainLine right bottom right (← y.add height)
  DrawM.setField .diagramY (← (← DrawM.layout).diagramY.addInto height)

def drawBottom : DrawM Unit := do
  let l ← DrawM.layout
  drawPlainLine l.leftMargin l.diagramY (← l.leftMargin.add (← rowWidth)) l.diagramY

def diagramWidth : DrawM Value := do
  let l ← DrawM.layout
  (← l.leftMargin.add l.rightMargin).add (← rowWidth)

def diagramHeight : DrawM Value := do
  let l ← DrawM.layout
  l.diagramY.add l.bottomMargin

end WireSketch
