import WireSketch.Proofs.Drawing.Frame
import WireSketch.Proofs.Value.Member
import WireSketch.Proofs.Value.Number
import WireSketch.Proofs.Value.Reading

/-! What a box adds to the scene: its area, its borders and its label, in this order. -/
namespace WireSketch
open Contract

namespace World

/-- The world with further nodes at the end of its scene. -/
def shows (w : World) (nodes : List Value) : World := { w with scene := w.scene ++ nodes.toArray }

@[simp] theorem shows_nil (w : World) : w.shows [] = w := by simp [shows]

theorem shows_shows (w : World) (xs ys : List Value) : (w.shows xs).shows ys = w.shows (xs ++ ys) := by
  simp [shows]

theorem scene_shows_append (w : World) (xs ys : List Value) :
    (w.shows xs).scene ++ ys.toArray = w.scene ++ (xs ++ ys).toArray := by simp [shows]

end World

/-- A line as it is drawn without a specification. -/
def lineNode (x1 y1 x2 y2 : Value) : Value :=
  .node (.mk (.str "line") (Attrs.ofNames [("stroke", .str "#000000"), ("stroke-width", .int 1),
    ("x1", x1), ("y1", y1), ("x2", x2), ("y2", y2)]) [])

def areaNode (left top width height fill : Value) : Value :=
  .node (.mk (.str "rect") (Attrs.ofNames [("x", left), ("y", top), ("width", width),
    ("height", height), ("fill", fill)]) [])

def borderNodes (names : List String) (left right top bottom : Value) : List Value :=
  (if "top" ∈ names then [lineNode left top right top] else []) ++
    ((if "bottom" ∈ names then [lineNode left bottom right bottom] else []) ++
      ((if "right" ∈ names then [lineNode right top right bottom] else []) ++
        (if "left" ∈ names then [lineNode left top left bottom] else [])))

theorem run_drawPlainLine (x1 y1 x2 y2 : Value) (w : World) :
    drawPlainLine x1 y1 x2 y2 w = .ok () (w.shows [lineNode x1 y1 x2 y2]) := by
  obtain ⟨store, layout, styles, scene, labels⟩ := w
  rfl

/-- The fill of a box is read off the store. -/
theorem of_drawFill_ok {fill left top width height : Value} {w t : World}
    (h : drawFill fill left top width height w = .ok () t) :
    ∃ filled, fill.truth w.store = .ok filled w.store ∧
      t = w.shows (if filled then [areaNode left top width height fill] else []) := by
  unfold drawFill at h
  obtain ⟨filled, u, htruth, h⟩ := Run.of_bind_ok h
  obtain ⟨s, hs, rfl⟩ := DrawM.of_ofStore_ok htruth
  obtain rfl : s = w.store := ((Value.keeps_truth fill : reading.Keeps _).of_ok hs).1
  refine ⟨filled, hs, ?_⟩
  cases filled with
  | true =>
    cases h
    rfl
  | false =>
    cases h
    rw [if_neg Bool.false_ne_true, World.shows_nil]

theorem run_drawBorder {borders : Value} {names : List String} (w : World) (name : String)
    (x1 y1 x2 y2 : Value) (h : Value.Names w.store borders names) :
    drawBorder borders name x1 y1 x2 y2 w =
      .ok () (w.shows (if name ∈ names then [lineNode x1 y1 x2 y2] else [])) := by
  have hmember : (liftM (Value.isMember (.str name) borders) : DrawM Bool) w =
      .ok (decide (name ∈ names)) w := by
    rw [DrawM.run_ofStore, Value.isMember_names h]
  unfold drawBorder
  rw [Run.bind_ok hmember]
  by_cases hname : name ∈ names
  · rw [if_pos hname, if_pos (by simpa using hname)]
    exact run_drawPlainLine x1 y1 x2 y2 w
  · rw [if_neg hname, if_neg (by simpa using hname), World.shows_nil]
    rfl

/-- Each border looks its name up in the same store. -/
theorem run_drawBorders {borders : Value} {names : List String} (w : World)
    (left right top bottom : Value) (h : Value.Names w.store borders names) :
    drawBorders borders left right top bottom w =
      .ok () (w.shows (borderNodes names left right top bottom)) := by
  unfold drawBorders
  refine (Run.bind_ok (run_drawBorder w "top" left top right top h)).trans ?_
  refine (Run.bind_ok (run_drawBorder (w.shows _) "bottom" left bottom right bottom h)).trans ?_
  refine (Run.bind_ok (run_drawBorder ((w.shows _).shows _) "right" right top right bottom h)).trans ?_
  refine (run_drawBorder (((w.shows _).shows _).shows _) "left" left top left bottom h).trans ?_
  simp only [World.shows_shows, borderNodes, List.append_assoc]

/-- Resolving and labelling change nothing but the store. -/
def Contract.storing : Contract Failure World where
  rel w t := ∃ s, t = { w with store := s }
  fails _ := True
  refl w := ⟨w.store, rfl⟩
  trans := by
    rintro w t u ⟨s, rfl⟩ ⟨s', rfl⟩
    exact ⟨s', rfl⟩

theorem storing_resolving : Contract.storing.Resolving where
  store _ s := ⟨s, rfl⟩
  fault _ _ := trivial
  diagram _ := trivial

/-- The node that a label becomes in a box: centred between the edges, half the height below the top. -/
def IsLabel (label span : Value) (left right top height : Value) (v : Value) : Prop :=
  ∃ (n : Node) (u u' : World) (x y : Value), formatBoxLabel label span u = .ok n u' ∧
    (∃ s s', (do (← left.add right).div (.float 2) : StoreM Value) s = .ok x s') ∧
    (∃ s s', (do (← top.add (.int 1)).add (← height.div (.float 2)) : StoreM Value) s = .ok y s') ∧
    v = .node (n.mergeAttrs (Attrs.ofNames
      [("x", x), ("y", y), ("text-anchor", .str "middle")])).centerBaseline

def LabelNodes (label span : Value) (left right top height : Value) (nodes : List Value) : Prop :=
  match label with
  | .none => nodes = []
  | label => ∃ v, nodes = [v] ∧ IsLabel label span left right top height v

theorem of_placeLabel_ok {label span left right top height width : Value} {w t : World}
    (h : placeLabel label span left right top height width w = .ok () t) :
    ∃ v, IsLabel label span left right top height v ∧ t.layout = w.layout ∧
      t.scene = w.scene.push v := by
  unfold placeLabel at h
  obtain ⟨n, u, hn, h⟩ := Run.of_bind_ok h
  obtain ⟨⟨s, rfl⟩, -⟩ := (storing_resolving.keeps_formatBoxLabel label span).of_ok hn
  obtain ⟨x₁, u₁, hx₁, h⟩ := Run.of_bind_ok h
  obtain ⟨x, u₂, hx, h⟩ := Run.of_bind_ok h
  obtain ⟨y₁, u₃, hy₁, h⟩ := Run.of_bind_ok h
  obtain ⟨y₂, u₄, hy₂, h⟩ := Run.of_bind_ok h
  obtain ⟨y, u₅, hy, h⟩ := Run.of_bind_ok h
  obtain ⟨s₁, hsum, rfl⟩ := DrawM.of_ofStore_ok hx₁
  obtain ⟨s₂, hmiddle, rfl⟩ := DrawM.of_ofStore_ok hx
  obtain ⟨s₃, hbelow, rfl⟩ := DrawM.of_ofStore_ok hy₁
  obtain ⟨s₄, hhalf, rfl⟩ := DrawM.of_ofStore_ok hy₂
  obtain ⟨s₅, hheight, rfl⟩ := DrawM.of_ofStore_ok hy
  cases h
  refine ⟨_, ⟨n, w, _, x, y, hn, ⟨s, s₂, ?_⟩, ⟨s₂, s₅, ?_⟩, rfl⟩, rfl, rfl⟩
  · exact (Run.bind_ok hsum).trans hmiddle
  · exact (Run.bind_ok hbelow).trans ((Run.bind_ok hhalf).trans hheight)

theorem of_drawLabel_ok {label span left right top height width : Value} {w t : World}
    (h : drawLabel label span left right top height width w = .ok () t) :
    ∃ nodes, LabelNodes label span left right top height nodes ∧ t.layout = w.layout ∧
      t.scene = w.scene ++ nodes.toArray := by
  cases label with
  | none =>
    cases h
    exact ⟨[], rfl, rfl, by simp⟩
  | _ =>
    obtain ⟨v, hv, hlayout, hscene⟩ := of_placeLabel_ok h
    exact ⟨[v], ⟨v, rfl, hv⟩, hlayout, by simpa using hscene⟩

structure Layout.Whole (l : Layout) (margin width top column : Int) : Prop where
  leftMargin : l.leftMargin = .int margin
  boxWidth : l.boxWidth = .int width
  diagramY : l.diagramY = .int top
  boxIndex : l.boxIndex = .int column

theorem lift_pure {α : Type} (a : α) : (liftM (pure a : StoreM α) : DrawM α) = pure a := by
  funext ⟨store, layout, styles, scene, labels⟩
  rfl

/-- In whole numbers the edges of a box are known before anything is drawn. -/
theorem drawBoxOf_whole {label : Value} {options : Attrs} {w : World} {m b y i span height : Int}
    (hl : w.layout.Whole m b y i) (hspan : boxSpan options = .int span)
    (hheight : boxHeight w.layout options = .int height) :
    drawBoxOf label options w = (do
      drawFill (boxFill options) (.int (m + i * b)) (.int y) (.int (span * b)) (.int height)
      drawBorders (boxBorders options) (.int (m + i * b)) (.int (m + i * b + span * b)) (.int y)
        (.int (y + height))
      drawLabel label (.int span) (.int (m + i * b)) (.int (m + i * b + span * b)) (.int y)
        (.int height) (.int (span * b))
      DrawM.setField .boxIndex (.int (i + span)) : DrawM Unit) w := by
  have hlayout : DrawM.layout w = .ok w.layout w := rfl
  unfold drawBoxOf
  rw [Run.bind_ok hlayout]
  simp only [hl.leftMargin, hl.boxWidth, hl.diagramY, hl.boxIndex, hspan, hheight, Value.add_int,
    Value.mul_int, Value.addInto_int, lift_pure, pure_bind]

/-- A box in whole numbers: what it adds to the scene, and that the cursor moves on by its span. -/
theorem of_drawBoxOf_ok {label : Value} {options : Attrs} {w t : World} {m b y i span height : Int}
    {names : List String} (hl : w.layout.Whole m b y i) (hspan : boxSpan options = .int span)
    (hheight : boxHeight w.layout options = .int height)
    (hborders : Value.Names w.store (boxBorders options) names)
    (h : drawBoxOf label options w = .ok () t) :
    t.layout = w.layout.set .boxIndex (.int (i + span)) ∧
      ∃ filled nodes, (boxFill options).truth w.store = .ok filled w.store ∧
        LabelNodes label (.int span) (.int (m + i * b)) (.int (m + i * b + span * b)) (.int y)
          (.int height) nodes ∧
        t.scene = w.scene ++ ((if filled then [areaNode (.int (m + i * b)) (.int y) (.int (span * b))
            (.int height) (boxFill options)] else []) ++
          borderNodes names (.int (m + i * b)) (.int (m + i * b + span * b)) (.int y)
            (.int (y + height)) ++ nodes).toArray := by
  rw [drawBoxOf_whole hl hspan hheight] at h
  obtain ⟨_, u, hfill, h⟩ := Run.of_bind_ok h
  obtain ⟨filled, htruth, rfl⟩ := of_drawFill_ok hfill
  obtain ⟨_, u, hdrawn, h⟩ := Run.of_bind_ok h
  rw [run_drawBorders (w.shows _) _ _ _ _ hborders, World.shows_shows] at hdrawn
  cases hdrawn
  obtain ⟨_, u, hlabel, h⟩ := Run.of_bind_ok h
  obtain ⟨nodes, hnodes, hlayout, hscene⟩ := of_drawLabel_ok hlabel
  obtain ⟨store, layout, styles, scene, labels⟩ := u
  cases h
  refine ⟨congrArg (·.set .boxIndex (.int (i + span))) hlayout, filled, nodes, htruth, hnodes, ?_⟩
  exact hscene.trans (World.scene_shows_append w _ nodes)

end WireSketch
