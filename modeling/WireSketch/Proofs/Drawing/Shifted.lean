import WireSketch.Proofs.Drawing.Alike
import WireSketch.Proofs.Drawing.Box
import WireSketch.Proofs.Drawing.Leaves

/-! Drawing at another place: what a box, a gap and a line draw moves along with the margin and the cursor. -/
namespace WireSketch
open Contract

/-- Two integers, the second of which is larger by `n`. -/
def Value.ShiftedBy (n : Int) (v v' : Value) : Prop := ∃ k, v.asInt? = some k ∧ v'.asInt? = some (k + n)

def Value.Kept (v v' : Value) : Prop := v' = v ∧ v.asInt?.isSome

/-- How far the attribute of a name moves, if it is a coordinate. -/
def coordinateShift (d e : Int) : Value → Option Int
  | .str name =>
    if name ∈ ["x", "x1", "x2"] then some d
    else if name ∈ ["y", "y1", "y2"] then some e
    else none
  | _ => none

/-- Coordinates are moved, and all other attributes are the same. -/
def EntryShifted (d e : Int) (entry entry' : Value × Value) : Prop :=
  entry'.1 = entry.1 ∧
    match coordinateShift d e entry.1 with
    | some n => entry.2.ShiftedBy n entry'.2
    | none => entry'.2 = entry.2

structure Node.Shifted (d e : Int) (n n' : Node) : Prop where
  tag : n'.tag = n.tag
  attrs : List.Forall₂ (EntryShifted d e) n.attrs n'.attrs
  content : n'.content = n.content

/-- What the scene holds: a node, and the same node moved. -/
def Value.Shifted (d e : Int) (v v' : Value) : Prop := ∃ n n', v = .node n ∧ v' = .node n' ∧ n.Shifted d e n'

/-- Geometry in integers, with another margin and another cursor line. -/
structure Layout.Shifted (d e : Int) (l l' : Layout) : Prop where
  leftMargin : l.leftMargin.ShiftedBy d l'.leftMargin
  diagramY : l.diagramY.ShiftedBy e l'.diagramY
  others : ∀ f, f ≠ .leftMargin → f ≠ .diagramY → (l.get f).Kept (l'.get f)

def dottedAttrs : Attrs := Attrs.ofNames [("stroke-dasharray", .str "1,1")]

/-- The dotted style is the one that every drawing starts with. -/
inductive World.HasDotted (w : World) : Prop
  | own {distinct : dottedAttrs.IsMap} (h : Styles.find? "dotted" w.styles = some (.own dottedAttrs distinct))
  | shared {r : Ref} {d : Dict} (h : Styles.find? "dotted" w.styles = some (.shared r))
      (hr : w.store.cells[r]? = some (.dict d)) (hd : d.entries.toList = dottedAttrs)

/-- Two drawings of the same styles at two places: what each of them has added to its scene corresponds. -/
structure World.Shifted (d e : Int) (start start' : List Value) (w w' : World) : Prop where
  store : w'.store = w.store
  styles : w'.styles = w.styles
  layout : w.layout.Shifted d e w'.layout
  dotted : w.HasDotted
  scene : ∃ nodes nodes', w.scene.toList = start ++ nodes ∧ w'.scene.toList = start' ++ nodes' ∧
    List.Forall₂ (Value.Shifted d e) nodes nodes'

section Arithmetic

variable {R : World → World → Prop} {a a' b b' : Value} {n : Int}

/-- An operation that moves its result as far as its first operand is moved. -/
theorem paired_shifted {op : Value → Value → StoreM Value} {f : Int → Int → Int}
    (hop : ∀ {a b : Value} {k m : Int}, a.asInt? = some k → b.asInt? = some m → op a b = pure (.int (f k m)))
    (hf : ∀ k m, f (k + n) m = f k m + n) (ha : a.ShiftedBy n a') (hb : b.Kept b') :
    Paired R (Value.ShiftedBy n) (liftM (op a b) : DrawM Value) (liftM (op a' b')) := by
  obtain ⟨k, hk, hk'⟩ := ha
  obtain ⟨rfl, hint⟩ := hb
  obtain ⟨m, hm⟩ := Option.isSome_iff_exists.mp hint
  rw [hop hk hm, hop hk' hm, lift_pure, lift_pure]
  exact paired_pure ⟨f k m, rfl, congrArg some (hf k m)⟩

theorem paired_add (ha : a.ShiftedBy n a') (hb : b.Kept b') :
    Paired R (Value.ShiftedBy n) (liftM (a.add b) : DrawM Value) (liftM (a'.add b')) :=
  paired_shifted Value.add_of_asInt? (fun k m => by omega) ha hb

theorem paired_sub (ha : a.ShiftedBy n a') (hb : b.Kept b') :
    Paired R (Value.ShiftedBy n) (liftM (a.sub b) : DrawM Value) (liftM (a'.sub b')) :=
  paired_shifted Value.sub_of_asInt? (fun k m => by omega) ha hb

theorem paired_addInto (ha : a.ShiftedBy n a') (hb : b.Kept b') :
    Paired R (Value.ShiftedBy n) (liftM (a.addInto b) : DrawM Value) (liftM (a'.addInto b')) :=
  paired_shifted Value.addInto_of_asInt? (fun k m => by omega) ha hb

theorem paired_kept {op : Value → Value → StoreM Value} {f : Int → Int → Int}
    (hop : ∀ {a b : Value} {k m : Int}, a.asInt? = some k → b.asInt? = some m → op a b = pure (.int (f k m)))
    (ha : a.Kept a') (hb : b.Kept b') :
    Paired R Value.Kept (liftM (op a b) : DrawM Value) (liftM (op a' b')) := by
  obtain ⟨rfl, ha⟩ := ha
  obtain ⟨rfl, hb⟩ := hb
  obtain ⟨k, hk⟩ := Option.isSome_iff_exists.mp ha
  obtain ⟨m, hm⟩ := Option.isSome_iff_exists.mp hb
  rw [hop hk hm, lift_pure]
  exact paired_pure ⟨rfl, rfl⟩

theorem paired_mul (ha : a.Kept a') (hb : b.Kept b') :
    Paired R Value.Kept (liftM (a.mul b) : DrawM Value) (liftM (a'.mul b')) :=
  paired_kept Value.mul_of_asInt? ha hb

end Arithmetic

section Nodes

variable {d e : Int} {v v' : Value} {name : String}

theorem entryShifted_x (hname : name ∈ ["x", "x1", "x2"]) (h : v.ShiftedBy d v') :
    EntryShifted d e (.str name, v) (.str name, v') := by
  refine ⟨rfl, ?_⟩
  have hshift : coordinateShift d e (.str name) = some d := if_pos hname
  rw [hshift]
  exact h

theorem entryShifted_y (hname : name ∈ ["y", "y1", "y2"]) (h : v.ShiftedBy e v') :
    EntryShifted d e (.str name, v) (.str name, v') := by
  have hother : ∀ name ∈ ["y", "y1", "y2"], name ∉ ["x", "x1", "x2"] := by decide
  refine ⟨rfl, ?_⟩
  have hshift : coordinateShift d e (.str name) = some e := (if_neg (hother name hname)).trans (if_pos hname)
  rw [hshift]
  exact h

theorem entryShifted_other (hname : name ∉ ["x", "x1", "x2", "y", "y1", "y2"]) (v : Value) :
    EntryShifted d e (.str name, v) (.str name, v) := by
  refine ⟨rfl, ?_⟩
  have hshift : coordinateShift d e (.str name) = none := by
    simp only [List.mem_cons, List.not_mem_nil, or_false, not_or] at hname
    simp [coordinateShift, hname]
  rw [hshift]

theorem Node.Shifted.value {n n' : Node} (h : n.Shifted d e n') : Value.Shifted d e (.node n) (.node n') :=
  ⟨n, n', rfl, rfl, h⟩

def dottedNode (x1 y1 x2 y2 : Value) : Value :=
  .node (.mk (.str "line") (Attrs.ofNames [("stroke-dasharray", .str "1,1"), ("stroke", .str "#000000"),
    ("stroke-width", .int 1), ("x1", x1), ("y1", y1), ("x2", x2), ("y2", y2)]) [])

variable {x1 y1 x2 y2 x1' y1' x2' y2' : Value}

/-- The attributes of a line that stand for its two ends. -/
theorem endsShifted (hx1 : x1.ShiftedBy d x1') (hy1 : y1.ShiftedBy e y1') (hx2 : x2.ShiftedBy d x2')
    (hy2 : y2.ShiftedBy e y2') :
    List.Forall₂ (EntryShifted d e) (Attrs.ofNames [("x1", x1), ("y1", y1), ("x2", x2), ("y2", y2)])
      (Attrs.ofNames [("x1", x1'), ("y1", y1'), ("x2", x2'), ("y2", y2')]) :=
  .cons (entryShifted_x (by decide) hx1) (.cons (entryShifted_y (by decide) hy1)
    (.cons (entryShifted_x (by decide) hx2) (.cons (entryShifted_y (by decide) hy2) .nil)))

theorem shifted_lineNode (hx1 : x1.ShiftedBy d x1') (hy1 : y1.ShiftedBy e y1') (hx2 : x2.ShiftedBy d x2')
    (hy2 : y2.ShiftedBy e y2') : Value.Shifted d e (lineNode x1 y1 x2 y2) (lineNode x1' y1' x2' y2') :=
  Node.Shifted.value ⟨rfl, .cons (entryShifted_other (by decide) _) (.cons (entryShifted_other (by decide) _)
    (endsShifted hx1 hy1 hx2 hy2)), rfl⟩

theorem shifted_dottedNode (hx1 : x1.ShiftedBy d x1') (hy1 : y1.ShiftedBy e y1') (hx2 : x2.ShiftedBy d x2')
    (hy2 : y2.ShiftedBy e y2') : Value.Shifted d e (dottedNode x1 y1 x2 y2) (dottedNode x1' y1' x2' y2') :=
  Node.Shifted.value ⟨rfl, .cons (entryShifted_other (by decide) _) (.cons (entryShifted_other (by decide) _)
    (.cons (entryShifted_other (by decide) _) (endsShifted hx1 hy1 hx2 hy2))), rfl⟩

theorem shifted_areaNode {left left' top top' : Value} (hleft : left.ShiftedBy d left') (htop : top.ShiftedBy e top')
    (width height fill : Value) :
    Value.Shifted d e (areaNode left top width height fill) (areaNode left' top' width height fill) :=
  Node.Shifted.value ⟨rfl, .cons (entryShifted_x (by decide) hleft) (.cons (entryShifted_y (by decide) htop)
    (.cons (entryShifted_other (by decide) _) (.cons (entryShifted_other (by decide) _)
      (.cons (entryShifted_other (by decide) _) .nil)))), rfl⟩

end Nodes

namespace World

theorem HasDotted.onward {w : World} (h : w.HasDotted) {s : Store} (hs : w.store.Onward s) :
    HasDotted { w with store := s } := by
  cases h with
  | own h => exact .own h
  | shared h hr hd => exact .shared h (hs.cell hr nofun) hd

theorem HasDotted.congr {w w' : World} (h : w.HasDotted) (hstore : w'.store = w.store)
    (hstyles : w'.styles = w.styles) : w'.HasDotted := by
  cases h with
  | own h => exact .own (hstyles ▸ h)
  | shared h hr hd => exact .shared (hstyles ▸ h) (hstore ▸ hr) hd

theorem HasDotted.run_resolve {w : World} (h : w.HasDotted) :
    resolve (.named (.str "dotted")) w = .ok dottedAttrs w := by
  have hresolve {s : Style} (hs : Styles.find? "dotted" w.styles = some s) :
      resolve (.named (.str "dotted")) w = (liftM s.attrs : DrawM Attrs) w := by
    have hlookup : lookupStyle (.str "dotted") w = .ok s w := by
      rw [run_lookupStyle, hs]
    rw [resolve]
    exact Run.bind_ok hlookup
  cases h with
  | own h => exact hresolve h
  | @shared r d h hr hd =>
    have hentries : w.store.entries r = dottedAttrs := by
      unfold Store.entries
      rw [hr]
      exact hd
    exact (hresolve h).trans (hentries ▸ run_entriesOf r w)

theorem HasDotted.run_drawLine {w : World} (h : w.HasDotted) (x1 y1 x2 y2 : Value) :
    drawLine x1 y1 x2 y2 (return .named (.str "dotted")) w = DrawM.append (dottedNode x1 y1 x2 y2) w := by
  unfold drawLine
  rw [pure_bind, Run.bind_ok h.run_resolve]
  rfl

end World

namespace World.Shifted

variable {d e : Int} {start start' : List Value}

theorem sharesStyles : SharesStyles (World.Shifted d e start start') where
  store h := h.store
  styles h := h.styles
  heap _ h hs := ⟨rfl, h.styles, h.layout, h.dotted.onward hs, h.scene⟩

theorem paired_layout : Paired (World.Shifted d e start start') (Layout.Shifted d e) DrawM.layout DrawM.layout :=
  paired_get.bind fun _ _ h => paired_pure h.layout

theorem paired_append {v v' : Value} (hv : v.Shifted d e v') :
    Paired (World.Shifted d e start start') Eq (DrawM.append v) (DrawM.append v') := by
  intro w w' h
  obtain ⟨nodes, nodes', hscene, hscene', hnodes⟩ := h.scene
  refine .ok ⟨h.store, h.styles, h.layout, h.dotted.congr rfl rfl, nodes ++ [v], nodes' ++ [v'], ?_, ?_, ?_⟩ rfl
  · rw [Array.toList_push, hscene, List.append_assoc]
  · rw [Array.toList_push, hscene', List.append_assoc]
  · exact List.rel_append hnodes (.cons hv .nil)

theorem paired_setBoxIndex {v v' : Value} (hv : v.Kept v') :
    Paired (World.Shifted d e start start') Eq (DrawM.setField .boxIndex v) (DrawM.setField .boxIndex v') := by
  intro w w' h
  refine .ok ⟨h.store, h.styles, ⟨h.layout.leftMargin, h.layout.diagramY, fun f hm hy => ?_⟩,
    h.dotted.congr rfl rfl, h.scene⟩ rfl
  by_cases hf : f = .boxIndex
  · subst hf
    exact hv
  · have hset (l : Layout) (u : Value) : (l.set .boxIndex u).get f = l.get f := Layout.get_set_other l hf u
    rw [hset, hset]
    exact h.layout.others f hm hy

theorem paired_setDiagramY {v v' : Value} (hv : v.ShiftedBy e v') :
    Paired (World.Shifted d e start start') Eq (DrawM.setField .diagramY v) (DrawM.setField .diagramY v') := by
  intro w w' h
  refine .ok ⟨h.store, h.styles, ⟨h.layout.leftMargin, hv, fun f hm hy => ?_⟩, h.dotted.congr rfl rfl, h.scene⟩ rfl
  have hset (l : Layout) (u : Value) : (l.set .diagramY u).get f = l.get f := Layout.get_set_other l hy u
  rw [hset, hset]
  exact h.layout.others f hm hy

section Lines

variable {x1 y1 x2 y2 x1' y1' x2' y2' : Value}

theorem paired_drawPlainLine (hx1 : x1.ShiftedBy d x1') (hy1 : y1.ShiftedBy e y1') (hx2 : x2.ShiftedBy d x2')
    (hy2 : y2.ShiftedBy e y2') :
    Paired (World.Shifted d e start start') Eq (drawPlainLine x1 y1 x2 y2) (drawPlainLine x1' y1' x2' y2') :=
  paired_append (shifted_lineNode hx1 hy1 hx2 hy2)

theorem paired_dottedLine (hx1 : x1.ShiftedBy d x1') (hy1 : y1.ShiftedBy e y1') (hx2 : x2.ShiftedBy d x2')
    (hy2 : y2.ShiftedBy e y2') :
    Paired (World.Shifted d e start start') Eq (drawLine x1 y1 x2 y2 (return .named (.str "dotted")))
      (drawLine x1' y1' x2' y2' (return .named (.str "dotted"))) := by
  intro w w' h
  rw [h.dotted.run_drawLine, (h.dotted.congr h.store h.styles).run_drawLine]
  exact paired_append (shifted_dottedNode hx1 hy1 hx2 hy2) w w' h

end Lines

theorem paired_rowWidth : Paired (World.Shifted d e start start') Value.Kept rowWidth rowWidth :=
  paired_layout.bind fun _ _ hl => paired_mul (hl.others .boxWidth nofun nofun) (hl.others .boxesPerRow nofun nofun)

/-- The next row begins as far away as this one did. -/
theorem paired_nextRow {height : Value} (hheight : height = .none ∨ height.asInt?.isSome) :
    Alike (World.Shifted d e start start') (nextRow height) := by
  refine paired_layout.bind fun l l' hl => ?_
  have hstep : (rowStep l height).Kept (rowStep l' height) := by
    rcases hheight with rfl | hint
    · exact hl.others .rowHeight nofun nofun
    · cases height with
      | none => cases hint
      | _ => exact ⟨rfl, hint⟩
  exact (paired_addInto hl.diagramY hstep).bind fun y y' hy => (paired_setDiagramY hy).bind fun _ _ _ =>
    paired_setBoxIndex ⟨rfl, rfl⟩

theorem paired_drawBottom : Alike (World.Shifted d e start start') drawBottom :=
  paired_layout.bind fun _ _ hl => paired_rowWidth.bind fun _ _ hwidth =>
    (paired_add hl.leftMargin hwidth).bind fun _ _ hright =>
      paired_drawPlainLine hl.leftMargin hl.diagramY hright hl.diagramY

/-- All lines of a gap are moved, the dotted ones among them. -/
theorem paired_drawGap {height gap edge : Value} (hheight : height.asInt?.isSome) (hgap : gap.asInt?.isSome)
    (hedge : edge.asInt?.isSome) : Alike (World.Shifted d e start start') (drawGap height gap edge) := by
  have kept {v : Value} (hv : v.asInt?.isSome) : v.Kept v := ⟨rfl, hv⟩
  unfold drawGap
  refine paired_layout.bind fun l l' hl => ?_
  have hleft := hl.leftMargin
  have hy := hl.diagramY
  refine (paired_add hy (kept hedge)).bind fun top top' htop => ?_
  refine paired_rowWidth.bind fun width width' hwidth => ?_
  refine (paired_add hleft hwidth).bind fun right right' hright => ?_
  refine (paired_add hy (kept hheight)).bind fun below below' hbelow => ?_
  refine (paired_sub hbelow (kept hedge)).bind fun bottom bottom' hbottom => ?_
  refine (paired_drawPlainLine hleft hy hleft htop).bind fun _ _ _ => ?_
  refine (paired_drawPlainLine hright hy hright htop).bind fun _ _ _ => ?_
  refine (paired_sub hbottom (kept hgap)).bind fun low low' hlow => ?_
  refine (paired_dottedLine hleft htop hright hlow).bind fun _ _ _ => ?_
  refine (paired_sub hbottom (kept hgap)).bind fun low low' hlow => ?_
  refine (paired_drawPlainLine hright hy hright hlow).bind fun _ _ _ => ?_
  refine (paired_add htop (kept hgap)).bind fun high high' hhigh => ?_
  refine (paired_dottedLine hleft hhigh hright hbottom).bind fun _ _ _ => ?_
  refine (paired_add htop (kept hgap)).bind fun high high' hhigh => ?_
  refine (paired_drawPlainLine hleft hhigh hleft hbottom).bind fun _ _ _ => ?_
  refine (paired_add hy (kept hheight)).bind fun lowest lowest' hlowest => ?_
  refine (paired_drawPlainLine hleft hbottom hleft hlowest).bind fun _ _ _ => ?_
  refine (paired_add hy (kept hheight)).bind fun lowest lowest' hlowest => ?_
  refine (paired_drawPlainLine hright hbottom hright hlowest).bind fun _ _ _ => ?_
  refine paired_layout.bind fun l l' hl => ?_
  exact (paired_addInto hl.diagramY (kept hheight)).bind fun y y' hy => paired_setDiagramY hy

/-- The area and the borders of a box are drawn, or fail to be, alike. -/
theorem paired_drawFill {left left' top top' : Value} (fill : Value) (hleft : left.ShiftedBy d left')
    (htop : top.ShiftedBy e top') (width height : Value) :
    Paired (World.Shifted d e start start') Eq (drawFill fill left top width height)
      (drawFill fill left' top' width height) := by
  refine (sharesStyles.alike_ofStore fill.keeps_truth).bind fun filled => ?_
  cases filled with
  | true => exact paired_append (shifted_areaNode hleft htop width height fill)
  | false => exact paired_pure rfl

theorem paired_drawBorder (borders : Value) (name : String) {x1 y1 x2 y2 x1' y1' x2' y2' : Value}
    (hx1 : x1.ShiftedBy d x1') (hy1 : y1.ShiftedBy e y1') (hx2 : x2.ShiftedBy d x2') (hy2 : y2.ShiftedBy e y2') :
    Paired (World.Shifted d e start start') Eq (drawBorder borders name x1 y1 x2 y2)
      (drawBorder borders name x1' y1' x2' y2') := by
  refine (sharesStyles.alike_ofStore (Value.keeps_isMember _ borders)).bind fun named => ?_
  cases named with
  | true => exact paired_drawPlainLine hx1 hy1 hx2 hy2
  | false => exact paired_pure rfl

theorem paired_drawBorders (borders : Value) {left left' right right' top top' bottom bottom' : Value}
    (hleft : left.ShiftedBy d left') (hright : right.ShiftedBy d right') (htop : top.ShiftedBy e top')
    (hbottom : bottom.ShiftedBy e bottom') :
    Paired (World.Shifted d e start start') Eq (drawBorders borders left right top bottom)
      (drawBorders borders left' right' top' bottom') :=
  (paired_drawBorder borders "top" hleft htop hright htop).bind fun _ _ _ =>
    (paired_drawBorder borders "bottom" hleft hbottom hright hbottom).bind fun _ _ _ =>
      (paired_drawBorder borders "right" hright htop hright hbottom).bind fun _ _ _ =>
        paired_drawBorder borders "left" hleft htop hleft hbottom

end World.Shifted

/-- Resolved options give a box an integer span and, if any, an integer height. -/
structure Attrs.IsIntegral (options : Attrs) : Prop where
  span : (boxSpan options).asInt?.isSome
  height : ∀ h, options.find? "height" = some h → h.asInt?.isSome

theorem isIntegral_of_dict {r : Ref} {a options : Attrs} {w t : World} (ha : w.store.entries r = a)
    (h : a.IsIntegral) (hr : resolveValue (.dict r) w = .ok options t) : options.IsIntegral := by
  have hresolve : resolveValue (.dict r) w = (liftM (entriesOf (.dict r)) : DrawM Attrs) w := rfl
  rw [hresolve, run_entriesOf, ha] at hr
  cases hr
  exact h

namespace World.Shifted

variable {d e : Int} {start start' : List Value}

/-- A box without label is drawn around its moved edges, and the cursor goes on by its span. -/
theorem paired_drawBoxOf {options : Attrs} (hoptions : options.IsIntegral) :
    Alike (World.Shifted d e start start') (drawBoxOf .none options) := by
  unfold drawBoxOf
  refine paired_layout.bind fun l l' hl => ?_
  have hbox : l.boxWidth.Kept l'.boxWidth := hl.others .boxWidth nofun nofun
  have hindex : l.boxIndex.Kept l'.boxIndex := hl.others .boxIndex nofun nofun
  have hheight : (boxHeight l options).Kept (boxHeight l' options) := by
    unfold boxHeight
    cases hfound : options.find? "height" with
    | none => exact hl.others .rowHeight nofun nofun
    | some h => exact ⟨rfl, hoptions.height h hfound⟩
  have hspan : (boxSpan options).Kept (boxSpan options) := ⟨rfl, hoptions.span⟩
  refine (paired_mul hindex hbox).bind fun offset offset' hoffset => ?_
  refine (paired_add hl.leftMargin hoffset).bind fun left left' hleft => ?_
  refine (paired_mul hspan hbox).bind fun width width' hwidth => ?_
  refine (paired_add hleft hwidth).bind fun right right' hright => ?_
  refine (paired_add hl.diagramY hheight).bind fun bottom bottom' hbottom => ?_
  rw [hwidth.1, hheight.1]
  refine (paired_drawFill (boxFill options) hleft hl.diagramY _ _).bind fun _ _ _ => ?_
  refine (paired_drawBorders (boxBorders options) hleft hright hl.diagramY hbottom).bind fun _ _ _ => ?_
  refine (alike_pure ()).bind fun _ => ?_
  exact (paired_kept Value.addInto_of_asInt? hindex hspan).bind fun _ _ hnext => paired_setBoxIndex hnext

end World.Shifted
end WireSketch
