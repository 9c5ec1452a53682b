import WireSketch.Proofs.Drawing.Resolve
import WireSketch.Diagram.Draw

/-! Drawing functions under a contract that lets them draw: the scene and its labels may grow. -/
namespace WireSketch
open Contract

structure Contract.Sketching (C : Contract Failure World) : Prop extends C.Resolving where
  scene : ∀ w v, C.rel w { w with scene := w.scene.push v }

/-- The contract also allows more nodes and labels. -/
structure Contract.Showing (C : Contract Failure World) : Prop extends C.Sketching where
  labels : ∀ w p, C.rel w { w with labels := w.labels.push p }

structure Contract.Drawing (C : Contract Failure World) : Prop extends C.Showing where
  styles : ∀ w ss, C.rel w { w with styles := ss }

/-- A box is drawn under the attributes that its specification resolves to. -/
theorem drawBox_ofValue (label spec : Value) :
    drawBox label (Spec.ofValue spec) = resolveValue spec >>= drawBoxOf label := by
  unfold drawBox resolveValue
  rw [bind_assoc]

namespace Contract.Resolving

variable {C : Contract Failure World}

theorem keeps_rowWidth (hC : C.Resolving) : C.Keeps rowWidth :=
  keeps_layout.bind fun _ => hC.keeps_binary _ _ _

theorem keeps_diagramWidth (hC : C.Resolving) : C.Keeps diagramWidth :=
  keeps_layout.bind fun _ => (hC.keeps_binary _ _ _).bind fun _ => hC.keeps_rowWidth.bind fun _ =>
    hC.keeps_binary _ _ _

theorem keeps_diagramHeight (hC : C.Resolving) : C.Keeps diagramHeight :=
  keeps_layout.bind fun _ => hC.keeps_binary _ _ _

end Contract.Resolving

namespace Contract.Sketching
open Contract.Resolving (keeps_layout)

variable {C : Contract Failure World}

theorem keeps_append (hC : C.Sketching) (v : Value) : C.Keeps (DrawM.append v) :=
  fun w => ⟨hC.scene w v, trivial⟩

theorem keeps_styleName (hC : C.Sketching) (key : Value) : C.Keeps (styleName key) := by
  unfold styleName
  split
  · split
    · exact keeps_pure _
    · exact hC.yields_refuseShown (Value.keeps_shown _) _
  · exact hC.yields_refuseShown (Value.keeps_shown _) _

theorem keeps_drawLine (hC : C.Sketching) (x1 y1 x2 y2 : Value) {spec : DrawM Spec}
    (h : C.Yields (Spec.Allowed C) spec) : C.Keeps (drawLine x1 y1 x2 y2 spec) := by
  unfold drawLine
  exact h.bind fun s hs => (hC.keeps_resolve s hs).bind fun _ => hC.keeps_append _

theorem keeps_drawPlainLine (hC : C.Sketching) (x1 y1 x2 y2 : Value) :
    C.Keeps (drawPlainLine x1 y1 x2 y2) := hC.keeps_drawLine x1 y1 x2 y2 (yields_pure .empty)

theorem keeps_drawBorder (hC : C.Sketching) (borders : Value) (name : String) (x1 y1 x2 y2 : Value) :
    C.Keeps (drawBorder borders name x1 y1 x2 y2) := by
  unfold drawBorder
  refine (hC.keeps_ofStore (Value.keeps_isMember _ borders)).bind fun named => ?_
  split
  · exact hC.keeps_drawPlainLine _ _ _ _
  · exact keeps_pure _

theorem keeps_drawBorders (hC : C.Sketching) (borders left right top bottom : Value) :
    C.Keeps (drawBorders borders left right top bottom) := by
  unfold drawBorders
  exact (hC.keeps_drawBorder _ _ _ _ _ _).bind fun _ => (hC.keeps_drawBorder _ _ _ _ _ _).bind fun _ =>
    (hC.keeps_drawBorder _ _ _ _ _ _).bind fun _ => hC.keeps_drawBorder _ _ _ _ _ _

theorem keeps_drawFill (hC : C.Sketching) (fill left top width height : Value) :
    C.Keeps (drawFill fill left top width height) := by
  unfold drawFill
  refine (hC.keeps_ofStore (Value.keeps_truth fill)).bind fun filled => ?_
  split
  · exact hC.keeps_append _
  · exact keeps_pure _

theorem keeps_drawBottom (hC : C.Sketching) : C.Keeps drawBottom := by
  unfold drawBottom
  exact keeps_layout.bind fun _ => hC.keeps_rowWidth.bind fun _ => (hC.keeps_binary _ _ _).bind fun _ =>
    hC.keeps_drawPlainLine _ _ _ _

theorem keeps_missingLabel (hC : C.Sketching) (labels : Value) (i : Nat) (perRow : Value) :
    C.Keeps (missingLabel labels i perRow) := by
  unfold missingLabel
  refine (hC.keeps_ofStore (Value.keeps_length? labels)).bind fun n => ?_
  cases n with
  | none => exact yields_throw (hC.fault _ rfl)
  | some n => exact (hC.keeps_ofStore (Value.keeps_plain perRow)).bind fun _ => hC.yields_refuse _

theorem keeps_headerLabel (hC : C.Sketching) (labels : Value) (i : Nat) (perRow : Value) :
    C.Keeps (headerLabel labels i perRow) := by
  have read : C.Keeps (liftM (labels.subscript (.int i) Value.shown) : DrawM Value) :=
    hC.keeps_ofStore (Value.keeps_subscript labels _)
  intro w
  unfold headerLabel
  dsimp only
  cases hr : (liftM (labels.subscript (.int i) Value.shown) : DrawM Value) w with
  | ok v t => exact read.of_ok hr
  | error e t =>
    obtain ⟨hwt, he⟩ := read.of_error hr
    cases e with
    | fault f =>
      dsimp only
      by_cases hf : f.faultClass = .index
      · rw [if_pos hf]; exact (hC.keeps_missingLabel labels i perRow).after hwt
      · rw [if_neg hf]; exact ⟨hwt, he⟩
    | diagram e => exact ⟨hwt, he⟩
    | script e => exact ⟨hwt, he⟩

theorem keeps_drawHeaderLabels (hC : C.Sketching) (labels y : Value) (options : Attrs) :
    (count i : Nat) → C.Keeps (drawHeaderLabels labels y options i count)
  | 0, _ => keeps_pure _
  | count + 1, i => by
    unfold drawHeaderLabels
    exact keeps_layout.bind fun _ => (hC.keeps_headerLabel _ _ _).bind fun _ =>
      (hC.keeps_binary _ _ _).bind fun _ => (hC.keeps_binary _ _ _).bind fun _ =>
        (hC.keeps_binary _ _ _).bind fun _ =>
          (hC.keeps_ofStore (Node.keeps_contentItem _)).bind fun _ => (hC.keeps_append _).bind fun _ =>
            hC.keeps_drawHeaderLabels labels y options count (i + 1)

theorem keeps_drawRowHeader (hC : C.Sketching) (label spec : Value) :
    C.Keeps (drawRowHeader label spec) := by
  unfold drawRowHeader
  refine (hC.keeps_resolveValue spec).bind fun _ => keeps_layout.bind fun _ =>
    (hC.keeps_binary _ _ _).bind fun _ => (hC.keeps_binary _ _ _).bind fun _ =>
      (hC.keeps_binary _ _ _).bind fun _ => ?_
  split
  · exact hC.keeps_append _
  · exact (hC.keeps_ofStore (Node.keeps_contentItem _)).bind fun _ => hC.keeps_append _

end Contract.Sketching

namespace Contract.Showing

variable {C : Contract Failure World}

theorem keeps_place (hC : C.Showing) (p : PlacedLabel) : C.Keeps (DrawM.place p) :=
  fun w => ⟨hC.labels w p, trivial⟩

theorem keeps_placeLabel (hC : C.Showing) (label span left right top height width : Value) :
    C.Keeps (placeLabel label span left right top height width) := by
  unfold placeLabel
  exact (hC.keeps_formatBoxLabel label span).bind fun _ => (hC.keeps_binary _ _ _).bind fun _ =>
    (hC.keeps_binary _ _ _).bind fun _ => (hC.keeps_binary _ _ _).bind fun _ =>
      (hC.keeps_binary _ _ _).bind fun _ => (hC.keeps_binary _ _ _).bind fun _ =>
        (hC.keeps_append _).bind fun _ => hC.keeps_place _

theorem keeps_drawLabel (hC : C.Showing) (label span left right top height width : Value) :
    C.Keeps (drawLabel label span left right top height width) := by
  unfold drawLabel
  split
  · exact keeps_pure _
  · exact hC.keeps_placeLabel _ _ _ _ _ _ _

end Contract.Showing

theorem Contract.Sketching.keeps_registerAttrs {C : Contract Failure World} (hC : C.Sketching)
    (hstyles : ∀ w ss, C.rel w { w with styles := ss }) (key map : Value) :
    C.Keeps (registerAttrs key map) := by
  unfold registerAttrs
  refine (hC.keeps_styleName key).bind fun name => ?_
  split
  · exact fun w => ⟨hstyles w _, trivial⟩
  · exact hC.yields_refuseShown (Value.keeps_shown _) _

end WireSketch
