import WireSketch.Proofs.Drawing.Box

/-! The labels of boxes: a box with a label records the node that it draws last, with its own width. -/
namespace WireSketch
open Contract

/-- Drawing that records no label: it does nothing to the scene but to add nodes. -/
def Contract.unlabelled : Contract Failure World where
  rel w t := t.labels = w.labels ∧ w.scene.toList <+: t.scene.toList
  fails _ := True
  refl _ := ⟨rfl, List.prefix_rfl⟩
  trans hst htu := ⟨htu.1.trans hst.1, hst.2.trans htu.2⟩

theorem unlabelled_sketching : Contract.unlabelled.Sketching where
  store _ _ := ⟨rfl, List.prefix_rfl⟩
  scene _ v := ⟨rfl, [v], (Array.toList_push ..).symm⟩
  fault _ _ := trivial
  diagram _ := trivial

/-- One more node is drawn, and recorded as a label with the width of its box. -/
def World.Records (width : Value) (u t : World) : Prop :=
  ∃ n, t.scene = u.scene.push (.node n) ∧ t.labels = u.labels.push ⟨n, width⟩

/-- A box records its label if it has one. -/
def World.RecordsLabel (label width : Value) (u t : World) : Prop :=
  match label with
  | .none => t.labels = u.labels
  | _ => Records width u t

section Box

variable {label span left right top height width : Value} {f : Field} {v : Value}

/-- The label is recorded once nothing can fail any more. -/
theorem commits_placeLabel : unlabelled.Commits (World.Records width)
    (do placeLabel label span left right top height width; DrawM.setField f v) := by
  have hC := unlabelled_sketching
  have placed (n : Node) : unlabelled.Commits (World.Records width)
      (do DrawM.append (.node n); DrawM.place ⟨n, width⟩; DrawM.setField f v) :=
    fun w => ⟨w, unlabelled.refl w, n, rfl, rfl⟩
  unfold placeLabel
  simp only [bind_assoc]
  exact (hC.keeps_formatBoxLabel label span).commits fun _ => (hC.keeps_binary _ _ _).commits fun _ =>
    (hC.keeps_binary _ _ _).commits fun _ => (hC.keeps_binary _ _ _).commits fun _ =>
      (hC.keeps_binary _ _ _).commits fun _ => (hC.keeps_binary _ _ _).commits fun _ => placed _

theorem commits_drawLabel (label : Value) : unlabelled.Commits (World.RecordsLabel label width)
    (do drawLabel label span left right top height width; DrawM.setField f v) := by
  cases label with
  | none => exact fun w => ⟨w, unlabelled.refl w, rfl⟩
  | _ => exact commits_placeLabel

/-- In whole columns, a box that is drawn records its label, and one that fails records nothing. -/
theorem commitsAt_drawBoxOf_label {options : Attrs} {w : World} {columns column columnWidth : Int}
    (label : Value) (hspan : (boxSpan options).asInt? = some columns)
    (hindex : w.layout.boxIndex.asInt? = some column)
    (hwidth : w.layout.boxWidth.asInt? = some columnWidth) :
    unlabelled.CommitsAt (World.RecordsLabel label (.int (columns * columnWidth))) (drawBoxOf label options)
      w := by
  have hC := unlabelled_sketching
  have atLayout {P : World → World → Prop} {g : Layout → DrawM Unit}
      (h : unlabelled.Commits P (g w.layout)) : unlabelled.CommitsAt P (DrawM.layout >>= g) w := h w
  refine atLayout ?_
  simp only [Value.mul_of_asInt? hspan hwidth, Value.addInto_of_asInt? hindex hspan, lift_pure, pure_bind]
  exact (hC.keeps_binary _ _ _).commits fun _ => (hC.keeps_binary _ _ _).commits fun _ =>
    (hC.keeps_binary _ _ _).commits fun _ => (hC.keeps_binary _ _ _).commits fun _ =>
      (hC.keeps_drawFill _ _ _ _ _).commits fun _ => (hC.keeps_drawBorders _ _ _ _ _).commits fun _ =>
        commits_drawLabel label

end Box
end WireSketch
