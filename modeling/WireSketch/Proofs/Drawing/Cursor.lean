import WireSketch.Proofs.Drawing.Frame

/-! The cursor of a drawing: each function that moves it draws first, and moves it last or not at all. -/
namespace WireSketch
open Contract

/-- The second world is the first one with an amount added to a field, as the layout `l` had it. -/
def World.Adds (l : Layout) (f : Field) (amount : Value) (u t : World) : Prop :=
  ∃ v s s', (l.get f).addInto amount s = .ok v s' ∧ t = { u with layout := u.layout.set f v }

/-- The next row of the layout `l`: the height is added and the column is zero again. -/
def World.EntersRow (l : Layout) (height : Value) (u t : World) : Prop :=
  ∃ v s s', l.diagramY.addInto height s = .ok v s' ∧
    t = { u with layout := (u.layout.set .diagramY v).set .boxIndex (.int 0) }

namespace Contract.Sketching

variable {C : Contract Failure World}

theorem yields_addInto (hC : C.Sketching) (a b : Value) :
    C.Yields (fun v => ∃ s s', a.addInto b s = .ok v s') (liftM (a.addInto b) : DrawM Value) := by
  refine .intro (fun w v t hr => ?_) fun w e t hr =>
    (hC.keeps_ofStore (Value.keeps_addInto a b)).of_error hr
  obtain ⟨s, hs, rfl⟩ := DrawM.of_ofStore_ok hr
  exact ⟨hC.store w s, w.store, s, hs⟩

/-- The last step of a function that moves the cursor: an addition, and the store of the sum. -/
theorem commits_adds (hC : C.Sketching) (l : Layout) (f : Field) (amount : Value) :
    C.Commits (World.Adds l f amount)
      (do DrawM.setField f (← ((l.get f).addInto amount : StoreM Value)) : DrawM Unit) := by
  refine (hC.yields_addInto _ _).commits fun v ⟨s, s', hv⟩ w => ?_
  exact ⟨w, C.refl w, v, s, s', hv, rfl⟩

/-- The sum is made before the layout is touched, so that the field is still as it was read. -/
theorem commitsAt_addField (hC : C.Sketching) (f : Field) (amount : Value) (w : World) :
    C.CommitsAt (fun u t => World.Adds u.layout f amount u t)
      (do DrawM.setField f (← ((w.layout.get f).addInto amount : StoreM Value)) : DrawM Unit) w := by
  refine .intro (fun a t hr => ?_) fun e t hr => ?_
  · obtain ⟨v, u, hv, hset⟩ := Run.of_bind_ok hr
    obtain ⟨s, hs, rfl⟩ := DrawM.of_ofStore_ok hv
    cases hset
    exact ⟨{ w with store := s }, hC.store w s, v, w.store, s, hs, rfl⟩
  · exact ((hC.commits_adds w.layout f amount) w).of_error hr

/-- The layout that a function reads first is that of the world it starts in. -/
theorem commitsAt_layout {P : Layout → World → World → Prop} {f : Layout → DrawM Unit}
    (h : ∀ l, C.Commits (P l) (f l)) (w : World) : C.CommitsAt (P w.layout) (DrawM.layout >>= f) w :=
  h w.layout w

theorem commitsAt_drawHeadersOf (hC : C.Sketching) (options : Attrs) (w : World) :
    C.CommitsAt (World.Adds w.layout .diagramY (headerHeight options)) (drawHeadersOf options) w := by
  refine commitsAt_layout (P := fun l => World.Adds l .diagramY (headerHeight options)) (fun l => ?_) w
  exact (hC.keeps_binary _ _ _).commits fun _ => (hC.keeps_binary _ _ _).commits fun _ =>
    (hC.keeps_ofExcept (Value.civil_toInt _)).commits fun _ =>
      (hC.keeps_drawHeaderLabels _ _ _ _ _).commits fun _ => hC.commits_adds l .diagramY (headerHeight options)

theorem commitsAt_nextRow (hC : C.Sketching) (height : Value) (w : World) :
    C.CommitsAt (World.EntersRow w.layout (rowStep w.layout height)) (nextRow height) w := by
  refine commitsAt_layout (P := fun l => World.EntersRow l (rowStep l height)) (fun l => ?_) w
  refine (hC.yields_addInto _ _).commits fun v ⟨s, s', hv⟩ u => ?_
  exact ⟨u, C.refl u, v, s, s', hv, rfl⟩

theorem commitsAt_drawGap (hC : C.Sketching) (height gap edge : Value) (w : World) :
    C.CommitsAt (fun u t => World.Adds u.layout .diagramY height u t) (drawGap height gap edge) w := by
  have dotted : C.Yields (Spec.Allowed C) (return .named (.str "dotted") : DrawM Spec) :=
    yields_pure (.named _)
  have moved : C.Commits (fun u t => World.Adds u.layout .diagramY height u t) (do
      DrawM.setField .diagramY (← (← DrawM.layout).diagramY.addInto height)) :=
    hC.commitsAt_addField .diagramY height
  refine commitsAt_layout (P := fun _ u t => World.Adds u.layout .diagramY height u t) (fun l => ?_) w
  exact (hC.keeps_binary _ _ _).commits fun _ => hC.keeps_rowWidth.commits fun _ =>
    (hC.keeps_binary _ _ _).commits fun _ => (hC.keeps_binary _ _ _).commits fun _ =>
    (hC.keeps_binary _ _ _).commits fun _ => (hC.keeps_drawPlainLine _ _ _ _).commits fun _ =>
    (hC.keeps_drawPlainLine _ _ _ _).commits fun _ => (hC.keeps_binary _ _ _).commits fun _ =>
    (hC.keeps_drawLine _ _ _ _ dotted).commits fun _ => (hC.keeps_binary _ _ _).commits fun _ =>
    (hC.keeps_drawPlainLine _ _ _ _).commits fun _ => (hC.keeps_binary _ _ _).commits fun _ =>
    (hC.keeps_drawLine _ _ _ _ dotted).commits fun _ => (hC.keeps_binary _ _ _).commits fun _ =>
    (hC.keeps_drawPlainLine _ _ _ _).commits fun _ => (hC.keeps_binary _ _ _).commits fun _ =>
    (hC.keeps_drawPlainLine _ _ _ _).commits fun _ => (hC.keeps_binary _ _ _).commits fun _ =>
    (hC.keeps_drawPlainLine _ _ _ _).commits fun _ => moved

end Contract.Sketching

theorem Contract.Showing.commitsAt_drawBoxOf {C : Contract Failure World} (hC : C.Showing) (label : Value)
    (options : Attrs) (w : World) :
    C.CommitsAt (World.Adds w.layout .boxIndex (boxSpan options)) (drawBoxOf label options) w := by
  refine Sketching.commitsAt_layout (P := fun l => World.Adds l .boxIndex (boxSpan options)) (fun l => ?_) w
  exact (hC.keeps_binary _ _ _).commits fun _ => (hC.keeps_binary _ _ _).commits fun _ =>
    (hC.keeps_binary _ _ _).commits fun _ => (hC.keeps_binary _ _ _).commits fun _ =>
      (hC.keeps_binary _ _ _).commits fun _ => (hC.keeps_drawFill _ _ _ _ _).commits fun _ =>
        (hC.keeps_drawBorders _ _ _ _ _).commits fun _ =>
          (hC.keeps_drawLabel _ _ _ _ _ _ _).commits fun _ =>
            hC.commits_adds l .boxIndex (boxSpan options)

end WireSketch
