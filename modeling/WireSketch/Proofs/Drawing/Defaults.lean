import WireSketch.Proofs.Drawing.Registry
import WireSketch.Proofs.Program.Point
import WireSketch.Diagram.Draw

/-!
Drawing functions that look up styles of their own find them in every drawing that still has the styles it
started with, whatever is registered under their names now.
-/
namespace WireSketch
open Contract

/-- Every style that a drawing starts with has a style under its name. -/
def World.HasDefaults (w : World) : Prop := ∀ name ∈ Styles.names defaultStyles, name ∈ Styles.names w.styles

def Contract.styled : Contract Failure World where
  rel w t := t.styles = w.styles
  fails _ := True
  refl _ := rfl
  trans hst htu := htu.trans hst

/-- The styles stay as they are, and none is missing. -/
def Contract.finding : Contract Failure World :=
  { styled with fails := fun e => ∀ key, e ≠ .diagram (.unknownStyle key) }

/-- In a drawing with the default styles, the program finds every style that it looks up. -/
def Finds {α : Type} (x : DrawM α) : Prop := ∀ w : World, w.HasDefaults → finding.YieldsAt (fun _ => True) x w

section Finds

variable {α β : Type}

theorem finds_of_keeps {x : DrawM α} (hx : finding.Keeps x) : Finds x := fun w _ => hx.from w

theorem finds_pure (a : α) : Finds (pure a : DrawM α) := finds_of_keeps (keeps_pure a)

theorem Finds.bind {x : DrawM α} {f : α → DrawM β} (hx : Finds x) (hf : ∀ a, Finds (f a)) :
    Finds (x >>= f) := by
  intro w hw
  refine (hx w hw).bind fun a t ht _ => hf a t ?_
  unfold World.HasDefaults
  rw [show t.styles = w.styles from ht]
  exact hw

theorem finds_ofStore (x : StoreM α) : Finds (liftM x : DrawM α) :=
  finds_of_keeps (keeps_anyStore (C := finding) (fun _ _ => rfl) (fun _ => nofun) x)

theorem finds_ofExcept (x : Except Fault α) : Finds (liftM x : DrawM α) :=
  finds_of_keeps (keeps_anyExcept (C := finding) (fun _ => nofun) x)

theorem finds_refuse {e : DiagramError} (he : ∀ key, e ≠ .unknownStyle key) :
    Finds (DrawM.refuse e : DrawM α) :=
  finds_of_keeps (yields_throw fun key h => he key (Failure.diagram.inj h))

theorem finds_layout : Finds DrawM.layout := finds_of_keeps fun _ => ⟨rfl, trivial⟩

theorem finds_setField (f : Field) (v : Value) : Finds (DrawM.setField f v) :=
  finds_of_keeps fun _ => ⟨rfl, trivial⟩

theorem finds_append (v : Value) : Finds (DrawM.append v) := finds_of_keeps fun _ => ⟨rfl, trivial⟩

theorem finds_place (p : PlacedLabel) : Finds (DrawM.place p) := finds_of_keeps fun _ => ⟨rfl, trivial⟩

end Finds

inductive Spec.OfDefaults : Spec → Prop
  | empty : OfDefaults .empty
  | own (a : Attrs) (h : a.IsMap) : OfDefaults (.own a h)
  | named {name : String} (h : name ∈ Styles.names defaultStyles) : OfDefaults (.named (.str name))
  | composite {parts : List Spec} (h : ∀ s ∈ parts, OfDefaults s) : OfDefaults (.composite parts)

/-- A default style with a specification after it. -/
theorem Spec.OfDefaults.styled {name : String} (h : name ∈ Styles.names defaultStyles) {own : Spec}
    (hown : own.OfDefaults) : (Spec.composite [.named (.str name), own]).OfDefaults :=
  .composite (List.forall_mem_cons.mpr ⟨.named h, List.forall_mem_singleton.mpr hown⟩)

section Lookup

theorem finds_lookupStyle {name : String} (h : name ∈ Styles.names defaultStyles) :
    Finds (lookupStyle (.str name)) := by
  intro w hw
  have hfound : (Styles.find? name w.styles).isSome = true :=
    (Styles.isSome_find? name w.styles).mpr (hw name h)
  obtain ⟨s, hs⟩ := Option.isSome_iff_exists.mp hfound
  have hrun := run_lookupStyle name w
  rw [hs] at hrun
  unfold YieldsAt
  rw [hrun]
  exact ⟨rfl, trivial⟩

mutual

theorem finds_resolve : (s : Spec) → s.OfDefaults → Finds (resolve s)
  | .empty, _ => finds_pure _
  | .own _ _, _ => finds_pure _
  | .direct m, _ => finds_ofStore (entriesOf m)
  | .named k, h => by
    cases h with
    | named h => exact (finds_lookupStyle h).bind fun s => finds_ofStore s.attrs
  | .composite parts, h => finds_resolveAll parts (by cases h with | composite h => exact h) []
  | .refused _, h => by cases h

theorem finds_resolveAll : (parts : List Spec) → (∀ s ∈ parts, s.OfDefaults) → (a : Attrs) →
    Finds (resolveAll parts a)
  | [], _, _ => finds_pure _
  | s :: rest, h, a => by
    obtain ⟨hs, hrest⟩ := List.forall_mem_cons.mp h
    exact (finds_resolve s hs).bind fun b => finds_resolveAll rest hrest (a.merge b)

end

theorem finds_buildLabel (label : Value) {s : Spec} (hs : s.OfDefaults) :
    Finds (buildLabel label (return s) []) := by
  have hexpand : Finds (expand []) := finds_pure []
  exact (finds_resolve s hs).bind fun _ => (finds_ofStore label.plain).bind fun _ => hexpand.bind fun _ =>
    finds_pure _

theorem finds_hexLabel (n digits : Value) {s : Spec} (hs : s.OfDefaults) :
    Finds (hexLabel n digits (return s)) := by
  have hstyled : (Spec.composite [.named (.str "hex"), s]).OfDefaults := .styled (by decide) hs
  have written : Finds (do
      let n ← (n.toInt : Except Fault Value)
      let digits ← (← (digits.toInt : Except Fault Value)).plain
      let text ← n.format ("0" ++ digits ++ "x")
      buildLabel (.str text) (return .composite [.named (.str "hex"), s]) [] : DrawM Node) :=
    (finds_ofExcept n.toInt).bind fun _ => (finds_ofExcept digits.toInt).bind fun _ =>
      (finds_ofStore _).bind fun _ => (finds_ofStore _).bind fun _ => finds_buildLabel _ hstyled
  unfold hexLabel
  split
  · refine (finds_ofStore n.shown).bind fun text => Finds.bind ?_ fun _ => written
    exact finds_refuse nofun
  · exact written

theorem finds_formatBoxLabel (label span : Value) : Finds (formatBoxLabel label span) := by
  unfold formatBoxLabel
  split
  · exact (finds_ofStore _).bind fun _ => (finds_ofExcept _).bind fun _ =>
      finds_hexLabel _ _ (.named (by decide))
  · split
    · exact finds_pure _
    · exact finds_buildLabel _ (.named (by decide))
    · exact (finds_ofStore _).bind fun _ => finds_refuse nofun

end Lookup

section Draw

theorem finds_drawLine (x1 y1 x2 y2 : Value) {s : Spec} (hs : s.OfDefaults) :
    Finds (drawLine x1 y1 x2 y2 (return s)) := (finds_resolve s hs).bind fun _ => finds_append _

theorem finds_drawPlainLine (x1 y1 x2 y2 : Value) : Finds (drawPlainLine x1 y1 x2 y2) :=
  finds_drawLine x1 y1 x2 y2 .empty

theorem finds_drawFill (fill left top width height : Value) :
    Finds (drawFill fill left top width height) := by
  unfold drawFill
  refine (finds_ofStore fill.truth).bind fun filled => ?_
  split
  · exact finds_append _
  · exact finds_pure _

theorem finds_drawBorder (borders : Value) (name : String) (x1 y1 x2 y2 : Value) :
    Finds (drawBorder borders name x1 y1 x2 y2) := by
  unfold drawBorder
  refine (finds_ofStore (Value.isMember (.str name) borders)).bind fun named => ?_
  split
  · exact finds_drawPlainLine x1 y1 x2 y2
  · exact finds_pure _

theorem finds_drawBorders (borders left right top bottom : Value) :
    Finds (drawBorders borders left right top bottom) :=
  (finds_drawBorder _ _ _ _ _ _).bind fun _ => (finds_drawBorder _ _ _ _ _ _).bind fun _ =>
    (finds_drawBorder _ _ _ _ _ _).bind fun _ => finds_drawBorder _ _ _ _ _ _

theorem finds_drawLabel (label span left right top height width : Value) :
    Finds (drawLabel label span left right top height width) := by
  unfold drawLabel
  split
  · exact finds_pure _
  · exact (finds_formatBoxLabel label span).bind fun _ => (finds_ofStore _).bind fun _ =>
      (finds_ofStore _).bind fun _ => (finds_ofStore _).bind fun _ => (finds_ofStore _).bind fun _ =>
        (finds_ofStore _).bind fun _ => (finds_append _).bind fun _ => finds_place _

theorem finds_drawBoxOf (label : Value) (options : Attrs) : Finds (drawBoxOf label options) :=
  finds_layout.bind fun _ => (finds_ofStore _).bind fun _ => (finds_ofStore _).bind fun _ =>
    (finds_ofStore _).bind fun _ => (finds_ofStore _).bind fun _ => (finds_ofStore _).bind fun _ =>
      (finds_drawFill _ _ _ _ _).bind fun _ => (finds_drawBorders _ _ _ _ _).bind fun _ =>
        (finds_drawLabel _ _ _ _ _ _ _).bind fun _ => (finds_ofStore _).bind fun _ => finds_setField _ _

theorem finds_drawBox (label : Value) {s : Spec} (hs : s.OfDefaults) : Finds (drawBox label (return s)) :=
  (finds_resolve s hs).bind fun options => finds_drawBoxOf label options

theorem finds_drawGroupLabelHeader (span label : Value) : Finds (drawGroupLabelHeader span label) :=
  (finds_buildLabel label (.styled (by decide) (.own _ _))).bind fun n => finds_drawBox (.node n) (.own _ _)

theorem finds_rowWidth : Finds rowWidth := finds_layout.bind fun _ => finds_ofStore _

theorem finds_drawGap (height gap edge : Value) : Finds (drawGap height gap edge) := by
  have dotted : (Spec.named (.str "dotted")).OfDefaults := .named (by decide)
  exact finds_layout.bind fun _ => (finds_ofStore _).bind fun _ => finds_rowWidth.bind fun _ =>
    (finds_ofStore _).bind fun _ => (finds_ofStore _).bind fun _ => (finds_ofStore _).bind fun _ =>
    (finds_drawPlainLine _ _ _ _).bind fun _ => (finds_drawPlainLine _ _ _ _).bind fun _ =>
    (finds_ofStore _).bind fun _ => (finds_drawLine _ _ _ _ dotted).bind fun _ =>
    (finds_ofStore _).bind fun _ => (finds_drawPlainLine _ _ _ _).bind fun _ =>
    (finds_ofStore _).bind fun _ => (finds_drawLine _ _ _ _ dotted).bind fun _ =>
    (finds_ofStore _).bind fun _ => (finds_drawPlainLine _ _ _ _).bind fun _ =>
    (finds_ofStore _).bind fun _ => (finds_drawPlainLine _ _ _ _).bind fun _ =>
    (finds_ofStore _).bind fun _ => (finds_drawPlainLine _ _ _ _).bind fun _ =>
    finds_layout.bind fun _ => (finds_ofStore _).bind fun _ => finds_setField _ _

end Draw
end WireSketch
