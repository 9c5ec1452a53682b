import WireSketch.Call.Library
import WireSketch.Proofs.Call.Frame

/-! Functions of the library that act on no diagram, under a contract that allows every fault. -/
namespace WireSketch
open Contract

namespace Contract.Resolving

variable {C : Contract Failure World}

section Faults

variable (hC : C.Resolving) (hfault : ∀ f, C.fails (.fault f))
include hC hfault

theorem keeps_sceneMarkup (v : Value) : C.Keeps (sceneMarkup v) :=
  (keeps_toNode fun _ => hfault _).bind fun _ => keeps_anyStore hC.store hfault _

theorem keeps_document (width height : Value) (body : List Value) : C.Keeps (document width height body) :=
  (keeps_anyExcept hfault _).bind fun _ => (keeps_anyExcept hfault _).bind fun _ =>
    (keeps_mapM (hC.keeps_sceneMarkup hfault) body).bind fun _ => (keeps_anyExcept hfault _).bind fun _ =>
      keeps_pure _

theorem keeps_emit : C.Keeps emit :=
  hC.keeps_diagramWidth.bind fun _ => hC.keeps_diagramHeight.bind fun _ => keeps_get.bind fun _ =>
    hC.keeps_document hfault _ _ _

theorem keeps_taggedIn : (fuel : Nat) → (v : Value) → C.Keeps (Spec.taggedIn fuel v)
  | 0, _ => yields_throw (hfault _)
  | fuel + 1, v => by
    have parts (xs : Array Value) := keeps_arrayMapM (C := C) (keeps_taggedIn fuel) xs
    unfold Spec.taggedIn
    split <;> try exact keeps_pure _
    · exact (parts _).bind fun _ => keeps_pure _
    · exact (keeps_anyStore hC.store hfault _).bind fun xs => (parts xs).bind fun _ => keeps_pure _
    · exact (keeps_anyStore hC.store hfault _).bind fun _ => yields_throw (hC.diagram _)

/-- The functions that are no drawing functions and set no field of the geometry. -/
theorem keeps_library {f : LibraryFunction} (hf : ∀ p, f ≠ .primitive p) (hset : f ≠ .setField) (b : Bound) :
    C.Keeps (f.perform b) := by
  have store {α : Type} (x : StoreM α) : C.Keeps (liftM x : DrawM α) := keeps_anyStore hC.store hfault x
  have except {α : Type} (x : Except Fault α) : C.Keeps (liftM x : DrawM α) := keeps_anyExcept hfault x
  have node (v : Value) (part : String) : C.Keeps (v.toNode part) := keeps_toNode fun _ => hfault _
  unfold LibraryFunction.perform
  split
  · exact absurd rfl (hf _)
  · exact (hC.keeps_resolveValue _).bind fun _ => (except _).bind fun _ => store _
  · exact (hC.keeps_emit hfault).bind fun _ => keeps_pure _
  · exact hC.keeps_diagramWidth
  · exact hC.keeps_diagramHeight
  · exact absurd rfl hset
  · exact store _
  · exact (except _).bind fun _ => (except _).bind fun _ => (store _).bind fun _ =>
      (hC.keeps_document hfault _ _ _).bind fun _ => keeps_pure _
  · exact (except _).bind fun _ => keeps_pure _
  · exact (hC.keeps_sceneMarkup hfault _).bind fun _ => (except _).bind fun _ => keeps_pure _
  · exact (node _ _).bind fun _ => store _
  · exact (node _ _).bind fun _ => (except _).bind fun _ => keeps_pure _
  · exact (hC.keeps_formatBoxLabel _ _).bind fun _ => keeps_pure _
  · exact (node _ _).bind fun _ => keeps_pure _
  · exact hC.keeps_taggedIn hfault _ _
  · exact keeps_pure _
  · exact keeps_pure _
  · refine (except _).bind fun _ => ?_
    split
    · exact keeps_get.bind fun _ => keeps_pure _
    · exact keeps_pure _
  · exact keeps_get.bind fun _ => store _
  · exact (hC.keeps_lookupStyle _).bind fun _ => store _
  · exact store _
  · exact keeps_pure _
  · exact yields_throw (hfault _)
  · exact keeps_pure _

end Faults

end Contract.Resolving

namespace LibraryFunction

/-- An assignment to a field sets it, or is to no field. -/
theorem setField_cases (b : Bound) :
    (∃ name f v, b.values = [.str name, v] ∧
      setField.perform b = (do DrawM.setField f v; return .none : DrawM Value)) ∨
    setField.perform b = (return .none : DrawM Value) := by
  unfold perform
  split <;> try first | contradiction | exact .inr rfl
  rename_i name v _ hvalues
  cases Field.ofName? name with
  | none => exact .inr rfl
  | some f => exact .inl ⟨name, f, v, hvalues, rfl⟩

end LibraryFunction

/-- An assignment to a field changes the geometry alone. -/
theorem Contract.keeps_setField {C : Contract Failure World}
    (hfield : ∀ w f v, C.rel w { w with layout := w.layout.set f v }) (b : Bound) :
    C.Keeps (LibraryFunction.setField.perform b) := by
  obtain ⟨name, f, v, -, hset⟩ | hnone := LibraryFunction.setField_cases b
  · rw [hset]
    exact Keeps.bind (fun w => ⟨hfield w f v, trivial⟩) fun _ => keeps_pure _
  · rw [hnone]
    exact keeps_pure _

end WireSketch
