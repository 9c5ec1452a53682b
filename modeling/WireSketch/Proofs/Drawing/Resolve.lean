import WireSketch.Proofs.Drawing.Node

/-! Specifications and labels under a contract: resolving them reads the world and changes its store alone. -/
namespace WireSketch
open Contract

namespace DrawM

variable {α : Type}

theorem run_ofStore (x : StoreM α) (w : World) : (liftM x : DrawM α) w =
    match x w.store with
    | .ok a s => .ok a { w with store := s }
    | .error f s => .error (.fault f) { w with store := s } := by
  obtain ⟨store, layout, styles, scene, labels⟩ := w
  rfl

theorem of_ofStore_ok {x : StoreM α} {w t : World} {a : α} (h : (liftM x : DrawM α) w = .ok a t) :
    ∃ s, x w.store = .ok a s ∧ t = { w with store := s } := by
  rw [run_ofStore] at h
  cases hx : x w.store with
  | ok b s =>
    rw [hx] at h
    cases h
    exact ⟨s, rfl, rfl⟩
  | error f s =>
    rw [hx] at h
    cases h

theorem of_ofExcept_ok {x : Except Fault α} {w t : World} {a : α}
    (h : (liftM x : DrawM α) w = .ok a t) : x = .ok a ∧ t = w := by
  cases x with
  | ok b =>
    cases h
    exact ⟨rfl, rfl⟩
  | error f => cases h

end DrawM

namespace Contract

variable {C : Contract Failure World} {α : Type}

/-- Where all faults are allowed, it does not matter which program it is. -/
theorem keeps_anyExcept (hfault : ∀ f, C.fails (.fault f)) (x : Except Fault α) :
    C.Keeps (liftM x : DrawM α) := by
  cases x with
  | ok a => exact keeps_pure a
  | error f => exact yields_throw (hfault f)

theorem keeps_anyStore (hstore : ∀ w s, C.rel w { w with store := s }) (hfault : ∀ f, C.fails (.fault f))
    (x : StoreM α) : C.Keeps (liftM x : DrawM α) := by
  intro w
  rw [DrawM.run_ofStore]
  cases x w.store with
  | ok a s => exact ⟨hstore w s, trivial⟩
  | error f s => exact ⟨hstore w s, hfault f⟩

end Contract

/-- The contract allows changes of the store, the faults of computations on values, and refused arguments. -/
structure Contract.Resolving (C : Contract Failure World) : Prop where
  store : ∀ w s, C.rel w { w with store := s }
  fault : ∀ f, f.isMember = false → C.fails (.fault f)
  diagram : ∀ e, C.fails (.diagram e)

namespace Contract.Resolving

variable {C : Contract Failure World} {α : Type}

theorem keeps_ofStore (hC : C.Resolving) {x : StoreM α} (hx : civil.Keeps x) :
    C.Keeps (liftM x : DrawM α) := by
  intro w
  rw [DrawM.run_ofStore]
  cases hr : x w.store with
  | ok a s => exact ⟨hC.store w s, trivial⟩
  | error f s => exact ⟨hC.store w s, hC.fault f (hx.of_error hr).2⟩

theorem yields_ofExcept (hC : C.Resolving) {x : Except Fault α} (hx : Civil x) :
    C.Yields (fun a => x = .ok a) (liftM x : DrawM α) := by
  cases x with
  | ok a => exact yields_pure rfl
  | error f => exact yields_throw (hC.fault f (hx f rfl))

theorem keeps_ofExcept (hC : C.Resolving) {x : Except Fault α} (hx : Civil x) :
    C.Keeps (liftM x : DrawM α) := (hC.yields_ofExcept hx).keeps

theorem keeps_binary (hC : C.Resolving) (op : BinaryOp) (a b : Value) :
    C.Keeps (liftM (a.binary op b) : DrawM Value) := hC.keeps_ofStore (Value.keeps_binary op a b)

theorem yields_refuse (hC : C.Resolving) {Q : α → Prop} (e : DiagramError) :
    C.Yields Q (DrawM.refuse e : DrawM α) := yields_throw (hC.diagram e)

/-- A value that has no drawing meaning is refused with its text. -/
theorem yields_refuseShown (hC : C.Resolving) {Q : α → Prop} {x : StoreM String} (hx : civil.Keeps x)
    (e : String → DiagramError) :
    C.Yields Q (do DrawM.refuse (e (← x)) : DrawM α) :=
  (hC.keeps_ofStore hx).bind fun _ => hC.yields_refuse _

theorem keeps_layout : C.Keeps DrawM.layout := keeps_get.bind fun _ => keeps_pure _

end Contract.Resolving

/-- Parts of a specification that were refused fail as the contract allows. -/
inductive Spec.Allowed (C : Contract Failure World) : Spec → Prop
  | empty : Allowed C .empty
  | own (a : Attrs) (h : a.IsMap) : Allowed C (.own a h)
  | direct (m : Value) : Allowed C (.direct m)
  | named (k : Value) : Allowed C (.named k)
  | composite {parts : List Spec} (h : ∀ s ∈ parts, Allowed C s) : Allowed C (.composite parts)
  | refused {e : Failure} (h : C.fails e) : Allowed C (.refused e)

/-- A named style with attributes of its own after it. -/
theorem Spec.Allowed.styled {C : Contract Failure World} (k : Value) {own : Spec} (h : own.Allowed C) :
    (Spec.composite [.named k, own]).Allowed C :=
  .composite (List.forall_mem_cons.mpr ⟨.named k, List.forall_mem_singleton.mpr h⟩)

namespace Contract.Resolving

variable {C : Contract Failure World}

/-- Refused parts are kept only inside of specifications that are values already. -/
theorem yields_ofValueIn (hC : C.Resolving) :
    (fuel : Nat) → (v : Value) → C.Yields (Spec.Allowed C) (Spec.ofValueIn fuel v)
  | 0, _ => yields_throw (hC.fault _ rfl)
  | fuel + 1, v => by
    have parts (xs : List Value) := yields_mapM (C := C) (hC.yields_ofValueIn fuel) xs
    unfold Spec.ofValueIn
    split
    · exact yields_pure .empty
    · exact yields_pure .empty
    · exact yields_pure (.direct _)
    · exact yields_pure (.direct _)
    · exact yields_pure (.named _)
    · exact yields_pure (.named _)
    · refine (yields_mapM (fun p => ?_) _).bind fun specs h => yields_pure (.composite h)
      exact (hC.yields_ofValueIn fuel p).handled fun e he => yields_pure (.refused he)
    · exact (parts _).bind fun specs h => yields_pure (.composite h)
    · exact (hC.keeps_ofStore (StoreM.keeps_getList _)).bind fun xs =>
        (parts _).bind fun specs h => yields_pure (.composite h)
    · exact hC.yields_refuseShown (Value.keeps_shown _) _

theorem yields_ofValue (hC : C.Resolving) (v : Value) : C.Yields (Spec.Allowed C) (Spec.ofValue v) :=
  hC.yields_ofValueIn _ v

theorem keeps_lookupStyle (hC : C.Resolving) (key : Value) : C.Keeps (lookupStyle key) := by
  unfold lookupStyle
  refine (hC.keeps_ofExcept (Value.civil_key key)).bind fun _ => keeps_get.bind fun w => ?_
  split
  · exact keeps_pure _
  · exact hC.yields_refuseShown (Value.keeps_plain key) _

mutual

theorem keeps_resolve (hC : C.Resolving) : (s : Spec) → s.Allowed C → C.Keeps (resolve s)
  | .empty, _ => keeps_pure _
  | .own _ _, _ => keeps_pure _
  | .direct m, _ => hC.keeps_ofStore (keeps_entriesOf m)
  | .named k, _ => (hC.keeps_lookupStyle k).bind fun s => hC.keeps_ofStore s.keeps_attrs
  | .composite parts, h => hC.keeps_resolveAll parts (by cases h with | composite h => exact h) []
  | .refused _, h => yields_throw (by cases h with | refused h => exact h)

theorem keeps_resolveAll (hC : C.Resolving) :
    (parts : List Spec) → (∀ s ∈ parts, s.Allowed C) → (a : Attrs) → C.Keeps (resolveAll parts a)
  | [], _, _ => keeps_pure _
  | s :: rest, h, a =>
    (hC.keeps_resolve s (h s (by simp))).bind fun b =>
      hC.keeps_resolveAll rest (fun t ht => h t (by simp [ht])) (a.merge b)

end

/-- Specifications are resolved in two steps, and both keep to the contract. -/
theorem keeps_resolved (hC : C.Resolving) {spec : DrawM Spec} (h : C.Yields (Spec.Allowed C) spec) :
    C.Keeps (do resolve (← spec) : DrawM Attrs) :=
  h.bind fun s hs => hC.keeps_resolve s hs

theorem keeps_resolveValue (hC : C.Resolving) (v : Value) : C.Keeps (resolveValue v) :=
  hC.keeps_resolved (hC.yields_ofValue v)

theorem keeps_expandIn (hC : C.Resolving) :
    (fuel : Nat) → (content : List Value) → C.Keeps (expandIn fuel content)
  | 0, _ => yields_throw (hC.fault _ rfl)
  | fuel + 1, content => by
    unfold expandIn
    refine keeps_mapM (fun v => (hC.keeps_ofStore (keeps_nestedParts? v)).bind fun parts => ?_) content
    cases parts with
    | none => exact hC.keeps_ofStore (Node.keeps_contentItem v)
    | some parts =>
      exact (hC.keeps_resolveValue _).bind fun _ =>
        (hC.keeps_expandIn fuel _).bind fun _ => keeps_pure _

theorem keeps_buildLabel (hC : C.Resolving) (label : Value) {spec : DrawM Spec}
    (h : C.Yields (Spec.Allowed C) spec) (content : List Value) :
    C.Keeps (buildLabel label spec content) := by
  unfold buildLabel
  exact h.bind fun s hs => (hC.keeps_resolve s hs).bind fun _ =>
    (hC.keeps_ofStore (Value.keeps_plain label)).bind fun _ => (hC.keeps_expandIn _ _).bind fun _ =>
      keeps_pure _

theorem keeps_buildSpan (hC : C.Resolving) (spec content : Value) :
    C.Keeps (buildSpan spec content) := by
  unfold buildSpan
  exact (hC.keeps_resolveValue spec).bind fun _ => (hC.keeps_ofStore (Value.keeps_items content)).bind
    fun _ => (hC.keeps_expandIn _ _).bind fun _ => keeps_pure _

theorem keeps_hexLabel (hC : C.Resolving) (n digits : Value) {spec : DrawM Spec}
    (h : C.Yields (Spec.Allowed C) spec) : C.Keeps (hexLabel n digits spec) := by
  have styled : C.Yields (Spec.Allowed C) (do
      let own ← spec
      return .composite [.named (.str "hex"), own] : DrawM Spec) := by
    exact h.bind fun own hown => yields_pure (.styled _ hown)
  have written : C.Keeps (do
      let n ← (n.toInt : Except Fault Value)
      let digits ← (← (digits.toInt : Except Fault Value)).plain
      let text ← n.format ("0" ++ digits ++ "x")
      buildLabel (.str text) (do
        let own ← spec
        return .composite [.named (.str "hex"), own]) [] : DrawM Node) :=
    (hC.keeps_ofExcept (Value.civil_toInt n)).bind fun _ =>
      (hC.keeps_ofExcept (Value.civil_toInt digits)).bind fun _ =>
        (hC.keeps_ofStore (Value.keeps_plain _)).bind fun _ =>
          (hC.keeps_ofStore (Value.keeps_format _ _)).bind fun _ => hC.keeps_buildLabel _ styled []
  unfold hexLabel
  split
  · exact (hC.keeps_ofStore (Value.keeps_shown n)).bind fun _ =>
      Keeps.bind (hC.yields_refuse _) fun _ => written
  · exact written

theorem keeps_formatBoxLabel (hC : C.Resolving) (label span : Value) :
    C.Keeps (formatBoxLabel label span) := by
  unfold formatBoxLabel
  split
  · exact (hC.keeps_binary _ _ _).bind fun _ => (hC.keeps_ofExcept (Value.civil_toInt _)).bind fun _ =>
      hC.keeps_hexLabel _ _ (yields_pure (.named _))
  · split
    · exact keeps_pure _
    · exact hC.keeps_buildLabel _ (yields_pure (.named _)) []
    · exact hC.yields_refuseShown (Value.keeps_shown _) _

end Contract.Resolving
end WireSketch
