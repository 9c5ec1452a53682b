import WireSketch.Proofs.Drawing.Resolve
import WireSketch.Proofs.Program.Point
import WireSketch.Proofs.Value.Size

/-! Resolving a specification of maps and names leaves the drawing as it is, whether it succeeds or fails. -/
namespace WireSketch
open Contract

theorem DrawM.run_getList (r : Ref) (w : World) :
    (liftM (StoreM.getList r) : DrawM (Array Value)) w = .ok ((w.store.list? r).getD #[]) w := by
  rw [run_ofStore, Store.run_getList]

/-- Specifications of a direct map hold a map, as far as the nesting goes. -/
def Store.DirectMaps (s : Store) : Nat → Value → Prop
  | 0, _ => True
  | fuel + 1, v =>
    match v with
    | .directSpec m => ∃ r, m = .dict r
    | .compositeSpec xs | .tuple xs => ∀ x ∈ xs.toList, s.DirectMaps fuel x
    | .list r => ∀ x ∈ ((s.list? r).getD #[]).toList, s.DirectMaps fuel x
    | _ => True

def Contract.unmoved : Contract Failure World where
  rel w t := t = w
  fails _ := True
  refl _ := rfl
  trans hst htu := htu.trans hst

section Unmoved

variable {w : World} {α : Type}

theorem unmoved_ofStore {x : StoreM α} (hx : reading.Keeps x) : unmoved.Keeps (liftM x : DrawM α) := by
  intro w
  rw [DrawM.run_ofStore]
  cases hr : x w.store with
  | ok a s =>
    obtain rfl := (hx.of_ok hr).1
    exact ⟨rfl, trivial⟩
  | error f s =>
    obtain rfl := (hx.of_error hr).1
    exact ⟨rfl, trivial⟩

theorem keeps_entriesOf_dict (r : Ref) : reading.Keeps (entriesOf (.dict r)) :=
  (StoreM.keeps_getDict r).bind fun _ => keeps_pure _

theorem unmoved_ofExcept (x : Except Fault α) : unmoved.Keeps (liftM x : DrawM α) :=
  keeps_anyExcept (fun _ => trivial) x

end Unmoved

inductive Spec.OfMaps : Spec → Prop
  | empty : OfMaps .empty
  | own (a : Attrs) (h : a.IsMap) : OfMaps (.own a h)
  | direct (r : Ref) : OfMaps (.direct (.dict r))
  | named (k : Value) : OfMaps (.named k)
  | composite {parts : List Spec} (h : ∀ s ∈ parts, OfMaps s) : OfMaps (.composite parts)
  | refused (e : Failure) : OfMaps (.refused e)

theorem unmoved_ofValueIn {w : World} : (fuel : Nat) → (v : Value) → w.store.DirectMaps fuel v →
    unmoved.YieldsAt Spec.OfMaps (Spec.ofValueIn fuel v) w
  | 0, _, _ => yieldsAt_throw trivial
  | fuel + 1, v, h => by
    have parts (xs : List Value) (hxs : ∀ x ∈ xs, w.store.DirectMaps fuel x) :
        unmoved.YieldsAt (fun specs => ∀ s ∈ specs, s.OfMaps) (xs.mapM (Spec.ofValueIn fuel)) w :=
      yieldsAt_mapM xs w fun x hx t ht => by
        cases ht
        exact unmoved_ofValueIn fuel x (hxs x hx)
    unfold Spec.ofValueIn
    split
    · exact yieldsAt_pure .empty
    · exact yieldsAt_pure .empty
    · exact yieldsAt_pure (.direct _)
    · obtain ⟨r, rfl⟩ := h
      exact yieldsAt_pure (.direct r)
    · exact yieldsAt_pure (.named _)
    · exact yieldsAt_pure (.named _)
    · refine (yieldsAt_mapM _ w fun x hx t ht => ?_).bind fun specs t _ hspecs =>
        yieldsAt_pure (.composite hspecs)
      cases ht
      exact (unmoved_ofValueIn fuel x (h x hx)).handled fun e t _ _ => yieldsAt_pure (.refused e)
    · exact (parts _ h).bind fun specs t _ hspecs => yieldsAt_pure (.composite hspecs)
    · rename_i r
      have hlist : unmoved.YieldsAt (· = (w.store.list? r).getD #[])
          (liftM (StoreM.getList r) : DrawM _) w := by
        unfold YieldsAt
        rw [DrawM.run_getList]
        exact ⟨rfl, rfl⟩
      refine hlist.bind fun xs t ht hxs => ?_
      cases ht
      cases hxs
      exact (parts _ h).bind fun specs t _ hspecs => yieldsAt_pure (.composite hspecs)
    · exact ((unmoved_ofStore (Value.keeps_shown _)).from w).bind fun _ _ _ _ => yieldsAt_throw trivial

theorem unmoved_lookupStyle (key : Value) : unmoved.Keeps (lookupStyle key) := by
  unfold lookupStyle
  refine (unmoved_ofExcept key.key).bind fun _ => keeps_get.bind fun w => ?_
  split
  · exact keeps_pure _
  · exact (unmoved_ofStore (Value.keeps_plain key)).bind fun _ => yields_throw trivial

theorem unmoved_styleAttrs (s : Style) : unmoved.Keeps (liftM s.attrs : DrawM Attrs) := by
  cases s with
  | own a _ => exact unmoved_ofStore (keeps_pure a)
  | shared r => exact unmoved_ofStore (keeps_entriesOf_dict r)

mutual

theorem unmoved_resolve : (s : Spec) → s.OfMaps → unmoved.Keeps (resolve s)
  | .empty, _ => keeps_pure _
  | .own _ _, _ => keeps_pure _
  | .direct m, h => by
    cases h with
    | direct r => exact unmoved_ofStore (keeps_entriesOf_dict r)
  | .named k, _ => (unmoved_lookupStyle k).bind unmoved_styleAttrs
  | .composite parts, h => unmoved_resolveAll parts (by cases h with | composite h => exact h) []
  | .refused _, _ => yields_throw trivial

theorem unmoved_resolveAll : (parts : List Spec) → (∀ s ∈ parts, s.OfMaps) → (a : Attrs) →
    unmoved.Keeps (resolveAll parts a)
  | [], _, _ => keeps_pure _
  | s :: rest, h, a => by
    obtain ⟨hs, hrest⟩ := List.forall_mem_cons.mp h
    exact (unmoved_resolve s hs).bind fun b => unmoved_resolveAll rest hrest (a.merge b)

end

theorem unmoved_resolveValue {w : World} {v : Value} (hv : w.store.DirectMaps nestingLimit v) :
    unmoved.YieldsAt (fun _ => True) (resolveValue v) w :=
  (unmoved_ofValueIn nestingLimit v hv).bind fun s t _ hs => (unmoved_resolve s hs).from t

end WireSketch
