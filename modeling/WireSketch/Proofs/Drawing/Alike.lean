import WireSketch.Proofs.Drawing.Resolve
import WireSketch.Proofs.Program.Paired
import WireSketch.Proofs.Value.Onward

/-! Specifications resolve alike in worlds of the same containers and styles, whatever else differs. -/
namespace WireSketch
open Contract

/-- Related worlds have the same containers and styles, and stay related when evaluation changes the containers. -/
structure SharesStyles (R : World → World → Prop) : Prop where
  store : ∀ {w w'}, R w w' → w'.store = w.store
  styles : ∀ {w w'}, R w w' → w'.styles = w.styles
  heap : ∀ {w w'} s, R w w' → w.store.Onward s → R { w with store := s } { w' with store := s }

namespace SharesStyles

variable {R : World → World → Prop} {α : Type}

theorem alike_ofStore (hR : SharesStyles R) {x : StoreM α} (hx : onward.Keeps x) : Alike R (liftM x : DrawM α) := by
  intro w w' h
  rw [DrawM.run_ofStore, DrawM.run_ofStore, hR.store h]
  cases hr : x w.store with
  | ok a s => exact .ok (hR.heap s h (hx.of_ok hr).1) rfl
  | error f s => exact .error (Failure.fault f) (hR.heap s h (hx.of_error hr).1)

theorem alike_ofExcept (x : Except Fault α) : Alike R (liftM x : DrawM α) := by
  cases x with
  | ok a => exact alike_pure a
  | error f => exact paired_throw (Failure.fault f)

theorem alike_refuseShown (hR : SharesStyles R) {x : StoreM String} (hx : onward.Keeps x)
    (e : String → DiagramError) : Alike R (do DrawM.refuse (e (← x)) : DrawM α) :=
  (hR.alike_ofStore hx).bind fun _ => paired_throw _

theorem alike_lookupStyle (hR : SharesStyles R) (key : Value) : Alike R (lookupStyle key) := by
  have unknown : Alike R (do DrawM.refuse (.unknownStyle (← key.plain)) : DrawM Style) :=
    hR.alike_refuseShown (Value.keeps_plain key) _
  unfold lookupStyle
  refine (alike_ofExcept key.key).bind fun _ => paired_get.bind fun w w' h => ?_
  cases key with
  | str name =>
    dsimp only
    rw [hR.styles h]
    split
    · exact alike_pure _
    · exact unknown
  | _ => exact unknown

theorem alike_ofValueIn (hR : SharesStyles R) : (fuel : Nat) → (v : Value) → Alike R (Spec.ofValueIn fuel v)
  | 0, _ => paired_throw _
  | fuel + 1, v => by
    have parts (xs : List Value) : Alike R (xs.mapM (Spec.ofValueIn fuel)) :=
      alike_mapM (hR.alike_ofValueIn fuel) xs
    unfold Spec.ofValueIn
    split
    · exact alike_pure _
    · exact alike_pure _
    · exact alike_pure _
    · exact alike_pure _
    · exact alike_pure _
    · exact alike_pure _
    · refine (alike_mapM (fun p => ?_) _).bind fun specs => alike_pure _
      exact (hR.alike_ofValueIn fuel p).tryCatch fun e => alike_pure _
    · exact (parts _).bind fun specs => alike_pure _
    · exact (hR.alike_ofStore (StoreM.keeps_getList _)).bind fun xs =>
        (parts _).bind fun specs => alike_pure _
    · exact hR.alike_refuseShown (Value.keeps_shown _) _

mutual

theorem alike_resolve (hR : SharesStyles R) : (s : Spec) → Alike R (resolve s)
  | .empty => alike_pure _
  | .own _ _ => alike_pure _
  | .direct m => hR.alike_ofStore (keeps_entriesOf m)
  | .named k => (hR.alike_lookupStyle k).bind fun s => hR.alike_ofStore s.keeps_attrs
  | .composite parts => hR.alike_resolveAll parts []
  | .refused e => paired_throw e

theorem alike_resolveAll (hR : SharesStyles R) :
    (parts : List Spec) → (merged : Attrs) → Alike R (resolveAll parts merged)
  | [], merged => alike_pure merged
  | s :: rest, merged => (hR.alike_resolve s).bind fun a => hR.alike_resolveAll rest (merged.merge a)

end

theorem alike_resolveValue (hR : SharesStyles R) (v : Value) : Alike R (resolveValue v) :=
  (hR.alike_ofValueIn _ v).bind hR.alike_resolve

end SharesStyles
end WireSketch
