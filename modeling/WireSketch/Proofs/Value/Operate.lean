import WireSketch.Proofs.Format.Field
import WireSketch.Value.Convert

/-! Operators on values, conversions between their types, and assignments to containers. -/
namespace WireSketch
open Contract StoreM

namespace Value

theorem civil_parseInt (text : List Char) (base : Nat) (shown : String) :
    Civil (parseInt text base shown) := by
  unfold parseInt
  split <;> simp

theorem civil_toInt (v : Value) : Civil v.toInt := by
  unfold toInt
  split
  · exact .ite ((civil_error _).mpr rfl) (.ite ((civil_error _).mpr rfl) (civil_ok _))
  · exact civil_parseInt _ _ _
  · exact civil_parseInt _ _ _
  · split <;> simp

theorem civil_toIntBase (v base : Value) : Civil (v.toIntBase base) := by
  refine (civil_toIndex base).bind fun b => .ite (civil_throw_bind rfl) ?_
  split
  · exact civil_parseInt _ _ _
  · exact civil_parseInt _ _ _
  · exact (civil_throw _).mpr rfl

theorem civil_toFloat (v : Value) : Civil v.toFloat := by
  unfold toFloat
  dsimp only
  split
  · split <;> simp
  · split <;> simp
  · exact (civil_throw _).mpr rfl
  · split
    · exact Num.civil_toFloat _
    · exact (civil_throw _).mpr rfl

theorem civil_roundFloat (x : Float) (places : Int) : Civil (roundFloat x places) := by
  unfold roundFloat
  exact .ite (civil_ok _) (.ite (civil_ok _) (.ite (civil_ok _)
    (.ite (civil_ok _) ((civil_error _).mpr rfl))))

theorem civil_rounded (v places : Value) : Civil (v.rounded places) := by
  unfold rounded
  split
  · split
    · exact .ite (civil_throw_bind rfl) (.ite (civil_throw_bind rfl) (civil_pure _))
    · exact (civil_toIndex places).bind fun k => (civil_roundFloat _ k).bind fun _ => civil_pure _
  · split
    · split
      · exact civil_pure _
      · exact (civil_toIndex places).bind fun _ => civil_pure _
    · exact (civil_throw _).mpr rfl

variable {C : Contract Fault Store}

theorem keeps_refuse [C.Reading] {α : Type} (sign : String) (a b : Value) :
    C.Keeps (refuse sign a b : StoreM α) := keeps_throw rfl

section Operate

variable [C.Evaluating]

theorem keeps_repeated (sequence count : Value) : C.Keeps (repeated sequence count) := by
  have checked (n : Nat) {rest : StoreM Value} (hrest : C.Keeps rest) : C.Keeps (do
      checkRepeated sequence n
      rest) := (keeps_ofExcept (civil_checkRepeated sequence n)).bind fun _ => hrest
  unfold repeated
  split
  · exact keeps_throw rfl
  · refine yields_ite (keeps_throw_bind rfl) ?_
    dsimp only
    split
    · exact checked _ (keeps_pure _)
    · exact checked _ (keeps_pure _)
    · exact checked _ (keeps_pure _)
    · exact (keeps_getList _).bind fun _ => checked _ (keeps_newList _)
    · exact keeps_refuse _ _ _

theorem keeps_concatenated (a b : Value) : C.Keeps (concatenated a b) := by
  unfold concatenated
  split
  · exact keeps_pure _
  · exact keeps_pure _
  · exact keeps_pure _
  · exact (keeps_getList _).bind fun _ => (keeps_getList _).bind fun _ => keeps_newList _
  · exact keeps_throw rfl
  · exact keeps_throw rfl
  · exact keeps_throw rfl
  · exact keeps_throw rfl
  · exact keeps_refuse _ _ _

theorem keeps_setLike (like : Value) (s : ItemSet) : C.Keeps (setLike like s) := by
  unfold setLike
  split
  · exact keeps_pure _
  · exact keeps_newSet s

theorem keeps_ofSets (sign : String) (op : BinaryOp) (a b : Value) :
    C.Keeps (binaryAs.ofSets sign op a b) := by
  refine (keeps_members? a).bind fun xs => (keeps_members? b).bind fun ys => ?_
  split
  · refine (keeps_ofExcept (civil_setOperation op _ _)).bind fun s => ?_
    cases s with
    | none => exact keeps_refuse _ _ _
    | some s => exact keeps_setLike a s
  · exact keeps_refuse _ _ _

theorem keeps_binaryAs (sign : String) (op : BinaryOp) (a b : Value) :
    C.Keeps (binaryAs sign op a b) := by
  unfold binaryAs
  split
  · split
    · exact keeps_pure _
    · exact keeps_pure _
    · exact keeps_pure _
    · refine (keeps_ofExcept (Num.civil_op op _ _)).bind fun r => ?_
      cases r with
      | none => exact keeps_refuse _ _ _
      | some r => exact keeps_pure _
  · split
    · split
      · exact keeps_concatenated _ _
      · exact keeps_concatenated _ _
      · exact keeps_concatenated _ _
      · exact keeps_concatenated _ _
      · exact keeps_refuse _ _ _
    · exact yields_ite (keeps_repeated _ _) (yields_ite (keeps_repeated _ _) (keeps_refuse _ _ _))
    · split
      · exact Template.keeps_run _ _ _
      · exact Template.keeps_run _ _ _
      · exact keeps_refuse _ _ _
    · split
      · exact (keeps_getDict _).bind fun d => (keeps_getDict _).bind fun e =>
          (keeps_ofExcept (Dict.civil_merge d e)).bind fun _ => keeps_newDict _
      · exact keeps_ofSets _ _ _ _
    · exact keeps_ofSets _ _ _ _
    · exact keeps_ofSets _ _ _ _
    · exact keeps_ofSets _ _ _ _
    · exact keeps_refuse _ _ _

theorem keeps_binary (op : BinaryOp) (a b : Value) : C.Keeps (binary op a b) := keeps_binaryAs _ op a b

theorem keeps_unary (op : UnaryOp) (v : Value) : C.Keeps (unary op v) := by
  unfold unary
  split
  · exact (keeps_truth v).bind fun _ => keeps_pure _
  · split
    · exact keeps_pure _
    · exact keeps_throw rfl
  · split
    · exact keeps_pure _
    · exact keeps_throw rfl
  · split
    · exact keeps_pure _
    · exact keeps_throw rfl

end Operate

end Value

/-- The contract also allows containers to change. -/
class Contract.Changing (C : Contract Fault Store) : Prop extends C.Evaluating where
  update : ∀ r change s, C.rel s (Run.final (StoreM.update r change s))

namespace Value

variable {C : Contract Fault Store} [C.Changing]

theorem keeps_update (r : Ref) (change : Cell → Cell) : C.Keeps (update r change) :=
  fun s => ⟨Changing.update r change s, trivial⟩

/-- An addition in place changes a list, and makes any other sum anew. -/
theorem keeps_addInto (a b : Value) : C.Keeps (addInto a b) := by
  unfold addInto
  split
  · exact (keeps_items b).bind fun _ => (keeps_update _ _).bind fun _ => keeps_pure _
  · exact keeps_binaryAs _ _ _ _

theorem keeps_assignSlice (r : Ref) (start stop step v : Value) :
    C.Keeps (assignSlice r start stop step v) := by
  refine (keeps_getList r).bind fun xs => (keeps_ofExcept (civil_sliceIndices _ _ _ _)).bind fun s =>
    yields_ite ?_ ?_
  · exact (keeps_assignedItems v rfl).bind fun _ => (keeps_getList r).bind fun _ => keeps_update _ _
  · exact (keeps_assignedItems v rfl).bind fun _ => yields_ite (keeps_throw_bind rfl)
      ((keeps_getList r).bind fun _ => keeps_update _ _)

theorem keeps_assignItem (container index v : Value) : C.Keeps (assignItem container index v) := by
  unfold assignItem
  split
  · split
    · exact keeps_assignSlice _ _ _ _ v
    · split
      · refine yields_ite (keeps_throw_bind rfl) ((keeps_getList _).bind fun xs => ?_)
        split
        · exact keeps_update _ _
        · exact keeps_throw rfl
      · exact keeps_throw rfl
  · exact (keeps_ofExcept (civil_key index).attach).bind fun _ => keeps_update _ _
  · exact keeps_throw rfl

end Value

instance : civil.Changing where
  alloc _ _ := trivial
  next _ _ := trivial
  update _ _ _ := trivial

end WireSketch
