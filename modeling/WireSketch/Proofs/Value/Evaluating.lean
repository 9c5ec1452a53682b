import WireSketch.Proofs.Value.Reading

/-! Programs that make containers and walk iterators, and leave the containers there are as they are. -/
namespace WireSketch
open Contract

/-- The contract also allows new containers, and iterators that take their next item. -/
class Contract.Evaluating (C : Contract Fault Store) : Prop extends C.Reading where
  alloc : ∀ c s, C.rel s (Run.final (StoreM.alloc c s))
  next : ∀ r s, C.rel s (Run.final (WireSketch.next r s))

/-- The store may change in any way; the failures are those of computations on values. -/
def Contract.civil : Contract Fault Store where
  rel _ _ := True
  fails f := f.isMember = false
  refl _ := trivial
  trans _ _ := trivial

instance : civil.Reading where
  fails _ hf := hf

variable {C : Contract Fault Store}

namespace StoreM

variable [C.Evaluating]

theorem keeps_alloc (c : Cell) : C.Keeps (alloc c) := fun s => ⟨Evaluating.alloc c s, trivial⟩

theorem keeps_newList (items : Array Value) : C.Keeps (newList items) :=
  (keeps_alloc _).bind fun _ => keeps_pure _

theorem keeps_newDict (d : Dict) : C.Keeps (newDict d) := (keeps_alloc _).bind fun _ => keeps_pure _

theorem keeps_newSet (s : ItemSet) : C.Keeps (newSet s) := (keeps_alloc _).bind fun _ => keeps_pure _

theorem keeps_newIterator (kind : IteratorKind) (it : Iterator) : C.Keeps (newIterator kind it) :=
  (keeps_alloc _).bind fun _ => keeps_pure _

end StoreM

open StoreM

namespace Walk

/-- A walk reads its container, which must not have changed its size. -/
theorem keeps_step [C.Reading] (w : Walk) : C.Keeps w.step := by
  unfold step
  split
  · split
    · exact keeps_pure _
    · exact keeps_pure _
  · refine (keeps_getList _).bind fun xs => ?_
    split
    · exact keeps_pure _
    · exact keeps_pure _
  · split
    · exact keeps_pure _
    · refine (keeps_getList _).bind fun xs => ?_
      split
      · exact keeps_pure _
      · exact keeps_pure _
  · split
    · exact keeps_pure _
    · exact keeps_pure _
  · refine (keeps_getDict _).bind fun d => yields_ite (keeps_throw_bind rfl) ?_
    split
    · exact keeps_pure _
    · exact keeps_pure _
  · refine (keeps_getDict _).bind fun d => yields_ite (keeps_throw_bind rfl) ?_
    split
    · exact keeps_pure _
    · split
      · exact keeps_pure _
      · exact keeps_pure _
  · refine (keeps_getSet _).bind fun s => yields_ite (keeps_throw_bind rfl) ?_
    split
    · exact keeps_pure _
    · exact keeps_pure _

theorem keeps_left (w : Walk) : C.Keeps w.left := by
  cases w with
  | list r i => exact (keeps_getList r).bind fun _ => keeps_pure _
  | _ => exact keeps_pure _

end Walk

namespace Source

variable [C.Reading] {advance : Ref → StoreM (Option Value)}

theorem keeps_step (h : ∀ r, C.Keeps (advance r)) (s : Source) : C.Keeps (s.step advance) := by
  cases s with
  | own w => exact w.keeps_step.bind fun _ => keeps_pure _
  | shared r => exact (h r).bind fun _ => keeps_pure _

theorem keeps_checkEnded (h : ∀ r, C.Keeps (advance r)) :
    (i : Nat) → (sources : List Source) → C.Keeps (checkEnded advance i sources)
  | _, [] => keeps_pure _
  | i, s :: rest => (keeps_step h s).bind fun _ =>
    yields_ite (keeps_throw_bind rfl) (keeps_checkEnded h (i + 1) rest)

theorem keeps_stepAll (h : ∀ r, C.Keeps (advance r)) (strict : Bool) :
    (i : Nat) → (sources : List Source) → C.Keeps (stepAll advance strict i sources)
  | _, [] => keeps_pure _
  | i, s :: rest => by
    refine (keeps_step h s).bind fun found => ?_
    obtain ⟨x, s'⟩ := found
    cases x with
    | none =>
      exact yields_ite (yields_ite ((keeps_checkEnded h 1 rest).bind fun _ => keeps_pure _)
        (keeps_throw_bind rfl)) (keeps_pure _)
    | some x => exact (keeps_stepAll h strict (i + 1) rest).bind fun _ => keeps_pure _

end Source

section Iterators

/-- An iterator that takes its next item sets positions alone: its own, and those of the iterators it draws from. -/
theorem keeps_advance [C.Reading] (hset : ∀ r it, C.Keeps (setIterator r it)) :
    (fuel : Nat) → (r : Ref) → C.Keeps (advance fuel r)
  | 0, _ => keeps_pure _
  | fuel + 1, r => by
    have earlier (s : Ref) : C.Keeps (advance fuel s) := keeps_advance hset fuel s
    refine (keeps_getIterator r).bind fun it => ?_
    cases it with
    | plain w => exact w.keeps_step.bind fun _ => (hset _ _).bind fun _ => keeps_pure _
    | zip strict sources =>
      exact yields_ite (keeps_pure _) ((Source.keeps_stepAll earlier strict 0 sources).bind fun _ =>
        (hset _ _).bind fun _ => keeps_pure _)
    | enumerate source n =>
      refine (Source.keeps_step earlier source).bind fun found => ?_
      obtain ⟨x, source⟩ := found
      cases x with
      | none => exact (hset _ _).bind fun _ => keeps_pure _
      | some x => exact (hset _ _).bind fun _ => keeps_pure _

variable [C.Evaluating]

theorem keeps_next (r : Ref) : C.Keeps (next r) := by
  have hcivil : civil.Keeps (next r) := keeps_advance (fun _ _ _ => ⟨trivial, trivial⟩) (r + 1) r
  refine .intro (fun s a t hr => ⟨?_, trivial⟩) fun s e t hr => ⟨?_, Reading.fails e (hcivil.of_error hr).2⟩
  · have hnext := Evaluating.next (C := C) r s
    rwa [hr] at hnext
  · have hnext := Evaluating.next (C := C) r s
    rwa [hr] at hnext

omit [C.Evaluating] in
theorem keeps_remaining : (fuel : Nat) → (r : Ref) → C.Keeps (remaining fuel r)
  | 0, _ => keeps_pure _
  | fuel + 1, r => by
    refine (keeps_getIterator r).bind fun it => ?_
    split
    · exact Walk.keeps_left _
    · exact keeps_pure _
    · exact Walk.keeps_left _
    · exact Walk.keeps_left _
    · exact keeps_remaining fuel _
    · exact keeps_remaining fuel _

theorem keeps_takeItems (r : Ref) :
    (limit : Nat) → (taken : Array Value) → C.Keeps (takeItems r limit taken)
  | 0, _ => keeps_pure _
  | limit + 1, taken => by
    refine (keeps_next r).bind fun x => ?_
    cases x with
    | none => exact keeps_pure _
    | some x => exact keeps_takeItems r limit _

end Iterators

namespace Value

variable [C.Evaluating]

theorem keeps_items (v : Value) : C.Keeps v.items := by
  unfold items
  split
  · exact (keeps_remaining _ _).bind fun _ => keeps_takeItems _ _ _
  · refine (keeps_sizedItems? v).bind fun xs => ?_
    cases xs with
    | none => exact keeps_throw rfl
    | some xs => exact keeps_pure _

theorem keeps_firstItems (limit : Nat) (v : Value) : C.Keeps (firstItems limit v) := by
  unfold firstItems
  split
  · exact keeps_takeItems _ _ _
  · exact (keeps_items v).bind fun _ => keeps_pure _

theorem keeps_source (v : Value) : C.Keeps v.source := by
  cases v with
  | list r => exact keeps_pure _
  | range r => exact keeps_pure _
  | iterator k r => exact keeps_pure _
  | dict r => exact (keeps_getDict r).bind fun _ => keeps_pure _
  | set r => exact (keeps_getSet r).bind fun _ => keeps_pure _
  | _ => exact (keeps_items _).bind fun _ => keeps_pure _

theorem keeps_searchIterator (x : Value) (r : Ref) : (fuel : Nat) → C.Keeps (searchIterator x r fuel)
  | 0 => keeps_pure _
  | fuel + 1 => by
    refine (keeps_next r).bind fun y => ?_
    cases y with
    | none => exact keeps_pure _
    | some y =>
      exact (keeps_eqOrSame y x).bind fun _ => yields_ite (keeps_pure _) (keeps_searchIterator x r fuel)

theorem keeps_isMember (x container : Value) : C.Keeps (isMember x container) := by
  have inSet (r : Ref) (x : Value) : C.Keeps (do
      let k ← (x.key : Except Fault Key)
      return (← getSet r).contains k : StoreM Bool) :=
    (keeps_ofExcept (civil_key x)).bind fun _ => (keeps_getSet r).bind fun _ => keeps_pure _
  have inFrozen (items : Array Value) (x : Value) : C.Keeps (do
      let k ← (x.key : Except Fault Key)
      return (← (ItemSet.ofItems items : Except Fault ItemSet)).contains k : StoreM Bool) :=
    (keeps_ofExcept (civil_key x)).bind fun _ =>
      (keeps_ofExcept (ItemSet.civil_ofItems items)).bind fun _ => keeps_pure _
  unfold isMember
  split
  · split
    · exact keeps_pure _
    · exact keeps_throw rfl
  · split
    · exact keeps_pure _
    · split
      · exact yields_ite (keeps_throw_bind rfl) (keeps_pure _)
      · exact keeps_throw rfl
  · exact keeps_anyEqual _ _
  · exact (keeps_getList _).bind fun _ => keeps_anyEqual _ _
  · split
    · exact keeps_pure _
    · exact keeps_anyEqual _ _
  · exact (keeps_ofExcept (civil_key x)).bind fun _ => (keeps_getDict _).bind fun _ => keeps_pure _
  · dsimp only
    split
    · exact (keeps_getSet _).bind fun _ => inSet _ _
    · exact inSet _ x
  · dsimp only
    split
    · exact (keeps_getSet _).bind fun _ => inFrozen _ _
    · exact inFrozen _ x
  · exact (keeps_remaining _ _).bind fun _ => keeps_searchIterator _ _ _
  · exact keeps_throw rfl

theorem keeps_compareBy (op : CompareOp) (a b : Value) : C.Keeps (compareBy op a b) := by
  unfold compareBy
  split
  · exact keeps_equal _ a b
  · exact (keeps_equal _ a b).bind fun _ => keeps_pure _
  · exact keeps_pure _
  · exact keeps_pure _
  · exact keeps_isMember a b
  · exact (keeps_isMember a b).bind fun _ => keeps_pure _
  · exact keeps_ordered _ _ a b

theorem keeps_subscriptSequence {length : Nat} {index : Value} {outOfRange : Fault}
    {badIndex : String → Fault} {one : Nat → StoreM Value} {many : SliceIndices → StoreM Value}
    (hrange : outOfRange.isMember = false) (hindex : ∀ t, (badIndex t).isMember = false)
    (hone : ∀ i, C.Keeps (one i)) (hmany : ∀ s, C.Keeps (many s)) :
    C.Keeps (subscriptSequence length index outOfRange badIndex one many) := by
  unfold subscriptSequence
  split
  · exact (keeps_ofExcept (civil_sliceIndices _ _ _ _)).bind hmany
  · split
    · refine yields_ite (keeps_throw_bind rfl) ?_
      split
      · exact hone _
      · exact keeps_throw hrange
    · exact keeps_throw (hindex _)

theorem keeps_subscript (container index : Value) : C.Keeps (subscript container index shown) := by
  unfold subscript
  split
  · exact (keeps_getList _).bind fun xs => keeps_subscriptSequence rfl (fun _ => rfl)
      (fun _ => keeps_pure _) fun _ => keeps_newList _
  · exact keeps_subscriptSequence rfl (fun _ => rfl) (fun _ => keeps_pure _) fun _ => keeps_pure _
  · exact keeps_subscriptSequence rfl (fun _ => rfl) (fun _ => keeps_pure _) fun _ => keeps_pure _
  · exact keeps_subscriptSequence rfl (fun _ => rfl) (fun _ => keeps_pure _) fun _ => keeps_pure _
  · split
    · exact (keeps_ofExcept (civil_sliceIndices _ _ _ _)).bind fun _ => keeps_pure _
    · split
      · split
        · exact keeps_pure _
        · exact keeps_throw rfl
      · exact keeps_throw rfl
  · refine (keeps_ofExcept (civil_key index)).bind fun k => (keeps_getDict _).bind fun d => ?_
    split
    · exact keeps_pure _
    · exact (keeps_shown index).bind fun _ => keeps_throw rfl
  · exact yields_ite (keeps_throw_bind rfl) (keeps_throw rfl)
  · exact keeps_throw rfl

/-- Items to assign or to unpack; the fault of a value without items is given. -/
theorem keeps_assignedItems (v : Value) {refused : Fault} (hf : refused.isMember = false) :
    C.Keeps (assignedItems v refused) := by
  unfold assignedItems
  split
  · exact keeps_items _
  · refine (keeps_sizedItems? v).bind fun xs => ?_
    cases xs with
    | none => exact keeps_throw hf
    | some xs => exact keeps_pure _

theorem keeps_addPairs : (d : Dict) → (i : Nat) → (pairs : List Value) → C.Keeps (addPairs d i pairs)
  | _, _, [] => keeps_pure _
  | d, i, v :: rest => by
    have entry : C.Keeps (pairEntry i v) := by
      refine (keeps_assignedItems v rfl).bind fun parts => ?_
      split
      · exact keeps_pure _
      · exact keeps_throw rfl
    exact entry.bind fun _ => (keeps_ofExcept (Dict.civil_set d _ _)).bind fun d =>
      keeps_addPairs d (i + 1) rest

theorem keeps_addEntries (d : Dict) (v : Value) : C.Keeps (addEntries d v) := by
  unfold addEntries
  split
  · exact (keeps_getDict _).bind fun _ => keeps_ofExcept (Dict.civil_merge d _)
  · exact (keeps_items v).bind fun _ => keeps_addPairs d 0 _

end Value
end WireSketch
