import WireSketch.Proofs.Program.Contract
import WireSketch.Proofs.Value.Civil

/-! Programs that only read the store: the truth of a value, its text, and how it compares to others. -/
namespace WireSketch
open Contract

def Contract.reading : Contract Fault Store where
  rel s t := t = s
  fails _ := True
  refl _ := rfl
  trans hst htu := htu.trans hst

/-- The contract allows the failures of computations on values. -/
class Contract.Reading (C : Contract Fault Store) : Prop where
  fails : ∀ f, f.isMember = false → C.fails f

instance : reading.Reading where
  fails _ _ := trivial

variable {C : Contract Fault Store}

namespace StoreM

variable {α : Type}

theorem keeps_getList (r : Ref) : C.Keeps (getList r) := by
  unfold getList
  refine keeps_get.bind fun s => ?_
  split
  · exact keeps_pure _
  · exact keeps_pure _

theorem keeps_getDict (r : Ref) : C.Keeps (getDict r) := by
  unfold getDict
  refine keeps_get.bind fun s => ?_
  split
  · exact keeps_pure _
  · exact keeps_pure _

theorem keeps_getSet (r : Ref) : C.Keeps (getSet r) := by
  unfold getSet
  refine keeps_get.bind fun s => ?_
  split
  · exact keeps_pure _
  · exact keeps_pure _

theorem keeps_getIterator (r : Ref) : C.Keeps (getIterator r) := by
  unfold getIterator
  refine keeps_get.bind fun s => ?_
  split
  · exact keeps_pure _
  · exact keeps_pure _

theorem keeps_throw [C.Reading] {f : Fault} (hf : f.isMember = false) : C.Keeps (throw f : StoreM α) :=
  yields_throw (Reading.fails f hf)

theorem keeps_throw_bind {β : Type} [C.Reading] {f : Fault} {g : α → StoreM β} (hf : f.isMember = false) :
    C.Keeps (throw f >>= g) := yields_throw_bind (Reading.fails f hf)

theorem keeps_ofExcept [C.Reading] {x : Except Fault α} (hx : Civil x) :
    C.Keeps (liftM x : StoreM α) := by
  cases x with
  | ok a => exact keeps_pure a
  | error f => exact keeps_throw (hx f rfl)

theorem of_ofExcept_ok {x : Except Fault α} {s t : Store} {a : α}
    (h : (liftM x : StoreM α) s = .ok a t) : x = .ok a ∧ t = s := by
  cases x with
  | ok b =>
    cases h
    exact ⟨rfl, rfl⟩
  | error f => cases h

/-- A computation reads nothing of the store. -/
theorem yields_ofExcept {Q : α → Prop} {x : Except Fault α} (hx : Returns Q x) :
    reading.Yields Q (liftM x : StoreM α) := by
  cases x with
  | ok a => exact yields_pure (hx a rfl)
  | error f => exact yields_throw trivial

end StoreM

namespace Value
open StoreM

theorem keeps_length? (v : Value) : C.Keeps v.length? := by
  cases v with
  | list r => exact (keeps_getList r).bind fun _ => keeps_pure _
  | dict r => exact (keeps_getDict r).bind fun _ => keeps_pure _
  | set r => exact (keeps_getSet r).bind fun _ => keeps_pure _
  | _ => exact keeps_pure _

theorem keeps_sizedItems? (v : Value) : C.Keeps v.sizedItems? := by
  cases v with
  | list r => exact (keeps_getList r).bind fun _ => keeps_pure _
  | dict r => exact (keeps_getDict r).bind fun _ => keeps_pure _
  | set r => exact (keeps_getSet r).bind fun _ => keeps_pure _
  | _ => exact keeps_pure _

theorem keeps_members? (v : Value) : C.Keeps v.members? := by
  cases v with
  | set r => exact (keeps_getSet r).bind fun _ => keeps_pure _
  | _ => exact keeps_pure _

theorem keeps_truth (v : Value) : C.Keeps v.truth := by
  unfold truth
  split
  case h_7 =>
    refine (keeps_length? v).bind fun n => ?_
    cases n with
    | none => exact keeps_pure _
    | some n => exact keeps_pure _
  all_goals exact keeps_pure _

section Shown

variable {inner : Value → StoreM String}

theorem keeps_shownEntries (h : ∀ v, C.Keeps (inner v)) (entries : List (Value × Value)) :
    C.Keeps (shownEntries inner entries) := by
  unfold shownEntries
  refine (keeps_mapM (fun entry => ?_) entries).bind fun _ => keeps_pure _
  exact (h entry.1).bind fun _ => (h entry.2).bind fun _ => keeps_pure _

theorem keeps_shownTuple (h : ∀ v, C.Keeps (inner v)) (xs : List Value) :
    C.Keeps (shownTuple inner xs) := by
  unfold shownTuple
  refine (keeps_mapM h xs).bind fun texts => ?_
  split
  · exact keeps_pure _
  · exact keeps_pure _

theorem keeps_shownContent (h : ∀ v, C.Keeps (inner v)) (content : List Item) :
    C.Keeps (shownContent inner content) := by
  unfold shownContent
  refine (keeps_mapM (fun item => ?_) content).bind fun _ => keeps_pure _
  cases item with
  | text s => exact keeps_pure _
  | node n => exact h _
  | other v => exact h v

variable [C.Reading]

/-- The text of a value is read off the store, whatever it is nested in. -/
theorem keeps_shownIn : (fuel : Nat) → (around : List Ref) → (v : Value) →
    C.Keeps (shownIn fuel around v)
  | 0, _, _ => keeps_throw rfl
  | fuel + 1, around, v => by
    have inner (x : Value) : C.Keeps (shownIn fuel around x) := keeps_shownIn fuel around x
    unfold shownIn
    cases v with
    | int n => exact keeps_ofExcept (civil_intText n)
    | tuple xs => exact keeps_shownTuple inner xs.toList
    | frozenset xs =>
      dsimp only
      split
      · exact keeps_pure _
      · exact (keeps_mapM inner xs.toList).bind fun _ => keeps_pure _
    | slice a b c =>
      exact (inner a).bind fun _ => (inner b).bind fun _ => (inner c).bind fun _ => keeps_pure _
    | list r =>
      dsimp only
      split
      · exact keeps_pure _
      · exact (keeps_getList r).bind fun _ =>
          (keeps_mapM (keeps_shownIn fuel (r :: around)) _).bind fun _ => keeps_pure _
    | dict r =>
      dsimp only
      split
      · exact keeps_pure _
      · exact (keeps_getDict r).bind fun _ => keeps_shownEntries (keeps_shownIn fuel (r :: around)) _
    | set r =>
      refine (keeps_getSet r).bind fun s => ?_
      dsimp only
      split
      · exact keeps_pure _
      · exact (keeps_mapM inner _).bind fun _ => keeps_pure _
    | node n =>
      exact (inner n.tag).bind fun _ => (keeps_shownEntries inner n.attrs).bind fun _ =>
        (keeps_shownContent inner n.content).bind fun _ => keeps_pure _
    | directSpec a => exact (inner a).bind fun _ => keeps_pure _
    | namedSpec k => exact (inner k).bind fun _ => keeps_pure _
    | compositeSpec xs => exact (keeps_shownTuple inner xs.toList).bind fun _ => keeps_pure _
    | _ => exact keeps_pure _

theorem keeps_shown (v : Value) : C.Keeps v.shown := keeps_shownIn _ _ v

theorem keeps_plain (v : Value) : C.Keeps v.plain := by
  cases v with
  | str s => exact keeps_pure s
  | _ => exact keeps_shown _

end Shown

section Compared

variable {eq : Value → Value → StoreM Bool}

theorem keeps_allEqual (h : ∀ x y, C.Keeps (eq x y)) :
    (xs ys : List Value) → C.Keeps (allEqual eq xs ys)
  | [], [] => keeps_pure _
  | [], _ :: _ => keeps_pure _
  | _ :: _, [] => keeps_pure _
  | x :: xs, y :: ys => by
    exact (h x y).bind fun _ => yields_ite (keeps_allEqual h xs ys) (keeps_pure _)

theorem keeps_sameContent (h : ∀ x y, C.Keeps (eq x y)) (xs ys : List Item) :
    C.Keeps (sameContent eq xs ys) := by
  fun_induction sameContent eq xs ys with
  | case2 s xs t ys hst ih => exact ih
  | case4 m xs n ys ih =>
    exact (h _ _).bind fun _ => yields_ite (ih) (keeps_pure _)
  | case5 v xs w ys ih =>
    exact (h v w).bind fun _ => yields_ite (ih) (keeps_pure _)
  | _ => exact keeps_pure _

variable [C.Reading]

theorem keeps_sameEntries (h : ∀ x y, C.Keeps (eq x y)) (d : Dict) :
    (entries : List (Value × Value)) → C.Keeps (sameEntries eq d entries)
  | [] => keeps_pure _
  | (k, v) :: rest => by
    refine (keeps_ofExcept (Dict.civil_find? d k)).bind fun found => ?_
    cases found with
    | none => exact keeps_pure _
    | some w =>
      exact (h v w).bind fun _ => yields_ite (keeps_sameEntries h d rest) (keeps_pure _)

theorem keeps_isSubset (a b : Array Value) : C.Keeps (isSubset a b) :=
  (keeps_ofExcept (ItemSet.civil_ofItems b)).bind fun t =>
    keeps_allM (fun x => keeps_ofExcept (ItemSet.civil_has t x)) a.toList

theorem keeps_sameMembers (a b : Array Value) : C.Keeps (sameMembers a b) := by
  refine (keeps_ofExcept (ItemSet.civil_ofItems a)).bind fun s =>
    (keeps_ofExcept (ItemSet.civil_ofItems b)).bind fun t => yields_ite (keeps_pure _) ?_
  exact keeps_allM (fun x => keeps_ofExcept (ItemSet.civil_has t x)) a.toList

/-- Equality is read off the store. -/
theorem keeps_equal : (fuel : Nat) → (a b : Value) → C.Keeps (equal fuel a b)
  | 0, _, _ => keeps_throw rfl
  | fuel + 1, a, b => by
    have inner (x y : Value) : C.Keeps (if x.isSame y then return true else equal fuel x y) :=
      yields_ite (keeps_pure _) (keeps_equal fuel x y)
    have items (xs ys : Array Value) : C.Keeps (do
        if xs.size ≠ ys.size then return false
        allEqual (fun x y => if x.isSame y then return true else equal fuel x y) xs.toList ys.toList) :=
      yields_ite (keeps_pure _) (keeps_allEqual inner _ _)
    unfold equal
    split
    · exact keeps_pure _
    · split
      · exact keeps_pure _
      · exact keeps_pure _
      · exact keeps_pure _
      · exact keeps_pure _
      · exact keeps_pure _
      · exact keeps_pure _
      · exact keeps_pure _
      · exact keeps_pure _
      · exact items _ _
      · exact items _ _
      · exact (keeps_getList _).bind fun xs => (keeps_getList _).bind fun ys => items xs ys
      · exact (keeps_getDict _).bind fun _ => (keeps_getDict _).bind fun e =>
          yields_ite (keeps_pure _) (keeps_sameEntries inner e _)
      · exact keeps_allEqual inner _ _
      · exact inner _ _
      · exact inner _ _
      · exact (inner _ _).bind fun _ => yields_ite (yields_ite (keeps_pure _)
          ((keeps_ofExcept (Dict.civil_ofPairs _)).bind fun _ => (keeps_sameEntries inner _ _).bind
            fun _ => yields_ite (keeps_sameContent inner _ _) (keeps_pure _))) (keeps_pure _)
      · refine (keeps_members? a).bind fun xs => (keeps_members? b).bind fun ys => ?_
        split
        · exact keeps_sameMembers _ _
        · exact keeps_pure _

theorem keeps_eqOrSame (a b : Value) : C.Keeps (eqOrSame a b) := by
  unfold eqOrSame
  exact yields_ite (keeps_pure _) (keeps_equal _ a b)

theorem keeps_firstDifference : (xs ys : List Value) → C.Keeps (firstDifference xs ys)
  | [], _ => keeps_pure _
  | _ :: _, [] => keeps_pure _
  | x :: xs, y :: ys => by
    exact (keeps_eqOrSame x y).bind fun _ => yields_ite (keeps_firstDifference xs ys) (keeps_pure _)

/-- The order of two values is read off the store. -/
theorem keeps_ordered (op : CompareOp) : (fuel : Nat) → (a b : Value) → C.Keeps (ordered op fuel a b)
  | 0, _, _ => keeps_throw rfl
  | fuel + 1, a, b => by
    have refused : C.Keeps (throw (.notOrdered op.sign a.typeName b.typeName) : StoreM Bool) :=
      keeps_throw rfl
    have subset (xs ys : Array Value) {p : Prop} [Decidable p] :
        C.Keeps (if p then isSubset xs ys else return false) :=
      yields_ite (keeps_isSubset xs ys) (keeps_pure _)
    unfold ordered
    split
    · exact yields_ite refused (keeps_pure _)
    · split
      · exact keeps_pure _
      · exact keeps_pure _
      · refine (keeps_firstDifference _ _).bind fun found => ?_
        cases found with
        | none => exact keeps_pure _
        | some found => exact keeps_ordered op fuel found.1 found.2
      · refine (keeps_getList _).bind fun xs => (keeps_getList _).bind fun ys =>
          (keeps_firstDifference _ _).bind fun found => ?_
        cases found with
        | none => exact keeps_pure _
        | some found => exact keeps_ordered op fuel found.1 found.2
      · refine (keeps_members? _).bind fun xs => (keeps_members? _).bind fun ys => ?_
        split
        · split
          · exact subset _ _
          · exact subset _ _
          · exact subset _ _
          · exact subset _ _
        · exact refused

theorem keeps_anyEqual (x : Value) : (ys : List Value) → C.Keeps (anyEqual x ys)
  | [] => keeps_pure _
  | y :: ys => by
    exact (keeps_eqOrSame y x).bind fun _ => yields_ite (keeps_pure _) (keeps_anyEqual x ys)

end Compared
end Value
end WireSketch
