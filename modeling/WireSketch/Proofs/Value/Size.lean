import WireSketch.Proofs.Value.Member
import WireSketch.Proofs.Value.Operate

/-! How many items containers have, and how an assignment to an item or a slice changes the size of a list. -/
namespace WireSketch
open Contract StoreM

/-- Steps that add one at most add no more than there are items. -/
theorem size_foldl_le {α β : Type} {step : β → α → β} {size : β → Nat}
    (hstep : ∀ b a, size (step b a) ≤ size b + 1) :
    (xs : List α) → (b : β) → size (xs.foldl step b) ≤ size b + xs.length
  | [], _ => Nat.le_refl _
  | x :: xs, b => by
    have hrest := size_foldl_le hstep xs (step b x)
    have hfirst := hstep b x
    rw [List.foldl_cons, List.length_cons]
    omega

namespace Slots

def occupied (slots : Array (Option (Nat × Value))) : Nat := slots.toList.countP Option.isSome

theorem occupied_place_le (slots : Array (Option (Nat × Value))) (member : Nat × Value) :
    occupied (place slots member) ≤ occupied slots + 1 := by
  unfold place occupied
  dsimp only
  generalize freeSlot slots _ _ _ = i
  rw [Array.toList_setIfInBounds]
  rcases Nat.lt_or_ge i slots.toList.length with hi | hi
  · rw [List.countP_set hi, Option.isSome_some, if_pos rfl]
    omega
  · rw [List.set_eq_of_length_le hi]
    exact Nat.le_succ _

theorem occupied_replicate (n : Nat) : occupied (Array.replicate n none) = 0 := by
  simp [occupied]

/-- A table that grows takes its members along. -/
theorem occupied_grown_le (t : Slots) : occupied t.grown.slots ≤ occupied t.slots := by
  obtain ⟨slots, filled⟩ := t
  unfold grown
  dsimp only
  split
  · exact Nat.le_refl _
  · have hmoved := size_foldl_le occupied_place_le (slots.filterMap id).toList
      (Array.replicate (capacityAbove (if filled > 50000 then filled * 2 else filled * 4)) none)
    have hmembers : (slots.filterMap id).toList.length = occupied slots := by
      rw [Array.toList_filterMap, List.length_filterMap_eq_countP]
      rfl
    rwa [occupied_replicate, hmembers, Array.foldl_toList, Nat.zero_add] at hmoved

theorem occupied_insert_le (t : Slots) (x : Value) :
    occupied (t.insert x).slots ≤ occupied t.slots + if x.numberHash?.isSome then 1 else 0 := by
  obtain ⟨slots, filled⟩ := t
  unfold insert
  dsimp only
  cases x.numberHash? with
  | some h => exact Nat.le_trans (occupied_grown_le _) (occupied_place_le slots (h, x))
  | none => exact occupied_grown_le ⟨slots, filled + 1⟩

theorem occupied_foldl_le : (xs : List Value) → (t : Slots) →
    occupied (xs.foldl insert t).slots ≤ occupied t.slots + xs.countP (·.numberHash?.isSome)
  | [], _ => Nat.le_refl _
  | x :: xs, t => by
    have hrest := occupied_foldl_le xs (t.insert x)
    have hfirst := t.occupied_insert_le x
    rw [List.foldl_cons, List.countP_cons]
    omega

end Slots

theorem size_setOrder_le (members : Array Value) : (setOrder members).size ≤ members.size := by
  have hslots : ((members.foldl Slots.insert Slots.empty).slots.filterMap (·.map (·.2))).size ≤
      members.toList.countP (·.numberHash?.isSome) := by
    have hempty : Slots.occupied Slots.empty.slots = 0 := Slots.occupied_replicate 8
    have hfilled := Slots.occupied_foldl_le members.toList Slots.empty
    rw [hempty, Nat.zero_add, Array.foldl_toList] at hfilled
    rw [← Array.length_toList, Array.toList_filterMap, List.length_filterMap_eq_countP]
    simpa [Slots.occupied] using hfilled
  have hothers : (members.filter (·.numberHash?.isNone)).size =
      members.toList.countP (·.numberHash?.isNone) := by
    rw [← Array.length_toList, Array.toList_filter, List.countP_eq_length_filter]
  have hall : members.size = members.toList.countP (·.numberHash?.isSome) +
      members.toList.countP (·.numberHash?.isNone) := by
    have hnone : (fun x : Value => decide ¬ x.numberHash?.isSome = true) = (·.numberHash?.isNone) := by
      funext x
      cases x.numberHash? <;> rfl
    rw [← Array.length_toList, List.length_eq_countP_add_countP (·.numberHash?.isSome), hnone]
  unfold setOrder
  dsimp only
  rw [Array.size_append, hothers]
  omega

namespace ItemSet

theorem size_add_le (s : ItemSet) (x : Value) (k : Key) (hk : x.key = .ok k) :
    (s.add x k hk).size ≤ s.size + 1 := s.size_upsert_le _ _ _ _

theorem size_addKey_le (t : ItemSet) (x : Value) : Table.size (match Except.attach x.key with
    | .ok ⟨k, hk⟩ => t.add x k hk
    | .error _ => t) ≤ t.size + 1 := by
  split
  · exact t.size_add_le _ _ _
  · exact Nat.le_succ _

theorem size_arranged_le (s : ItemSet) : s.arranged.size ≤ s.size := by
  have hall := size_foldl_le size_addKey_le (setOrder s.entries).toList Table.empty
  have hempty : Table.size (Table.empty : ItemSet) = 0 := rfl
  have horder := size_setOrder_le s.entries
  rw [Array.foldl_toList, hempty, Array.length_toList, Nat.zero_add] at hall
  exact Nat.le_trans hall horder

theorem size_ofItems_le (xs : Array Value) : Returns (fun s => s.size ≤ xs.size) (ofItems xs) := by
  have hfold : (ys : List Value) → (s : ItemSet) →
      Returns (fun t => t.size ≤ s.size + ys.length) (ys.foldlM insert s) := by
    intro ys
    induction ys with
    | nil => exact fun s => returns_pure (Nat.le_refl _)
    | cons y ys ih =>
      intro s t h
      rw [List.foldlM_cons] at h
      obtain ⟨u, hu, h⟩ := Except.of_bind_ok h
      obtain ⟨k, -, hk⟩ := Except.of_bind_ok hu
      cases hk
      have hfirst := s.size_add_le y _ k.2
      have hrest := ih _ t h
      rw [List.length_cons]
      omega
  intro s h
  unfold ofItems at h
  rw [← Array.foldlM_toList] at h
  have hempty : Table.size (Table.empty : ItemSet) = 0 := rfl
  have hall := hfold xs.toList Table.empty s h
  rwa [hempty, Nat.zero_add, Array.length_toList] at hall

end ItemSet

def Store.list? (s : Store) (r : Ref) : Option (Array Value) :=
  match s.cells[r]? with
  | some (.list xs) => some xs
  | _ => none

/-- Lists keep their size, and those that `P` holds of stay as they are. -/
def Contract.listing (P : Ref → Prop) : Contract Fault Store where
  rel s t := ∀ r xs, s.list? r = some xs → ∃ ys, t.list? r = some ys ∧ ys.size = xs.size ∧ (P r → ys = xs)
  fails _ := True
  refl _ _ xs h := ⟨xs, h, rfl, fun _ => rfl⟩
  trans hst htu r xs h := by
    obtain ⟨ys, hys, hsize, hsame⟩ := hst r xs h
    obtain ⟨zs, hzs, hsize', hsame'⟩ := htu r ys hys
    exact ⟨zs, hzs, hsize'.trans hsize, fun hr => (hsame' hr).trans (hsame hr)⟩

namespace Store

variable {s : Store} {r q : Ref} {xs ys : Array Value}

theorem list?_eq_some :
    s.list? r = some xs ↔ s.cells[r]? = some (.list xs) := by
  unfold list?
  split
  · rename_i ys hcell
    rw [hcell]
    simp
  · rename_i hother
    exact iff_of_false nofun (hother xs)

/-- A change at a place changes no other list. -/
theorem list?_update {change : Cell → Cell} (hq : s.list? q = some xs)
    (hchange : r = q → change (.list xs) = .list ys) :
    (Run.final (update r change s)).list? q = some (if r = q then ys else xs) := by
  have hcell := list?_eq_some.mp hq
  have hafter : (Run.final (update r change s)).cells[q]? = if r = q then s.cells[q]?.map change
      else s.cells[q]? := Array.getElem?_modify
  refine list?_eq_some.mpr ?_
  rw [hafter, hcell]
  split
  · rename_i hrq
    exact congrArg some (hchange hrq)
  · rfl

theorem run_getList (s : Store) (r : Ref) : getList r s = .ok ((s.list? r).getD #[]) s := by
  have hget : (get : StoreM Store) s = .ok s s := rfl
  unfold getList list?
  rw [Run.bind_ok hget]
  cases s.cells[r]? with
  | none => rfl
  | some c => cases c <;> rfl

end Store

/-- A change that keeps the sizes of lists may be made where the lists need not stay. -/
theorem keeps_update_listing {P : Ref → Prop} {r : Ref} {change : Cell → Cell}
    (h : ∀ xs, ∃ ys, change (.list xs) = .list ys ∧ ys.size = xs.size ∧ (P r → ys = xs)) :
    (listing P).Keeps (update r change) := by
  refine fun s => ⟨fun q xs hq => ?_, trivial⟩
  obtain ⟨ys, hchange, hsize, hsame⟩ := h xs
  refine ⟨if r = q then ys else xs, Store.list?_update hq fun _ => hchange, ?_⟩
  split
  · rename_i hr
    exact ⟨hsize, fun hp => hsame (hr ▸ hp)⟩
  · exact ⟨rfl, fun _ => rfl⟩

instance (P : Ref → Prop) : (listing P).Reading where
  fails _ _ := trivial

instance (P : Ref → Prop) : (listing P).Evaluating where
  alloc c := fun ⟨cells⟩ r xs h => by
    have hcell := Store.list?_eq_some.mp h
    obtain ⟨hr, -⟩ := Array.getElem?_eq_some_iff.mp hcell
    refine ⟨xs, Store.list?_eq_some.mpr ?_, rfl, fun _ => rfl⟩
    exact (Array.getElem?_push_lt hr).trans ((Array.getElem?_eq_getElem hr).symm.trans hcell)
  next r s := by
    have hset (q : Ref) (it : Iterator) : (listing P).Keeps (setIterator q it) :=
      keeps_update_listing fun xs => ⟨xs, rfl, rfl, fun _ => rfl⟩
    exact (keeps_advance hset (r + 1) r).final s

namespace Value

variable {s t : Store} {v : Value}

/-- The length of a container is the number of its items. -/
theorem length?_eq_size (v : Value) : v.length? = (·.map Array.size) <$> v.sizedItems? := by
  cases v with
  | str text => simp [length?, sizedItems?, characters, String.length_toList]
  | bytes b => simp [length?, sizedItems?, byteItems]
  | range r => simp [length?, sizedItems?, IntRange.items]
  | dict r => simp [length?, sizedItems?, Dict.keys, Table.size]
  | set r => simp [length?, sizedItems?, Table.size]
  | _ => simp [length?, sizedItems?]

/-- What is known before the items are taken is how many there are. -/
theorem size_of_items {n : Nat} {xs : Array Value} (hn : v.length? s = .ok (some n) s)
    (h : v.items s = .ok xs t) : xs.size = n := by
  rw [length?_eq_size, map_eq_pure_bind] at hn
  obtain ⟨found, u, hsized, hn⟩ := Run.of_bind_ok hn
  cases found with
  | none => cases hn
  | some ys =>
    have hys : xs = ys := by
      unfold items at h
      split at h
      · cases hsized
      · rw [Run.bind_ok hsized] at h
        cases h
        rfl
    cases hn
    rw [hys]

/-- The items of a value without a length are those of an iterator. -/
theorem isIterator_of_items {xs : Array Value} (hn : v.length? s = .ok Option.none s)
    (h : v.items s = .ok xs t) : ∃ kind r, v = iterator kind r := by
  rw [length?_eq_size, map_eq_pure_bind] at hn
  obtain ⟨found, u, hsized, hn⟩ := Run.of_bind_ok hn
  cases found with
  | some ys => cases hn
  | none =>
    unfold items at h
    split at h
    · exact ⟨_, _, rfl⟩
    · rw [Run.bind_ok hsized] at h
      cases h

theorem size_splice {xs ys : Array Value} {i j : Nat} (hi : i ≤ xs.size) (hj : j ≤ xs.size) (hij : i ≤ j) :
    (splice xs i j ys).size = xs.size - (j - i) + ys.size := by
  unfold splice
  simp only [Array.size_append, Array.size_extract]
  omega

end Value

namespace SliceIndices

/-- A slice without a step takes the items between its ends, which stand within the sequence. -/
theorem ofBounds_one (start stop : Option Int) (length : Nat) :
    let s := ofBounds start stop 1 length
    s.start.toNat ≤ length ∧ (max s.start s.stop).toNat ≤ length ∧
      s.start.toNat ≤ (max s.start s.stop).toNat ∧ s.count = (max s.start s.stop).toNat - s.start.toNat := by
  have hclamp (n : Int) : 0 ≤ clamp n length 0 length ∧ clamp n length 0 length ≤ length := by
    unfold clamp
    dsimp only
    omega
  have hstart : 0 ≤ (start.map (clamp · length 0 length)).getD 0 ∧
      (start.map (clamp · length 0 length)).getD 0 ≤ length := by
    cases start with
    | none => simp
    | some n => exact hclamp n
  have hstop : 0 ≤ (stop.map (clamp · length 0 length)).getD length ∧
      (stop.map (clamp · length 0 length)).getD length ≤ length := by
    cases stop with
    | none => simp
    | some n => exact hclamp n
  unfold ofBounds
  simp only [Int.zero_lt_one, if_true, Int.fdiv_one]
  refine ⟨by omega, by omega, by omega, ?_⟩
  split <;> omega

end SliceIndices

namespace Value

variable {s t : Store} {q r : Ref} {xs : Array Value}

theorem items_of_assignedItems {v : Value} {refused : Fault} {ys : Array Value}
    (h : assignedItems v refused s = .ok ys t) : v.items s = .ok ys t := by
  unfold assignedItems at h
  split at h
  · exact h
  · rename_i hother
    obtain ⟨found, u, hsized, h⟩ := Run.of_bind_ok h
    cases found with
    | none => cases h
    | some zs =>
      unfold items
      split
      · exact (hother _ _ rfl).elim
      · rw [Run.bind_ok hsized]
        exact h

theorem of_sliceIndices_ok {start stop step : Value} {length : Nat} {s : SliceIndices}
    (h : sliceIndices start stop step length = .ok s) :
    ∃ a b, s = SliceIndices.ofBounds a b s.step length := by
  obtain ⟨k, -, h⟩ := Except.of_bind_ok h
  dsimp only at h
  split at h
  · cases h
  · obtain ⟨a, -, h⟩ := Except.of_bind_ok h
    obtain ⟨b, -, h⟩ := Except.of_bind_ok h
    cases h
    refine ⟨a, b, ?_⟩
    unfold SliceIndices.ofBounds
    dsimp only
    split <;> rfl

/-- How many items a list of `n` has after an assignment: as many as before, or, where a slice without a step
is replaced, those outside the slice and those assigned. -/
def SizeAfter (c i v : Value) (s : Store) (q : Ref) (n m : Nat) : Prop :=
  m = n ∨ ∃ start stop step indices ys u, c = list q ∧ i = slice start stop step ∧
    sliceIndices start stop step n = .ok indices ∧ indices.step = 1 ∧ v.items s = .ok ys u ∧
      m = n - indices.count + ys.size

theorem size_foldl_setIfInBounds : (changes : List (Nat × Value)) → (xs : Array Value) →
    (changes.foldl (fun xs (i, y) => xs.setIfInBounds i y) xs).size = xs.size
  | [], _ => rfl
  | (i, y) :: changes, xs => by
    rw [List.foldl_cons, size_foldl_setIfInBounds changes, Array.size_setIfInBounds]

theorem list?_of_assignedItems {v : Value} {refused : Fault} (hf : refused.isMember = false)
    {ys : Array Value} (h : assignedItems v refused s = .ok ys t) (hq : s.list? q = some xs) :
    t.list? q = some xs := by
  obtain ⟨zs, hzs, -, hsame⟩ :=
    ((keeps_assignedItems v hf : (listing fun _ => True).Keeps _).of_ok h).1 q xs hq
  rwa [hsame trivial] at hzs

theorem list?_of_setList {zs : Array Value} (h : setList r zs s = .ok () t) (hq : s.list? q = some xs) :
    t.list? q = some (if r = q then zs else xs) := by
  have hafter : t = Run.final (setList r zs s) := by rw [h]; rfl
  rw [hafter]
  exact Store.list?_update hq fun _ => rfl

theorem of_assignSlice_ok {start stop step v : Value} (h : assignSlice r start stop step v s = .ok () t)
    (hq : s.list? q = some xs) : ∃ zs, t.list? q = some zs ∧ (list r ≠ list q → zs = xs) ∧
      SizeAfter (list r) (slice start stop step) v s q xs.size zs.size := by
  have hset {u : Store} {zs : Array Value} (hkept : u.list? q = some xs) (h : setList r zs u = .ok () t)
      (hsize : r = q → SizeAfter (list r) (slice start stop step) v s q xs.size zs.size) :
      ∃ zs, t.list? q = some zs ∧ (list r ≠ list q → zs = xs) ∧
        SizeAfter (list r) (slice start stop step) v s q xs.size zs.size := by
    have hafter := list?_of_setList h hkept
    by_cases hr : r = q
    · exact ⟨zs, by rwa [if_pos hr] at hafter, fun hne => (hne (congrArg list hr)).elim, hsize hr⟩
    · exact ⟨xs, by rwa [if_neg hr] at hafter, fun _ => rfl, .inl rfl⟩
  unfold assignSlice at h
  rw [Run.bind_ok (s.run_getList r)] at h
  obtain ⟨indices, u, hlift, hrest⟩ := Run.of_bind_ok h
  obtain ⟨hindices, rfl⟩ := of_ofExcept_ok hlift
  split at hrest
  · rename_i hstep
    obtain ⟨ys, u, hys, h⟩ := Run.of_bind_ok hrest
    rw [Run.bind_ok (u.run_getList r)] at h
    have hkept := list?_of_assignedItems rfl hys hq
    refine hset hkept h fun hr => .inr ?_
    subst hr
    rw [hq, Option.getD_some] at hindices
    obtain ⟨a, b, hbounds⟩ := of_sliceIndices_ok hindices
    have hends := SliceIndices.ofBounds_one a b xs.size
    rw [hstep] at hbounds
    rw [← hbounds] at hends
    obtain ⟨hi, hj, hij, hcount⟩ := hends
    refine ⟨start, stop, step, indices, ys, u, rfl, rfl, hindices, hstep, items_of_assignedItems hys, ?_⟩
    rw [hkept, hcount]
    exact size_splice hi hj hij
  · obtain ⟨ys, u, hys, h⟩ := Run.of_bind_ok hrest
    split at h
    · cases h
    · dsimp only at h
      rw [Run.bind_ok (u.run_getList r)] at h
      have hkept := list?_of_assignedItems rfl hys hq
      refine hset hkept h fun hr => .inl ?_
      rw [size_foldl_setIfInBounds, hr, hkept]
      rfl

/-- An assignment to an item keeps the size of the list. -/
theorem keeps_assignItem_listing {c i : Value}
    (hi : ∀ r start stop step, c = list r → i ≠ slice start stop step) (v : Value) :
    (listing (c ≠ list ·)).Keeps (c.assignItem i v) := by
  unfold assignItem
  split
  · split
    · exact (hi _ _ _ _ rfl rfl).elim
    · split
      · refine yields_ite (keeps_throw_bind rfl) ((keeps_getList _).bind fun xs => ?_)
        split
        · exact keeps_update_listing fun xs => ⟨_, rfl, Array.size_setIfInBounds, fun hne => (hne rfl).elim⟩
        · exact keeps_throw rfl
      · exact keeps_throw rfl
  · exact (keeps_ofExcept (civil_key i).attach).bind fun _ =>
      keeps_update_listing fun xs => ⟨xs, rfl, rfl, fun _ => rfl⟩
  · exact keeps_throw rfl

/-- An assignment to an item or a slice changes no list but its own, and the size of that only where a slice
without a step is replaced. -/
theorem of_assignItem_ok {c i v : Value} (h : c.assignItem i v s = .ok () t) (hq : s.list? q = some xs) :
    ∃ zs, t.list? q = some zs ∧ (c ≠ list q → zs = xs) ∧ SizeAfter c i v s q xs.size zs.size := by
  have hitem (hi : ∀ r start stop step, c = list r → i ≠ slice start stop step) :
      ∃ zs, t.list? q = some zs ∧ (c ≠ list q → zs = xs) ∧ SizeAfter c i v s q xs.size zs.size := by
    obtain ⟨zs, hzs, hsize, hsame⟩ := ((keeps_assignItem_listing hi v).of_ok h).1 q xs hq
    exact ⟨zs, hzs, hsame, .inl hsize⟩
  cases c with
  | list r =>
    cases i with
    | slice start stop step => exact of_assignSlice_ok h hq
    | _ => exact hitem nofun
  | _ => exact hitem nofun

end Value

end WireSketch
