import WireSketch.Value.Convert

/-! Computations that never fail for want of a member: those on numbers, keys, tables and slices. -/
namespace WireSketch

@[simp] def Fault.isMember : Fault → Bool
  | noAttribute .. => true
  | _ => false

theorem Except.of_bind_ok {ε α β : Type} {x : Except ε α} {f : α → Except ε β} {b : β}
    (h : x >>= f = .ok b) : ∃ a, x = .ok a ∧ f a = .ok b := by
  cases x with
  | ok a => exact ⟨a, rfl, h⟩
  | error e => cases h

/-- What the computation returns, if it does, satisfies `Q`. -/
def Returns {ε α : Type} (Q : α → Prop) (x : Except ε α) : Prop := ∀ a, x = .ok a → Q a

section Returns

variable {ε α β : Type} {Q : β → Prop}

theorem returns_pure {b : β} (hb : Q b) : Returns Q (pure b : Except ε β) := fun a h => by
  cases h
  exact hb

theorem Returns.bind {x : Except ε α} {f : α → Except ε β} (hf : ∀ a, Returns Q (f a)) :
    Returns Q (x >>= f) := fun b h => by
  obtain ⟨a, -, hb⟩ := Except.of_bind_ok h
  exact hf a b hb

theorem returns_throw_bind {e : ε} {f : α → Except ε β} : Returns Q (throw e >>= f) := nofun

theorem Returns.ite {p : Prop} [Decidable p] {x y : Except ε β} (hx : Returns Q x) (hy : Returns Q y) :
    Returns Q (if p then x else y) := by
  split
  · exact hx
  · exact hy

end Returns

/-- Whatever the computation fails with, it is not for want of a member. -/
def Civil {α : Type} (x : Except Fault α) : Prop := ∀ f, x = .error f → f.isMember = false

section Civil

variable {α β : Type}

@[simp] theorem civil_ok (a : α) : Civil (.ok a) := nofun

@[simp] theorem civil_pure (a : α) : Civil (pure a) := nofun

@[simp] theorem civil_error (f : Fault) : Civil (.error f : Except Fault α) ↔ f.isMember = false :=
  ⟨fun h => h f rfl, fun h _ hf => by cases hf; exact h⟩

theorem Civil.attach {x : Except Fault α} (h : Civil x) : Civil (Except.attach x) := by
  cases x with
  | ok a => exact civil_ok _
  | error f => exact (civil_error f).mpr (h f rfl)

@[simp] theorem civil_throw (f : Fault) : Civil (throw f : Except Fault α) ↔ f.isMember = false :=
  civil_error f

@[simp] theorem civil_bind (x : Except Fault α) (f : α → Except Fault β) :
    Civil (x >>= f) ↔ Civil x ∧ ∀ a, x = .ok a → Civil (f a) := by
  cases x with
  | ok a => exact ⟨fun h => ⟨civil_ok a, fun b hb => by cases hb; exact h⟩, fun h => h.2 a rfl⟩
  | error e =>
    exact ⟨fun h => ⟨fun f hf => h f (by cases hf; rfl), nofun⟩, fun h f hf => h.1 f (by cases hf; rfl)⟩

@[simp] theorem civil_map (f : α → β) (x : Except Fault α) : Civil (f <$> x) ↔ Civil x := by
  cases x with
  | ok a => exact iff_of_true (civil_ok (f a)) (civil_ok a)
  | error e =>
    rw [show f <$> (Except.error e : Except Fault α) = .error e from rfl, civil_error, civil_error]

@[simp] theorem civil_ite {c : Prop} [Decidable c] (x y : Except Fault α) :
    Civil (if c then x else y) ↔ (c → Civil x) ∧ (¬ c → Civil y) := by
  split <;> simp_all

theorem Civil.bind {x : Except Fault α} {f : α → Except Fault β} (hx : Civil x) (hf : ∀ a, Civil (f a)) :
    Civil (x >>= f) := (civil_bind x f).mpr ⟨hx, fun a _ => hf a⟩

theorem civil_throw_bind {f : Fault} {g : α → Except Fault β} (hf : f.isMember = false) :
    Civil (throw f >>= g) := fun _ h => by cases h; exact hf

theorem Civil.ite {p : Prop} [Decidable p] {x y : Except Fault α} (hx : Civil x) (hy : Civil y) :
    Civil (if p then x else y) := (civil_ite x y).mpr ⟨fun _ => hx, fun _ => hy⟩

theorem civil_refuse {p : Prop} [Decidable p] {f : Fault} {x : Except Fault α} (hf : f.isMember = false)
    (hx : Civil x) : Civil (if p then throw f else x) := .ite ((civil_throw f).mpr hf) hx

theorem civil_foldlM {f : β → α → Except Fault β} (h : ∀ b a, Civil (f b a)) :
    (xs : List α) → (b : β) → Civil (xs.foldlM f b)
  | [], b => civil_pure b
  | x :: xs, b => by
    rw [List.foldlM_cons, civil_bind]
    exact ⟨h b x, fun c _ => civil_foldlM h xs c⟩

theorem civil_arrayFoldlM {f : β → α → Except Fault β} (h : ∀ b a, Civil (f b a)) (xs : Array α) (b : β) :
    Civil (xs.foldlM f b) := by
  rw [← Array.foldlM_toList]
  exact civil_foldlM h xs.toList b

theorem civil_filterM {p : α → Except Fault Bool} (h : ∀ a, Civil (p a)) (xs : Array α) :
    Civil (xs.filterM p) := by
  unfold Array.filterM
  refine civil_arrayFoldlM (fun ys a => (h a).bind fun keep => ?_) xs #[]
  cases keep with
  | true => exact civil_pure _
  | false => exact civil_pure _

theorem civil_listMapM {f : α → Except Fault β} : (xs : List α) → (∀ a ∈ xs, Civil (f a)) →
    Civil (xs.mapM f)
  | [], _ => civil_pure _
  | x :: xs, h => by
    rw [List.mapM_cons]
    exact (h x (by simp)).bind fun _ => (civil_listMapM xs fun a ha => h a (by simp [ha])).bind
      fun _ => civil_pure _

theorem civil_mapM {f : α → Except Fault β} (xs : Array α) (h : ∀ a ∈ xs, Civil (f a)) :
    Civil (xs.mapM f) := by
  rw [Array.mapM_eq_mapM_toList, civil_map]
  exact civil_listMapM xs.toList fun a ha => h a (by simpa using ha)

end Civil

namespace Num

@[simp] theorem civil_toFloat (n : Num) : Civil n.toFloat := by
  unfold toFloat
  split
  · split <;> simp [Fault.isMember]
  · simp
  · simp

@[simp] theorem civil_parts (n : Num) : Civil n.parts := by
  unfold parts
  split <;> simp

@[simp] theorem Complex.civil_pow (a b : Float × Float) : Civil (Complex.pow a b) := by
  unfold Complex.pow
  dsimp only
  refine .ite (civil_pure _) (.ite (.ite (civil_throw_bind rfl) (civil_pure _)) (.ite (.ite ?_ ?_) ?_))
  · exact (civil_pure _).bind fun r => .ite (civil_throw_bind rfl) (civil_pure r)
  · split
    · exact (civil_pure _).bind fun r => .ite (civil_throw_bind rfl) (civil_pure r)
    · exact civil_throw_bind rfl
  · exact (civil_pure _).bind fun r => .ite (civil_throw_bind rfl) (civil_pure r)

@[simp] theorem civil_floatPow (x y : Float) : Civil (floatPow x y) := by
  unfold floatPow
  dsimp only
  refine .ite (civil_pure _) (.ite (civil_pure _) (.ite (civil_pure _) ?_))
  refine .ite (.ite (civil_pure _) (civil_pure _)) (.ite (.ite (civil_pure _) (civil_pure _)) ?_)
  refine .ite (.ite (civil_throw_bind rfl) (civil_pure _)) (.ite ?_ ?_)
  · exact (Complex.civil_pow _ _).bind fun _ => civil_pure _
  · exact .ite (civil_throw_bind rfl) (civil_pure _)

@[simp] theorem civil_intDiv (a b : Int) : Civil (intDiv a b) := by
  unfold intDiv
  refine civil_refuse rfl ?_
  split
  · exact civil_ok _
  · exact (civil_error _).mpr rfl

@[simp] theorem civil_intOp (op : BinaryOp) (a b : Int) : Civil (intOp op a b) := by
  unfold intOp
  cases op with
  | div => exact (civil_intDiv a b).bind fun _ => civil_pure _
  | floorDiv => exact civil_refuse rfl (civil_pure _)
  | mod => exact civil_refuse rfl (civil_pure _)
  | pow =>
    exact .ite ((civil_toFloat _).bind fun x => (civil_toFloat _).bind fun y =>
      (civil_floatPow x y).bind fun _ => civil_pure _) (civil_pure _)
  | shiftLeft => exact civil_refuse rfl (.ite (civil_pure _) (civil_refuse rfl (civil_pure _)))
  | shiftRight => exact civil_refuse rfl (civil_pure _)
  | _ => exact civil_pure _

@[simp] theorem civil_floatOp (op : BinaryOp) (x y : Float) : Civil (floatOp op x y) := by
  unfold floatOp
  cases op with
  | div => exact civil_refuse rfl (civil_pure _)
  | floorDiv => exact civil_refuse rfl (civil_pure _)
  | mod => exact civil_refuse rfl (civil_pure _)
  | pow => exact (civil_floatPow x y).bind fun _ => civil_pure _
  | _ => exact civil_pure _

@[simp] theorem civil_complexOp (op : BinaryOp) (a b : Float × Float) :
    Civil (complexOp op a b) := by
  unfold complexOp
  cases op with
  | div =>
    dsimp only
    split
    · exact civil_pure _
    · exact (civil_throw _).mpr rfl
  | pow => exact (Complex.civil_pow a b).bind fun _ => civil_pure _
  | _ => exact civil_pure _

@[simp] theorem civil_op (o : BinaryOp) (a b : Num) : Civil (a.op o b) := by
  have complex : Civil (do complexOp o (← a.parts) (← b.parts)) :=
    (civil_parts a).bind fun x => (civil_parts b).bind fun y => civil_complexOp o x y
  have float : Civil (do floatOp o (← a.toFloat) (← b.toFloat)) :=
    (civil_toFloat a).bind fun x => (civil_toFloat b).bind fun y => civil_floatOp o x y
  unfold op
  split
  · exact civil_intOp o _ _
  · split <;> first | exact complex | exact civil_pure _
  · split <;> first | exact complex | exact civil_pure _
  · split <;> first | exact float | exact civil_pure _

end Num

namespace Value

@[simp] theorem civil_toIndex (v : Value) : Civil v.toIndex := by
  unfold toIndex
  split
  · exact civil_ok _
  · exact (civil_error _).mpr rfl

@[simp] theorem civil_key (v : Value) : Civil v.key := by
  have row (items : Array Value) (hitems : ∀ x ∈ items, Civil x.key) :
      Civil (items.attach.mapM fun x => key x.1) :=
    civil_mapM items.attach fun x _ => hitems x.1 x.2
  fun_induction Value.key v with
  | case9 items ih => exact (row items fun x hx => ih x hx).bind fun _ => civil_pure _
  | case10 items ih => exact (row items fun x hx => ih x hx).bind fun _ => civil_pure _
  | case16 attrs ih => exact ih.bind fun _ => civil_pure _
  | case17 name ih => exact ih.bind fun _ => civil_pure _
  | case18 parts ih => exact (row parts fun x hx => ih x hx).bind fun _ => civil_pure _
  | case19 => exact (civil_error _).mpr rfl
  | _ => exact civil_ok _

end Value

namespace Dict

@[simp] theorem civil_set (d : Dict) (key value : Value) : Civil (set d key value) :=
  (Value.civil_key key).attach.bind fun _ => civil_pure _

@[simp] theorem civil_find? (d : Dict) (key : Value) : Civil (find? d key) :=
  (Value.civil_key key).bind fun _ => civil_pure _

@[simp] theorem civil_ofPairs (pairs : List (Value × Value)) : Civil (ofPairs pairs) :=
  civil_foldlM (fun d (k, v) => civil_set d k v) pairs Table.empty

@[simp] theorem civil_merge (a b : Dict) : Civil (merge a b) :=
  civil_arrayFoldlM (fun d (k, v) => civil_set d k v) b.entries a

end Dict

namespace ItemSet

@[simp] theorem civil_insert (s : ItemSet) (x : Value) : Civil (insert s x) :=
  (Value.civil_key x).attach.bind fun _ => civil_pure _

@[simp] theorem civil_has (s : ItemSet) (x : Value) : Civil (has s x) :=
  (Value.civil_key x).bind fun _ => civil_pure _

@[simp] theorem civil_ofItems (items : Array Value) : Civil (ofItems items) :=
  civil_arrayFoldlM civil_insert items Table.empty

end ItemSet

namespace Value

@[simp] theorem civil_sliceBound (v : Value) : Civil (sliceBound v) := by
  unfold sliceBound
  split
  · exact civil_ok _
  · split
    · exact civil_ok _
    · exact (civil_error _).mpr rfl

@[simp] theorem civil_sliceIndices (start stop step : Value) (length : Nat) :
    Civil (sliceIndices start stop step length) := by
  unfold sliceIndices
  exact (civil_sliceBound step).bind fun _ => .ite (civil_throw_bind rfl)
    ((civil_sliceBound start).bind fun _ => (civil_sliceBound stop).bind fun _ => civil_pure _)

@[simp] theorem civil_intText (n : Int) : Civil (intText n) := by
  unfold intText
  exact civil_refuse rfl (civil_ok _)

@[simp] theorem civil_checkRepeated (sequence : Value) (length : Nat) :
    Civil (checkRepeated sequence length) := by
  unfold checkRepeated Fault.checkLength
  refine .ite (.ite (civil_ok _) ((civil_error _).mpr rfl)) ?_
  split <;> exact (civil_error _).mpr rfl

@[simp] theorem civil_setOperation (op : BinaryOp) (xs ys : Array Value) :
    Civil (setOperation op xs ys) := by
  have outside (xs : Array Value) (t : ItemSet) :
      Civil (xs.filterM fun x => return !(← ItemSet.has t x)) :=
    civil_filterM (fun x => (ItemSet.civil_has t x).bind fun _ => civil_pure _) xs
  have inserted (xs : Array Value) (s : ItemSet) : Civil (xs.foldlM ItemSet.insert s) :=
    civil_arrayFoldlM ItemSet.civil_insert xs s
  unfold setOperation
  refine (ItemSet.civil_ofItems xs).bind fun s => (ItemSet.civil_ofItems ys).bind fun t => ?_
  cases op with
  | bitOr => exact (inserted ys s).bind fun _ => civil_pure _
  | bitAnd =>
    have made (common : Array Value) : Civil (do return some (← ItemSet.ofItems common)) :=
      (ItemSet.civil_ofItems common).bind fun _ => civil_pure _
    dsimp only
    split
    · exact (civil_filterM (ItemSet.civil_has t) xs).bind made
    · exact (civil_filterM (ItemSet.civil_has s) ys).bind made
  | sub => exact (outside xs t).bind fun _ => (ItemSet.civil_ofItems _).bind fun _ => civil_pure _
  | bitXor =>
    exact (outside ys s).bind fun _ => (ItemSet.civil_ofItems _).bind fun only =>
      (outside xs t).bind fun _ => (inserted _ only).bind fun _ => civil_pure _
  | _ => exact civil_pure _

end Value
end WireSketch
