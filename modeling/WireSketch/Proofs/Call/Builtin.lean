import WireSketch.Proofs.Value.Operate
import WireSketch.Call.Builtin

/-! Functions of the language itself, as far as they call no other function. -/
namespace WireSketch
open Contract StoreM

theorem civil_forIn {α β : Type} {f : α → β → Except Fault (ForInStep β)} (h : ∀ a b, Civil (f a b)) :
    (xs : List α) → (b : β) → Civil (forIn xs b f)
  | [], b => by
    rw [List.forIn_nil]
    exact civil_pure b
  | a :: xs, b => by
    rw [List.forIn_cons]
    refine (h a b).bind fun step => ?_
    cases step with
    | done b => exact civil_pure b
    | yield b => exact civil_forIn h xs b

namespace Signature

theorem civil_giveNamed {fault : Fault} (hf : fault.isMember = false) (name : String) (v : Value) :
    (slots : List Slot) → Civil (giveNamed fault name v slots)
  | [] => civil_ok _
  | _ :: slots => .ite (.ite ((civil_error _).mpr hf) (civil_ok _))
      ((civil_giveNamed hf name v slots).bind fun _ => civil_pure _)

theorem civil_giveAll (s : Signature) : (named : List (String × Value)) → (slots : List Slot) →
    (extra : List (String × Value)) → Civil (giveAll s named slots extra)
  | [], _, _ => civil_ok _
  | (name, v) :: named, slots, extra => by
    refine .ite (civil_throw_bind rfl) ((civil_giveNamed rfl name v slots).bind fun found => ?_)
    cases found with
    | some slots => exact civil_giveAll s named slots extra
    | none => exact .ite (civil_giveAll s named slots _) ((civil_throw _).mpr rfl)

theorem civil_bind (s : Signature) (a : Arguments) : Civil (s.bind a) := by
  have counted : Civil (s.checkCount a.positional) := .ite ((civil_error _).mpr rfl) (civil_ok _)
  exact (civil_giveAll s _ _ _).bind fun _ => counted.bind fun _ =>
    .ite (civil_pure _) (civil_throw_bind rfl)

theorem length_fillSlots : (ps : List Parameter) → (vs : List Value) →
    (fillSlots ps vs).length = ps.length
  | [], _ => rfl
  | _ :: ps, [] => congrArg Nat.succ (length_fillSlots ps [])
  | _ :: ps, _ :: vs => congrArg Nat.succ (length_fillSlots ps vs)

theorem length_giveNamed (fault : Fault) (name : String) (v : Value) : (slots : List Slot) →
    Returns (fun given => ∀ filled ∈ given, filled.length = slots.length) (giveNamed fault name v slots)
  | [] => returns_pure (by simp)
  | (p, held) :: slots => by
    refine .ite (.ite nofun (returns_pure (by simp))) ?_
    have hrest := length_giveNamed fault name v slots
    intro given h
    obtain ⟨later, hlater, h⟩ := Except.of_bind_ok h
    cases h
    simpa using hrest later hlater

theorem length_giveAll (s : Signature) : (named : List (String × Value)) → (slots : List Slot) →
    (extra : List (String × Value)) →
      Returns (fun given => given.1.length = slots.length) (giveAll s named slots extra)
  | [], _, _ => returns_pure rfl
  | (name, v) :: named, slots, extra => by
    refine .ite returns_throw_bind ?_
    intro given h
    obtain ⟨found, hfound, h⟩ := Except.of_bind_ok h
    cases found with
    | some filled =>
      have hfilled : filled.length = slots.length := length_giveNamed _ name v slots _ hfound filled rfl
      exact (length_giveAll s named filled extra given h).trans hfilled
    | none =>
      dsimp only at h
      split at h
      · exact length_giveAll s named slots _ given h
      · cases h

/-- Each parameter has one value. -/
theorem length_values {s : Signature} {a : Arguments} {b : Bound} (h : s.bind a = .ok b) :
    b.values.length = s.parameters.length := by
  unfold bind at h
  dsimp only at h
  obtain ⟨⟨slots, extra⟩, hgiven, h⟩ := Except.of_bind_ok h
  obtain ⟨-, -, h⟩ := Except.of_bind_ok h
  have hslots : slots.length = s.parameters.length :=
    (length_giveAll s a.named _ [] _ hgiven).trans (length_fillSlots s.parameters a.positional)
  dsimp only at h
  split at h
  · rename_i hmissing
    cases h
    have hheld : ∀ slot ∈ slots, (slot.2 <|> slot.1.default).isSome = true := by
      intro ⟨p, held⟩ hslot
      have hpresent : missingNames slots = [] := List.isEmpty_iff.mp hmissing
      have hgiven := List.filterMap_eq_nil_iff.mp hpresent (p, held) hslot
      cases held with
      | some v => rfl
      | none =>
        cases hdefault : p.default with
        | some v => rfl
        | none => simp [hdefault] at hgiven
    exact (List.filterMap_length_eq_length.mpr hheld).trans hslots
  · cases h

end Signature

namespace Builtin

theorem civil_refused {α : Type} (c : CallFault) : Civil (refused c : Except Fault α) :=
  (civil_error _).mpr rfl

theorem civil_positionalOnly (f : String) (a : Arguments) : Civil (positionalOnly f a) :=
  .ite (civil_ok _) (civil_refused _)

theorem civil_oneArgument (f : String) (a : Arguments) : Civil (oneArgument f a) := by
  refine (civil_positionalOnly f a).bind fun xs => ?_
  split
  · exact civil_pure _
  · exact civil_refused _

theorem civil_possiblyOne (f : String) (xs : List Value) : Civil (possiblyOne f xs) := by
  unfold possiblyOne
  split
  · exact civil_ok _
  · exact civil_ok _
  · exact civil_refused _

theorem civil_optional (f : String) (a : Arguments) : Civil (positionalOnly f a >>= possiblyOne f) :=
  (civil_positionalOnly f a).bind fun xs => civil_possiblyOne f xs

theorem civil_arguments (f : String) (names : List String) (required : Nat) (a : Arguments) :
    Civil (arguments f names required a) := by
  refine .ite (civil_throw_bind rfl) ?_
  refine (civil_forIn (fun slot _ => ?_) _ _).bind fun _ =>
    (civil_forIn (fun slot _ => ?_) _ _).bind fun _ =>
      (civil_forIn (fun slot _ => ?_) _ _).bind fun _ => civil_pure _
  · exact .ite (civil_throw_bind rfl) (civil_pure _)
  · exact .ite (civil_throw_bind rfl) (civil_pure _)
  · exact .ite (civil_pure _) (civil_throw_bind rfl)

theorem of_arguments_ok {f : String} {names : List String} {required : Nat} {a : Arguments}
    {given : List (Option Value)} (h : arguments f names required a = .ok given) :
    given = names.mapIdx fun i name =>
      a.positional[i]? <|> if name.isEmpty then none else a.named.lookup name := by
  have checked {rest : Except Fault (List (Option Value))} {p : Prop} [Decidable p] {c : CallFault}
      (hrest : (if p then do refused c; rest else rest) = .ok given) : rest = .ok given := by
    split at hrest
    · cases hrest
    · exact hrest
  unfold arguments at h
  obtain ⟨-, -, h⟩ := Except.of_bind_ok (checked h)
  obtain ⟨-, -, h⟩ := Except.of_bind_ok h
  obtain ⟨-, -, h⟩ := Except.of_bind_ok h
  exact (Except.ok.inj h).symm

/-- An option that is given is one of the arguments by name. -/
theorem mem_of_options_ok {f : String} {names : List String} {named : List (String × Value)}
    {given : List (Option Value)} {i : Nat} {v : Value} (h : options f names named = .ok given)
    (hv : given[i]?.join = some v) : ∃ name, (name, v) ∈ named := by
  rw [of_arguments_ok h, List.getElem?_mapIdx] at hv
  cases hname : names[i]? with
  | none =>
    rw [hname] at hv
    cases hv
  | some name =>
    rw [hname] at hv
    have hlookup : (if name.isEmpty then none else named.lookup name) = some v := by simpa using hv
    split at hlookup
    · cases hlookup
    · obtain ⟨before, after, rfl, -⟩ := List.lookup_eq_some_iff.mp hlookup
      exact ⟨name, by simp⟩

theorem civil_options (f : String) (names : List String) (named : List (String × Value)) :
    Civil (options f names named) := civil_arguments f names 0 _

theorem civil_firstArgument (f : String) (a : Arguments) : Civil (firstArgument f a) := by
  unfold firstArgument
  split
  · exact civil_refused _
  · exact civil_ok _

theorem civil_checkDefault (f : String) (a : Arguments) (default : Option Value) :
    Civil (checkDefault f a default) := .ite (civil_refused _) (civil_ok _)

theorem civil_soleArgument (f : String) (a : Arguments) : Civil (soleArgument f a) := by
  unfold soleArgument
  split
  · exact civil_ok _
  · exact civil_refused _

theorem civil_isReversed (v : Value) : Civil (isReversed v) :=
  (Value.civil_toIndex v).bind fun _ => .ite (civil_throw_bind rfl) (civil_pure _)

theorem civil_magnitude (v : Value) : Civil (magnitude v) := by
  unfold magnitude
  split
  · exact civil_ok _
  · exact civil_ok _
  · exact .ite ((civil_error _).mpr rfl) (civil_ok _)
  · exact (civil_error _).mpr rfl

theorem civil_errorHandler (handler : String) (e : Text.DecodeError) : Civil (errorHandler handler e) := by
  unfold errorHandler
  split <;> simp

theorem civil_decoded (bytes : List UInt8) (encoding handler : String) :
    Civil (decoded bytes encoding handler) := by
  unfold decoded
  dsimp only
  split
  case h_12 => exact civil_throw_bind rfl
  all_goals
    refine (civil_pure _).bind fun codec => ?_
    split
    · exact civil_pure _
    · refine (civil_errorHandler handler _).bind fun _ => ?_
      split
      · exact civil_pure _
      · exact (civil_error _).mpr rfl

theorem civil_encodingArgument (name : String) (given : Option Value) :
    Civil (encodingArgument name given) := by
  unfold encodingArgument
  split <;> simp

theorem civil_integer (a : Arguments) : Civil (integer a) := by
  refine (civil_arguments _ _ _ a).bind fun given => ?_
  split
  · exact civil_pure _
  · exact (civil_throw _).mpr rfl
  · exact Value.civil_toInt _
  · exact Value.civil_toIntBase _ _
  · exact civil_pure _

theorem civil_rangeOf (bounds : List Value) : Civil (rangeOf bounds) := by
  unfold rangeOf
  split
  · exact civil_refused _
  · exact (Value.civil_toIndex _).bind fun _ => civil_pure _
  · exact (Value.civil_toIndex _).bind fun _ => (Value.civil_toIndex _).bind fun _ => civil_pure _
  · exact (Value.civil_toIndex _).bind fun _ => (Value.civil_toIndex _).bind fun _ =>
      (Value.civil_toIndex _).bind fun _ => .ite (civil_throw_bind rfl) (civil_pure _)
  · exact civil_refused _

variable {C : Contract Fault Store} [C.Evaluating]

theorem keeps_severalItems (a : Arguments) (single : Value) : C.Keeps (severalItems a single) :=
  yields_ite (keeps_pure _) ((Value.keeps_items single).bind fun _ => keeps_pure _)

theorem keeps_text (a : Arguments) : C.Keeps (text a) := by
  refine (keeps_ofExcept (civil_arguments _ _ _ a)).bind fun given =>
    (keeps_ofExcept (civil_encodingArgument _ _)).bind fun encoding =>
      (keeps_ofExcept (civil_encodingArgument _ _)).bind fun handler => ?_
  split
  · exact keeps_pure _
  · refine yields_ite ((Value.keeps_plain _).bind fun _ => keeps_pure _) ?_
    split
    · exact keeps_ofExcept (civil_decoded _ _ _)
    · exact keeps_throw rfl
    · exact keeps_throw rfl

theorem keeps_enumeration (a : Arguments) : C.Keeps (enumeration a) := by
  have made (given : Value × Value) : C.Keeps (do
      let n ← (given.2.toIndex : Except Fault Int)
      newIterator .enumerate (.enumerate (← given.1.source) n)) :=
    (keeps_ofExcept (Value.civil_toIndex _)).bind fun _ => (Value.keeps_source _).bind fun _ =>
      keeps_newIterator _ _
  unfold enumeration
  dsimp only
  split
  · exact (keeps_pure _).bind made
  · exact yields_ite ((keeps_pure _).bind made) (keeps_throw_bind rfl)
  · exact (keeps_pure _).bind made
  · exact yields_ite ((keeps_pure _).bind made) (keeps_throw_bind rfl)
  · exact yields_ite (yields_ite ((keeps_pure _).bind made) (keeps_throw_bind rfl))
      (yields_ite (keeps_throw_bind rfl) (yields_ite ((keeps_pure _).bind made) (keeps_throw_bind rfl)))
  · exact keeps_throw_bind rfl
  · exact keeps_throw_bind rfl

theorem keeps_zipped (a : Arguments) : C.Keeps (zipped a) := by
  have made (strict : Bool) : C.Keeps (do
      let sources ← a.positional.mapM Value.source
      newIterator .zip (.zip strict sources)) :=
    (keeps_mapM Value.keeps_source _).bind fun _ => keeps_newIterator _ _
  refine (keeps_ofExcept (civil_options _ _ _)).bind fun given => ?_
  dsimp only
  split
  · exact made _
  · exact (Value.keeps_truth _).bind made

theorem keeps_backward (v : Value) : C.Keeps (backward v) := by
  unfold backward
  split
  · exact (keeps_getList _).bind fun _ => keeps_newIterator _ _
  · exact (keeps_getDict _).bind fun _ => keeps_newIterator _ _
  · exact keeps_newIterator _ _
  · exact (Value.keeps_items _).bind fun _ => keeps_newIterator _ _
  · exact (Value.keeps_items _).bind fun _ => keeps_newIterator _ _
  · exact (Value.keeps_items _).bind fun _ => keeps_newIterator _ _
  · exact keeps_throw rfl

theorem keeps_length (v : Value) : C.Keeps (length v) := by
  refine (Value.keeps_length? v).bind fun n => ?_
  cases n with
  | none => exact keeps_throw rfl
  | some n => exact yields_ite (keeps_pure _) (keeps_throw rfl)

theorem keeps_mapping (a : Arguments) : C.Keeps (mapping a) := by
  have made {x : Except Fault Dict} (hx : Civil x) : C.Keeps (do newDict (← x)) :=
    (keeps_ofExcept hx).bind fun d => keeps_newDict d
  have named (d : Dict) := civil_foldlM (fun d entry => Dict.civil_set d (.str entry.1) entry.2) a.named d
  refine (keeps_ofExcept (civil_possiblyOne _ _)).bind fun given => ?_
  cases given with
  | none => exact made (named _)
  | some v => exact (Value.keeps_addEntries _ v).bind fun d => made (named d)

theorem keeps_itemsOf (f : String) (a : Arguments) : C.Keeps (itemsOf f a) := by
  refine (keeps_ofExcept (civil_optional f a)).bind fun given => ?_
  cases given with
  | none => exact keeps_pure _
  | some v => exact Value.keeps_items v

end Builtin

namespace Sorting

variable {α : Type} {C : Contract Fault Store} {less : α → α → StoreM Bool}

theorem keeps_runLength (h : ∀ x y, C.Keeps (less x y)) (down : Bool) :
    (before : α) → (xs : List α) → (n : Nat) → C.Keeps (runLength less down before xs n)
  | _, [], _ => keeps_pure _
  | before, x :: rest, n =>
    (h x before).bind fun _ => yields_ite (keeps_runLength h down x rest (n + 1)) (keeps_pure _)

theorem keeps_leadingRun (h : ∀ x y, C.Keeps (less x y)) (xs : List α) :
    C.Keeps (leadingRun less xs) := by
  unfold leadingRun
  split
  · exact (h _ _).bind fun _ => (keeps_runLength h _ _ _ _).bind fun _ => keeps_pure _
  · exact keeps_pure _

theorem keeps_insertionPlace (h : ∀ x y, C.Keeps (less x y)) (x : α) (xs : Array α) :
    (fuel l r : Nat) → C.Keeps (insertionPlace less x xs fuel l r)
  | 0, _, _ => keeps_pure _
  | fuel + 1, l, r => by
    refine yields_ite (keeps_pure _) ?_
    dsimp only
    split
    · exact keeps_pure _
    · exact (h _ _).bind fun _ => yields_ite (keeps_insertionPlace h x xs fuel _ _)
        (keeps_insertionPlace h x xs fuel _ _)

theorem keeps_insertAll (h : ∀ x y, C.Keeps (less x y)) :
    (done : Array α) → (xs : List α) → C.Keeps (insertAll less done xs)
  | _, [] => keeps_pure _
  | _, x :: rest => (keeps_insertionPlace h x _ _ _ _).bind fun _ => keeps_insertAll h _ rest

theorem keeps_merge (h : ∀ x y, C.Keeps (less x y)) (xs ys : List α) (done : Array α) :
    C.Keeps (merge less xs ys done) := by
  fun_induction merge less xs ys done with
  | case3 x xs y ys done ih₁ ih₂ => exact (h y x).bind fun _ => yields_ite ih₁ ih₂
  | _ => exact keeps_pure _

theorem keeps_sortIn (h : ∀ x y, C.Keeps (less x y)) :
    (fuel : Nat) → (xs : List α) → C.Keeps (sortIn less fuel xs)
  | 0, xs => keeps_insertAll h #[] xs
  | fuel + 1, xs => (keeps_leadingRun h xs).bind fun _ => yields_ite (keeps_pure _)
      (yields_ite (keeps_insertAll h _ _) ((keeps_sortIn h fuel _).bind fun _ =>
        (keeps_sortIn h fuel _).bind fun _ => keeps_merge h _ _ _))

theorem keeps_sort (h : ∀ x y, C.Keeps (less x y)) (xs : Array α) : C.Keeps (sort less xs) :=
  keeps_sortIn h _ _

theorem keeps_sortDown (h : ∀ x y, C.Keeps (less x y)) (xs : Array α) : C.Keeps (sortDown less xs) :=
  (keeps_sort h _).bind fun _ => keeps_pure _

end Sorting
end WireSketch
