import Mathlib.Data.List.Forall2
import Mathlib.Logic.Relation
import WireSketch.Proofs.Value.Evaluating

/-! Iterators that take items go onward; all other containers stay as they are. -/
namespace WireSketch
open Contract StoreM

/-- A later position of the same walk, reached item by item. -/
abbrev Walk.Onward : Walk → Walk → Prop :=
  Relation.ReflTransGen fun w w' => ∃ s x t, w.step s = .ok (x, w') t

/-- A source draws from the same iterator, or its own walk has gone onward. -/
inductive Source.Onward : Source → Source → Prop
  | own {w w' : Walk} (hw : w.Onward w') : Onward (.own w) (.own w')
  | shared (r : Ref) : Onward (.shared r) (.shared r)

namespace Source.Onward

@[refl] theorem refl (s : Source) : s.Onward s := by
  cases s with
  | own w => exact .own .refl
  | shared r => exact .shared r

theorem trans {s t u : Source} (h : s.Onward t) (h' : t.Onward u) : s.Onward u := by
  cases h with
  | own hw =>
    cases h' with
    | own hw' => exact .own (hw.trans hw')
  | shared r => exact h'

theorem all_refl (sources : List Source) : List.Forall₂ Onward sources sources :=
  List.forall₂_same.mpr fun s _ => .refl s

theorem all_trans {xs ys zs : List Source} :
    List.Forall₂ Onward xs ys → List.Forall₂ Onward ys zs → List.Forall₂ Onward xs zs
  | .nil, .nil => .nil
  | .cons h hrest, .cons h' hrest' => .cons (h.trans h') (all_trans hrest hrest')

end Source.Onward

inductive Iterator.Onward : Iterator → Iterator → Prop
  | plain {w w' : Walk} (hw : w.Onward w') : Onward (.plain w) (.plain w')
  | zip (strict : Bool) {sources sources' : List Source} (hs : List.Forall₂ Source.Onward sources sources') :
      Onward (.zip strict sources) (.zip strict sources')
  | enumerate {source source' : Source} {m n : Int} (hs : source.Onward source') (hn : m ≤ n) :
      Onward (.enumerate source m) (.enumerate source' n)

namespace Iterator.Onward

@[refl] theorem refl (it : Iterator) : it.Onward it := by
  cases it with
  | plain w => exact .plain .refl
  | zip strict sources => exact .zip strict (Source.Onward.all_refl sources)
  | enumerate source n => exact .enumerate (.refl source) (Int.le_refl n)

theorem trans {a b c : Iterator} (h : a.Onward b) (h' : b.Onward c) : a.Onward c := by
  cases h with
  | plain hw =>
    cases h' with
    | plain hw' => exact .plain (hw.trans hw')
  | zip strict hs =>
    cases h' with
    | zip _ hs' => exact .zip strict (Source.Onward.all_trans hs hs')
  | enumerate hs hn =>
    cases h' with
    | enumerate hs' hn' => exact .enumerate (hs.trans hs') (Int.le_trans hn hn')

end Iterator.Onward

/-- A cell keeps its contents, unless it is an iterator that has gone onward. -/
inductive Cell.Onward : Cell → Cell → Prop
  | same (c : Cell) : Onward c c
  | iterator {a b : Iterator} (h : a.Onward b) : Onward (.iterator a) (.iterator b)

namespace Cell.Onward

theorem trans {a b c : Cell} (h : a.Onward b) (h' : b.Onward c) : a.Onward c := by
  cases h with
  | same => exact h'
  | iterator h =>
    cases h' with
    | same => exact .iterator h
    | iterator h' => exact .iterator (h.trans h')

theorem eq_of_not_iterator {c c' : Cell} (h : c.Onward c') (hc : ∀ it, c ≠ .iterator it) : c' = c := by
  cases h with
  | same => rfl
  | iterator _ => exact absurd rfl (hc _)

end Cell.Onward

/-- Every cell that there is keeps its place and its contents, iterators apart, which may go onward. -/
def Store.Onward (s t : Store) : Prop :=
  ∀ (r : Ref) (c : Cell), s.cells[r]? = some c → ∃ c', t.cells[r]? = some c' ∧ c.Onward c'

namespace Store.Onward

@[refl] theorem refl (s : Store) : s.Onward s := fun _ c hc => ⟨c, hc, .same c⟩

theorem trans {s t u : Store} (h : s.Onward t) (h' : t.Onward u) : s.Onward u := by
  intro r c hc
  obtain ⟨c', hc', hcc⟩ := h r c hc
  obtain ⟨c'', hc'', hcc'⟩ := h' r c' hc'
  exact ⟨c'', hc'', hcc.trans hcc'⟩

/-- A list, dict or set has the contents it had. -/
theorem cell {s t : Store} (h : s.Onward t) {r : Ref} {c : Cell} (hc : s.cells[r]? = some c)
    (hkind : ∀ it, c ≠ .iterator it) : t.cells[r]? = some c := by
  obtain ⟨c', hc', hcc⟩ := h r c hc
  rw [hc', hcc.eq_of_not_iterator hkind]

theorem push (s : Store) (c : Cell) : s.Onward ⟨s.cells.push c⟩ := by
  intro r c' hr
  obtain ⟨hlt, -⟩ := Array.getElem?_eq_some_iff.mp hr
  refine ⟨c', ?_, .same c'⟩
  rw [Array.getElem?_push_lt hlt, ← Array.getElem?_eq_getElem hlt, hr]

end Store.Onward

def Contract.onward : Contract Fault Store where
  rel := Store.Onward
  fails _ := True
  refl := .refl
  trans := .trans

namespace StoreM

instance : onward.Reading where
  fails _ _ := trivial

/-- The iterator that is read at a place is the one that stands there. -/
theorem run_getIterator (r : Ref) (s : Store) :
    ∃ it, getIterator r s = .ok it s ∧ ∀ it', s.cells[r]? = some (.iterator it') → it' = it := by
  have hget : (get : StoreM Store) s = .ok s s := rfl
  unfold getIterator
  rw [Run.bind_ok hget]
  cases s.cells[r]? with
  | none => exact ⟨_, rfl, fun _ h => by cases h⟩
  | some c =>
    cases c with
    | iterator it =>
      refine ⟨it, rfl, fun it' h => ?_⟩
      cases h
      rfl
    | _ => exact ⟨_, rfl, fun _ h => by cases h⟩

theorem getElem?_update (r q : Ref) (change : Cell → Cell) (s : Store) :
    (Run.final (update r change s)).cells[q]? = if r = q then s.cells[q]?.map change else s.cells[q]? :=
  Array.getElem?_modify

/-- After an iterator was read and others went onward, it is set to a later position. -/
theorem onward_setIterator {r : Ref} {it it' : Iterator} {s t : Store} (hst : s.Onward t)
    (hread : ∀ a, s.cells[r]? = some (.iterator a) → a = it) (hit : it.Onward it') :
    s.Onward (Run.final (setIterator r it' t)) := by
  intro q c hc
  obtain ⟨c', hc', hcc⟩ := hst q c hc
  unfold setIterator
  rw [getElem?_update]
  by_cases hq : r = q
  · subst hq
    rw [if_pos rfl, hc', Option.map_some]
    refine ⟨_, rfl, ?_⟩
    cases hcc with
    | iterator h =>
      obtain rfl := hread _ hc
      exact .iterator hit
    | same =>
      cases c with
      | iterator a =>
        obtain rfl := hread _ hc
        exact .iterator hit
      | _ => exact .same _
  · rw [if_neg hq, hc']
    exact ⟨c', rfl, hcc⟩

end StoreM

/-- A walk that takes an item goes onward. -/
theorem Walk.onward_step (w : Walk) : onward.Yields (fun found => w.Onward found.2) w.step :=
  .intro (fun s found _ hr => (w.keeps_step.of_ok hr).imp_right fun _ => .single ⟨s, found.1, _, hr⟩)
    fun _ _ _ hr => w.keeps_step.of_error hr

namespace Source

variable {advance : Ref → StoreM (Option Value)}

theorem onward_step (h : ∀ r, onward.Keeps (advance r)) (source : Source) :
    onward.Yields (fun found => source.Onward found.2) (source.step advance) := by
  cases source with
  | shared r => exact (h r).bind fun x => yields_pure (.shared r)
  | own w =>
    exact w.onward_step.bind fun found hfound => yields_pure (.own hfound)

theorem onward_stepAll (h : ∀ r, onward.Keeps (advance r)) (strict : Bool) :
    (i : Nat) → (sources : List Source) →
      onward.Yields (fun found => List.Forall₂ Onward sources found.2) (stepAll advance strict i sources)
  | _, [] => yields_pure .nil
  | i, source :: rest => by
    refine (onward_step h source).bind fun found hfound => ?_
    obtain ⟨x, source'⟩ := found
    have hended : onward.Yields (fun found => List.Forall₂ Onward (source :: rest) found.2)
        (pure (none, source' :: rest) : StoreM (Option (List Value) × List Source)) :=
      yields_pure (.cons hfound (Onward.all_refl rest))
    cases x with
    | none =>
      exact yields_ite (yields_ite ((keeps_checkEnded h 1 rest).bind fun _ => hended)
        (yields_throw_bind trivial)) hended
    | some x =>
      exact (onward_stepAll h strict (i + 1) rest).bind fun found hrest =>
        yields_pure (.cons hfound hrest)

end Source

namespace StoreM

/-- An iterator that takes its next item goes onward, and so do those it draws from. -/
theorem onward_advance : (fuel : Nat) → (r : Ref) → onward.Keeps (advance fuel r)
  | 0, _ => keeps_pure _
  | fuel + 1, r => by
    have earlier : ∀ q, onward.Keeps (advance fuel q) := onward_advance fuel
    refine .of_final (fun _ => trivial) fun s => ?_
    obtain ⟨it, hrun, hread⟩ := run_getIterator r s
    unfold advance
    rw [Run.bind_ok hrun]
    cases it with
    | plain w =>
      refine w.onward_step.final_bind fun found hfound t hst => ?_
      exact onward_setIterator hst hread (.plain hfound)
    | zip strict sources =>
      by_cases hempty : sources.isEmpty
      · simp only [if_pos hempty]
        exact .refl s
      · simp only [if_neg hempty]
        refine (Source.onward_stepAll earlier strict 0 sources).final_bind fun found hfound t hst => ?_
        exact onward_setIterator hst hread (.zip strict hfound)
    | enumerate source n =>
      refine (Source.onward_step earlier source).final_bind fun found hfound t hst => ?_
      obtain ⟨x, source'⟩ := found
      cases x with
      | none => exact onward_setIterator hst hread (.enumerate hfound (Int.le_refl n))
      | some x => exact onward_setIterator hst hread (.enumerate hfound (by omega))

instance : onward.Evaluating where
  alloc c s := .push s c
  next r s := (onward_advance (r + 1) r).final s

end StoreM

/-- One change of a store: a new container, or an iterator that takes its next item. -/
inductive Store.Change (s : Store) : Store → Prop
  | alloc (c : Cell) : Change s (Run.final (alloc c s))
  | next (r : Ref) : Change s (Run.final (next r s))

/-- One store comes from another by new containers and items taken one at a time. -/
abbrev Store.Walks : Store → Store → Prop := Relation.ReflTransGen Store.Change

/-- Containers that are made and items that are taken leave all that is in the store as it is, positions apart. -/
theorem Store.Walks.onward {s t : Store} (h : s.Walks t) : s.Onward t := by
  induction h with
  | refl => exact .refl s
  | tail _ hlast ih =>
    cases hlast with
    | alloc c => exact ih.trans (Evaluating.alloc (C := Contract.onward) c _)
    | next r => exact ih.trans (Evaluating.next (C := Contract.onward) r _)

/-- The store changes only in the ways that every evaluation may change it. -/
def Contract.walking : Contract Fault Store where
  rel := Store.Walks
  fails _ := True
  refl _ := .refl
  trans := .trans

instance : walking.Evaluating where
  fails _ _ := trivial
  alloc c _ := .single (.alloc c)
  next r _ := .single (.next r)

end WireSketch
