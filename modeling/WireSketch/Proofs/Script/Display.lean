import Mathlib.Data.List.Forall2
import WireSketch.Proofs.Script.Guard
import WireSketch.Proofs.Script.Names

/-!
How many items displays gather and how many a list has after an assignment to it. The length of a starred
part is checked before its items are added, that of plain elements, iterators and slices is not.
-/
namespace WireSketch

/-- The items that an element of a display gave. -/
inductive Gathered
  | plain (v : Value)
  /-- Those of a starred part whose length was known before they were taken. -/
  | sized (items : Array Value)
  /-- Those of a starred part that was walked to its end. -/
  | walked (items : Array Value)

namespace Gathered

def items : Gathered → Array Value
  | plain v => #[v]
  | sized xs | walked xs => xs

def count : List Gathered → Nat
  | [] => 0
  | part :: rest => part.items.size + count rest

/-- After each part of known length there are no more items than the limit allows, `n` of them before. -/
def Fits (n : Nat) : List Gathered → Prop
  | [] => True
  | sized xs :: rest => n + xs.size ≤ maxSequenceLength ∧ Fits (n + xs.size) rest
  | part :: rest => Fits (n + part.items.size) rest

/-- The items after the last part of known length, `k` of them before. -/
def unlimited (k : Nat) : List Gathered → Nat
  | [] => k
  | sized _ :: rest => unlimited 0 rest
  | part :: rest => unlimited (k + part.items.size) rest

/-- Only the items after the last part of known length can go beyond the limit. -/
theorem count_le : (parts : List Gathered) → (n k : Nat) → Fits n parts → n ≤ maxSequenceLength + k →
    n + count parts ≤ maxSequenceLength + unlimited k parts
  | [], _, _, _, hn => hn
  | part :: rest, n, k, hfits, hn => by
    have hcount : n + count (part :: rest) = (n + part.items.size) + count rest :=
      (Nat.add_assoc _ _ _).symm
    rw [hcount]
    cases part with
    | sized xs => exact count_le rest _ 0 hfits.2 hfits.1
    | plain v => exact count_le rest _ (k + 1) hfits (Nat.succ_le_succ hn)
    | walked xs =>
      refine count_le rest _ (k + xs.size) hfits ?_
      have hsize : (walked xs).items.size = xs.size := rfl
      omega

/-- Where no iterator is walked there are no more items beyond the limit than there are elements. -/
theorem unlimited_le : (parts : List Gathered) → (k : Nat) → (∀ xs, walked xs ∉ parts) →
    unlimited k parts ≤ k + parts.length
  | [], _, _ => Nat.le_refl _
  | part :: rest, k, hwalked => by
    have hrest (j : Nat) : unlimited j rest ≤ j + rest.length :=
      unlimited_le rest j fun xs hxs => hwalked xs (List.mem_cons_of_mem _ hxs)
    rw [List.length_cons]
    cases part with
    | sized xs =>
      have h0 := hrest 0
      unfold unlimited
      omega
    | plain v =>
      have h1 := hrest (k + 1)
      have hone : unlimited k (plain v :: rest) = unlimited (k + 1) rest := rfl
      omega
    | walked xs => exact (hwalked xs List.mem_cons_self).elim

/-- A part of known length at the end leaves nothing unlimited. -/
theorem unlimited_append_sized (xs : Array Value) : (parts : List Gathered) → (k : Nat) →
    unlimited k (parts ++ [sized xs]) = 0
  | [], _ => rfl
  | .sized _ :: rest, _ => unlimited_append_sized xs rest 0
  | .plain _ :: rest, _ => unlimited_append_sized xs rest _
  | .walked _ :: rest, _ => unlimited_append_sized xs rest _

end Gathered

namespace Value

variable {v : Value} {done xs : Array Value} {s t : Session}

theorem of_sizedLength?_ok {h h' : Store} {n : Option Nat} (hn : v.sizedLength? h = .ok n h') :
    v.length? h = .ok n h ∧ h' = h := by
  have hsame : h' = h := ((keeps_sizedLength? v : Contract.reading.Keeps _).of_ok hn).1
  obtain ⟨m, u, hm, hn⟩ := Run.of_bind_ok hn
  split at hn
  · cases hn
  · cases hn
    exact ⟨hsame ▸ hm, hsame⟩

/-- The items of a starred part come after the others; their number was checked where it was known. -/
theorem of_appendItems_ok (h : v.appendItems done s = .ok xs t) : ∃ ys, xs = done ++ ys ∧
    (v.length? s.world.store = .ok (some ys.size) s.world.store ∧ done.size + ys.size ≤ maxSequenceLength ∨
      ∃ kind r, v = iterator kind r) := by
  unfold appendItems at h
  obtain ⟨_, u, hchecked, h⟩ := Run.of_bind_ok h
  obtain ⟨ys, u', hys, h⟩ := Run.of_bind_ok h
  cases h
  refine ⟨ys, rfl, ?_⟩
  unfold checkAppended at hchecked
  obtain ⟨found, u'', hfound, hchecked⟩ := Run.of_bind_ok hchecked
  obtain ⟨h₁, hsized, hu''⟩ := ScriptM.of_ofStore_ok hfound
  obtain ⟨hlength, rfl⟩ := of_sizedLength?_ok hsized
  obtain ⟨h₂, hitems, -⟩ := ScriptM.of_ofStore_ok hys
  cases found with
  | none =>
    cases hchecked
    rw [hu''] at hitems
    exact .inr (isIterator_of_items hlength hitems)
  | some n =>
    obtain ⟨hlimit, rfl⟩ := ScriptM.of_checkLength_ok hchecked
    rw [hu''] at hitems
    obtain rfl : ys.size = n := size_of_items hlength hitems
    exact .inl ⟨hlength, by omega⟩

end Value

namespace Expr

variable (budget : Int)

/-- How an element of a display gives its items: a starred part has a length or is an iterator. -/
inductive Gives : Expr → Gathered → Prop
  | plain {e : Expr} {v : Value} {s t : Session} (h : e.eval budget s = .ok v t) : Gives e (.plain v)
  | sized {p : Place} {e : Expr} {v : Value} {xs : Array Value} {s t : Session} (h : e.eval budget s = .ok v t)
      (hlength : v.length? t.world.store = .ok (some xs.size) t.world.store) :
      Gives (.starred p e) (.sized xs)
  | walked {p : Place} {e : Expr} {kind : IteratorKind} {r : Ref} {xs : Array Value} {s t : Session}
      (h : e.eval budget s = .ok (.iterator kind r) t) : Gives (.starred p e) (.walked xs)

variable {budget}

theorem of_evalItems_ok : (es : List Expr) → {done xs : Array Value} → {s t : Session} →
    evalItems budget es done s = .ok xs t → ∃ parts, List.Forall₂ (Gives budget) es parts ∧
      xs.size = done.size + Gathered.count parts ∧ Gathered.Fits done.size parts
  | [], done, xs, s, t, h => by
    rw [evalItems] at h
    cases h
    exact ⟨[], .nil, rfl, trivial⟩
  | e :: rest, done, xs, s, t, h => by
    have plain (h : (do let v ← e.eval budget; evalItems budget rest (done.push v)) s = .ok xs t) :
        ∃ parts, List.Forall₂ (Gives budget) (e :: rest) parts ∧
          xs.size = done.size + Gathered.count parts ∧ Gathered.Fits done.size parts := by
      obtain ⟨v, u, hv, hrest⟩ := Run.of_bind_ok h
      obtain ⟨parts, hparts, hsize, hfits⟩ := of_evalItems_ok rest hrest
      rw [Array.size_push] at hsize hfits
      refine ⟨.plain v :: parts, .cons (.plain hv) hparts, ?_, hfits⟩
      rw [hsize, Nat.add_assoc]
      rfl
    cases e with
    | starred p e =>
      rw [evalItems] at h
      obtain ⟨v, u, hv, hrest⟩ := Run.of_bind_ok h
      obtain ⟨more, u', hmore, hrest⟩ := Run.of_bind_ok hrest
      obtain ⟨ys, rfl, hys⟩ := Value.of_appendItems_ok hmore
      obtain ⟨parts, hparts, hsize, hfits⟩ := of_evalItems_ok rest hrest
      rw [Array.size_append] at hsize hfits
      have htotal : xs.size = done.size + (ys.size + Gathered.count parts) := by omega
      obtain ⟨hlength, hlimit⟩ | ⟨kind, r, rfl⟩ := hys
      · exact ⟨.sized ys :: parts, .cons (.sized hv hlength) hparts, htotal, hlimit, hfits⟩
      · exact ⟨.walked ys :: parts, .cons (.walked hv) hparts, htotal, hfits⟩
    | _ => exact plain h

def elements? : Expr → Option (List Expr)
  | list _ es | tuple _ es | set _ es => some es
  | _ => none

end Expr

namespace StoreM

theorem length?_of_newList {xs : Array Value} {s t : Store} {v : Value} (h : newList xs s = .ok v t) :
    v.length? t = .ok (some xs.size) t := by
  obtain ⟨r, rfl, hr⟩ := of_newList_ok h
  have hget := t.run_getList r
  rw [hr] at hget
  exact Run.bind_ok hget

theorem length?_of_newSet {set : ItemSet} {s t : Store} {v : Value} (h : newSet set s = .ok v t) :
    v.length? t = .ok (some set.arranged.size) t := by
  obtain ⟨cells⟩ := s
  cases h
  have hcell : (Store.mk (cells.push (.set set.arranged))).cells[cells.size]? = some (.set set.arranged) := by
    simp
  exact Run.bind_ok (run_getSet hcell)

end StoreM

namespace Expr

variable {budget : Int} {e : Expr} {es : List Expr} {v : Value} {s t : Session}

theorem of_display_ok (he : e.elements? = some es) (h : e.eval budget s = .ok v t) :
    ∃ parts n, List.Forall₂ (Gives budget) es parts ∧ Gathered.Fits 0 parts ∧
      v.length? t.world.store = .ok (some n) t.world.store ∧ n ≤ Gathered.count parts ∧
        ((∀ p, e ≠ set p es) → n = Gathered.count parts) := by
  have gathered {xs : Array Value} {u u' : Session} (hxs : evalItems budget es #[] u = .ok xs u') :
      ∃ parts, List.Forall₂ (Gives budget) es parts ∧ Gathered.Fits 0 parts ∧
        xs.size = Gathered.count parts := by
    obtain ⟨parts, hparts, hsize, hfits⟩ := of_evalItems_ok es hxs
    exact ⟨parts, hparts, hfits, hsize.trans (Nat.zero_add _)⟩
  cases e with
  | list p items =>
    cases he
    simp only [eval] at h
    obtain ⟨_, u, -, h⟩ := Run.of_bind_ok h
    obtain ⟨xs, u, hxs, h⟩ := Run.of_bind_ok h
    obtain ⟨parts, hparts, hfits, hsize⟩ := gathered hxs
    obtain ⟨store, hnew, rfl⟩ := ScriptM.of_ofStore_ok h
    exact ⟨parts, xs.size, hparts, hfits, StoreM.length?_of_newList hnew, Nat.le_of_eq hsize, fun _ => hsize⟩
  | tuple p items =>
    cases he
    simp only [eval] at h
    obtain ⟨_, u, -, h⟩ := Run.of_bind_ok h
    obtain ⟨xs, u, hxs, h⟩ := Run.of_bind_ok h
    obtain ⟨parts, hparts, hfits, hsize⟩ := gathered hxs
    cases h
    exact ⟨parts, xs.size, hparts, hfits, rfl, Nat.le_of_eq hsize, fun _ => hsize⟩
  | set p items =>
    cases he
    simp only [eval] at h
    obtain ⟨_, u, -, h⟩ := Run.of_bind_ok h
    obtain ⟨xs, u, hxs, h⟩ := Run.of_bind_ok h
    obtain ⟨parts, hparts, hfits, hsize⟩ := gathered hxs
    obtain ⟨members, u, hmembers, h⟩ := Run.of_bind_ok h
    obtain ⟨store, hnew, rfl⟩ := ScriptM.of_ofStore_ok h
    have hdistinct : members.size ≤ xs.size :=
      ItemSet.size_ofItems_le xs members (ScriptM.of_ofExcept_ok hmembers)
    have harranged := members.size_arranged_le
    exact ⟨parts, members.arranged.size, hparts, hfits, StoreM.length?_of_newSet hnew, by omega,
      fun hset => (hset p rfl).elim⟩
  | _ => cases he

theorem of_assign_subscript_ok {p : Place} {container index : Expr}
    (h : (subscript p container index).assign budget v s = .ok () t) : ∃ c i u u',
      container.eval budget s = .ok c u ∧ index.eval budget u = .ok i u' ∧
        ∀ q xs, u'.world.store.list? q = some xs → ∃ zs, t.world.store.list? q = some zs ∧
          (c ≠ .list q → zs = xs) ∧ Value.SizeAfter c i v u'.world.store q xs.size zs.size := by
  simp only [assign] at h
  obtain ⟨c, u, hc, h⟩ := Run.of_bind_ok h
  obtain ⟨i, u', hi, h⟩ := Run.of_bind_ok h
  obtain ⟨store, hassign, rfl⟩ := ScriptM.of_ofStore_ok h
  exact ⟨c, i, u, u', hc, hi, fun q xs hq => Value.of_assignItem_ok hassign hq⟩

/-- After a display with starred parts there are no more items than the limit up to the last part of known
length, and after an assignment to an item or a slice only a slice without a step has changed the size of its
list. What comes after the last part of known length, and what is assigned to a slice, is not limited. -/
theorem sequence_sizes (budget : Int) :
    (∀ e es s v t, e.elements? = some es → e.eval budget s = .ok v t →
      ∃ parts n, List.Forall₂ (Gives budget) es parts ∧ Gathered.Fits 0 parts ∧
        v.length? t.world.store = .ok (some n) t.world.store ∧ n ≤ Gathered.count parts ∧
        ((∀ p, e ≠ set p es) → n = Gathered.count parts) ∧
        n ≤ maxSequenceLength + Gathered.unlimited 0 parts ∧
        (∀ before xs, parts = before ++ [.sized xs] → n ≤ maxSequenceLength) ∧
        ((∀ xs, .walked xs ∉ parts) → n ≤ maxSequenceLength + es.length)) ∧
    ∀ p container index v s t, (subscript p container index).assign budget v s = .ok () t → ∃ c i u u',
      container.eval budget s = .ok c u ∧ index.eval budget u = .ok i u' ∧
        ∀ q xs, u'.world.store.list? q = some xs → ∃ zs, t.world.store.list? q = some zs ∧
          (c ≠ .list q → zs = xs) ∧ Value.SizeAfter c i v u'.world.store q xs.size zs.size := by
  refine ⟨fun e es s v t he h => ?_, fun p container index v s t h => of_assign_subscript_ok h⟩
  obtain ⟨parts, n, hparts, hfits, hlength, hle, heq⟩ := of_display_ok he h
  have hbound := Gathered.count_le parts 0 0 hfits (Nat.zero_le _)
  refine ⟨parts, n, hparts, hfits, hlength, hle, heq, by omega, fun before xs hlast => ?_, fun hwalked => ?_⟩
  · rw [hlast, Gathered.unlimited_append_sized, ← hlast] at hbound
    omega
  · have hunlimited := Gathered.unlimited_le parts 0 hwalked
    have hsame := hparts.length_eq
    omega

end Expr

section Overlong

/-! A range of as many items as the limit allows, and one item after it. -/

theorem Value.sizedLength?_range {r : IntRange} (h : r.length < Nat.pow 2 63) (s : Store) :
    (range r).sizedLength? s = .ok (some r.length) s := by
  have hsmall : ¬ ((some r.length).any fun n => decide (n ≥ Nat.pow 2 63)) = true := by simpa using h
  have hlength : (range r).length? s = .ok (some r.length) s := rfl
  unfold sizedLength?
  rw [Run.bind_ok hlength, if_neg hsmall]
  rfl

theorem Value.appendItems_range {done : Array Value} {r : IntRange} {s : Session}
    (h : done.size + r.length ≤ maxSequenceLength) :
    appendItems done (range r) s = .ok (done ++ r.items) s := by
  have hword : r.length < Nat.pow 2 63 := by
    have hlimit : maxSequenceLength < Nat.pow 2 63 := by decide
    omega
  have hlength := ScriptM.run_ofStore (sizedLength?_range hword s.world.store)
  have hitems : (range r).items s.world.store = .ok r.items s.world.store := rfl
  have hchecked : checkAppended done (range r) s = .ok () s := by
    unfold checkAppended
    rw [Run.bind_ok hlength]
    exact (ScriptM.run_checkLength _ s).trans (if_neg (by omega))
  unfold appendItems
  rw [Run.bind_ok hchecked, Run.bind_ok (ScriptM.run_ofStore hitems)]
  rfl

variable (p₁ p₂ p₃ p₄ p₅ p₆ : Place)

def fullRange : IntRange := ⟨0, 100000, 1⟩

def fullRangeCall : Expr := .call p₁ (.name p₂ "range") [.const p₃ (.int 100000)] []

theorem eval_fullRangeCall (w : World) (line column : Option Nat) :
    (fullRangeCall p₁ p₂ p₃).eval defaultBudget ⟨w, [], 2, line, column⟩ =
      .ok (.range fullRange) ⟨w, [], 5, line, column⟩ := by
  have hlookup : ScriptM.lookup p₂ "range" ⟨w, [], 4, line, column⟩ =
      .ok (.function (.builtin .range)) ⟨w, [], 4, line, column⟩ := by
    have hfield : Field.ofName? "range" = none := by decide +kernel
    rw [ScriptM.lookup_of_public (by decide +kernel), hfield]
    rfl
  have hname : (Expr.name p₂ "range").eval defaultBudget ⟨w, [], 3, line, column⟩ =
      .ok (.function (.builtin .range)) ⟨w, [], 4, line, column⟩ := hlookup
  exact (Run.bind_ok hname).trans rfl

theorem eval_overlong (w : World) (line column : Option Nat) : ∃ s r,
    (Expr.list p₅ [.starred p₄ (fullRangeCall p₁ p₂ p₃), .const p₆ (.int 1)]).eval defaultBudget
      ⟨w, [], 1, line, column⟩ = .ok (.list r) s ∧
    ∃ xs, s.world.store.list? r = some xs ∧ xs.size = maxSequenceLength + 1 := by
  have happend : Value.appendItems #[] (.range fullRange) ⟨w, [], 5, line, column⟩ =
      .ok (#[] ++ fullRange.items) ⟨w, [], 5, line, column⟩ := Value.appendItems_range (by decide)
  have hitems : Expr.evalItems defaultBudget [.starred p₄ (fullRangeCall p₁ p₂ p₃), .const p₆ (.int 1)] #[]
      ⟨w, [], 2, line, column⟩ = .ok ((#[] ++ fullRange.items).push (.int 1)) ⟨w, [], 6, line, column⟩ := by
    rw [Expr.evalItems, Run.bind_ok (eval_fullRangeCall p₁ p₂ p₃ w line column), Run.bind_ok happend]
    rfl
  have hsize : ((#[] ++ fullRange.items).push (.int 1)).size = maxSequenceLength + 1 := by
    have hlength : fullRange.length = maxSequenceLength := by decide
    rw [Array.size_push, Array.size_append, IntRange.items, Array.size_map, Array.size_range, hlength]
    exact congrArg Nat.succ (Nat.zero_add _)
  generalize (#[] ++ fullRange.items).push (.int 1) = xs at *
  refine ⟨_, _, (Run.bind_ok hitems).trans rfl, xs, ?_, hsize⟩
  exact Store.list?_eq_some.mpr (by simp)

/-- A display of a full range and one item after it, wherever it stands in the source. -/
def isOverlong : List Stmt → Bool
  | [.expr _ (.list _ [.starred _ (.call _ (.name _ name) [.const _ (.int m)] []), .const _ (.int n)])] =>
    name == "range" && m == 100000 && n == 1
  | _ => false

theorem of_isOverlong {body : List Stmt} (h : isOverlong body = true) : ∃ p p₁ p₂ p₃ p₄ p₅ p₆,
    body = [.expr p (.list p₅ [.starred p₄ (fullRangeCall p₁ p₂ p₃), .const p₆ (.int 1)])] := by
  unfold isOverlong at h
  split at h
  · simp only [Bool.and_eq_true, beq_iff_eq] at h
    obtain ⟨⟨rfl, rfl⟩, rfl⟩ := h
    exact ⟨_, _, _, _, _, _, _, rfl⟩
  · cases h

theorem ofSource?_overlong : ∃ p p₁ p₂ p₃ p₄ p₅ p₆, Stmt.ofSource? "[*range(100000), 1]\n" =
    some [.expr p (.list p₅ [.starred p₄ (fullRangeCall p₁ p₂ p₃), .const p₆ (.int 1)])] := by
  have hshape : (Stmt.ofSource? "[*range(100000), 1]\n").any isOverlong = true := by decide +kernel
  cases hread : Stmt.ofSource? "[*range(100000), 1]\n" with
  | none =>
    rw [hread] at hshape
    cases hshape
  | some body =>
    rw [hread] at hshape
    obtain ⟨p, p₁, p₂, p₃, p₄, p₅, p₆, rfl⟩ := of_isOverlong hshape
    exact ⟨p, p₁, p₂, p₃, p₄, p₅, p₆, rfl⟩

/-- The script makes a list of more items than the limit allows, and is not stopped. -/
theorem runSource_overlong : ∃ s r xs,
    ScriptM.runSource defaultBudget "[*range(100000), 1]\n" (.start {}) = .ok () s ∧
      s.world.store.list? r = some xs ∧ xs.size = maxSequenceLength + 1 := by
  obtain ⟨p, p₁, p₂, p₃, p₄, p₅, p₆, hscript⟩ := ofSource?_overlong
  obtain ⟨s, r, heval, xs, hxs, hsize⟩ :=
    eval_overlong p₁ p₂ p₃ p₄ p₅ p₆ (.initial {}) (some p.line) (some p.column)
  have hbegin : ScriptM.beginAt p (.start {}) = .ok () ⟨.initial {}, [], 0, some p.line, some p.column⟩ := rfl
  have htick : ScriptM.tick defaultBudget ⟨.initial {}, [], 0, some p.line, some p.column⟩ =
      .ok () ⟨.initial {}, [], 1, some p.line, some p.column⟩ := rfl
  have hrun : Stmt.runAll defaultBudget
      [.expr p (.list p₅ [.starred p₄ (fullRangeCall p₁ p₂ p₃), .const p₆ (.int 1)])] (.start {}) =
        .ok .next s := by
    rw [Stmt.runAll, Stmt.run, bind_assoc, Run.bind_ok hbegin, bind_assoc, Run.bind_ok htick, bind_assoc,
      Run.bind_ok heval]
    rfl
  have hnull : ("[*range(100000), 1]\n".toList.contains '\x00') = false := by decide +kernel
  refine ⟨s, r, xs, ?_, hxs, hsize⟩
  unfold ScriptM.runSource
  rw [hnull, hscript]
  change ScriptM.runScript _ _ _ = _
  unfold ScriptM.runScript ScriptM.reported
  rw [Run.bind_ok hrun]
  rfl

end Overlong
end WireSketch
