import Mathlib.Data.List.Basic
import WireSketch.Proofs.Program.Contract
import WireSketch.Value.Table

/-! Tables as their entries: which keys they find, and that no two entries have one key. -/
namespace WireSketch

theorem Except.attach_of_ok {ε α : Type} {x : Except ε α} {a : α} (h : x = .ok a) : attach x = .ok ⟨a, h⟩ := by
  subst h
  rfl

namespace Value

variable {a b : Value}

theorem sameKey_iff : a.sameKey b ↔ ∃ k, a.key = .ok k ∧ b.key = .ok k := by
  unfold sameKey
  split
  · rename_i x y
    simp only [key, beq_iff_eq, Except.ok.injEq]
    constructor
    · intro h
      exact ⟨_, rfl, by rw [h]⟩
    · rintro ⟨k, hx, hy⟩
      exact (String.append_right_inj "s").mp (hx.trans hy.symm)
  · cases a.key with
    | error f => simp
    | ok k =>
      cases b.key with
      | error f => simp
      | ok l =>
        simp only [beq_iff_eq, Except.ok.injEq]
        constructor
        · intro h
          exact ⟨k, rfl, h.symm⟩
        · rintro ⟨m, hk, hl⟩
          exact hk.trans hl.symm

end Value

namespace Table

variable {α : Type} {keyOf : α → Value}

theorem contains_iff (t : Table α keyOf) {k : Key} :
    t.contains k = true ↔ ∃ x ∈ t.entries.toList, (keyOf x).key = .ok k := by
  unfold contains
  rw [Std.HashMap.contains_eq_isSome_getElem?, Option.isSome_iff_exists]
  simp only [t.indexed k]
  constructor
  · rintro ⟨i, x, hx, hk⟩
    exact ⟨x, Array.mem_toList_iff.mpr (Array.mem_of_getElem? hx), hk⟩
  · rintro ⟨x, hx, hk⟩
    obtain ⟨i, hi⟩ := Array.mem_iff_getElem?.mp (Array.mem_toList_iff.mp hx)
    exact ⟨i, x, hi, hk⟩

/-- Two places with one key are one place. -/
theorem pairwise_entries (t : Table α keyOf) :
    t.entries.toList.Pairwise fun x y => ¬ (keyOf y).sameKey (keyOf x) := by
  rw [List.pairwise_iff_getElem]
  intro i j hi hj hij hsame
  obtain ⟨k, hk, hl⟩ := Value.sameKey_iff.mp hsame
  have place {n : Nat} (hn : n < t.entries.toList.length) (h : (keyOf t.entries.toList[n]).key = .ok k) :
      t.index[k]? = some n :=
    (t.indexed k n).mpr ⟨_, by rw [← Array.getElem?_toList, List.getElem?_eq_getElem hn], h⟩
  have heq : i = j := Option.some.inj ((place hi hl).symm.trans (place hj hk))
  omega

theorem contains_upsert (t : Table α keyOf) {change : α → α} (hchange : ∀ x, keyOf (change x) = keyOf x)
    (fresh : α) (k l : Key) (hk : (keyOf fresh).key = .ok k) :
    (t.upsert change hchange fresh k hk).contains l = (k == l || t.contains l) := by
  obtain ⟨entries, index, h⟩ := t
  unfold upsert
  dsimp only
  split
  · rename_i i hi
    have hfound : index.contains k = true := by
      rw [Std.HashMap.contains_eq_isSome_getElem?, hi]
      rfl
    cases hkl : k == l with
    | true =>
      rw [beq_iff_eq] at hkl
      rw [← hkl]
      exact hfound
    | false => rfl
  · simp only [contains, Std.HashMap.contains_insert]

theorem size_upsert_le (t : Table α keyOf) {change : α → α} (hchange : ∀ x, keyOf (change x) = keyOf x)
    (fresh : α) (k : Key) (hk : (keyOf fresh).key = .ok k) :
    (t.upsert change hchange fresh k hk).size ≤ t.size + 1 := by
  obtain ⟨entries, index, h⟩ := t
  unfold upsert size
  dsimp only
  split
  · simp
  · simp

/-- The index of entries that stand from the given place on. -/
def indexFrom (keyOf : α → Value) : Nat → List α → Std.HashMap Key Nat
  | _, [] => {}
  | n, x :: rest =>
    match (keyOf x).key with
    | .ok k => (indexFrom keyOf (n + 1) rest).insert k n
    | .error _ => indexFrom keyOf (n + 1) rest

theorem getElem?_indexFrom {k : Key} {i : Nat} : {entries : List α} → {n : Nat} →
    entries.Pairwise (fun x y => ¬ (keyOf y).sameKey (keyOf x)) →
      ((indexFrom keyOf n entries)[k]? = some i ↔
        ∃ j x, i = n + j ∧ entries[j]? = some x ∧ (keyOf x).key = .ok k)
  | [], n, _ => by simp [indexFrom]
  | x :: rest, n, h => by
    obtain ⟨hx, hrest⟩ := List.pairwise_cons.mp h
    have ih := getElem?_indexFrom (k := k) (i := i) (n := n + 1) hrest
    have hstart : (∃ j y, i = n + j ∧ (x :: rest)[j]? = some y ∧ (keyOf y).key = .ok k) ↔
        i = n ∧ (keyOf x).key = .ok k ∨ ∃ j y, i = n + 1 + j ∧ rest[j]? = some y ∧ (keyOf y).key = .ok k := by
      constructor
      · rintro ⟨_ | j, y, rfl, hy, hk⟩
        · exact .inl ⟨rfl, (Option.some.inj hy) ▸ hk⟩
        · exact .inr ⟨j, y, by omega, hy, hk⟩
      · rintro (⟨rfl, hk⟩ | ⟨j, y, rfl, hy, hk⟩)
        · exact ⟨0, x, rfl, rfl, hk⟩
        · exact ⟨j + 1, y, by omega, hy, hk⟩
    unfold indexFrom
    rw [hstart]
    cases hkey : (keyOf x).key with
    | error f => simpa using ih
    | ok l =>
      dsimp only
      rw [Std.HashMap.getElem?_insert]
      by_cases hl : l = k
      · subst hl
        have hnone : ¬ ∃ j y, i = n + 1 + j ∧ rest[j]? = some y ∧ (keyOf y).key = .ok l := by
          rintro ⟨j, y, -, hy, hk⟩
          exact hx y (List.mem_of_getElem? hy) (Value.sameKey_iff.mpr ⟨l, hk, hkey⟩)
        rw [or_iff_left hnone, if_pos (beq_self_eq_true l)]
        simp [eq_comm]
      · rw [if_neg (by simpa using hl), ih]
        simp [hl]

/-- The table of entries with different keys. -/
def ofDistinct (entries : List α) (h : entries.Pairwise fun x y => ¬ (keyOf y).sameKey (keyOf x)) :
    Table α keyOf where
  entries := entries.toArray
  index := indexFrom keyOf 0 entries
  indexed k i := by
    rw [getElem?_indexFrom h]
    simp

end Table

end WireSketch
