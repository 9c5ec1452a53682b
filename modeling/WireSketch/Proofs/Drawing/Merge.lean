import WireSketch.Diagram.World
import WireSketch.Proofs.Value.Table

/-!
Maps of attributes merged one after another: every key stays where it stood first, with the value that it
was given last.
-/
namespace WireSketch

namespace Value

variable {a b : Value}

theorem sameKey_comm (a b : Value) : a.sameKey b = b.sameKey a := by
  rw [Bool.eq_iff_iff, sameKey_iff, sameKey_iff]
  exact exists_congr fun _ => And.comm

/-- Values with one key are the same to every other key. -/
theorem sameKey_congr (h : a.sameKey b) (c : Value) : c.sameKey a = c.sameKey b := by
  obtain ⟨k, ha, hb⟩ := sameKey_iff.mp h
  rw [Bool.eq_iff_iff, sameKey_iff, sameKey_iff, ha, hb]

end Value

/-- The entries of a map have different keys. -/
theorem Dict.isMap (d : Dict) : Attrs.IsMap d.entries.toList := d.pairwise_entries

namespace Attrs

/-- The value of a key after the entries have been set in a row, `v` before. -/
def valueAfter (k v : Value) : Attrs → Value
  | [] => v
  | (l, u) :: rest => valueAfter k (if l.sameKey k then u else v) rest

def without (k : Value) (a : Attrs) : Attrs := a.filter fun entry => !entry.1.sameKey k

/-- One map of all the entries: a key stands where it stood first and has the value it was given last. -/
def union : Attrs → Attrs
  | [] => []
  | (k, v) :: rest => (k, valueAfter k v rest) :: (union rest).without k

section Union

variable {a : Attrs} {k l v : Value} {p : Value × Value → Bool}

theorem valueAfter_append (k v : Value) (b : Attrs) :
    (a : Attrs) → valueAfter k v (a ++ b) = valueAfter k (valueAfter k v a) b
  | [] => rfl
  | (_, _) :: rest => valueAfter_append k _ b rest

theorem valueAfter_congr (h : k.sameKey l) : (v : Value) → (a : Attrs) → valueAfter k v a = valueAfter l v a
  | _, [] => rfl
  | v, (m, u) :: rest => by
    unfold valueAfter
    rw [Value.sameKey_congr h, valueAfter_congr h]

/-- Entries of other keys do not matter. -/
theorem valueAfter_filter (hp : ∀ entry : Value × Value, entry.1.sameKey k → p entry) :
    (v : Value) → (a : Attrs) → valueAfter k v (a.filter p) = valueAfter k v a
  | _, [] => rfl
  | v, (m, u) :: rest => by
    by_cases hm : m.sameKey k
    · rw [List.filter_cons_of_pos (hp (m, u) hm)]
      exact valueAfter_filter hp _ rest
    · have hkeep : valueAfter k v ((m, u) :: rest) = valueAfter k v rest := by
        rw [valueAfter, if_neg hm]
      rw [hkeep, List.filter_cons]
      split
      · rw [valueAfter, if_neg hm, valueAfter_filter hp]
      · exact valueAfter_filter hp v rest

theorem valueAfter_of_absent (h : ∀ entry ∈ a, ¬ entry.1.sameKey k) (v : Value) : valueAfter k v a = v := by
  induction a with
  | nil => rfl
  | cons entry rest ih =>
    obtain ⟨hentry, hrest⟩ := List.forall_mem_cons.mp h
    rw [valueAfter, if_neg hentry, ih hrest]

theorem valueAfter_union (k : Value) : (v : Value) → (a : Attrs) → valueAfter k v (union a) = valueAfter k v a
  | _, [] => rfl
  | v, (l, u) :: rest => by
    rw [union, valueAfter, valueAfter]
    by_cases hl : l.sameKey k
    · rw [if_pos hl, if_pos hl, valueAfter_of_absent, valueAfter_congr hl]
      intro entry hentry
      rw [← Value.sameKey_congr hl]
      simpa using (List.mem_filter.mp hentry).2
    · rw [if_neg hl, if_neg hl, without, valueAfter_filter, valueAfter_union]
      intro entry hentry
      have hother : ¬ entry.1.sameKey l := fun hsame => hl (by
        rw [Value.sameKey_comm, ← Value.sameKey_congr hsame, Value.sameKey_comm]
        exact hentry)
      simpa using hother

theorem isMap_union : (a : Attrs) → (union a).IsMap
  | [] => List.Pairwise.nil
  | (k, v) :: rest => by
    refine List.pairwise_cons.mpr ⟨fun entry hentry => ?_, (isMap_union rest).filter _⟩
    simpa using (List.mem_filter.mp hentry).2

/-- A map is put together already. -/
theorem IsMap.union_eq : {a : Attrs} → a.IsMap → union a = a
  | [], _ => rfl
  | (k, v) :: rest, h => by
    obtain ⟨hk, hrest⟩ := List.pairwise_cons.mp h
    rw [union, IsMap.union_eq hrest, valueAfter_of_absent hk]
    refine congrArg _ (List.filter_eq_self.mpr fun entry hentry => ?_)
    simpa using hk entry hentry

theorem union_append_union (b : Attrs) : (a : Attrs) → union (a ++ union b) = union (a ++ b)
  | [] => (isMap_union b).union_eq
  | (k, v) :: rest => by
    rw [List.cons_append, List.cons_append, union, union, union_append_union b rest, valueAfter_append,
      valueAfter_union, valueAfter_append]

theorem set_without_of_same (h : k.sameKey l) (v : Value) :
    (a : Attrs) → (a.set k v).without l = a.without l
  | [] => by simp [set, without, h]
  | (m, u) :: rest => by
    have hrest := set_without_of_same h v rest
    unfold without at hrest ⊢
    unfold set
    split
    · rename_i hm
      rw [Value.sameKey_congr h] at hm
      simp [hm]
    · rw [List.filter_cons, List.filter_cons, hrest]

theorem set_without_of_other (h : ¬ k.sameKey l) (v : Value) :
    (a : Attrs) → (a.set k v).without l = (a.without l).set k v
  | [] => by simp [set, without, h]
  | (m, u) :: rest => by
    have hrest := set_without_of_other h v rest
    unfold without at hrest ⊢
    by_cases hk : m.sameKey k
    · have hl : ¬ m.sameKey l := by
        rwa [Value.sameKey_comm, Value.sameKey_congr hk, Value.sameKey_comm]
      simp [set, hk, hl]
    · by_cases hl : m.sameKey l
      · simp [set, hk, hl, hrest]
      · simp [set, hk, hl, hrest]

/-- Setting an attribute puts one more entry to the map. -/
theorem set_union (k v : Value) : (a : Attrs) → (union a).set k v = union (a ++ [(k, v)])
  | [] => rfl
  | (l, u) :: rest => by
    rw [List.cons_append, union, union, ← set_union k v rest, valueAfter_append]
    by_cases hsame : l.sameKey k
    · have hkl : k.sameKey l := by rwa [Value.sameKey_comm]
      rw [set, if_pos hsame, set_without_of_same hkl, valueAfter, valueAfter, if_pos hkl]
    · have hkl : ¬ k.sameKey l := by rwa [Value.sameKey_comm]
      rw [set, if_neg hsame, set_without_of_other hkl, valueAfter, valueAfter, if_neg hkl]

theorem merge_union_entries (a : Attrs) : (b : Attrs) → (union a).merge b = union (a ++ b)
  | [] => by
    rw [List.append_nil]
    rfl
  | (k, v) :: rest => by
    have hrest := merge_union_entries (a ++ [(k, v)]) rest
    rw [← set_union, List.append_assoc] at hrest
    exact hrest

/-- Maps put together are the map of all their entries. -/
theorem merge_union (a b : Attrs) : (union a).merge (union b) = union (a ++ b) := by
  rw [merge_union_entries, union_append_union]

theorem IsMap.merge (h : a.IsMap) (b : Attrs) : (a.merge b).IsMap := by
  rw [← h.union_eq, merge_union_entries]
  exact isMap_union _

end Union

end Attrs
end WireSketch
