import WireSketch.Proofs.Drawing.Merge
import WireSketch.Proofs.Value.Civil

/-! Attributes looked up by name, in maps that were merged, filled up with defaults or made smaller. -/
namespace WireSketch

namespace Key

/-- The first character of a key tells the kind of its value. -/
def IsOfText (k : Key) : Prop := k.toList.head? = some 's'

theorem not_isOfText_append {mark : String} (k : String) (h : mark.toList.head?.any (· != 's') = true) :
    ¬ IsOfText (mark ++ k) := by
  unfold IsOfText
  rw [String.toList_append]
  cases hmark : mark.toList with
  | nil =>
    rw [hmark] at h
    cases h
  | cons c rest =>
    rw [hmark] at h
    simpa using h

theorem not_isOfText_mark {mark : String} (h : mark.toList.head?.any (· != 's') = true) :
    ¬ IsOfText mark := by
  rw [← String.append_empty (s := mark)]
  exact not_isOfText_append "" h

theorem not_isOfText_ofInt (n : Int) : ¬ IsOfText (ofInt n) := not_isOfText_append _ (by decide)

theorem not_isOfText_ofFloat (x : Float) : ¬ IsOfText (ofFloat x) := by
  unfold ofFloat
  split
  · exact not_isOfText_ofInt _
  · exact not_isOfText_append _ (by decide)

theorem not_isOfText_ofComplex (re im : Float) : ¬ IsOfText (ofComplex re im) := by
  unfold ofComplex
  split
  · exact not_isOfText_ofFloat _
  · rw [String.append_assoc, String.append_assoc]
    exact not_isOfText_append _ (by decide)

theorem not_isOfText_ofRange (r : IntRange) : ¬ IsOfText (ofRange r) := by
  unfold ofRange
  split
  · exact not_isOfText_mark (by decide)
  · exact not_isOfText_append _ (by decide)
  · rw [String.append_assoc, String.append_assoc, String.append_assoc, String.append_assoc]
    exact not_isOfText_append _ (by decide)

end Key

namespace Value

theorem not_isOfText_key {v : Value} (hv : ∀ text, v ≠ .str text) :
    Returns (fun k => ¬ Key.IsOfText k) v.key := by
  have marked {mark : String} (k : String) (h : mark.toList.head?.any (· != 's') = true) :
      Returns (fun k => ¬ Key.IsOfText k) (pure (mark ++ k) : Except Fault Key) :=
    returns_pure (Key.not_isOfText_append k h)
  have plain {k : Key} (h : ¬ Key.IsOfText k) :
      Returns (fun k => ¬ Key.IsOfText k) (.ok k : Except Fault Key) := returns_pure h
  cases v
  case str => exact absurd rfl (hv _)
  all_goals unfold key
  case none | ellipsis | emptySpec => exact plain (Key.not_isOfText_mark (by decide))
  case bool | int => exact plain (Key.not_isOfText_ofInt _)
  case float => exact plain (Key.not_isOfText_ofFloat _)
  case complex => exact plain (Key.not_isOfText_ofComplex _ _)
  case bytes | iterator => exact plain (Key.not_isOfText_append _ (by decide))
  case function f => cases f <;> exact plain (Key.not_isOfText_append _ (by decide))
  case range => exact plain (Key.not_isOfText_ofRange _)
  case tuple | frozenset | directSpec | namedSpec | compositeSpec => exact .bind fun _ => marked _ (by decide)
  case slice | list | dict | set | node => exact fun k hk => by cases hk

/-- A text is the same key as itself alone. -/
theorem sameKey_str_iff {v : Value} {name : String} : v.sameKey (.str name) = true ↔ v = .str name := by
  constructor
  · intro h
    by_cases hv : ∃ text, v = .str text
    · obtain ⟨text, rfl⟩ := hv
      simpa [sameKey] using h
    · obtain ⟨k, hk, hname⟩ := sameKey_iff.mp h
      rw [key] at hname
      cases hname
      exact absurd (by simp [Key.IsOfText, String.toList_append])
        (not_isOfText_key (fun text heq => hv ⟨text, heq⟩) _ hk)
  · rintro rfl
    simp [sameKey]

theorem sameKey_congr_left {a b : Value} (h : a.sameKey b) (c : Value) : a.sameKey c = b.sameKey c := by
  rw [sameKey_comm, sameKey_congr h, sameKey_comm]

end Value

namespace Attrs

/-- The value of a key, whatever stands for the key. -/
def at? (k : Value) : Attrs → Option Value
  | [] => none
  | (l, v) :: rest => if l.sameKey k then some v else at? k rest

variable {a b : Attrs} {k : Value}

theorem find?_cons (name : String) (l v : Value) (rest : Attrs) :
    find? name ((l, v) :: rest) = if l.sameKey (.str name) then some v else find? name rest := by
  by_cases hl : ∃ m, l = .str m
  · obtain ⟨m, rfl⟩ := hl
    simp [find?, Value.sameKey]
  · have hother : ¬ l.sameKey (.str name) := fun hsame => hl ⟨name, Value.sameKey_str_iff.mp hsame⟩
    rw [if_neg hother, find?]
    intro m _ heq
    exact hl ⟨m, congrArg Prod.fst heq⟩

theorem erase_cons (name : String) (l v : Value) (rest : Attrs) :
    erase name ((l, v) :: rest) = if l.sameKey (.str name) then rest else (l, v) :: erase name rest := by
  by_cases hl : ∃ m, l = .str m
  · obtain ⟨m, rfl⟩ := hl
    simp [erase, Value.sameKey]
  · have hother : ¬ l.sameKey (.str name) := fun hsame => hl ⟨name, Value.sameKey_str_iff.mp hsame⟩
    rw [if_neg hother, erase]
    intro m _ heq
    exact hl ⟨m, congrArg Prod.fst heq⟩

theorem find?_eq_at? (name : String) : (a : Attrs) → a.find? name = a.at? (.str name)
  | [] => rfl
  | (l, v) :: rest => by rw [find?_cons, at?, find?_eq_at? name rest]

theorem at?_append (k : Value) (b : Attrs) : (a : Attrs) → at? k (a ++ b) = (a.at? k).or (b.at? k)
  | [] => rfl
  | (l, v) :: rest => by
    rw [List.cons_append, at?, at?, at?_append k b rest]
    split
    · rfl
    · rfl

theorem at?_eq_none (h : ∀ entry ∈ a, ¬ entry.1.sameKey k) : a.at? k = none := by
  induction a with
  | nil => rfl
  | cons entry rest ih =>
    obtain ⟨hentry, hrest⟩ := List.forall_mem_cons.mp h
    rw [at?, if_neg hentry, ih hrest]

theorem at?_set (l v k : Value) : (a : Attrs) → (a.set l v).at? k = if l.sameKey k then some v else a.at? k
  | [] => rfl
  | (m, u) :: rest => by
    unfold set
    by_cases hm : m.sameKey l
    · rw [if_pos hm, at?, at?, Value.sameKey_congr_left hm]
      split
      · rfl
      · rfl
    · rw [if_neg hm, at?, at?, at?_set l v k rest]
      by_cases hk : m.sameKey k
      · have hl : ¬ l.sameKey k := fun hsame => hm (by
          rw [Value.sameKey_congr hsame]
          exact hk)
        rw [if_pos hk, if_neg hl, if_pos hk]
      · rw [if_neg hk, if_neg hk]

/-- In a map that was merged, what was set last is found first. -/
theorem at?_merge (k : Value) : (b a : Attrs) → (a.merge b).at? k = (at? k b.reverse).or (a.at? k)
  | [], _ => rfl
  | (l, v) :: rest, a => by
    have hrest : (a.merge ((l, v) :: rest)).at? k = (at? k rest.reverse).or ((a.set l v).at? k) :=
      at?_merge k rest (a.set l v)
    have hset : (a.set l v).at? k = (at? k [(l, v)]).or (a.at? k) := by
      rw [at?_set, at?]
      split
      · rfl
      · rfl
    rw [hrest, hset, List.reverse_cons, at?_append, Option.or_assoc]

theorem IsMap.at?_reverse (k : Value) : {a : Attrs} → a.IsMap → at? k a.reverse = a.at? k
  | [], _ => rfl
  | (l, v) :: rest, h => by
    obtain ⟨hl, hrest⟩ := List.pairwise_cons.mp h
    rw [List.reverse_cons, at?_append, IsMap.at?_reverse k hrest, at?, at?, at?]
    by_cases hk : l.sameKey k
    · have habsent : at? k rest = none := at?_eq_none fun entry hentry hsame => hl entry hentry (by
        rw [Value.sameKey_congr hk]
        exact hsame)
      rw [habsent, if_pos hk, Option.none_or]
    · rw [if_neg hk, if_neg hk, Option.or_none]

theorem IsMap.at?_merge (hb : b.IsMap) (k : Value) (a : Attrs) :
    (a.merge b).at? k = (b.at? k).or (a.at? k) := by
  rw [Attrs.at?_merge, hb.at?_reverse]

theorem at?_setDefault (name : String) (v k : Value) (a : Attrs) :
    (a.setDefault name v).at? k = (a.at? k).or (at? k [(.str name, v)]) := by
  unfold setDefault
  split
  · rename_i hfound
    rw [at?, at?]
    split
    · rename_i hk
      obtain rfl := Value.sameKey_str_iff.mp (by rwa [Value.sameKey_comm])
      rw [find?_eq_at?] at hfound
      rw [Option.or_of_isSome hfound]
    · rw [Option.or_none]
  · exact at?_append k _ a

theorem IsMap.at?_erase (name : String) (k : Value) : {a : Attrs} → a.IsMap →
    (a.erase name).at? k = if (Value.str name).sameKey k then none else a.at? k
  | [], _ => by
    unfold erase at?
    split
    · rfl
    · rfl
  | (l, v) :: rest, h => by
    obtain ⟨hl, hrest⟩ := List.pairwise_cons.mp h
    rw [erase_cons]
    by_cases hname : l.sameKey (.str name)
    · rw [if_pos hname, at?, Value.sameKey_congr_left hname]
      split
      · rename_i hk
        refine at?_eq_none fun entry hentry hsame => hl entry hentry ?_
        rw [Value.sameKey_congr hname, Value.sameKey_congr hk]
        exact hsame
      · rfl
    · rw [if_neg hname, at?, at?, IsMap.at?_erase name k hrest]
      by_cases hk : l.sameKey k
      · have hother : ¬ (Value.str name).sameKey k := fun hsame => hname (by
          rw [Value.sameKey_congr hsame]
          exact hk)
        rw [if_pos hk, if_pos hk, if_neg hother]
      · rw [if_neg hk, if_neg hk]

theorem erase_sublist (name : String) : (a : Attrs) → (a.erase name).Sublist a
  | [] => List.Sublist.refl _
  | (l, v) :: rest => by
    rw [erase_cons]
    split
    · exact List.sublist_cons_self _ _
    · exact (erase_sublist name rest).cons_cons _

theorem IsMap.erase (h : a.IsMap) (name : String) : (a.erase name).IsMap := h.sublist (erase_sublist name a)

theorem IsMap.set (h : a.IsMap) (k v : Value) : (a.set k v).IsMap := by
  rw [← h.union_eq, set_union]
  exact isMap_union _

end Attrs
end WireSketch
