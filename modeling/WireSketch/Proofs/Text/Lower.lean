import Mathlib.Data.String.Basic
import WireSketch.Text.Lower

/-! Lower case of texts in a row: commas stay where they are and none are added. -/
namespace WireSketch.Text

theorem mem_of_floor?_eq_some {α : Type} {key : α → Nat} {table : Array α} {x : Nat} {entry : α}
    (h : floor? key table x = some entry) : entry ∈ table := by
  unfold floor? at h
  split at h
  · cases h
  · exact Array.mem_of_getElem? h

theorem toNat_ofNat_eq (n : Nat) : (Char.ofNat n).toNat = n ∨ (Char.ofNat n).toNat = 0 := by
  by_cases h : n.isValidChar
  · exact .inl (congrArg Char.toNat (dif_pos h))
  · exact .inr (congrArg Char.toNat (dif_neg h))

/-- The lower cases of the table stand behind the comma. -/
theorem comma_lt_lower : ∀ run ∈ lowerRuns, ','.toNat < run.2.2.2 := by
  have hall : lowerRuns.all (fun run => ','.toNat < run.2.2.2) = true := by decide +kernel
  exact fun run hrun => of_decide_eq_true (Array.all_eq_true_iff_forall_mem.mp hall run hrun)

theorem eq_comma_of_toLower {c : Char} (h : c.toLower = ',') : c = ',' := by
  unfold Char.toLower at h
  split at h
  · rename_i hupper
    have hval : (c.val.toNat + 32) % 2 ^ 32 = 44 := congrArg Char.toNat h
    have hlow : 65 ≤ c.val.toNat := UInt32.le_iff_toNat_le.mp hupper.1
    have hhigh : c.val.toNat ≤ 90 := UInt32.le_iff_toNat_le.mp hupper.2
    omega
  · exact h

/-- Only a comma has a comma as its lower case. -/
theorem eq_comma_of_mem_lowerChar {c : Char} (h : ',' ∈ lowerChar c) : c = ',' := by
  unfold lowerChar at h
  split at h
  · exact eq_comma_of_toLower (List.mem_singleton.mp h).symm
  · split at h
    · exact absurd h (by decide)
    · split at h
      · rename_i first last step lower hrun
        split at h
        · have hlower : ','.toNat < lower := comma_lt_lower _ (mem_of_floor?_eq_some hrun)
          have hcode := congrArg Char.toNat (List.mem_singleton.mp h)
          have hcomma : ','.toNat = 44 := rfl
          rcases toNat_ofNat_eq (lower + (c.toNat - first)) with hn | hn <;> omega
        · exact (List.mem_singleton.mp h).symm
      · exact (List.mem_singleton.mp h).symm

theorem lowerChar_ne_nil (c : Char) : lowerChar c ≠ [] := by
  unfold lowerChar
  split
  · simp
  · split
    · simp
    · split
      · split <;> simp
      · simp

theorem toList_toLower (s : String) : (toLower s).toList = lowerAfter [] s.toList := String.toList_ofList

/-- The lower case of a letter, or the sigma that ends a word. -/
theorem mem_lowerAfter {x : Char} : {before cs : List Char} → x ∈ lowerAfter before cs →
    x = 'ς' ∨ ∃ c ∈ cs, x ∈ lowerChar c
  | _, [], h => by cases h
  | before, c :: cs, h => by
    unfold lowerAfter at h
    rcases List.mem_append.mp h with hfirst | hrest
    · split at hfirst
      · exact .inl (List.mem_singleton.mp hfirst)
      · exact .inr ⟨c, List.mem_cons_self, hfirst⟩
    · exact (mem_lowerAfter hrest).imp_right fun ⟨d, hd, hx⟩ => ⟨d, List.mem_cons_of_mem c hd, hx⟩

theorem lowerAfter_ne_nil (before : List Char) (c : Char) (cs : List Char) :
    lowerAfter before (c :: cs) ≠ [] := by
  unfold lowerAfter
  dsimp only
  split
  · exact List.cons_ne_nil _ _
  · exact List.append_ne_nil_of_left_ne_nil (lowerChar_ne_nil c) _

theorem comma_notMem_toLower {s : String} (h : ',' ∉ s.toList) : ',' ∉ (toLower s).toList := by
  rw [toList_toLower]
  intro hcomma
  rcases mem_lowerAfter hcomma with hsigma | ⟨c, hc, hlower⟩
  · cases hsigma
  · exact h (eq_comma_of_mem_lowerChar hlower ▸ hc)

theorem toLower_ne_empty {s : String} (h : s ≠ "") : toLower s ≠ "" := by
  intro hlower
  obtain ⟨c, cs, hcs⟩ := List.exists_cons_of_ne_nil (mt String.toList_eq_nil_iff.mp h)
  have hnil : lowerAfter [] (c :: cs) = [] := by
    rw [← hcs, ← toList_toLower, hlower]
    rfl
  exact lowerAfter_ne_nil [] c cs hnil

/-- A comma has no case and is not passed over, so that nothing behind it counts. -/
theorem meetsCased_append_comma (others : List Char) :
    (cs : List Char) → meetsCased (cs ++ ',' :: others) = meetsCased cs
  | [] => by
    have hpassed : inRanges passedRanges ','.toNat = false := by decide +kernel
    have hcased : inRanges casedRanges ','.toNat = false := by decide +kernel
    have hcomma : meetsCased (',' :: others) = if inRanges passedRanges ','.toNat then meetsCased others
        else inRanges casedRanges ','.toNat := rfl
    rw [List.nil_append, hcomma, hpassed, hcased]
    rfl
  | c :: cs => by
    rw [List.cons_append, meetsCased, meetsCased, meetsCased_append_comma others cs]

theorem lowerAfter_comma (others : List Char) :
    (cs before : List Char) → lowerAfter (before ++ ',' :: others) cs = lowerAfter before cs
  | [], _ => rfl
  | c :: cs, before => by
    rw [lowerAfter, lowerAfter, meetsCased_append_comma, ← List.cons_append, lowerAfter_comma others cs]

/-- Lower case goes through a comma. -/
theorem lowerAfter_append_comma (others : List Char) : (cs before : List Char) →
    lowerAfter before (cs ++ ',' :: others) = lowerAfter before cs ++ ',' :: lowerAfter [] others
  | [], before => by
    have hrest : lowerAfter (',' :: before) others = lowerAfter [] others := lowerAfter_comma before others []
    have hcomma : lowerAfter before (',' :: others) = lowerChar ',' ++ lowerAfter (',' :: before) others := rfl
    have hlower : lowerChar ',' = [','] := by decide
    rw [List.nil_append, hcomma, hrest, hlower]
    rfl
  | c :: cs, before => by
    rw [List.cons_append, lowerAfter, lowerAfter, meetsCased_append_comma, lowerAfter_append_comma others cs,
      List.append_assoc]

theorem toList_toLower_intercalate : (names : List String) → (toLower (",".intercalate names)).toList =
    [','].intercalate ((names.map toLower).map String.toList)
  | [] => rfl
  | [name] => by simp [List.intercalate]
  | name :: other :: names => by
    have ih := toList_toLower_intercalate (other :: names)
    have hsep : ",".toList = [','] := rfl
    rw [toList_toLower, String.toList_intercalate, hsep] at ih ⊢
    simp only [List.map_cons] at ih ⊢
    rw [List.intercalate_cons_cons, List.append_assoc, List.singleton_append, lowerAfter_append_comma, ih,
      ← toList_toLower, List.intercalate_cons_cons, List.append_assoc, List.singleton_append]

/-- Names that are not empty and hold no comma are known from their row up to case. -/
theorem toLower_of_row {names others : List String} (hn : ∀ s ∈ names, s ≠ "" ∧ ',' ∉ s.toList)
    (ho : ∀ s ∈ others, s ≠ "" ∧ ',' ∉ s.toList)
    (h : toLower (",".intercalate names) = toLower (",".intercalate others)) :
    names.map toLower = others.map toLower := by
  have row {xs : List String} (hxs : ∀ s ∈ xs, s ≠ "" ∧ ',' ∉ s.toList) (hne : xs ≠ []) :
      (toLower (",".intercalate xs)).toList.splitOn ',' = (xs.map toLower).map String.toList := by
    rw [toList_toLower_intercalate, List.splitOn_intercalate]
    · simp only [List.forall_mem_map]
      exact fun s hs => comma_notMem_toLower (hxs s hs).2
    · simpa using hne
  have empty {xs : List String} (hxs : ∀ s ∈ xs, s ≠ "" ∧ ',' ∉ s.toList)
      (hlow : (toLower (",".intercalate xs)).toList = []) : xs = [] := by
    by_contra hne
    have hrow := row hxs hne
    rw [hlow, List.splitOn_nil] at hrow
    obtain ⟨x, rest, rfl⟩ := List.exists_cons_of_ne_nil hne
    rw [List.map_cons, List.map_cons, List.cons.injEq] at hrow
    exact toLower_ne_empty (hxs x (by simp)).1 (String.toList_eq_nil_iff.mp hrow.1.symm)
  by_cases hne : names = []
  · subst hne
    have hnil : (toLower (",".intercalate others)).toList = [] := by
      rw [← h, toList_toLower_intercalate]
      rfl
    rw [empty ho hnil]
  · by_cases hno : others = []
    · subst hno
      refine absurd (empty hn ?_) hne
      rw [h, toList_toLower_intercalate]
      rfl
    · have hsplit := congrArg (fun s => s.toList.splitOn ',') h
      have hlists := (row hn hne).symm.trans (hsplit.trans (row ho hno))
      exact List.map_injective_iff.mpr (fun _ _ => String.ext_iff.mpr) hlists

end WireSketch.Text
