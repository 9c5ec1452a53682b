import Mathlib.Data.List.Basic
import WireSketch.Number.Reading

/-! Decimal digits in a row, of whatever script, are read as the number that they denote. -/
namespace WireSketch

namespace Text

def numeral (ds : List Char) : Nat := ds.foldl (fun n c => n * 10 + (digitValue? c).getD 0) 0

theorem digitValue?_lt_ten {c : Char} {d : Nat} (h : digitValue? c = some d) : d < 10 := by
  unfold digitValue? at h
  split at h
  · split at h
    · rename_i hdigit
      obtain ⟨-, hhigh⟩ := Bool.and_eq_true_iff.mp hdigit
      have hhigh : c.toNat ≤ 57 := of_decide_eq_true hhigh
      have hd : c.toNat - 0x30 = d := Option.some.inj h
      omega
    · cases h
  · dsimp only at h
    split at h
    · have hd := Option.some.inj h
      omega
    · cases h

def wideBlanks : List Nat :=
  [0x85, 0xa0, 0x1680, 0x2000, 0x2001, 0x2002, 0x2003, 0x2004, 0x2005, 0x2006, 0x2007, 0x2008, 0x2009,
    0x200a, 0x2028, 0x2029, 0x202f, 0x205f, 0x3000]

theorem mem_wideBlanks {c : Char} (h : isBlank c = true) (hwide : ¬ c.toNat < 0x80) :
    c.toNat ∈ wideBlanks := by
  simp only [isBlank, Bool.or_eq_true, Bool.and_eq_true, decide_eq_true_eq, beq_iff_eq] at h
  simp only [wideBlanks, List.mem_cons, List.not_mem_nil, or_false]
  omega

/-- No digit is a blank. -/
theorem isDecimalDigit_of_isBlank {c : Char} (h : isBlank c = true) : isDecimalDigit c = false := by
  unfold isDecimalDigit digitValue?
  split
  · have hdigit : c.isDigit = false := by
      rw [← Bool.not_eq_true]
      intro hdigit
      obtain ⟨hlow, hhigh⟩ := Bool.and_eq_true_iff.mp hdigit
      have hlow : 48 ≤ c.toNat := of_decide_eq_true hlow
      have hhigh : c.toNat ≤ 57 := of_decide_eq_true hhigh
      simp only [isBlank, Bool.or_eq_true, Bool.and_eq_true, decide_eq_true_eq, beq_iff_eq] at h
      omega
    rw [hdigit]
    rfl
  · rename_i hwide
    have hnone : ∀ n ∈ wideBlanks,
        ¬ (floorEntry digitZeros n ≤ n ∧ n < floorEntry digitZeros n + 10) := by decide +kernel
    rw [if_neg (hnone c.toNat (mem_wideBlanks h hwide))]
    rfl

end Text

namespace Reading
open Text

/-- A digit of any script as one of ASCII. -/
def narrowDigit (c : Char) : Char := Char.ofNat (0x30 + (digitValue? c).getD 0)

theorem narrowDigit_eq {c : Char} (h : isDecimalDigit c = true) (hnarrow : c.toNat < 0x80) :
    narrowDigit c = c := by
  unfold isDecimalDigit digitValue? at h
  rw [if_pos hnarrow] at h
  split at h
  · rename_i hdigit
    have hlow : 48 ≤ c.toNat := of_decide_eq_true (Bool.and_eq_true_iff.mp hdigit).1
    unfold narrowDigit digitValue?
    rw [if_pos hnarrow, if_pos hdigit, Option.getD_some, Nat.add_sub_cancel' hlow, Char.ofNat_toNat]
  · cases h

theorem narrow_digits {ds : List Char} (h : ∀ c ∈ ds, isDecimalDigit c = true) :
    narrow ds = ds.map narrowDigit := by
  unfold narrow
  split
  · rename_i hall
    refine (List.map_id' ds).symm.trans (List.map_congr_left fun c hc => ?_)
    exact (narrowDigit_eq (h c hc) (of_decide_eq_true (List.all_eq_true.mp hall c hc))).symm
  · refine List.map_congr_left fun c hc => ?_
    have hblank : isBlank c = false := by
      rw [← Bool.not_eq_true]
      exact fun hb => Bool.noConfusion ((isDecimalDigit_of_isBlank hb).symm.trans (h c hc))
    obtain ⟨d, hd⟩ := Option.isSome_iff_exists.mp (h c hc)
    rw [if_neg (by simp [hblank]), narrowDigit, hd]
    rfl

/-- What a digit of ASCII is, as readers look at it. -/
theorem digit_facts : ∀ d < 10, baseDigit? (Char.ofNat (0x30 + d)) = some d ∧
    Char.ofNat (0x30 + d) ≠ '_' ∧ Char.ofNat (0x30 + d) ≠ '+' ∧ Char.ofNat (0x30 + d) ≠ '-' ∧
    isAsciiBlank (Char.ofNat (0x30 + d)) = false := by decide

theorem narrowDigit_facts {c : Char} {d : Nat} (h : digitValue? c = some d) :
    baseDigit? (narrowDigit c) = some d ∧ narrowDigit c ≠ '_' ∧ narrowDigit c ≠ '+' ∧
      narrowDigit c ≠ '-' ∧ isAsciiBlank (narrowDigit c) = false := by
  unfold narrowDigit
  rw [h, Option.getD_some]
  exact digit_facts d (digitValue?_lt_ten h)

/-- Digits in a row are read to their end, from the left. -/
theorem digits_plain {base : Nat} {ds : List Char}
    (h : ∀ c ∈ ds, c ≠ '_' ∧ ∃ d < base, baseDigit? c = some d) (n count : Nat) :
    digits base ds n count =
      some (ds.foldl (fun n c => n * base + (baseDigit? c).getD 0) n, count + ds.length, []) := by
  induction ds generalizing n count with
  | nil => rfl
  | cons c ds ih =>
    obtain ⟨hunderscore, d, hlt, hd⟩ := h c List.mem_cons_self
    rw [digits, hd]
    · dsimp only
      rw [if_pos hlt, ih (fun b hb => h b (List.mem_cons_of_mem c hb)), List.foldl_cons, hd,
        Option.getD_some, List.length_cons, Nat.add_assoc, Nat.add_comm 1]
    · exact fun _ _ hc => absurd hc hunderscore
    · exact fun hc _ => absurd hc hunderscore

theorem digits_narrowed {ds : List Char} (h : ∀ c ∈ ds, isDecimalDigit c = true) (n count : Nat) :
    digits 10 (ds.map narrowDigit) n count =
      some (ds.foldl (fun n c => n * 10 + (digitValue? c).getD 0) n, count + ds.length, []) := by
  have hplain : ∀ c ∈ ds.map narrowDigit, c ≠ '_' ∧ ∃ d < 10, baseDigit? c = some d := by
    refine List.forall_mem_map.mpr fun c hc => ?_
    obtain ⟨d, hd⟩ := Option.isSome_iff_exists.mp (h c hc)
    obtain ⟨hbase, hunderscore, -, -, -⟩ := narrowDigit_facts hd
    exact ⟨hunderscore, d, digitValue?_lt_ten hd, hbase⟩
  have hvalue : ∀ m, ∀ c ∈ ds, m * 10 + (baseDigit? (narrowDigit c)).getD 0 = m * 10 + (digitValue? c).getD 0 := by
    intro m c hc
    obtain ⟨d, hd⟩ := Option.isSome_iff_exists.mp (h c hc)
    rw [(narrowDigit_facts hd).1, hd]
  rw [digits_plain hplain, List.foldl_map, List.foldl_ext _ _ n hvalue, List.length_map]

/-- A base of ten is marked by nothing. -/
theorem dropMark_ten (s : List Char) : dropMark 10 s = s := by
  unfold dropMark
  split
  · rename_i c r
    have hmark : markedBase? c ≠ some 10 := by
      unfold markedBase?
      split
      · simp
      split
      · simp
      split <;> simp
    rw [if_neg hmark]
  · rfl

/-- Digits in a row are read as what they denote, unless they are too many. -/
theorem int_digits {ds : List Char} (hne : ds ≠ []) (h : ∀ c ∈ ds, isDecimalDigit c = true) :
    int ds 10 = if ds.length > maxDigits then .tooLong ds.length else .value (numeral ds) := by
  have hread := digits_narrowed h 0 0
  have hplain : signed ((ds.map narrowDigit).dropWhile isAsciiBlank) = (false, ds.map narrowDigit) := by
    cases ds with
    | nil => exact absurd rfl hne
    | cons c ds =>
      obtain ⟨d, hd⟩ := Option.isSome_iff_exists.mp (h c List.mem_cons_self)
      obtain ⟨-, -, hplus, hminus, hblank⟩ := narrowDigit_facts hd
      rw [List.map_cons, List.dropWhile_cons_of_neg (by simp [hblank]), signed]
      · exact fun _ hc => hplus (List.cons.inj hc).1
      · exact fun _ hc => hminus (List.cons.inj hc).1
  have hlength : ds.length ≠ 0 := fun h0 => hne (List.length_eq_zero_iff.mp h0)
  unfold int
  rw [narrow_digits h, hplain]
  dsimp only
  rw [if_neg (by decide)]
  dsimp only
  rw [dropMark_ten, hread]
  simp [numeral, hlength]

end Reading
end WireSketch
