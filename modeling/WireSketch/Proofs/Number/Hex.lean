import Mathlib.Data.List.Induction
import Mathlib.Order.Bounds.Defs
import WireSketch.Proofs.Number.Numeral

/-! Numerals of integers in base 16: reading them, the shortest one, and those with zeros in front. -/
namespace WireSketch

/-- The digits of a number are read back as the number. -/
theorem foldl_toDigits {base : Nat} (hbase : 1 < base) {value : Char → Nat}
    (hvalue : ∀ d < base, value (Nat.digitChar d) = d) (n : Nat) :
    (Nat.toDigits base n).foldl (fun m c => m * base + value c) 0 = n := by
  induction n using Nat.strongRecOn with
  | ind n ih =>
    by_cases h : n < base
    · rw [Nat.toDigits_of_lt_base h, List.foldl_cons, List.foldl_nil, Nat.zero_mul, Nat.zero_add,
        hvalue n h]
    · have hlt : n / base < n := Nat.div_lt_self (by omega) hbase
      rw [Nat.toDigits_of_base_le hbase (Nat.le_of_not_lt h), List.foldl_append, ih _ hlt, List.foldl_cons,
        List.foldl_nil, hvalue _ (Nat.mod_lt n (by omega)), Nat.div_add_mod']

namespace Hex
open Reading

def digits : List Char := "0123456789abcdef".toList

def sign (n : Int) : List Char := if n < 0 then ['-'] else []

/-- A numeral of an integer: a sign if it is negative, and digits in lower case that are read as the integer. -/
def IsNumeral (n : Int) (s : List Char) : Prop :=
  ∃ ds, s = sign n ++ ds ∧ (∀ c ∈ ds, c ∈ digits) ∧ Reading.int s 16 = .value n

def value (ds : List Char) : Nat := ds.foldl (fun m c => m * 16 + (baseDigit? c).getD 0) 0

/-- What a digit is, as readers look at it. -/
theorem digit_facts : ∀ c ∈ digits, (∃ d < 16, baseDigit? c = some d) ∧ c ≠ '_' ∧ c ≠ '+' ∧ c ≠ '-' ∧
    isAsciiBlank c = false ∧ c.toNat < 0x80 ∧ markedBase? c ≠ some 16 := by
  -- The search goes over the digits, not over all characters.
  let (p : Char → Prop) [DecidablePred p] : Decidable (∀ c ∈ digits, p c) := List.decidableBAll p digits
  decide

variable {n : Int} {ds : List Char}

theorem narrow_numeral (h : ∀ c ∈ ds, c ∈ digits) : narrow (sign n ++ ds) = sign n ++ ds := by
  have hsign : ∀ c ∈ sign n, c.toNat < 0x80 := by
    unfold sign
    split <;> simp
  have hall : (sign n ++ ds).all (·.toNat < 0x80) = true := by
    refine List.all_eq_true.mpr fun c hc => decide_eq_true ?_
    rcases List.mem_append.mp hc with hc | hc
    · exact hsign c hc
    · exact (digit_facts c (h c hc)).2.2.2.2.2.1
  unfold narrow
  rw [if_pos hall]

theorem signed_numeral (h : ∀ c ∈ ds, c ∈ digits) :
    signed ((sign n ++ ds).dropWhile isAsciiBlank) = (decide (n < 0), ds) := by
  unfold sign
  split
  · rename_i hn
    rw [decide_eq_true hn]
    rfl
  · rename_i hn
    rw [decide_eq_false hn, List.nil_append]
    cases ds with
    | nil => rfl
    | cons c ds =>
      obtain ⟨-, -, hplus, hminus, hblank, -⟩ := digit_facts c (h c List.mem_cons_self)
      rw [List.dropWhile_cons_of_neg (by simp [hblank]), signed]
      · exact fun _ hc => hplus (List.cons.inj hc).1
      · exact fun _ hc => hminus (List.cons.inj hc).1

/-- No digit is a mark of the base. -/
theorem dropMark_digits (h : ∀ c ∈ ds, c ∈ digits) : dropMark 16 ds = ds := by
  unfold dropMark
  split
  · rename_i c r
    obtain ⟨-, -, -, -, -, -, hmark⟩ := digit_facts c (h c (by simp))
    rw [if_neg hmark]
  · rfl

theorem int_numeral (h : ∀ c ∈ ds, c ∈ digits) : Reading.int (sign n ++ ds) 16 =
    if ds = [] then .invalid else .value (if n < 0 then -(value ds : Int) else value ds) := by
  have hread : Reading.digits 16 ds 0 0 = some (value ds, 0 + ds.length, []) :=
    digits_plain (fun c hc => ⟨(digit_facts c (h c hc)).2.1, (digit_facts c (h c hc)).1⟩) 0 0
  unfold Reading.int
  rw [narrow_numeral h, signed_numeral h]
  dsimp only
  rw [if_neg (by decide)]
  dsimp only
  rw [dropMark_digits h, hread]
  simp

/-- Numerals are told by the values of their digits. -/
theorem isNumeral_iff {s : List Char} : IsNumeral n s ↔
    ∃ ds, s = sign n ++ ds ∧ ds ≠ [] ∧ (∀ c ∈ ds, c ∈ digits) ∧ value ds = n.natAbs := by
  refine exists_congr fun ds => ⟨?_, ?_⟩
  · rintro ⟨rfl, hds, hread⟩
    rw [int_numeral hds] at hread
    split at hread
    · cases hread
    · rename_i hne
      refine ⟨rfl, hne, hds, ?_⟩
      have hn := IntResult.value.inj hread
      split at hn <;> omega
  · rintro ⟨rfl, hne, hds, hvalue⟩
    refine ⟨rfl, hds, ?_⟩
    rw [int_numeral hds, if_neg hne, hvalue]
    congr 1
    split <;> omega

theorem value_toDigits (n : Nat) : value (Nat.toDigits 16 n) = n := foldl_toDigits (by decide) (by decide) n

theorem mem_digits_of_mem_toDigits {n : Nat} {c : Char} (h : c ∈ Nat.toDigits 16 n) : c ∈ digits := by
  have hdigit : ∀ d < 16, Nat.digitChar d ∈ digits := by decide
  induction n using Nat.strongRecOn with
  | ind n ih =>
    by_cases hn : n < 16
    · rw [Nat.toDigits_of_lt_base hn, List.mem_singleton] at h
      exact h ▸ hdigit n hn
    · rw [Nat.toDigits_of_base_le (by decide) (Nat.le_of_not_lt hn)] at h
      rcases List.mem_append.mp h with h | h
      · exact ih _ (by omega) h
      · exact List.mem_singleton.mp h ▸ hdigit _ (Nat.mod_lt n (by decide))

theorem value_zeros (k : Nat) (ds : List Char) : value (List.replicate k '0' ++ ds) = value ds := by
  induction k with
  | zero => rfl
  | succ k ih => rw [List.replicate_succ, List.cons_append, ← ih]; rfl

/-- A number is below the power of the base for its count of digits. -/
theorem value_lt (h : ∀ c ∈ ds, c ∈ digits) : value ds < Nat.pow 16 ds.length := by
  induction ds using List.reverseRecOn with
  | nil => exact Nat.one_pos
  | append_singleton ds c ih =>
    obtain ⟨⟨d, hlt, hd⟩, -⟩ := digit_facts c (h c (by simp))
    have hvalue : value (ds ++ [c]) = value ds * 16 + d := by
      unfold value
      rw [List.foldl_append, List.foldl_cons, List.foldl_nil, hd, Option.getD_some]
    have hds := ih fun b hb => h b (List.mem_append_left _ hb)
    have hpow : Nat.pow 16 (ds.length + 1) = Nat.pow 16 ds.length * 16 := rfl
    rw [hvalue, List.length_append, List.length_singleton, hpow]
    omega

/-- The numeral of an integer with zeros after the sign, up to a width. -/
def padded (n : Int) (width : Nat) : List Char :=
  let ds := Nat.toDigits 16 n.natAbs
  sign n ++ (List.replicate (width - (sign n).length - ds.length) '0' ++ ds)

theorem isNumeral_padded (n : Int) (width : Nat) : IsNumeral n (padded n width) := by
  refine isNumeral_iff.mpr ⟨_, rfl, ?_, fun c hc => ?_, ?_⟩
  · exact List.append_ne_nil_of_right_ne_nil _ Nat.toDigits_ne_nil
  · rcases List.mem_append.mp hc with hc | hc
    · rw [List.eq_of_mem_replicate hc]
      decide
    · exact mem_digits_of_mem_toDigits hc
  · rw [value_zeros, value_toDigits]

/-- The shortest numeral is the one without zeros in front. -/
theorem isLeast_length (n : Int) : IsLeast {l | ∃ s, IsNumeral n s ∧ s.length = l} (padded n 0).length := by
  refine ⟨⟨padded n 0, isNumeral_padded n 0, rfl⟩, ?_⟩
  rintro l ⟨s, hs, rfl⟩
  obtain ⟨ds, rfl, hne, hds, hvalue⟩ := isNumeral_iff.mp hs
  have hlt : n.natAbs < Nat.pow 16 ds.length := hvalue ▸ value_lt hds
  have hlength := (Nat.length_toDigits_le_iff (by decide) (List.length_pos_iff.mpr hne)).mpr hlt
  simp only [padded, List.length_append, List.length_replicate]
  omega

theorem length_padded (n : Int) (width : Nat) : (padded n width).length = max width (padded n 0).length := by
  simp only [padded, List.length_append, List.length_replicate]
  omega

end Hex
end WireSketch
