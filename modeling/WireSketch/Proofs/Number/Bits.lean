import Mathlib.Algebra.Group.Int.Defs
import Mathlib.Algebra.Group.Nat.Defs
import WireSketch.Value.Arithmetic

/-! The bits of an integer's magnitude: how many products, powers and shifts have. -/
namespace WireSketch

theorem bitLength_le_iff {n : Int} {k : Nat} : bitLength n ≤ k ↔ n.natAbs < 2 ^ k := by
  unfold bitLength
  by_cases hn : n = 0
  · subst hn
    rw [if_pos rfl]
    exact ⟨fun _ => Nat.two_pow_pos k, fun _ => Nat.zero_le k⟩
  · rw [if_neg hn, Nat.succ_le_iff]
    exact Nat.log2_lt (Int.natAbs_ne_zero.mpr hn)

theorem natAbs_lt_bitLength (n : Int) : n.natAbs < 2 ^ bitLength n := bitLength_le_iff.mp (Nat.le_refl _)

theorem bitLength_pos {n : Int} (hn : n ≠ 0) : 0 < bitLength n := by
  unfold bitLength
  rw [if_neg hn]
  exact Nat.succ_pos _

/-- The leading bit is set. -/
theorem le_natAbs_bitLength {n : Int} (hn : n ≠ 0) : 2 ^ (bitLength n - 1) ≤ n.natAbs := by
  unfold bitLength
  rw [if_neg hn, Nat.add_sub_cancel]
  exact Nat.log2_self_le (Int.natAbs_ne_zero.mpr hn)

theorem lt_bitLength {n : Int} {k : Nat} (h : 2 ^ k ≤ n.natAbs) : k < bitLength n :=
  (Nat.pow_lt_pow_iff_right (Nat.lt_succ_self 1)).mp (Nat.lt_of_le_of_lt h (natAbs_lt_bitLength n))

theorem bitLength_mul_le (a b : Int) : bitLength (a * b) ≤ bitLength a + bitLength b := by
  rw [bitLength_le_iff, Int.natAbs_mul, Nat.pow_add]
  exact Nat.mul_lt_mul'' (natAbs_lt_bitLength a) (natAbs_lt_bitLength b)

/-- A product has at most one bit less than its factors together. -/
theorem le_bitLength_mul {a b : Int} (ha : a ≠ 0) (hb : b ≠ 0) :
    bitLength a + bitLength b ≤ bitLength (a * b) + 1 := by
  have hpa := bitLength_pos ha
  have hpb := bitLength_pos hb
  have hlow : 2 ^ (bitLength a - 1 + (bitLength b - 1)) ≤ (a * b).natAbs := by
    rw [Int.natAbs_mul, Nat.pow_add]
    exact Nat.mul_le_mul (le_natAbs_bitLength ha) (le_natAbs_bitLength hb)
  have hbits := lt_bitLength hlow
  omega

theorem bitLength_pow_le (a : Int) {n : Nat} (hn : n ≠ 0) : bitLength (a ^ n) ≤ bitLength a * n := by
  rw [bitLength_le_iff, Int.natAbs_pow, Nat.pow_mul]
  exact Nat.pow_lt_pow_left (natAbs_lt_bitLength a) hn

theorem bitLength_shift {a : Int} (ha : a ≠ 0) (n : Nat) : bitLength (a * 2 ^ n) = bitLength a + n := by
  have hpa := bitLength_pos ha
  have htwo : ((2 : Int) ^ n).natAbs = 2 ^ n := Int.natAbs_pow 2 n
  have hhigh : bitLength (a * 2 ^ n) ≤ bitLength a + n := by
    rw [bitLength_le_iff, Int.natAbs_mul, Nat.pow_add, htwo]
    exact Nat.mul_lt_mul_of_pos_right (natAbs_lt_bitLength a) (Nat.two_pow_pos n)
  have hlow : 2 ^ (bitLength a - 1 + n) ≤ (a * 2 ^ n).natAbs := by
    rw [Int.natAbs_mul, Nat.pow_add, htwo]
    exact Nat.mul_le_mul_right _ (le_natAbs_bitLength ha)
  have hbits := lt_bitLength hlow
  omega

end WireSketch
