import WireSketch.Number.Binary64

/-! Binary64 numbers that are equal to an integer. -/
namespace WireSketch.Binary64
open Float.Model.UnpackedFloat

variable {x : Float} {n : Int}

/-- A NaN has the greatest exponent, which finite numbers do not have. -/
theorem isNaN_of_isFinite (h : isFinite x = true) : x.isNaN = false := by
  have hbits : x.toBits.toNat / Nat.pow 2 52 % 2048 ≠ 2047 := bne_iff_ne.mp h
  have hexponent : @unpackExponent .binary64 x.toModel.toBits.toBitVec ≠ -1#11 := by
    intro heq
    have hnat := congrArg BitVec.toNat heq
    simp only [unpackExponent, BitVec.toNat_cast, BitVec.extractLsb_toNat, Nat.shiftRight_eq_div_pow] at hnat
    exact hbits hnat
  have hunpack : x.toModel.unpack.isNaN = false := by
    unfold Float.Model.unpack unpack
    dsimp only
    rw [if_neg hexponent]
    by_cases hzero : @unpackExponent .binary64 x.toModel.toBits.toBitVec = 0#11
    · rw [if_pos hzero]
      by_cases hmantissa : @unpackMantissa .binary64 x.toModel.toBits.toBitVec = 0#52
      · rw [dif_pos hmantissa]
        rfl
      · rw [dif_neg hmantissa]
        rfl
    · rw [if_neg hzero]
      rfl
  exact hunpack

theorem ratio_pos (m : Nat) (e : Int) : 0 < (ratio m e).2 := by
  unfold ratio
  split
  · exact Nat.one_pos
  · exact Nat.two_pow_pos _

theorem mul_eq_natCast_iff {a d : Nat} (hd : 0 < d) : n * d = a ↔ a % d = 0 ∧ ((a / d : Nat) : Int) = n := by
  constructor
  · intro h
    have hdvd : d ∣ a := Int.natCast_dvd_natCast.mp ⟨n, by rw [← h, Int.mul_comm]⟩
    refine ⟨Nat.mod_eq_zero_of_dvd hdvd, ?_⟩
    rw [Int.natCast_ediv, ← h]
    exact Int.mul_ediv_cancel n (Int.natCast_ne_zero_iff_pos.mpr hd)
  · rintro ⟨hmod, rfl⟩
    rw [← Int.natCast_mul, Nat.div_mul_cancel (Nat.dvd_of_mod_eq_zero hmod)]

/-- A number is equal to an integer if it is finite and without a fraction, and then to its integer part. -/
theorem compareInt_eq_iff : compareInt n x = some .eq ↔ isIntegral x = true ∧ truncate x = n := by
  unfold isIntegral truncate
  have hpos := ratio_pos (parts x).m (parts x).e
  cases hfinite : isFinite x with
  | false =>
    have hne : compareInt n x ≠ some .eq := by
      unfold compareInt
      rw [hfinite]
      split
      · nofun
      · cases isNegative x <;> nofun
    simp [hne]
  | true =>
    unfold compareInt
    rw [isNaN_of_isFinite hfinite, hfinite]
    dsimp only
    generalize ratio (parts x).m (parts x).e = q at hpos ⊢
    obtain ⟨a, d⟩ := q
    simp only [Bool.false_eq_true, if_false, Bool.not_true, Option.some.injEq, Int.compare_eq_eq,
      Bool.true_and, beq_iff_eq]
    cases (parts x).negative with
    | false => exact mul_eq_natCast_iff hpos
    | true =>
      have hneg : n * d = -(a : Int) ↔ -n * d = a := by
        rw [Int.neg_mul]
        omega
      simp only [if_true]
      rw [hneg, mul_eq_natCast_iff hpos]
      exact and_congr_right fun _ => ⟨fun h => by rw [h, Int.neg_neg], fun h => by rw [← h, Int.neg_neg]⟩

end WireSketch.Binary64
