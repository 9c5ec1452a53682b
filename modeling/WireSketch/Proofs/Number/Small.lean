import WireSketch.Number.Binary64

/-! Integers of few binary places have a binary64 number. -/
namespace WireSketch.Binary64

def scaled (num den : Nat) (e : Int) : Nat × Nat :=
  if 0 ≤ e then (num, den * Nat.pow 2 e.toNat) else (num * Nat.pow 2 (-e).toNat, den)

/-- The finite number of a mantissa and an exponent, if there is one. -/
def encode? (negative : Bool) (q : Nat) (e : Int) : Option Float :=
  let bits := if q < Nat.pow 2 52 then q else (e + 1075).toNat * Nat.pow 2 52 + (q - Nat.pow 2 52)
  if bits ≥ 2047 * Nat.pow 2 52 then none
  else some (Float.ofBits (UInt64.ofNat (bits + if negative then Nat.pow 2 63 else 0)))

theorem ofRatio?_eq {num den : Nat} {e e' : Int} (negative : Bool) (hnum : num ≠ 0)
    (he : max ((num.log2 : Int) - den.log2 - 53) (-1074) = e)
    (he' : (if (scaled num den e).1 / (scaled num den e).2 ≥ Nat.pow 2 53 then e + 1 else e) = e') :
    ofRatio? negative num den =
      encode? negative (divEven (scaled num den e').1 (scaled num den e').2) e' := by
  subst he he'
  unfold ofRatio?
  rw [if_neg hnum]
  rfl

theorem isSome_encode? {q : Nat} {e : Int} (negative : Bool) (hq : q < Nat.pow 2 53) (he : e ≤ 0) :
    (encode? negative q e).isSome := by
  have hplaces : (e + 1075).toNat ≤ 1075 := by omega
  have hexponent := Nat.mul_le_mul_right (Nat.pow 2 52) hplaces
  have hdouble : Nat.pow 2 53 = 2 * Nat.pow 2 52 := by decide
  have hpos : 0 < Nat.pow 2 52 := by decide
  unfold encode?
  dsimp only
  rw [if_neg]
  · rfl
  · split
    · omega
    · omega

/-- Brought to 53 binary places, a number has its highest digit in the first of them. -/
theorem scaled_bounds {m : Nat} (hm : m ≠ 0) (h : m.log2 < 53) :
    Nat.pow 2 53 ≤ m * Nat.pow 2 (53 - m.log2) ∧ m * Nat.pow 2 (52 - m.log2) < Nat.pow 2 53 := by
  have hlow : 2 ^ m.log2 ≤ m := Nat.log2_self_le hm
  have hhigh : m < 2 ^ (m.log2 + 1) := Nat.lt_log2_self
  have hsum : m.log2 + (53 - m.log2) = 53 := by omega
  have hsum' : m.log2 + 1 + (52 - m.log2) = 53 := by omega
  constructor
  · calc 2 ^ 53 = 2 ^ m.log2 * 2 ^ (53 - m.log2) := by rw [← Nat.pow_add, hsum]
      _ ≤ m * 2 ^ (53 - m.log2) := Nat.mul_le_mul_right _ hlow
  · calc m * 2 ^ (52 - m.log2) < 2 ^ (m.log2 + 1) * 2 ^ (52 - m.log2) :=
          Nat.mul_lt_mul_of_pos_right hhigh (Nat.two_pow_pos _)
      _ = 2 ^ 53 := by rw [← Nat.pow_add, hsum']

/-- An integer of at most 53 binary places is in range. -/
theorem isSome_ofInt? {n : Int} (h : n.natAbs < Nat.pow 2 53) : (ofInt? n).isSome := by
  unfold ofInt?
  by_cases hzero : n.natAbs = 0
  · rw [hzero]
    rfl
  have hlog : n.natAbs.log2 < 53 := (Nat.log2_lt hzero).mpr h
  obtain ⟨hlow, hhigh⟩ := scaled_bounds hzero hlog
  generalize n.natAbs = m at *
  have hguess : max ((m.log2 : Int) - (Nat.log2 1 : Nat) - 53) (-1074) = (m.log2 : Int) - 53 := by
    rw [show Nat.log2 1 = 0 by decide]
    omega
  have hfirst : scaled m 1 ((m.log2 : Int) - 53) = (m * Nat.pow 2 (53 - m.log2), 1) := by
    unfold scaled
    rw [if_neg (by omega), show (-((m.log2 : Int) - 53)).toNat = 53 - m.log2 by omega]
  have hplaces : (if (scaled m 1 ((m.log2 : Int) - 53)).1 / (scaled m 1 ((m.log2 : Int) - 53)).2 ≥
      Nat.pow 2 53 then (m.log2 : Int) - 53 + 1 else (m.log2 : Int) - 53) = (m.log2 : Int) - 52 := by
    rw [hfirst, Nat.div_one, if_pos hlow]
    omega
  have hquotient : divEven (scaled m 1 ((m.log2 : Int) - 52)).1 (scaled m 1 ((m.log2 : Int) - 52)).2 =
      m * Nat.pow 2 (52 - m.log2) := by
    have hone (k : Nat) : divEven k 1 = k := by rw [divEven_of_dvd Nat.one_pos (Nat.one_dvd k), Nat.div_one]
    unfold scaled
    split
    · rw [show ((m.log2 : Int) - 52).toNat = 0 by omega, show 52 - m.log2 = 0 by omega]
      exact (hone m).trans (Nat.mul_one m).symm
    · rw [show (-((m.log2 : Int) - 52)).toNat = 52 - m.log2 by omega]
      exact hone _
  rw [ofRatio?_eq _ hzero hguess hplaces, hquotient]
  exact isSome_encode? _ hhigh (by omega)
end WireSketch.Binary64
