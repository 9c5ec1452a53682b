import Mathlib.Algebra.Group.Nat.Defs
import Mathlib.Data.List.DropRight
import WireSketch.Number.Written

/-! Numbers written with a fixed count of digits after the point. -/
namespace WireSketch

/-- Digits that a number may be written with before its point. -/
structure IsWhole (ds : List Char) : Prop where
  digits : ∀ c ∈ ds, c.isDigit = true
  ne_nil : ds ≠ []
  leading : ds.head? = some '0' → ds = ['0']

theorem eq_zero_of_head?_toDigits (n : Nat) (h : (Nat.toDigits 10 n).head? = some '0') : n = 0 := by
  have hdigit : ∀ d < 10, Nat.digitChar d = '0' → d = 0 := by decide
  induction n using Nat.strongRecOn with
  | ind n ih =>
    rw [Nat.toDigits_eq_if (by decide)] at h
    by_cases hn : n < 10
    · rw [if_pos hn] at h
      exact hdigit n hn (Option.some.inj h)
    · rw [if_neg hn, List.head?_append_of_ne_nil _ Nat.toDigits_ne_nil] at h
      have hzero : n / 10 = 0 := ih (n / 10) (by omega) h
      omega

/-- The digits of a natural number have no zero in front. -/
theorem isWhole_toDigits (n : Nat) : IsWhole (Nat.toDigits 10 n) where
  digits _ hc := Nat.isDigit_of_mem_toDigits (by decide) (by decide) hc
  ne_nil := Nat.toDigits_ne_nil
  leading h := by
    rw [eq_zero_of_head?_toDigits n h]
    rfl

theorem isWhole_zero : IsWhole ['0'] := isWhole_toDigits 0

/-- A list is the part without the zeros at its end, and these. -/
theorem exists_zeros (ds : List Char) : ∃ k, ds.rdropWhile (· == '0') ++ List.replicate k '0' = ds := by
  have hzeros : ds.rtakeWhile (· == '0') = List.replicate (ds.rtakeWhile (· == '0')).length '0' :=
    List.eq_replicate_iff.mpr ⟨rfl, fun c hc => beq_iff_eq.mp (List.mem_rtakeWhile_imp (p := (· == '0')) hc)⟩
  refine ⟨(ds.rtakeWhile (· == '0')).length, ?_⟩
  rw [← hzeros, List.rdropWhile_append_rtakeWhile]

namespace Decimal

/-- The digit at a place of `0.d₁d₂…`; places outside of the written ones hold zeros. -/
def digitAt (ds : List Char) (place : Int) : Char := if place < 0 then '0' else ds.getD place.toNat '0'

end Decimal

namespace NumberStyle
open Decimal

theorem length_places (ds : List Char) (a b : Int) : (places ds a b).length = (b - a).toNat := by
  unfold places
  simp only [List.length_append, List.length_replicate, List.length_take, List.length_drop]
  omega

/-- The places from `a` to `b`, one after another. -/
theorem places_eq (ds : List Char) (a b : Int) :
    places ds a b = (List.range (b - a).toNat).map fun i : Nat => digitAt ds (a + i) := by
  refine List.ext_getElem? fun i => ?_
  by_cases hi : i < (b - a).toNat
  · rw [List.getElem?_map, List.getElem?_range hi, Option.map_some]
    unfold places digitAt
    dsimp only
    rw [List.getElem?_append, List.getElem?_append, List.length_append, List.length_replicate]
    by_cases hlead : i < (min b 0 - a).toNat
    · rw [if_pos (by omega), if_pos hlead, List.getElem?_replicate_of_lt hlead, if_pos (by omega)]
    by_cases hbody : (a + i).toNat < ds.length
    · rw [if_pos (by simp; omega), if_neg hlead, if_neg (by omega), List.getElem?_take_of_lt (by omega),
        List.getElem?_drop, List.getD_eq_getElem?_getD,
        show a.toNat + (i - (min b 0 - a).toNat) = (a + i).toNat by omega, List.getElem?_eq_getElem hbody,
        Option.getD_some]
    · rw [if_neg (by simp; omega), List.getElem?_replicate_of_lt (by simp; omega), if_neg (by omega),
        List.getD_eq_getElem?_getD, List.getElem?_eq_none (by omega), Option.getD_none]
  · rw [List.getElem?_eq_none (by rw [length_places]; omega), List.getElem?_eq_none (by simpa using hi)]

theorem places_append (ds : List Char) {a b c : Int} (hab : a ≤ b) (hbc : b ≤ c) :
    places ds a b ++ places ds b c = places ds a c := by
  rw [places_eq, places_eq, places_eq, show (c - a).toNat = (b - a).toNat + (c - b).toNat by omega,
    List.range_add, List.map_append, List.map_map]
  refine congrArg _ (List.map_congr_left fun i _ => ?_)
  rw [Function.comp_apply]
  congr 1
  omega

/-- Zeros at the end of the digits make no difference. -/
theorem places_zeros (ds : List Char) (k : Nat) (a b : Int) :
    places (ds ++ List.replicate k '0') a b = places ds a b := by
  have hdigit (place : Int) : digitAt (ds ++ List.replicate k '0') place = digitAt ds place := by
    unfold digitAt
    congr 1
    rw [List.getD_eq_getElem?_getD, List.getD_eq_getElem?_getD, List.getElem?_append]
    split
    · rfl
    · rename_i hlt
      rw [List.getElem?_replicate, List.getElem?_eq_none (by omega : ds.length ≤ place.toNat)]
      split <;> rfl
  rw [places_eq, places_eq]
  exact List.map_congr_left fun i _ => hdigit _

theorem places_all (ds : List Char) : places ds 0 ds.length = ds := by
  unfold places
  rw [Int.min_eq_right (Int.natCast_nonneg ds.length)]
  simp

/-- Places in front of the first digit hold zeros. -/
theorem places_front (ds : List Char) {a b : Int} (hb : b ≤ 0) :
    places ds a b = List.replicate (b - a).toNat '0' := by
  unfold places
  simp [show min b 0 = b by omega, show (b - max a 0).toNat = 0 by omega]

theorem places_take (ds : List Char) {n : Nat} (hn : n ≤ ds.length) : places ds 0 n = ds.take n := by
  have hall := places_append ds (Int.natCast_nonneg n) (Int.ofNat_le.mpr hn)
  rw [places_all] at hall
  have hlength : (places ds 0 n).length = n := by
    rw [length_places]
    omega
  calc places ds 0 n = (places ds 0 n ++ places ds n ds.length).take n := (List.take_left' hlength).symm
    _ = ds.take n := by rw [hall]

variable {p : Nat}

theorem fixed_eq (num den : Nat) (hp : 0 < p) :
    Decimal.fixed num den p = Decimal.ofNat (divEven (num * 10 ^ p) den) (-p) := by
  unfold Decimal.fixed Decimal.shift
  rw [if_neg (by omega), show (- -(p : Int)).toNat = p by omega]
  rfl

/-- The digits around the point, if not all of them are zeros. -/
theorem magnitude_fixed_eq {d : Decimal} {m : Nat} {e : Int} (hp : 0 < p)
    (hd : Decimal.fixed (Binary64.ratio m e).1 (Binary64.ratio m e).2 p = d) (hne : d.digits ≠ []) :
    let start := if d.point ≤ 0 then d.point - 1 else 0
    (magnitude { rule := .fixed p } m e).1 =
      places d.digits start d.point ++ '.' :: places d.digits d.point (d.point + p) := by
  intro start
  have hstart : max d.point start = d.point := by
    simp only [start]
    split <;> omega
  have hlayout : layout { rule := .fixed p } m e = (d, d.point + p, false) := by
    subst hd
    rfl
  have hfraction : (places d.digits d.point (d.point + p)).isEmpty = false := by
    rw [List.isEmpty_eq_false_iff, ← List.length_pos_iff, length_places]
    omega
  have hdigits : d.digits.isEmpty = false := List.isEmpty_eq_false_iff.mpr hne
  unfold magnitude
  rw [hlayout]
  dsimp only
  rw [hdigits]
  simp only [Bool.false_eq_true, if_false, Bool.and_false, Bool.not_false, Bool.and_true]
  rw [show max (d.point + p) d.point = d.point + p by omega, hstart, hfraction]
  simp [start]

theorem point_ofNat {q : Nat} (hq : q ≠ 0) (e : Int) :
    (Decimal.ofNat q e).point = (Nat.toDigits 10 q).length + e := by
  unfold Decimal.ofNat
  rw [if_neg hq]
  rfl

theorem digits_ofNat {q : Nat} (hq : q ≠ 0) (e : Int) :
    ∃ k, (Decimal.ofNat q e).digits ++ List.replicate k '0' = Nat.toDigits 10 q := by
  have hdigits : (Decimal.ofNat q e).digits = (Nat.toDigits 10 q).rdropWhile (· == '0') := by
    unfold Decimal.ofNat
    rw [if_neg hq]
    rfl
  rw [hdigits]
  exact exists_zeros _

/-- The text shows `q` units of the last of `p` places. -/
def Shows (p q : Nat) (text : List Char) : Prop :=
  ∃ whole fraction, text = whole ++ '.' :: fraction ∧ IsWhole whole ∧ (∀ c ∈ fraction, c.isDigit = true) ∧
    fraction.length = p ∧ Nat.ofDigitChars 10 (whole ++ fraction) 0 = q

theorem shows_zero (p : Nat) : Shows p 0 ('0' :: '.' :: List.replicate p '0') := by
  refine ⟨['0'], List.replicate p '0', rfl, isWhole_zero, fun c hc => ?_,
    List.length_replicate, ?_⟩
  · rw [List.eq_of_mem_replicate hc]
    rfl
  · exact Nat.ofDigitChars_replicate_zero (n := p + 1)

section Cut

variable {q : Nat} {full : List Char}

/-- All digits stand behind the point, after the zeros that fill the places up to them. -/
theorem shows_behind {point : Int} (hle : point ≤ 0) (hpoint : full.length = point + p)
    (hdigits : ∀ c ∈ full, c.isDigit = true) (hvalue : Nat.ofDigitChars 10 full 0 = q) :
    Shows p q (places full (point - 1) point ++ '.' :: places full point (point + p)) := by
  have hfraction : places full point (point + p) = List.replicate (-point).toNat '0' ++ full := by
    rw [← hpoint, ← places_append full hle (Int.natCast_nonneg _), places_front full (Int.le_refl 0), places_all,
      Int.zero_sub]
  have hzero : places full (point - 1) point = ['0'] := by
    rw [places_front full hle, show (point - (point - 1)).toNat = 1 by omega]
    rfl
  rw [hzero, hfraction]
  refine ⟨['0'], _, rfl, isWhole_zero, fun c hc => ?_, ?_, ?_⟩
  · rcases List.mem_append.mp hc with hc | hc
    · rw [List.eq_of_mem_replicate hc]
      rfl
    · exact hdigits c hc
  · simp
    omega
  · rw [Nat.ofDigitChars_append, Nat.ofDigitChars_append, Nat.ofDigitChars_replicate_zero]
    exact hvalue

/-- The first `n` digits stand before the point. -/
theorem shows_across {n : Nat} (hn : 0 < n) (hpoint : full.length = n + p) (hwhole : IsWhole full)
    (hhead : full.head? ≠ some '0') (hvalue : Nat.ofDigitChars 10 full 0 = q) :
    Shows p q (places full 0 n ++ '.' :: places full n (n + p)) := by
  have hle : n ≤ full.length := by omega
  have hall : full.take n ++ places full n (n + p) = full := by
    have hend : (n + p : Int) = full.length := by omega
    rw [← places_take full hle, hend, places_append full (Int.natCast_nonneg n) (Int.ofNat_le.mpr hle), places_all]
  have hcut : full.head? = (full.take n).head? := by
    rw [List.head?_take, if_neg (by omega)]
  rw [places_take full hle]
  refine ⟨full.take n, _, rfl, ⟨fun c hc => hwhole.digits c (List.mem_of_mem_take hc), fun hnil => ?_,
    fun h => absurd (hcut.trans h) hhead⟩, fun c hc => hwhole.digits c ?_, ?_, ?_⟩
  · have hlength := congrArg List.length hnil
    rw [List.length_take, List.length_nil] at hlength
    omega
  · rw [← hall]
    exact List.mem_append_right _ hc
  · rw [length_places]
    omega
  · rw [hall, hvalue]

end Cut

/-- Digits that are cut at the point, with a zero before it if none of them is left there. -/
theorem shows_places {q : Nat} (hq : q ≠ 0) {ds : List Char} {k : Nat} {point : Int}
    (hds : ds ++ List.replicate k '0' = Nat.toDigits 10 q) (hpoint : (Nat.toDigits 10 q).length = point + p) :
    Shows p q (places ds (if point ≤ 0 then point - 1 else 0) point ++ '.' :: places ds point (point + p)) := by
  have hplaces (a b : Int) : places ds a b = places (Nat.toDigits 10 q) a b := by rw [← hds, places_zeros]
  have hwhole := isWhole_toDigits q
  have hhead : (Nat.toDigits 10 q).head? ≠ some '0' := fun h => hq (eq_zero_of_head?_toDigits q h)
  have hvalue := Nat.ofDigitChars_ten_toDigits (n := q)
  rw [hplaces, hplaces]
  by_cases hle : point ≤ 0
  · rw [if_pos hle]
    exact shows_behind hle hpoint hwhole.digits hvalue
  · obtain ⟨n, rfl⟩ := Int.eq_ofNat_of_zero_le (show 0 ≤ point by omega)
    rw [if_neg hle]
    exact shows_across (by omega) (by omega) hwhole hhead hvalue

theorem magnitude_fixed_zero {m : Nat} {e : Int} (hp : 0 < p)
    (hd : Decimal.fixed (Binary64.ratio m e).1 (Binary64.ratio m e).2 p = Decimal.ofNat 0 (-p)) :
    (magnitude { rule := .fixed p } m e).1 = '0' :: '.' :: List.replicate p '0' := by
  have hlayout : layout { rule := .fixed p } m e =
      (Decimal.ofNat 0 (-p), (Decimal.ofNat 0 (-p)).point + p, false) := by
    rw [← hd]
    rfl
  have hfraction : places [] 1 (p + 1) = List.replicate p '0' := by
    unfold places
    rw [show min ((p : Int) + 1) 0 = 0 by omega, show ((p : Int) + 1 - max 1 0).toNat = p by omega]
    simp
  have hne : List.replicate p '0' ≠ [] := by simp [hp.ne']
  unfold magnitude
  rw [hlayout]
  simp only [Decimal.ofNat, if_true, List.isEmpty_nil, Bool.false_eq_true, if_false, Bool.and_false, Bool.not_false,
    Bool.and_true, List.append_nil, if_neg (show ¬ (1 : Int) ≤ 0 by decide)]
  rw [show max ((p : Int) + 1) 1 = p + 1 by omega, show max (1 : Int) 0 = 1 from rfl, hfraction]
  simp only [List.isEmpty_iff, if_neg hne]
  rfl

/-- Rounded to `p` places, a number shows its whole part and all of the places. -/
theorem shows_magnitude (hp : 0 < p) (m : Nat) (e : Int) :
    Shows p (divEven ((Binary64.ratio m e).1 * 10 ^ p) (Binary64.ratio m e).2)
      (magnitude { rule := .fixed p } m e).1 := by
  have hfixed := fixed_eq (Binary64.ratio m e).1 (Binary64.ratio m e).2 hp
  generalize divEven ((Binary64.ratio m e).1 * 10 ^ p) (Binary64.ratio m e).2 = q at hfixed ⊢
  by_cases hq : q = 0
  · subst hq
    rw [magnitude_fixed_zero hp hfixed]
    exact shows_zero p
  · obtain ⟨k, hk⟩ := digits_ofNat hq (-p)
    have hne : (Decimal.ofNat q (-p)).digits ≠ [] := by
      intro hnil
      rw [hnil, List.nil_append] at hk
      have hvalue := Nat.ofDigitChars_ten_toDigits (n := q)
      rw [← hk, Nat.ofDigitChars_replicate_zero] at hvalue
      omega
    rw [magnitude_fixed_eq hp hfixed hne]
    exact shows_places hq hk (by rw [point_ofNat hq]; omega)

end NumberStyle
end WireSketch
