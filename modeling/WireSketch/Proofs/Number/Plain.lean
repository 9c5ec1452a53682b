import Mathlib.Algebra.Field.Rat
import Mathlib.Tactic.FieldSimp
import Mathlib.Tactic.Ring
import WireSketch.Format.Field
import WireSketch.Proofs.Number.Fixed
import WireSketch.Proofs.Number.Whole
import WireSketch.Text.CharRange

/-! Decimal texts, the numbers that they denote, and the zeros that may be left off at their end. -/
namespace WireSketch

theorem rdropWhile_append (p : Char → Bool) (xs ys : List Char) : (xs ++ ys).rdropWhile p =
    if (ys.rdropWhile p).isEmpty then xs.rdropWhile p else xs ++ ys.rdropWhile p := by
  unfold List.rdropWhile
  rw [List.reverse_append, List.dropWhile_append, List.isEmpty_reverse]
  split
  · rfl
  · rw [List.reverse_append, List.reverse_reverse]

def decimalValue (negative : Bool) (whole fraction : List Char) : ℚ :=
  let magnitude : ℚ := Nat.ofDigitChars 10 (whole ++ fraction) 0 / 10 ^ fraction.length
  if negative then -magnitude else magnitude

/-- The number that a text denotes: a minus sign or none, digits, and a point with more digits if there is one. -/
def Text.decimal? (s : String) : Option ℚ :=
  let p := FormatSpec.splitNumber s.toList
  if p.digits.isEmpty then none
  else
    match p.rest with
    | [] => some (decimalValue p.negative p.digits [])
    | '.' :: ds => if ds.isEmpty || !ds.all Char.isDigit then none else some (decimalValue p.negative p.digits ds)
    | _ => none

/-- A sign, digits without a superfluous zero in front, and decimals. -/
structure DecimalText where
  negative : Bool
  whole : List Char
  fraction : List Char
  isWhole : IsWhole whole
  digits : ∀ c ∈ fraction, c.isDigit = true

namespace DecimalText

def tail (d : DecimalText) : List Char := if d.fraction.isEmpty then [] else '.' :: d.fraction

def sign (d : DecimalText) : List Char := if d.negative then ['-'] else []

def chars (d : DecimalText) : List Char := d.sign ++ (d.whole ++ d.tail)

def text (d : DecimalText) : String := String.ofList d.chars

def value (d : DecimalText) : ℚ := decimalValue d.negative d.whole d.fraction

theorem splitNumber_chars (d : DecimalText) :
    FormatSpec.splitNumber d.chars = { negative := d.negative, digits := d.whole, rest := d.tail } := by
  have hstop : d.tail.takeWhile Char.isDigit = [] ∧ d.tail.dropWhile Char.isDigit = d.tail := by
    unfold tail
    split
    · exact ⟨rfl, rfl⟩
    · exact ⟨rfl, rfl⟩
  have htake : (d.whole ++ d.tail).takeWhile Char.isDigit = d.whole := by
    rw [List.takeWhile_append_of_pos d.isWhole.digits, hstop.1, List.append_nil]
  have hdrop : (d.whole ++ d.tail).dropWhile Char.isDigit = d.tail := by
    rw [List.dropWhile_append_of_pos d.isWhole.digits, hstop.2]
  have hchars : d.chars = (if d.negative then ['-'] else []) ++ (d.whole ++ d.tail) := rfl
  rw [hchars]
  cases hnegative : d.negative with
  | true =>
    unfold FormatSpec.splitNumber
    simp only [if_true, List.singleton_append, htake, hdrop]
  | false =>
    have hsign : ∀ r, d.whole ++ d.tail ≠ '-' :: r := by
      intro r hr
      obtain ⟨c, cs, hwhole⟩ := List.exists_cons_of_ne_nil d.isWhole.ne_nil
      rw [hwhole] at hr
      have hc : c = '-' := (List.cons.inj hr).1
      have hdigit : c.isDigit = true := d.isWhole.digits c (hwhole ▸ List.mem_cons_self)
      rw [hc] at hdigit
      cases hdigit
    unfold FormatSpec.splitNumber
    simp only [Bool.false_eq_true, if_false, List.nil_append]
    simp only [htake, hdrop]

/-- The text is read as the value. -/
theorem decimal?_text (d : DecimalText) : Text.decimal? d.text = some d.value := by
  have hwhole : d.whole.isEmpty = false := List.isEmpty_eq_false_iff.mpr d.isWhole.ne_nil
  unfold Text.decimal? text
  rw [String.toList_ofList, splitNumber_chars]
  dsimp only
  rw [hwhole]
  unfold tail value
  cases hfraction : d.fraction with
  | nil => rfl
  | cons c ds =>
    have hall : (c :: ds).all Char.isDigit = true := by
      rw [← hfraction]
      exact List.all_eq_true.mpr d.digits
    simp [hall]

def trimmed (d : DecimalText) : DecimalText where
  negative := d.negative
  whole := d.whole
  fraction := d.fraction.rdropWhile (· == '0')
  isWhole := d.isWhole
  digits c hc := d.digits c ((List.rdropWhile_prefix _ _).mem hc)

/-- Zeros at the end of the decimals count for nothing. -/
theorem value_trimmed (d : DecimalText) : d.trimmed.value = d.value := by
  obtain ⟨k, hk⟩ := exists_zeros d.fraction
  have hsplit : d.fraction = d.trimmed.fraction ++ List.replicate k '0' := hk.symm
  have hdigits : Nat.ofDigitChars 10 (d.whole ++ d.fraction) 0 =
      10 ^ k * Nat.ofDigitChars 10 (d.whole ++ d.trimmed.fraction) 0 := by
    rw [hsplit, ← List.append_assoc, Nat.ofDigitChars_append, Nat.ofDigitChars_replicate_zero]
  have hmagnitude : (Nat.ofDigitChars 10 (d.whole ++ d.trimmed.fraction) 0 : ℚ) / 10 ^ d.trimmed.fraction.length =
      Nat.ofDigitChars 10 (d.whole ++ d.fraction) 0 / 10 ^ d.fraction.length := by
    rw [hdigits, congrArg List.length hsplit, List.length_append, List.length_replicate, pow_add]
    push_cast
    field_simp
  have hvalue (e : DecimalText) : e.value = if e.negative then
      -((Nat.ofDigitChars 10 (e.whole ++ e.fraction) 0 : ℚ) / 10 ^ e.fraction.length) else
      (Nat.ofDigitChars 10 (e.whole ++ e.fraction) 0 : ℚ) / 10 ^ e.fraction.length := rfl
  rw [hvalue, hvalue d, ← hmagnitude]
  rfl

theorem last_trimmed (d : DecimalText) : d.trimmed.fraction.getLast? ≠ some '0' := by
  by_cases hnil : d.trimmed.fraction = []
  · rw [hnil]
    nofun
  · have hlast : ¬ ((d.trimmed.fraction.getLast hnil) == '0') = true :=
      List.rdropWhile_last_not (· == '0') d.fraction hnil
    rw [List.getLast?_eq_some_getLast hnil]
    exact fun h => hlast (beq_iff_eq.mpr (Option.some.inj h))

/-- Nothing is taken off the end of digits in search of a point. -/
theorem rdropWhile_point {ds : List Char} (hds : ∀ c ∈ ds, c.isDigit = true) : ds.rdropWhile (· == '.') = ds := by
  refine List.rdropWhile_eq_self_iff.mpr fun hne hpoint => ?_
  have hdigit := hds _ (List.getLast_mem hne)
  rw [beq_iff_eq.mp hpoint] at hdigit
  cases hdigit

/-- The zeros at the end are taken off, and then the point if nothing is left behind it. -/
theorem text_trimmed (d : DecimalText) (hne : d.fraction ≠ []) :
    Text.trimEnd '.' (Text.trimEnd '0' d.text) = d.trimmed.text := by
  have htrim (c : Char) (cs : List Char) :
      Text.trimEnd c (String.ofList cs) = String.ofList (cs.rdropWhile (· == c)) := by
    unfold Text.trimEnd
    rw [String.toList_ofList]
    rfl
  have hchars : d.chars = (d.sign ++ d.whole ++ ['.']) ++ d.fraction := by
    unfold chars tail
    rw [if_neg (by simpa using hne)]
    simp
  have hwhole : d.whole.isEmpty = false := List.isEmpty_eq_false_iff.mpr d.isWhole.ne_nil
  have hfront : (d.sign ++ d.whole ++ ['.']).rdropWhile (· == '.') = d.sign ++ d.whole := by
    rw [List.rdropWhile_concat_pos (· == '.') _ '.' rfl, rdropWhile_append, rdropWhile_point d.isWhole.digits, hwhole]
    rfl
  have htrimmed : d.fraction.rdropWhile (· == '0') = d.trimmed.fraction := rfl
  unfold text
  rw [htrim, htrim, hchars, rdropWhile_append, htrimmed]
  unfold chars tail
  cases hfraction : d.trimmed.fraction.isEmpty with
  | true =>
    rw [if_pos rfl, List.rdropWhile_concat_neg (· == '0') _ '.' (by decide), hfront, if_pos rfl, List.append_nil]
    rfl
  | false =>
    rw [if_neg (by decide), rdropWhile_append, rdropWhile_point d.trimmed.digits, hfraction, if_neg (by decide),
      if_neg (by decide), List.append_assoc, List.append_assoc, List.singleton_append]
    rfl

end DecimalText

/-- A decimal of three places at most that does not end in a zero after the point. -/
structure PlainDecimal extends DecimalText where
  short : fraction.length ≤ 3
  trailing : fraction.getLast? ≠ some '0'

namespace PlainDecimal

def ofInt (n : Int) : PlainDecimal where
  negative := n < 0
  whole := Nat.toDigits 10 n.natAbs
  fraction := []
  isWhole := isWhole_toDigits n.natAbs
  digits := List.forall_mem_nil _
  short := Nat.zero_le 3
  trailing := nofun

theorem text_ofInt (n : Int) : (ofInt n).text = toString n := by
  have hchars : (ofInt n).chars = (if n < 0 then ['-'] else []) ++ Nat.toDigits 10 n.natAbs := by
    unfold DecimalText.chars DecimalText.sign DecimalText.tail ofInt
    simp
  refine String.toList_inj.mp ?_
  unfold DecimalText.text
  rw [String.toList_ofList, hchars, Int.toString_eq_repr, Int.repr_eq_if]
  by_cases hn : 0 ≤ n
  · rw [if_pos hn, if_neg (by omega), Nat.toList_repr, show n.natAbs = n.toNat by omega, List.nil_append]
  · rw [if_neg hn, if_pos (by omega), String.toList_append, Nat.toList_repr, show n.natAbs = (-n).toNat by omega]
    rfl

theorem value_ofInt (n : Int) : (ofInt n).value = n := by
  have hvalue : (ofInt n).value = if n < 0 then -(n.natAbs : ℚ) else n.natAbs := by
    unfold DecimalText.value decimalValue ofInt
    simp
  rw [hvalue]
  split
  · rw [← Int.cast_natCast, ← Int.cast_neg]
    congr 1
    omega
  · rw [← Int.cast_natCast]
    congr 1
    omega

def trim (d : DecimalText) (hd : d.fraction.length ≤ 3) : PlainDecimal where
  toDecimalText := d.trimmed
  short := Nat.le_trans (List.rdropWhile_prefix _ _).length_le hd
  trailing := d.last_trimmed

end PlainDecimal

namespace NumberStyle

/-- A finite number rounded to `p` places. -/
theorem write_fixed {p : Nat} (hp : 0 < p) {x : Float} (hx : Binary64.isFinite x = true) :
    ∃ d : DecimalText, d.fraction.length = p ∧ write { rule := .fixed p } x = d.text := by
  obtain ⟨whole, fraction, htext, hwhole, hdigits, hlength, -⟩ :=
    shows_magnitude hp (Binary64.parts x).m (Binary64.parts x).e
  refine ⟨⟨Binary64.isNegative x, whole, fraction, hwhole, hdigits⟩, hlength, ?_⟩
  have hchars : (if Binary64.isNegative x then ['-'] else []) ++
      (magnitude { rule := .fixed p } (Binary64.parts x).m (Binary64.parts x).e).1 =
        DecimalText.chars ⟨Binary64.isNegative x, whole, fraction, hwhole, hdigits⟩ := by
    have hne : fraction.isEmpty = false := by
      rw [List.isEmpty_eq_false_iff, ← List.length_pos_iff]
      omega
    unfold DecimalText.chars DecimalText.sign DecimalText.tail
    rw [htext, hne]
    rfl
  unfold write DecimalText.text
  rw [Binary64.isNaN_of_isFinite hx, hx, ← hchars]
  simp

end NumberStyle
end WireSketch
