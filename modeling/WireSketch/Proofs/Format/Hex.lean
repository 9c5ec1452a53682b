import WireSketch.Format.Field
import WireSketch.Proofs.Number.Hex
import WireSketch.Proofs.Program.Contract

/-! Integers written in hexadecimal digits by a specification, zeros in front up to a width. -/
namespace WireSketch

namespace FormatSpec

/-- The specification `0<width>x`. -/
def hexSpec (width : Nat) : FormatSpec where
  fill := '0'
  align := .pad
  sign := none
  plainZero := false
  alternate := false
  width := some width
  separator := none
  precision := none
  code := some 'x'

theorem digit_facts {n : Nat} {c : Char} (h : c ∈ Nat.toDigits 10 n) :
    Text.isDecimalDigit c = true ∧ Align.ofChar? c = none := by
  have hdigit := Nat.isDigit_of_mem_toDigits (by decide) (by decide) h
  obtain ⟨hlow, hhigh⟩ := Bool.and_eq_true_iff.mp hdigit
  have hlow : 48 ≤ c.toNat := of_decide_eq_true hlow
  have hhigh : c.toNat ≤ 57 := of_decide_eq_true hhigh
  have hall : ∀ m ≤ 57, 48 ≤ m →
      Text.isDecimalDigit (Char.ofNat m) = true ∧ Align.ofChar? (Char.ofNat m) = none := by decide
  have hc := hall c.toNat hhigh hlow
  rwa [Char.ofNat_toNat] at hc

theorem number_toDigits (n : Nat) : number (Nat.toDigits 10 n ++ ['x']) = (some n, ['x']) := by
  have hall : ∀ c ∈ Nat.toDigits 10 n, Text.isDecimalDigit c = true := fun c hc => (digit_facts hc).1
  have hx : Text.isDecimalDigit 'x' = false := by decide
  have hne : (Nat.toDigits 10 n).isEmpty = false := by simp
  unfold number
  rw [List.takeWhile_append_of_pos hall, List.dropWhile_append_of_pos hall,
    List.takeWhile_cons_of_neg (by simp [hx]), List.dropWhile_cons_of_neg (by simp [hx]), List.append_nil]
  dsimp only
  rw [if_neg (by simp [hne]), foldl_toDigits (by decide) (by decide)]

theorem parse_hexSpec (width : Nat) (hwidth : width < Nat.pow 2 63) (t : String) :
    parse ("0" ++ toString width ++ "x") t (some 'd') .right = .ok (hexSpec width) := by
  have htext : ("0" ++ toString width ++ "x").toList = '0' :: (Nat.toDigits 10 width ++ ['x']) := by
    simp [String.toList_append, Nat.toString_eq_repr, Nat.toList_repr]
  have halign : alignment ('0' :: (Nat.toDigits 10 width ++ ['x'])) =
      (none, none, '0' :: (Nat.toDigits 10 width ++ ['x'])) := by
    cases hds : Nat.toDigits 10 width with
    | nil => exact absurd hds Nat.toDigits_ne_nil
    | cons c ds =>
      have hc := (digit_facts (n := width) (c := c) (by simp [hds])).2
      rw [List.cons_append, alignment, hc]
      rfl
  have hword : checkWord (some width) = .ok () := if_neg (by simpa using hwidth)
  have hzero : optional (· == '0') ('0' :: (Nat.toDigits 10 width ++ ['x'])) =
      (some '0', Nat.toDigits 10 width ++ ['x']) := rfl
  have hother {p : Char → Bool} (hp : p '0' = false) (r : List Char) :
      optional p ('0' :: r) = (none, '0' :: r) := if_neg (by simp [hp])
  have hsign := hother (p := fun c => c == '+' || c == '-' || c == ' ') rfl
  have hplain := hother (p := (· == 'z')) rfl
  have hmark := hother (p := (· == '#')) rfl
  unfold parse
  rw [htext, halign]
  simp only [hsign, hplain, hmark, hzero, Option.isSome_none, Bool.false_eq_true, if_false, number_toDigits,
    hword]
  rfl

theorem formatInt_hexSpec (width : Nat) (n : Int) :
    (hexSpec width).formatInt n = .ok (String.ofList (Hex.padded n width)) := by
  have hsign : (hexSpec width).signText (n < 0) = Hex.sign n := by
    unfold signText Hex.sign
    simp only [decide_eq_true_eq]
    split <;> rfl
  have hgrouped (k : Nat) : (hexSpec width).grouped 4 (Nat.toDigits 16 n.natAbs) k =
      List.replicate (k - (Nat.toDigits 16 n.natAbs).length) '0' ++ Nat.toDigits 16 n.natAbs := by
    unfold grouped
    rw [if_neg (by simp)]
    rfl
  have hwritten : (hexSpec width).writeNumber 4 { negative := n < 0, digits := Nat.toDigits 16 n.natAbs } =
      Hex.padded n width := by
    have hfilled : (hexSpec width).fill = '0' ∧ (hexSpec width).align = .pad := ⟨rfl, rfl⟩
    unfold writeNumber
    dsimp only
    rw [hsign, if_pos hfilled, hgrouped]
    -- The zeros between sign and digits fill the field, and nothing is missing after them.
    have hmissing : width - ((Hex.sign n).length + (width - (Hex.sign n).length -
        (Nat.toDigits 16 n.natAbs).length + (Nat.toDigits 16 n.natAbs).length)) = 0 := by omega
    simp [hexSpec, Hex.padded, hmissing]
  exact congrArg (Except.ok ∘ String.ofList) hwritten

end FormatSpec

/-- An integer is written as its numeral, zeros in front up to the width. -/
theorem Value.format_hex (n : Int) {width : Nat} (hwidth : width < Nat.pow 2 63) (h : Store) :
    (int n).format ("0" ++ toString width ++ "x") h = .ok (String.ofList (Hex.padded n width)) h := by
  have hparse : (liftM (FormatSpec.parse ("0" ++ toString width ++ "x") "int" (some 'd') .right) :
      StoreM FormatSpec) h = .ok (FormatSpec.hexSpec width) h := by
    rw [FormatSpec.parse_hexSpec width hwidth]
    rfl
  have hwritten : (liftM ((FormatSpec.hexSpec width).formatInt n) : StoreM String) h =
      .ok (String.ofList (Hex.padded n width)) h := by
    rw [FormatSpec.formatInt_hexSpec]
    rfl
  unfold format
  rw [if_neg (by simp)]
  exact (Run.bind_ok hparse).trans hwritten

end WireSketch
