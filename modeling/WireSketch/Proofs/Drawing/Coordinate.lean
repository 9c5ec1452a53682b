import WireSketch.Diagram.Element
import WireSketch.Proofs.Number.Plain

/-! Numbers as coordinates: plain decimals of three places at most. -/
namespace WireSketch

namespace FormatSpec

def thousandths : FormatSpec where
  fill := ' '
  align := .right
  sign := none
  plainZero := false
  alternate := false
  width := none
  separator := none
  precision := some 3
  code := some 'f'

/-- No field is padded and no digits are grouped, so a number is written as it is. -/
theorem writeNumber_thousandths (text : List Char) : thousandths.writeNumber 3 (splitNumber text) = text := by
  have hgrouped (ds : List Char) : thousandths.grouped 3 ds 0 = ds := by
    unfold grouped
    cases ds with
    | nil => rfl
    | cons c ds => simp [thousandths]
  have hparts (p : FieldParts) : thousandths.writeNumber 3 p =
      (if p.negative then ['-'] else []) ++ p.mark ++ p.digits ++ p.rest := by
    rw [← hgrouped p.digits]
    unfold writeNumber
    simp [thousandths, signText]
  rw [hparts]
  unfold splitNumber
  split
  rename_i negative digits hsign
  rw [List.append_nil, List.append_assoc, List.takeWhile_append_dropWhile]
  split at hsign
  · cases hsign
    rfl
  · cases hsign
    rfl

theorem formatFloat_thousandths (x : Float) :
    thousandths.formatFloat x = .ok (NumberStyle.write { rule := .fixed 3 } x) := by
  let parts := splitNumber (NumberStyle.write { rule := .fixed 3 } x).toList
  have hwritten : thousandths.formatFloat x =
      .ok (String.ofList (thousandths.writeNumber 3 { parts with rest := parts.rest ++ [] })) := rfl
  rw [hwritten, List.append_nil, writeNumber_thousandths, String.ofList_toList]

end FormatSpec

theorem Value.format_thousandths (x : Float) (s : Store) :
    (Value.float x).format ".3f" s = .ok (NumberStyle.write { rule := .fixed 3 } x) s := by
  have hformat : (Value.float x).format ".3f" = (liftM (FormatSpec.thousandths.formatFloat x) : StoreM String) := by
    rfl
  rw [hformat, FormatSpec.formatFloat_thousandths]
  rfl

/-- Is a number within a billionth of another one, relative to either of them? -/
def Binary64.isClose (x y : Float) : Bool :=
  x == y || (let d := (y - x).abs; d ≤ (1e-9 * y).abs || d ≤ (1e-9 * x).abs)

def Binary64.isNear (x : Float) (n : Int) : Bool :=
  match ofInt? n with
  | some y => isClose x y
  | none => false

theorem coordinateOfFloat_eq {x : Float} (hx : Binary64.isFinite x = true) : coordinateOfFloat x =
    if Binary64.isNear x (Binary64.roundEven x) then toString (Binary64.roundEven x)
    else Text.trimEnd '.' (Text.trimEnd '0' (NumberStyle.write { rule := .fixed 3 } x)) := by
  unfold coordinateOfFloat
  dsimp only
  generalize hwhole : Option.filter _ _ = whole
  obtain rfl : whole =
      if Binary64.isNear x (Binary64.roundEven x) then some (Binary64.roundEven x) else none := by
    rw [← hwhole, hx, if_pos rfl, Option.filter_some]
    rfl
  cases Binary64.isNear x (Binary64.roundEven x) with
  | true => rfl
  | false => rfl

theorem Value.intText_eq {n : Int} (hn : (Nat.toDigits 10 n.natAbs).length ≤ 4300) :
    intText n = .ok (toString n) := by
  have hdigits : Reading.maxDigits = 4300 := rfl
  rw [← hdigits, Nat.length_toDigits_le_iff (by decide) (by decide)] at hn
  unfold intText
  rw [Nat.pow_eq]
  generalize 10 ^ Reading.maxDigits = limit at hn ⊢
  rw [if_neg]
  omega

/-- Integers and finite numbers are written as plain decimals. An integer, and a number near one, is written as
the integer is; any other number as its text of three places is read, none of whose significant digits is lost. -/
theorem coordinate_plain :
    (∀ n : Int, (Nat.toDigits 10 n.natAbs).length ≤ 4300 →
      ∃ d : PlainDecimal, coordinate (.int n) = .ok d.text ∧ Text.decimal? d.text = some (n : ℚ)) ∧
    ∀ x : Float, Binary64.isFinite x = true →
      ∃ d : PlainDecimal, coordinate (.float x) = .ok d.text ∧
        if Binary64.isNear x (Binary64.roundEven x) then Text.decimal? d.text = some (Binary64.roundEven x : ℚ)
        else ∃ t : DecimalText, t.fraction.length = 3 ∧ (∀ s, (Value.float x).format ".3f" s = .ok t.text s) ∧
          ∃ v, Text.decimal? t.text = some v ∧ Text.decimal? d.text = some v := by
  have hint (n : Int) : Text.decimal? (PlainDecimal.ofInt n).text = some (n : ℚ) := by
    rw [DecimalText.decimal?_text, PlainDecimal.value_ofInt]
  constructor
  · intro n hn
    refine ⟨.ofInt n, ?_, hint n⟩
    rw [PlainDecimal.text_ofInt]
    exact Value.intText_eq hn
  · intro x hx
    obtain ⟨t, hlength, htext⟩ := NumberStyle.write_fixed (p := 3) (by decide) hx
    have heq : coordinate (.float x) = .ok (coordinateOfFloat x) := rfl
    rw [heq, coordinateOfFloat_eq hx, htext]
    cases Binary64.isNear x (Binary64.roundEven x) with
    | true =>
      refine ⟨.ofInt (Binary64.roundEven x), ?_, hint _⟩
      rw [if_pos rfl, PlainDecimal.text_ofInt]
    | false =>
      refine ⟨.trim t (Nat.le_of_eq hlength), ?_, t, hlength, fun s => ?_, t.value, t.decimal?_text, ?_⟩
      · rw [if_neg (by decide), t.text_trimmed (by rintro h; simp [h] at hlength)]
        rfl
      · rw [Value.format_thousandths, htext]
      · rw [DecimalText.decimal?_text]
        exact congrArg some t.value_trimmed

/-- Zeros before the point stay, and those behind it go. -/
theorem coordinate_plain_hundreds :
    let x : Float := 1299.9996
    (∃ d : PlainDecimal, coordinate (.int (-1300)) = .ok d.text ∧ Text.decimal? d.text = some (-1300)) ∧
    coordinate (.int (-1300)) = .ok "-1300" ∧
    (∃ d : PlainDecimal, coordinate (.float x) = .ok d.text ∧ ∃ t : DecimalText, t.fraction.length = 3 ∧
      (∀ s, (Value.float x).format ".3f" s = .ok t.text s) ∧
        ∃ v, Text.decimal? t.text = some v ∧ Text.decimal? d.text = some v) ∧
    coordinate (.float x) = .ok "1300" ∧ NumberStyle.write { rule := .fixed 3 } x = "1300.000" := by
  intro x
  have hnear : Binary64.isNear x (Binary64.roundEven x) = false := by decide +kernel
  have hfloat := coordinate_plain.2 x (by decide +kernel)
  rw [hnear] at hfloat
  have hint := coordinate_plain.1 (-1300) (by decide)
  have htext : coordinateOfFloat x = "1300" := by decide +kernel
  exact ⟨by simpa using hint, rfl, hfloat, congrArg _ htext, by decide +kernel⟩

end WireSketch
