import WireSketch.Number.Decimal

/-! The text of binary64 numbers: positional or with an exponent, in a chosen number of digits. -/
namespace WireSketch

/-- How many digits are written, and when an exponent is. -/
inductive DigitRule
  /-- The fewest digits that read back; an exponent below 10^-4 and from 10^16. -/
  | shortest
  /-- This many digits after the point, never an exponent. -/
  | fixed (places : Nat)
  /-- This many digits after the first one, always an exponent. -/
  | scientific (places : Nat)
  /-- This many significant digits at most; an exponent below 10^-4 and from 10^digits. -/
  | general (digits : Nat)
deriving Repr, DecidableEq

structure NumberStyle where
  rule : DigitRule
  /-- Keep the point and the zeros that end the digits. -/
  alternate : Bool := false
  /-- An integral value still shows one digit after the point. -/
  pointZero : Bool := false
  /-- A value that rounds to zero has no sign. -/
  plainZero : Bool := false
  upper : Bool := false
deriving Repr, DecidableEq

namespace NumberStyle

/-- The digits from place `a` to place `b` of `0.d₁d₂…`, with zeros outside of the written ones. -/
def places (ds : List Char) (a b : Int) : List Char :=
  let lead := List.replicate (min b 0 - a).toNat '0'
  let body := (ds.drop a.toNat).take (b - max a 0).toNat
  lead ++ body ++ List.replicate ((b - max a 0).toNat - body.length) '0'

def exponentText (e : Int) (upper : Bool) : List Char :=
  let ds := Decimal.digitsOf e.natAbs
  (if upper then 'E' else 'e') :: (if e < 0 then '-' else '+') ::
    (List.replicate (2 - ds.length) '0' ++ ds)

/-- The rounded digits and, for each rule, how many of them are written and whether an exponent is. -/
def layout (s : NumberStyle) (m : Nat) (e : Int) : Decimal × Int × Bool :=
  let (num, den) := Binary64.ratio m e
  match s.rule with
  | .shortest =>
    let d := Decimal.shortest m e
    (d, d.digits.length, d.point ≤ -4 || d.point > 16)
  | .fixed p =>
    let d := Decimal.fixed num den p
    (d, d.point + p, false)
  | .scientific p => (Decimal.significant num den (p + 1), p + 1, true)
  | .general p =>
    let p := max p 1
    let d := Decimal.significant num den p
    let last : Int := if s.pointZero then 1 else 0
    (d, if s.alternate then p else d.digits.length, d.point ≤ -4 || d.point > p - last)

/-- The text of the magnitude of a finite number, and whether all its digits are zeros. -/
def magnitude (s : NumberStyle) (m : Nat) (e : Int) : List Char × Bool :=
  let (d, last, exponential) := layout s m e
  let isZero := d.digits.isEmpty
  let d : Decimal := if isZero then ⟨[], 1⟩ else d
  let last := if isZero then
      match s.rule with
      | .fixed p => (p : Int) + 1
      | .shortest => 1
      | .scientific p => p + 1
      | .general p => if s.alternate then max p 1 else 1
    else last
  let point := if exponential then 1 else d.point
  let last := if !exponential && s.pointZero then max last (point + 1) else max last point
  let start := if point ≤ 0 then point - 1 else 0
  let whole := places d.digits start point
  let fraction := places d.digits (max point start) last
  let fraction := if fraction.isEmpty && !s.alternate then [] else '.' :: fraction
  (whole ++ fraction ++ if exponential then exponentText (d.point - 1) s.upper else [], isZero)

/-- The text of a number, with a minus sign where it has one; a NaN has none. -/
def write (s : NumberStyle) (x : Float) : String :=
  if x.isNaN then if s.upper then "NAN" else "nan"
  else
    let sign := if Binary64.isNegative x then ['-'] else []
    if !Binary64.isFinite x then
      String.ofList (sign ++ (if s.upper then ['I', 'N', 'F'] else ['i', 'n', 'f']))
    else
      let p := Binary64.parts x
      let (text, isZero) := magnitude s p.m p.e
      String.ofList ((if isZero && s.plainZero then [] else sign) ++ text)

/-- The default text of a number: it reads back, and shows a point or an exponent. -/
def default : NumberStyle := { rule := .shortest, pointZero := true }

end NumberStyle
end WireSketch
