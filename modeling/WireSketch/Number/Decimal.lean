import WireSketch.Number.Binary64

/-! Decimal digits of binary64 numbers: the fewest that read back, and those of a rounded decimal. -/
namespace WireSketch

/-- The number `0.d₁…dₖ * 10^point`, without trailing zeros; no digits stand for zero. -/
structure Decimal where
  digits : List Char
  point : Int
deriving Repr, DecidableEq

namespace Decimal

/-- The decimal digits of a natural number, most significant first. -/
def digitsOf (n : Nat) : List Char := Nat.toDigits 10 n

def ofNat (n : Nat) (exponent : Int) : Decimal :=
  if n = 0 then ⟨[], exponent⟩ else
  let ds := digitsOf n
  ⟨(ds.reverse.dropWhile (· == '0')).reverse, ds.length + exponent⟩

/-- A numerator and denominator of `num / den / 10^p`. -/
def shift (num den : Nat) (p : Int) : Nat × Nat :=
  if 0 ≤ p then (num, den * Nat.pow 10 p.toNat) else (num * Nat.pow 10 (-p).toNat, den)

/-- Moves a guess to the least `p` with `num / den < 10^p`; the guess is off by few. -/
def settle (num den : Nat) : Nat → Int → Int
  | 0, p => p
  | fuel + 1, p =>
    let (n, d) := shift num den p
    if n ≥ d then settle num den fuel (p + 1)
    else
      let (n, d) := shift num den (p - 1)
      if n < d then settle num den fuel (p - 1) else p

/-- The place of the point before the first digit of a positive ratio. -/
def pointOf (num den : Nat) : Int :=
  let bits : Int := (num.log2 : Int) - den.log2
  settle num den 8 ((bits * 30103).fdiv 100000 + 1)

/-- The ratio rounded to `k` significant digits. -/
def significant (num den k : Nat) : Decimal :=
  if num = 0 then ⟨[], 1⟩ else
  let p := pointOf num den - k
  let (n, d) := shift num den p
  ofNat (divEven n d) p

/-- The ratio rounded to `places` digits after the point. -/
def fixed (num den : Nat) (places : Int) : Decimal :=
  let (n, d) := shift num den (-places)
  ofNat (divEven n d) (-places)

/-- Compares `d * 10^p` with `q * 2^e`. -/
def compareBinary (d : Nat) (p : Int) (q : Nat) (e : Int) : Ordering :=
  compare (d * Nat.pow 10 p.toNat * Nat.pow 2 (-e).toNat) (q * Nat.pow 2 e.toNat * Nat.pow 10 (-p).toNat)

/-- Does `d * 10^p` round to the binary64 number `m * 2^e`? The ends count when `m` is even. -/
def roundsTo (m : Nat) (e : Int) (d : Nat) (p : Int) : Bool :=
  let low := 4 * m - if m = Nat.pow 2 52 ∧ e > -1074 then 1 else 2
  let high := 4 * m + 2
  let below := compareBinary d p low (e - 2)
  let above := compareBinary d p high (e - 2)
  if m % 2 = 0 then below != .lt && above != .gt else below == .gt && above == .lt

/-- The nearer of the two neighbours of `m * 2^e` on the grid `10^p` that round to it. -/
def onGrid? (m : Nat) (e p : Int) (num den : Nat) : Option Nat :=
  let (n, d) := shift num den p
  let lo := n / d
  match roundsTo m e lo p, roundsTo m e (lo + 1) p with
  | true, true => some (divEven n d)
  | true, false => some lo
  | false, true => some (lo + 1)
  | false, false => none

/-- Tries grids of `17 - fuel` digits and more. -/
def shortestFrom (m : Nat) (e point : Int) (num den : Nat) : Nat → Decimal
  | 0 => significant num den 17
  | fuel + 1 =>
    let p := point - (17 - fuel : Nat)
    match onGrid? m e p num den with
    | some d => ofNat d p
    | none => shortestFrom m e point num den fuel

/-- The fewest digits that read back as `m * 2^e`, and of those the nearest. -/
def shortest (m : Nat) (e : Int) : Decimal :=
  if m = 0 then ⟨[], 1⟩ else
  let (num, den) := Binary64.ratio m e
  shortestFrom m e (pointOf num den) num den 17

/-- The binary64 number nearest to `n * 10^exponent`. -/
def read (negative : Bool) (n : Nat) (exponent : Int) : Float :=
  if n = 0 then Binary64.zero negative
  else
    let size : Int := (n.log2 : Int) * 30103 / 100000 + exponent
    if size > 400 then Binary64.infinity negative
    else if size < -400 then Binary64.zero negative
    else
      let (num, den) :=
        if 0 ≤ exponent then (n * Nat.pow 10 exponent.toNat, 1) else (n, Nat.pow 10 (-exponent).toNat)
      Binary64.ofRatio negative num den

end Decimal
end WireSketch
