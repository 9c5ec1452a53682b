/-! Binary64 numbers as signed integer multiples of powers of two, and the number nearest to a ratio. -/
namespace WireSketch

/-- The quotient to the nearest integer; a half goes to the even neighbour. -/
def divEven (n d : Nat) : Nat :=
  let q := n / d
  let r := n % d
  if 2 * r > d ∨ (2 * r = d ∧ q % 2 = 1) then q + 1 else q

theorem divEven_of_dvd {n d : Nat} (hd : 0 < d) (h : d ∣ n) : divEven n d = n / d := by
  have : n % d = 0 := Nat.mod_eq_zero_of_dvd h
  simp only [divEven, this]
  split <;> omega

namespace Binary64

/-- The finite number `(-1)^negative * m * 2^e`. -/
structure Parts where
  negative : Bool
  m : Nat
  e : Int
deriving Repr, DecidableEq

def isFinite (x : Float) : Bool := x.toBits.toNat / Nat.pow 2 52 % 2048 != 2047

def isNegative (x : Float) : Bool := x.toBits.toNat / Nat.pow 2 63 == 1

/-- The parts of a finite number; a subnormal has the least exponent. -/
def parts (x : Float) : Parts :=
  let b := x.toBits.toNat
  let f : Nat := b % Nat.pow 2 52
  let k : Nat := b / Nat.pow 2 52 % 2048
  if k = 0 then ⟨isNegative x, f, -1074⟩ else ⟨isNegative x, f + Nat.pow 2 52, (k : Int) - 1075⟩

def ratio (m : Nat) (e : Int) : Nat × Nat :=
  if 0 ≤ e then (m * Nat.pow 2 e.toNat, 1) else (m, Nat.pow 2 (-e).toNat)

def zero (negative : Bool) : Float := Float.ofBits (if negative then 0x8000000000000000 else 0)

def infinity (negative : Bool) : Float :=
  Float.ofBits (if negative then 0xfff0000000000000 else 0x7ff0000000000000)

def nan : Float := Float.ofBits 0x7ff8000000000000

/-- The number nearest to `num / den`, ties to even; `none` when it is beyond the largest finite one. -/
def ofRatio? (negative : Bool) (num den : Nat) : Option Float :=
  if num = 0 then some (zero negative) else
  let guess : Int := (num.log2 : Int) - den.log2 - 53
  let e := max guess (-1074)
  let scaled (e : Int) : Nat × Nat :=
    if 0 ≤ e then (num, den * Nat.pow 2 e.toNat) else (num * Nat.pow 2 (-e).toNat, den)
  -- One binary place less is enough when the first quotient is a digit too long.
  let e := if (scaled e).1 / (scaled e).2 ≥ Nat.pow 2 53 then e + 1 else e
  let q := divEven (scaled e).1 (scaled e).2
  let bits := if q < Nat.pow 2 52 then q else (e + 1075).toNat * Nat.pow 2 52 + (q - Nat.pow 2 52)
  if bits ≥ 2047 * Nat.pow 2 52 then none
  else some (Float.ofBits (UInt64.ofNat (bits + if negative then Nat.pow 2 63 else 0)))

def ofRatio (negative : Bool) (num den : Nat) : Float :=
  (ofRatio? negative num den).getD (infinity negative)

/-- The number nearest to an integer, if it is in range. -/
def ofInt? (n : Int) : Option Float := ofRatio? (n < 0) n.natAbs 1

def truncate (x : Float) : Int :=
  let p := parts x
  let (n, d) := ratio p.m p.e
  if p.negative then -((n / d : Nat) : Int) else (n / d : Nat)

/-- The nearest integer, ties to even. -/
def roundEven (x : Float) : Int :=
  let p := parts x
  let (n, d) := ratio p.m p.e
  if p.negative then -(divEven n d : Int) else divEven n d

def floor (x : Float) : Int :=
  let p := parts x
  let (n, d) := ratio p.m p.e
  if p.negative then (-(n : Int)).fdiv d else (n / d : Nat)

def isIntegral (x : Float) : Bool :=
  isFinite x && (let p := parts x; let (n, d) := ratio p.m p.e; n % d == 0)

/-- The exact order of an integer and a number; none for a NaN. -/
def compareInt (n : Int) (x : Float) : Option Ordering :=
  if x.isNaN then none
  else if !isFinite x then some (if isNegative x then .gt else .lt)
  else
    let p := parts x
    let (a, d) := ratio p.m p.e
    let a : Int := if p.negative then -(a : Int) else a
    some (compare (n * d) a)

/-- The remainder of a division that truncates, which is exact and has the sign of the dividend. -/
def remainder (x y : Float) : Float :=
  if x.isNaN || y.isNaN || !isFinite x || y == 0 then nan
  else if !isFinite y then x
  else
    let a := parts x
    let b := parts y
    let e := min a.e b.e
    let r := (a.m * Nat.pow 2 (a.e - e).toNat) % (b.m * Nat.pow 2 (b.e - e).toNat)
    let (n, d) := ratio r e
    ofRatio a.negative n d

/-- The magnitude of `x` with the sign of `y`. -/
def withSignOf (x y : Float) : Float :=
  if isNegative x == isNegative y then x else -x

/-- The remainder that has the sign of the divisor. -/
def floorMod (x y : Float) : Float :=
  let r := remainder x y
  if r == 0 then withSignOf 0 y
  else if (y < 0) != (r < 0) then r + y else r

/-- The floor of the quotient, computed from the exact remainder. -/
def floorDiv (x y : Float) : Float :=
  let r := remainder x y
  let q := (x - r) / y
  let q := if r != 0 && (y < 0) != (r < 0) then q - 1 else q
  if q == 0 then withSignOf 0 (x / y)
  else
    let f := q.floor
    if q - f > 0.5 then f + 1 else f

def isOdd (x : Float) : Bool := isIntegral x && truncate x % 2 != 0

/-- The integer square root, from above. -/
def sqrtLoop (n : Nat) : Nat → Nat → Nat
  | 0, r => r
  | fuel + 1, r =>
    let next := (r + n / r) / 2
    if next < r then sqrtLoop n fuel next else r

def isqrt (n : Nat) : Nat :=
  if n = 0 then 0 else sqrtLoop n (n.log2 + 2) (Nat.pow 2 (n.log2 / 2 + 1))

/-- The length of the hypotenuse. -/
def hypot (x y : Float) : Float :=
  if (!isFinite x && !x.isNaN) || (!isFinite y && !y.isNaN) then infinity false
  else if x.isNaN || y.isNaN then nan
  else
    let a := parts x
    let b := parts y
    let e := min a.e b.e
    let s := Nat.pow (a.m * Nat.pow 2 (a.e - e).toNat) 2 + Nat.pow (b.m * Nat.pow 2 (b.e - e).toNat) 2
    -- Sixty-four further binary places, with a sticky one for what the root leaves.
    let t := s * Nat.pow 2 128
    let r := isqrt t
    let r := if r * r = t then 2 * r else 2 * r + 1
    let (n, d) := ratio r (e - 65)
    ofRatio false n d

end Binary64
end WireSketch
