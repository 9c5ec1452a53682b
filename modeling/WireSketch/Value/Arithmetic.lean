import WireSketch.Number.Binary64
import WireSketch.Value.Store

/-! Arithmetic on integers, binary64 and complex numbers, with the faults of each operation. -/
namespace WireSketch

inductive BinaryOp
  | add | sub | mul | div | floorDiv | mod | pow | shiftLeft | shiftRight | bitOr | bitXor | bitAnd
  | matMul
deriving Repr, DecidableEq

namespace BinaryOp

/-- The operator as messages spell it. -/
def sign : BinaryOp → String
  | add => "+" | sub => "-" | mul => "*" | div => "/" | floorDiv => "//" | mod => "%"
  | pow => "** or pow()" | shiftLeft => "<<" | shiftRight => ">>" | bitOr => "|" | bitXor => "^"
  | bitAnd => "&" | matMul => "@"

end BinaryOp

def bitLength (n : Int) : Nat := if n = 0 then 0 else n.natAbs.log2 + 1

namespace Bits

/-- Bitwise conjunction; negative numbers have infinitely many leading ones. -/
def and (a b : Int) : Int :=
  match a, b with
  | .ofNat a, .ofNat b => (a &&& b : Nat)
  | .ofNat a, .negSucc b => (a ^^^ (a &&& b) : Nat)
  | .negSucc a, .ofNat b => (b ^^^ (b &&& a) : Nat)
  | .negSucc a, .negSucc b => .negSucc (a ||| b)

def not (a : Int) : Int := -a - 1

def or (a b : Int) : Int := not (and (not a) (not b))

def xor (a b : Int) : Int := and (or a b) (not (and a b))

/-- Floor division by a power of two. -/
def shiftRight (a : Int) (k : Nat) : Int :=
  if k > bitLength a then (if a < 0 then -1 else 0) else a.fdiv (Int.pow 2 k)

end Bits

inductive Num
  | int (n : Int)
  | float (x : Float)
  | complex (re im : Float)

namespace Num

def toValue : Num → Value
  | int n => .int n
  | float x => .float x
  | complex re im => .complex re im

def toFloat : Num → Except Fault Float
  | int n => match Binary64.ofInt? n with
    | some x => .ok x
    | none => .error .tooLargeForFloat
  | float x => .ok x
  | complex re _ => .ok re

def parts : Num → Except Fault (Float × Float)
  | complex re im => .ok (re, im)
  | n => return (← n.toFloat, 0)

def isComplex : Num → Bool
  | complex .. => true
  | _ => false

namespace Complex

def mul (a b : Float × Float) : Float × Float :=
  (a.1 * b.1 - a.2 * b.2, a.1 * b.2 + a.2 * b.1)

/-- The quotient, scaled by the larger part of the divisor; none by zero. -/
def div? (a b : Float × Float) : Option (Float × Float) :=
  if b.1.abs ≥ b.2.abs then
    if b.1.abs == 0 then none
    else
      let ratio := b.2 / b.1
      let denom := b.1 + b.2 * ratio
      some ((a.1 + a.2 * ratio) / denom, (a.2 - a.1 * ratio) / denom)
  else if b.2.abs ≥ b.1.abs then
    let ratio := b.1 / b.2
    let denom := b.1 * ratio + b.2
    some ((a.1 * ratio + a.2) / denom, (a.2 * ratio - a.1) / denom)
  else some (Binary64.nan, Binary64.nan)

/-- The power to a natural number, by squaring. -/
def powNat (fuel : Nat) (x : Float × Float) (n : Nat) (acc : Float × Float) : Float × Float :=
  match fuel with
  | 0 => acc
  | fuel + 1 =>
    if n = 0 then acc
    else powNat fuel (mul x x) (n / 2) (if n % 2 = 1 then mul acc x else acc)

/-- The power in polar form. -/
def polarPow (a b : Float × Float) : Float × Float :=
  let size := Binary64.hypot a.1 a.2
  let angle := Float.atan2 a.2 a.1
  let len := Float.pow size b.1
  let phase := angle * b.1
  let (len, phase) := if b.2 != 0 then
      (len * Float.exp (-angle * b.2), phase + b.2 * Float.log size)
    else (len, phase)
  (len * Float.cos phase, len * Float.sin phase)

/-- Integral exponents up to a hundred multiply; all others use the polar form. -/
def pow (a b : Float × Float) : Except Fault (Float × Float) := do
  let small := b.2 == 0 && Binary64.isIntegral b.1 && b.1.abs ≤ 100
  if b.1 == 0 && b.2 == 0 then return (1, 0)
  if !small && a.1 == 0 && a.2 == 0 then
    if b.2 != 0 || b.1 < 0 then throw .complexZeroToPower
    return (0, 0)
  let r ← if small then
      let p := powNat 8 a b.1.abs.toUInt64.toNat (1, 0)
      if b.1 > 0 then pure p
      else match div? (1, 0) p with
        | some q => pure q
        | none => throw .complexZeroToPower
    else pure (polarPow a b)
  let isInfinite (x : Float) := !Binary64.isFinite x && !x.isNaN
  if isInfinite r.1 || isInfinite r.2 then throw .complexOverflow
  return r

end Complex

/-- The power of two binary64 numbers; a negative one to a fraction is complex. -/
def floatPow (x y : Float) : Except Fault Num := do
  let isInfinite (x : Float) := !Binary64.isFinite x && !x.isNaN
  if y == 0 then return float 1
  if x.isNaN then return float x
  if y.isNaN then return float (if x == 1 then 1 else y)
  if isInfinite y then
    let a := x.abs
    if a == 1 then return float 1
    return float (if (y > 0) == (a > 1) then y.abs else 0)
  if isInfinite x then
    let odd := Binary64.isOdd y
    if y > 0 then return float (if odd then x else x.abs)
    return float (if odd then Binary64.withSignOf 0 x else 0)
  if x == 0 then
    if y < 0 then throw .zeroToNegativePower
    return float (if Binary64.isOdd y then x else 0)
  if x < 0 && !Binary64.isIntegral y then
    let (re, im) ← Complex.pow (x, 0) (y, 0)
    return complex re im
  let negate := x < 0 && Binary64.isOdd y
  let a := x.abs
  let r := if a == 1 then 1 else Float.pow a y
  if isInfinite r then throw .resultOutOfRange
  return float (if negate then -r else r)

/-- The correctly rounded quotient of two integers. -/
def intDiv (a b : Int) : Except Fault Num :=
  if b = 0 then .error .divisionByZero
  else
    match Binary64.ofRatio? ((a < 0) != (b < 0)) a.natAbs b.natAbs with
    | some x => .ok (float x)
    | none => .error .quotientTooLarge

def intOp (op : BinaryOp) (a b : Int) : Except Fault (Option Num) := do
  match op with
  | .add => return some (int (a + b))
  | .sub => return some (int (a - b))
  | .mul => return some (int (a * b))
  | .div => return some (← intDiv a b)
  | .floorDiv => if b = 0 then throw .integerDivisionByZero else return some (int (a.fdiv b))
  | .mod => if b = 0 then throw .integerModuloByZero else return some (int (a.fmod b))
  | .pow =>
    if b < 0 then return some (← floatPow (← (int a).toFloat) (← (int b).toFloat))
    else return some (int (Int.pow a b.toNat))
  | .shiftLeft =>
    if b < 0 then throw .negativeShift
    else if a = 0 then return some (int 0)
    else if b ≥ Int.pow 2 62 then throw .shiftTooLarge
    else return some (int (a * Int.pow 2 b.toNat))
  | .shiftRight =>
    if b < 0 then throw .negativeShift else return some (int (Bits.shiftRight a b.toNat))
  | .bitOr => return some (int (Bits.or a b))
  | .bitXor => return some (int (Bits.xor a b))
  | .bitAnd => return some (int (Bits.and a b))
  | .matMul => return none

def floatOp (op : BinaryOp) (x y : Float) : Except Fault (Option Num) := do
  match op with
  | .add => return some (float (x + y))
  | .sub => return some (float (x - y))
  | .mul => return some (float (x * y))
  | .div => if y == 0 then throw .floatDivisionByZero else return some (float (x / y))
  | .floorDiv =>
    if y == 0 then throw .floatFloorDivisionByZero else return some (float (Binary64.floorDiv x y))
  | .mod => if y == 0 then throw .floatModuloByZero else return some (float (Binary64.floorMod x y))
  | .pow => return some (← floatPow x y)
  | _ => return none

def complexOp (op : BinaryOp) (a b : Float × Float) : Except Fault (Option Num) := do
  match op with
  | .add => return some (complex (a.1 + b.1) (a.2 + b.2))
  | .sub => return some (complex (a.1 - b.1) (a.2 - b.2))
  | .mul =>
    let r := Complex.mul a b
    return some (complex r.1 r.2)
  | .div =>
    match Complex.div? a b with
    | some r => return some (complex r.1 r.2)
    | none => throw .complexDivisionByZero
  | .pow =>
    let r ← Complex.pow a b
    return some (complex r.1 r.2)
  | _ => return none

/-- The operation in the widest of the two kinds of number; none if that kind lacks it. -/
def op (o : BinaryOp) (a b : Num) : Except Fault (Option Num) := do
  match a, b with
  | int a, int b => intOp o a b
  | complex .., _ | _, complex .. =>
    match o with
    | .add | .sub | .mul | .div | .pow => complexOp o (← a.parts) (← b.parts)
    | _ => return none
  | a, b =>
    match o with
    | .shiftLeft | .shiftRight | .bitOr | .bitXor | .bitAnd | .matMul => return none
    | o => floatOp o (← a.toFloat) (← b.toFloat)

/-- Exact equality of numbers of all kinds. -/
def equal : Num → Num → Bool
  | int a, int b => a == b
  | int a, float x | float x, int a => Binary64.compareInt a x == some .eq
  | float x, float y => x == y
  | complex a b, complex c d => a == c && b == d
  | complex a b, float x | float x, complex a b => a == x && b == 0
  | complex a b, int n | int n, complex a b => b == 0 && Binary64.compareInt n a == some .eq

/-- The order of two real numbers; none when one is a NaN. -/
def order? : Num → Num → Option Ordering
  | int a, int b => some (compare a b)
  | int a, float x => Binary64.compareInt a x
  | float x, int a => (Binary64.compareInt a x).map Ordering.swap
  | float x, float y =>
    if x < y then some .lt else if x == y then some .eq else if x > y then some .gt else none
  | _, _ => none

end Num

namespace Value

def num? : Value → Option Num
  | bool b => some (.int (if b then 1 else 0))
  | int n => some (.int n)
  | float x => some (.float x)
  | complex re im => some (.complex re im)
  | _ => Option.none

/-- The integer of a value that can serve as one. -/
def toIndex (v : Value) : Except Fault Int :=
  match v.asInt? with
  | some n => .ok n
  | Option.none => .error (.notInteger v.typeName)

end Value
end WireSketch
