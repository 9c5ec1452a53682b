import WireSketch.Value.Operate

/-! Conversions between types: integers, numbers, rounded numbers and maps. -/
namespace WireSketch.Value

/-- The text of a value cut after two hundred characters, as faults quote it. -/
def excerpt (s : String) : String := String.ofList (s.toList.take 200)

def parseInt (text : List Char) (base : Nat) (shown : String) : Except Fault Value :=
  match Reading.int text base with
  | .value n => .ok (int n)
  | .invalid => .error (.intText base (excerpt shown))
  | .tooLong n => .error (.tooManyDigits (some n))

/-- The integer part of a number, or the integer that a text denotes. -/
def toInt (v : Value) : Except Fault Value :=
  match v with
  | float x =>
    if x.isNaN then .error .nanToInteger
    else if !Binary64.isFinite x then .error .infinityToInteger
    else .ok (int (Binary64.truncate x))
  | str s => parseInt s.toList 10 (Text.quote s)
  | bytes b => parseInt (byteChars b) 10 (Text.quoteBytes b)
  | v =>
    match v.asInt? with
    | some n => .ok (int n)
    | Option.none => .error (.intArgument v.typeName)

def toIntBase (v base : Value) : Except Fault Value := do
  let b ← base.toIndex
  if (b ≠ 0 ∧ b < 2) ∨ b > 36 then throw .badBase
  match v with
  | str s => parseInt s.toList b.toNat (Text.quote s)
  | bytes bs => parseInt (byteChars bs) b.toNat (Text.quoteBytes bs)
  | _ => throw .explicitBase

/-- The binary64 number of a number, or the one that a text denotes. -/
def toFloat (v : Value) : Except Fault Float := do
  let parse (text : List Char) (shown : String) : Except Fault Float :=
    match Reading.float? text with
    | some x => .ok x
    | Option.none => .error (.floatText shown)
  match v with
  | str s => parse s.toList (Text.quote s)
  | bytes b => parse (byteChars b) (Text.quoteBytes b)
  | complex .. => throw (.floatArgument v.typeName)
  | v =>
    match v.num? with
    | some n => n.toFloat
    | Option.none => throw (.floatArgument v.typeName)

/-- An integer rounded to a multiple of `10^k`, ties to even. -/
def roundInt (n : Int) (k : Nat) : Int :=
  if k > n.natAbs.log2 + 2 then 0
  else
    let q := divEven n.natAbs (Nat.pow 10 k) * Nat.pow 10 k
    if n < 0 then -q else q

/-- A number rounded to decimal places, which may be negative. -/
def roundFloat (x : Float) (places : Int) : Except Fault Float :=
  if x.isNaN || !Binary64.isFinite x || x == 0 then .ok x
  else if places > 340 then .ok x
  else if places < -310 then .ok (Binary64.withSignOf 0 x)
  else
    let p := Binary64.parts x
    let (num, den) := Binary64.ratio p.m p.e
    let (n, d) := Decimal.shift num den (-places)
    let r := Decimal.read p.negative (divEven n d) (-places)
    if Binary64.isFinite r then .ok r else .error .roundOverflow

/-- The nearest integer, or the nearest number with the given decimal places. -/
def rounded (v places : Value) : Except Fault Value := do
  match v with
  | float x =>
    match places with
    | none =>
      if x.isNaN then throw .nanToInteger
      if !Binary64.isFinite x then throw .infinityToInteger
      return int (Binary64.roundEven x)
    | places => return float (← roundFloat x (← places.toIndex))
  | v =>
    match v.asInt? with
    | some n =>
      match places with
      | none => return int n
      | places =>
        let k ← places.toIndex
        return int (if k ≥ 0 then n else roundInt n (-k).toNat)
    | Option.none => throw (.noRound v.typeName)

/-- One entry from a pair that an iterable yields as its item number `i`. -/
def pairEntry (i : Nat) (v : Value) : StoreM (Value × Value) := do
  let parts ← assignedItems v (.pairExpected i)
  match parts.toList with
  | [a, b] => return (a, b)
  | parts => throw (.pairLength i parts.length)

def addPairs (d : Dict) (i : Nat) : List Value → StoreM Dict
  | [] => return d
  | v :: rest => do
    let (a, b) ← pairEntry i v
    addPairs (← (Dict.set d a b : Except Fault Dict)) (i + 1) rest

/-- Adds the entries of a map, or of an iterable of pairs. -/
def addEntries (d : Dict) (v : Value) : StoreM Dict := do
  match v with
  | dict r => (Dict.merge d (← StoreM.getDict r) : Except Fault Dict)
  | v => addPairs d 0 (← v.items).toList

end WireSketch.Value
