import WireSketch.Number.Decimal
import WireSketch.Text.CharRange

/-! Numbers read from texts: blanks around, underscores between digits, digits of any script. -/
namespace WireSketch.Reading

/-- The most decimal digits that an integer may have as a text. -/
def maxDigits : Nat := 4300

/-- Blanks in a text of ASCII characters alone. -/
def isAsciiBlank (c : Char) : Bool := c == ' ' || (0x9 ≤ c.toNat && c.toNat ≤ 0xd)

/-- A wide text with its digits and blanks in ASCII; what else is wide becomes a question mark. -/
def narrow (s : List Char) : List Char :=
  if s.all (·.toNat < 0x80) then s
  else s.map fun c =>
    if Text.isBlank c then ' '
    else match Text.digitValue? c with
      | some d => Char.ofNat (0x30 + d)
      | none => if c.toNat < 0x80 then c else '?'

/-- The value of a digit or letter in a base up to 36. -/
def baseDigit? (c : Char) : Option Nat :=
  if c.isDigit then some (c.toNat - 0x30)
  else if 'a' ≤ c ∧ c ≤ 'z' then some (c.toNat - 0x61 + 10)
  else if 'A' ≤ c ∧ c ≤ 'Z' then some (c.toNat - 0x41 + 10)
  else none

/-- Digits below `base` with single underscores between them: value, count of digits, and the rest. -/
def digits (base : Nat) : List Char → Nat → Nat → Option (Nat × Nat × List Char)
  | [], n, count => some (n, count, [])
  | '_' :: c :: r, n, count =>
    if count = 0 then none
    else
      match baseDigit? c with
      | some d => if d < base then digits base r (n * base + d) (count + 1) else none
      | none => none
  | '_' :: [], _, _ => none
  | c :: r, n, count =>
    match baseDigit? c with
    | some d => if d < base then digits base r (n * base + d) (count + 1) else some (n, count, c :: r)
    | none => some (n, count, c :: r)

inductive IntResult
  | value (n : Int)
  | invalid
  | tooLong (digits : Nat)
deriving Repr, DecidableEq

def markedBase? (c : Char) : Option Nat :=
  if c == 'x' || c == 'X' then some 16
  else if c == 'o' || c == 'O' then some 8
  else if c == 'b' || c == 'B' then some 2
  else none

def signed : List Char → Bool × List Char
  | '+' :: r => (false, r)
  | '-' :: r => (true, r)
  | r => (false, r)

/-- The base of a text that states it itself, and whether only zero is allowed. -/
def ownBase : List Char → Nat × Bool
  | '0' :: c :: _ => match markedBase? c with
    | some b => (b, false)
    | none => (10, true)
  | ['0'] => (10, true)
  | _ => (10, false)

/-- Drops a mark that agrees with the base, and one underscore after it. -/
def dropMark (base : Nat) : List Char → List Char
  | '0' :: c :: r =>
    if markedBase? c = some base then
      match r with
      | '_' :: r => r
      | r => r
    else '0' :: c :: r
  | r => r

/-- An integer in a base from 2 to 36; base 0 takes the base from the text's own mark. -/
def int (s : List Char) (base : Nat) : IntResult :=
  let (negative, r) := signed ((narrow s).dropWhile isAsciiBlank)
  let (base, zeroOnly) := if base = 0 then ownBase r else (base, false)
  match digits base (dropMark base r) 0 0 with
  | some (n, count, rest) =>
    if base &&& (base - 1) != 0 && count > maxDigits then .tooLong count
    else if count = 0 || (zeroOnly && n != 0) || !rest.all isAsciiBlank then .invalid
    else .value (if negative then -(n : Int) else n)
  | none => .invalid

/-- Removes underscores that stand between two digits; any other one makes the text invalid. -/
def joinDigits : Bool → List Char → Option (List Char)
  | _, [] => some []
  | afterDigit, '_' :: c :: r =>
    if afterDigit && c.isDigit then (joinDigits true r).map (c :: ·) else none
  | _, '_' :: [] => none
  | _, c :: r => (joinDigits c.isDigit r).map (c :: ·)

/-- The value of plain decimal digits. -/
def decimalValue (ds : List Char) : Nat := ds.foldl (fun n c => n * 10 + (c.toNat - 0x30)) 0

def exponent? : List Char → Option Int
  | [] => some 0
  | c :: r =>
    if c == 'e' || c == 'E' then
      let (negative, ds) := signed r
      if !ds.isEmpty && ds.all Char.isDigit then
        let n : Int := decimalValue ds
        some (if negative then -n else n)
      else none
    else none

/-- A number without sign: digits with or without a point, and an exponent. -/
def unsigned? (negative : Bool) (s : List Char) : Option Float :=
  let whole := s.takeWhile Char.isDigit
  let r := s.dropWhile Char.isDigit
  let (fraction, r) := match r with
    | '.' :: r => (r.takeWhile Char.isDigit, r.dropWhile Char.isDigit)
    | r => ([], r)
  if whole.isEmpty && fraction.isEmpty then none
  else do
    let e ← exponent? r
    return Decimal.read negative (decimalValue (whole ++ fraction)) (e - fraction.length)

/-- A binary64 number; infinities and NaN have names. -/
def float? (s : List Char) : Option Float := do
  let s ← joinDigits false (Text.trimList isAsciiBlank (narrow s))
  let (negative, r) := signed s
  let word := String.ofList (r.map Char.toLower)
  if word == "inf" || word == "infinity" then return Binary64.infinity negative
  if word == "nan" then return Binary64.nan
  unsigned? negative r

end WireSketch.Reading
