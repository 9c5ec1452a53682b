import WireSketch.Format.Spec
import WireSketch.Number.Written
import WireSketch.Value.Shown

/-! Values written by a format specification. -/
namespace WireSketch

/-- The characters of a number before padding: sign, mark of the base, digits, and what follows them. -/
structure FieldParts where
  negative : Bool := false
  mark : List Char := []
  digits : List Char
  rest : List Char := []

namespace FormatSpec

/-- Spaces to the left and right of `n` characters. -/
def margins (s : FormatSpec) (n : Nat) : Nat × Nat :=
  let k := s.width.getD 0 - n
  match s.align with
  | .left => (0, k)
  | .right | .pad => (k, 0)
  | .center => (k / 2, k - k / 2)

def padded (s : FormatSpec) (text : List Char) : String :=
  let (l, r) := s.margins text.length
  String.ofList (List.replicate l s.fill ++ text ++ List.replicate r s.fill)

/-- Groups of digits from the right, zeros added up to `width` characters; all lists are reversed. -/
def groups (size : Nat) (mark : Char) : Nat → List Char → Int → List Char
  | 0, _, _ => []
  | fuel + 1, ds, width =>
    let l := min size (max (max ds.length width.toNat) 1)
    let group := ds.take l ++ List.replicate (l - ds.length) '0'
    let ds := ds.drop l
    let width := width - l
    if ds.isEmpty && width ≤ 0 then group
    else group ++ mark :: groups size mark fuel ds (width - 1)

/-- The digits with separators and leading zeros. -/
def grouped (s : FormatSpec) (size : Nat) (ds : List Char) (width : Nat) : List Char :=
  if ds.isEmpty then []
  else
    match s.separator with
    | some mark => (groups size mark.char (ds.length + width + 1) ds.reverse width).reverse
    | none => List.replicate (width - ds.length) '0' ++ ds

def signText (s : FormatSpec) (negative : Bool) : List Char :=
  if negative then ['-']
  else
    match s.sign with
    | some '+' => ['+']
    | some ' ' => [' ']
    | _ => []

/-- A number in its field; zeros that fill the field stand after the sign. -/
def writeNumber (s : FormatSpec) (size : Nat) (p : FieldParts) : List Char :=
  let sign := s.signText p.negative
  let fixed := sign.length + p.mark.length + p.rest.length
  let width := if s.fill = '0' ∧ s.align = .pad then s.width.getD 0 - fixed else 0
  let digits := s.grouped size p.digits width
  let missing := s.width.getD 0 - (fixed + digits.length)
  let (l, m, r) := match s.align with
    | .left => (0, 0, missing)
    | .right => (missing, 0, 0)
    | .center => (missing / 2, 0, missing - missing / 2)
    | .pad => (0, missing, 0)
  List.replicate l s.fill ++ sign ++ p.mark ++ List.replicate m s.fill ++ digits ++ p.rest ++
    List.replicate r s.fill

/-- The parts of a number's text: a sign, digits, and the point or exponent with what follows. -/
def splitNumber (text : List Char) : FieldParts :=
  let (negative, text) := match text with
    | '-' :: r => (true, r)
    | r => (false, r)
  { negative, digits := text.takeWhile Char.isDigit, rest := text.dropWhile Char.isDigit }

/-- The style that a code asks for; without a code the fewest digits are written. -/
def numberStyle (s : FormatSpec) (pointZero : Bool) : NumberStyle :=
  let p := s.precision.getD 6
  let (rule, pointZero) : DigitRule × Bool := match s.code with
    | some 'e' | some 'E' => (.scientific p, false)
    | some 'f' | some 'F' | some '%' => (.fixed p, false)
    | some _ => (.general p, false)
    | none => ((s.precision.map DigitRule.general).getD .shortest, pointZero)
  { rule, pointZero, alternate := s.alternate, plainZero := s.plainZero
    upper := s.code.any Char.isUpper }

/-- Widths beyond a machine integer are refused. -/
def checkPrecision (s : FormatSpec) : Except Fault Unit :=
  if s.precision.any (· ≥ Nat.pow 2 31) then .error (.format .precisionTooBig) else .ok ()

def formatFloat (s : FormatSpec) (x : Float) : Except Fault String := do
  s.checkPrecision
  let percent := s.code == some '%'
  let text := (s.numberStyle true).write (if percent then x * 100 else x)
  let parts := splitNumber text.toList
  let parts := { parts with rest := parts.rest ++ if percent then ['%'] else [] }
  return String.ofList (s.writeNumber 3 parts)

/-- An integer in a base, with the mark of the base if that is asked for. -/
def formatInt (s : FormatSpec) (n : Int) : Except Fault String := do
  if s.precision.isSome then throw (.format .precisionOnInteger)
  if s.plainZero then throw (.format .zeroOnInteger)
  if s.code == some 'c' then
    if s.sign.isSome then throw (.format .signOnCharacter)
    if s.alternate then throw (.format .alternateOnCharacter)
    if n < -Int.pow 2 63 || n ≥ Int.pow 2 63 then throw (.wordTooLarge "C long")
    -- A surrogate is no character here.
    if n < 0 ∨ ¬ n.toNat.isValidChar then throw .characterRange
    return String.ofList (s.writeNumber 3 { digits := [], rest := [Char.ofNat n.toNat] })
  let (base, mark) := match s.code with
    | some 'b' => (2, ['0', 'b'])
    | some 'o' => (8, ['0', 'o'])
    | some 'x' => (16, ['0', 'x'])
    | some 'X' => (16, ['0', 'X'])
    | _ => (10, [])
  if base = 10 then let _ ← Value.intText n
  let digits := Nat.toDigits base n.natAbs
  let digits := if s.code == some 'X' then digits.map Char.toUpper else digits
  let mark := if s.alternate then mark else []
  return String.ofList
    (s.writeNumber (if base = 10 then 3 else 4) { negative := n < 0, mark, digits })

def formatText (s : FormatSpec) (text : String) : Except Fault String := do
  match s.sign with
  | some ' ' => throw (.format .spaceOnText)
  | some _ => throw (.format .signOnText)
  | none => pure ()
  if s.plainZero then throw (.format .zeroOnText)
  if s.alternate then throw (.format .alternateOnText)
  if s.align = .pad then throw (.format .padOnText)
  let cs := text.toList
  return s.padded (match s.precision with
    | some p => cs.take p
    | none => cs)

/-- A complex number in its field: both parts in the same style, in parentheses without a code. -/
def formatComplex (s : FormatSpec) (re im : Float) : Except Fault String := do
  s.checkPrecision
  if s.fill = '0' then throw (.format .zeroPadOnComplex)
  if s.align = .pad then throw (.format .padOnComplex)
  let style := s.numberStyle false
  let bare := { s with width := none }
  let plain := s.code.isNone && re == 0 && !Binary64.isNegative re
  let real := if plain then [] else bare.writeNumber 3 (splitNumber (style.write re).toList)
  let bare := if plain then bare else { bare with sign := some '+' }
  let imaginary := bare.writeNumber 3 (splitNumber (style.write im).toList) ++ ['j']
  let text := real ++ imaginary
  let text := if s.code.isNone && !plain then '(' :: text ++ [')'] else text
  return s.padded text

end FormatSpec

namespace Value

/-- The text of a value under a specification; the empty one gives the plain text. -/
def format (v : Value) (spec : String) : StoreM String := do
  if spec.isEmpty then return ← v.plain
  let unknown (c : Option Char) : StoreM String :=
    throw (.format (.unknownCode (c.getD ' ') v.typeName))
  match v with
  | str text =>
    let s ← FormatSpec.parse spec v.typeName (some 's') .left
    if s.code == some 's' then s.formatText text else unknown s.code
  | int _ | bool _ =>
    let s ← FormatSpec.parse spec v.typeName (some 'd') .right
    let n := v.asInt?.getD 0
    match s.code with
    | some 'b' | some 'c' | some 'd' | some 'o' | some 'x' | some 'X' | some 'n' => s.formatInt n
    | some 'e' | some 'E' | some 'f' | some 'F' | some 'g' | some 'G' | some '%' =>
      s.formatFloat (← (Num.int n).toFloat)
    | c => unknown c
  | float x =>
    let s ← FormatSpec.parse spec v.typeName .none .right
    if s.code.all ("eEfFgGn%".toList.contains ·) then s.formatFloat x else unknown s.code
  | complex re im =>
    let s ← FormatSpec.parse spec v.typeName .none .right
    if s.code.all ("eEfFgGn".toList.contains ·) then s.formatComplex re im else unknown s.code
  | v => throw (.format (.unsupported v.typeName))

end Value
end WireSketch
