import WireSketch.Failure
import WireSketch.Number.Reading

/-!
Format specifications: fill, alignment, sign, width, separators, precision and code of a field, and the limit on the
width and the precision that scripts may ask for.
-/
namespace WireSketch

inductive Align
  | left | right | center | pad
deriving Repr, DecidableEq

inductive Separator
  | comma | underscore
deriving Repr, DecidableEq

/-- `[[fill]align][sign][z][#][0][width][separator][.precision][code]` -/
structure FormatSpec where
  fill : Char
  align : Align
  sign : Option Char
  plainZero : Bool
  alternate : Bool
  width : Option Nat
  separator : Option Separator
  precision : Option Nat
  code : Option Char
deriving Repr, DecidableEq

namespace Align

def ofChar? : Char → Option Align
  | '<' => some left
  | '>' => some right
  | '^' => some center
  | '=' => some pad
  | _ => none

end Align

namespace Separator

def char : Separator → Char
  | comma => ','
  | underscore => '_'

end Separator

namespace FormatSpec

def number (s : List Char) : Option Nat × List Char :=
  let ds := s.takeWhile Text.isDecimalDigit
  if ds.isEmpty then (none, s)
  else
    (some (ds.foldl (fun n c => n * 10 + (Text.digitValue? c).getD 0) 0),
      s.dropWhile Text.isDecimalDigit)

/-- Takes the character at the start if it satisfies `p`. -/
def optional (p : Char → Bool) : List Char → Option Char × List Char
  | c :: r => if p c then (some c, r) else (none, c :: r)
  | [] => (none, [])

def alignment : List Char → Option Char × Option Align × List Char
  | c :: a :: r =>
    match Align.ofChar? a with
    | some align => (some c, some align, r)
    | none =>
      match Align.ofChar? c with
      | some align => (none, some align, a :: r)
      | none => (none, none, c :: a :: r)
  | [c] =>
    match Align.ofChar? c with
    | some align => (none, some align, [])
    | none => (none, none, [c])
  | [] => (none, none, [])

/-- A number that does not fit a machine word is refused. -/
def checkWord (n : Option Nat) : Except Fault Unit :=
  if n.any (· ≥ Nat.pow 2 63) then .error (.format .tooManyDigits) else .ok ()

/-- The separator; both at once are refused. -/
def separators (s : List Char) : Except Fault (Option Separator × List Char) :=
  match s with
  | ',' :: '_' :: _ | '_' :: ',' :: _ => .error (.format .bothSeparators)
  | ',' :: r => .ok (some .comma, r)
  | '_' :: r => .ok (some .underscore, r)
  | r => .ok (none, r)

def precisions : List Char → Except Fault (Option Nat × List Char)
  | '.' :: r => do
    let (p, r) := number r
    checkWord p
    if p.isNone then throw (.format .missingPrecision)
    return (p, r)
  | r => .ok (none, r)

/-- The code at the end; without one the given code holds. -/
def codeOf (spec t : String) (code : Option Char) : List Char → Except Fault (Option Char)
  | [] => .ok code
  | [c] => .ok (some c)
  | _ => .error (.format (.invalid spec t))

/-- Commas stand with decimal codes only, underscores also with those of other bases. -/
def checkSeparator (separator : Option Separator) (code : Option Char) : Except Fault Unit :=
  let decimal := code.all ("defgEG%F".toList.contains ·)
  let binary := code.any ("boxX".toList.contains ·)
  match separator with
  | none => .ok ()
  | some s =>
    if decimal || (binary && s == .underscore) then .ok ()
    else .error (.format (.separatorCode s.char (code.getD ' ')))

/-- Reads a specification for a value of type `t`, with the code and alignment that hold by default. -/
def parse (spec t : String) (code : Option Char) (align : Align) : Except Fault FormatSpec := do
  let (fill, given, r) := alignment spec.toList
  let (sign, r) := optional (fun c => c == '+' || c == '-' || c == ' ') r
  let (z, r) := optional (· == 'z') r
  let (hash, r) := optional (· == '#') r
  let (zero, r) := if fill.isSome then (none, r) else optional (· == '0') r
  let (width, r) := number r
  checkWord width
  let (separator, r) ← separators r
  let (precision, r) ← precisions r
  let code ← codeOf spec t code r
  checkSeparator separator code
  return {
    fill := if zero.isSome then '0' else fill.getD ' '
    align := match given with
      | some a => a
      | none => if zero.isSome && align == .right then .pad else align
    sign, plainZero := z.isSome, alternate := hash.isSome
    width, separator, precision, code }

/-- The digits of width and precision, as the text of a specification has them. -/
def declared (spec : String) : List Char × List Char :=
  let (_, _, r) := alignment spec.toList
  let (_, r) := optional (fun c => c == '+' || c == '-' || c == ' ') r
  let (_, r) := optional (· == 'z') r
  let (_, r) := optional (· == '#') r
  let (_, r) := optional (· == '0') r
  let width := r.takeWhile Text.isDecimalDigit
  let r := r.dropWhile Text.isDecimalDigit
  let (_, r) := optional (fun c => c == ',' || c == '_') r
  match r with
  | '.' :: r => (width, r.takeWhile Text.isDecimalDigit)
  | _ => (width, [])

def checkLimit (field : String) (digits : List Char) : Except ScriptReason Unit :=
  if digits.isEmpty then .ok ()
  else match Reading.int digits 10 with
    | .value n => if n > maxSequenceLength then .error (.formatLimit field n.toNat) else .ok ()
    | .tooLong n => .error (.fault (.tooManyDigits (some n)))
    | .invalid => .ok ()

def checkLimits (spec : String) : Except ScriptReason Unit := do
  let (width, precision) := declared spec
  checkLimit "width" width
  checkLimit "precision" precision

end FormatSpec
end WireSketch
