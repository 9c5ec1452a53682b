import WireSketch.Format.Field
import WireSketch.Value.Subscript

/-! Templates with `%` directives, texts or bytes, filled from a tuple, a map or one value. -/
namespace WireSketch

/-- What a template is made of; a byte is handled as the character of its number. -/
inductive TemplateKind
  | text
  | bytes
deriving DecidableEq

/-- The value that is written with the given characters. -/
def TemplateKind.value (kind : TemplateKind) (s : List Char) : Value :=
  match kind with
  | text => .str (String.ofList s)
  | bytes => .bytes (s.map fun c => c.toNat.toUInt8)

/-- One directive: flags, width, precision and code. -/
structure Directive where
  leftJustify : Bool := false
  plus : Bool := false
  blank : Bool := false
  alternate : Bool := false
  zero : Bool := false
  width : Option Nat := none
  precision : Option Nat := none
  code : Char := ' '

inductive TemplateArgs
  | tuple (rest : List Value)
  | single (v : Value)
  | used

/-- What a template is filled from: its values, and the map for named ones. -/
structure TemplateInput where
  args : TemplateArgs
  map : Option Value

namespace TemplateInput

def ofValue (kind : TemplateKind) (v : Value) : TemplateInput :=
  match v with
  | .tuple xs => ⟨.tuple xs.toList, none⟩
  | .dict _ | .list _ | .range _ => ⟨.single v, some v⟩
  | .bytes _ => ⟨.single v, if kind = .text then some v else none⟩
  | v => ⟨.single v, none⟩

def next (i : TemplateInput) : Except Fault (Value × TemplateInput) :=
  match i.args with
  | .tuple (x :: rest) => .ok (x, { i with args := .tuple rest })
  | .single v => .ok (v, { i with args := .used })
  | _ => .error (.template .tooFew)

/-- Is there a value that no directive has taken? -/
def isLeftOver (i : TemplateInput) : Bool :=
  i.map.isNone && match i.args with
    | .tuple (_ :: _) | .single _ => true
    | _ => false

end TemplateInput

namespace Directive

def flags : List Char → Directive → Directive × List Char
  | [], d => (d, [])
  | c :: r, d =>
    if c == '-' then flags r { d with leftJustify := true }
    else if c == '+' then flags r { d with plus := true }
    else if c == ' ' then flags r { d with blank := true }
    else if c == '#' then flags r { d with alternate := true }
    else if c == '0' then flags r { d with zero := true }
    else (d, c :: r)

/-- A number that is written out, below a limit. -/
def count (s : List Char) (limit : Nat) (tooBig : TemplateFault) :
    Except Fault (Option Nat × List Char) :=
  let ds := s.takeWhile Char.isDigit
  if ds.isEmpty then .ok (none, s)
  else
    let n := Reading.decimalValue ds
    if n > limit then .error (.template tooBig) else .ok (some n, s.dropWhile Char.isDigit)

/-- An integer argument for a width or precision; it fits in so many bits. -/
def starred (bits : Nat) (kind : String) (i : TemplateInput) :
    Except Fault (Int × TemplateInput) := do
  let (v, i) ← i.next
  match v.asInt? with
  | some n =>
    if !(-Int.pow 2 (bits - 1) ≤ n && n < Int.pow 2 (bits - 1)) then throw (.wordTooLarge kind)
    return (n, i)
  | none => throw (.template .starNeedsInteger)

/-- Reads the width; one that is negative stands for its magnitude on the left. -/
def readWidth (d : Directive) (s : List Char) (i : TemplateInput) :
    Except Fault (Directive × List Char × TemplateInput) := do
  match s with
  | '*' :: s =>
    let (n, i) ← starred 64 "C ssize_t" i
    return ({ d with width := some n.natAbs, leftJustify := d.leftJustify || n < 0 }, s, i)
  | s =>
    let (w, s) ← count s (Nat.pow 2 63 - 1) .widthTooBig
    return ({ d with width := w }, s, i)

def readPrecision (kind : TemplateKind) (d : Directive) (s : List Char) (i : TemplateInput) :
    Except Fault (Directive × List Char × TemplateInput) := do
  match s with
  | '.' :: '*' :: s =>
    let (n, i) ← starred 32 "C int" i
    return ({ d with precision := some n.toNat }, s, i)
  | '.' :: s =>
    let tooBig := if kind = .text then TemplateFault.precisionTooBig else .bytePrecisionTooBig
    let (p, s) ← count s (Nat.pow 2 31 - 1) tooBig
    return ({ d with precision := some (p.getD 0) }, s, i)
  | s => return (d, s, i)

/-- Reads the code; the mark of a length before it means nothing. -/
def readCode (d : Directive) (s : List Char) : Except Fault (Directive × List Char) :=
  let s := match s with
    | c :: r => if c == 'h' || c == 'l' || c == 'L' then r else c :: r
    | [] => []
  match s with
  | c :: r => .ok ({ d with code := c }, r)
  | [] => .error (.template .incomplete)

/-- Reads flags, width, precision and code; the rest of the template follows. -/
def parse (kind : TemplateKind) (s : List Char) (i : TemplateInput) :
    Except Fault (Directive × List Char × TemplateInput) := do
  let (d, s) := flags s {}
  let (d, s, i) ← readWidth d s i
  let (d, s, i) ← readPrecision kind d s i
  let (d, s) ← readCode d s
  return (d, s, i)

/-- Sign, mark and digits in the field. -/
def number (d : Directive) (negative : Bool) (mark digits : List Char) : List Char :=
  let sign := if negative then ['-'] else if d.plus then ['+'] else if d.blank then [' '] else []
  let text := sign ++ mark ++ digits
  let missing := d.width.getD 0 - text.length
  if d.leftJustify then text ++ List.replicate missing ' '
  else if d.zero then sign ++ mark ++ List.replicate missing '0' ++ digits
  else List.replicate missing ' ' ++ text

def text (d : Directive) (t : List Char) : List Char :=
  let missing := List.replicate (d.width.getD 0 - t.length) ' '
  if d.leftJustify then t ++ missing else missing ++ t

/-- The integer that a number stands for under an integer code. -/
def integer (d : Directive) (v : Value) : Except Fault Int := do
  let octalOrHex := d.code == 'o' || d.code == 'x' || d.code == 'X'
  match v with
  | .float x =>
    if octalOrHex then throw (.template (.needsInteger d.code v.typeName))
    if x.isNaN then throw .nanToInteger
    if !Binary64.isFinite x then throw .infinityToInteger
    return Binary64.truncate x
  | v =>
    match v.asInt? with
    | some n => return n
    | none =>
      if octalOrHex then throw (.template (.needsInteger d.code v.typeName))
      throw (.template (.needsNumber d.code v.typeName))

def integerText (d : Directive) (n : Int) : Except Fault (List Char) := do
  let (base, mark) := match d.code with
    | 'o' => (8, ['0', 'o'])
    | 'x' => (16, ['0', 'x'])
    | 'X' => (16, ['0', 'X'])
    | _ => (10, [])
  if base = 10 then let _ ← Value.intText n
  let digits := Nat.toDigits base n.natAbs
  let digits := if d.code == 'X' then digits.map Char.toUpper else digits
  let digits := List.replicate (d.precision.getD 0 - digits.length) '0' ++ digits
  return d.number (n < 0) (if d.alternate then mark else []) digits

def floatText (d : Directive) (x : Float) : List Char :=
  let p := d.precision.getD 6
  let rule : DigitRule := match d.code.toLower with
    | 'e' => .scientific p
    | 'f' => .fixed p
    | _ => .general p
  let style : NumberStyle := { rule, alternate := d.alternate, upper := d.code.isUpper }
  match (style.write x).toList with
  | '-' :: digits => d.number true [] digits
  | digits => d.number false [] digits

/-- The one character that a value stands for; a surrogate is none. -/
def character (v : Value) : Except Fault Char :=
  match v with
  | .str s =>
    match s.toList with
    | [c] => .ok c
    | _ => .error (.template .needsCharacter)
  | v =>
    match v.asInt? with
    | some n =>
      if n < 0 ∨ ¬ n.toNat.isValidChar then .error .characterRange else .ok (Char.ofNat n.toNat)
    | none => .error (.template .needsCharacter)

def byte (v : Value) : Except Fault Char :=
  match v with
  | .bytes [b] => .ok (Char.ofNat b.toNat)
  | v =>
    match v.asInt? with
    | some n =>
      if n < 0 ∨ n > 255 then .error (.template .byteRange) else .ok (Char.ofNat n.toNat)
    | none => .error (.template .needsByte)

/-- The value as a binary64 number; in bytes, one that is too large is refused as any other. -/
def real (kind : TemplateKind) (v : Value) : Except Fault Float :=
  let r : Except Fault Float := match v.num? with
    | some (.complex ..) | none => .error (.notReal v.typeName)
    | some n => n.toFloat
  match kind, r with
  | .bytes, .error _ => .error (.template (.needsFloat v.typeName))
  | _, r => r

/-- The refusal of a code that no directive has. -/
def unsupported (kind : TemplateKind) (code : Char) (index : Nat) : TemplateFault :=
  match kind with
  | .text => .unsupported code index
  | .bytes => if code.toNat < 128 then .unsupportedByte code index else .unnamedCode

/-- The text of a value under the directive, whose code stands at `index`. -/
def fill (kind : TemplateKind) (d : Directive) (v : Value) (index : Nat) : StoreM (List Char) := do
  let cut (t : List Char) : Except Fault (List Char) := do
    Fault.checkLength (d.width.getD 0)
    return d.text (match d.precision with
      | some p => t.take p
      | none => t)
  let checkDigits : Except Fault Unit := Fault.checkLength (max (d.width.getD 0) (d.precision.getD 0))
  match kind, d.code with
  | .text, 's' => cut (← v.plain).toList
  | .text, 'r' => cut (← v.shown).toList
  | .bytes, 's' | .bytes, 'b' =>
    match v with
    | .bytes b => cut (Value.byteChars b)
    | v => throw (.template (.needsBytes v.typeName))
  | _, 'a' | .bytes, 'r' => cut (Text.escapeWide (← v.shown)).toList
  | _, 'd' | _, 'i' | _, 'u' | _, 'o' | _, 'x' | _, 'X' => do
    -- In bytes the code `i` goes by the name of `d`.
    let d := if kind = .bytes && d.code == 'i' then { d with code := 'd' } else d
    let n ← d.integer v
    checkDigits
    d.integerText n
  | _, 'e' | _, 'E' | _, 'f' | _, 'F' | _, 'g' | _, 'G' => do
    let x ← real kind v
    checkDigits
    return d.floatText x
  | _, 'c' => do
    let c ← if kind = .text then character v else byte v
    Fault.checkLength (d.width.getD 0)
    return d.text [c]
  | _, c => throw (.template (unsupported kind c index))

end Directive

namespace Template

/-- The name in parentheses, which may nest, and the rest. -/
def key : Nat → List Char → List Char → Option (List Char × List Char)
  | _, [], _ => none
  | depth, c :: r, taken =>
    if c == ')' then if depth = 0 then some (taken.reverse, r) else key (depth - 1) r (c :: taken)
    else if c == '(' then key (depth + 1) r (c :: taken)
    else key depth r (c :: taken)

/-- Fills the directives of a template; `size` is the length of the whole. -/
def fillAll (kind : TemplateKind) (size : Nat) : Nat → List Char → TemplateInput → List Char → StoreM (List Char)
  | 0, _, _, out => return out.reverse
  | _ + 1, [], i, out => do
    if i.isLeftOver then
      throw (.template (if kind = .text then .tooMany else .tooManyForBytes))
    return out.reverse
  | fuel + 1, '%' :: '%' :: s, i, out => fillAll kind size fuel s i ('%' :: out)
  | fuel + 1, '%' :: s, i, out => do
    let (s, i) ← match s with
      | '(' :: s =>
        match i.map with
        | none => throw (.template .needsMapping)
        | some map =>
          match key 0 s [] with
          | none => throw (.template .incompleteKey)
          | some (name, s) =>
            let v ← map.subscript (kind.value name) Value.shown
            pure (s, { i with args := .single v })
      | s => pure (s, i)
    let (d, s, i) ← (Directive.parse kind s i : Except Fault _)
    let (v, i) ← (i.next : Except Fault _)
    let text ← d.fill kind v (size - s.length - 1)
    fillAll kind size fuel s i (text.reverse ++ out)
  | fuel + 1, c :: s, i, out => fillAll kind size fuel s i (c :: out)

def run (kind : TemplateKind) (template : List Char) (v : Value) : StoreM Value := do
  return kind.value
    (← fillAll kind template.length (template.length + 1) template (.ofValue kind v) [])

end Template
end WireSketch
