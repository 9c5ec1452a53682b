import WireSketch.Text.Printable

/-! Texts and byte strings between quotes, with escapes for what is not shown as itself, also as JSON in ASCII. -/
namespace WireSketch.Text

/-- The lower case hexadecimal digits of `n`, at least `width` of them. -/
def hexDigits (n width : Nat) : List Char :=
  let ds := Nat.toDigits 16 n
  List.replicate (width - ds.length) '0' ++ ds

def numericEscape (n : Nat) : List Char :=
  if n < 0x100 then '\\' :: 'x' :: hexDigits n 2
  else if n < 0x10000 then '\\' :: 'u' :: hexDigits n 4
  else '\\' :: 'U' :: hexDigits n 8

/-- Double quotes are chosen when single ones alone would need an escape. -/
def chooseQuote (s : List Char) : Char := if s.contains '\'' && !s.contains '"' then '"' else '\''

/-- A character between the quotes `q`; `shown` tells which characters stand for themselves. -/
def escapeChar (shown : Char → Bool) (q c : Char) : List Char :=
  if c == q || c == '\\' then ['\\', c]
  else if c == '\n' then ['\\', 'n']
  else if c == '\r' then ['\\', 'r']
  else if c == '\t' then ['\\', 't']
  else if shown c then [c]
  else numericEscape c.toNat

def quoteWith (shown : Char → Bool) (s : List Char) : List Char :=
  let q := chooseQuote s
  q :: s.flatMap (escapeChar shown q) ++ [q]

/-- The text between quotes, every printable character as itself. -/
def quote (s : String) : String := String.ofList (quoteWith isPrintable s.toList)

def isPlain (c : Char) : Bool := 0x20 ≤ c.toNat && c.toNat < 0x7f

/-- The text with every character outside of ASCII as a numeric escape. -/
def escapeWide (s : String) : String :=
  String.ofList (s.toList.flatMap fun c => if c.toNat < 0x80 then [c] else numericEscape c.toNat)

/-- The byte string between quotes, after the mark `b`. -/
def quoteBytes (bs : List UInt8) : String :=
  String.ofList ('b' :: quoteWith isPlain (bs.map fun b => Char.ofNat b.toNat))

def escapedUnit (n : Nat) : List Char := '\\' :: 'u' :: hexDigits n 4

/-- A character within a JSON string. -/
def asciiChar (c : Char) : List Char :=
  match c with
  | '"' => ['\\', '"']
  | '\\' => ['\\', '\\']
  | '\n' => ['\\', 'n']
  | '\r' => ['\\', 'r']
  | '\t' => ['\\', 't']
  | '\x08' => ['\\', 'b']
  | '\x0c' => ['\\', 'f']
  | c =>
    let n := c.toNat
    if n ≥ 0x10000 then
      escapedUnit (0xd800 + (n - 0x10000) / 0x400) ++ escapedUnit (0xdc00 + (n - 0x10000) % 0x400)
    else if n < 0x20 || n ≥ 0x7f then escapedUnit n
    else [c]

/-- The text as a JSON string. -/
def asciiQuoted (s : String) : String :=
  String.ofList ('"' :: s.toList.flatMap asciiChar ++ ['"'])

end WireSketch.Text
