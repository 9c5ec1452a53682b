import WireSketch.Number.Reading
import WireSketch.Script.Tree
import WireSketch.Text.Folded
import WireSketch.Text.Word

/-! Words of scripts: names, numbers, quoted texts, operators, and the marks of lines and blocks. -/
namespace WireSketch

/-- A quoted text as written: its marks, what stands between the quotes, and where that starts. -/
structure QuotedToken where
  raw : Bool
  bytes : Bool
  formatted : Bool
  body : List Char
  start : Place

inductive TokenKind
  | name (s : String)
  | keyword (s : String)
  | number (v : Value)
  | quoted (q : QuotedToken)
  | op (s : String)
  | lineEnd
  | indent
  | dedent
  | textEnd

structure Token where
  kind : TokenKind
  place : Place

instance : Inhabited Token := ⟨⟨.textEnd, ⟨1, 1⟩⟩⟩

namespace Place

def after (p : Place) (cs : List Char) : Place :=
  cs.foldl (fun p c => if c == '\n' then ⟨p.line + 1, 1⟩ else ⟨p.line, p.column + c.utf8Size⟩) p

end Place

namespace Lexer

def keywords : List String :=
  ["False", "None", "True", "and", "as", "assert", "async", "await", "break", "class", "continue",
    "def", "del", "elif", "else", "except", "finally", "for", "from", "global", "if", "import", "in",
    "is", "lambda", "nonlocal", "not", "or", "pass", "raise", "return", "try", "while", "with",
    "yield"]

/-- Operators and delimiters, longer ones first. -/
def operators : List (List Char) :=
  ["**=", "//=", "<<=", ">>=", "...", "!=", "%=", "&=", "**", "*=", "+=", "-=", "->", "//", "/=",
    ":=", "<<", "<=", "==", ">=", ">>", "@=", "^=", "|=", "%", "&", "(", ")", "*", "+", ",", "-", ".",
    "/", ":", ";", "<", "=", ">", "@", "[", "]", "^", "\x7b", "|", "\x7d", "~"].map String.toList

/-- A character that belongs to the word around it, if it may stand in one at all. -/
def isWordChar (c : Char) : Bool := c.isAlphanum || c == '_' || c.toNat ≥ 0x80

def digitRun (p : Char → Bool) : List Char → Option (List Char × List Char)
  | '_' :: d :: r => if p d then (digitRun p r).map fun (t, r) => ('_' :: d :: t, r) else none
  | ['_'] => none
  | c :: r => if p c then (digitRun p r).map fun (t, r) => (c :: t, r) else some ([], c :: r)
  | [] => some ([], [])

/-- A number ends where no word goes on, a few keywords apart. -/
def endsNumber : List Char → Bool
  | [] => true
  | c :: r =>
    !isWordChar c ||
      ["and", "else", "for", "if", "in", "is", "or", "not"].any fun k => k.toList.isPrefixOf (c :: r)

/-- The digits after the mark of a base. -/
def markedNumber (p : Char → Bool) (mark : List Char) (r : List Char) :
    Option (List Char × List Char) := do
  let (digits, r) ← digitRun p r
  if digits.isEmpty then none
  else if endsNumber r then some (mark ++ digits, r) else none

/-- An exponent, if one follows; a letter that starts a keyword does not. -/
def exponentPart (r : List Char) : Option (List Char × List Char) :=
  match r with
  | e :: r' =>
    if e == 'e' || e == 'E' then
      match r' with
      | s :: d :: r'' =>
        if (s == '+' || s == '-') then
          if d.isDigit then
            (digitRun Char.isDigit (d :: r'')).map fun (t, r) => (e :: s :: t, r)
          else none
        else if s.isDigit then (digitRun Char.isDigit r').map fun (t, r) => (e :: t, r)
        else if endsNumber r then some ([], r) else none
      | [s] =>
        if s.isDigit then some ([e, s], []) else if s == '+' || s == '-' then none
        else if endsNumber r then some ([], r) else none
      | [] => none
    else some ([], r)
  | [] => some ([], [])

/-- A decimal number: whole digits, fraction, exponent and imaginary mark. -/
def decimalNumber (cs : List Char) : Option (List Char × List Char) := do
  let (whole, r) ← match cs with
    | '.' :: _ => some ([], cs)
    | cs => digitRun Char.isDigit cs
  let (fraction, r) ← match r with
    | '.' :: d :: r' =>
      if d.isDigit then (digitRun Char.isDigit (d :: r')).map fun (t, r) => ('.' :: t, r)
      else some (['.'], d :: r')
    | ['.'] => some (['.'], [])
    | r => some ([], r)
  let (exponent, r) ← exponentPart r
  let (imaginary, r) := match r with
    | 'j' :: r => (['j'], r)
    | 'J' :: r => (['j'], r)
    | r => ([], r)
  let text := whole ++ fraction ++ exponent ++ imaginary
  -- Zeros in front are left to other notations of numbers.
  let plain := fraction.isEmpty && exponent.isEmpty && imaginary.isEmpty
  let padded := whole.head? == some '0' && whole.any fun c => c != '0' && c != '_'
  if (plain && padded) || !endsNumber r then none else some (text, r)

def number (cs : List Char) : Option (List Char × List Char) :=
  match cs with
  | '0' :: m :: r =>
    match Reading.markedBase? m with
    | some 16 => markedNumber (fun c => (Reading.baseDigit? c).any (· < 16)) ['0', 'x'] r
    | some 8 => markedNumber (fun c => '0' ≤ c && c < '8') ['0', 'o'] r
    | some 2 => markedNumber (fun c => c == '0' || c == '1') ['0', 'b'] r
    | _ => decimalNumber cs
  | cs => decimalNumber cs

def numberValue (text : List Char) : Option Value :=
  let text := text.filter (· != '_')
  let marked := match text with
    | '0' :: m :: _ => (Reading.markedBase? m).isSome
    | _ => false
  if marked || text.all Char.isDigit then
    match Reading.int text (if marked then 0 else 10) with
    | .value n => some (.int n)
    | _ => none
  else if text.getLast? == some 'j' then
    (Reading.unsigned? false text.dropLast).map (.complex 0 ·)
  else (Reading.unsigned? false text).map .float

/-- What stands before the closing quotes, and what follows them. -/
def quotedBody (q : Char) (triple : Bool) : List Char → List Char → Option (List Char × List Char)
  | [], _ => none
  | '\\' :: c :: r, taken => quotedBody q triple r (c :: '\\' :: taken)
  | c :: r, taken =>
    if c == q then
      if triple then
        match r with
        | d :: e :: r' =>
          if d == q && e == q then some (taken.reverse, r')
          else quotedBody q triple (d :: e :: r') (c :: taken)
        | _ => none
      else some (taken.reverse, r)
    else if c == '\n' && !triple then none
    else quotedBody q triple r (c :: taken)

def quoteMarks : List String := ["", "r", "u", "b", "f", "br", "rb", "fr", "rf"]

/-- A quoted text after its marks, with the number of characters it takes. -/
def quoted (marks : List Char) (start : Place) (cs : List Char) :
    Option (QuotedToken × List Char × List Char) := do
  let lower := marks.map Char.toLower
  let (q, triple, r) ← match cs with
    | a :: b :: c :: r => if a == b && b == c then some (a, true, r) else some (a, false, b :: c :: r)
    | a :: r => some (a, false, r)
    | [] => none
  let opening := marks ++ List.replicate (if triple then 3 else 1) q
  let (body, r) ← quotedBody q triple r []
  let token : QuotedToken := {
    raw := lower.contains 'r', bytes := lower.contains 'b', formatted := lower.contains 'f'
    body, start := start.after opening }
  return (token, opening ++ body ++ List.replicate (if triple then 3 else 1) q, r)

/-- The opening bracket that a closing one needs. -/
def openingOf : String → Option Char
  | ")" => some '('
  | "]" => some '['
  | "\x7d" => some '\x7b'
  | _ => none

/-- The deepest nesting of brackets, and of blocks. -/
def maxBrackets : Nat := 200

def maxBlocks : Nat := 100

/-- Brackets that are open after an operator; none if it closes the wrong one. -/
def brackets (op : String) (opened : List Char) : Option (List Char) :=
  match op, openingOf op with
  | _, some c =>
    match opened with
    | d :: rest => if c == d then some rest else none
    | [] => none
  | "(", _ | "[", _ | "\x7b", _ =>
    if opened.length ≥ maxBrackets then none else some ((op.toList.headD '(') :: opened)
  | _, _ => some opened

/-- The columns of open blocks, with tabs to the next multiple of eight and with tabs as one blank. -/
abbrev Indents := List (Nat × Nat)

/-- Leading blanks of a line: both columns, the column before a continuation, and what follows. -/
def leading : List Char → Place → Nat → Nat → Nat → Option (Nat × Nat × Place × List Char)
  | ' ' :: r, p, a, b, c => leading r (p.after [' ']) (a + 1) (b + 1) c
  | '\t' :: r, p, a, b, c => leading r (p.after ['\t']) ((a / 8 + 1) * 8) (b + 1) c
  | '\x0c' :: r, p, _, _, c => leading r (p.after ['\x0c']) 0 0 c
  | '\\' :: '\n' :: r, p, a, b, c =>
    if r.isEmpty then none else leading r (p.after ['\\', '\n']) a b (if c = 0 then a else c)
  | '\\' :: _, _, _, _, _ => none
  | r, p, a, b, c => some (if c = 0 then a else c, if c = 0 then b else c, p, r)

/-- Closes the blocks that are deeper than a column. -/
def dedents (column : Nat) (p : Place) : Indents → List Token × Indents
  | (a, b) :: rest =>
    if column < a then
      let (tokens, rest) := dedents column p rest
      (⟨.dedent, p⟩ :: tokens, rest)
    else ([], (a, b) :: rest)
  | [] => ([], [])

/-- The marks of blocks at the start of a line that is not blank. -/
def blockMarks (a b : Nat) (p : Place) (indents : Indents) : Option (List Token × Indents) :=
  let (c, d) := indents.headD (0, 0)
  if a = c then if b = d then some ([], indents) else none
  else if a > c then
    if indents.length + 1 ≥ maxBlocks || b ≤ d then none else some ([⟨.indent, p⟩], (a, b) :: indents)
  else
    let (tokens, indents) := dedents a p indents
    if indents.headD (0, 0) = (a, b) then some (tokens, indents) else none

/-- The words of a text, and the brackets left open; the flag holds where blocks may begin or end. -/
def scan : Nat → Bool → List Char → Indents → Place → List Char → Array Token →
    Option (Array Token × List Char)
  | 0, _, _, _, _, _, _ => none
  | fuel + 1, true, opened, indents, p, cs, out => do
    let (a, b, p, cs) ← leading cs p 0 0 0
    match cs with
    | '#' :: _ | '\n' :: _ =>
      let comment := cs.takeWhile (· != '\n')
      let rest := cs.dropWhile (· != '\n')
      scan fuel true opened indents ((p.after comment).after (rest.take 1)) (rest.drop 1) out
    | cs =>
      if opened.isEmpty then
        let (tokens, indents) ← blockMarks a b p indents
        scan fuel false opened indents p cs (out ++ tokens)
      else scan fuel false opened indents p cs out
  | fuel + 1, false, opened, indents, p, cs, out =>
    let word (text : List Char) (rest : List Char) (kind : TokenKind) :=
      scan fuel false opened indents (p.after text) rest (out.push ⟨kind, p⟩)
    match cs with
    | [] => some (out.push ⟨.textEnd, p⟩, opened)
    | '\n' :: r =>
      if opened.isEmpty then
        scan fuel true opened indents (p.after ['\n']) r (out.push ⟨.lineEnd, p⟩)
      else scan fuel true opened indents (p.after ['\n']) r out
    | '\\' :: r =>
      match r with
      | '\n' :: c :: r' => scan fuel false opened indents (p.after ['\\', '\n']) (c :: r') out
      | _ => none
    | '#' :: _ =>
      let comment := cs.takeWhile (· != '\n')
      scan fuel false opened indents (p.after comment) (cs.dropWhile (· != '\n')) out
    | c :: r =>
      if c == ' ' || c == '\t' || c == '\x0c' then scan fuel false opened indents (p.after [c]) r out
      else if c == '"' || c == '\'' then
        match quoted [] p cs with
        | some (q, text, rest) => word text rest (.quoted q)
        | none => none
      else if c.isDigit || (c == '.' && r.head?.any Char.isDigit) then
        match number cs with
        | some (text, rest) =>
          match numberValue text with
          | some v => word text rest (.number v)
          | none => none
        | none => none
      else if isWordChar c then
        let text := cs.takeWhile isWordChar
        let rest := cs.dropWhile isWordChar
        let s := String.ofList text
        let quoteFollows := rest.head?.any fun c => c == '"' || c == '\''
        if quoteFollows && quoteMarks.contains s.toLower then
          match quoted text p rest with
          | some (q, text, rest) => word text rest (.quoted q)
          | none => none
        else if keywords.contains s then word text rest (.keyword s)
        else if Text.startsName c && text.all Text.continuesName then
          word text rest (.name (String.ofList (Text.foldName text)))
        else none
      else
        match operators.find? (·.isPrefixOf cs) with
        | some text =>
          let s := String.ofList text
          match brackets s opened with
          | some opened =>
            scan fuel false opened indents (p.after text) (cs.drop text.length) (out.push ⟨.op s, p⟩)
          | none => none
        | none => none

/-- Line ends of all kinds as one character, and one at the end. -/
def normalizeLines : List Char → List Char
  | [] => []
  | '\r' :: '\n' :: r => '\n' :: normalizeLines r
  | '\r' :: r => '\n' :: normalizeLines r
  | c :: r => c :: normalizeLines r

def withLastLineEnd (cs : List Char) : List Char :=
  if cs.getLast? == some '\n' then cs else cs ++ ['\n']

def script (source : String) : Option (Array Token) := do
  let cs := withLastLineEnd (normalizeLines source.toList)
  let (tokens, opened) ← scan (2 * cs.length + 4) true [] [] ⟨1, 1⟩ cs #[]
  if opened.isEmpty then some tokens else none

/-- The words of an expression between braces, in parentheses; it stands at the place of its brace. -/
def braced (cs : List Char) (p : Place) : Option (Array Token) := do
  let (tokens, opened) ← scan (2 * cs.length + 4) false ['('] [] (p.after ['(']) cs #[⟨.op "(", p⟩]
  let last := tokens.back?.getD default
  if opened == ['('] then some (tokens.pop ++ #[⟨.op ")", last.place⟩, last]) else none

end Lexer
end WireSketch
