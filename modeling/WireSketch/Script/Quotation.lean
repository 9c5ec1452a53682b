import WireSketch.Script.Reader
import WireSketch.Text.CharName

/-! Quoted texts: escapes, neighbours joined, and values put into formatted texts. -/
namespace WireSketch
namespace Quotation

/-- The character that a simple escape stands for. -/
def simpleEscape? (c : Char) : Option Char :=
  match c with
  | '\\' => some '\\'
  | '\'' => some '\''
  | '"' => some '"'
  | 'a' => some '\x07'
  | 'b' => some '\x08'
  | 'f' => some '\x0c'
  | 'n' => some '\n'
  | 'r' => some '\r'
  | 't' => some '\t'
  | 'v' => some '\x0b'
  | _ => none

def isOctal (c : Char) : Bool := '0' ≤ c && c ≤ '7'

def digitsValue (base : Nat) (ds : List Char) : Nat :=
  ds.foldl (fun n c => n * base + (Reading.baseDigit? c).getD 0) 0

def hexValue? (n : Nat) (cs : List Char) : Option Nat :=
  let ds := cs.take n
  if ds.length = n ∧ ds.all fun c => (Reading.baseDigit? c).any (· < 16) then some (digitsValue 16 ds)
  else none

/-- How many digits a numeric escape has. -/
def escapeWidth? (bytes : Bool) (c : Char) : Option Nat :=
  match c with
  | 'x' => some 2
  | 'u' => if bytes then none else some 4
  | 'U' => if bytes then none else some 8
  | _ => none

/-- The character whose name stands in braces, and the rest. -/
def namedChar? (cs : List Char) : Option (Char × List Char) :=
  match cs with
  | '\x7b' :: r => do
    let c ← Text.ofName? (String.ofList (r.takeWhile (· != '\x7d')))
    match r.dropWhile (· != '\x7d') with
    | _ :: r => some (c, r)
    | [] => none
  | _ => none

/--
The characters of a quoted text with its escapes replaced; an unknown escape stays as it is. A surrogate is no
character here: an escape for one is refused.
-/
def unescape (bytes : Bool) : Nat → List Char → Option (List Char)
  | 0, _ => none
  | _ + 1, [] => some []
  | fuel + 1, '\\' :: c :: r =>
    if c == '\n' then unescape bytes fuel r
    else
      match simpleEscape? c with
      | some d => (unescape bytes fuel r).map (d :: ·)
      | none =>
        if isOctal c then
          let ds := (c :: r).take 3 |>.takeWhile isOctal
          let n := digitsValue 8 ds
          let n := if bytes then n % 256 else n
          (unescape bytes fuel ((c :: r).drop ds.length)).map (Char.ofNat n :: ·)
        else
          match escapeWidth? bytes c with
          | some width => do
            let n ← hexValue? width r
            if ¬ n.isValidChar then none
            (unescape bytes fuel (r.drop width)).map (Char.ofNat n :: ·)
          | none =>
            if c == 'N' && !bytes then do
              let (d, r') ← namedChar? r
              (unescape bytes fuel r').map (d :: ·)
            else (unescape bytes fuel r).map fun t => '\\' :: c :: t
  | fuel + 1, c :: r => (unescape bytes fuel r).map (c :: ·)

def unescaped (raw bytes : Bool) (cs : List Char) : Option (List Char) :=
  if raw then some cs else unescape bytes (cs.length + 1) cs

def bytesValue (qs : List QuotedToken) : Option Value := do
  let parts ← qs.mapM fun q => do
    if q.body.any (·.toNat ≥ 0x80) then none
    unescaped q.raw true q.body
  return .bytes (parts.flatten.map fun c => UInt8.ofNat c.toNat)

inductive Part
  | text (cs : List Char)
  | value (e : Expr)

/-- Neighbouring texts are one constant; empty ones are left out. -/
def joinParts (p : Place) : List Part → List Char → List Expr
  | [], pending => if pending.isEmpty then [] else [.const p (.str (String.ofList pending))]
  | .text cs :: rest, pending => joinParts p rest (pending ++ cs)
  | .value e :: rest, pending =>
    (if pending.isEmpty then [] else [.const p (.str (String.ofList pending))]) ++
      e :: joinParts p rest []

/--
The text up to a brace that opens or closes an expression. Doubled braces stand for one outside of
specifications, where one that closes nothing is refused; those around a character's name are kept.
-/
def literalRun (raw top : Bool) : Bool → List Char → Option (List Char × List Char)
  | _, [] => some ([], [])
  | true, c :: r => (literalRun raw top (c != '\x7d') r).map fun (t, r) => (c :: t, r)
  | false, '\\' :: 'N' :: '\x7b' :: r =>
    if raw then (literalRun raw top false ('N' :: '\x7b' :: r)).map fun (t, r) => ('\\' :: t, r)
    else (literalRun raw top true r).map fun (t, r) => ('\\' :: 'N' :: '\x7b' :: t, r)
  | false, '\\' :: c :: r =>
    if raw || c == '\x7b' || c == '\x7d' then
      (literalRun raw top false (c :: r)).map fun (t, r) => ('\\' :: t, r)
    else (literalRun raw top false r).map fun (t, r) => ('\\' :: c :: t, r)
  | false, c :: r =>
    if c == '\x7b' || c == '\x7d' then
      match top, r with
      | true, d :: r' =>
        if c == d then (literalRun raw top false r').map fun (t, r) => (c :: t, r)
        else if c == '\x7d' then none else some ([], c :: r)
      | true, [] => if c == '\x7d' then none else some ([], c :: r)
      | false, _ => some ([], c :: r)
    else (literalRun raw top false r).map fun (t, r) => (c :: t, r)

/-- Does a bracket close the one that was opened last? -/
def closes (opened : List Char) (c : Char) : Option (List Char) :=
  match opened, c with
  | '(' :: rest, ')' | '[' :: rest, ']' | '\x7b' :: rest, '\x7d' => some rest
  | _, _ => none

/-- The expression after an opening brace, and what follows it, which starts with `!`, `:`, `=` or a brace. -/
def expressionRun (quote : Option (Char × Bool)) (opened : List Char) :
    List Char → List Char → Option (List Char × List Char)
  | [], _ => none
  | c :: r, taken =>
    if c == '\\' then none
    else
      match quote with
      | some (q, triple) =>
        if c == q then
          if triple then
            match r with
            | d :: e :: r' =>
              if d == q && e == q then expressionRun none opened r' (e :: d :: c :: taken)
              else expressionRun quote opened (d :: e :: r') (c :: taken)
            | r => expressionRun quote opened r (c :: taken)
          else expressionRun none opened r (c :: taken)
        else expressionRun quote opened r (c :: taken)
      | none =>
        if c == '\'' || c == '"' then
          match r with
          | d :: e :: r' =>
            if d == c && e == c then expressionRun (some (c, true)) opened r' (e :: d :: c :: taken)
            else expressionRun (some (c, false)) opened (d :: e :: r') (c :: taken)
          | r => expressionRun (some (c, false)) opened r (c :: taken)
        else if c == '(' || c == '[' || c == '\x7b' then
          if opened.length ≥ Lexer.maxBrackets then none
          else expressionRun none (c :: opened) r (c :: taken)
        else if c == '#' then none
        else if opened.isEmpty && "!:=<>\x7d".toList.contains c then
          match r with
          | '=' :: r' =>
            if c == '!' || c == '=' || c == '<' || c == '>' then
              expressionRun none opened r' ('=' :: c :: taken)
            else some (taken.reverse, c :: r)
          | r =>
            if c == '<' || c == '>' then expressionRun none opened r (c :: taken)
            else some (taken.reverse, c :: r)
        else if c == ')' || c == ']' || c == '\x7d' then
          match closes opened c with
          | some opened => expressionRun none opened r (c :: taken)
          | none => none
        else expressionRun none opened r (c :: taken)
  termination_by cs => cs.length

/-- The equals sign after an expression with the blanks after it, if there is one. -/
def equalsRun : List Char → List Char × List Char
  | '=' :: r =>
    let isSpace (c : Char) := c == ' ' || (0x9 ≤ c.toNat && c.toNat ≤ 0xd)
    ('=' :: r.takeWhile isSpace, r.dropWhile isSpace)
  | r => ([], r)

def conversionRun : List Char → Option (Option Conversion × List Char)
  | '!' :: c :: r =>
    match c with
    | 's' => some (some .plain, r)
    | 'r' => some (some .shown, r)
    | 'a' => some (some .ascii, r)
    | _ => none
  | ['!'] => none
  | r => some (none, r)

/-- Reads an expression that fills a list of words. -/
def readWhole (p : Reader Expr) (tokens : Array Token) : Option Expr := do
  let (e, rest) ← p tokens.toList
  match rest with
  | [⟨.textEnd, _⟩] | [] => return e
  | _ => none

/--
The parts of a formatted text. `depth` is how far expressions may still nest through specifications,
and `first` the place of the whole text. At the top the text is read to its end, else up to a brace.
-/
def parts (expression : Reader Expr) (raw : Bool) (first : Place) :
    Nat → Nat → List Char → Place → Option (List Part × List Char × Place)
  | 0, _, _, _ => none
  | fuel + 1, depth, cs, p => do
    let top := depth = 2
    let (text, r) ← literalRun raw top false cs
    let literal ← unescaped raw false text
    let p := p.after (cs.take (cs.length - r.length))
    match r with
    | '\x7b' :: r => do
      if depth = 0 then none
      let (source, r) ← expressionRun none [] r []
      if source.all (fun c => c == ' ' || c == '\t' || c == '\n' || c == '\x0c') then none
      let e ← readWhole expression (← Lexer.braced source p)
      let p := (p.after ['\x7b']).after source
      let (equals, r) := equalsRun r
      let p := p.after equals
      let before := r.length
      let (conversion, r) ← conversionRun r
      let p := ⟨p.line, p.column + (before - r.length)⟩
      let (spec, r, p) ← match r with
        | ':' :: r => do
          let (inner, r, p) ← parts expression raw first fuel (depth - 1) r (p.after [':'])
          pure (some (Expr.joined first (joinParts first inner [])), r, p)
        | r => pure (none, r, p)
      match r with
      | '\x7d' :: r => do
        let shown := if equals.isEmpty then [] else source ++ equals
        let conversion := if !equals.isEmpty && spec.isNone && conversion.isNone then some .shown
          else conversion
        let value := Expr.formatted first e conversion spec
        let (rest, r, p) ← parts expression raw first fuel depth r (p.after ['\x7d'])
        return (.text (literal ++ shown) :: .value value :: rest, r, p)
      | _ => none
    | r => return ([.text literal], r, p)

def partsOf (expression : Reader Expr) (first : Place) (q : QuotedToken) : Option (List Part) := do
  if q.formatted then
    let (ps, r, _) ← parts expression q.raw first (2 * q.body.length + 2) 2 q.body q.start
    if r.isEmpty then return ps else none
  else return [.text (← unescaped q.raw false q.body)]

def expr (expression : Reader Expr) (first : Place) (qs : List QuotedToken) : Option Expr := do
  if qs.all (·.bytes) then return .const first (← bytesValue qs)
  if qs.any (·.bytes) then none
  let ps := (← qs.mapM (partsOf expression first)).flatten
  if qs.any (·.formatted) then return .joined first (joinParts first ps [])
  let texts := ps.map fun
    | .text cs => cs
    | .value _ => []
  return .const first (.str (String.ofList texts.flatten))

end Quotation
end WireSketch
