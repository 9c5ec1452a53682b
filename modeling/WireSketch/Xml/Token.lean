import WireSketch.Xml.Name

/-! Tags and characters of an XML document, with references replaced. -/
namespace WireSketch.Xml

inductive Token
  | start (name : List Char) (attrs : List (List Char × List Char))
  | finish (name : List Char)
  | char (c : Char)
deriving Repr, DecidableEq

/-- General entities: their replacement texts, none for those that stand outside the document. -/
structure Entities where
  texts : List (List Char × Option (List Char)) := []
  /-- Declarations may stand outside the document. -/
  incomplete : Bool := false

/-- What is left of a text after its start. -/
def after? (start s : List Char) : Option (List Char) :=
  if start.isPrefixOf s then some (s.drop start.length) else none

def skipSpace (s : List Char) : List Char := s.dropWhile isSpace

def localName? : List Char → Option (List Char × List Char)
  | [] => none
  | c :: r =>
    if isNameStart c then some (c :: r.takeWhile isNameChar, r.dropWhile isNameChar) else none

def qualifiedName? (s : List Char) : Option (List Char × List Char) := do
  let (a, r) ← localName? s
  match r with
  | ':' :: r =>
    let (b, r) ← localName? r
    return (a ++ ':' :: b, r)
  | r => return (a, r)

/-- The text up to an end mark, and what follows the mark; all characters have to be allowed. -/
def upTo? (mark : List Char) : List Char → List Char → Option (List Char × List Char)
  | [], _ => none
  | c :: r, taken =>
    if mark.isPrefixOf (c :: r) then some (taken.reverse, (c :: r).drop mark.length)
    else if isChar c then upTo? mark r (c :: taken)
    else none

/-- The rest after a comment's opening; two hyphens end it. -/
def comment? (s : List Char) : Option (List Char) := do
  let (_, r) ← upTo? ['-', '-'] s []
  after? ['>'] r

def isXmlWord (s : List Char) : Bool := s.map Char.toLower == ['x', 'm', 'l']

/-- The rest after an instruction's opening. -/
def instruction? (s : List Char) : Option (List Char) := do
  let (name, r) ← localName? s
  if isXmlWord name then none
  match r with
  | '?' :: '>' :: r => return r
  | c :: r =>
    if isSpace c then
      let (_, r) ← upTo? ['?', '>'] r []
      return r
    else none
  | [] => none

def predefined? (name : List Char) : Option Char :=
  match name with
  | ['a', 'm', 'p'] => some '&'
  | ['l', 't'] => some '<'
  | ['g', 't'] => some '>'
  | ['q', 'u', 'o', 't'] => some '"'
  | ['a', 'p', 'o', 's'] => some '\''
  | _ => none

def hexDigit? (c : Char) : Option Nat :=
  if c.isDigit then some (c.toNat - 0x30)
  else if 'a' ≤ c ∧ c ≤ 'f' then some (c.toNat - 0x57)
  else if 'A' ≤ c ∧ c ≤ 'F' then some (c.toNat - 0x37)
  else none

def decimalDigit? (c : Char) : Option Nat := if c.isDigit then some (c.toNat - 0x30) else none

/-- Digits up to a semicolon: the value and the rest. -/
def digitsValue? (base : Nat) (digit? : Char → Option Nat) :
    Option Nat → List Char → Option (Nat × List Char)
  | n, c :: r =>
    if c == ';' then n.map ((·, r))
    else do
      let d ← digit? c
      digitsValue? base digit? (some (n.getD 0 * base + d)) r
  | _, [] => none

inductive Reference
  | char (c : Char)
  | entity (name : List Char)

/-- A reference after its ampersand: to a character or to an entity. -/
def reference? (s : List Char) : Option (Reference × List Char) := do
  let code (value : Nat × List Char) : Option (Reference × List Char) :=
    if isCharCode value.1 then some (.char (Char.ofNat value.1), value.2) else none
  match s with
  | '#' :: 'x' :: r => code (← digitsValue? 16 hexDigit? none r)
  | '#' :: r => code (← digitsValue? 10 decimalDigit? none r)
  | s =>
    let (name, r) ← localName? s
    match r with
    | ';' :: r =>
      match predefined? name with
      | some c => return (.char c, r)
      | none => return (.entity name, r)
    | _ => none

/-- Reads an attribute's value up to its quote, or up to the end of a replacement text. -/
def attrLoop (entity : List Char → Option (List Char)) (quote : Option Char) :
    Nat → List Char → List Char → Option (List Char × List Char)
  | 0, _, _ => none
  | _, [], taken => if quote.isNone then some (taken.reverse, []) else none
  | fuel + 1, c :: r, taken =>
    if quote == some c then some (taken.reverse, r)
    else if c == '<' then none
    else if c == '&' then do
      match ← reference? r with
      | (.char c, r) => attrLoop entity quote fuel r (c :: taken)
      | (.entity name, r) =>
        let text ← entity name
        attrLoop entity quote fuel r (text.reverse ++ taken)
    else if c == '\r' then
      attrLoop entity quote fuel (if r.head? == some '\n' then r.drop 1 else r) (' ' :: taken)
    else if isSpace c then attrLoop entity quote fuel r (' ' :: taken)
    else if isChar c then attrLoop entity quote fuel r (c :: taken)
    else none

/-- The text of an entity in an attribute's value; no entity refers to itself. -/
def attrEntity (d : Entities) : Nat → List (List Char) → List Char → Option (List Char)
  | 0, _, _ => none
  | depth + 1, within, name =>
    if within.contains name then none
    else match d.texts.lookup name with
      | some (some body) =>
        (attrLoop (attrEntity d depth (name :: within)) none (body.length + 1) body []).map (·.1)
      | some none => none
      | none => if d.incomplete then some [] else none

/-- The most levels of entities within entities. -/
def Entities.depth (d : Entities) : Nat := d.texts.length + 1

/-- The attributes of a tag, whether the element is empty, and the rest. -/
def attrs? (entity : List Char → Option (List Char)) :
    Nat → List Char → List (List Char × List Char) →
      Option (List (List Char × List Char) × Bool × List Char)
  | 0, _, _ => none
  | fuel + 1, s, taken =>
    match skipSpace s with
    | '>' :: r => some (taken.reverse, false, r)
    | '/' :: '>' :: r => some (taken.reverse, true, r)
    | r =>
      if r.length = s.length then none
      else do
        let (name, r) ← qualifiedName? r
        let r ← after? ['='] (skipSpace r)
        match skipSpace r with
        | q :: r =>
          if q == '"' || q == '\'' then
            let (value, r) ← attrLoop entity (some q) (r.length + 1) r []
            attrs? entity fuel r ((name, value) :: taken)
          else none
        | [] => none

/-- A character of content; line ends are read as one character. -/
def contentChar? : List Char → Option (Char × List Char)
  | '\r' :: '\n' :: r => some ('\n', r)
  | '\r' :: r => some ('\n', r)
  | c :: r => if isChar c then some (c, r) else none
  | [] => none

/--
Reads content with `depth` open elements. The document's content ends with its root, that of an entity
at the end of the text, where no element may be open.
-/
def contentLoop (attrEntity : List Char → Option (List Char))
    (entity : List Char → Option (Array Token)) (within : Bool) :
    Nat → Nat → List Char → Array Token → Option (Array Token × List Char)
  | 0, _, _, _ => none
  | _, depth, [], taken => if within && depth = 0 then some (taken, []) else none
  | fuel + 1, depth, c :: r, taken =>
    let next := contentLoop attrEntity entity within fuel
    if c == '<' then
      match r with
      | '!' :: '-' :: '-' :: r => do next depth (← comment? r) taken
      | '!' :: r => do
        let r ← after? ['[', 'C', 'D', 'A', 'T', 'A', '['] r
        let (text, r) ← upTo? [']', ']', '>'] r []
        next depth r (taken ++ (text.map Token.char).toArray)
      | '?' :: r => do next depth (← instruction? r) taken
      | '/' :: r => do
        let (name, r) ← qualifiedName? r
        let r ← after? ['>'] (skipSpace r)
        let taken := taken.push (.finish name)
        match depth with
        | 0 => none
        | 1 => if within then next 0 r taken else some (taken, r)
        | depth + 1 => next depth r taken
      | r => do
        let (name, r) ← qualifiedName? r
        let (attrs, empty, r) ← attrs? attrEntity (r.length + 1) r []
        let taken := taken.push (.start name attrs)
        if empty then
          let taken := taken.push (.finish name)
          if depth = 0 && !within then some (taken, r) else next depth r taken
        else next (depth + 1) r taken
    else if c == '&' then do
      match ← reference? r with
      | (.char c, r) => next depth r (taken.push (.char c))
      | (.entity name, r) => do next depth r (taken ++ (← entity name))
    else if [']', ']', '>'].isPrefixOf (c :: r) then none
    else do
      let (c, r) ← contentChar? (c :: r)
      next depth r (taken.push (.char c))

/-- The tokens of an entity in content; no entity refers to itself. -/
def contentEntity (d : Entities) : Nat → List (List Char) → List Char → Option (Array Token)
  | 0, _, _ => none
  | depth + 1, within, name =>
    if within.contains name then none
    else match d.texts.lookup name with
      | some (some body) => do
        let (tokens, _) ← contentLoop (attrEntity d d.depth [])
          (contentEntity d depth (name :: within)) true (body.length + 1) 0 body #[]
        return tokens
      | _ => none

/-- The tokens of the root element, and what follows it. -/
def root? (d : Entities) (s : List Char) : Option (Array Token × List Char) :=
  match s with
  | '<' :: c :: _ =>
    if isNameStart c then
      contentLoop (attrEntity d d.depth []) (contentEntity d d.depth []) false (s.length + 1) 0 s #[]
    else none
  | _ => none

end WireSketch.Xml
