import WireSketch.Xml.Token

/-! What stands before the root of an XML document: declaration, comments, and the document type. -/
namespace WireSketch.Xml

def skipMisc : Nat → List Char → Option (List Char)
  | 0, _ => none
  | fuel + 1, s =>
    match skipSpace s with
    | '<' :: '!' :: '-' :: '-' :: r => do skipMisc fuel (← comment? r)
    | '<' :: '?' :: r => do skipMisc fuel (← instruction? r)
    | r => some r

def isDeclarationChar (c : Char) : Bool := c.isAlphanum || c == '.' || c == '-' || c == '_'

/-- A part of the XML declaration after a space: its name and its value. -/
def declarationPart? (s : List Char) : Option ((List Char × List Char) × List Char) := do
  let r := skipSpace s
  if r.length = s.length then none
  let name := r.takeWhile fun c => c.isAlpha
  let r ← after? ['='] (skipSpace (r.dropWhile fun c => c.isAlpha))
  match skipSpace r with
  | q :: r =>
    if q == '"' || q == '\'' then
      let value := r.takeWhile isDeclarationChar
      let r ← after? [q] (r.dropWhile isDeclarationChar)
      return ((name, value), r)
    else none
  | [] => none

def encodingWord : List Char := ['e', 'n', 'c', 'o', 'd', 'i', 'n', 'g']

def standaloneWord : List Char := ['s', 't', 'a', 'n', 'd', 'a', 'l', 'o', 'n', 'e']

def versionWord : List Char := ['v', 'e', 'r', 's', 'i', 'o', 'n']

/-- The end of the XML declaration. -/
def declarationEnd? (s : List Char) : Option (List Char) := after? ['?', '>'] (skipSpace s)

def standalone? (s : List Char) : Option (List Char) :=
  declarationEnd? s <|> do
    let ((name, value), r) ← declarationPart? s
    if name == standaloneWord && (value == ['y', 'e', 's'] || value == ['n', 'o']) then
      declarationEnd? r
    else none

def encoding? (s : List Char) : Option (List Char) :=
  standalone? s <|> do
    let ((name, value), r) ← declarationPart? s
    if name == encodingWord && value.head?.any Char.isAlpha then standalone? r else none

/-- Skips the XML declaration, which can only stand at the start. -/
def skipDeclaration (s : List Char) : Option (List Char) :=
  match after? ['<', '?', 'x', 'm', 'l'] s with
  | some (c :: r) =>
    if isSpace c then do
      let ((name, _), r) ← declarationPart? (c :: r)
      if name == versionWord then encoding? r else none
    else some s
  | _ => some s

def literal? (s : List Char) : Option (List Char × List Char) :=
  match s with
  | q :: r => if q == '"' || q == '\'' then upTo? [q] r [] else none
  | [] => none

/-- A space, which has to be there, and any others. -/
def space? (s : List Char) : Option (List Char) :=
  match s with
  | c :: r => if isSpace c then some (skipSpace r) else none
  | [] => none

def isPublicChar (c : Char) : Bool :=
  c.isAlphanum || " \r\n-'()+,./:=?;!*#@$_%".toList.contains c

/-- The place of a document outside of this one. -/
def externalPlace? (s : List Char) : Option (List Char) :=
  match after? "SYSTEM".toList s with
  | some r => do return (← literal? (← space? r)).2
  | none => do
    let r ← after? "PUBLIC".toList s
    let (name, r) ← literal? (← space? r)
    if name.all isPublicChar then return (← literal? (← space? r)).2 else none

/-- The replacement text of an entity: references to characters are replaced, others stay. -/
def entityText : Nat → List Char → List Char → Option (List Char)
  | 0, _, _ => none
  | _, [], taken => some taken.reverse
  | fuel + 1, c :: r, taken =>
    if c == '%' then none
    else if c == '&' then do
      match r with
      | '#' :: _ =>
        match ← reference? r with
        | (.char c, r) => entityText fuel r (c :: taken)
        | _ => none
      | _ =>
        let (name, r) ← localName? r
        let r ← after? [';'] r
        entityText fuel r (';' :: name.reverse ++ '&' :: taken)
    else if c == '\r' then
      entityText fuel (if r.head? == some '\n' then r.drop 1 else r) ('\n' :: taken)
    else entityText fuel r (c :: taken)

/--
An entity's declaration after its keyword: its name, its replacement text if it is in the document,
and the rest.
-/
def entityDeclaration? (s : List Char) :
    Option (Option (List Char × Option (List Char)) × List Char) := do
  let s ← space? s
  let (parameter, s) ← match s with
    | '%' :: r => pure (true, ← space? r)
    | s => pure (false, s)
  let (name, r) ← localName? s
  let r ← space? r
  let kept (text : Option (List Char)) := if parameter then none else some (name, text)
  match literal? r with
  | some (value, r) =>
    let text ← entityText (value.length + 1) value []
    return (kept (some text), ← after? ['>'] (skipSpace r))
  | none =>
    let r ← externalPlace? r
    match after? ['>'] (skipSpace r) with
    | some r => return (kept none, r)
    | none =>
      if parameter then none
      let r ← after? "NDATA".toList (← space? r)
      let (_, r) ← localName? (← space? r)
      return (kept none, ← after? ['>'] (skipSpace r))

/-- Skips a declaration up to its end; quoted texts may hold the end mark. -/
def skipMarkup : Nat → List Char → Option (List Char)
  | 0, _ => none
  | _, [] => none
  | fuel + 1, c :: r =>
    if c == '>' then some r
    else if c == '<' then none
    else if c == '"' || c == '\'' then do
      let (_, r) ← literal? (c :: r)
      skipMarkup fuel r
    else if isChar c then skipMarkup fuel r
    else none

/-- The declarations between brackets; after a reference to an unknown part further ones are not used. -/
def subset? : Nat → Bool → List Char → Entities → Option (Entities × List Char)
  | 0, _, _, _ => none
  | fuel + 1, used, s, d =>
    match skipSpace s with
    | ']' :: r => some (d, r)
    | '%' :: r => do
      let (_, r) ← localName? r
      let r ← after? [';'] r
      subset? fuel false r { d with incomplete := true }
    | '<' :: '!' :: '-' :: '-' :: r => do subset? fuel used (← comment? r) d
    | '<' :: '?' :: r => do subset? fuel used (← instruction? r) d
    | '<' :: '!' :: r =>
      match after? "ENTITY".toList r with
      | some r => do
        let (entity, r) ← entityDeclaration? r
        let d := match entity with
          | some e =>
            if used && (d.texts.lookup e.1).isNone then { d with texts := d.texts ++ [e] } else d
          | none => d
        subset? fuel used r d
      | none => do
        let r ← after? "ELEMENT".toList r <|> after? "ATTLIST".toList r <|>
          after? "NOTATION".toList r
        subset? fuel used (← skipMarkup (r.length + 1) (← space? r)) d
    | _ => none

def documentType? (s : List Char) : Option (Entities × List Char) := do
  let (_, r) ← qualifiedName? (← space? s)
  let (d, r) ← match space? r with
    | some r' =>
      match externalPlace? r' with
      | some r => pure ({ incomplete := true }, skipSpace r)
      | none => pure ({}, r')
    | none => pure ({}, r)
  let (d, r) ← match r with
    | '[' :: r => do
      let (d, r) ← subset? (r.length + 1) true r d
      pure (d, skipSpace r)
    | r => pure (d, r)
  return (d, ← after? ['>'] r)

def tokens? (s : List Char) : Option (Array Token) := do
  let s := if s.head? == some '\ufeff' then s.drop 1 else s
  let s ← skipDeclaration s
  let s ← skipMisc (s.length + 1) s
  let (d, s) ← match after? "<!DOCTYPE".toList s with
    | some r => do
      let (d, r) ← documentType? r
      pure (d, ← skipMisc (r.length + 1) r)
    | none => pure ({}, s)
  let (tokens, rest) ← root? d s
  let rest ← skipMisc (rest.length + 1) rest
  if rest.isEmpty then some tokens else none

end WireSketch.Xml
