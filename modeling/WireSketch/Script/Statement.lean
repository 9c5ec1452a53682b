import WireSketch.Script.Pattern

/-! The grammar of statements, and scripts as lists of statements. -/
namespace WireSketch
namespace Grammar

open Reader

section
variable (limit : Nat) (nested : Nested)

def rightSide : Reader Expr := do
  if ← isKeyword "yield" then yielding limit nested else expressions limit nested

/-- Further targets and the value after an equals sign. -/
def assignment (p : Place) : Nat → List Expr → Reader Stmt
  | 0, _ => fail
  | n + 1, targets => do
    op "="
    let yields ← isKeyword "yield"
    let e ← rightSide limit nested
    if ← isOp "=" then
      if yields || !isTarget e then fail
      assignment p n (e :: targets)
    else return .assign p targets.reverse e

def augmentedOp? : String → Option BinaryOp
  | "+=" => some .add
  | "-=" => some .sub
  | "*=" => some .mul
  | "/=" => some .div
  | "//=" => some .floorDiv
  | "%=" => some .mod
  | "**=" => some .pow
  | "<<=" => some .shiftLeft
  | ">>=" => some .shiftRight
  | "|=" => some .bitOr
  | "^=" => some .bitXor
  | "&=" => some .bitAnd
  | "@=" => some .matMul
  | _ => none

def expressionStatement : Reader Stmt := do
  let p ← here
  if ← isKeyword "yield" then return .expr p (← yielding limit nested)
  let e ← expressions limit nested
  match ← peek with
  | .op "=" =>
    unless isTarget e do fail
    assignment limit nested p limit [e]
  | .op ":" =>
    unless isSingleTarget e do fail
    skip
    let _ ← nested .expression
    if ← takesOp "=" then
      let _ ← rightSide limit nested
    return .forbidden p .annotated
  | .op s =>
    match augmentedOp? s with
    | some o =>
      unless isSingleTarget e do fail
      skip
      return .augmented p e o (← rightSide limit nested)
    | none => return .expr p e
  | _ => return .expr p e

def names : Reader Unit := do
  let _ ← name
  let _ ← manyAfter limit "," name

def dottedName : Reader Unit := do
  let _ ← name
  let _ ← manyAfter limit "." name

/-- Another name for something imported. -/
def alias_ : Reader Unit := do
  if ← takesKeyword "as" then
    let _ ← name

def importStatement : Reader Unit := do
  let _ ← commas limit (do
    dottedName limit
    alias_)

def importFromStatement : Reader Unit := do
  let dots ← many limit (do unless (← takesOp ".") || (← takesOp "...") do fail)
  if dots.isEmpty || !(← isKeyword "import") then dottedName limit
  keyword "import"
  let one : Reader Unit := do
    let _ ← name
    alias_
  if ← takesOp "*" then return
  if ← takesOp "(" then
    let _ ← commasEnd limit one
    op ")"
  else
    let _ ← commas limit one
    unlessOp ","

def deleteStatement : Reader Unit := do
  let _ ← commasEnd limit (do unless isDeletable (← nested .primary) do fail)
  match ← peek with
  | .op ";" | .lineEnd => pure ()
  | _ => fail

def simpleStatement : Reader Stmt := do
  let p ← here
  let forbidden (c : Construct) (rest : Reader Unit) : Reader Stmt := do
    skip
    rest
    return .forbidden p c
  match ← peek with
  | .keyword "pass" => do
    skip
    return .pass p
  | .keyword "break" => do
    skip
    return .breakLoop p
  | .keyword "continue" => do
    skip
    return .continueLoop p
  | .keyword "return" => forbidden .returning (do
      let _ ← possibly (expressions limit nested))
  | .keyword "raise" => forbidden .raising (do
      if (← possibly (nested .expression)).isSome then
        if ← takesKeyword "from" then
          let _ ← nested .expression)
  | .keyword "global" => forbidden .globalNames (names limit)
  | .keyword "nonlocal" => forbidden .nonlocalNames (names limit)
  | .keyword "del" => forbidden .deleting (deleteStatement limit nested)
  | .keyword "assert" => forbidden .asserting (do
      let _ ← nested .expression
      if ← takesOp "," then
        let _ ← nested .expression)
  | .keyword "import" => forbidden .importing (importStatement limit)
  | .keyword "from" => forbidden .importingFrom (importFromStatement limit)
  | _ => expressionStatement limit nested

def simpleStatements : Reader (List Stmt) := do
  let first ← simpleStatement limit nested
  let more ← manyAfter limit ";" (simpleStatement limit nested)
  let _ ← takesOp ";"
  mark .lineEnd
  return first :: more

def block : Reader (List Stmt) := do
  match ← peek with
  | .lineEnd => do
    skip
    mark .indent
    let body ← nested .statements
    mark .dedent
    return body
  | _ => simpleStatements limit nested

def body : Reader (List Stmt) := do
  op ":"
  nested .block

def elseBody : Reader (List Stmt) := do
  if ← takesKeyword "else" then body nested else return []

/-- The branches after the first condition; each further one is a branch of its own. -/
def branchFrom (p : Place) : Nat → Reader Stmt
  | 0 => fail
  | n + 1 => do
    let test ← nested .named
    let yes ← body nested
    let q ← here
    if ← takesKeyword "elif" then return .branch p test yes [← branchFrom q n]
    return .branch p test yes (← elseBody nested)

def loopFrom (p : Place) : Reader Stmt := do
  let target ← targets limit nested
  keyword "in"
  let items ← expressions limit nested
  let inner ← body nested
  return .loop p target items inner (← elseBody nested)

def whileLoop : Reader Unit := do
  let _ ← nested .named
  let _ ← body nested
  let _ ← elseBody nested

def withItem : Reader Unit := do
  let _ ← nested .expression
  if ← takesKeyword "as" then
    let _ ← takesOp "*"
    unless isTarget (← nested .primary) do fail
    match ← peek with
    | .op "," | .op ")" | .op ":" => pure ()
    | _ => fail

/-- An item in parentheses may have a target that a plain expression may not. -/
def withBlock : Reader Unit := do
  let inParentheses : Reader Unit := do
    op "("
    let _ ← commasEnd limit (withItem nested)
    op ")"
    unless ← isOp ":" do fail
  inParentheses <|> (do
    let _ ← commas limit (withItem nested))
  let _ ← body nested

def handler (star : Bool) : Reader Unit := do
  keyword "except"
  if star then op "*"
  if star || !(← isOp ":") then
    let _ ← nested .expression
    alias_
  let _ ← body nested

def tryBlock : Reader Construct := do
  let _ ← body nested
  let finally_ : Reader Bool := do
    if ← takesKeyword "finally" then
      let _ ← body nested
      return true
    return false
  if ← finally_ then return .trying
  let star ← ahead (do
    keyword "except"
    isOp "*")
  let handlers ← many limit (handler nested star)
  if handlers.isEmpty || (← isKeyword "except") then fail
  let _ ← elseBody nested
  let _ ← finally_
  return if star then .tryingGroups else .trying

def functionFrom : Reader Unit := do
  let _ ← name
  op "("
  parameters nested true ")" limit {}
  op ")"
  if ← takesOp "->" then
    let _ ← nested .expression
  let _ ← body nested

def classFrom : Reader Unit := do
  let _ ← name
  let p ← here
  if ← takesOp "(" then
    -- A generator needs parentheses of its own.
    match ← arguments limit nested p limit .values [] [] with
    | ([.forbidden q .generator], []) => if q = p then fail
    | _ => pure ()
  let _ ← body nested

/-- A definition, or another block that may be asynchronous. -/
def asyncFrom (p : Place) : Reader Stmt := do
  if ← takesKeyword "def" then
    functionFrom limit nested
    return .forbidden p .asyncFunctionDef
  if ← takesKeyword "with" then
    withBlock limit nested
    return .forbidden p .asyncWith
  keyword "for"
  let _ ← loopFrom limit nested p
  return .forbidden p .asyncLoop

/-- Decorators stand before a definition, whose place is its own. -/
def decorated : Reader Stmt := do
  let decorator : Reader Unit := do
    op "@"
    let _ ← nested .named
    mark .lineEnd
  decorator
  let _ ← many limit decorator
  let p ← here
  if ← takesKeyword "class" then
    classFrom limit nested
    return .forbidden p .classDef
  if ← takesKeyword "async" then
    keyword "def"
    functionFrom limit nested
    return .forbidden p .asyncFunctionDef
  keyword "def"
  functionFrom limit nested
  return .forbidden p .functionDef

def caseBlock : Reader Unit := do
  word "case"
  casePatterns limit nested
  if ← takesKeyword "if" then
    let _ ← nested .named
  let _ ← body nested

/-- A match over a subject; the word is a plain name elsewhere. -/
def matchStatement : Reader Stmt := do
  let p ← here
  word "match"
  match ← commasEnd limit (starredNamed nested) with
  | ([e], false) => if isStarred e then fail
  | _ => pure ()
  op ":"
  mark .lineEnd
  mark .indent
  caseBlock limit nested
  let _ ← many limit (caseBlock limit nested)
  mark .dedent
  return .forbidden p .matching

def statement : Reader (List Stmt) := do
  let p ← here
  let forbidden (c : Construct) (rest : Reader Unit) : Reader (List Stmt) := do
    skip
    rest
    return [.forbidden p c]
  match ← peek with
  | .keyword "if" => do
    skip
    return [← branchFrom nested p limit]
  | .keyword "for" => do
    skip
    return [← loopFrom limit nested p]
  | .keyword "while" => forbidden .whileLoop (whileLoop nested)
  | .keyword "with" => forbidden .withBlock (withBlock limit nested)
  | .keyword "try" => do
    skip
    return [.forbidden p (← tryBlock limit nested)]
  | .keyword "def" => forbidden .functionDef (functionFrom limit nested)
  | .keyword "class" => forbidden .classDef (classFrom limit nested)
  | .keyword "async" => do
    skip
    return [← asyncFrom limit nested p]
  | .op "@" => return [← decorated limit nested]
  | .name "match" => (List.singleton <$> matchStatement limit nested) <|> simpleStatements limit nested
  | _ => simpleStatements limit nested

def statements : Reader (List Stmt) := do
  let first ← statement limit nested
  return first ++ (← many limit (statement limit nested)).flatten

end

/-- The reader of each part of the grammar, over readers of what is nested in it. -/
def rule (limit : Nat) (nested : Nested) : Nested
  | .expression => expression limit nested
  | .named => named nested
  | .starred => starred nested
  | .starredNamed => starredNamed nested
  | .bitOr => bitOr limit nested
  | .inversion => inversion limit nested
  | .factor => factor limit nested
  | .disjunction => disjunction limit nested
  | .primary => primary limit nested
  | .pattern => pattern limit nested
  | .block => block limit nested
  | .statements => statements limit nested

/-- Readers for what is nested up to a depth. -/
def read : Nat → Nested
  | 0 => fun _ => fail
  | depth + 1 => fun g => rule (depth + 1) (fun h => read depth h) g

end Grammar

/-- The statements of a script; none if it is malformed. -/
def Stmt.ofSource? (source : String) : Option (List Stmt) := do
  let tokens ← Lexer.script source
  let depth := 8 * (source.length + 8)
  match tokens.toList with
  | [⟨.textEnd, _⟩] => return []
  | tokens =>
    let (body, rest) ← Grammar.read depth .statements tokens
    match rest with
    | [⟨.textEnd, _⟩] => return body
    | _ => none

end WireSketch
