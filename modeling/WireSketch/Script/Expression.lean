import WireSketch.Script.Quotation

/-! The grammar of expressions. What is nested inside is read by the given readers of deeper levels. -/
namespace WireSketch
namespace Grammar

open Reader

mutual

/-- May the expression stand on the left of an assignment? -/
def isTarget : Expr → Bool
  | .name .. | .subscript .. | .forbidden _ .member => true
  | .starred _ e => isTarget e
  | .list _ items | .tuple _ items => areTargets items
  | _ => false

def areTargets : List Expr → Bool
  | [] => true
  | e :: rest => isTarget e && areTargets rest

end

/-- May it be the one target of an augmented assignment or an annotation? -/
def isSingleTarget : Expr → Bool
  | .name .. | .subscript .. | .forbidden _ .member => true
  | _ => false

mutual

def isDeletable : Expr → Bool
  | .name .. | .subscript .. | .forbidden _ .member => true
  | .list _ items | .tuple _ items => areDeletable items
  | _ => false

def areDeletable : List Expr → Bool
  | [] => true
  | e :: rest => isDeletable e && areDeletable rest

end

/-- The one item, or a tuple when a comma follows. -/
def tupleOf (p : Place) : List Expr × Bool → Expr
  | ([e], false) => e
  | (es, _) => .tuple p es

/-- Operands joined from left to right by operators of one rank. -/
def chain (p : Place) (ops : List (String × BinaryOp)) (operand : Reader Expr) :
    Nat → Expr → Reader Expr
  | 0, e => return e
  | n + 1, e => do
    match ← peek with
    | .op s =>
      match ops.lookup s with
      | some o => do
        skip
        let r ← operand
        chain p ops operand n (.binary p o e r)
      | none => return e
    | _ => return e

def ranked (limit : Nat) (ops : List (String × BinaryOp)) (operand : Reader Expr) : Reader Expr := do
  let p ← here
  let e ← operand
  chain p ops operand limit e

section
variable (limit : Nat) (nested : Nested)

/-- The name or expression before `:=` is read as a whole; scripts may not use it. -/
def named : Reader Expr := do
  let p ← here
  if ← isNameBefore ":=" then
    skip
    skip
    let _ ← nested .expression
    return .forbidden p .named
  let e ← nested .expression
  unlessOp ":="
  return e

def starred : Reader Expr := do
  let p ← here
  if ← takesOp "*" then return .starred p (← nested .bitOr)
  nested .expression

def starredNamed : Reader Expr := do
  let p ← here
  if ← takesOp "*" then return .starred p (← nested .bitOr)
  nested .named

def expressions : Reader Expr := do
  let p ← here
  return tupleOf p (← commasEnd limit (starred nested))

def yielding : Reader Expr := do
  let p ← here
  keyword "yield"
  if ← takesKeyword "from" then
    let _ ← nested .expression
    return .forbidden p .yieldingFrom
  let _ ← possibly (expressions limit nested)
  return .forbidden p .yielding

def isStarred : Expr → Bool
  | .starred .. => true
  | _ => false

end

section
variable (limit : Nat) (nested : Nested)

/-- Targets of a loop: one, or a tuple. -/
def targets : Reader Expr := do
  let p ← here
  let one : Reader Expr := do
    let p ← here
    let star ← takesOp "*"
    let e ← nested .primary
    unless isTarget e do fail
    return if star then .starred p e else e
  return tupleOf p (← commasEnd limit one)

def clauses : Reader Unit := do
  let clause : Reader Unit := do
    let _ ← takesKeyword "async"
    keyword "for"
    let _ ← targets limit nested
    keyword "in"
    let _ ← nested .disjunction
    let _ ← many limit (do
      keyword "if"
      nested .disjunction)
  clause
  let _ ← many limit clause

def isClause : Reader Bool := do return (← isKeyword "for") || (← isKeyword "async")

def parenthesized (p : Place) : Reader Expr := do
  op "("
  if ← takesOp ")" then return .tuple p []
  if ← isKeyword "yield" then
    let e ← yielding limit nested
    op ")"
    return e
  let first ← nested .starredNamed
  if ← isClause then
    if isStarred first then fail
    clauses limit nested
    op ")"
    return .forbidden p .generator
  if ← takesOp ")" then
    if isStarred first then fail
    return first
  let more ← manyAfter limit "," (nested .starredNamed)
  let comma ← takesOp ","
  op ")"
  if more.isEmpty && !comma then fail
  return .tuple p (first :: more)

def bracketed (p : Place) : Reader Expr := do
  op "["
  if ← takesOp "]" then return .list p []
  let first ← nested .starredNamed
  if ← isClause then
    if isStarred first then fail
    clauses limit nested
    op "]"
    return .forbidden p .listComprehension
  let more ← manyAfter limit "," (nested .starredNamed)
  let _ ← takesOp ","
  op "]"
  return .list p (first :: more)

def entry : Reader Entry := do
  if ← takesOp "**" then return .spread (← nested .bitOr)
  let k ← nested .expression
  op ":"
  return .pair k (← nested .expression)

def setFrom (p : Place) (first : Expr) : Reader Expr := do
  if ← isClause then
    if isStarred first then fail
    clauses limit nested
    op "\x7d"
    return .forbidden p .setComprehension
  let more ← manyAfter limit "," (nested .starredNamed)
  let _ ← takesOp ","
  op "\x7d"
  return .set p (first :: more)

def dictFrom (p : Place) (first : Entry) : Reader Expr := do
  let more ← manyAfter limit "," (entry nested)
  let _ ← takesOp ","
  op "\x7d"
  return .dict p (first :: more)

def braced (p : Place) : Reader Expr := do
  op "\x7b"
  if ← takesOp "\x7d" then return .dict p []
  if ← isOp "**" then return ← dictFrom limit nested p (← entry nested)
  if (← isOp "*") || (← isNameBefore ":=") then
    return ← setFrom limit nested p (← nested .starredNamed)
  let first ← nested .expression
  if ← takesOp ":" then
    let v ← nested .expression
    if ← isClause then
      clauses limit nested
      op "\x7d"
      return .forbidden p .dictComprehension
    return ← dictFrom limit nested p (.pair first v)
  setFrom limit nested p first

def quotations : Reader Expr := do
  let p ← here
  let one : Reader QuotedToken := do
    match ← peek with
    | .quoted q =>
      skip
      return q
    | _ => fail
  let qs ← many limit one
  match Quotation.expr (expressions limit nested) p qs with
  | some e => return e
  | none => fail

def atom : Reader Expr := do
  let p ← here
  match ← peek with
  | .name s => do
    skip
    return .name p s
  | .number v => do
    skip
    return .const p v
  | .quoted _ => quotations limit nested
  | .keyword "True" => do
    skip
    return .const p (.bool true)
  | .keyword "False" => do
    skip
    return .const p (.bool false)
  | .keyword "None" => do
    skip
    return .const p .none
  | .op "..." => do
    skip
    return .const p .ellipsis
  | .op "(" => parenthesized limit nested p
  | .op "[" => bracketed limit nested p
  | .op "\x7b" => braced limit nested p
  | _ => fail

/-- One item between brackets: an expression, or bounds with colons. -/
def sliceItem : Reader Expr := do
  let p ← here
  if (← isOp "*") then
    skip
    return .starred p (← nested .expression)
  let start ← if ← isOp ":" then pure none else some <$> nested .named
  if !(← takesOp ":") then
    match start with
    | some e => return e
    | none => fail
  -- A bound is an expression, without a name given to it.
  match start with
  | some (.forbidden q .named) => if q = p then fail
  | _ => pure ()
  let bound := possibly (nested .expression)
  let stop ← bound
  let step ← if ← takesOp ":" then bound else pure none
  return .slice p start stop step

def subscriptIndex : Reader Expr := do
  let p ← here
  match ← commasEnd limit (sliceItem nested) with
  | ([e], false) => return if isStarred e then .tuple p [e] else e
  | (es, _) => return .tuple p es

/-- What a call is given so far: values, then keywords, then spread maps. -/
inductive ArgumentPhase
  | values | keywords | spreads
deriving DecidableEq

def arguments (p : Place) :
    Nat → ArgumentPhase → List Expr → List Keyword → Reader (List Expr × List Keyword)
  | 0, _, _, _ => fail
  | n + 1, phase, args, keywords => do
    if ← takesOp ")" then return (args.reverse, keywords.reverse)
    let q ← here
    let go (phase : ArgumentPhase) (args : List Expr) (keywords : List Keyword) := do
      if !(← isOp ")") then op ","
      arguments p n phase args keywords
    if ← takesOp "**" then
      return ← go .spreads args (.spread (← nested .expression) :: keywords)
    if ← takesOp "*" then
      if phase = .spreads then fail
      return ← go phase (.starred q (← nested .expression) :: args) keywords
    if ← isNameBefore "=" then
      let k ← name
      skip
      let v ← nested .expression
      return ← go (if phase = .spreads then .spreads else .keywords) args (.named k v :: keywords)
    if phase ≠ .values then fail
    let e ← nested .named
    if ← isClause then
      if !args.isEmpty then fail
      clauses limit nested
      op ")"
      return ([.forbidden p .generator], [])
    go .values (e :: args) keywords

/-- Members, calls and subscripts after an expression. -/
def trailers (p : Place) : Nat → Expr → Reader Expr
  | 0, e => return e
  | n + 1, e => do
    let q ← here
    if ← takesOp "." then
      let _ ← name
      trailers p n (.forbidden p .member)
    else if ← takesOp "(" then
      let (args, keywords) ← arguments limit nested q limit .values [] []
      trailers p n (.call p e args keywords)
    else if ← takesOp "[" then
      let index ← subscriptIndex limit nested
      op "]"
      trailers p n (.subscript p e index)
    else return e

def primary : Reader Expr := do
  let p ← here
  let e ← atom limit nested
  trailers limit nested p limit e

def awaited : Reader Expr := do
  let p ← here
  if ← takesKeyword "await" then
    let _ ← primary limit nested
    return .forbidden p .awaiting
  primary limit nested

def power : Reader Expr := do
  let p ← here
  let base ← awaited limit nested
  if ← takesOp "**" then return .binary p .pow base (← nested .factor)
  return base

def factor : Reader Expr := do
  let p ← here
  if ← takesOp "+" then return .unary p .plus (← nested .factor)
  if ← takesOp "-" then return .unary p .minus (← nested .factor)
  if ← takesOp "~" then return .unary p .invert (← nested .factor)
  power limit nested

def term : Reader Expr :=
  ranked limit [("*", .mul), ("/", .div), ("//", .floorDiv), ("%", .mod), ("@", .matMul)]
    (factor limit nested)

def sum : Reader Expr := ranked limit [("+", .add), ("-", .sub)] (term limit nested)

def shift : Reader Expr :=
  ranked limit [("<<", .shiftLeft), (">>", .shiftRight)] (sum limit nested)

def bitAnd : Reader Expr := ranked limit [("&", .bitAnd)] (shift limit nested)

def bitXor : Reader Expr := ranked limit [("^", .bitXor)] (bitAnd limit nested)

def bitOr : Reader Expr := ranked limit [("|", .bitOr)] (bitXor limit nested)

/-- The operator of a link in a comparison chain, if one comes next. -/
def compareOp : Reader CompareOp := do
  match ← peek with
  | .op s =>
    match [("==", CompareOp.eq), ("!=", .ne), ("<=", .le), ("<", .lt), (">=", .ge),
      (">", .gt)].lookup s with
    | some o => do
      skip
      return o
    | none => fail
  | .keyword "in" => do
    skip
    return .isIn
  | .keyword "not" => do
    skip
    keyword "in"
    return .notIn
  | .keyword "is" => do
    skip
    if ← takesKeyword "not" then return .isNot
    return .is
  | _ => fail

def comparison : Reader Expr := do
  let p ← here
  let first ← bitOr limit nested
  let links ← many limit (do
    let o ← compareOp
    return Link.mk o (← bitOr limit nested))
  if links.isEmpty then return first
  return .compare p first links

def inversion : Reader Expr := do
  let p ← here
  if ← takesKeyword "not" then return .unary p .not (← nested .inversion)
  comparison limit nested

/-- Operands with a keyword between them. -/
def joinedBy (word : String) (make : Place → List Expr → Expr) (operand : Reader Expr) :
    Reader Expr := do
  let p ← here
  let first ← operand
  let more ← many limit (do
    keyword word
    operand)
  if more.isEmpty then return first
  return make p (first :: more)

def conjunction : Reader Expr := joinedBy limit "and" Expr.conj (inversion limit nested)

def disjunction : Reader Expr := joinedBy limit "or" Expr.disj (conjunction limit nested)

/-- What the parameters read so far allow. -/
structure ParameterState where
  any : Bool := false
  slash : Bool := false
  defaults : Bool := false
  star : Bool := false
  /-- A bare star needs a parameter after it. -/
  open_ : Bool := false

def annotation (annotated : Bool) : Reader Unit := do
  if annotated then
    if ← takesOp ":" then
      let _ ← nested .expression

/-- Parameters of a function, up to a word that ends them. -/
def parameters (annotated : Bool) (ending : String) : Nat → ParameterState → Reader Unit
  | 0, _ => fail
  | n + 1, s => do
    let separated (next : Reader Unit) : Reader Unit := do
      if !(← isOp ending) then op ","
      next
    if ← isOp ending then
      if s.open_ then fail
    else if ← takesOp "**" then
      if s.open_ then fail
      let _ ← name
      annotation nested annotated
      let _ ← takesOp ","
      if !(← isOp ending) then fail
    else if ← takesOp "*" then
      if s.star then fail
      if ← isOp "," then
        skip
        parameters annotated ending n { s with star := true, open_ := true }
      else
        let _ ← name
        if annotated then
          if ← takesOp ":" then
            let _ ← nested .starred
        separated (parameters annotated ending n { s with star := true })
    else if ← takesOp "/" then
      if s.slash || s.star || !s.any then fail
      separated (parameters annotated ending n { s with slash := true })
    else
      let _ ← name
      annotation nested annotated
      let hasDefault ← takesOp "="
      if hasDefault then
        let _ ← nested .expression
      else if s.defaults && !s.star then fail
      separated (parameters annotated ending n
        { s with any := true, defaults := s.defaults || hasDefault, open_ := false })

def lambda : Reader Expr := do
  let p ← here
  keyword "lambda"
  parameters nested false ":" limit {}
  op ":"
  let _ ← nested .expression
  return .forbidden p .lambda

/-- A choice between two expressions, or one of them. -/
def expression : Reader Expr := do
  if ← isKeyword "lambda" then return ← lambda limit nested
  let p ← here
  let e ← disjunction limit nested
  let choice : Reader Expr := do
    keyword "if"
    let test ← disjunction limit nested
    keyword "else"
    return .conditional p test e (← nested .expression)
  choice <|> return e

end
end Grammar
end WireSketch
