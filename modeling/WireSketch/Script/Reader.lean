import WireSketch.Script.Token

/-! Readers of words, from which the grammar is put together. -/
namespace WireSketch

/-- A reader takes words from the front, or fails and takes none. -/
abbrev Reader := StateT (List Token) Option

/-- The parts of the grammar that stand inside of others. -/
inductive Goal
  | expression | named | starred | starredNamed | bitOr | inversion | factor | disjunction
  | primary | pattern | block | statements
deriving Repr, DecidableEq

namespace Goal

abbrev Result : Goal → Type
  | pattern => Unit
  | block | statements => List Stmt
  | _ => Expr

end Goal

/-- Readers of all parts, for what is nested one level deeper. -/
abbrev Nested := (g : Goal) → Reader g.Result

namespace Reader

def fail {α : Type} : Reader α := fun _ => none

def peek : Reader TokenKind := fun
  | [] => some (.textEnd, [])
  | t :: ts => some (t.kind, t :: ts)

def here : Reader Place := fun
  | [] => none
  | t :: ts => some (t.place, t :: ts)

def skip : Reader Unit := fun ts => some ((), ts.drop 1)

def isOp (s : String) : Reader Bool := do
  match ← peek with
  | .op t => return s == t
  | _ => return false

def isKeyword (s : String) : Reader Bool := do
  match ← peek with
  | .keyword t => return s == t
  | _ => return false

def takesOp (s : String) : Reader Bool := do
  if ← isOp s then
    skip
    return true
  return false

def takesKeyword (s : String) : Reader Bool := do
  if ← isKeyword s then
    skip
    return true
  return false

def op (s : String) : Reader Unit := do unless ← takesOp s do fail

def keyword (s : String) : Reader Unit := do unless ← takesKeyword s do fail

def name : Reader String := do
  match ← peek with
  | .name s =>
    skip
    return s
  | _ => fail

def word (s : String) : Reader Unit := do if (← name) ≠ s then fail

/-- The end of a line, or the start or end of a block. -/
def mark (k : TokenKind) : Reader Unit := do
  match k, ← peek with
  | .lineEnd, .lineEnd | .indent, .indent | .dedent, .dedent | .textEnd, .textEnd => skip
  | _, _ => fail

/-- Is the next word a name with the given operator after it? -/
def isNameBefore (s : String) : Reader Bool := fun ts =>
  match ts with
  | ⟨.name _, _⟩ :: ⟨.op t, _⟩ :: _ => some (s == t, ts)
  | _ => some (false, ts)

/-- As many as can be read, `limit` at most. -/
def many {α : Type} (limit : Nat) (p : Reader α) : Reader (List α) :=
  match limit with
  | 0 => return []
  | limit + 1 => (do
      let a ← p
      return a :: (← many limit p)) <|> return []

/-- The answer of a reader if it can read, else nothing. -/
def possibly {α : Type} (p : Reader α) : Reader (Option α) := (some <$> p) <|> return none

/-- Items after a separator each, as many as there are. -/
def manyAfter {α : Type} (limit : Nat) (separator : String) (p : Reader α) : Reader (List α) :=
  many limit (do
    op separator
    p)

/-- One item or more with commas between them. -/
def commas {α : Type} (limit : Nat) (p : Reader α) : Reader (List α) := do
  let a ← p
  return a :: (← manyAfter limit "," p)

/-- One item or more with commas, of which one may stand at the end; tells whether it does. -/
def commasEnd {α : Type} (limit : Nat) (p : Reader α) : Reader (List α × Bool) := do
  let xs ← commas limit p
  return (xs, ← takesOp ",")

/-- What a reader would answer; no word is taken. -/
def ahead {α : Type} (p : Reader α) : Reader α := fun ts => (p ts).map fun (a, _) => (a, ts)

/-- The next word does not satisfy a test. -/
def unlessOp (s : String) : Reader Unit := do if ← isOp s then fail

end Reader
end WireSketch
