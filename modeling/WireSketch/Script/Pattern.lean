import WireSketch.Script.Expression

/-! The grammar of patterns. Scripts may not match, so that a pattern is only known to be well formed. -/
namespace WireSketch
namespace Grammar

open Reader

section
variable (limit : Nat) (nested : Nested)

def isReal : Value → Bool
  | .int _ | .float _ => true
  | _ => false

def number : Reader Value := do
  match ← peek with
  | .number v => do
    skip
    return v
  | _ => fail

/-- A number with a sign, and the imaginary part of a complex one. -/
def literalNumber : Reader Unit := do
  let _ ← takesOp "-"
  let v ← number
  if (← takesOp "+") || (← takesOp "-") then
    let w ← number
    unless isReal v && !isReal w do fail

def literalPattern : Reader Unit := do
  match ← peek with
  | .number _ | .op "-" => literalNumber
  | .quoted _ =>
    let _ ← quotations limit nested
  | .keyword "None" | .keyword "True" | .keyword "False" => skip
  | _ => fail

def capture : Reader Unit := do
  if (← name) = "_" then fail

def starPattern : Reader Unit := do
  op "*"
  let _ ← name

def starOrPattern : Reader Unit := starPattern <|> nested .pattern

/-- Patterns with commas, up to a closing bracket. -/
def patternsUpTo (close : String) : Reader Unit := do
  if ← takesOp close then return
  let _ ← commasEnd limit (starOrPattern nested)
  op close

/-- A group, or a sequence: a lone pattern without comma is a group, which has no star. -/
def groupPattern : Reader Unit := do
  op "("
  if ← takesOp ")" then return
  let star ← isOp "*"
  match ← commasEnd limit (starOrPattern nested) with
  | ([_], false) => if star then fail
  | _ => pure ()
  op ")"

/-- A name with members after it; tells whether it has any. -/
def dottedPattern : Reader Bool := do
  let _ ← name
  let members ← many limit (do
    op "."
    name)
  return !members.isEmpty

def mappingItem : Reader Unit := do
  literalPattern limit nested <|> (do unless ← dottedPattern limit do fail)
  op ":"
  nested .pattern

def mappingItems : Nat → Reader Unit
  | 0 => fail
  | n + 1 => do
    if ← takesOp "\x7d" then return
    if ← takesOp "**" then
      capture
      let _ ← takesOp ","
      op "\x7d"
    else
      mappingItem limit nested
      if !(← isOp "\x7d") then op ","
      mappingItems n

/-- The arguments of a class; those with keywords come last. -/
def classArguments : Nat → Bool → Reader Unit
  | 0, _ => fail
  | n + 1, keywords => do
    if ← takesOp ")" then return
    let keyword ← isNameBefore "="
    if keyword then
      skip
      skip
    else if keywords then fail
    nested .pattern
    if !(← isOp ")") then op ","
    classArguments n keyword

def namePattern : Reader Unit := do
  if ← isNameBefore "=" then fail
  match ← peek with
  | .name "_" => skip
  | _ =>
    let _ ← dottedPattern limit
    if ← takesOp "(" then classArguments nested limit false

def closedPattern : Reader Unit := do
  match ← peek with
  | .name _ => namePattern limit nested
  | .op "(" => groupPattern limit nested
  | .op "[" => do
    skip
    patternsUpTo limit nested "]"
  | .op "\x7b" => do
    skip
    mappingItems limit nested limit
  | _ => literalPattern limit nested

def pattern : Reader Unit := do
  closedPattern limit nested
  let _ ← manyAfter limit "|" (closedPattern limit nested)
  if ← takesKeyword "as" then capture

/-- The patterns of a case: one, or a sequence without brackets. -/
def casePatterns : Reader Unit := do
  let star ← isOp "*"
  match ← commasEnd limit (starOrPattern nested) with
  | ([_], false) => if star then fail
  | _ => pure ()

end
end Grammar
end WireSketch
