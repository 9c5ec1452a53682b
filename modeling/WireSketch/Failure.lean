import WireSketch.Fault

/-! How drawing and scripts fail: faults of values, refused drawing arguments, and errors of a script. -/
namespace WireSketch

/-- Arguments that a drawing function refuses; shown values are quoted. -/
inductive DiagramError
  | badSpec (shown : String)
  | unknownStyle (key : String)
  | badStyleName (shown : String)
  | badStyleMap (shown : String)
  | notWhole (shown : String)
  | badLabel (shown : String)
  | missingHeader (index labels : Nat) (perRow : String)
deriving Repr, DecidableEq

namespace DiagramError

def message : DiagramError → String
  | badSpec v => s!"Invalid attribute spec: {v}"
  | unknownStyle k => s!"Could not resolve attribute spec: {k}"
  | badStyleName v => s!"first argument to register_attrs must be a symbolic name, received: {v}"
  | badStyleMap v => s!"second argument to register_attrs must be a dict, received: {v}"
  | notWhole v => s!"hex labels need a whole number, received: {v}"
  | badLabel v => s!"Don't know how to format box label: {v}"
  | missingHeader i n perRow =>
    s!"column header {i} is missing: {n} labels given for {perRow} boxes per row"

def code : DiagramError → String
  | badSpec _ => "E_ATTR_SPEC"
  | unknownStyle _ => "E_ATTR_NAME"
  | badStyleName _ | badStyleMap _ => "E_ATTR_REGISTER"
  | notWhole _ | badLabel _ => "E_LABEL_TYPE"
  | missingHeader .. => "E_HEADER_INDEX"

end DiagramError

/-- The most items of a sequence that a script builds or walks. -/
def maxSequenceLength : Nat := 100000

def maxExponent : Nat := 64

def maxShift : Nat := 1024

def maxIntBits : Nat := 4096

inductive ScriptReason
  | malformed
  | undefinedName (shown : String)
  | privateName (shown : String)
  | rebinding (shown : String)
  | forbidden (construct : String)
  | forbiddenOperator (name : String)
  | notCallable (shown : String)
  | exponentLimit (shown : String)
  | shiftLimit (shift : Int)
  | lengthLimit (length : Int)
  | bitLimit (bits : Int)
  | loopLimit (length : Nat)
  | longLoop
  | unpacking (values names : Nat)
  | stepLimit (limit : Int)
  | strayJump
  | rangeLimit (length : Nat)
  | formatLimit (field : String) (n : Nat)
  | fault (f : Fault)
deriving Repr, DecidableEq

namespace ScriptReason

def message : ScriptReason → String
  | malformed => "invalid script syntax"
  | undefinedName n => s!"name {n} is not defined"
  | privateName n => s!"name {n} is not allowed"
  | rebinding n => s!"cannot rebind built-in name {n}"
  | forbidden c => s!"{c} is not allowed in diagram scripts"
  | forbiddenOperator o => s!"operator {o} is not allowed"
  | notCallable v => s!"{v} is not callable"
  | exponentLimit v => s!"exponent {v} exceeds limit of {maxExponent}"
  | shiftLimit n => s!"shift of {n} bits exceeds limit of {maxShift}"
  | lengthLimit n => s!"result of {n} items exceeds limit of {maxSequenceLength}"
  | bitLimit n => s!"integer result of about {n} bits exceeds limit of {maxIntBits}"
  | loopLimit n => s!"loop over {n} items exceeds limit"
  | longLoop => s!"loop over more than {maxSequenceLength} items exceeds limit"
  | unpacking n k => s!"cannot unpack {n} values into {k} names"
  | stepLimit n => s!"script exceeded the limit of {n} evaluation steps"
  | strayJump => "break or continue outside of a loop"
  | rangeLimit n => s!"range of {n} items exceeds limit of {maxSequenceLength}"
  | formatLimit field n => s!"format {field} {n} exceeds limit of {maxSequenceLength}"
  | fault f => s!"{f.faultClass.name}: {f.message}"

end ScriptReason

/-- An error of a script; the place is given as far as it is known. -/
structure ScriptError where
  reason : ScriptReason
  line : Option Nat := none
  column : Option Nat := none
deriving Repr, DecidableEq

namespace ScriptError

/-- The message ends in the place when the line is known. -/
def message (e : ScriptError) : String :=
  match e.line with
  | none => e.reason.message
  | some l =>
    let column := (e.column.map toString).getD "None"
    s!"{e.reason.message} (line {l}, column {column})"

end ScriptError

inductive Failure
  | fault (f : Fault)
  | diagram (e : DiagramError)
  | script (e : ScriptError)
deriving Repr, DecidableEq

namespace Failure

def message : Failure → String
  | fault f => f.message
  | diagram e => e.message
  | script e => e.message

end Failure
end WireSketch
