import WireSketch.Script.Session

/-! Limits on what operators of a script compute, checked before they compute it. -/
namespace WireSketch

namespace ScriptM

/-- A limit whose message shows an integer, which has to have a text. -/
def exceeds {α : Type} (n : Int) (r : ScriptReason) : ScriptM α := do
  let _ ← (Value.intText n : Except Fault String)
  failInLine r

def checkLength (length : Int) : ScriptM Unit := do
  if length > maxSequenceLength then exceeds length (.lengthLimit length)

def checkBits (bits : Int) : ScriptM Unit := do
  if bits > maxIntBits then exceeds bits (.bitLimit bits)

end ScriptM

namespace Value

def sequenceLength? : Value → StoreM (Option Nat)
  | str s => return some s.length
  | list r => return some (← StoreM.getList r).size
  | tuple items => return some items.size
  | _ => return Option.none

/-- The length of a container, where a machine word has to hold it. -/
def sizedLength? (v : Value) : StoreM (Option Nat) := do
  let n ← v.length?
  if n.any (· ≥ Nat.pow 2 63) then throw (.wordTooLarge "C ssize_t")
  return n

end Value

namespace BinaryOp

open ScriptM (checkLength checkBits exceeds)

/-- The product of a sequence and a count is limited by its length. -/
def checkRepeat (sequence count : Value) : ScriptM Unit := do
  match ← sequence.sequenceLength?, count.asInt? with
  | some n, some k => checkLength (n * k)
  | _, _ => return

/-- Is an exponent too large, whatever its kind? -/
def isLargeExponent : Value → Bool
  | .float x => x.abs > Float.ofNat maxExponent
  | v => v.asInt?.any fun n => n.natAbs > maxExponent

def checkExponent (exponent : Value) : ScriptM Unit := do
  if isLargeExponent exponent then
    ScriptM.failInLine (.exponentLimit (← (exponent.plain : StoreM String)))

def checkPower (left right : Value) : ScriptM Unit :=
  match left.asInt?, right.asInt? with
  | some a, some n => if n > 0 then checkBits (bitLength a * n) else return
  | _, _ => return

def checkShift (left right : Value) : ScriptM Unit :=
  match right.asInt? with
  | none => return
  | some n =>
    if n > maxShift then exceeds n (.shiftLimit n)
    else match left.asInt? with
      | some a => if n > 0 then checkBits (bitLength a + n) else return
      | none => return

def checkProduct (left right : Value) : ScriptM Unit :=
  match left.asInt?, right.asInt? with
  | some a, some b => checkBits (bitLength a + bitLength b)
  | _, _ => return

def checkSum (left right : Value) : ScriptM Unit := do
  match ← left.sequenceLength?, ← right.sequenceLength? with
  | some m, some n => checkLength (m + n)
  | _, _ => return

def guard (op : BinaryOp) (left right : Value) : ScriptM Unit := do
  match op with
  | .matMul => ScriptM.failInLine (.forbiddenOperator "MatMult")
  | .pow =>
    checkExponent right
    checkPower left right
  | .shiftLeft => checkShift left right
  | .mul =>
    checkProduct left right
    checkRepeat left right
    checkRepeat right left
  | .add => checkSum left right
  | _ => return

/-- The operator under the limits of scripts. -/
def guarded (op : BinaryOp) (left right : Value) : ScriptM Value := do
  op.guard left right
  Value.binary op left right

end BinaryOp
end WireSketch
