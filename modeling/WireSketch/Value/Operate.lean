import WireSketch.Format.Template

/-! Unary and binary operators on values of all types. -/
namespace WireSketch

inductive UnaryOp
  | plus | minus | not | invert
deriving Repr, DecidableEq

namespace Value

def refuse {α : Type} (sign : String) (a b : Value) : StoreM α :=
  throw (.operands sign a.typeName b.typeName)

def repeatList {α : Type} (n : Nat) (xs : List α) : List α :=
  if xs.isEmpty then [] else (List.replicate n xs).flatten

def repeatArray {α : Type} (n : Nat) (xs : Array α) : Array α :=
  if xs.isEmpty then #[]
  else n.fold (fun _ _ acc => acc ++ xs) (Array.emptyWithCapacity (n * xs.size))

def isRepeatable : Value → Bool
  | str _ | bytes _ | tuple _ | list _ => true
  | _ => false

/-- Refuses a sequence of this length that would not fit in memory. -/
def checkRepeated (sequence : Value) (length : Nat) : Except Fault Unit :=
  if length < Nat.pow 2 63 then Fault.checkLength length
  else match sequence with
    | str _ => .error (.repeatedTooLong "string is")
    | bytes _ => .error (.repeatedTooLong "bytes are")
    | _ => .error .outOfMemory

/-- A sequence a number of times over; a negative count gives the empty one. -/
def repeated (sequence count : Value) : StoreM Value := do
  match count.asInt? with
  | Option.none => throw (.repetition count.typeName)
  | some n =>
    if !fitsWord n then throw (.countTooLarge count.typeName)
    let n := n.toNat
    match sequence with
    | str s => do
      checkRepeated sequence (n * s.length)
      return str (String.ofList (repeatList n s.toList))
    | bytes b => do
      checkRepeated sequence (n * b.length)
      return bytes (repeatList n b)
    | tuple xs => do
      checkRepeated sequence (n * xs.size)
      return tuple (repeatArray n xs)
    | list r => do
      let xs ← StoreM.getList r
      checkRepeated sequence (n * xs.size)
      StoreM.newList (repeatArray n xs)
    | v => refuse "*" v count

/-- A sequence followed by another one of the same type. -/
def concatenated (a b : Value) : StoreM Value := do
  match a, b with
  | str s, str t => return str (s ++ t)
  | bytes s, bytes t => return bytes (s ++ t)
  | tuple xs, tuple ys => return tuple (xs ++ ys)
  | list r, list s =>
    let xs ← StoreM.getList r
    StoreM.newList (xs ++ (← StoreM.getList s))
  | bytes _, b => throw (.bytesConcatenation b.typeName)
  | str _, b | tuple _, b | list _, b => throw (.concatenation a.typeName b.typeName)
  | a, b => refuse "+" a b

/-- A set with the given members, of the kind of `like`. -/
def setLike (like : Value) (s : ItemSet) : StoreM Value :=
  match like with
  | frozenset _ => return frozenset s.arranged.entries
  | _ => StoreM.newSet s

def setOperation (op : BinaryOp) (xs ys : Array Value) : Except Fault (Option ItemSet) := do
  let s ← ItemSet.ofItems xs
  let t ← ItemSet.ofItems ys
  let outside (xs : Array Value) (t : ItemSet) : Except Fault (Array Value) :=
    xs.filterM fun x => return !(← ItemSet.has t x)
  match op with
  | .bitOr => return some (← ys.foldlM ItemSet.insert s)
  | .bitAnd =>
    -- The members are those of the smaller set.
    let common ← if xs.size < ys.size then xs.filterM fun x => ItemSet.has t x
      else ys.filterM fun y => ItemSet.has s y
    return some (← ItemSet.ofItems common)
  | .sub => return some (← ItemSet.ofItems (← outside xs t))
  | .bitXor =>
    let only ← ItemSet.ofItems (← outside ys s)
    return some (← (← outside xs t).foldlM ItemSet.insert only)
  | _ => return Option.none

/-- An operator applied to two values; `sign` is how messages spell it. -/
def binaryAs (sign : String) (op : BinaryOp) (a b : Value) : StoreM Value := do
  match a.num?, b.num? with
  | some x, some y =>
    match a, b, op with
    | bool p, bool q, .bitAnd => return bool (p && q)
    | bool p, bool q, .bitOr => return bool (p || q)
    | bool p, bool q, .bitXor => return bool (p != q)
    | _, _, _ =>
      match ← x.op op y with
      | some r => return r.toValue
      | Option.none => refuse sign a b
  | _, _ =>
    match op with
    | .add => match a with
      | str _ | bytes _ | tuple _ | list _ => concatenated a b
      | a => refuse sign a b
    | .mul =>
      if a.isRepeatable then repeated a b
      else if b.isRepeatable then repeated b a
      else refuse sign a b
    | .mod => match a with
      | str template => Template.run .text template.toList b
      | bytes template => Template.run .bytes (byteChars template) b
      | a => refuse sign a b
    | .bitOr => match a, b with
      | dict r, dict s =>
        let d ← StoreM.getDict r
        StoreM.newDict (← (Dict.merge d (← StoreM.getDict s) : Except Fault Dict))
      | a, b => ofSets a b
    | .bitAnd | .bitXor | .sub => ofSets a b
    | _ => refuse sign a b
where
  ofSets (a b : Value) : StoreM Value := do
    match ← a.members?, ← b.members? with
    | some xs, some ys =>
      match ← (setOperation op xs ys : Except Fault (Option ItemSet)) with
      | some s => setLike a s
      | Option.none => refuse sign a b
    | _, _ => refuse sign a b

def binary (op : BinaryOp) (a b : Value) : StoreM Value := binaryAs op.sign op a b

def add (a b : Value) : StoreM Value := binary .add a b
def sub (a b : Value) : StoreM Value := binary .sub a b
def mul (a b : Value) : StoreM Value := binary .mul a b
def div (a b : Value) : StoreM Value := binary .div a b

/-- Addition into a variable: a list takes the items of any iterable in place. -/
def addInto (a b : Value) : StoreM Value := do
  match a with
  | list r =>
    let ys ← b.items
    StoreM.extendList r ys
    return a
  | a => binaryAs "+=" .add a b

def negated : Num → Num
  | .int n => .int (-n)
  | .float x => .float (-x)
  | .complex re im => .complex (-re) (-im)

def unary (op : UnaryOp) (v : Value) : StoreM Value := do
  match op with
  | .not => return bool (!(← v.truth))
  | .plus => match v.num? with
    | some n => return n.toValue
    | Option.none => throw (.unaryOperand "+" v.typeName)
  | .minus => match v.num? with
    | some n => return (negated n).toValue
    | Option.none => throw (.unaryOperand "-" v.typeName)
  | .invert => match v.asInt? with
    | some n => return int (Bits.not n)
    | Option.none => throw (.unaryOperand "~" v.typeName)

end Value
end WireSketch
