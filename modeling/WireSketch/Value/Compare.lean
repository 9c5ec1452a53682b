import WireSketch.Value.Arithmetic
import WireSketch.Value.Iterate

/-! Equality, order, membership and truth of values. -/
namespace WireSketch

inductive CompareOp
  | eq | ne | lt | le | gt | ge | is | isNot | isIn | notIn
deriving Repr, DecidableEq

namespace CompareOp

/-- The operator as messages spell it. -/
def sign : CompareOp → String
  | eq => "==" | ne => "!=" | lt => "<" | le => "<=" | gt => ">" | ge => ">=" | is => "is"
  | isNot => "is not" | isIn => "in" | notIn => "not in"

def ofOrdering (op : CompareOp) (o : Ordering) : Bool :=
  match op, o with
  | lt, .lt | le, .lt | le, .eq | gt, .gt | ge, .gt | ge, .eq => true
  | _, _ => false

end CompareOp

/-- How deep a nested value is followed. -/
def nestingLimit : Nat := 1000

namespace Value

/--
Is it one and the same object? Only what can change is told apart by its place in the store. All other data is one
object when it is alike: nodes, tuples, and numbers that are none, also where two of them were made apart.
-/
def same : Nat → Value → Value → Bool
  | 0, _, _ => false
  | fuel + 1, a, b =>
    match a, b with
    | none, none | ellipsis, ellipsis | emptySpec, emptySpec => true
    | bool a, bool b => a == b
    | int a, int b => a == b
    | float a, float b => a.toBits == b.toBits
    | complex a b, complex c d => a.toBits == c.toBits && b.toBits == d.toBits
    | str a, str b => a == b
    | bytes a, bytes b => a == b
    | range a, range b => a == b
    | function f, function g => f == g
    | list r, list s | dict r, dict s | set r, set s | iterator _ r, iterator _ s => r == s
    | tuple xs, tuple ys | frozenset xs, frozenset ys | compositeSpec xs, compositeSpec ys =>
      xs.size == ys.size && (xs.zip ys).all fun (x, y) => same fuel x y
    | slice a b c, slice d e f => same fuel a d && same fuel b e && same fuel c f
    | directSpec a, directSpec b | namedSpec a, namedSpec b => same fuel a b
    | node m, node n =>
      same fuel m.tag n.tag && m.attrs.length == n.attrs.length &&
        (m.attrs.zip n.attrs).all (fun ((k, v), (l, w)) => same fuel k l && same fuel v w) &&
        m.content.length == n.content.length &&
        (m.content.zip n.content).all fun
          | (.text s, .text t) => s == t
          | (.node m, .node n) => same fuel (.node m) (.node n)
          | (.other v, .other w) => same fuel v w
          | _ => false
    | _, _ => false

def isSame (a b : Value) : Bool := same nestingLimit a b

/-- Do two lists agree item by item under an effectful test? -/
def allEqual (eq : Value → Value → StoreM Bool) : List Value → List Value → StoreM Bool
  | [], [] => return true
  | x :: xs, y :: ys => do
    if ← eq x y then allEqual eq xs ys else return false
  | _, _ => return false

/-- Does a map have equal values at all keys of another one? -/
def sameEntries (eq : Value → Value → StoreM Bool) (d : Dict) : List (Value × Value) → StoreM Bool
  | [] => return true
  | (k, v) :: rest => do
    match ← Dict.find? d k with
    | some w => if ← eq v w then sameEntries eq d rest else return false
    | Option.none => return false

/-- Are the mixed contents of two nodes equal? -/
def sameContent (eq : Value → Value → StoreM Bool) : List Item → List Item → StoreM Bool
  | [], [] => return true
  | .text s :: xs, .text t :: ys => if s == t then sameContent eq xs ys else return false
  | .node m :: xs, .node n :: ys => do
    if ← eq (.node m) (.node n) then sameContent eq xs ys else return false
  | .other v :: xs, .other w :: ys => do
    if ← eq v w then sameContent eq xs ys else return false
  | _, _ => return false

def sameMembers (a b : Array Value) : StoreM Bool := do
  let s ← ItemSet.ofItems a
  let t ← ItemSet.ofItems b
  if s.size ≠ t.size then return false
  a.toList.allM fun x => (ItemSet.has t x : Except Fault Bool)

def members? : Value → StoreM (Option (Array Value))
  | set r => return some (← StoreM.getSet r).entries
  | frozenset items => return some items
  | _ => return Option.none

/-- Equality by value; the same object is equal to itself when it is met inside a container. -/
def equal : Nat → Value → Value → StoreM Bool
  | 0, _, _ => throw (.nesting "in comparison")
  | fuel + 1, a, b => do
    let inner (x y : Value) : StoreM Bool := if x.isSame y then return true else equal fuel x y
    match a.num?, b.num? with
    | some x, some y => return x.equal y
    | _, _ =>
    match a, b with
    | none, none | ellipsis, ellipsis | emptySpec, emptySpec => return true
    | str a, str b => return a == b
    | bytes a, bytes b => return a == b
    | range a, range b => return Key.ofRange a == Key.ofRange b
    | function f, function g => return f == g
    | iterator _ r, iterator _ s => return r == s
    | tuple xs, tuple ys | compositeSpec xs, compositeSpec ys =>
      if xs.size ≠ ys.size then return false
      allEqual inner xs.toList ys.toList
    | list r, list s =>
      let xs ← StoreM.getList r
      let ys ← StoreM.getList s
      if xs.size ≠ ys.size then return false
      allEqual inner xs.toList ys.toList
    | dict r, dict s =>
      let d ← StoreM.getDict r
      let e ← StoreM.getDict s
      if d.size ≠ e.size then return false
      sameEntries inner e d.entries.toList
    | slice a b c, slice d e f => allEqual inner [a, b, c] [d, e, f]
    | directSpec a, directSpec b | namedSpec a, namedSpec b => inner a b
    | node m, node n =>
      unless ← inner m.tag n.tag do return false
      if m.attrs.length ≠ n.attrs.length then return false
      unless ← sameEntries inner (← Dict.ofPairs n.attrs) m.attrs do return false
      sameContent inner m.content n.content
    | a, b =>
      match ← a.members?, ← b.members? with
      | some xs, some ys => sameMembers xs ys
      | _, _ => return false

/-- Equality of two values by themselves. -/
def eq (a b : Value) : StoreM Bool := equal nestingLimit a b

/-- Equality as containers apply it. -/
def eqOrSame (a b : Value) : StoreM Bool := if a.isSame b then return true else eq a b

def firstDifference : List Value → List Value → StoreM (Option (Value × Value))
  | x :: xs, y :: ys => do
    if ← eqOrSame x y then firstDifference xs ys else return some (x, y)
  | _, _ => return Option.none

def orderLengths (op : CompareOp) (m n : Nat) : Bool := op.ofOrdering (compare m n)

def isSubset (a b : Array Value) : StoreM Bool := do
  let t ← ItemSet.ofItems b
  a.toList.allM fun x => (ItemSet.has t x : Except Fault Bool)

/-- The four orders: numbers, texts, byte strings, sequences item by item, sets by inclusion. -/
def ordered (op : CompareOp) : Nat → Value → Value → StoreM Bool
  | 0, _, _ => throw (.nesting "in comparison")
  | fuel + 1, a, b => do
    let sequences (xs ys : Array Value) : StoreM Bool := do
      match ← firstDifference xs.toList ys.toList with
      | some (x, y) => ordered op fuel x y
      | Option.none => return orderLengths op xs.size ys.size
    let refused : StoreM Bool := throw (.notOrdered op.sign a.typeName b.typeName)
    match a.num?, b.num? with
    | some x, some y =>
      if x.isComplex || y.isComplex then refused
      else return match x.order? y with
        | some o => op.ofOrdering o
        | Option.none => false
    | _, _ =>
    match a, b with
    | str a, str b => return op.ofOrdering (compare a b)
    | bytes a, bytes b => return op.ofOrdering (compare a b)
    | tuple xs, tuple ys => sequences xs ys
    | list r, list s => sequences (← StoreM.getList r) (← StoreM.getList s)
    | a, b =>
      match ← a.members?, ← b.members? with
      | some xs, some ys =>
        match op with
        | .lt => if xs.size < ys.size then isSubset xs ys else return false
        | .le => if xs.size ≤ ys.size then isSubset xs ys else return false
        | .gt => if ys.size < xs.size then isSubset ys xs else return false
        | _ => if ys.size ≤ xs.size then isSubset ys xs else return false
      | _, _ => refused

def lessThan (a b : Value) : StoreM Bool := ordered .lt nestingLimit a b

def isInfix (part whole : List Char) : Bool :=
  part.isPrefixOf whole ||
    match whole with
    | [] => false
    | _ :: rest => isInfix part rest

def isInfixOfBytes (part whole : List UInt8) : Bool :=
  part.isPrefixOf whole ||
    match whole with
    | [] => false
    | _ :: rest => isInfixOfBytes part rest

def anyEqual (x : Value) : List Value → StoreM Bool
  | [] => return false
  | y :: ys => do
    if ← eqOrSame y x then return true else anyEqual x ys

/-- Takes items from an iterator until one is equal to `x`. -/
def searchIterator (x : Value) (r : Ref) : Nat → StoreM Bool
  | 0 => return false
  | fuel + 1 => do
    match ← next r with
    | some y => if ← eqOrSame y x then return true else searchIterator x r fuel
    | Option.none => return false

def isMember (x container : Value) : StoreM Bool := do
  match container with
  | str s =>
    match x with
    | str part => return isInfix part.toList s.toList
    | x => throw (.inText x.typeName)
  | bytes b =>
    match x with
    | bytes part => return isInfixOfBytes part b
    | x =>
      match x.asInt? with
      | some n =>
        if n < 0 || n > 255 then throw .byteOutOfRange
        return b.any fun y => (y.toNat : Int) == n
      | Option.none => throw (.bytesContent x.typeName)
  | tuple items => anyEqual x items.toList
  | list r => anyEqual x (← StoreM.getList r).toList
  | range r =>
    match x.asInt? with
    | some n => return (r.indexOf? n).isSome
    | Option.none => anyEqual x r.items.toList
  | dict r =>
    let k ← x.key
    return (← StoreM.getDict r).contains k
  | set _ | frozenset _ =>
    -- A mutable set is looked up by its members.
    let x ← match x with
      | set r => pure (frozenset (← StoreM.getSet r).entries)
      | x => pure x
    let k ← x.key
    match container with
    | set r => return (← StoreM.getSet r).contains k
    | frozenset items => return (← ItemSet.ofItems items).contains k
    | _ => return false
  | iterator _ r => searchIterator x r ((← remaining (r + 1) r) + 1)
  | v => throw (.notContainer v.typeName)

/-- Zero, empty containers and nothing are false, all else is true. -/
def truth (v : Value) : StoreM Bool := do
  match v with
  | none => return false
  | bool b => return b
  | int n => return n != 0
  | float x => return x != 0
  | complex re im => return re != 0 || im != 0
  | str s => return s != ""
  | v =>
    match ← v.length? with
    | some n => return n != 0
    | Option.none => return true

def compareBy (op : CompareOp) (a b : Value) : StoreM Bool := do
  match op with
  | .eq => eq a b
  | .ne => return !(← eq a b)
  | .is => return a.isSame b
  | .isNot => return !a.isSame b
  | .isIn => isMember a b
  | .notIn => return !(← isMember a b)
  | op => ordered op nestingLimit a b

end Value
end WireSketch
