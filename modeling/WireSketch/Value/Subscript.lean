import WireSketch.Value.Compare

/-! Items and slices of sequences, look-up in maps, and assignment to them. -/
namespace WireSketch

/-- The positions that a slice takes from a sequence: first, step and count. -/
structure SliceIndices where
  start : Int
  stop : Int
  step : Int
  count : Nat
deriving Repr, DecidableEq

namespace SliceIndices

/-- A bound counted from the end when negative, and moved into `lo … hi`. -/
def clamp (n length lo hi : Int) : Int :=
  let n := if n < 0 then n + length else n
  max lo (min n hi)

/-- The positions in a sequence of the given length; `step` is not zero. -/
def ofBounds (start stop : Option Int) (step : Int) (length : Nat) : SliceIndices :=
  let n : Int := length
  if 0 < step then
    let a := (start.map (clamp · n 0 n)).getD 0
    let b := (stop.map (clamp · n 0 n)).getD n
    ⟨a, b, step, if a < b then ((b - a - 1).fdiv step + 1).toNat else 0⟩
  else
    let a := (start.map (clamp · n (-1) (n - 1))).getD (n - 1)
    let b := (stop.map (clamp · n (-1) (n - 1))).getD (-1)
    ⟨a, b, step, if b < a then ((a - b - 1).fdiv (-step) + 1).toNat else 0⟩

def positions (s : SliceIndices) : List Nat :=
  (List.range s.count).map fun i : Nat => (s.start + i * s.step).toNat

def select {α : Type} (s : SliceIndices) (xs : Array α) : Array α :=
  if s.step = 1 then xs.extract s.start.toNat (s.start.toNat + s.count)
  else (s.positions.filterMap (xs[·]?)).toArray

end SliceIndices

namespace Value

/-- A bound of a slice: nothing or an integer. -/
def sliceBound : Value → Except Fault (Option Int)
  | none => .ok Option.none
  | v =>
    match v.asInt? with
    | some n => .ok (some n)
    | Option.none => .error .sliceParts

def sliceIndices (start stop step : Value) (length : Nat) : Except Fault SliceIndices := do
  let step := (← sliceBound step).getD 1
  if step = 0 then throw .sliceStepZero
  let start ← sliceBound start
  let stop ← sliceBound stop
  return .ofBounds start stop step length

def fitsWord (n : Int) : Bool := -Int.pow 2 63 ≤ n && n < Int.pow 2 63

/-- A position in a sequence; negative ones count from the end. -/
def position? (n : Int) (length : Nat) : Option Nat :=
  let i := if n < 0 then n + length else n
  if 0 ≤ i ∧ i < length then some i.toNat else Option.none

/-- One item or a slice of a sequence, given how each is taken. -/
def subscriptSequence (length : Nat) (index : Value) (outOfRange : Fault) (badIndex : String → Fault)
    (one : Nat → StoreM Value) (many : SliceIndices → StoreM Value) : StoreM Value := do
  match index with
  | slice a b c => many (← sliceIndices a b c length)
  | index =>
    match index.asInt? with
    | some n =>
      if !fitsWord n then throw (.indexTooLarge index.typeName)
      match position? n length with
      | some i => one i
      | Option.none => throw outOfRange
    | Option.none => throw (badIndex index.typeName)

def subscript (container index : Value) (shown : Value → StoreM String) : StoreM Value := do
  match container with
  | list r =>
    let xs ← StoreM.getList r
    subscriptSequence xs.size index (.indexOutOfRange "list") (.indexType "list")
      (fun i => return xs[i]?.getD none) fun s => StoreM.newList (s.select xs)
  | tuple xs =>
    subscriptSequence xs.size index (.indexOutOfRange "tuple") (.indexType "tuple")
      (fun i => return xs[i]?.getD none) fun s => return tuple (s.select xs)
  | str s =>
    let cs := s.toList.toArray
    subscriptSequence cs.size index (.indexOutOfRange "string") .textIndexType
      (fun i => return str (String.singleton (cs[i]?.getD ' ')))
      fun s => return str (String.ofList (s.select cs).toList)
  | bytes b =>
    let bs := b.toArray
    subscriptSequence bs.size index (.indexOutOfRange "") (.indexType "byte")
      (fun i => return int (bs[i]?.getD 0).toNat) fun s => return bytes (s.select bs).toList
  | range r =>
    match index with
    | slice a b c =>
      let s ← sliceIndices a b c r.length
      return range ⟨r.get s.start, r.get s.stop, r.step * s.step⟩
    | index =>
      match index.asInt? with
      | some n =>
        match position? n r.length with
        | some i => return int (r.get i)
        | Option.none => throw (.indexOutOfRange "range object")
      | Option.none => throw (.indexType "range" index.typeName)
  | dict r =>
    let k ← index.key
    match (← StoreM.getDict r).get? k with
    | some (_, v) => return v
    | Option.none => throw (.missingKey (← shown index))
  | function (.builtin b) =>
    if b.isType then throw (.typeNotSubscriptable b.name)
    throw (.notSubscriptable container.typeName)
  | v => throw (.notSubscriptable v.typeName)

def splice (xs : Array Value) (i j : Nat) (ys : Array Value) : Array Value :=
  xs.extract 0 i ++ ys ++ xs.extract (max i j) xs.size

/-- The items to assign, or the given fault if there are none. -/
def assignedItems (v : Value) (refused : Fault) : StoreM (Array Value) := do
  match v with
  | iterator .. => v.items
  | v =>
    match ← v.sizedItems? with
    | some xs => return xs
    | Option.none => throw refused

/-- Replaces a slice of a list; one with a step keeps its size. -/
def assignSlice (r : Ref) (start stop step v : Value) : StoreM Unit := do
  let s ← sliceIndices start stop step (← StoreM.getList r).size
  if s.step = 1 then
    let ys ← assignedItems v .onlyIterable
    let xs ← StoreM.getList r
    StoreM.setList r (splice xs s.start.toNat (max s.start s.stop).toNat ys)
  else
    let ys ← assignedItems v .onlyIterableExtended
    if ys.size ≠ s.count then throw (.extendedSize ys.size s.count)
    let xs ← StoreM.getList r
    StoreM.setList r <| (s.positions.zip ys.toList).foldl (fun xs (i, y) => xs.setIfInBounds i y) xs

/-- Stores a value at an index or key of a container. -/
def assignItem (container index v : Value) : StoreM Unit := do
  match container with
  | list r =>
    match index with
    | slice a b c => assignSlice r a b c v
    | index =>
      match index.asInt? with
      | some n =>
        if !fitsWord n then throw (.indexTooLarge index.typeName)
        match position? n (← StoreM.getList r).size with
        | some i => StoreM.setItem r i v
        | Option.none => throw .assignmentOutOfRange
      | Option.none => throw (.indexType "list" index.typeName)
  | dict r => StoreM.setEntry r index v
  | c => throw (.noItemAssignment c.typeName)

end Value
end WireSketch
