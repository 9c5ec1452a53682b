import WireSketch.Value.Store

/-! The items of containers, and iterators that take them one by one. -/
namespace WireSketch

namespace Walk

/-- The next item and the position after it; none at the end, which is final. -/
def step : Walk → StoreM (Option Value × Walk)
  | items xs i =>
    match xs[i]? with
    | some x => return (some x, items xs (i + 1))
    | none => return (none, items #[] 0)
  | list r i => do
    match (← StoreM.getList r)[i]? with
    | some x => return (some x, list r (i + 1))
    | none => return (none, items #[] 0)
  | listBackward r n => do
    match n with
    | 0 => return (none, items #[] 0)
    | i + 1 =>
      match (← StoreM.getList r)[i]? with
      | some x => return (some x, listBackward r i)
      | none => return (none, items #[] 0)
  | range n d left =>
    match left with
    | 0 => return (none, range n d 0)
    | k + 1 => return (some (.int n), range (n + d) d k)
  | dict r i size => do
    let d ← StoreM.getDict r
    if d.size ≠ size then throw (.sizeChanged "dictionary")
    match d.entries[i]? with
    | some (k, _) => return (some k, dict r (i + 1) size)
    | none => return (none, items #[] 0)
  | dictBackward r n size => do
    let d ← StoreM.getDict r
    if d.size ≠ size then throw (.sizeChanged "dictionary")
    match n with
    | 0 => return (none, items #[] 0)
    | i + 1 =>
      match d.entries[i]? with
      | some (k, _) => return (some k, dictBackward r i size)
      | none => return (none, items #[] 0)
  | set r i size => do
    let s ← StoreM.getSet r
    if s.size ≠ size then throw (.sizeChanged "Set")
    match s.entries[i]? with
    | some x => return (some x, set r (i + 1) size)
    | none => return (none, items #[] 0)

def left : Walk → StoreM Nat
  | items xs i => return xs.size - i
  | list r i => return (← StoreM.getList r).size - i
  | listBackward _ n | range _ _ n | dictBackward _ n _ => return n
  | dict _ i size | set _ i size => return size - i

end Walk

namespace Source

/-- The next item of a source, given how iterators advance. -/
def step (advance : Ref → StoreM (Option Value)) : Source → StoreM (Option Value × Source)
  | own w => do
    let (x, w) ← w.step
    return (x, own w)
  | shared r => return (← advance r, shared r)

/-- After the first source of a strict zip has ended, every other one has to end too. -/
def checkEnded (advance : Ref → StoreM (Option Value)) (i : Nat) : List Source → StoreM Unit
  | [] => return ()
  | s :: rest => do
    let (x, _) ← s.step advance
    if x.isSome then throw (.zipLonger (i + 1))
    checkEnded advance (i + 1) rest

/-- One item of each source; none as soon as one has ended. -/
def stepAll (advance : Ref → StoreM (Option Value)) (strict : Bool) (i : Nat) :
    List Source → StoreM (Option (List Value) × List Source)
  | [] => return (some [], [])
  | s :: rest => do
    let (x, s') ← s.step advance
    match x with
    | none =>
      if strict then
        if i = 0 then checkEnded advance 1 rest else throw (.zipShorter (i + 1))
      return (none, s' :: rest)
    | some x =>
      let (xs, rest') ← stepAll advance strict (i + 1) rest
      return (xs.map (x :: ·), s' :: rest')

end Source

/-- Takes the next item of an iterator; it draws only from iterators made before it. -/
def advance : Nat → Ref → StoreM (Option Value)
  | 0, _ => return none
  | fuel + 1, r => do
    match ← StoreM.getIterator r with
    | .plain w =>
      let (x, w) ← w.step
      StoreM.setIterator r (.plain w)
      return x
    | .zip strict sources =>
      if sources.isEmpty then return none
      let (xs, sources) ← Source.stepAll (advance fuel) strict 0 sources
      StoreM.setIterator r (.zip strict sources)
      return xs.map fun xs => .tuple xs.toArray
    | .enumerate source n =>
      let (x, source) ← source.step (advance fuel)
      match x with
      | none =>
        StoreM.setIterator r (.enumerate source n)
        return none
      | some x =>
        StoreM.setIterator r (.enumerate source (n + 1))
        return some (.pair (.int n) x)

def next (r : Ref) : StoreM (Option Value) := advance (r + 1) r

/-- An upper bound of the items that an iterator still has. -/
def remaining : Nat → Ref → StoreM Nat
  | 0, _ => return 0
  | fuel + 1, r => do
    match ← StoreM.getIterator r with
    | .plain w => w.left
    | .zip _ [] => return 0
    | .zip _ (.own w :: _) | .enumerate (.own w) _ => w.left
    | .zip _ (.shared s :: _) | .enumerate (.shared s) _ => remaining fuel s

/-- Takes items until the iterator ends, `limit` of them at most. -/
def takeItems (r : Ref) : Nat → Array Value → StoreM (Array Value)
  | 0, taken => return taken
  | limit + 1, taken => do
    match ← next r with
    | some x => takeItems r limit (taken.push x)
    | none => return taken

namespace Value

def characters (s : String) : Array Value := (s.toList.map fun c => str (String.singleton c)).toArray

def byteItems (b : List UInt8) : Array Value := (b.map fun x => int x.toNat).toArray

/-- The items of a container that has a length, as the store is now. -/
def sizedItems? : Value → StoreM (Option (Array Value))
  | str s => return some (characters s)
  | bytes b => return some (byteItems b)
  | tuple items | frozenset items => return some items
  | range r => return some r.items
  | list r => return some (← StoreM.getList r)
  | dict r => return some (Dict.keys (← StoreM.getDict r))
  | set r => return some (← StoreM.getSet r).entries
  | _ => return Option.none

/-- All items of an iterable; an iterator is walked to its end. -/
def items (v : Value) : StoreM (Array Value) := do
  match v with
  | iterator _ r => takeItems r ((← remaining (r + 1) r) + 1) #[]
  | v =>
    match ← v.sizedItems? with
    | some xs => return xs
    | Option.none => throw (.notIterable v.typeName)

/-- The first items of an iterable, `limit` at most; an iterator keeps the others. -/
def firstItems (limit : Nat) (v : Value) : StoreM (Array Value) := do
  match v with
  | iterator _ r => takeItems r limit #[]
  | v => return (← v.items).extract 0 limit

def length? : Value → StoreM (Option Nat)
  | str s => return some s.length
  | bytes b => return some b.length
  | tuple items | frozenset items => return some items.size
  | range r => return some r.length
  | list r => return some (← StoreM.getList r).size
  | dict r => return some (← StoreM.getDict r).size
  | set r => return some (← StoreM.getSet r).size
  | _ => return Option.none

def source (v : Value) : StoreM Source := do
  match v with
  | iterator _ r => return .shared r
  | list r => return .own (.list r 0)
  | dict r => return .own (.dict r 0 (← StoreM.getDict r).size)
  | set r => return .own (.set r 0 (← StoreM.getSet r).size)
  | range r => return .own (.range r.start r.step r.length)
  | v => return .own (.items (← v.items) 0)

end Value
end WireSketch
