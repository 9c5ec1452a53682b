import WireSketch.Value.Compare

/-! Stable sorting by an order that may fail. -/
namespace WireSketch.Sorting

variable {α : Type} (less : α → α → StoreM Bool)

/-- How many items go on with a run: each below the one before it, or each not below it. -/
def runLength (down : Bool) : α → List α → Nat → StoreM Nat
  | _, [], n => return n
  | before, x :: rest, n => do
    if (← less x before) == down then runLength down x rest (n + 1) else return n

/-- The items with the run at their start in ascending order, and its length. -/
def leadingRun (xs : List α) : StoreM (List α × Nat) := do
  match xs with
  | x :: y :: rest =>
    let down ← less y x
    let n ← runLength less down y rest 2
    return (if down then ((xs.take n).reverse ++ xs.drop n, n) else (xs, n))
  | xs => return (xs, xs.length)

/-- The place of an item in a sorted array, after all that are not above it. -/
def insertionPlace (x : α) (xs : Array α) : Nat → Nat → Nat → StoreM Nat
  | 0, l, _ => return l
  | fuel + 1, l, r => do
    if l ≥ r then return l
    let m := l + (r - l) / 2
    match xs[m]? with
    | none => return l
    | some y => if ← less x y then insertionPlace x xs fuel l m else insertionPlace x xs fuel (m + 1) r

def insertAll : Array α → List α → StoreM (Array α)
  | done, [] => return done
  | done, x :: rest => do
    let i ← insertionPlace less x done (done.size + 1) 0 done.size
    insertAll (done.extract 0 i ++ #[x] ++ done.extract i done.size) rest

/-- Two sorted lists as one; of two equal items that of the first list stands first. -/
def merge : List α → List α → Array α → StoreM (Array α)
  | [], ys, done => return done ++ ys
  | xs, [], done => return done ++ xs
  | x :: xs, y :: ys, done => do
    if ← less y x then merge (x :: xs) ys (done.push y) else merge xs (y :: ys) (done.push x)
termination_by xs ys => xs.length + ys.length

/-- Fewer items than this are put in place one by one. -/
def smallSize : Nat := 64

def sortIn : Nat → List α → StoreM (Array α)
  | 0, xs => insertAll less #[] xs
  | fuel + 1, xs => do
    let (xs, n) ← leadingRun less xs
    if n = xs.length then return xs.toArray
    if xs.length < smallSize then insertAll less (xs.take n).toArray (xs.drop n)
    else
      let half := xs.length / 2
      let a ← sortIn fuel (xs.take half)
      let b ← sortIn fuel (xs.drop half)
      merge less a.toList b.toList #[]

def sort (xs : Array α) : StoreM (Array α) := sortIn less (xs.size.log2 + 1) xs.toList

/-- Sorts downwards; equal items keep their order. -/
def sortDown (xs : Array α) : StoreM (Array α) := return (← sort less xs.reverse).reverse

end WireSketch.Sorting
