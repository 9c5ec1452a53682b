import WireSketch.Value.Slots

/-! The store of mutable containers and of iterators, and programs over it. -/
namespace WireSketch

/-- A position in a container, from which further items are taken. -/
inductive Walk
  | items (xs : Array Value) (next : Nat)
  | list (r : Ref) (next : Nat)
  | listBackward (r : Ref) (left : Nat)
  | range (next step : Int) (left : Nat)
  | dict (r : Ref) (next size : Nat)
  | dictBackward (r : Ref) (left size : Nat)
  | set (r : Ref) (next size : Nat)

/-- Where an iterator takes its items: from a walk of its own or from another iterator. -/
inductive Source
  | own (w : Walk)
  | shared (r : Ref)

inductive Iterator
  | plain (w : Walk)
  | zip (strict : Bool) (sources : List Source)
  | enumerate (source : Source) (count : Int)

inductive Cell
  | list (items : Array Value)
  | dict (d : Dict)
  | set (s : ItemSet)
  | iterator (it : Iterator)

instance : Inhabited Cell := ⟨.list #[]⟩

structure Store where
  cells : Array Cell

namespace Store

def empty : Store := ⟨#[]⟩

instance : Inhabited Store := ⟨empty⟩

end Store

/-- A program over the store; what it changed before a fault stays. -/
abbrev StoreM := EStateM Fault Store

namespace StoreM

def ofExcept {α : Type} : Except Fault α → StoreM α
  | .ok a => pure a
  | .error e => throw e

instance : MonadLift (Except Fault) StoreM := ⟨ofExcept⟩

def alloc (c : Cell) : StoreM Ref := fun
  | ⟨cells⟩ =>
    let r := cells.size
    .ok r ⟨cells.push c⟩

def newList (items : Array Value) : StoreM Value := return .list (← alloc (.list items))

def newDict (d : Dict) : StoreM Value := return .dict (← alloc (.dict d))

def newSet (s : ItemSet) : StoreM Value := return .set (← alloc (.set s.arranged))

def newIterator (kind : IteratorKind) (it : Iterator) : StoreM Value :=
  return .iterator kind (← alloc (.iterator it))

def getList (r : Ref) : StoreM (Array Value) := do
  match (← get).cells[r]? with
  | some (.list items) => return items
  | _ => return #[]

def getDict (r : Ref) : StoreM Dict := do
  match (← get).cells[r]? with
  | some (.dict d) => return d
  | _ => return Table.empty

def getSet (r : Ref) : StoreM ItemSet := do
  match (← get).cells[r]? with
  | some (.set s) => return s
  | _ => return Table.empty

def getIterator (r : Ref) : StoreM Iterator := do
  match (← get).cells[r]? with
  | some (.iterator it) => return it
  | _ => return .plain (.items #[] 0)

def update (r : Ref) (change : Cell → Cell) : StoreM Unit := fun
  | ⟨cells⟩ => .ok () ⟨cells.modify r change⟩

def setList (r : Ref) (items : Array Value) : StoreM Unit := update r fun _ => .list items

def setIterator (r : Ref) (it : Iterator) : StoreM Unit :=
  update r fun
    | .iterator _ => .iterator it
    | c => c

def setItem (r : Ref) (i : Nat) (v : Value) : StoreM Unit :=
  update r fun
    | .list items => .list (items.setIfInBounds i v)
    | c => c

def extendList (r : Ref) (more : Array Value) : StoreM Unit :=
  update r fun
    | .list items => .list (items ++ more)
    | c => c

def setEntry (r : Ref) (key value : Value) : StoreM Unit := do
  let ⟨k, hk⟩ ← Except.attach key.key
  update r fun
    | .dict d => .dict (d.put key value k hk)
    | c => c

end StoreM
end WireSketch
