import Std.Data.HashMap
import WireSketch.Value.Key

/-! Tables of entries in the order of first insertion, found by their keys. -/
namespace WireSketch

/-- The index holds the position of each key that an entry has, and no other key. -/
def Indexes {α : Type} (keyOf : α → Value) (entries : Array α) (index : Std.HashMap Key Nat) : Prop :=
  ∀ k i, index[k]? = some i ↔ ∃ x, entries[i]? = some x ∧ (keyOf x).key = .ok k

namespace Indexes

variable {α : Type} {keyOf : α → Value} {entries : Array α} {index : Std.HashMap Key Nat}

theorem empty : Indexes keyOf #[] {} := by
  intro k i
  simp

theorem modify (h : Indexes keyOf entries index) (i : Nat) {change : α → α}
    (hchange : ∀ x, keyOf (change x) = keyOf x) : Indexes keyOf (entries.modify i change) index := by
  intro k j
  rw [h k j, Array.getElem?_modify]
  split
  · simp only [Option.map_eq_some_iff]
    constructor
    · rintro ⟨x, hx, hk⟩
      exact ⟨change x, ⟨x, hx, rfl⟩, hchange x ▸ hk⟩
    · rintro ⟨_, ⟨x, hx, rfl⟩, hk⟩
      exact ⟨x, hx, hchange x ▸ hk⟩
  · exact Iff.rfl

theorem push (h : Indexes keyOf entries index) {x : α} {k : Key} (hk : (keyOf x).key = .ok k)
    (hnew : index[k]? = none) : Indexes keyOf (entries.push x) (index.insert k entries.size) := by
  intro l j
  rw [Std.HashMap.getElem?_insert, Array.getElem?_push]
  by_cases hj : j = entries.size
  · subst hj
    have hlast : index[l]? ≠ some entries.size := fun hl => by
      obtain ⟨y, hy, -⟩ := (h l entries.size).mp hl
      simp at hy
    simp [hk, hlast]
  · rw [if_neg hj, ← h l j]
    by_cases hl : k = l
    · subst hl
      simp [hnew, Ne.symm hj]
    · simp [hl]

end Indexes

/-- Entries in order with an index of their keys, so that no two have one key. -/
structure Table (α : Type) (keyOf : α → Value) where
  entries : Array α
  index : Std.HashMap Key Nat
  indexed : Indexes keyOf entries index

namespace Table

variable {α : Type} {keyOf : α → Value}

def empty : Table α keyOf := ⟨#[], {}, .empty⟩

instance : Inhabited (Table α keyOf) := ⟨empty⟩

def size (t : Table α keyOf) : Nat := t.entries.size

def contains (t : Table α keyOf) (k : Key) : Bool := t.index.contains k

def get? (t : Table α keyOf) (k : Key) : Option α := t.index[k]?.bind (t.entries[·]?)

/-- Changes the entry of a key, or adds one at the end. -/
def upsert (t : Table α keyOf) (change : α → α) (hchange : ∀ x, keyOf (change x) = keyOf x) (fresh : α)
    (k : Key) (hk : (keyOf fresh).key = .ok k) : Table α keyOf :=
  match t with
  | ⟨entries, index, h⟩ =>
    match hfound : index[k]? with
    | some i => ⟨entries.modify i change, index, h.modify i hchange⟩
    | none =>
      let n := entries.size
      ⟨entries.push fresh, index.insert k n, h.push hk hfound⟩

end Table

/-- A map from hashable values, in the order of first insertion. -/
abbrev Dict := Table (Value × Value) Prod.fst

/-- A set of hashable values, in the order of first insertion. -/
abbrev ItemSet := Table Value id

namespace Dict

/-- The key that was inserted first stays. -/
def put (d : Dict) (key value : Value) (k : Key) (hk : key.key = .ok k) : Dict :=
  d.upsert (fun entry => (entry.1, value)) (fun _ => rfl) (key, value) k hk

def set (d : Dict) (key value : Value) : Except Fault Dict := do
  let ⟨k, hk⟩ ← Except.attach key.key
  return d.put key value k hk

def find? (d : Dict) (key : Value) : Except Fault (Option Value) := do
  return (Table.get? d (← key.key)).map (·.2)

def ofPairs (pairs : List (Value × Value)) : Except Fault Dict :=
  pairs.foldlM (fun d (k, v) => set d k v) Table.empty

/-- Adds the entries of the second map; its values win. -/
def merge (a b : Dict) : Except Fault Dict :=
  b.entries.foldlM (fun d (k, v) => set d k v) a

def keys (d : Dict) : Array Value := d.entries.map (·.1)

end Dict

namespace ItemSet

/-- The member that was inserted first stays. -/
def add (s : ItemSet) (x : Value) (k : Key) (hk : x.key = .ok k) : ItemSet :=
  s.upsert id (fun _ => rfl) x k hk

def insert (s : ItemSet) (x : Value) : Except Fault ItemSet := do
  let ⟨k, hk⟩ ← Except.attach x.key
  return s.add x k hk

def has (s : ItemSet) (x : Value) : Except Fault Bool := do
  return s.contains (← x.key)

def ofItems (items : Array Value) : Except Fault ItemSet :=
  items.foldlM insert Table.empty

end ItemSet
end WireSketch
