import WireSketch.Value.Table

/-!
The order of a set's members: numbers by their slots in a table with open addressing, all others after
them as they were inserted.
-/
namespace WireSketch

/-- Numbers are hashed by their residue modulo this prime, in which halves are integers too. -/
def hashPrime : Nat := Nat.pow 2 61 - 1

/-- The residue with the sign of the number, as a word; minus one gives way to minus two. -/
def signedHash (negative : Bool) (residue : Nat) : Nat :=
  if !negative || residue = 0 then residue
  else if residue = 1 then Nat.pow 2 64 - 2 else Nat.pow 2 64 - residue

def hashInt (n : Int) : Nat := signedHash (n < 0) (n.natAbs % hashPrime)

/-- The hash of a number, which is the same for numbers of equal value. -/
def Value.numberHash? : Value → Option Nat
  | .bool b => some (if b then 1 else 0)
  | .int n => some (hashInt n)
  | .float x =>
    if Binary64.isFinite x then
      let p := Binary64.parts x
      -- Doubling has order 61 modulo the prime.
      let shift := (p.e % 61).toNat
      some (signedHash p.negative (p.m * Nat.pow 2 shift % hashPrime))
    else if x.isNaN then Option.none
    else some (signedHash (x < 0) 314159)
  | _ => Option.none

/-- Members in slots, and how many members there are with those that have none. -/
structure Slots where
  slots : Array (Option (Nat × Value))
  filled : Nat

namespace Slots

def empty : Slots := ⟨Array.replicate 8 none, 0⟩

/-- The slots that are tried in a row if the table reaches that far. -/
def rowLength : Nat := 9

/-- The first free slot: rows of slots from places that depend on ever more of the hash. -/
def freeSlot (slots : Array (Option (Nat × Value))) : Nat → Nat → Nat → Nat
  | 0, i, _ => i
  | fuel + 1, i, rest =>
    let row := if i + rowLength < slots.size then rowLength + 1 else 1
    match (List.range row).find? fun k => (slots[i + k]?.join).isNone with
    | some k => i + k
    | none =>
      let rest := rest / 32
      freeSlot slots fuel ((i * 5 + 1 + rest) % slots.size) rest

def place (slots : Array (Option (Nat × Value))) (member : Nat × Value) :
    Array (Option (Nat × Value)) :=
  let i := freeSlot slots (slots.size + 13) (member.1 % slots.size) member.1
  slots.setIfInBounds i (some member)

/-- The least power of two from eight on that is greater than `n`. -/
def capacityAbove (n : Nat) : Nat := max 8 (Nat.pow 2 (n.log2 + 1))

/-- A table that is filled to three fifths grows to four times its members, a large one to twice. -/
def grown : Slots → Slots
  | ⟨slots, filled⟩ =>
    if filled * 5 < (slots.size - 1) * 3 then ⟨slots, filled⟩
    else
      let capacity := capacityAbove (if filled > 50000 then filled * 2 else filled * 4)
      ⟨(slots.filterMap id).foldl place (Array.replicate capacity none), filled⟩

def insert : Slots → Value → Slots
  | ⟨slots, filled⟩, x =>
    match x.numberHash? with
    | some h => grown ⟨place slots (h, x), filled + 1⟩
    | none => grown ⟨slots, filled + 1⟩

end Slots

/-- Different members in the order of a set. -/
def setOrder (members : Array Value) : Array Value :=
  let table := members.foldl Slots.insert Slots.empty
  table.slots.filterMap (·.map (·.2)) ++ members.filter (·.numberHash?.isNone)

namespace ItemSet

/--
The set with its members in the order of a set that they were inserted into one after another. A set that
was copied from another set as a whole may be in another order.
-/
def arranged (s : ItemSet) : ItemSet :=
  (setOrder s.entries).foldl (fun t x =>
    match Except.attach x.key with
    | .ok ⟨k, hk⟩ => t.add x k hk
    | .error _ => t) Table.empty

end ItemSet
end WireSketch
