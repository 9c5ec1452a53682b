import WireSketch.Number.Binary64
import WireSketch.Value.Basic
import WireSketch.Fault

/-! Keys of maps and members of sets: values that compare equal have one canonical text. -/
namespace WireSketch

/-- A result together with the fact that it is the result. -/
def Except.attach {ε α : Type} : (x : Except ε α) → Except ε { a // x = .ok a }
  | .ok a => .ok ⟨a, rfl⟩
  | .error e => .error e

/-- The canonical text of a hashable value. -/
abbrev Key := String

namespace Key

def ofInt (n : Int) : Key := "i" ++ toString n

/-- An integral number has the key of the integer. -/
def ofFloat (x : Float) : Key :=
  if Binary64.isIntegral x then ofInt (Binary64.truncate x) else "f" ++ toString x.toBits.toNat

def ofComplex (re im : Float) : Key :=
  if im == 0 then ofFloat re else "c" ++ ofFloat re ++ "," ++ ofFloat im

/-- Keys in a row, each after its length, so that the row can be taken apart. -/
def row (keys : List Key) : Key :=
  keys.foldl (fun text k => text ++ toString k.length ++ ":" ++ k) ""

/-- Ranges are equal when they hold the same integers. -/
def ofRange (r : IntRange) : Key :=
  match r.length with
  | 0 => "r"
  | 1 => "r" ++ toString r.start
  | n => "r" ++ toString r.start ++ "," ++ toString r.step ++ "," ++ toString n

end Key

namespace Value

/-- The key of a value; a mutable container has none, and the fault names its type. -/
def key : Value → Except Fault Key
  | .none => .ok "none"
  | .bool b => .ok (Key.ofInt (if b then 1 else 0))
  | .int n => .ok (Key.ofInt n)
  | .float x => .ok (Key.ofFloat x)
  | .complex re im => .ok (Key.ofComplex re im)
  | .str s => .ok ("s" ++ s)
  | .bytes b => .ok ("b" ++ String.ofList (b.map fun x => Char.ofNat x.toNat))
  | .ellipsis => .ok "ellipsis"
  | .tuple items => do
    let keys ← items.attach.mapM fun ⟨x, _⟩ => key x
    return "t" ++ Key.row keys.toList
  | .frozenset items => do
    let keys ← items.attach.mapM fun ⟨x, _⟩ => key x
    return "z" ++ Key.row (keys.toList.mergeSort fun a b => a ≤ b)
  | .range r => .ok (Key.ofRange r)
  | .iterator _ r => .ok ("o" ++ toString r)
  | .function (.builtin b) => .ok ("u" ++ b.name)
  | .function (.primitive p) => .ok ("p" ++ p.name)
  | .emptySpec => .ok "E"
  | .directSpec attrs => return "D" ++ (← key attrs)
  | .namedSpec name => return "N" ++ (← key name)
  | .compositeSpec parts => do
    let keys ← parts.attach.mapM fun ⟨x, _⟩ => key x
    return "C" ++ Key.row keys.toList
  | v => .error (.unhashable v.typeName)
termination_by v => sizeOf v
decreasing_by
  all_goals simp_wf
  all_goals first
    | omega
    | (rename_i h; have := Array.sizeOf_lt_of_mem h; omega)

/-- Are two keys of a map the same key? -/
def sameKey : Value → Value → Bool
  | .str a, .str b => a == b
  | a, b =>
    match a.key, b.key with
    | .ok k, .ok l => k == l
    | _, _ => false

end Value
end WireSketch
