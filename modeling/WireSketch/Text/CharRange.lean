/-! Classes of characters: code points in sorted tables, the decimal digits of every script, white space. -/
namespace WireSketch.Text

/-- Among the sorted entries from `lo` to `hi`, the index after the last one whose key is at most `x`. -/
def upperIndex {α : Type} (key : α → Nat) (table : Array α) (x : Nat) : Nat → Nat → Nat → Nat
  | 0, lo, _ => lo
  | fuel + 1, lo, hi =>
    if lo < hi then
      let mid := (lo + hi) / 2
      match table[mid]? with
      | none => lo
      | some entry =>
        if key entry ≤ x then upperIndex key table x fuel (mid + 1) hi
        else upperIndex key table x fuel lo mid
    else lo

/-- The last entry of a sorted table whose key is at most `x`. -/
def floor? {α : Type} (key : α → Nat) (table : Array α) (x : Nat) : Option α :=
  match upperIndex key table x (table.size.log2 + 2) 0 table.size with
  | 0 => none
  | i + 1 => table[i]?

/-- Does a range of a sorted table hold the code point? -/
def inRanges (table : Array (Nat × Nat)) (x : Nat) : Bool :=
  match floor? (·.1) table x with
  | some (_, last) => x ≤ last
  | none => false

/-- The greatest entry that is at most `x`, or one above it if there is none. -/
def floorEntry (table : Array Nat) (x : Nat) : Nat := (floor? id table x).getD (x + 1)

def digitZeros : Array Nat := #[
  48, 1632, 1776, 1984, 2406, 2534, 2662, 2790, 2918, 3046, 3174, 3302, 3430, 3558, 3664, 3792,
  3872, 4160, 4240, 6112, 6160, 6470, 6608, 6784, 6800, 6992, 7088, 7232, 7248, 42528, 43216,
  43264, 43472, 43504, 43600, 44016, 65296, 66720, 68912, 69734, 69872, 69942, 70096, 70384,
  70736, 70864, 71248, 71360, 71472, 71904, 72016, 72784, 73040, 73120, 92768, 92864, 93008,
  120782, 120792, 120802, 120812, 120822, 123200, 123632, 125264, 130032
]

def digitValue? (c : Char) : Option Nat :=
  if c.toNat < 0x80 then if c.isDigit then some (c.toNat - 0x30) else none
  else
    let z := floorEntry digitZeros c.toNat
    if z ≤ c.toNat ∧ c.toNat < z + 10 then some (c.toNat - z) else none

def isDecimalDigit (c : Char) : Bool := (digitValue? c).isSome

/-- Spaces, tabs, line and paragraph ends and the information separators. -/
def isBlank (c : Char) : Bool :=
  let n := c.toNat
  (0x9 ≤ n && n ≤ 0xd) || (0x1c ≤ n && n ≤ 0x20) || n == 0x85 || n == 0xa0 || n == 0x1680 ||
    (0x2000 ≤ n && n ≤ 0x200a) || n == 0x2028 || n == 0x2029 || n == 0x202f || n == 0x205f ||
    n == 0x3000

/-- The items without those at both ends that satisfy `p`. -/
def trimList {α : Type} (p : α → Bool) (l : List α) : List α :=
  ((l.dropWhile p).reverse.dropWhile p).reverse

def trim (s : String) : String := String.ofList (trimList isBlank s.toList)

/-- The text without the characters `c` at its end. -/
def trimEnd (c : Char) (s : String) : String :=
  String.ofList (s.toList.reverse.dropWhile (· == c)).reverse

end WireSketch.Text
