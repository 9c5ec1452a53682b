import WireSketch.Fit.Measurer
import WireSketch.Text.Lower
import WireSketch.Text.Path

/-! Finding a font for a list of families, with the answers of earlier queries at hand. -/
namespace WireSketch

/-- Font files by directory, and what there is to know of fonts: how they load and how wide they set a text. -/
structure FontLibrary (φ : Type) where
  directories : List (List String)
  /-- The font of a file in a size, or how loading it fails; none if the file cannot be read as a font. -/
  load : String → Int → Option (Except Fault φ)
  /-- The font to fall back on. -/
  default : Except Fault φ
  width : φ → String → Except Fault Float

/-- What earlier queries have found: fonts by families and size, files by name. -/
structure FontCache (φ : Type) where
  fonts : List ((String × Int) × φ) := []
  files : List (String × Option String) := []
  /-- Files that were tried in this query. -/
  tried : List String := []

abbrev FontM (φ : Type) := FitM (FontCache φ)

variable {φ : Type}

/-- Families that stand for several names. -/
def genericFamilies : List (String × List String) :=
  [("sans-serif", ["Helvetica", "Arial", "Liberation Sans", "DejaVu Sans"]),
    ("serif", ["Times New Roman", "Times", "Liberation Serif", "DejaVu Serif"]),
    ("monospace", ["Courier New", "Courier", "Liberation Mono", "DejaVu Sans Mono"])]

def namesOf (family : String) : List String :=
  (genericFamilies.lookup (Text.toLower family)).getD [family]

/-- The letters and digits of ASCII in a name. -/
def plainName (s : String) : String :=
  String.ofList (s.toList.filter fun c => ('a' ≤ c && c ≤ 'z') || c.isDigit)

/-- How well a file fits a plain name: zero when its own name is the same, one when it starts with it. -/
def fileScore? (name file : String) : Option Nat :=
  let own := plainName (Text.toLower (Path.ofString file).stem)
  if own == name || own == name ++ "mt" || own == name ++ "psmt" then some 0
  else if own.startsWith name then some 1
  else none

namespace FontLibrary

def files (l : FontLibrary φ) : List String :=
  l.directories.flatten.filter fun file => file.endsWith ".ttf"

/-- The match after one more file: only one of a better score takes the place of an earlier one. -/
def better (name : String) (best : Option (Nat × String)) (file : String) : Option (Nat × String) :=
  match fileScore? name file, best with
  | none, best => best
  | some score, none => some (score, file)
  | some score, some (least, found) => if score < least then some (score, file) else some (least, found)

/-- The file that matches a name best. -/
def locate? (l : FontLibrary φ) (name : String) : Option String :=
  let name := plainName name
  if name.isEmpty then none
  else (l.files.foldl (better name) none).map fun (_, file) => (Path.ofString file).toString

end FontLibrary

namespace FontM

/-- The file of a name, as an earlier query has found it or else as it is found now. -/
def locate (l : FontLibrary φ) (family : String) : FontM φ (Option String) := do
  let key := Text.toLower family
  match (← FitM.getOwn).files.lookup key with
  | some found => return found
  | none =>
    let found := l.locate? key
    FitM.modifyOwn fun c => { c with files := (key, found) :: c.files }
    return found

/-- The font of the first file that loads. A fault in loading it ends the search. -/
def loadFirst (l : FontLibrary φ) (size : Int) : List String → FontM φ φ
  | [] => (l.default : Except Fault φ)
  | file :: rest => do
    FitM.modifyOwn fun c => { c with tried := c.tried ++ [file] }
    match l.load file size with
    | some font => (font : Except Fault φ)
    | none => loadFirst l size rest

def splitFamilies (s : String) : List String :=
  ((Text.splitAt ',' s).map fun part => withoutQuotes (Text.trim part)).filter (· ≠ "")

/-- The families of a list; a value that counts as false has none. -/
def families (list : Value) : StoreM (List String) := do
  if !(← list.truth) then return []
  match list with
  | .str s => return splitFamilies s
  | .bytes _ => throw (.bytesContent "str")
  | v => throw (.noAttribute v.typeName "split")

/-- The size of a font is whole and positive. -/
def fontSize (size : Value) : Except Fault Int := do
  let n ← (← size.rounded .none).toInt
  return max 1 (n.asInt?.getD 1)

def font (l : FontLibrary φ) (size list : Value) : FontM φ φ := do
  FitM.modifyOwn fun c => { c with tried := [] }
  let size ← (fontSize size : Except Fault Int)
  let families ← families list
  let key := (Text.toLower (",".intercalate families), size)
  match (← FitM.getOwn).fonts.lookup key with
  | some f => return f
  | none =>
    let found ← (families.flatMap namesOf).mapM (locate l)
    let f ← loadFirst l size (found.filterMap id ++ ["DejaVuSans.ttf"])
    FitM.modifyOwn fun c => { c with fonts := (key, f) :: c.fonts }
    return f

/-- The width of a text in the font for a size and a list of families. -/
def measure (l : FontLibrary φ) : Measurer (FontCache φ) := fun text size list => do
  (l.width (← font l size list) text : Except Fault Float)

end FontM
end WireSketch
