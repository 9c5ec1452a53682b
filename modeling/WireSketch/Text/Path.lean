/-!
Texts in parts between separators, and paths of files: components between slashes, the last one's suffix, and the
text of a path.
-/
namespace WireSketch

/-- The parts of a text between the separators in it. -/
def Text.splitAt (sep : Char) (s : String) : List String := (s.toList.splitOn sep).map String.ofList

/-- The slashes in front of an absolute path, and the components without empty ones and single dots. -/
structure Path where
  root : String
  parts : List String
deriving Repr, DecidableEq

namespace Path

/-- Two slashes in front stay, more count as one. -/
def rootOf (s : String) : String :=
  match s.toList with
  | '/' :: '/' :: '/' :: _ => "/"
  | '/' :: '/' :: _ => "//"
  | '/' :: _ => "/"
  | _ => ""

def ofString (s : String) : Path :=
  ⟨rootOf s, (Text.splitAt '/' s).filter fun part => part ≠ "" && part ≠ "."⟩

/-- The path of no components is a dot. -/
def toString (p : Path) : String :=
  let text := p.root ++ "/".intercalate p.parts
  if text.isEmpty then "." else text

def name (p : Path) : String := p.parts.getLastD ""

/-- The characters of a name up to its last dot, and from there on; a dot at either end splits nothing. -/
def splitSuffix (name : String) : List Char × List Char :=
  let cs := name.toList
  let after := (cs.reverse.takeWhile (· ≠ '.')).reverse
  let n := cs.length - after.length - 1
  if after.length < cs.length ∧ 0 < n ∧ !after.isEmpty then (cs.take n, cs.drop n) else (cs, [])

def stem (p : Path) : String := String.ofList (splitSuffix p.name).1

def withSuffix (suffix : String) (p : Path) : Path :=
  { p with parts := p.parts.dropLast ++ [p.stem ++ suffix] }

end Path
end WireSketch
