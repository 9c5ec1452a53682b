import WireSketch.Fit.Measurer
import WireSketch.Number.Written
import WireSketch.Text.Path
import WireSketch.Text.Quoted

/-! Files as a command meets them: where they can be read and written, faults, and a tree of files in memory. -/
namespace WireSketch.Command

/-- Why a file cannot be read or written: the number of the fault and its words. -/
structure FileFault where
  number : Nat
  words : String
deriving Repr, DecidableEq

namespace FileFault

def notFound : FileFault := ⟨2, "No such file or directory"⟩

def notDirectory : FileFault := ⟨20, "Not a directory"⟩

def isDirectory : FileFault := ⟨21, "Is a directory"⟩

def nameTooLong : FileFault := ⟨36, "File name too long"⟩

def message (f : FileFault) (path : String) : String :=
  s!"[Errno {f.number}] {f.words}: {Text.quote path}"

end FileFault

/-- Where no pictures are drawn a picture is handed on as its scale and its document. -/
def picture (scale : Float) (document : String) : ByteArray :=
  s!"PNG scale={NumberStyle.default.write scale}\n{document}".toUTF8

/-- What measures texts, and the state it starts from. -/
structure Gauge where
  State : Type
  start : State
  measure : Measurer State

/-- The surroundings of a command: its standard input and output, the files, and what draws pictures and
measures texts. -/
structure Host (m : Type → Type) where
  isTerminal : m Bool
  readInput : m ByteArray
  readFile : String → m (Except FileFault ByteArray)
  writeFile : String → ByteArray → m (Except FileFault Unit)
  gauge : Gauge
  /-- The bytes of a text on standard output, or the words of a failure: its encoding need not have all
  characters. -/
  encode : String → Except String ByteArray := fun text => .ok text.toUTF8
  /-- The picture of a document at a scale, or the words of a failure. -/
  draw : Float → String → Except String ByteArray := fun scale document => .ok (picture scale document)

structure FileTree where
  files : List (Path × ByteArray) := []
  directories : List Path := []

namespace FileTree

/-- What a path leads to. -/
inductive Place
  | file (p : Path)
  | directory (p : Path)
  /-- Nothing, but it stands in a directory. -/
  | free (p : Path)

/-- The directory around a directory; above the working directory another tree begins. -/
def above (p : Path) : Path :=
  if p.parts.isEmpty then
    if p.root.startsWith "/" then p else { p with root := p.root ++ "../" }
  else { p with parts := p.parts.dropLast }

def maxName : Nat := 255

def maxPath : Nat := 4095

/-- One component of a path in a directory. -/
def enter (t : FileTree) (p : Path) (name : String) : Except FileFault Place :=
  if name = ".." then .ok (.directory (above p))
  else if name.utf8ByteSize > maxName then .error .nameTooLong
  else
    let q : Path := { p with parts := p.parts ++ [name] }
    if t.directories.contains q then .ok (.directory q)
    else if (t.files.lookup q).isSome then .ok (.file q)
    else .ok (.free q)

/-- Follows a path from a place. -/
def follow (t : FileTree) : Place → List String → Except FileFault Place
  | place, [] => .ok place
  | .directory p, name :: rest => do follow t (← t.enter p name) rest
  | .file _, _ :: _ => .error .notDirectory
  | .free _, _ :: _ => .error .notFound

def find (t : FileTree) (path : String) : Except FileFault Place :=
  if path.utf8ByteSize > maxPath then .error .nameTooLong
  else
    let p := Path.ofString path
    t.follow (.directory { p with parts := [] }) p.parts

def read (t : FileTree) (path : String) : Except FileFault ByteArray := do
  match ← t.find path with
  | .file p => return (t.files.lookup p).getD .empty
  | .directory _ => throw .isDirectory
  | .free _ => throw .notFound

/-- The tree with a file of this content; a new file stands at the end. -/
def put (t : FileTree) (p : Path) (content : ByteArray) : FileTree :=
  if (t.files.lookup p).isSome then
    { t with files := t.files.map fun (q, old) => (q, if q = p then content else old) }
  else { t with files := t.files ++ [(p, content)] }

def write (t : FileTree) (path : String) (content : ByteArray) : Except FileFault FileTree := do
  match ← t.find path with
  | .file p | .free p => return t.put p content
  | .directory _ => throw .isDirectory

def around (p : Path) : List Path :=
  (List.range p.parts.length).map fun n => { p with parts := p.parts.take n }

def addDirectory (t : FileTree) (path : String) : FileTree :=
  let p := Path.ofString path
  { t with directories := t.directories ++ around p ++ [p] }

def addFile (t : FileTree) (path : String) (content : ByteArray) : FileTree :=
  let p := Path.ofString path
  { t.put p content with directories := t.directories ++ around p }

end FileTree

/-- Surroundings whose files are in memory. -/
def memoryHost (input : ByteArray) (terminal : Bool) (gauge : Gauge) : Host (StateM FileTree) where
  isTerminal := return terminal
  readInput := return input
  gauge
  readFile path := return (← get).read path
  writeFile path content := do
    match (← get).write path content with
    | .ok t =>
      set t
      return .ok ()
    | .error f => return .error f

end WireSketch.Command
