import WireSketch.Command.Cheatsheet
import WireSketch.Command.Problem
import WireSketch.Command.Request
import WireSketch.Script.Run
import WireSketch.Xml.Reader

/-! Running a command: reading the source, making the document, writing it, and reporting what fails. -/
namespace WireSketch.Command

/-- What a command leaves behind besides files. -/
structure Reply where
  status : Nat := 0
  output : ByteArray := .empty
  errors : String := ""
  /-- The problem, if its details are asked for. -/
  details : Option Problem := none
  /-- The command line ends the run before any command is looked at. -/
  early : Bool := false

/-- Steps of a command on a host: they fail with a problem, and warnings stay in either case. -/
abbrev CommandM (m : Type → Type) := ExceptT Problem (StateT String m)

/-- The text that a job reads, the name of its source in messages, and its file. -/
structure Source where
  text : String
  name : String
  path : Option Path := none

variable {m : Type → Type} [Monad m]

def decoded (name : String) (given : Option String) (bytes : ByteArray) : Except Problem String :=
  match Text.decodeUtf8 bytes.toList with
  | .ok s => .ok s
  | .error e => .error (.inputNotText name given e)

def readFile (host : Host m) (given : String) : CommandM m Source := do
  if given.toList.contains '\x00' then throw .nullInPath
  let path := Path.ofString given
  let name := path.toString
  match ← host.readFile name with
  | .ok bytes => return ⟨← decoded name (some given) bytes, name, some path⟩
  | .error f =>
    if f = .notFound then throw (.inputNotFound name given)
    else throw (.inputUnreadable name given f)

/-- Reads standard input, which may not be blank. -/
def readInput (host : Host m) : CommandM m Source := do
  if ← host.isTerminal then throw .noInput
  let text ← decoded "<stdin>" none (← host.readInput)
  if text.toList.all Text.isBlank then throw .emptyInput
  return { text, name := "<stdin>" }

/-- Reads the source of a job; none if its text has no value. -/
def readSource (host : Host m) (job : Job) : CommandM m (Option Source) := do
  match job.input, job.text with
  | some _, some _ => throw .twoInputs
  | none, some (.value text) => return some { text, name := "<text>" }
  | none, some _ => return none
  | some given, none => readFile host given
  | none, none => readInput host

/-- The file for the result: the one asked for, or one beside the input; none is standard output. -/
def outputPath (job : Job) (input : Option Path) (suffix : String) : Except Problem (Option Path) :=
  match job.output with
  | some s => if job.toStdout then .error .twoOutputs else .ok (some (.ofString s))
  | none => .ok (if job.toStdout then none else input.map (·.withSuffix suffix))

/-- A text as standard output takes it. -/
def printed (host : Host m) (text : String) : Except Problem ByteArray :=
  match host.encode text with
  | .ok bytes => .ok bytes
  | .error words => .error (.unprintable words)

def announcement (path : Path) : String := s!"Wrote {path.toString}\n"

/-- Writes a file and tells so. When its name cannot be printed the file is there all the same. -/
def writeFile (host : Host m) (path : Path) (content : ByteArray) : CommandM m ByteArray := do
  let name := path.toString
  if name.toList.contains '\x00' then throw .nullInPath
  match ← host.writeFile name content with
  | .ok () => printed host (announcement path)
  | .error f => throw (.outputUnwritable name f)

def warning (f : LabelFit) : StoreM String := do
  let width ← (Value.float f.width).format ".1f"
  let available ← f.available.format ".1f"
  let label := Text.quote f.text
  return s!"warning[W_LABEL_FIT]: label {label} is {width}px wide but its box is {available}px\n"

/-- The warnings about all labels up to the first that fails. -/
def warnings : List LabelFit → Store → String × Except Fault Store
  | [], s => ("", .ok s)
  | f :: rest, s =>
    match warning f s with
    | .error e _ => ("", .error e)
    | .ok line s =>
      let (lines, r) := warnings rest s
      (line ++ lines, r)

def warn (host : Host m) (w : World) : CommandM m World := do
  match checkLabelFit host.gauge.measure w.labels.toList (w.store, host.gauge.start) with
  | .error f _ => throw (.drawing none (.fault f))
  | .ok fits (s, _) =>
    let (lines, r) := warnings fits s
    modify (· ++ lines)
    match r with
    | .ok s => return { w with store := s }
    | .error f => throw (.drawing none (.fault f))

def document (host : Host m) (source : Source) (checkFit : Bool) : CommandM m String := do
  match buildDiagram defaultBudget source.text with
  | .error f => throw (.drawing (some source.name) f)
  | .ok w =>
    let w ← if checkFit then warn host w else pure w
    match emit w with
    | .ok text _ => return text
    | .error f _ => throw (.drawing none f)

def drawn (host : Host m) (scale : Float) (document : String) : Except Problem ByteArray :=
  match host.draw scale document with
  | .ok bytes => .ok bytes
  | .error words => .error (.picture words)

def compile (host : Host m) (job : Job) (checkFit : Bool) : CommandM m ByteArray := do
  let source? ← readSource host job
  let path ← outputPath job (source?.bind (·.path)) ".svg"
  let some source := source? | throw (.textWithoutValue false)
  let text ← document host source checkFit
  match path with
  | some p => writeFile host p text.toUTF8
  | none => printed host (if text.endsWith "\n" then text else text ++ "\n")

/-- A source that is a document already is rendered as it stands. -/
def render (host : Host m) (job : Job) (scale : Option Float) : CommandM m ByteArray := do
  let some scale := scale | throw .scaleWithoutValue
  if scale ≤ 0 then throw .scaleNotPositive
  let source? ← readSource host job
  let path ← outputPath job (source?.bind (·.path)) ".png"
  let some source := source? | throw (.textWithoutValue true)
  let text ← if isSvg source.text then pure source.text else document host source false
  let bytes ← drawn host scale text
  match path with
  | some p => writeFile host p bytes
  | none => return bytes

namespace Request

/-- Does what is asked for; the result is the text for standard output. -/
def answer (host : Host m) : Request → CommandM m ByteArray
  | nothing => throw .noCommand
  | compile job checkFit => Command.compile host job checkFit
  | render job scale => Command.render host job scale
  | cheatsheet => printed host (Command.cheatsheet ++ "\n")

end Request

/-- The line that names all options, before an error that ends the run early. -/
def reportingUsage : String := "usage: bytefield [--error-format ERROR_FORMAT] [--debug]\n"

def helpText : String :=
  "usage: bytefield [-h] [--error-format \x7btext,json\x7d] [--debug] " ++
    "\x7bcompile,render,cheatsheet\x7d ...\n"

namespace Reply

def help : Reply := { output := helpText.toUTF8, early := true }

def ofProblem (r : Reporting) (warnings : String) (p : Problem) : Reply where
  status := p.report.status
  errors := warnings ++ if r.json then p.report.json else p.report.text
  details := if r.debug && p.hasDetails then some p else none

end Reply

/-- Runs a command line; details of problems are shown also if the surroundings ask for them. -/
def run (host : Host m) (debug : Bool) (words : List String) : m Reply := do
  match Reporting.ofWords words with
  | .error .help => return .help
  | .error (.usage e) =>
    return {
      status := 2
      errors := reportingUsage ++ s!"bytefield: error: {e.message}\n"
      early := true }
  | .ok reporting =>
    let reporting := { reporting with debug := reporting.debug || debug }
    match Request.ofWords words with
    | .error .help => return .help
    | .error (.usage e) => return .ofProblem reporting "" (.usage e)
    | .ok request =>
      match ← ((request.answer host).run).run "" with
      | (.ok output, warnings) => return { output, errors := warnings }
      | (.error p, warnings) => return .ofProblem reporting warnings p

end WireSketch.Command
