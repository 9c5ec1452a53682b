import WireSketch.Command.Folder
import WireSketch.Command.Option
import WireSketch.Failure
import WireSketch.Text.Quoted
import WireSketch.Text.Encoding

/-! Why a command fails, and the report of it as text or as JSON. -/
namespace WireSketch.Command

inductive Problem
  | usage (e : UsageError)
  | noCommand
  | twoInputs
  | noInput
  | emptyInput
  | twoOutputs
  | scaleNotPositive
  | inputNotFound (path given : String)
  | inputUnreadable (path given : String) (f : FileFault)
  | inputNotText (source : String) (given : Option String) (e : Text.DecodeError)
  | outputUnwritable (path : String) (f : FileFault)
  /-- The source, if its script is at fault. -/
  | drawing (source : Option String) (f : Failure)
  /-- Words of what draws pictures. -/
  | picture (words : String)
  /-- Words of what encodes texts for standard output. -/
  | unprintable (words : String)
  | nullInPath
  | textWithoutValue (rendering : Bool)
  | scaleWithoutValue
deriving Repr, DecidableEq

/-- What is said about a problem, and the status of the command. -/
structure Report where
  code : String
  message : String
  hint : Option String := none
  file : Option String := none
  line : Option Nat := none
  column : Option Nat := none
  retryable : Bool := true
  status : Nat := 2
deriving Repr, DecidableEq

namespace Report

def arguments (message hint : String) : Report := { code := "E_ARGS", message, hint }

/-- Faults that are not of the command's user. -/
def unexpected (message : String) : Report where
  code := "E_INTERNAL"
  message := message
  hint := "Re-run with --debug to see traceback."
  retryable := false
  status := 1

def ofFailure (source : Option String) : Failure → Report
  | .script e => {
      code := "E_SCRIPT"
      message := e.message
      hint := "Check the script syntax; only calls, literals, if and for are allowed."
      file := source
      line := e.line
      column := e.column }
  | .diagram e => {
      code := e.code
      message := e.message
      hint := "Check attribute specs, labels and column headers in the script."
      file := source
      status := 3 }
  | .fault f => unexpected f.message

/-- The faults of reading bytes as text name the codec. -/
def decoding (e : Text.DecodeError) : String :=
  s!"'{e.codec}' codec can't decode {e.message}"

def field (name value : String) : String := Text.asciiQuoted name ++ ": " ++ value

def optional (value : Option String) : String := value.elim "null" Text.asciiQuoted

def place (n : Option Nat) : String := n.elim "null" toString

def json (r : Report) : String :=
  let fields := [
    field "ok" "false",
    field "code" (Text.asciiQuoted r.code),
    field "message" (Text.asciiQuoted r.message),
    field "file" (optional r.file),
    field "line" (place r.line),
    field "column" (place r.column),
    field "hint" (optional r.hint),
    field "retryable" (toString r.retryable)]
  "\x7b" ++ ", ".intercalate fields ++ "\x7d\n"

def text (r : Report) : String :=
  let hint := match r.hint with
    | none => ""
    | some h => s!"hint: {h}\n"
  s!"error[{r.code}]: {r.message}\n{hint}"

end Report

namespace Problem

open Report

def report : Problem → Report
  | usage e => arguments e.message "Use subcommands: compile, render, cheatsheet."
  | noCommand => arguments "missing subcommand" "Use one of: compile, render, cheatsheet."
  | twoInputs => arguments "--text cannot be combined with file input" "Use either FILE or --text."
  | noInput =>
    arguments "no input provided" "Pass a script FILE, use --text, or pipe the script on stdin."
  | emptyInput => arguments "stdin was empty" "Pipe a diagram script into stdin."
  | twoOutputs =>
    arguments "--stdout and --output are mutually exclusive" "Choose either --stdout or --output."
  | scaleNotPositive => arguments "--scale must be > 0" "Use a positive scale factor like 1 or 2."
  | inputNotFound path given =>
    { code := "E_IO_READ", message := s!"input file not found: {path}", file := given }
  | inputUnreadable path given f => {
      code := "E_IO_READ"
      message := s!"failed to read input file: {path}"
      hint := f.message path
      file := given }
  | inputNotText source given e => {
      code := "E_IO_READ"
      message := s!"{source} is not valid UTF-8"
      hint := decoding e
      file := given }
  | outputUnwritable path f => {
      code := "E_IO_WRITE"
      message := s!"failed to write output file: {path}"
      hint := f.message path
      file := path
      status := 4 }
  | drawing source f => ofFailure source f
  | picture words | unprintable words => unexpected words
  | nullInPath => unexpected "embedded null byte"
  | textWithoutValue false => unexpected "compile() arg 1 must be a string, bytes or AST object"
  | textWithoutValue true => unexpected (Fault.bytesContent "list").message
  | scaleWithoutValue => unexpected (Fault.notOrdered "<=" "list" "int").message

/-- Details follow the report of any problem but a wrong command line. -/
def hasDetails : Problem → Bool
  | usage _ => false
  | _ => true

end Problem
end WireSketch.Command
