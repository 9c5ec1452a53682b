import WireSketch.Command.Reading

/-! What a command line asks for: a diagram to compile or render, the quick reference, or nothing. -/
namespace WireSketch.Command

inductive Key
  | help | errorFormat | debug | text | toStdout | output | checkFit | scale
deriving Repr, DecidableEq

def commandNames : List String := ["compile", "render", "cheatsheet"]

namespace OptionRule

def help : OptionRule Key := ⟨.help, ["-h", "--help"], .help⟩

def debug : OptionRule Key := ⟨.debug, ["--debug"], .flag⟩

def text : OptionRule Key := ⟨.text, ["--text"], .anyText⟩

def toStdout : OptionRule Key := ⟨.toStdout, ["--stdout"], .flag⟩

def output : OptionRule Key := ⟨.output, ["-o", "--output"], .anyText⟩

end OptionRule

namespace Grammar

open OptionRule

def main : Grammar Key :=
  ⟨[help, ⟨.errorFormat, ["--error-format"], .oneOf ["text", "json"]⟩, debug], .command commandNames⟩

/-- The options that say how errors are shown; they count wherever they stand. -/
def reporting : Grammar Key := ⟨[⟨.errorFormat, ["--error-format"], .anyText⟩, debug], .none⟩

def compile : Grammar Key :=
  ⟨[help, text, toStdout, output, ⟨.checkFit, ["--check-fit"], .flag⟩], .atMostOne⟩

def render : Grammar Key :=
  ⟨[help, text, toStdout, output, ⟨.scale, ["--scale"], .number⟩], .atMostOne⟩

def cheatsheet : Grammar Key := ⟨[help], .none⟩

end Grammar

structure Reporting where
  json : Bool
  debug : Bool
deriving Repr, DecidableEq

namespace Reporting

def ofWords (words : List String) : Except Stop Reporting := do
  let l ← Grammar.reporting.read words
  return ⟨l.setting? .errorFormat == some (.value "json"), l.isOn .debug⟩

end Reporting

/-- Where a source comes from and where its result goes. -/
structure Job where
  input : Option String
  text : Option Setting
  toStdout : Bool
  output : Option String
deriving Repr, DecidableEq

namespace Job

/-- Empty names of files count as none. -/
def ofCommandLine (l : CommandLine Key) : Job where
  input := l.operand.filter (· ≠ "")
  text := l.setting? .text
  toStdout := l.isOn .toStdout
  output := match l.setting? .output with
    | some (.value s) => if s.isEmpty then none else some s
    | _ => none

end Job

/-- What is asked for; a scale without a value is none. -/
inductive Request
  | nothing
  | compile (job : Job) (checkFit : Bool)
  | render (job : Job) (scale : Option Float)
  | cheatsheet

namespace Request

/-- The scale that is set, else one. -/
def scaleOf (l : CommandLine Key) : Option Float :=
  match l.setting? .scale with
  | some (.value s) => Reading.float? s.toList
  | some _ => none
  | none => some 1

/-- Reads a command with its words; `outer` are words left over in front of it. -/
def readWith (g : Grammar Key) (outer words : List String) (make : CommandLine Key → Request) :
    Except Stop Request := do
  let l ← g.read words
  let leftOver := outer ++ l.leftOver
  if leftOver.isEmpty then return make l else throw (.usage (.unrecognized leftOver))

def ofWords (words : List String) : Except Stop Request := do
  let l ← Grammar.main.read words
  match l.command with
  | "compile" :: rest =>
    readWith .compile l.leftOver rest fun l => compile (.ofCommandLine l) (l.isOn .checkFit)
  | "render" :: rest =>
    readWith .render l.leftOver rest fun l => render (.ofCommandLine l) (scaleOf l)
  | "cheatsheet" :: rest => readWith .cheatsheet l.leftOver rest fun _ => cheatsheet
  | _ => if l.leftOver.isEmpty then return nothing else throw (.usage (.unrecognized l.leftOver))

end Request
end WireSketch.Command
