import WireSketch.Text.Quoted
import WireSketch.Number.Reading

/-! Options of a command line: their names and values, and what a single word stands for. -/
namespace WireSketch.Command

/-- What an option takes: nothing, a request for help, or a value. -/
inductive OptionKind
  | flag
  | help
  | anyText
  | oneOf (choices : List String)
  | number
deriving Repr, DecidableEq

namespace OptionKind

def takesValue : OptionKind → Bool
  | flag | help => false
  | anyText | oneOf _ | number => true

end OptionKind

/-- An option with all its names; `κ` tells options apart. -/
structure OptionRule (κ : Type) where
  key : κ
  names : List String
  kind : OptionKind

/-- The words that are not options: none, at most one, or a command with all words after it. -/
inductive OperandKind
  | none
  | atMostOne
  | command (choices : List String)
deriving Repr, DecidableEq

/-- What a command line may hold. -/
structure Grammar (κ : Type) where
  options : List (OptionRule κ)
  operands : OperandKind

inductive UsageError
  | missingValue (argument : String)
  | unusedValue (argument value : String)
  | badChoice (argument value : String) (choices : List String)
  | badNumber (argument value : String)
  | ambiguous (word : String) (names : List String)
  | unrecognized (words : List String)
deriving Repr, DecidableEq

namespace UsageError

def message : UsageError → String
  | missingValue a => s!"argument {a}: expected one argument"
  | unusedValue a v => s!"argument {a}: ignored explicit argument {Text.quote v}"
  | badChoice a v choices =>
    let shown := ", ".intercalate (choices.map Text.quote)
    s!"argument {a}: invalid choice: {Text.quote v} (choose from {shown})"
  | badNumber a v => s!"argument {a}: invalid float value: {Text.quote v}"
  | ambiguous w names =>
    let shown := ", ".intercalate names
    s!"ambiguous option: {w} could match {shown}"
  | unrecognized words =>
    let shown := " ".intercalate words
    s!"unrecognized arguments: {shown}"

end UsageError

namespace OptionRule

variable {κ : Type}

def shown (r : OptionRule κ) : String := "/".intercalate r.names

def check (r : OptionRule κ) (value : String) : Except UsageError Unit :=
  match r.kind with
  | .oneOf choices =>
    if choices.contains value then .ok () else .error (.badChoice r.shown value choices)
  | .number =>
    if (Reading.float? value.toList).isSome then .ok () else .error (.badNumber r.shown value)
  | .flag | .help | .anyText => .ok ()

end OptionRule

/-- A word that names an option, and the value that is attached to the name. -/
structure NamedOption (κ : Type) where
  word : String
  rule : OptionRule κ
  name : String
  attached : Option String

/-- What a word of a command line stands for. -/
inductive Word (κ : Type)
  | operand (text : String)
  | separator
  | option (o : NamedOption κ)
  | unknown (text : String)

namespace Word

variable {κ : Type}

def text : Word κ → String
  | operand s | unknown s => s
  | separator => "--"
  | option o => o.word

end Word

namespace Grammar

variable {κ : Type}

def named (g : Grammar κ) : List (String × OptionRule κ) :=
  g.options.flatMap fun r => r.names.map (·, r)

def find? (g : Grammar κ) (name : String) : Option (OptionRule κ) := g.named.lookup name

/-- A word up to its first equals sign, and what follows that. -/
def splitAtEquals (word : List Char) : Option (List Char × List Char) :=
  match word.dropWhile (· != '=') with
  | [] => none
  | _ :: value => some (word.takeWhile (· != '='), value)

/-- The options that a word may stand for: long names by any beginning of them, short ones with a value. -/
def candidates (g : Grammar κ) (word : List Char) : List (NamedOption κ) :=
  match word with
  | '-' :: '-' :: _ =>
    let (start, value) := match splitAtEquals word with
      | some (start, value) => (start, some (String.ofList value))
      | none => (word, none)
    g.named.filterMap fun (name, r) =>
      if start.isPrefixOf name.toList then some ⟨String.ofList word, r, name, value⟩ else none
  | word =>
    g.named.filterMap fun (name, r) =>
      if name.toList == word.take 2 then
        some ⟨String.ofList word, r, name, some (String.ofList (word.drop 2))⟩
      else if word.isPrefixOf name.toList then some ⟨String.ofList word, r, name, none⟩
      else none

/-- Is it a negative number: digits, and a point with digits after it? A line may end after it. -/
def isNegativeNumber (word : List Char) : Bool :=
  match word with
  | '-' :: r =>
    let whole := r.takeWhile Text.isDecimalDigit
    match r.dropWhile Text.isDecimalDigit with
    | [] | ['\n'] => !whole.isEmpty
    | '.' :: r =>
      let rest := r.dropWhile Text.isDecimalDigit
      r.length != rest.length && (rest.isEmpty || rest == ['\n'])
    | _ => false
  | _ => false

/-- Reads a word that is not the separator. -/
def classify (g : Grammar κ) (word : String) : Except UsageError (Word κ) :=
  match word.toList with
  | '-' :: c :: r =>
    let cs := '-' :: c :: r
    let named (start : List Char) (value : Option String) : Option (NamedOption κ) :=
      (g.find? (String.ofList start)).map (⟨word, ·, String.ofList start, value⟩)
    let attached : Option (NamedOption κ) := do
      let (start, value) ← splitAtEquals cs
      named start (some (String.ofList value))
    match named cs none <|> attached with
    | some o => .ok (.option o)
    | none =>
      match g.candidates cs with
      | [o] => .ok (.option o)
      | [] =>
        if isNegativeNumber cs || cs.contains ' ' then .ok (.operand word) else .ok (.unknown word)
      | os => .error (.ambiguous word (os.map (·.name)))
  | _ => .ok (.operand word)

/-- Reads all words; those after a separator are operands. -/
def classifyAll (g : Grammar κ) : List String → Except UsageError (List (Word κ))
  | [] => .ok []
  | "--" :: rest => .ok (.separator :: rest.map .operand)
  | word :: rest => do return (← g.classify word) :: (← g.classifyAll rest)

end Grammar
end WireSketch.Command
