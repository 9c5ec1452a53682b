import WireSketch.Command.Option

/-! Reading a command line: its options, its operand or its command, and the words left over. -/
namespace WireSketch.Command

/-- What an option is set to; an attached separator leaves a value out. -/
inductive Setting
  | on
  | value (text : String)
  | emptied
deriving Repr, DecidableEq

inductive Stop
  | usage (e : UsageError)
  | help
deriving Repr, DecidableEq

/-- What has been read; of two settings of an option the first in the list counts. -/
structure CommandLine (κ : Type) where
  settings : List (κ × Setting) := []
  operand : Option String := none
  /-- The command and all words after it. -/
  command : List String := []
  leftOver : List String := []

namespace CommandLine

variable {κ : Type}

def setting? [BEq κ] (key : κ) (l : CommandLine κ) : Option Setting := l.settings.lookup key

def isOn [BEq κ] (key : κ) (l : CommandLine κ) : Bool := (l.setting? key).isSome

def leave (words : List String) (l : CommandLine κ) : CommandLine κ :=
  { l with leftOver := l.leftOver ++ words }

def put (r : OptionRule κ) (s : Setting) (l : CommandLine κ) : Except Stop (CommandLine κ) := do
  match r.kind, s with
  | .help, _ => throw .help
  | _, .value v =>
    match r.check v with
    | .ok () => return { l with settings := (r.key, s) :: l.settings }
    | .error e => throw (.usage e)
  | _, s => return { l with settings := (r.key, s) :: l.settings }

end CommandLine

namespace NamedOption

variable {κ : Type}

/-- Options in one word: those that take nothing, and the last one with its value if that is attached. -/
structure Chain (κ : Type) where
  before : List (OptionRule κ)
  last : OptionRule κ
  value : Option String

/-- Short options that take nothing may share a word with a further short one. -/
def chain (g : Grammar κ) (r : OptionRule κ) (short : Bool) : List Char → Except UsageError (Chain κ)
  | [] =>
    if r.kind.takesValue then .ok ⟨[], r, some ""⟩ else .error (.unusedValue r.shown "")
  | c :: rest =>
    if r.kind.takesValue then .ok ⟨[], r, some (String.ofList (c :: rest))⟩
    else if !short then .error (.unusedValue r.shown (String.ofList (c :: rest)))
    else
      match g.find? (String.ofList ['-', c]) with
      | none => .error (.unusedValue r.shown (String.ofList (c :: rest)))
      | some next =>
        if rest.isEmpty then .ok ⟨[r], next, none⟩
        else do
          let tail ← chain g next true rest
          return { tail with before := r :: tail.before }

def chainOf (g : Grammar κ) (o : NamedOption κ) : Except UsageError (Chain κ) :=
  match o.attached with
  | none => .ok ⟨[], o.rule, none⟩
  | some value => chain g o.rule ((o.name.toList.drop 1).head? != some '-') value.toList

end NamedOption

namespace CommandLine

variable {κ : Type}

def putAll (l : CommandLine κ) (rs : List (OptionRule κ)) : Except Stop (CommandLine κ) :=
  rs.foldlM (fun l r => l.put r .on) l

def refuse {α : Type} (e : UsageError) : Except Stop α := .error (.usage e)

/-- Reads classified words; `free` tells whether the operand or command is still to come. -/
def consume (g : Grammar κ) :
    Bool → List (Word κ) → CommandLine κ → Except Stop (CommandLine κ)
  | _, [], l => .ok l
  | free, .unknown s :: rest, l => consume g free rest (l.leave [s])
  | free, .operand s :: rest, l =>
    match g.operands, free with
    | .atMostOne, true =>
      -- A separator right after the operand goes with it.
      match rest with
      | .separator :: rest => consume g false rest { l with operand := some s }
      | rest => consume g false rest { l with operand := some s }
    | .command _, true => .ok { l with command := s :: rest.map Word.text }
    | _, _ => consume g free rest (l.leave [s])
  | free, .separator :: rest, l =>
    match g.operands, free with
    | .atMostOne, true =>
      match rest with
      | .operand s :: rest => consume g false rest { l with operand := some s }
      | rest => consume g false rest l
    | .command _, true =>
      if rest.isEmpty then .ok (l.leave ["--"])
      else .ok { l with command := "--" :: rest.map Word.text }
    | _, _ => consume g free rest (l.leave ["--"])
  | free, .option o :: rest, l =>
    match o.chainOf g with
    | .error e => refuse e
    | .ok c =>
      match c.value with
      | some v => do
        let l ← l.putAll c.before
        consume g free rest (← l.put c.last (if v == "--" then .emptied else .value v))
      | none =>
        if c.last.kind.takesValue then
          match rest with
          | .operand v :: rest => do
            let l ← l.putAll c.before
            consume g free rest (← l.put c.last (.value v))
          | _ => refuse (.missingValue c.last.shown)
        else do
          let l ← l.putAll c.before
          consume g free rest (← l.put c.last .on)

end CommandLine

namespace Grammar

variable {κ : Type}

def read (g : Grammar κ) (words : List String) : Except Stop (CommandLine κ) :=
  match g.classifyAll words with
  | .error e => .error (.usage e)
  | .ok classified => do
    let l ← CommandLine.consume g true classified {}
    match g.operands, l.command with
    | .command choices, name :: _ =>
      if choices.contains name then return l
      else throw (.usage (.badChoice "command" name choices))
    | _, _ => return l

end Grammar
end WireSketch.Command
