import WireSketch.Value.Convert

/-! Parameters of the library's functions, and how arguments are bound to them. -/
namespace WireSketch

structure Parameter where
  name : String
  default : Option Value := none

/-- Arguments of a call: those by position, and those by name in the order given. -/
structure Arguments where
  positional : List Value
  named : List (String × Value) := []

/-- `owner` is the type of the object that a method is bound to; that object is its first argument. -/
structure Signature where
  name : String
  owner : Option String := none
  parameters : List Parameter := []
  /-- Takes any number of further arguments by position. -/
  rest : Bool := false
  /-- Takes arguments by names of their own. -/
  extra : Bool := false

/-- The arguments of a call by the parameters that they belong to. -/
structure Bound where
  values : List Value
  rest : List Value
  extra : List (String × Value)

namespace Parameter

def required (name : String) : Parameter := { name }

def withDefault (name : String) (v : Value) : Parameter := { name, default := some v }

end Parameter

/-- A parameter with the argument that it has so far. -/
abbrev Slot := Parameter × Option Value

namespace Signature

/-- The name in messages, with the owner in front. -/
def shownName (s : Signature) : String :=
  match s.owner with
  | some o => o ++ "." ++ s.name
  | none => s.name

/-- The number of bound objects that count as arguments. -/
def ownerCount (s : Signature) : Nat := if s.owner.isSome then 1 else 0

def fillSlots : List Parameter → List Value → List Slot
  | [], _ => []
  | p :: ps, [] => (p, none) :: fillSlots ps []
  | p :: ps, v :: vs => (p, some v) :: fillSlots ps vs

/-- Gives an argument to the parameter of its name; none if there is no such parameter. -/
def giveNamed (fault : Fault) (name : String) (v : Value) :
    List Slot → Except Fault (Option (List Slot))
  | [] => .ok none
  | (p, held) :: slots =>
    if p.name == name then
      if held.isSome then .error fault else .ok (some ((p, some v) :: slots))
    else do
      return (← giveNamed fault name v slots).map ((p, held) :: ·)

/-- Gives arguments by name; unknown names are kept where the function takes them. -/
def giveAll (s : Signature) :
    List (String × Value) → List Slot → List (String × Value) →
      Except Fault (List Slot × List (String × Value))
  | [], slots, extra => .ok (slots, extra)
  | (name, v) :: named, slots, extra => do
    let repeated := Fault.call (.repeatedArgument s.shownName name)
    if s.owner.isSome && name == "self" then throw repeated
    match ← giveNamed repeated name v slots with
    | some slots => giveAll s named slots extra
    | none =>
      if s.extra then giveAll s named slots (extra ++ [(name, v)])
      else throw (.call (.unexpectedKeyword s.shownName name))

def checkCount (s : Signature) (positional : List Value) : Except Fault Unit :=
  let most := s.parameters.length + s.ownerCount
  let least := (s.parameters.filter (·.default.isNone)).length + s.ownerCount
  let given := positional.length + s.ownerCount
  if given > most && !s.rest then .error (.call (.takes s.shownName least most given)) else .ok ()

/-- The names of parameters that have neither an argument nor a default. -/
def missingNames (slots : List Slot) : List String :=
  slots.filterMap fun (p, held) => if held.isNone && p.default.isNone then some p.name else none

/-- Binds arguments to parameters; what is left by position or by name is kept apart. -/
def bind (s : Signature) (a : Arguments) : Except Fault Bound := do
  let slots := fillSlots s.parameters a.positional
  let (slots, extra) ← giveAll s a.named slots []
  checkCount s a.positional
  let missing := missingNames slots
  unless missing.isEmpty do throw (.call (.missing s.shownName missing))
  return {
    values := slots.filterMap fun (p, held) => held <|> p.default
    rest := a.positional.drop s.parameters.length
    extra }

end Signature
end WireSketch
