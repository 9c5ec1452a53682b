import WireSketch.Xml.Markup
import WireSketch.Xml.Prolog

/-! Trees read from XML documents, with the namespaces of all names. -/
namespace WireSketch.Xml

/-- Namespaces by their prefixes; the empty prefix is that of names without one. -/
abbrev Scope := List (List Char × List Char)

def xmlSpace : List Char := "http://www.w3.org/XML/1998/namespace".toList

def xmlnsSpace : List Char := "http://www.w3.org/2000/xmlns/".toList

def xmlPrefix : List Char := ['x', 'm', 'l']

def xmlnsPrefix : List Char := ['x', 'm', 'l', 'n', 's']

def splitPrefix (name : List Char) : List Char × List Char :=
  let before := name.takeWhile (· ≠ ':')
  if before.length = name.length then ([], name) else (before, name.drop (before.length + 1))

def declaredPrefix? (name : List Char) : Option (List Char) :=
  if name == xmlnsPrefix then some []
  else
    let (p, loc) := splitPrefix name
    if p == xmlnsPrefix then some loc else none

/-- Reserved prefixes and namespaces belong together, and only the empty prefix has no namespace. -/
def mayDeclare (p uri : List Char) : Bool :=
  (p.isEmpty || !uri.isEmpty) && p != xmlnsPrefix && ((p == xmlPrefix) == (uri == xmlSpace)) &&
    uri != xmlnsSpace && !uri.contains '\x7d'

/-- The namespaces inside of an element with the given attributes. -/
def declare : Scope → List (List Char × List Char) → Option Scope
  | scope, [] => some scope
  | scope, (name, value) :: rest =>
    match declaredPrefix? name with
    | some p => if mayDeclare p value then declare ((p, value) :: scope) rest else none
    | none => declare scope rest

def spaceOf? (scope : Scope) (p : List Char) : Option (List Char) :=
  if p == xmlPrefix then some xmlSpace else scope.lookup p

def inSpace (uri loc : List Char) : String :=
  if uri.isEmpty then String.ofList loc
  else String.ofList ('\x7b' :: uri ++ '\x7d' :: loc)

def elementName? (scope : Scope) (name : List Char) : Option String :=
  let (p, loc) := splitPrefix name
  if p.isEmpty then some (inSpace ((spaceOf? scope []).getD []) loc)
  else (spaceOf? scope p).map (inSpace · loc)

/-- Names without a prefix are in no namespace. -/
def attrName? (scope : Scope) (name : List Char) : Option String :=
  let (p, loc) := splitPrefix name
  if p.isEmpty then some (String.ofList loc) else (spaceOf? scope p).map (inSpace · loc)

def isDistinct {α : Type} [BEq α] : List α → Bool
  | [] => true
  | x :: xs => !xs.contains x && isDistinct xs

/-- An attribute with the namespace of its name. -/
def named? (scope : Scope) (a : List Char × List Char) : Option (String × String) := do
  return (← attrName? scope a.1, String.ofList a.2)

/-- The attributes of an element without its declarations; no name stands twice. -/
def attributes? (scope : Scope) (attrs : List (List Char × List Char)) :
    Option (List (String × String)) := do
  if !isDistinct (attrs.map (·.1)) then none
  let attrs := attrs.filter fun a => (declaredPrefix? a.1).isNone
  let named ← attrs.mapM (named? scope)
  if isDistinct (named.map (·.1)) then some named else none

/-- An element whose end has not been reached; content and text are in reverse. -/
structure Open where
  raw : List Char
  name : String
  attrs : List (String × String)
  scope : Scope
  content : List Markup := []
  pending : List Char := []

namespace Open

/-- The content with the text read so far. -/
def flushed (o : Open) : List Markup :=
  if o.pending.isEmpty then o.content else .text (String.ofList o.pending.reverse) :: o.content

def add (o : Open) (m : Markup) : Open := { o with content := m :: o.flushed, pending := [] }

def element (o : Open) : Markup := .element o.name o.attrs o.flushed.reverse

end Open

/-- The tree of tokens, given the elements that are open, the innermost first. -/
def tree? : List Token → List Open → Option Markup
  | [], _ => none
  | .start raw attrs :: rest, opened => do
    let scope := match opened with
      | o :: _ => o.scope
      | [] => []
    let scope ← declare scope attrs
    let name ← elementName? scope raw
    let attrs ← attributes? scope attrs
    tree? rest ({ raw, name, attrs, scope } :: opened)
  | .finish raw :: rest, o :: opened =>
    if raw != o.raw then none
    else match opened with
      | [] => if rest.isEmpty then some o.element else none
      | p :: opened => tree? rest (p.add o.element :: opened)
  | .char c :: rest, o :: opened => tree? rest ({ o with pending := c :: o.pending } :: opened)
  | _, [] => none

end WireSketch.Xml

namespace WireSketch

/-- The tree of a document, if it is one. -/
def Markup.ofText? (text : String) : Option Markup := do
  Xml.tree? (← Xml.tokens? text.toList).toList []

def Markup.localName? : Markup → Option String
  | .text _ => none
  | .element name _ _ => (splitName name.toList).map (·.2)

/-- Is the text a document whose root is an `svg` element? -/
def isSvg (text : String) : Bool :=
  match Markup.ofText? text with
  | some m => m.localName? == some "svg"
  | none => false

end WireSketch
