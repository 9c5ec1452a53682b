import WireSketch.Fault

/-! XML documents as trees, and their text with namespaces declared on the root. -/
namespace WireSketch

/-- Mixed content; a name in a namespace is written with the namespace in braces in front. -/
inductive Markup
  | text (s : String)
  | element (name : String) (attrs : List (String × String)) (content : List Markup)

namespace Markup

def escapeTextChar (c : Char) : List Char :=
  if c == '&' then ['&', 'a', 'm', 'p', ';']
  else if c == '<' then ['&', 'l', 't', ';']
  else if c == '>' then ['&', 'g', 't', ';']
  else [c]

/-- A character of an attribute's value; line ends and tabs would be read as blanks. -/
def escapeAttrChar (c : Char) : List Char :=
  if c == '"' then ['&', 'q', 'u', 'o', 't', ';']
  else if c == '\r' then ['&', '#', '1', '3', ';']
  else if c == '\n' then ['&', '#', '1', '0', ';']
  else if c == '\t' then ['&', '#', '0', '9', ';']
  else escapeTextChar c

def escapeText (s : String) : String := String.ofList (s.toList.flatMap escapeTextChar)

def escapeAttr (s : String) : String := String.ofList (s.toList.flatMap escapeAttrChar)

/-- The namespace and the local part of a name; none if the brace is not closed. -/
def splitName (name : List Char) : Option (Option String × String) :=
  match name with
  | '\x7b' :: r =>
    -- The last closing brace ends the namespace.
    let afterLast := (r.reverse.takeWhile (· != '\x7d')).reverse
    if afterLast.length = r.length then none
    else some (some (String.ofList (r.take (r.length - afterLast.length - 1))), String.ofList afterLast)
  | r => some (none, String.ofList r)

/-- Namespaces with a customary prefix. -/
def customaryPrefix? (uri : String) : Option String :=
  [("http://www.w3.org/XML/1998/namespace", "xml"),
    ("http://www.w3.org/1999/xhtml", "html"),
    ("http://www.w3.org/1999/02/22-rdf-syntax-ns#", "rdf"),
    ("http://schemas.xmlsoap.org/wsdl/", "wsdl"),
    ("http://www.w3.org/2001/XMLSchema", "xs"),
    ("http://www.w3.org/2001/XMLSchema-instance", "xsi"),
    ("http://purl.org/dc/elements/1.1/", "dc"),
    ("http://www.w3.org/2000/svg", "")].lookup uri

/-- The prefixes of the namespaces met so far. -/
abbrev Prefixes := List (String × String)

/-- Gives a prefix to the namespace of a name: the customary one, or the next number. -/
def declare (known : Prefixes) (name : String) : Except Fault Prefixes :=
  match splitName name.toList with
  | none => .error .nameWithoutSpace
  | some (none, _) => .ok known
  | some (some uri, _) =>
    match known.lookup uri with
    | some _ => .ok known
    | none =>
      let p := (customaryPrefix? uri).getD s!"ns{known.length}"
      .ok (if p == "xml" then known else known ++ [(uri, p)])

mutual

def names : Markup → List String
  | text _ => []
  | element name attrs content => name :: attrs.map (·.1) ++ namesAll content

def namesAll : List Markup → List String
  | [] => []
  | m :: rest => names m ++ namesAll rest

end

def prefixed (known : Prefixes) (name : String) : String :=
  match splitName name.toList with
  | some (some uri, loc) =>
    match (known.lookup uri).getD "xml" with
    | "" => loc
    | p => p ++ ":" ++ loc
  | _ => name

def attrText (known : Prefixes) (a : String × String) : String :=
  " " ++ prefixed known a.1 ++ "=\"" ++ escapeAttr a.2 ++ "\""

/-- Does a text or an element stand in the content? -/
def hasContent : List Markup → Bool
  | [] => false
  | text s :: rest => s != "" || hasContent rest
  | element .. :: _ => true

mutual

/-- The text of a tree; `extra` are the declarations of its outermost element. -/
def writeWith (known : Prefixes) (extra : String) : Markup → String
  | text s => escapeText s
  | element name attrs content =>
    let tag := prefixed known name
    let start := "<" ++ tag ++ extra ++ String.join (attrs.map (attrText known))
    if hasContent content then start ++ ">" ++ writeAll known content "" ++ "</" ++ tag ++ ">"
    else start ++ " />"

/-- The texts of trees in a row, after what is already written. -/
def writeAll (known : Prefixes) : List Markup → String → String
  | [], written => written
  | m :: rest, written => writeAll known rest (written ++ writeWith known "" m)

end

def declarations (known : Prefixes) : String :=
  String.join ((known.mergeSort fun a b => a.2 ≤ b.2).map fun (uri, p) =>
    let p := if p.isEmpty then "" else ":" ++ p
    " xmlns" ++ p ++ "=\"" ++ escapeAttr uri ++ "\"")

def write (root : Markup) : Except Fault String := do
  let known ← root.names.foldlM declare []
  return writeWith known (declarations known) root

end Markup
end WireSketch
