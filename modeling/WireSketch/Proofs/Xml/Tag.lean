import WireSketch.Proofs.Xml.Escape

/-! Written tags are read with their names and attributes. -/
namespace WireSketch.Xml
open Markup

def writtenAttr (a : List Char × List Char) : List Char :=
  ' ' :: (a.1 ++ '=' :: '"' :: (a.2.flatMap escapeAttrChar ++ ['"']))

/-- Attributes that can be written: names without a colon, and values of characters of a document. -/
def Writable (attrs : List (List Char × List Char)) : Prop :=
  ∀ a ∈ attrs, isLocalName a.1 = true ∧ a.2.all isChar = true

variable {name : List Char} {attrs : List (List Char × List Char)}

theorem isNameStart_of_cons {c : Char} {s : List Char} (h : isLocalName (c :: s) = true) :
    isNameStart c = true := (Bool.and_eq_true_iff.mp h).1

theorem ne_of_isNameStart {a c : Char} (h : isNameStart c = true) (ha : isNameStart a = false) :
    c ≠ a := by
  rintro rfl
  rw [ha] at h
  cases h

theorem skipSpace_cons {c : Char} (h : isSpace c = false) (rest : List Char) :
    skipSpace (c :: rest) = c :: rest := List.dropWhile_cons_of_neg (by simp [h])

theorem skipSpace_localName (h : isLocalName name = true) (rest : List Char) :
    skipSpace (name ++ rest) = name ++ rest := by
  cases name with
  | nil => cases h
  | cons c s =>
    have hc := isNameStart_of_cons h
    have hspace : isSpace c = false := by
      have h1 := ne_of_isNameStart hc (a := ' ') (by decide)
      have h2 := ne_of_isNameStart hc (a := '\t') (by decide)
      have h3 := ne_of_isNameStart hc (a := '\n') (by decide)
      have h4 := ne_of_isNameStart hc (a := '\r') (by decide)
      simp [isSpace, h1, h2, h3, h4]
    exact skipSpace_cons hspace _

/-- A name does not start with a mark. -/
theorem localName_append_ne (h : isLocalName name = true) {a : Char} (ha : isNameStart a = false)
    (rest r : List Char) : name ++ rest ≠ a :: r := by
  cases name with
  | nil => cases h
  | cons c s => exact fun hc => ne_of_isNameStart (isNameStart_of_cons h) ha (List.cons.inj hc).1

theorem after?_append (start rest : List Char) : after? start (start ++ rest) = some rest := by
  unfold after?
  rw [if_pos (List.isPrefixOf_iff_prefix.mpr (List.prefix_append start rest)), List.drop_left]

section Attributes

variable {entity : List Char → Option (List Char)}

theorem writtenAttr_append (name value rest : List Char) : writtenAttr (name, value) ++ rest =
    ' ' :: (name ++ '=' :: '"' :: (value.flatMap escapeAttrChar ++ '"' :: rest)) := by
  simp [writtenAttr]

theorem attrs?_attr {a : List Char × List Char} (hname : isLocalName a.1 = true)
    (hvalue : a.2.all isChar = true) (fuel : Nat) (rest : List Char)
    (taken : List (List Char × List Char)) :
    attrs? entity (fuel + 1) (writtenAttr a ++ rest) taken = attrs? entity fuel rest (a :: taken) := by
  obtain ⟨name, value⟩ := a
  rw [writtenAttr_append]
  have hskip := skipSpace_localName hname ('=' :: '"' :: (value.flatMap escapeAttrChar ++ '"' :: rest))
  have hread := qualifiedName?_append hname
    (endsName_cons (c := '=') (by decide) (by decide)
      ('"' :: (value.flatMap escapeAttrChar ++ '"' :: rest)))
  rw [attrs?.eq_def]
  dsimp only at hname hskip hread ⊢
  rw [skipSpace, List.dropWhile_cons_of_pos (by decide), ← skipSpace, hskip]
  split
  · rename_i h
    exact absurd h (localName_append_ne hname (by decide) _ _)
  · rename_i h
    exact absurd h (localName_append_ne hname (by decide) _ _)
  · rw [if_neg (by rw [List.length_cons]; omega), hread]
    have hequals := after?_append ['='] ('"' :: (value.flatMap escapeAttrChar ++ '"' :: rest))
    have hquoted : attrLoop entity _ _ _ _ = _ := attrLoop_written hvalue rest
    rw [List.singleton_append] at hequals
    simp only [Option.bind_eq_bind, Option.bind_some, hequals,
      skipSpace_cons (by decide : isSpace '=' = false),
      skipSpace_cons (by decide : isSpace '"' = false)]
    rw [if_pos (by decide), hquoted]
    rfl

theorem attrs?_written (h : Writable attrs) (fuel : Nat) (rest : List Char)
    (taken : List (List Char × List Char)) :
    attrs? entity (fuel + attrs.length) (attrs.flatMap writtenAttr ++ rest) taken =
      attrs? entity fuel rest (attrs.reverse ++ taken) := by
  induction attrs generalizing taken with
  | nil => rfl
  | cons a attrs ih =>
    obtain ⟨hname, hvalue⟩ := h a List.mem_cons_self
    have hattrs : Writable attrs := fun b hb => h b (List.mem_cons_of_mem a hb)
    rw [List.flatMap_cons, List.append_assoc, List.length_cons, ← Nat.add_assoc,
      attrs?_attr hname hvalue, ih hattrs, List.reverse_cons, List.append_assoc,
      List.singleton_append]

theorem length_le_writtenAttrs (attrs : List (List Char × List Char)) :
    attrs.length ≤ (attrs.flatMap writtenAttr).length := by
  induction attrs with
  | nil => exact Nat.le_refl 0
  | cons a attrs ih =>
    rw [List.flatMap_cons, List.length_append, List.length_cons, writtenAttr, List.length_cons]
    omega

/-- How a start tag ends: an element without content is closed at once. -/
def tagEnd (empty : Bool) : List Char := if empty then [' ', '/', '>'] else ['>']

theorem attrs?_tagEnd (empty : Bool) (fuel : Nat) (rest : List Char)
    (taken : List (List Char × List Char)) :
    attrs? entity (fuel + 1) (tagEnd empty ++ rest) taken = some (taken.reverse, empty, rest) := by
  cases empty with
  | true => rfl
  | false => rfl

theorem attrs?_tag (h : Writable attrs) (empty : Bool) (rest : List Char) :
    attrs? entity ((attrs.flatMap writtenAttr ++ (tagEnd empty ++ rest)).length + 1)
      (attrs.flatMap writtenAttr ++ (tagEnd empty ++ rest)) [] = some (attrs, empty, rest) := by
  have hlength := length_le_writtenAttrs attrs
  obtain ⟨fuel, hfuel⟩ : ∃ fuel, (attrs.flatMap writtenAttr ++ (tagEnd empty ++ rest)).length + 1 =
      fuel + 1 + attrs.length := by
    refine ⟨(attrs.flatMap writtenAttr).length - attrs.length + (tagEnd empty ++ rest).length, ?_⟩
    rw [List.length_append]
    omega
  rw [hfuel, attrs?_written h, attrs?_tagEnd, List.append_nil, List.reverse_reverse]

end Attributes

/-- The name of a tag ends before its attributes. -/
theorem endsName_attrs (attrs : List (List Char × List Char)) (empty : Bool) (rest : List Char) :
    EndsName (attrs.flatMap writtenAttr ++ (tagEnd empty ++ rest)) := by
  cases attrs with
  | cons a attrs => exact endsName_cons (c := ' ') (by decide) (by decide) _
  | nil =>
    cases empty with
    | true => exact endsName_cons (c := ' ') (by decide) (by decide) _
    | false => exact endsName_cons (c := '>') (by decide) (by decide) _

section Tags

variable {attrEntity : List Char → Option (List Char)} {entity : List Char → Option (Array Token)}
  {within : Bool}

def startTag (name : List Char) (attrs : List (List Char × List Char)) (empty : Bool) : List Char :=
  '<' :: (name ++ (attrs.flatMap writtenAttr ++ tagEnd empty))

theorem startTag_append (name : List Char) (attrs : List (List Char × List Char)) (empty : Bool)
    (rest : List Char) : startTag name attrs empty ++ rest =
      '<' :: (name ++ (attrs.flatMap writtenAttr ++ (tagEnd empty ++ rest))) := by
  simp [startTag]

/-- A start tag with content opens an element, one without is an element of its own. -/
theorem contentLoop_startTag (hname : isLocalName name = true) (hattrs : Writable attrs)
    (empty : Bool) (fuel depth : Nat) (rest : List Char) (taken : Array Token) :
    contentLoop attrEntity entity within (fuel + 1) depth (startTag name attrs empty ++ rest) taken =
      if empty then
        if depth = 0 && !within then some ((taken.push (.start name attrs)).push (.finish name), rest)
        else contentLoop attrEntity entity within fuel depth rest
          ((taken.push (.start name attrs)).push (.finish name))
      else contentLoop attrEntity entity within fuel (depth + 1) rest
        (taken.push (.start name attrs)) := by
  have hread := qualifiedName?_append hname (endsName_attrs attrs empty rest)
  rw [startTag_append, contentLoop.eq_def]
  dsimp only
  rw [if_pos (by decide)]
  -- A name starts with none of the marks of comments, sections, instructions and end tags.
  split
  · rename_i h
    exact absurd h (localName_append_ne hname (by decide) _ _)
  · rename_i h
    exact absurd h (localName_append_ne hname (by decide) _ _)
  · rename_i h
    exact absurd h (localName_append_ne hname (by decide) _ _)
  · rename_i h
    exact absurd h (localName_append_ne hname (by decide) _ _)
  · rw [hread]
    simp only [Option.bind_eq_bind, Option.bind_some, attrs?_tag hattrs]

def endTag (name : List Char) : List Char := '<' :: '/' :: (name ++ ['>'])

theorem contentLoop_endTag (hname : isLocalName name = true) (fuel depth : Nat) (rest : List Char)
    (taken : Array Token) :
    contentLoop attrEntity entity within (fuel + 1) (depth + 1) (endTag name ++ rest) taken =
      if depth = 0 && !within then some (taken.push (.finish name), rest)
      else contentLoop attrEntity entity within fuel depth rest (taken.push (.finish name)) := by
  have hread := qualifiedName?_append hname
    (endsName_cons (c := '>') (by decide) (by decide) rest)
  have htag : endTag name ++ rest = '<' :: '/' :: (name ++ '>' :: rest) := by simp [endTag]
  have hclose := after?_append ['>'] rest
  rw [List.singleton_append] at hclose
  rw [htag, contentLoop.eq_def]
  dsimp only
  rw [if_pos (by decide)]
  simp only [hread, Option.bind_eq_bind, Option.bind_some, hclose,
    skipSpace_cons (by decide : isSpace '>' = false)]
  cases depth with
  | zero =>
    cases within with
    | true => rfl
    | false => rfl
  | succ depth => rfl

end Tags

end WireSketch.Xml
