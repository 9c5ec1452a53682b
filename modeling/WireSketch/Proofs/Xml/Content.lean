import WireSketch.Proofs.Xml.Tag

/-! The text of a tree in the SVG namespace is read as the tokens of the tree. -/
namespace WireSketch.Xml
open Markup

def svgPrefixes : Prefixes := [(svgSpace, "")]

def rawName (name : String) : List Char := (prefixed svgPrefixes name).toList

def rawAttrs (attrs : List (String × String)) : List (List Char × List Char) :=
  attrs.map fun a => (rawName a.1, a.2.toList)

theorem rawName_qualified {tag : String} (h : isLocalName tag.toList = true) :
    rawName (qualified tag) = tag.toList := by
  unfold rawName prefixed
  rw [splitName_qualified h]
  rfl

theorem rawName_localName {name : String} (h : isLocalName name.toList = true) :
    rawName name = name.toList := by
  unfold rawName prefixed
  rw [splitName_localName h]

/-- Names of attributes that are in no namespace and declare none, each once. -/
structure PlainAttrs (attrs : List (String × String)) : Prop where
  name : ∀ a ∈ attrs, isLocalName a.1.toList = true ∧ a.1 ≠ "xmlns"
  value : ∀ a ∈ attrs, a.2.toList.all isChar = true
  nodup : (attrs.map (·.1)).Nodup

/-- A tree of elements of the SVG namespace, made of names and characters that can be written. -/
inductive Plain : Markup → Prop
  | text {s : String} (hs : s.toList.all isTextChar = true) : Plain (.text s)
  | element {tag : String} {attrs : List (String × String)} {content : List Markup}
    (htag : isLocalName tag.toList = true) (hattrs : PlainAttrs attrs)
    (hcontent : ∀ m ∈ content, Plain m) : Plain (.element (qualified tag) attrs content)

mutual

def tokens : Markup → List Token
  | .text s => s.toList.map .char
  | .element name attrs content =>
    .start (rawName name) (rawAttrs attrs) :: (tokensAll content ++ [.finish (rawName name)])

def tokensAll : List Markup → List Token
  | [] => []
  | m :: rest => tokens m ++ tokensAll rest

end

theorem PlainAttrs.rawAttrs_eq {attrs : List (String × String)} (h : PlainAttrs attrs) :
    rawAttrs attrs = attrs.map fun a => (a.1.toList, a.2.toList) := by
  unfold rawAttrs
  refine List.map_congr_left fun a ha => ?_
  rw [rawName_localName (h.name a ha).1]

theorem PlainAttrs.writable {attrs : List (String × String)} (h : PlainAttrs attrs) :
    Writable (rawAttrs attrs) := by
  intro b hb
  rw [h.rawAttrs_eq] at hb
  obtain ⟨a, ha, rfl⟩ := List.mem_map.mp hb
  exact ⟨(h.name a ha).1, h.value a ha⟩

section Writing

variable {known : Prefixes}

theorem toList_escapeText (s : String) : (escapeText s).toList = s.toList.flatMap escapeTextChar := by
  unfold escapeText
  rw [String.toList_ofList]

theorem toList_attrText (a : String × String) : (attrText svgPrefixes a).toList =
    writtenAttr (rawName a.1, a.2.toList) := by
  unfold attrText escapeAttr writtenAttr rawName
  simp only [String.toList_append, String.toList_ofList]
  rw [show " ".toList = [' '] from rfl, show "=\"".toList = ['=', '"'] from rfl,
    show "\"".toList = ['"'] from rfl]
  simp

theorem toList_attrTexts (attrs : List (String × String)) :
    (String.join (attrs.map (attrText svgPrefixes))).toList = (rawAttrs attrs).flatMap writtenAttr := by
  rw [String.toList_join, List.flatMap_map, rawAttrs, List.flatMap_map]
  simp only [toList_attrText]

/-- The texts of trees in a row stand after each other. -/
theorem writeAll_eq (ms : List Markup) (written : String) : writeAll known ms written =
    written ++ String.join (ms.map (writeWith known "")) := by
  induction ms generalizing written with
  | nil => simp [writeAll, String.join]
  | cons m ms ih => rw [writeAll, ih, List.map_cons, String.join_cons, String.append_assoc]

def written (m : Markup) : List Char := (writeWith svgPrefixes "" m).toList

theorem written_text (s : String) : written (.text s) = s.toList.flatMap escapeTextChar := by
  unfold written
  rw [writeWith, toList_escapeText]

theorem toList_writeAll (ms : List Markup) :
    (writeAll svgPrefixes ms "").toList = ms.flatMap written := by
  rw [writeAll_eq, String.empty_append, String.toList_join, List.flatMap_map]
  rfl

/-- An element is written as its tags around its content, with further attributes in front. -/
theorem toList_writeWith_element {extra : String} {extras : List (List Char × List Char)}
    (hextra : extra.toList = extras.flatMap writtenAttr) (name : String)
    (attrs : List (String × String)) (content : List Markup) :
    (writeWith svgPrefixes extra (.element name attrs content)).toList =
      startTag (rawName name) (extras ++ rawAttrs attrs) (!hasContent content) ++
        if hasContent content then content.flatMap written ++ endTag (rawName name) else [] := by
  have htags : (rawName name) = (prefixed svgPrefixes name).toList := rfl
  rw [writeWith]
  cases hasContent content with
  | true =>
    simp only [if_true, String.toList_append, toList_attrTexts, toList_writeAll, hextra, ← htags]
    simp [startTag, endTag, tagEnd]
  | false =>
    simp only [Bool.false_eq_true, if_false, String.toList_append, toList_attrTexts, hextra, ← htags]
    simp [startTag, tagEnd]

end Writing

section Reading

/-- A text within an element is read as the given tokens, whatever stands after it. -/
structure Reads (s : List Char) (ts : List Token) : Prop where
  ends : ∀ rest, EndsText rest → EndsText (s ++ rest)
  -- Each step reads a character at least, so that the length of a text is fuel enough for it.
  loop : ∃ steps ≤ s.length, ∀ attrEntity entity fuel depth rest taken, EndsText rest →
    contentLoop attrEntity entity false (fuel + steps) (depth + 1) (s ++ rest) taken =
      contentLoop attrEntity entity false fuel (depth + 1) rest (taken ++ ts.toArray)

theorem reads_nil : Reads [] [] where
  ends _ h := h
  loop := ⟨0, Nat.le_refl 0, by simp⟩

theorem Reads.append {s t : List Char} {ss ts : List Token} (hs : Reads s ss) (ht : Reads t ts) :
    Reads (s ++ t) (ss ++ ts) where
  ends rest h := by
    rw [List.append_assoc]
    exact hs.ends _ (ht.ends _ h)
  loop := by
    obtain ⟨m, hm, hs'⟩ := hs.loop
    obtain ⟨n, hn, ht'⟩ := ht.loop
    refine ⟨n + m, by rw [List.length_append]; omega, ?_⟩
    intro attrEntity entity fuel depth rest taken hrest
    rw [List.append_assoc, ← Nat.add_assoc, hs' _ _ _ _ _ _ (ht.ends rest hrest),
      ht' _ _ _ _ _ _ hrest]
    simp

theorem reads_text {s : List Char} (hs : s.all isTextChar = true) :
    Reads (s.flatMap escapeTextChar) (s.map Token.char) where
  ends _ h := endsText_escaped h s
  loop := ⟨s.length, length_le_flatMap escapeTextChar_length s,
    fun _ _ fuel depth _ taken hrest => contentLoop_escaped hs hrest fuel (depth + 1) taken⟩

variable {name : List Char} {attrs : List (List Char × List Char)}

theorem startTag_length (name : List Char) (attrs : List (List Char × List Char)) (empty : Bool) :
    1 ≤ (startTag name attrs empty).length := Nat.le_add_left 1 _

theorem endTag_length (name : List Char) : 1 ≤ (endTag name).length := Nat.le_add_left 1 _

theorem endsText_startTag (name : List Char) (attrs : List (List Char × List Char)) (empty : Bool)
    (rest : List Char) : EndsText (startTag name attrs empty ++ rest) :=
  endsText_cons (c := '<') (by decide) (by decide) _

theorem endsText_endTag (name : List Char) (rest : List Char) : EndsText (endTag name ++ rest) :=
  endsText_cons (c := '<') (by decide) (by decide) _

theorem reads_emptyElement (hname : isLocalName name = true) (hattrs : Writable attrs) :
    Reads (startTag name attrs true) [.start name attrs, .finish name] where
  ends _ _ := endsText_startTag name attrs true _
  loop := by
    refine ⟨1, startTag_length name attrs true, ?_⟩
    intro attrEntity entity fuel depth rest taken _
    rw [contentLoop_startTag hname hattrs, if_pos rfl, if_neg (by simp),
      ← push_append_toArray, ← push_append_toArray, Array.append_empty]

theorem reads_element (hname : isLocalName name = true) (hattrs : Writable attrs) {s : List Char}
    {ts : List Token} (hs : Reads s ts) :
    Reads (startTag name attrs false ++ (s ++ endTag name))
      (.start name attrs :: (ts ++ [.finish name])) where
  ends rest _ := by
    rw [List.append_assoc]
    exact endsText_startTag name attrs false _
  loop := by
    obtain ⟨steps, hsteps, hs⟩ := hs.loop
    have hstart := startTag_length name attrs false
    have hend := endTag_length name
    refine ⟨1 + steps + 1, by simp only [List.length_append]; omega, ?_⟩
    intro attrEntity entity fuel depth rest taken _
    rw [List.append_assoc, ← Nat.add_assoc, contentLoop_startTag hname hattrs,
      if_neg (by decide), ← Nat.add_assoc, List.append_assoc,
      hs _ _ _ _ _ _ (endsText_endTag name rest), contentLoop_endTag hname, if_neg (by simp)]
    simp

end Reading

/-- Content that is not written has no tokens. -/
theorem tokensAll_of_hasContent {ms : List Markup} (h : hasContent ms = false) :
    tokensAll ms = [] := by
  induction ms with
  | nil => rfl
  | cons m ms ih =>
    cases m with
    | element name attrs content => cases h
    | text s =>
      obtain ⟨hs, hrest⟩ := Bool.or_eq_false_iff.mp h
      have hempty : s = "" := by simpa using hs
      rw [tokensAll, ih hrest, hempty, tokens]
      rfl

theorem reads_tokensAll {ms : List Markup} (h : ∀ m ∈ ms, Reads (written m) (tokens m)) :
    Reads (ms.flatMap written) (tokensAll ms) := by
  induction ms with
  | nil => exact reads_nil
  | cons m ms ih =>
    rw [List.flatMap_cons, tokensAll]
    exact (h m List.mem_cons_self).append (ih fun n hn => h n (List.mem_cons_of_mem m hn))

theorem reads_written {m : Markup} (h : Plain m) : Reads (written m) (tokens m) := by
  induction h with
  | text hs =>
    rw [written_text, tokens]
    exact reads_text hs
  | @element tag attrs content htag hattrs _ ih =>
    have hname : isLocalName (rawName (qualified tag)) = true := by
      rw [rawName_qualified htag]
      exact htag
    have hnone : "".toList = [].flatMap writtenAttr := rfl
    have helement := toList_writeWith_element hnone (qualified tag) attrs content
    rw [written, helement, tokens, List.nil_append]
    cases hc : hasContent content with
    | true => exact reads_element hname hattrs.writable (reads_tokensAll ih)
    | false =>
      rw [tokensAll_of_hasContent hc]
      simpa using reads_emptyElement hname hattrs.writable

end WireSketch.Xml
