import WireSketch.Proofs.Xml.Tree

/-! A drawing that is written can be read again. -/
namespace WireSketch.Markup
open Xml

/-- A name that needs no further prefix in a drawing. -/
def Declared (name : String) : Prop := declare svgPrefixes name = .ok svgPrefixes

theorem declared_qualified {tag : String} (h : isLocalName tag.toList = true) :
    Declared (qualified tag) := by
  unfold Declared declare
  rw [splitName_qualified h]
  rfl

theorem declared_localName {name : String} (h : isLocalName name.toList = true) : Declared name := by
  unfold Declared declare
  rw [splitName_localName h]

/-- The first name of the SVG namespace declares the empty prefix. -/
theorem declare_qualified {tag : String} (h : isLocalName tag.toList = true) :
    declare [] (qualified tag) = .ok svgPrefixes := by
  unfold declare
  rw [splitName_qualified h]
  rfl

def NamedAttrs (pairs : List (String × String)) : Prop :=
  ∀ a ∈ pairs, isLocalName a.1.toList = true ∧ a.1 ≠ "xmlns"

inductive Named : Markup → Prop
  | text {s : String} : Named (.text s)
  | element {tag : String} {attrs : List (String × String)} {content : List Markup}
    (htag : isLocalName tag.toList = true) (hattrs : NamedAttrs attrs) (hcontent : ∀ m ∈ content, Named m) :
    Named (.element (qualified tag) attrs content)

theorem named_of_plain {m : Markup} (h : Plain m) : Named m := by
  induction h with
  | text _ => exact .text
  | element htag hattrs _ ih => exact .element htag hattrs.name ih

theorem declared_attrs {pairs : List (String × String)} (h : NamedAttrs pairs) :
    ∀ name ∈ pairs.map (·.1), Declared name := by
  intro name hname
  obtain ⟨a, ha, rfl⟩ := List.mem_map.mp hname
  exact declared_localName (h a ha).1

theorem declared_namesAll {ms : List Markup} (h : ∀ m ∈ ms, ∀ name ∈ names m, Declared name) :
    ∀ name ∈ namesAll ms, Declared name := by
  induction ms with
  | nil => simp [namesAll]
  | cons m ms ih =>
    intro name hname
    rw [namesAll] at hname
    rcases List.mem_append.mp hname with hname | hname
    · exact h m List.mem_cons_self name hname
    · exact ih (fun n hn => h n (List.mem_cons_of_mem m hn)) name hname

theorem declared_names {m : Markup} (h : Named m) : ∀ name ∈ names m, Declared name := by
  induction h with
  | text => simp [names]
  | element htag hpairs _ ih =>
    intro name hname
    rw [names] at hname
    rcases List.mem_append.mp hname with hname | hname
    · rcases List.mem_cons.mp hname with rfl | hname
      · exact declared_qualified htag
      · exact declared_attrs hpairs name hname
    · exact declared_namesAll ih name hname

theorem foldlM_declare {known : List String} (h : ∀ name ∈ known, Declared name) :
    known.foldlM declare svgPrefixes = .ok svgPrefixes := by
  induction known with
  | nil => rfl
  | cons name known ih =>
    rw [List.foldlM_cons, h name List.mem_cons_self]
    exact ih fun n hn => h n (List.mem_cons_of_mem name hn)

theorem toList_declarations :
    (declarations svgPrefixes).toList = [svgDeclaration].flatMap writtenAttr := by
  unfold declarations svgPrefixes
  rw [List.mergeSort_singleton]
  rfl

variable {tag : String} {pairs : List (String × String)} {content : List Markup}

theorem write_named (htag : isLocalName tag.toList = true) (hpairs : NamedAttrs pairs)
    (hcontent : ∀ m ∈ content, Named m) :
    write (.element (qualified tag) pairs content) =
      .ok (writeWith svgPrefixes (declarations svgPrefixes) (.element (qualified tag) pairs content)) := by
  have hknown : (names (.element (qualified tag) pairs content)).foldlM declare [] =
      .ok svgPrefixes := by
    have hrest : ∀ name ∈ pairs.map (·.1) ++ namesAll content, Declared name := by
      intro name hname
      rcases List.mem_append.mp hname with hname | hname
      · exact declared_attrs hpairs name hname
      · exact declared_namesAll (fun m hm => declared_names (hcontent m hm)) name hname
    rw [names, List.cons_append, List.foldlM_cons, declare_qualified htag]
    exact foldlM_declare hrest
  unfold write
  rw [hknown]
  rfl

/-- Reading what was written gives the tree back, with texts in a row joined. -/
theorem ofText?_write (htag : isLocalName tag.toList = true) (hpairs : PlainAttrs pairs)
    (hcontent : ∀ m ∈ content, Plain m) :
    ∃ text, write (.element (qualified tag) pairs content) = .ok text ∧
      ofText? (text ++ "\n") = some (normal (.element (qualified tag) pairs content)) := by
  refine ⟨_, write_named htag hpairs.name fun m hm => named_of_plain (hcontent m hm), ?_⟩
  have htokens := tokens?_written htag hpairs hcontent toList_declarations (by
    intro a ha
    rw [List.mem_singleton.mp ha]
    exact ⟨by decide, by decide⟩)
  unfold ofText?
  rw [String.toList_append, show "\n".toList = ['\n'] from rfl, htokens]
  exact tree?_root htag hpairs hcontent

end WireSketch.Markup
