import WireSketch.Proofs.Xml.Legal
import WireSketch.Proofs.Xml.Roundtrip

/-! A written tree of names and legal characters is read, even where line ends are read as others. -/
namespace WireSketch.Xml
open Markup

/-- A tree of elements of the SVG namespace, with names that can be written and legal characters. -/
inductive Legible : Markup → Prop
  | text {s : String} (hs : Legal s.toList) : Legible (.text s)
  | element {tag : String} {attrs : List (String × String)} {content : List Markup}
    (htag : isLocalName tag.toList = true) (hattrs : PlainAttrs attrs)
    (hcontent : ∀ m ∈ content, Legible m) : Legible (.element (qualified tag) attrs content)

theorem Legible.named {m : Markup} (h : Legible m) : Named m := by
  induction h with
  | text _ => exact .text
  | element htag hattrs _ ih => exact .element htag hattrs.name ih

section Balanced

/-- An open element of the same tag, whatever it has taken up. -/
structure Open.Like (o p : Open) : Prop where
  raw : p.raw = o.raw
  name : p.name = o.name
  attrs : p.attrs = o.attrs
  scope : p.scope = o.scope

/-- Tokens that leave the element they stand in open. -/
def Balanced (ts : List Token) : Prop :=
  ∀ o os rest, o.scope = svgScope → ∃ p, o.Like p ∧ tree? (ts ++ rest) (o :: os) = tree? rest (p :: os)

theorem balanced_nil : Balanced [] := fun o _ _ _ => ⟨o, ⟨rfl, rfl, rfl, rfl⟩, rfl⟩

theorem balanced_char (c : Char) : Balanced [.char c] :=
  fun o _ _ _ => ⟨{ o with pending := c :: o.pending }, ⟨rfl, rfl, rfl, rfl⟩, rfl⟩

theorem Balanced.append {ts us : List Token} (ht : Balanced ts) (hu : Balanced us) :
    Balanced (ts ++ us) := by
  intro o os rest ho
  obtain ⟨p, hop, hp⟩ := ht o os (us ++ rest) ho
  obtain ⟨q, hpq, hq⟩ := hu p os rest (hop.scope.trans ho)
  refine ⟨q, ⟨hpq.raw.trans hop.raw, hpq.name.trans hop.name, hpq.attrs.trans hop.attrs,
    hpq.scope.trans hop.scope⟩, ?_⟩
  rw [List.append_assoc, hp, hq]

variable {tag : String} {pairs : List (String × String)} {ts : List Token}

theorem balanced_element (htag : isLocalName tag.toList = true) (hpairs : PlainAttrs pairs)
    (hts : Balanced ts) :
    Balanced (.start tag.toList (rawAttrs pairs) :: (ts ++ [.finish tag.toList])) := by
  intro o os rest ho
  have hattributes : attributes? svgScope ([] ++ rawAttrs pairs) = some pairs :=
    attributes?_rawAttrs hpairs (by simp) List.nodup_nil
  obtain ⟨p, hp, htree⟩ := hts (opened tag pairs) (o :: os) ([.finish tag.toList] ++ rest) rfl
  rw [List.nil_append] at hattributes
  refine ⟨o.add p.element, ⟨rfl, rfl, rfl, rfl⟩, ?_⟩
  rw [List.cons_append, List.append_assoc, tree?]
  simp only [ho, declare_of_none fun _ ha => hpairs.notDeclaring ha, Option.bind_eq_bind,
    Option.bind_some, elementName?_svgScope htag, hattributes]
  refine htree.trans ?_
  have hraw : (tag.toList != p.raw) = false := by rw [hp.raw]; exact bne_self_eq_false _
  rw [List.singleton_append, tree?, hraw]
  rfl

/-- The tokens of a document give a tree of its root. -/
theorem tree?_balanced (htag : isLocalName tag.toList = true) (hpairs : PlainAttrs pairs)
    (hts : Balanced ts) : ∃ content,
      tree? (.start tag.toList (svgDeclaration :: rawAttrs pairs) :: (ts ++ [.finish tag.toList])) [] =
        some (.element (qualified tag) pairs content) := by
  have hattributes : attributes? svgScope ([svgDeclaration] ++ rawAttrs pairs) = some pairs :=
    attributes?_rawAttrs hpairs (by decide) (by simp)
  obtain ⟨p, hp, htree⟩ := hts (opened tag pairs) [] [.finish tag.toList] rfl
  rw [List.singleton_append] at hattributes
  have hraw : (tag.toList != p.raw) = false := by rw [hp.raw]; exact bne_self_eq_false _
  have hroot : p.element = .element (qualified tag) pairs p.flushed.reverse := by
    unfold Open.element
    rw [hp.name, hp.attrs]
    rfl
  refine ⟨p.flushed.reverse, ?_⟩
  rw [tree?]
  simp only [declare_svgDeclaration hpairs, Option.bind_eq_bind, Option.bind_some,
    elementName?_svgScope htag, hattributes]
  refine htree.trans ?_
  rw [tree?, hraw, ← hroot]
  rfl

end Balanced

section Passes

variable {attrEntity : List Char → Option (List Char)} {entity : List Char → Option (Array Token)}

/-- A text within an element is read as tokens that leave it open, whatever stands after it. -/
structure Passes (s : List Char) : Prop where
  ends : ∀ rest, EndsText rest → EndsText (s ++ rest)
  -- A carriage return is read together with a line feed after it, so that the tokens depend on the rest.
  loop : ∀ rest, EndsText rest → ∃ steps ≤ s.length, ∃ ts, Balanced ts ∧
    ∀ attrEntity entity fuel depth taken,
      contentLoop attrEntity entity false (fuel + steps) (depth + 1) (s ++ rest) taken =
        contentLoop attrEntity entity false fuel (depth + 1) rest (taken ++ ts.toArray)

theorem passes_nil : Passes [] where
  ends _ h := h
  loop _ _ := ⟨0, Nat.le_refl 0, [], balanced_nil, by simp⟩

theorem Passes.append {s t : List Char} (hs : Passes s) (ht : Passes t) : Passes (s ++ t) where
  ends rest h := by
    rw [List.append_assoc]
    exact hs.ends _ (ht.ends _ h)
  loop rest hrest := by
    obtain ⟨m, hm, ss, hss, hs'⟩ := hs.loop _ (ht.ends rest hrest)
    obtain ⟨n, hn, ts, hts, ht'⟩ := ht.loop rest hrest
    refine ⟨n + m, by rw [List.length_append]; omega, ss ++ ts, hss.append hts, ?_⟩
    intro attrEntity entity fuel depth taken
    rw [List.append_assoc, ← Nat.add_assoc, hs', ht']
    simp

theorem contentLoop_of_contentChar? {c d : Char} {rest r : List Char} (hlt : c ≠ '<') (hamp : c ≠ '&')
    (hclose : c ≠ ']') (h : contentChar? (c :: rest) = some (d, r)) (fuel depth : Nat)
    (taken : Array Token) : contentLoop attrEntity entity false (fuel + 1) depth (c :: rest) taken =
      contentLoop attrEntity entity false fuel depth r (taken.push (.char d)) := by
  have hmark : [']', ']', '>'].isPrefixOf (c :: rest) = false := by
    rw [← Bool.not_eq_true, List.isPrefixOf_iff_prefix]
    exact fun hp => hclose (List.cons_prefix_cons.mp hp).1.symm
  rw [contentLoop.eq_def]
  dsimp only
  rw [if_neg (by simpa using hlt), if_neg (by simpa using hamp), hmark, h]
  rfl

/-- A carriage return is read as a line feed, and as nothing before one. -/
theorem passes_return : Passes ['\r'] where
  ends rest h := endsText_cons (c := '\r') (by decide) (by decide) rest
  loop rest hrest := by
    by_cases hline : ∃ r, rest = '\n' :: r
    · obtain ⟨r, rfl⟩ := hline
      refine ⟨0, Nat.zero_le _, [], balanced_nil, ?_⟩
      intro attrEntity entity fuel depth taken
      cases fuel with
      | zero => rfl
      | succ fuel =>
        have hboth : contentChar? ('\r' :: '\n' :: r) = some ('\n', r) := rfl
        have hone : contentChar? ('\n' :: r) = some ('\n', r) :=
          contentChar?_cons (by decide) (by decide) r
        rw [List.singleton_append, Nat.add_zero, Array.append_empty,
          contentLoop_of_contentChar? (by decide) (by decide) (by decide) hboth,
          contentLoop_of_contentChar? (by decide) (by decide) (by decide) hone]
    · have hone : contentChar? ('\r' :: rest) = some ('\n', rest) := by
        unfold contentChar?
        split
        · rename_i r h
          exact absurd ⟨r, (List.cons.inj h).2⟩ hline
        · rename_i h
          rw [(List.cons.inj h).2]
        · rename_i hnot h
          exact (hnot (List.cons.inj h).1.symm).elim
        · rename_i h
          cases h
      refine ⟨1, Nat.le_refl 1, [.char '\n'], balanced_char '\n', ?_⟩
      intro attrEntity entity fuel depth taken
      rw [List.singleton_append,
        contentLoop_of_contentChar? (by decide) (by decide) (by decide) hone]
      simp

theorem passes_char {c : Char} (hc : isChar c = true) : Passes (escapeTextChar c) := by
  by_cases hreturn : c = '\r'
  · rw [hreturn]
    exact passes_return
  · refine ⟨fun _ h => endsText_escapeTextChar c h, fun rest hrest => ?_⟩
    refine ⟨1, escapeTextChar_length c, [.char c], balanced_char c, ?_⟩
    intro attrEntity entity fuel depth taken
    rw [contentLoop_escapeTextChar hc hreturn hrest]
    simp

theorem passes_escaped {s : List Char} (hs : Legal s) : Passes (s.flatMap escapeTextChar) := by
  induction s with
  | nil => exact passes_nil
  | cons c s ih =>
    obtain ⟨hc, hs⟩ := List.forall_mem_cons.mp hs
    rw [List.flatMap_cons]
    exact (passes_char hc).append (ih hs)

variable {tag : String} {pairs : List (String × String)}

theorem passes_emptyElement (htag : isLocalName tag.toList = true) (hpairs : PlainAttrs pairs) :
    Passes (startTag tag.toList (rawAttrs pairs) true) where
  ends _ _ := endsText_startTag _ _ true _
  loop rest _ := by
    refine ⟨1, startTag_length _ _ true, _, balanced_element htag hpairs balanced_nil, ?_⟩
    intro attrEntity entity fuel depth taken
    rw [contentLoop_startTag htag hpairs.writable, if_pos rfl, if_neg (by simp), List.nil_append,
      ← push_append_toArray, ← push_append_toArray, Array.append_empty]

theorem passes_element (htag : isLocalName tag.toList = true) (hpairs : PlainAttrs pairs)
    {s : List Char} (hs : Passes s) :
    Passes (startTag tag.toList (rawAttrs pairs) false ++ (s ++ endTag tag.toList)) where
  ends rest _ := by
    rw [List.append_assoc]
    exact endsText_startTag _ _ false _
  loop rest _ := by
    obtain ⟨steps, hsteps, ts, hts, hloop⟩ := hs.loop _ (endsText_endTag tag.toList rest)
    have hstart := startTag_length tag.toList (rawAttrs pairs) false
    have hend := endTag_length tag.toList
    refine ⟨1 + steps + 1, by simp only [List.length_append]; omega, _,
      balanced_element htag hpairs hts, ?_⟩
    intro attrEntity entity fuel depth taken
    rw [List.append_assoc, ← Nat.add_assoc, contentLoop_startTag htag hpairs.writable,
      if_neg (by decide), ← Nat.add_assoc, List.append_assoc, hloop, contentLoop_endTag htag,
      if_neg (by simp)]
    simp

theorem passes_all {ms : List Markup} (h : ∀ m ∈ ms, Passes (written m)) :
    Passes (ms.flatMap written) := by
  induction ms with
  | nil => exact passes_nil
  | cons m ms ih =>
    rw [List.flatMap_cons]
    exact (h m List.mem_cons_self).append (ih fun n hn => h n (List.mem_cons_of_mem m hn))

theorem passes_written {m : Markup} (h : Legible m) : Passes (written m) := by
  induction h with
  | text hs =>
    rw [written_text]
    exact passes_escaped hs
  | @element tag attrs content htag hattrs _ ih =>
    have hnone : "".toList = [].flatMap writtenAttr := rfl
    have helement := toList_writeWith_element hnone (qualified tag) attrs content
    rw [written, helement, rawName_qualified htag, List.nil_append]
    cases hasContent content with
    | true => exact passes_element htag hattrs (passes_all ih)
    | false => simpa using passes_emptyElement htag hattrs

theorem root?_passes {name : List Char} {attrs : List (List Char × List Char)}
    (hname : isLocalName name = true) (hattrs : Writable attrs) {s : List Char} (hs : Passes s)
    (rest : List Char) : ∃ ts, Balanced ts ∧
      root? {} (startTag name attrs false ++ (s ++ (endTag name ++ rest))) =
        some ((.start name attrs :: (ts ++ [.finish name])).toArray, rest) := by
  obtain ⟨steps, hsteps, ts, hts, hloop⟩ := hs.loop _ (endsText_endTag name rest)
  have htag := startTag_length name attrs false
  have hend := endTag_length name
  obtain ⟨fuel, hfuel⟩ : ∃ fuel,
      (startTag name attrs false ++ (s ++ (endTag name ++ rest))).length = fuel + 1 + steps := by
    refine ⟨(startTag name attrs false ++ (s ++ (endTag name ++ rest))).length - 1 - steps, ?_⟩
    simp only [List.length_append]
    omega
  refine ⟨ts, hts, ?_⟩
  rw [root?_startTag hname, hfuel, contentLoop_startTag hname hattrs, if_neg (by decide), hloop,
    contentLoop_endTag hname, if_pos (by decide)]
  simp

end Passes

end WireSketch.Xml

namespace WireSketch.Markup
open Xml

variable {tag : String} {pairs : List (String × String)} {content : List Markup}

/-- What is written of legible parts is a document of the same root. -/
theorem ofText?_legible (htag : isLocalName tag.toList = true) (hpairs : PlainAttrs pairs)
    (hcontent : ∀ m ∈ content, Legible m) {text : String}
    (h : write (.element (qualified tag) pairs content) = .ok text) :
    ∃ parts, ofText? (text ++ "\n") = some (.element (qualified tag) pairs parts) := by
  cases (write_named htag hpairs.name fun m hm => (hcontent m hm).named).symm.trans h
  have hattrs : Writable ([svgDeclaration] ++ rawAttrs pairs) := by
    refine List.forall_mem_append.mpr ⟨?_, hpairs.writable⟩
    exact List.forall_mem_singleton.mpr ⟨by decide, by decide⟩
  obtain ⟨ts, hts, htokens⟩ : ∃ ts, Balanced ts ∧
      tokens? ((writeWith svgPrefixes (declarations svgPrefixes)
          (.element (qualified tag) pairs content)).toList ++ ['\n']) =
        some (.start tag.toList (svgDeclaration :: rawAttrs pairs) ::
          (ts ++ [.finish tag.toList])).toArray := by
    rw [toList_writeWith_element toList_declarations, rawName_qualified htag, List.append_assoc]
    cases hasContent content with
    | true =>
      obtain ⟨ts, hts, hroot⟩ := root?_passes htag hattrs
        (passes_all fun m hm => passes_written (hcontent m hm)) ['\n']
      refine ⟨ts, hts, tokens?_root htag ?_⟩
      rw [if_pos rfl, List.append_assoc]
      exact hroot
    | false => exact ⟨[], balanced_nil, tokens?_root htag (root?_emptyElement htag hattrs ['\n'])⟩
  obtain ⟨parts, htree⟩ := tree?_balanced htag hpairs hts
  refine ⟨parts, ?_⟩
  unfold ofText?
  rw [String.toList_append, show "\n".toList = ['\n'] from rfl, htokens]
  exact htree

end WireSketch.Markup
