import WireSketch.Proofs.Document.Written
import WireSketch.Proofs.Xml.Accepted

/-! The document of a script is read as SVG when its characters are legal, unless a name in it is none. -/
namespace WireSketch

namespace Markup
open Xml

mutual

/-- The characters of a tree's texts and of its attributes' values. -/
def chars : Markup → List Char
  | text s => s.toList
  | element _ attrs content => attrs.flatMap (·.2.toList) ++ charsAll content

def charsAll : List Markup → List Char
  | [] => []
  | m :: rest => chars m ++ charsAll rest

end

/-- Content that is not written has no characters. -/
theorem charsAll_of_hasContent {ms : List Markup} (h : hasContent ms = false) : charsAll ms = [] := by
  induction ms with
  | nil => rfl
  | cons m ms ih =>
    cases m with
    | element name attrs content => cases h
    | text s =>
      obtain ⟨hs, hrest⟩ := Bool.or_eq_false_iff.mp h
      have hempty : s = "" := by simpa using hs
      rw [charsAll, ih hrest, hempty]
      rfl

theorem legal_charsAll_indented {ms : List Markup} :
    Legal (charsAll (indented ms)) ↔ Legal (charsAll ms) := by
  have hblank : Legal (chars (.text "\n  ")) := by decide
  have hline : Legal (chars (.text "\n")) := by decide
  induction ms using indented.induct with
  | case1 => exact Iff.rfl
  | case2 m =>
    simp only [indented, charsAll, legal_append]
    exact ⟨fun h => ⟨h.2.1, h.2.2.2⟩, fun h => ⟨hblank, h.1, hline, h.2⟩⟩
  | case3 m rest hrest ih =>
    have ih : Legal (charsAll (indented rest)) ↔ Legal (charsAll rest) := ih
    rw [indented, charsAll, charsAll, charsAll, legal_append, legal_append, legal_append, ih]
    · exact ⟨fun h => h.2, fun h => ⟨hblank, h⟩⟩
    · exact hrest

section Written

variable {c : Char}

theorem ne_of_illegal (h : isChar c = false) {a : Char} (ha : isChar a = true) : c ≠ a := by
  rintro rfl
  rw [ha] at h
  cases h

/-- Only legal characters are written in another way. -/
theorem escapeTextChar_of_illegal (h : isChar c = false) : escapeTextChar c = [c] := by
  have hamp := ne_of_illegal h (a := '&') (by decide)
  have hlt := ne_of_illegal h (a := '<') (by decide)
  have hgt := ne_of_illegal h (a := '>') (by decide)
  simp [escapeTextChar, hamp, hlt, hgt]

theorem escapeAttrChar_of_illegal (h : isChar c = false) : escapeAttrChar c = [c] := by
  have hquote := ne_of_illegal h (a := '"') (by decide)
  have hreturn := ne_of_illegal h (a := '\r') (by decide)
  have hline := ne_of_illegal h (a := '\n') (by decide)
  have htab := ne_of_illegal h (a := '\t') (by decide)
  simp [escapeAttrChar, hquote, hreturn, hline, htab, escapeTextChar_of_illegal h]

theorem legal_of_escaped {escape : Char → List Char} (hescape : ∀ c, isChar c = false → escape c = [c])
    {s : List Char} (h : Legal (s.flatMap escape)) : Legal s := by
  intro c hc
  cases hchar : isChar c with
  | true => rfl
  | false =>
    have hwritten : c ∈ s.flatMap escape :=
      List.mem_flatMap_of_mem hc (by rw [hescape c hchar]; exact List.mem_singleton_self c)
    exact hchar.symm.trans (h c hwritten)

variable {known : Prefixes}

theorem legal_of_attrText {a : String × String} (h : Legal (attrText known a).toList) :
    Legal a.2.toList := by
  unfold attrText at h
  simp only [String.toList_append, legal_append] at h
  have hvalue : Legal (escapeAttr a.2).toList := h.1.2
  rw [escapeAttr, String.toList_ofList] at hvalue
  exact legal_of_escaped (fun _ => escapeAttrChar_of_illegal) hvalue

theorem legal_of_attrTexts {attrs : List (String × String)}
    (h : Legal (String.join (attrs.map (attrText known))).toList) :
    Legal (attrs.flatMap (·.2.toList)) := by
  rw [String.toList_join, List.flatMap_map] at h
  refine fun c hc => ?_
  obtain ⟨a, ha, hmem⟩ := List.mem_flatMap.mp hc
  have htext : Legal (attrText known a).toList := fun d hd => h d (List.mem_flatMap_of_mem ha hd)
  exact legal_of_attrText htext c hmem

mutual

/-- All characters of a tree can be seen in its text, whatever its names are. -/
theorem legal_of_writeWith : (m : Markup) → (extra : String) →
    Legal (writeWith known extra m).toList → Legal (chars m)
  | text s, extra, h => by
    rw [writeWith, escapeText, String.toList_ofList] at h
    exact legal_of_escaped (fun _ => escapeTextChar_of_illegal) h
  | element name attrs content, extra, h => by
    rw [writeWith] at h
    rw [chars, legal_append]
    cases hc : hasContent content with
    | true =>
      simp only [hc, if_true, String.toList_append, legal_append] at h
      obtain ⟨⟨⟨⟨⟨⟨-, hattrs⟩, -⟩, hcontent⟩, -⟩, -⟩, -⟩ := h
      rw [writeAll_eq, String.empty_append, String.toList_join, List.flatMap_map] at hcontent
      exact ⟨legal_of_attrTexts hattrs, legal_of_written content hcontent⟩
    | false =>
      simp only [hc, Bool.false_eq_true, if_false, String.toList_append, legal_append] at h
      rw [charsAll_of_hasContent hc]
      exact ⟨legal_of_attrTexts h.1.2, legal_nil⟩

theorem legal_of_written : (ms : List Markup) →
    Legal (ms.flatMap fun m => (writeWith known "" m).toList) → Legal (charsAll ms)
  | [], _ => legal_nil
  | m :: ms, h => by
    rw [List.flatMap_cons, legal_append] at h
    rw [charsAll, legal_append]
    exact ⟨legal_of_writeWith m "" h.1, legal_of_written ms h.2⟩

end

theorem prefix_of_declare {known' : Prefixes} {name : String} (h : declare known name = .ok known') :
    known <+: known' := by
  unfold declare at h
  split at h
  · cases h
  · cases h
    exact List.prefix_rfl
  · split at h
    · cases h
      exact List.prefix_rfl
    · cases h
      split
      · exact List.prefix_rfl
      · exact List.prefix_append _ _

theorem prefix_of_foldlM {names : List String} {known' : Prefixes}
    (h : names.foldlM declare known = .ok known') : known <+: known' := by
  induction names generalizing known with
  | nil =>
    cases h
    exact List.prefix_rfl
  | cons name names ih =>
    rw [List.foldlM_cons] at h
    obtain ⟨next, hnext, h⟩ := Except.of_bind_ok h
    exact (prefix_of_declare hnext).trans (ih h)

variable {tag : String} {attrs : List (String × String)} {content : List Markup} {text : String}

/-- The root stands at the start of a document, under its own name and with all its characters. -/
theorem of_write (htag : isLocalName tag.toList = true)
    (h : write (.element (qualified tag) attrs content) = .ok text) :
    (∃ rest, text.toList = '<' :: (tag.toList ++ rest)) ∧
      ∃ known extra, text = writeWith known extra (.element (qualified tag) attrs content) := by
  unfold write at h
  obtain ⟨known, hknown, h⟩ := Except.of_bind_ok h
  cases h
  refine ⟨?_, known, _, rfl⟩
  rw [names, List.cons_append, List.foldlM_cons, declare_qualified htag] at hknown
  obtain ⟨more, rfl⟩ := prefix_of_foldlM hknown
  have hname : prefixed (svgPrefixes ++ more) (qualified tag) = tag := by
    unfold prefixed
    rw [splitName_qualified htag]
    rfl
  rw [writeWith, hname]
  split
  · exact ⟨_, by simp only [String.toList_append, List.append_assoc]; rfl⟩
  · exact ⟨_, by simp only [String.toList_append, List.append_assoc]; rfl⟩

/-- A document that can be read has legal characters only. -/
theorem legal_of_ofText? (htag : isLocalName tag.toList = true)
    (h : write (.element (qualified tag) attrs content) = .ok text)
    (hread : (ofText? (text ++ "\n")).isSome = true) : Legal (charsAll content) := by
  obtain ⟨⟨rest, hstart⟩, known, extra, htext⟩ := of_write htag h
  have hlegal : Legal (text ++ "\n").toList := by
    obtain ⟨m, hm⟩ := Option.isSome_iff_exists.mp hread
    obtain ⟨ts, hts, -⟩ := Option.bind_eq_some_iff.mp hm
    cases hname : tag.toList with
    | nil =>
      rw [hname] at htag
      cases htag
    | cons c name =>
      rw [hname] at htag hstart
      rw [String.toList_append, hstart] at hts ⊢
      exact legal_of_tokens? (isNameStart_of_cons htag) hts
  rw [String.toList_append, legal_append, htext] at hlegal
  have hroot := legal_of_writeWith _ extra hlegal.1
  rw [chars, legal_append] at hroot
  exact hroot.2

end Written

theorem of_named_element {name : String} {attrs : List (String × String)} {content : List Markup}
    (h : Named (.element name attrs content)) :
    ∃ tag, name = qualified tag ∧ isLocalName tag.toList = true ∧ NamedAttrs attrs ∧
      ∀ m ∈ content, Named m := by
  cases h with
  | element htag hattrs hcontent => exact ⟨_, rfl, htag, hattrs, hcontent⟩

end Markup

section Attributes

theorem names_setText (name value : String) (done : List (String × String)) :
    (setText name value done).map (·.1) =
      if name ∈ done.map (·.1) then done.map (·.1) else done.map (·.1) ++ [name] := by
  by_cases hmem : name ∈ done.map (·.1)
  · rw [if_pos hmem]
    induction done with
    | nil => cases hmem
    | cons a done ih =>
      rw [setText]
      by_cases ha : a.1 = name
      · rw [if_pos (beq_iff_eq.mpr ha)]
        rfl
      · rw [if_neg (by simpa using ha), List.map_cons, List.map_cons,
          ih ((List.mem_cons.mp hmem).resolve_left (Ne.symm ha))]
  · rw [if_neg hmem, setText_of_not_mem hmem, List.map_append]
    rfl

/-- No attribute of an element stands twice. -/
theorem nodup_attributeTexts {store t : Store} {pairs : List (String × String)} : (attrs : Attrs) →
    (done : List (String × String)) → (done.map (·.1)).Nodup →
    attributeTexts attrs done store = .ok pairs t → (pairs.map (·.1)).Nodup
  | [], done, hdone, h => by
    cases h
    exact hdone
  | (key, v) :: attrs, done, hdone, h => by
    by_cases hv : v = .none
    · subst hv
      rw [attributeTexts] at h
      exact nodup_attributeTexts attrs done hdone h
    · rw [attributeTexts] at h
      · obtain ⟨name, t₁, -, h⟩ := Run.of_bind_ok h
        obtain ⟨text, t₂, -, h⟩ := Run.of_bind_ok h
        refine nodup_attributeTexts attrs _ ?_ h
        rw [names_setText]
        split
        · exact hdone
        · rename_i hfresh
          exact List.nodup_append.mpr ⟨hdone, by simp, fun a ha b hb => by
            rw [List.mem_singleton.mp hb]
            exact fun heq => hfresh (heq ▸ ha)⟩
      · exact hv

end Attributes

namespace Node
open Markup Xml

mutual

/-- The element of a node can be read when its names are names and its characters are legal. -/
theorem legible_of_toMarkup {store t : Store} : (n : Node) → {m : Markup} → n.toMarkup store = .ok m t →
    Named m → Legal m.chars → Legible m
  | .mk tag attrs content, m, h, hnamed, hlegal => by
    rw [toMarkup] at h
    obtain ⟨name, t₁, -, h⟩ := Run.of_bind_ok h
    obtain ⟨pairs, t₂, hpairs, h⟩ := Run.of_bind_ok h
    obtain ⟨parts, t₃, hparts, h⟩ := Run.of_bind_ok h
    cases h
    obtain ⟨tag', htag, hlocal, hattrs, hcontent⟩ := of_named_element hnamed
    rw [chars, legal_append] at hlegal
    have hvalues : ∀ a ∈ pairs, a.2.toList.all isChar = true := fun a ha =>
      List.all_eq_true.mpr fun c hc => hlegal.1 c (List.mem_flatMap_of_mem ha hc)
    rw [htag]
    exact .element hlocal ⟨hattrs, hvalues, nodup_attributeTexts attrs [] List.nodup_nil hpairs⟩
      (legible_of_contentMarkup content hparts hcontent hlegal.2)

theorem legible_of_contentMarkup {store t : Store} : (content : List Item) → {ms : List Markup} →
    contentMarkup content store = .ok ms t → (∀ m ∈ ms, Named m) → Legal (charsAll ms) →
      ∀ m ∈ ms, Legible m
  | [], ms, h, _, _ => by
    cases h
    nofun
  | .text s :: rest, ms, h, hnamed, hlegal => by
    rw [contentMarkup] at h
    obtain ⟨parts, t₁, hparts, h⟩ := Run.of_bind_ok h
    cases h
    rw [charsAll, legal_append] at hlegal
    have hrest := legible_of_contentMarkup rest hparts
      (fun m hm => hnamed m (List.mem_cons_of_mem _ hm)) hlegal.2
    exact List.forall_mem_cons.mpr ⟨.text hlegal.1, hrest⟩
  | .other v :: rest, ms, h, _, _ => by cases h
  | .node n :: rest, ms, h, hnamed, hlegal => by
    rw [contentMarkup] at h
    obtain ⟨m, t₁, hm, h⟩ := Run.of_bind_ok h
    obtain ⟨parts, t₂, hparts, h⟩ := Run.of_bind_ok h
    cases h
    rw [charsAll, legal_append] at hlegal
    have hnode := legible_of_toMarkup n hm (hnamed m List.mem_cons_self) hlegal.1
    have hrest := legible_of_contentMarkup rest hparts
      (fun m hm => hnamed m (List.mem_cons_of_mem _ hm)) hlegal.2
    exact List.forall_mem_cons.mpr ⟨hnode, hrest⟩

end

end Node

open Markup Xml

theorem legible_of_scene {body : List Value} {w t : World} {elements : List Markup}
    (h : body.mapM sceneMarkup w = .ok elements t) (hnamed : ∀ m ∈ elements, Named m)
    (hlegal : Legal (charsAll elements)) : ∀ m ∈ elements, Legible m := by
  induction body generalizing w elements with
  | nil =>
    cases h
    nofun
  | cons v body ih =>
    rw [List.mapM_cons] at h
    obtain ⟨m, t₁, hm, h⟩ := Run.of_bind_ok h
    obtain ⟨rest, t₂, hrest, h⟩ := Run.of_bind_ok h
    cases h
    obtain ⟨n, t₃, -, hm⟩ := Run.of_bind_ok hm
    obtain ⟨s, hmarkup, -⟩ := DrawM.of_ofStore_ok hm
    rw [charsAll, legal_append] at hlegal
    have hnode := n.legible_of_toMarkup hmarkup (hnamed m List.mem_cons_self) hlegal.1
    have hothers := ih hrest (fun k hk => hnamed k (List.mem_cons_of_mem m hk)) hlegal.2
    exact List.forall_mem_cons.mpr ⟨hnode, hothers⟩

theorem isSome_of_isSvg {text : String} (h : isSvg text = true) : (ofText? text).isSome = true := by
  unfold isSvg at h
  split at h
  · rename_i hread
    rw [hread]
    rfl
  · cases h

theorem legible_indented {ms : List Markup} (h : ∀ m ∈ ms, Legible m) :
    ∀ m ∈ indented ms, Legible m := by
  intro m hm
  rcases mem_indented hm with hm | rfl | rfl
  · exact h m hm
  · exact .text (by decide)
  · exact .text (by decide)

/-- A document that is read as SVG has legal characters only; the other way round its names count too. -/
theorem isSvg_document {width height : Value} {body : List Value} {w t : World} {text : String}
    (h : document width height body w = .ok text t) : ∃ elements,
      body.mapM sceneMarkup w = .ok elements t ∧ (isSvg text = true → Legal (charsAll elements)) ∧
      ((∀ m ∈ elements, Named m) → Legal (charsAll elements) → isSvg text = true) := by
  obtain ⟨a, b, elements, written, ha, hb, hscene, hwrite, rfl⟩ := of_document_ok h
  refine ⟨elements, hscene, fun hsvg => ?_, fun hnamed hlegal => ?_⟩
  · have hlegal := legal_of_ofText? isLocalName_svg hwrite (isSome_of_isSvg hsvg)
    exact legal_charsAll_indented.mp hlegal
  · have hsize := plainAttrs_size (printed_coordinate ha) (printed_coordinate hb)
    obtain ⟨parts, hread⟩ := ofText?_legible isLocalName_svg hsize
      (legible_indented (legible_of_scene hscene hnamed hlegal)) hwrite
    exact isSvg_of_root hread

/-- The text of a script whose drawing is made of XML names is read as SVG just if the texts and the values in
it are made of characters of XML; no text with others is. -/
theorem isSvg_generate_iff {budget : Int} {source text : String} (h : generate budget source = .ok text) :
    ∃ world store elements t, buildDiagram budget source = .ok world ∧
      world.scene.toList.mapM sceneMarkup { world with store } = .ok elements t ∧
      (isSvg text = true → Legal (charsAll elements)) ∧
      ((∀ m ∈ elements, Named m) → (isSvg text = true ↔ Legal (charsAll elements))) := by
  obtain ⟨world, width, height, store, t, hbuild, hdocument⟩ := of_generate_ok h
  obtain ⟨elements, hscene, honly, hread⟩ := isSvg_document hdocument
  exact ⟨world, store, elements, t, hbuild, hscene, honly, fun hnamed => ⟨honly, hread hnamed⟩⟩

/-- A label of legal characters. -/
theorem isSvg_generate_label : ∃ text world store elements t,
    generate defaultBudget "append_scene(svg_text('a'))\n" = .ok text ∧
    buildDiagram defaultBudget "append_scene(svg_text('a'))\n" = .ok world ∧
    world.scene.toList.mapM sceneMarkup { world with store } = .ok elements t ∧
    (isSvg text = true → Legal (charsAll elements)) ∧
    ((∀ m ∈ elements, Named m) → (isSvg text = true ↔ Legal (charsAll elements))) := by
  have hreturns : (generate defaultBudget "append_scene(svg_text('a'))\n").toOption.isSome = true := by
    decide +kernel
  cases h : generate defaultBudget "append_scene(svg_text('a'))\n" with
  | error f =>
    rw [h] at hreturns
    cases hreturns
  | ok written =>
    obtain ⟨world, store, elements, t, hrest⟩ := isSvg_generate_iff h
    exact ⟨written, world, store, elements, t, rfl, hrest⟩

/-- A control character is written as it stands, and then the document cannot be read. -/
theorem generate_control : ∃ text,
    generate defaultBudget "append_scene(svg_text('\\x01'))\n" = .ok text ∧ isSvg text = false := by
  have hread : (generate defaultBudget "append_scene(svg_text('\\x01'))\n").toOption.any (!isSvg ·) = true := by
    decide +kernel
  cases h : generate defaultBudget "append_scene(svg_text('\\x01'))\n" with
  | error f =>
    rw [h] at hread
    cases hread
  | ok written =>
    rw [h] at hread
    have hnot : (!isSvg written) = true := hread
    exact ⟨written, rfl, by simpa using hnot⟩

end WireSketch
