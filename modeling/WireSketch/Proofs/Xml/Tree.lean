import WireSketch.Proofs.Xml.Root

/-! The tokens of a tree are read as the tree, with texts in a row joined. -/
namespace WireSketch

namespace Markup

def textContent (s : String) : List Markup := if s = "" then [] else [.text s]

/-- Content after a text `s`, with texts in a row joined and empty ones dropped. -/
def joinedFrom (s : String) : List Markup → List Markup
  | [] => textContent s
  | .text t :: rest => joinedFrom (s ++ t) rest
  | m :: rest => textContent s ++ m :: joinedFrom "" rest

def joined (content : List Markup) : List Markup := joinedFrom "" content

mutual

def normal : Markup → Markup
  | text s => .text s
  | element name attrs content => .element name attrs (joined (normalAll content))

def normalAll : List Markup → List Markup
  | [] => []
  | m :: rest => normal m :: normalAll rest

end

end Markup

namespace Xml
open Markup

def svgScope : Scope := [([], svgSpace.toList)]

theorem isDistinct_iff_nodup {α : Type} [BEq α] [LawfulBEq α] (l : List α) :
    isDistinct l = true ↔ l.Nodup := by
  induction l with
  | nil => simp [isDistinct]
  | cons a l ih => simp [isDistinct, ih]

theorem elementName?_svgScope {tag : String} (h : isLocalName tag.toList = true) :
    elementName? svgScope tag.toList = some (qualified tag) := by
  unfold elementName?
  rw [splitPrefix_localName h]
  change some (String.ofList ('\x7b' :: svgSpace.toList ++ '\x7d' :: tag.toList)) = _
  rw [← String.ofList_toList (s := qualified tag), toList_qualified]
  rfl

variable {pairs : List (String × String)} {scope : Scope}

theorem PlainAttrs.notDeclaring (h : PlainAttrs pairs) {a : List Char × List Char}
    (ha : a ∈ rawAttrs pairs) : declaredPrefix? a.1 = none := by
  rw [h.rawAttrs_eq] at ha
  obtain ⟨b, hb, rfl⟩ := List.mem_map.mp ha
  obtain ⟨hname, hxmlns⟩ := h.name b hb
  refine declaredPrefix?_localName hname fun hx => hxmlns ?_
  exact String.toList_inj.mp (hx.trans rfl)

/-- Attributes that declare no namespace leave the scope. -/
theorem declare_of_none {attrs : List (List Char × List Char)}
    (h : ∀ a ∈ attrs, declaredPrefix? a.1 = none) : declare scope attrs = some scope := by
  induction attrs with
  | nil => rfl
  | cons a attrs ih =>
    rw [declare, h a List.mem_cons_self]
    exact ih fun b hb => h b (List.mem_cons_of_mem a hb)

def svgDeclaration : List Char × List Char := (xmlnsPrefix, svgSpace.toList)

theorem declare_svgDeclaration (h : PlainAttrs pairs) :
    declare [] (svgDeclaration :: rawAttrs pairs) = some svgScope := by
  have hdeclared : declaredPrefix? svgDeclaration.1 = some [] := rfl
  have hmay : mayDeclare [] svgDeclaration.2 = true := by decide
  rw [declare, hdeclared]
  dsimp only
  rw [if_pos hmay]
  exact declare_of_none fun _ ha => h.notDeclaring ha

theorem attrName?_localName {name : String} (h : isLocalName name.toList = true) :
    attrName? scope name.toList = some name := by
  unfold attrName?
  rw [splitPrefix_localName h]
  exact congrArg some String.ofList_toList

theorem mapM_named? (h : PlainAttrs pairs) : (rawAttrs pairs).mapM (named? scope) = some pairs := by
  rw [h.rawAttrs_eq]
  have hnamed : ∀ a ∈ pairs, named? scope (a.1.toList, a.2.toList) = some a := by
    intro a ha
    unfold named?
    rw [attrName?_localName (h.name a ha).1, String.ofList_toList]
    rfl
  clear h
  induction pairs with
  | nil => rfl
  | cons a pairs ih =>
    rw [List.map_cons, List.mapM_cons, hnamed a List.mem_cons_self,
      ih fun b hb => hnamed b (List.mem_cons_of_mem a hb)]
    rfl

theorem rawAttrs_nodup (h : PlainAttrs pairs) : ((rawAttrs pairs).map (·.1)).Nodup := by
  have hmap : (rawAttrs pairs).map (·.1) = (pairs.map (·.1)).map String.toList := by
    rw [h.rawAttrs_eq, List.map_map, List.map_map]
    rfl
  rw [hmap]
  exact List.Pairwise.map String.toList (fun _ _ hne heq => hne (String.toList_inj.mp heq)) h.nodup

/-- Attributes in no namespace are the ones that were written; declarations are not among them. -/
theorem attributes?_rawAttrs (h : PlainAttrs pairs) {declared : List (List Char × List Char)}
    (hdeclared : ∀ a ∈ declared, (declaredPrefix? a.1).isNone = false)
    (hnodup : (declared.map (·.1)).Nodup) :
    attributes? scope (declared ++ rawAttrs pairs) = some pairs := by
  have hdistinct : ((declared ++ rawAttrs pairs).map (·.1)).Nodup := by
    rw [List.map_append]
    refine List.nodup_append.mpr ⟨hnodup, rawAttrs_nodup h, ?_⟩
    rintro name hname other hother rfl
    obtain ⟨a, ha, rfl⟩ := List.mem_map.mp hname
    obtain ⟨b, hb, hab⟩ := List.mem_map.mp hother
    have hnone := h.notDeclaring hb
    have hsome := hdeclared a ha
    rw [← hab, hnone] at hsome
    cases hsome
  have hdropped : declared.filter (fun a => (declaredPrefix? a.1).isNone) = [] :=
    List.filter_eq_nil_iff.mpr fun a ha => by rw [hdeclared a ha]; decide
  have hkept : (rawAttrs pairs).filter (fun a => (declaredPrefix? a.1).isNone) = rawAttrs pairs :=
    List.filter_eq_self.mpr fun a ha => by rw [h.notDeclaring ha]; rfl
  have hnames : isDistinct (pairs.map (·.1)) = true := (isDistinct_iff_nodup _).mpr h.nodup
  unfold attributes?
  rw [(isDistinct_iff_nodup _).mpr hdistinct, if_neg (by decide), List.filter_append, hdropped,
    hkept, List.nil_append]
  simp only [mapM_named? h, Option.bind_eq_bind, Option.bind_some, hnames, if_true]

namespace Open

def take (o : Open) : Markup → Open
  | .text s => { o with pending := s.toList.reverse ++ o.pending }
  | .element name attrs content => o.add (normal (.element name attrs content))

theorem take_scope (o : Open) (m : Markup) : (o.take m).scope = o.scope := by
  cases m with
  | text s => rfl
  | element name attrs content => rfl

theorem take_name (o : Open) (m : Markup) : (o.take m).raw = o.raw ∧ (o.take m).name = o.name ∧
    (o.take m).attrs = o.attrs := by
  cases m with
  | text s => exact ⟨rfl, rfl, rfl⟩
  | element name attrs content => exact ⟨rfl, rfl, rfl⟩

theorem foldl_take_name (o : Open) (ms : List Markup) : (ms.foldl take o).raw = o.raw ∧
    (ms.foldl take o).name = o.name ∧ (ms.foldl take o).attrs = o.attrs := by
  induction ms generalizing o with
  | nil => exact ⟨rfl, rfl, rfl⟩
  | cons m ms ih =>
    obtain ⟨hraw, hname, hattrs⟩ := ih (o.take m)
    obtain ⟨hraw', hname', hattrs'⟩ := take_name o m
    exact ⟨hraw.trans hraw', hname.trans hname', hattrs.trans hattrs'⟩

theorem flushed_reverse (o : Open) :
    o.flushed.reverse = o.content.reverse ++ textContent (String.ofList o.pending.reverse) := by
  unfold flushed textContent
  cases hp : o.pending with
  | nil => simp
  | cons c s => simp

/-- Content is taken with its texts joined, the pending one in front. -/
theorem flushed_foldl_take (o : Open) (ms : List Markup) :
    (ms.foldl take o).flushed.reverse =
      o.content.reverse ++ joinedFrom (String.ofList o.pending.reverse) (normalAll ms) := by
  induction ms generalizing o with
  | nil => rw [List.foldl_nil, flushed_reverse, normalAll, joinedFrom]
  | cons m ms ih =>
    rw [List.foldl_cons, ih, normalAll]
    cases m with
    | text s =>
      rw [normal, joinedFrom]
      simp [take]
    | element name attrs content =>
      rw [normal, joinedFrom]
      · have hcontent : (o.take (.element name attrs content)).content.reverse =
            o.flushed.reverse ++ [normal (.element name attrs content)] := List.reverse_cons
        rw [hcontent, flushed_reverse, List.append_assoc, List.append_assoc]
        rfl
      · simp

end Open

def opened (tag : String) (pairs : List (String × String)) : Open :=
  { raw := tag.toList, name := qualified tag, attrs := pairs, scope := svgScope }

theorem element_foldl_take (tag : String) (pairs : List (String × String)) (content : List Markup) :
    (content.foldl Open.take (opened tag pairs)).element =
      normal (.element (qualified tag) pairs content) := by
  obtain ⟨-, hname, hattrs⟩ := Open.foldl_take_name (opened tag pairs) content
  have hflushed := Open.flushed_foldl_take (opened tag pairs) content
  unfold Open.element
  rw [hname, hattrs, hflushed, normal]
  rfl

/-- The end tag of an element has the name of its start tag, whatever stands between them. -/
theorem endsOpened (tag : String) (pairs : List (String × String)) (content : List Markup) :
    (tag.toList != (content.foldl Open.take (opened tag pairs)).raw) = false := by
  rw [(Open.foldl_take_name (opened tag pairs) content).1]
  exact bne_self_eq_false _

theorem tree?_chars (s : List Char) (rest : List Token) (o : Open) (os : List Open) :
    tree? (s.map Token.char ++ rest) (o :: os) =
      tree? rest ({ o with pending := s.reverse ++ o.pending } :: os) := by
  induction s generalizing o with
  | nil => rfl
  | cons c s ih =>
    rw [List.map_cons, List.cons_append, tree?, ih]
    simp

theorem tree?_tokensAll {ms : List Markup}
    (h : ∀ m ∈ ms, ∀ o os rest, o.scope = svgScope →
      tree? (tokens m ++ rest) (o :: os) = tree? rest (o.take m :: os))
    (o : Open) (os : List Open) (rest : List Token) (ho : o.scope = svgScope) :
    tree? (tokensAll ms ++ rest) (o :: os) = tree? rest (ms.foldl Open.take o :: os) := by
  induction ms generalizing o with
  | nil => rfl
  | cons m ms ih =>
    rw [tokensAll, List.append_assoc, h m List.mem_cons_self o os _ ho,
      ih (fun n hn => h n (List.mem_cons_of_mem m hn)) _ ((o.take_scope m).trans ho)]
    rfl

/-- The tokens of a tree within an element are taken into the element. -/
theorem tree?_tokens {m : Markup} (h : Plain m) : ∀ o os rest, o.scope = svgScope →
    tree? (tokens m ++ rest) (o :: os) = tree? rest (o.take m :: os) := by
  induction h with
  | text hs =>
    intro o os rest _
    rw [tokens, tree?_chars]
    rfl
  | @element tag pairs content htag hpairs _ ih =>
    intro o os rest ho
    have hattributes : attributes? svgScope ([] ++ rawAttrs pairs) = some pairs :=
      attributes?_rawAttrs hpairs (by simp) List.nodup_nil
    have hcontent := tree?_tokensAll ih (opened tag pairs) (o :: os)
      ([.finish tag.toList] ++ rest) rfl
    rw [List.nil_append] at hattributes
    rw [tokens, rawName_qualified htag, List.cons_append, List.append_assoc, tree?]
    simp only [ho, declare_of_none fun _ ha => hpairs.notDeclaring ha, Option.bind_eq_bind,
      Option.bind_some, elementName?_svgScope htag, hattributes]
    refine hcontent.trans ?_
    rw [List.singleton_append, tree?, endsOpened, if_neg (by decide), element_foldl_take]
    rfl

/-- The tokens of a document give the tree of its root. -/
theorem tree?_root {tag : String} {content : List Markup} (htag : isLocalName tag.toList = true)
    (hpairs : PlainAttrs pairs) (hcontent : ∀ m ∈ content, Plain m) :
    tree? (.start tag.toList (svgDeclaration :: rawAttrs pairs) ::
        (tokensAll content ++ [.finish tag.toList])) [] =
      some (normal (.element (qualified tag) pairs content)) := by
  have hattributes : attributes? svgScope ([svgDeclaration] ++ rawAttrs pairs) = some pairs :=
    attributes?_rawAttrs hpairs (by decide) (by simp)
  have htree := tree?_tokensAll (fun m hm => tree?_tokens (hcontent m hm)) (opened tag pairs) []
    [.finish tag.toList] rfl
  rw [List.singleton_append] at hattributes
  rw [tree?]
  simp only [declare_svgDeclaration hpairs, Option.bind_eq_bind, Option.bind_some,
    elementName?_svgScope htag, hattributes]
  refine htree.trans ?_
  rw [tree?, endsOpened, if_neg (by decide), element_foldl_take]
  rfl

end Xml
end WireSketch
