import WireSketch.Proofs.Xml.Content

/-! A written document is read as the tokens of its root. -/
namespace WireSketch.Xml
open Markup

theorem after?_eq_none {start s : List Char} (h : ¬ start <+: s) : after? start s = none := by
  unfold after?
  rw [if_neg (fun hp => h (List.isPrefixOf_iff_prefix.mp hp))]

/-- A document that starts with its root has nothing in front of it that would be skipped. -/
theorem tokens?_eq {c : Char} (hc : isNameStart c = true) (s : List Char) :
    tokens? ('<' :: c :: s) = (root? {} ('<' :: c :: s)).bind fun (ts, rest) =>
      (skipMisc (rest.length + 1) rest).bind fun rest => if rest.isEmpty then some ts else none := by
  have hquestion := ne_of_isNameStart hc (a := '?') (by decide)
  have hbang := ne_of_isNameStart hc (a := '!') (by decide)
  have hdeclaration : skipDeclaration ('<' :: c :: s) = some ('<' :: c :: s) := by
    unfold skipDeclaration
    rw [after?_eq_none]
    intro h
    exact hquestion (List.cons_prefix_cons.mp (List.cons_prefix_cons.mp h).2).1.symm
  have hmisc : skipMisc (('<' :: c :: s).length + 1) ('<' :: c :: s) = some ('<' :: c :: s) := by
    rw [skipMisc, skipSpace_cons (by decide)]
    split
    · rename_i h
      cases h
      exact absurd rfl hbang
    · rename_i h
      cases h
      exact absurd rfl hquestion
    · rfl
  have htype : after? "<!DOCTYPE".toList ('<' :: c :: s) = none := by
    refine after?_eq_none fun h => ?_
    exact hbang (List.cons_prefix_cons.mp (List.cons_prefix_cons.mp h).2).1.symm
  unfold tokens?
  dsimp only
  rw [List.head?_cons, if_neg (by decide), hdeclaration]
  simp only [Option.bind_eq_bind, Option.bind_some, hmisc, htype, pure]

theorem tokens?_of_root? {c : Char} (hc : isNameStart c = true) {s rest : List Char}
    {ts : Array Token} (hroot : root? {} ('<' :: c :: s) = some (ts, rest))
    (hrest : skipMisc (rest.length + 1) rest = some []) : tokens? ('<' :: c :: s) = some ts := by
  rw [tokens?_eq hc, hroot]
  dsimp only [Option.bind_some]
  rw [hrest]
  rfl

variable {name : List Char} {attrs : List (List Char × List Char)}

theorem startTag_cons {c : Char} {s : List Char} (attrs : List (List Char × List Char)) (empty : Bool)
    (rest : List Char) : ∃ t, startTag (c :: s) attrs empty ++ rest = '<' :: c :: t := ⟨_, rfl⟩

/-- The root is read as content in which no element is open. -/
theorem root?_startTag (hname : isLocalName name = true) (empty : Bool) (rest : List Char) :
    root? {} (startTag name attrs empty ++ rest) =
      contentLoop (attrEntity {} (Entities.depth {}) []) (contentEntity {} (Entities.depth {}) [])
        false ((startTag name attrs empty ++ rest).length + 1) 0 (startTag name attrs empty ++ rest)
        #[] := by
  cases name with
  | nil => cases hname
  | cons c s =>
    obtain ⟨t, ht⟩ := startTag_cons (c := c) (s := s) attrs empty rest
    rw [ht, root?, if_pos (isNameStart_of_cons hname)]

theorem root?_emptyElement (hname : isLocalName name = true) (hattrs : Writable attrs)
    (rest : List Char) : root? {} (startTag name attrs true ++ rest) =
      some (#[.start name attrs, .finish name], rest) := by
  rw [root?_startTag hname, contentLoop_startTag hname hattrs, if_pos rfl, if_pos (by decide)]
  rfl

theorem root?_element (hname : isLocalName name = true) (hattrs : Writable attrs) {s : List Char}
    {ts : List Token} (hs : Reads s ts) (rest : List Char) :
    root? {} (startTag name attrs false ++ (s ++ (endTag name ++ rest))) =
      some ((.start name attrs :: (ts ++ [.finish name])).toArray, rest) := by
  obtain ⟨steps, hsteps, hs⟩ := hs.loop
  have htag := startTag_length name attrs false
  have hend := endTag_length name
  obtain ⟨fuel, hfuel⟩ : ∃ fuel,
      (startTag name attrs false ++ (s ++ (endTag name ++ rest))).length = fuel + 1 + steps := by
    refine ⟨(startTag name attrs false ++ (s ++ (endTag name ++ rest))).length - 1 - steps, ?_⟩
    simp only [List.length_append]
    omega
  rw [root?_startTag hname, hfuel, contentLoop_startTag hname hattrs, if_neg (by decide),
    hs _ _ _ _ _ _ (endsText_endTag name rest), contentLoop_endTag hname, if_pos (by decide)]
  simp

/-- A document that consists of its root and a line end. -/
theorem tokens?_root (hname : isLocalName name = true) {empty : Bool} {s : List Char}
    {ts : Array Token}
    (hroot : root? {} (startTag name attrs empty ++ (s ++ ['\n'])) = some (ts, ['\n'])) :
    tokens? (startTag name attrs empty ++ (s ++ ['\n'])) = some ts := by
  cases name with
  | nil => cases hname
  | cons c r =>
    obtain ⟨t, ht⟩ := startTag_cons (c := c) (s := r) attrs empty (s ++ ['\n'])
    rw [ht] at hroot ⊢
    exact tokens?_of_root? (isNameStart_of_cons hname) hroot rfl

variable {tag extra : String} {pairs : List (String × String)} {content : List Markup}
  {extras : List (List Char × List Char)}

/-- A written document is read as the tokens of its tree, with the attributes put in front. -/
theorem tokens?_written (htag : isLocalName tag.toList = true) (hpairs : PlainAttrs pairs)
    (hcontent : ∀ m ∈ content, Plain m) (hextra : extra.toList = extras.flatMap writtenAttr)
    (hextras : Writable extras) :
    tokens? ((writeWith svgPrefixes extra (.element (qualified tag) pairs content)).toList ++ ['\n']) =
      some (.start tag.toList (extras ++ rawAttrs pairs) ::
        (tokensAll content ++ [.finish tag.toList])).toArray := by
  have hattrs : Writable (extras ++ rawAttrs pairs) := fun a ha =>
    (List.mem_append.mp ha).elim (hextras a) (hpairs.writable a)
  have hreads := reads_tokensAll fun m hm => reads_written (hcontent m hm)
  rw [toList_writeWith_element hextra, rawName_qualified htag, List.append_assoc]
  cases hc : hasContent content with
  | true =>
    refine tokens?_root htag ?_
    rw [if_pos rfl, List.append_assoc]
    exact root?_element htag hattrs hreads ['\n']
  | false =>
    refine tokens?_root htag ?_
    rw [tokensAll_of_hasContent hc]
    exact root?_emptyElement htag hattrs ['\n']

end WireSketch.Xml
