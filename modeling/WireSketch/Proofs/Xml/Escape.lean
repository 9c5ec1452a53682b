import WireSketch.Proofs.Xml.Name

/-! Escaped characters of texts and of attribute values are read as the characters they stand for. -/
namespace WireSketch.Xml
open Markup

section AttributeValues

variable {entity : List Char → Option (List Char)}

theorem attrLoop_reference {c : Char} {s rest : List Char} (h : reference? s = some (.char c, rest))
    (fuel : Nat) (taken : List Char) :
    attrLoop entity (some '"') (fuel + 1) ('&' :: s) taken =
      attrLoop entity (some '"') fuel rest (c :: taken) := by
  rw [attrLoop.eq_def]
  dsimp only
  rw [if_neg (by decide), if_neg (by decide), if_pos (by decide), h]
  rfl

/-- A character that stands for itself in an attribute's value. -/
theorem attrLoop_char {c : Char} (hc : isChar c = true) (hquote : c ≠ '"') (hlt : c ≠ '<')
    (hamp : c ≠ '&') (hspace : isSpace c = true → c = ' ') (fuel : Nat) (rest taken : List Char) :
    attrLoop entity (some '"') (fuel + 1) (c :: rest) taken =
      attrLoop entity (some '"') fuel rest (c :: taken) := by
  have hreturn : c ≠ '\r' := by
    rintro rfl
    exact absurd (hspace (by decide)) (by decide)
  rw [attrLoop.eq_def]
  dsimp only
  rw [if_neg (by simpa using Ne.symm hquote), if_neg (by simpa using hlt), if_neg (by simpa using hamp),
    if_neg (by simpa using hreturn)]
  by_cases hs : isSpace c = true
  · rw [if_pos hs, hspace hs]
  · rw [if_neg hs, if_pos hc]

theorem attrLoop_escapeAttrChar {c : Char} (hc : isChar c = true) (fuel : Nat)
    (rest taken : List Char) :
    attrLoop entity (some '"') (fuel + 1) (escapeAttrChar c ++ rest) taken =
      attrLoop entity (some '"') fuel rest (c :: taken) := by
  by_cases hquote : c = '"'
  · subst hquote
    exact attrLoop_reference rfl fuel taken
  by_cases hreturn : c = '\r'
  · subst hreturn
    exact attrLoop_reference rfl fuel taken
  by_cases hline : c = '\n'
  · subst hline
    exact attrLoop_reference rfl fuel taken
  by_cases htab : c = '\t'
  · subst htab
    exact attrLoop_reference rfl fuel taken
  by_cases hamp : c = '&'
  · subst hamp
    exact attrLoop_reference rfl fuel taken
  by_cases hlt : c = '<'
  · subst hlt
    exact attrLoop_reference rfl fuel taken
  by_cases hgt : c = '>'
  · subst hgt
    exact attrLoop_reference rfl fuel taken
  have hself : escapeAttrChar c = [c] := by
    simp [escapeAttrChar, escapeTextChar, hquote, hreturn, hline, htab, hamp, hlt, hgt]
  have hspace : isSpace c = true → c = ' ' := by
    intro h
    simpa [isSpace, hreturn, hline, htab] using h
  rw [hself]
  exact attrLoop_char hc hquote hlt hamp hspace fuel rest taken

theorem attrLoop_escaped {s : List Char} (hs : s.all isChar = true) (fuel : Nat)
    (rest taken : List Char) :
    attrLoop entity (some '"') (fuel + s.length) (s.flatMap escapeAttrChar ++ rest) taken =
      attrLoop entity (some '"') fuel rest (s.reverse ++ taken) := by
  induction s generalizing taken with
  | nil => rfl
  | cons c s ih =>
    obtain ⟨hc, hs⟩ := Bool.and_eq_true_iff.mp hs
    rw [List.flatMap_cons, List.append_assoc, List.length_cons, ← Nat.add_assoc,
      attrLoop_escapeAttrChar hc, ih hs, List.reverse_cons, List.append_assoc, List.singleton_append]

theorem length_le_flatMap {escape : Char → List Char} (h : ∀ c, 1 ≤ (escape c).length) (s : List Char) :
    s.length ≤ (s.flatMap escape).length := by
  induction s with
  | nil => exact Nat.le_refl 0
  | cons c s ih =>
    have hc := h c
    rw [List.flatMap_cons, List.length_append, List.length_cons]
    omega

theorem escapeTextChar_length (c : Char) : 1 ≤ (escapeTextChar c).length := by
  unfold escapeTextChar
  split
  · decide
  split
  · decide
  split
  · decide
  · exact Nat.le_refl 1

theorem escapeAttrChar_length (c : Char) : 1 ≤ (escapeAttrChar c).length := by
  unfold escapeAttrChar
  split
  · decide
  split
  · decide
  split
  · decide
  split
  · decide
  · exact escapeTextChar_length c

/-- A written value is read up to its quote, with all its characters. -/
theorem attrLoop_written {s : List Char} (hs : s.all isChar = true) (rest : List Char) :
    attrLoop entity (some '"') ((s.flatMap escapeAttrChar ++ '"' :: rest).length + 1)
      (s.flatMap escapeAttrChar ++ '"' :: rest) [] = some (s, rest) := by
  have hlength := length_le_flatMap escapeAttrChar_length s
  obtain ⟨fuel, hfuel⟩ : ∃ fuel, (s.flatMap escapeAttrChar ++ '"' :: rest).length + 1 =
      fuel + 1 + s.length := by
    refine ⟨(s.flatMap escapeAttrChar).length - s.length + 1 + rest.length, ?_⟩
    rw [List.length_append, List.length_cons]
    omega
  rw [hfuel, attrLoop_escaped hs, List.append_nil, attrLoop.eq_def]
  dsimp only
  rw [if_pos (by decide), List.reverse_reverse]

end AttributeValues

section Texts

variable {attrEntity : List Char → Option (List Char)} {entity : List Char → Option (Array Token)}
  {within : Bool}

/-- What follows a text does not complete the mark `]]>`, which may not stand in one. -/
def EndsText (rest : List Char) : Prop := rest.head? ≠ some '>' ∧ ¬ [']', '>'] <+: rest

theorem endsText_cons {c : Char} (h : c ≠ '>') (hclose : c ≠ ']') (rest : List Char) :
    EndsText (c :: rest) := by
  refine ⟨fun hc => h (Option.some.inj hc), fun hp => ?_⟩
  exact hclose (List.cons_prefix_cons.mp hp).1.symm

theorem contentLoop_reference {c : Char} {s rest : List Char}
    (h : reference? s = some (.char c, rest)) (fuel depth : Nat) (taken : Array Token) :
    contentLoop attrEntity entity within (fuel + 1) depth ('&' :: s) taken =
      contentLoop attrEntity entity within fuel depth rest (taken.push (.char c)) := by
  rw [contentLoop.eq_def]
  dsimp only
  rw [if_neg (by decide), if_pos (by decide), h]
  rfl

theorem contentChar?_cons {c : Char} (hc : isChar c = true) (hreturn : c ≠ '\r') (rest : List Char) :
    contentChar? (c :: rest) = some (c, rest) := by
  unfold contentChar?
  split
  · rename_i h
    exact absurd (List.cons.inj h).1 hreturn
  · rename_i h
    exact absurd (List.cons.inj h).1 hreturn
  · rename_i h
    obtain ⟨rfl, rfl⟩ := List.cons.inj h
    rw [if_pos hc]
  · rename_i h
    cases h

/-- A character that stands for itself in a text. -/
theorem contentLoop_char {c : Char} (hc : isChar c = true) (hreturn : c ≠ '\r') (hlt : c ≠ '<')
    (hamp : c ≠ '&') {rest : List Char} (hrest : EndsText rest) (fuel depth : Nat)
    (taken : Array Token) :
    contentLoop attrEntity entity within (fuel + 1) depth (c :: rest) taken =
      contentLoop attrEntity entity within fuel depth rest (taken.push (.char c)) := by
  have hmark : [']', ']', '>'].isPrefixOf (c :: rest) = false := by
    rw [← Bool.not_eq_true, List.isPrefixOf_iff_prefix]
    exact fun h => hrest.2 (List.cons_prefix_cons.mp h).2
  rw [contentLoop.eq_def]
  dsimp only
  rw [if_neg (by simpa using hlt), if_neg (by simpa using hamp), hmark, contentChar?_cons hc hreturn]
  rfl

theorem contentLoop_escapeTextChar {c : Char} (hc : isChar c = true) (hreturn : c ≠ '\r')
    {rest : List Char} (hrest : EndsText rest) (fuel depth : Nat) (taken : Array Token) :
    contentLoop attrEntity entity within (fuel + 1) depth (escapeTextChar c ++ rest) taken =
      contentLoop attrEntity entity within fuel depth rest (taken.push (.char c)) := by
  by_cases hamp : c = '&'
  · subst hamp
    exact contentLoop_reference rfl fuel depth taken
  by_cases hlt : c = '<'
  · subst hlt
    exact contentLoop_reference rfl fuel depth taken
  by_cases hgt : c = '>'
  · subst hgt
    exact contentLoop_reference rfl fuel depth taken
  have hself : escapeTextChar c = [c] := by simp [escapeTextChar, hamp, hlt, hgt]
  rw [hself]
  exact contentLoop_char hc hreturn hlt hamp hrest fuel depth taken

/-- Escaped texts never complete the mark, as they have no closing angle bracket. -/
theorem endsText_escapeTextChar (c : Char) {rest : List Char} (h : EndsText rest) :
    EndsText (escapeTextChar c ++ rest) := by
  unfold escapeTextChar
  split
  · exact endsText_cons (by decide) (by decide) _
  split
  · exact endsText_cons (by decide) (by decide) _
  split
  · exact endsText_cons (by decide) (by decide) _
  · rename_i hgt
    refine ⟨fun hc => hgt (by simpa using hc), fun hp => ?_⟩
    obtain ⟨t, ht⟩ : ['>'] <+: rest := (List.cons_prefix_cons.mp hp).2
    exact h.1 (by rw [← ht]; rfl)

theorem endsText_escaped {rest : List Char} (h : EndsText rest) (s : List Char) :
    EndsText (s.flatMap escapeTextChar ++ rest) := by
  induction s with
  | nil => exact h
  | cons c s ih =>
    rw [List.flatMap_cons, List.append_assoc]
    exact endsText_escapeTextChar c ih

theorem push_append_toArray {α : Type} (done : Array α) (a : α) (s : List α) :
    done.push a ++ s.toArray = done ++ (a :: s).toArray := by
  apply Array.ext'
  simp

/-- A character of a text that is written and read unchanged; a carriage return is read as a line end. -/
def isTextChar (c : Char) : Bool := isChar c && c != '\r'

theorem contentLoop_escaped {s : List Char} (hs : s.all isTextChar = true) {rest : List Char}
    (hrest : EndsText rest) (fuel depth : Nat) (taken : Array Token) :
    contentLoop attrEntity entity within (fuel + s.length) depth (s.flatMap escapeTextChar ++ rest)
        taken =
      contentLoop attrEntity entity within fuel depth rest (taken ++ (s.map Token.char).toArray) := by
  induction s generalizing taken with
  | nil => simp
  | cons c s ih =>
    obtain ⟨hc, hs⟩ := Bool.and_eq_true_iff.mp hs
    obtain ⟨hchar, hreturn⟩ := Bool.and_eq_true_iff.mp hc
    rw [List.flatMap_cons, List.append_assoc, List.length_cons, ← Nat.add_assoc,
      contentLoop_escapeTextChar hchar (bne_iff_ne.mp hreturn) (endsText_escaped hrest s), ih hs,
      push_append_toArray, List.map_cons]

end Texts

end WireSketch.Xml
