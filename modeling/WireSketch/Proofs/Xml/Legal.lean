import WireSketch.Proofs.Text.Lower
import WireSketch.Proofs.Xml.Root

/-! A document that is read consists of characters that may stand in a document. -/
namespace WireSketch.Xml

def Legal (s : List Char) : Prop := ∀ c ∈ s, isChar c = true

instance (s : List Char) : Decidable (Legal s) := decidable_of_iff (s.all isChar = true) List.all_eq_true

variable {s r : List Char} {c : Char}

theorem legal_nil : Legal [] := nofun

theorem legal_cons (hc : isChar c = true) (h : Legal s) : Legal (c :: s) :=
  List.forall_mem_cons.mpr ⟨hc, h⟩

theorem legal_append : Legal (s ++ r) ↔ Legal s ∧ Legal r := List.forall_mem_append

section Classes

theorem isChar_of_isSpace (h : isSpace c = true) : isChar c = true := by
  simp only [isSpace, Bool.or_eq_true, beq_iff_eq] at h
  rcases h with ((rfl | rfl) | rfl) | rfl <;> decide

theorem isChar_of_small (hlow : 0x20 ≤ c.toNat) (hhigh : c.toNat < 0xd800) : isChar c = true := by
  unfold isChar isCharCode
  simp [hlow, hhigh]

theorem toNat_of_isAlphanum (h : c.isAlphanum = true) : 0x20 ≤ c.toNat ∧ c.toNat < 0x80 := by
  have between (a b : UInt32) (h : a ≤ c.val ∧ c.val ≤ b) : a.toNat ≤ c.toNat ∧ c.toNat ≤ b.toNat :=
    ⟨UInt32.le_iff_toNat_le.mp h.1, UInt32.le_iff_toNat_le.mp h.2⟩
  have both (a b : UInt32) (h : (decide (a ≤ c.val) && decide (c.val ≤ b)) = true) :
      a ≤ c.val ∧ c.val ≤ b := by
    rwa [Bool.and_eq_true, decide_eq_true_eq, decide_eq_true_eq] at h
  have hclass : ((c.isUpper || c.isLower) || c.isDigit) = true := h
  rcases Bool.or_eq_true_iff.mp hclass with h | hdigit
  · rcases Bool.or_eq_true_iff.mp h with hupper | hlower
    · have hcode : 65 ≤ c.toNat ∧ c.toNat ≤ 90 := between 65 90 (of_decide_eq_true hupper)
      omega
    · have hcode : 97 ≤ c.toNat ∧ c.toNat ≤ 122 := between 97 122 (both 97 122 hlower)
      omega
  · have hcode : 48 ≤ c.toNat ∧ c.toNat ≤ 57 := between 48 57 (both 48 57 hdigit)
    omega

theorem isChar_of_isAlphanum (h : c.isAlphanum = true) : isChar c = true := by
  obtain ⟨hlow, hhigh⟩ := toNat_of_isAlphanum h
  exact isChar_of_small hlow (by omega)

/-- The tables of names end below the surrogates. -/
theorem isChar_of_inRanges {table : Array (Nat × Nat)} (htable : table.toList.all (fun e => e.2 < 0xd800) = true)
    (hc : ¬ c.toNat < 0x80) (h : Text.inRanges table c.toNat = true) : isChar c = true := by
  unfold Text.inRanges at h
  split at h
  · rename_i first last hfloor
    have hmem := Array.mem_toList_iff.mpr (Text.mem_of_floor?_eq_some hfloor)
    have hlast : last < 0xd800 := of_decide_eq_true (List.all_eq_true.mp htable _ hmem)
    have hle : c.toNat ≤ last := of_decide_eq_true h
    exact isChar_of_small (by omega) (by omega)
  · cases h

theorem isChar_of_isNameStart (h : isNameStart c = true) : isChar c = true := by
  unfold isNameStart at h
  split at h
  · rcases Bool.or_eq_true_iff.mp h with h | h
    · exact isChar_of_isAlphanum (by rw [Char.isAlphanum, h, Bool.true_or])
    · rw [beq_iff_eq.mp h]
      decide
  · rename_i hc
    exact isChar_of_inRanges (by decide +kernel) hc h

theorem isChar_of_isNameChar (h : isNameChar c = true) : isChar c = true := by
  unfold isNameChar at h
  split at h
  · simp only [Bool.or_eq_true, beq_iff_eq] at h
    rcases h with ((h | rfl) | rfl) | rfl
    · exact isChar_of_isAlphanum h
    · decide
    · decide
    · decide
  · rename_i hc
    exact isChar_of_inRanges (by decide +kernel) hc h

end Classes

/-- What is skipped is legal when all of its class is. -/
theorem legal_of_dropWhile {p : Char → Bool} (hp : ∀ c, p c = true → isChar c = true)
    (h : Legal (s.dropWhile p)) : Legal s := by
  rw [← List.takeWhile_append_dropWhile (p := p) (l := s)]
  exact legal_append.mpr ⟨fun c hc => hp c (List.all_eq_true.mp List.all_takeWhile c hc), h⟩

theorem legal_of_skipSpace (h : Legal (skipSpace s)) : Legal s :=
  legal_of_dropWhile (fun _ => isChar_of_isSpace) h

theorem of_after? {start : List Char} (h : after? start s = some r) : s = start ++ r := by
  unfold after? at h
  split at h
  · rename_i hstart
    obtain ⟨t, rfl⟩ := List.isPrefixOf_iff_prefix.mp hstart
    rw [List.drop_left] at h
    rw [Option.some.inj h]
  · cases h

theorem legal_of_after? {start : List Char} (hstart : Legal start) (h : after? start s = some r)
    (hr : Legal r) : Legal s := by
  rw [of_after? h]
  exact legal_append.mpr ⟨hstart, hr⟩

theorem legal_of_localName? {name : List Char} (h : localName? s = some (name, r)) (hr : Legal r) :
    Legal s := by
  unfold localName? at h
  split at h
  · cases h
  · split at h
    · rename_i hc
      cases h
      exact legal_cons (isChar_of_isNameStart hc) (legal_of_dropWhile (fun _ => isChar_of_isNameChar) hr)
    · cases h

theorem legal_of_qualifiedName? {name : List Char} (h : qualifiedName? s = some (name, r))
    (hr : Legal r) : Legal s := by
  unfold qualifiedName? at h
  obtain ⟨⟨a, t⟩, ha, h⟩ := Option.bind_eq_some_iff.mp h
  dsimp only at h
  split at h
  · obtain ⟨⟨b, u⟩, hb, h⟩ := Option.bind_eq_some_iff.mp h
    cases h
    exact legal_of_localName? ha (legal_cons (by decide) (legal_of_localName? hb hr))
  · cases h
    exact legal_of_localName? ha hr

theorem legal_of_upTo? {mark : List Char} (hmark : Legal mark) : (s taken : List Char) → {v : List Char} →
    upTo? mark s taken = some (v, r) → Legal r → Legal s
  | [], _, _, h, _ => nomatch h
  | c :: s, taken, v, h, hr => by
    rw [upTo?] at h
    split at h
    · rename_i hstart
      obtain ⟨t, ht⟩ := List.isPrefixOf_iff_prefix.mp hstart
      rw [← ht, List.drop_left] at h
      cases h
      rw [← ht]
      exact legal_append.mpr ⟨hmark, hr⟩
    · split at h
      · rename_i hc
        exact legal_cons hc (legal_of_upTo? hmark s (c :: taken) h hr)
      · cases h

theorem legal_of_comment? (h : comment? s = some r) (hr : Legal r) : Legal s := by
  unfold comment? at h
  obtain ⟨⟨v, t⟩, hv, h⟩ := Option.bind_eq_some_iff.mp h
  exact legal_of_upTo? (by decide) s [] hv (legal_of_after? (by decide) h hr)

theorem legal_of_instruction? (h : instruction? s = some r) (hr : Legal r) : Legal s := by
  unfold instruction? at h
  obtain ⟨⟨name, t⟩, hname, h⟩ := Option.bind_eq_some_iff.mp h
  dsimp only at h
  refine legal_of_localName? hname ?_
  split at h
  · cases h
  · split at h
    · cases h
      exact legal_cons (by decide) (legal_cons (by decide) hr)
    · split at h
      · rename_i hc
        obtain ⟨⟨v, u⟩, hv, h⟩ := Option.bind_eq_some_iff.mp h
        cases h
        exact legal_cons (isChar_of_isSpace hc) (legal_of_upTo? (by decide) _ [] hv hr)
      · cases h
    · cases h

section References

variable {base n : Nat} {digit? : Char → Option Nat}

theorem legal_of_digitsValue? (hdigit : ∀ c d, digit? c = some d → isChar c = true) :
    (s : List Char) → (start : Option Nat) → digitsValue? base digit? start s = some (n, r) → Legal r →
      Legal s
  | [], start, h, _ => by cases start <;> cases h
  | c :: s, start, h, hr => by
    rw [digitsValue?] at h
    split at h
    · rename_i hc
      obtain ⟨m, -, h⟩ := Option.map_eq_some_iff.mp h
      cases h
      exact legal_cons (by rw [beq_iff_eq.mp hc]; decide) hr
    · obtain ⟨d, hd, h⟩ := Option.bind_eq_some_iff.mp h
      exact legal_cons (hdigit c d hd) (legal_of_digitsValue? hdigit s _ h hr)

theorem isChar_of_isDigit (h : c.isDigit = true) : isChar c = true :=
  isChar_of_isAlphanum (by rw [Char.isAlphanum, h, Bool.or_true])

theorem isChar_of_decimalDigit? {d : Nat} (h : decimalDigit? c = some d) : isChar c = true := by
  unfold decimalDigit? at h
  split at h
  · rename_i hc
    exact isChar_of_isDigit hc
  · cases h

theorem isChar_of_hexDigit? {d : Nat} (h : hexDigit? c = some d) : isChar c = true := by
  have between {a b : Char} (ha : 0x20 ≤ a.toNat) (hb : b.toNat < 0xd800) (hc : a ≤ c ∧ c ≤ b) :
      isChar c = true := by
    have hlow : a.toNat ≤ c.toNat := UInt32.le_iff_toNat_le.mp hc.1
    have hhigh : c.toNat ≤ b.toNat := UInt32.le_iff_toNat_le.mp hc.2
    exact isChar_of_small (by omega) (by omega)
  unfold hexDigit? at h
  split at h
  · rename_i hc
    exact isChar_of_isDigit hc
  · split at h
    · rename_i hc
      exact between (by decide) (by decide) hc
    · split at h
      · rename_i hc
        exact between (by decide) (by decide) hc
      · cases h

theorem legal_of_reference? {ref : Reference} (h : reference? s = some (ref, r)) (hr : Legal r) :
    Legal s := by
  have ofCode {value : Nat × List Char}
      (h : (if isCharCode value.1 then some (Reference.char (Char.ofNat value.1), value.2) else none) =
        some (ref, r)) : value.2 = r := by
    split at h
    · cases h
      rfl
    · cases h
  unfold reference? at h
  dsimp only at h
  split at h
  · obtain ⟨value, hvalue, h⟩ := Option.bind_eq_some_iff.mp h
    have hdigits := legal_of_digitsValue? (fun _ _ => isChar_of_hexDigit?) _ _ hvalue (ofCode h ▸ hr)
    exact legal_cons (by decide) (legal_cons (by decide) hdigits)
  · obtain ⟨value, hvalue, h⟩ := Option.bind_eq_some_iff.mp h
    have hdigits := legal_of_digitsValue? (fun _ _ => isChar_of_decimalDigit?) _ _ hvalue (ofCode h ▸ hr)
    exact legal_cons (by decide) hdigits
  · obtain ⟨⟨name, t⟩, hname, h⟩ := Option.bind_eq_some_iff.mp h
    refine legal_of_localName? hname ?_
    dsimp only at h
    split at h
    · split at h
      · cases h
        exact legal_cons (by decide) hr
      · cases h
        exact legal_cons (by decide) hr
    · cases h

end References

section Content

variable {attrEntity : List Char → Option (List Char)} {entity : List Char → Option (Array Token)}

/-- A value is read up to its quote, and each of its characters is looked at. -/
theorem legal_of_attrLoop {quote : Char} (hquote : isChar quote = true) {v : List Char} : (fuel : Nat) →
    (s taken : List Char) → attrLoop attrEntity (some quote) fuel s taken = some (v, r) → Legal r → Legal s
  | 0, _, _, h, _ => nomatch h
  | fuel + 1, [], _, h, _ => nomatch h
  | fuel + 1, c :: s, taken, h, hr => by
    rw [attrLoop.eq_def] at h
    dsimp only at h
    split at h
    · rename_i hc
      cases h
      exact legal_cons (by rw [← Option.some.inj (beq_iff_eq.mp hc)]; exact hquote) hr
    split at h
    · cases h
    split at h
    · rename_i hc
      rw [beq_iff_eq.mp hc]
      refine legal_cons (by decide) ?_
      obtain ⟨⟨ref, t⟩, href, h⟩ := Option.bind_eq_some_iff.mp h
      refine legal_of_reference? href ?_
      cases ref with
      | char d => exact legal_of_attrLoop hquote fuel t _ h hr
      | entity name =>
        obtain ⟨text, -, h⟩ := Option.bind_eq_some_iff.mp h
        exact legal_of_attrLoop hquote fuel t _ h hr
    split at h
    · rename_i hc
      rw [beq_iff_eq.mp hc]
      refine legal_cons (by decide) ?_
      split at h
      · rename_i hline
        have hrest := legal_of_attrLoop hquote fuel _ _ h hr
        cases s with
        | nil => exact legal_nil
        | cons d s =>
          rw [Option.some.inj (beq_iff_eq.mp hline)]
          exact legal_cons (by decide) hrest
      · exact legal_of_attrLoop hquote fuel _ _ h hr
    split at h
    · rename_i hc
      exact legal_cons (isChar_of_isSpace hc) (legal_of_attrLoop hquote fuel s _ h hr)
    split at h
    · rename_i hc
      exact legal_cons hc (legal_of_attrLoop hquote fuel s _ h hr)
    · cases h

theorem legal_of_attrs? {empty : Bool} {attrs : List (List Char × List Char)} : (fuel : Nat) →
    (s : List Char) → (taken : List (List Char × List Char)) →
    attrs? attrEntity fuel s taken = some (attrs, empty, r) → Legal r → Legal s
  | 0, _, _, h, _ => nomatch h
  | fuel + 1, s, taken, h, hr => by
    refine legal_of_skipSpace ?_
    rw [attrs?] at h
    split at h
    · rename_i hs
      cases h
      rw [hs]
      exact legal_cons (by decide) hr
    · rename_i hs
      cases h
      rw [hs]
      exact legal_cons (by decide) (legal_cons (by decide) hr)
    · split at h
      · cases h
      obtain ⟨⟨name, t⟩, hname, h⟩ := Option.bind_eq_some_iff.mp h
      obtain ⟨u, hu, h⟩ := Option.bind_eq_some_iff.mp h
      refine legal_of_qualifiedName? hname (legal_of_skipSpace (legal_of_after? (by decide) hu ?_))
      refine legal_of_skipSpace ?_
      dsimp only at h
      split at h
      · rename_i q rest hrest
        rw [hrest]
        split at h
        · rename_i hq
          have hquote : isChar q = true := by
            rw [Bool.or_eq_true, beq_iff_eq, beq_iff_eq] at hq
            rcases hq with rfl | rfl <;> decide
          obtain ⟨⟨value, v⟩, hvalue, h⟩ := Option.bind_eq_some_iff.mp h
          exact legal_cons hquote (legal_of_attrLoop hquote _ _ _ hvalue (legal_of_attrs? fuel v _ h hr))
        · cases h
      · cases h

theorem legal_of_contentChar? {d : Char} (h : contentChar? s = some (d, r)) (hr : Legal r) : Legal s := by
  unfold contentChar? at h
  split at h
  · cases h
    exact legal_cons (by decide) (legal_cons (by decide) hr)
  · cases h
    exact legal_cons (by decide) hr
  · split at h
    · rename_i hc
      cases h
      exact legal_cons hc hr
    · cases h
  · cases h

/-- Content is read up to the end of its root, and each of its characters is looked at. -/
theorem legal_of_contentLoop {ts : Array Token} : (fuel depth : Nat) → (s : List Char) →
    (taken : Array Token) → contentLoop attrEntity entity false fuel depth s taken = some (ts, r) →
      Legal r → Legal s
  | 0, _, _, _, h, _ => nomatch h
  | fuel + 1, depth, [], taken, h, _ => nomatch h
  | fuel + 1, depth, c :: s, taken, h, hr => by
    have next {depth : Nat} {s : List Char} {taken : Array Token}
        (h : contentLoop attrEntity entity false fuel depth s taken = some (ts, r)) : Legal s :=
      legal_of_contentLoop fuel depth s taken h hr
    rw [contentLoop.eq_def] at h
    dsimp only at h
    split at h
    · rename_i hc
      rw [beq_iff_eq.mp hc]
      refine legal_cons (by decide) ?_
      split at h
      · obtain ⟨t, ht, h⟩ := Option.bind_eq_some_iff.mp h
        exact legal_append.mpr ⟨(by decide : Legal ['!', '-', '-']), legal_of_comment? ht (next h)⟩
      · obtain ⟨t, ht, h⟩ := Option.bind_eq_some_iff.mp h
        obtain ⟨⟨text, u⟩, hu, h⟩ := Option.bind_eq_some_iff.mp h
        exact legal_cons (by decide)
          (legal_of_after? (by decide) ht (legal_of_upTo? (by decide) _ [] hu (next h)))
      · obtain ⟨t, ht, h⟩ := Option.bind_eq_some_iff.mp h
        exact legal_cons (by decide) (legal_of_instruction? ht (next h))
      · obtain ⟨⟨name, t⟩, hname, h⟩ := Option.bind_eq_some_iff.mp h
        obtain ⟨u, hu, h⟩ := Option.bind_eq_some_iff.mp h
        refine legal_cons (by decide) (legal_of_qualifiedName? hname (legal_of_skipSpace ?_))
        refine legal_of_after? (by decide) hu ?_
        dsimp only at h
        split at h
        · cases h
        · cases h
          exact hr
        · exact next h
      · obtain ⟨⟨name, t⟩, hname, h⟩ := Option.bind_eq_some_iff.mp h
        obtain ⟨⟨attrs, empty, u⟩, hattrs, h⟩ := Option.bind_eq_some_iff.mp h
        refine legal_of_qualifiedName? hname (legal_of_attrs? _ _ _ hattrs ?_)
        dsimp only at h
        split at h
        · split at h
          · cases h
            exact hr
          · exact next h
        · exact next h
    split at h
    · rename_i hc
      rw [beq_iff_eq.mp hc]
      refine legal_cons (by decide) ?_
      obtain ⟨⟨ref, t⟩, href, h⟩ := Option.bind_eq_some_iff.mp h
      refine legal_of_reference? href ?_
      cases ref with
      | char d => exact next h
      | entity name =>
        obtain ⟨tokens, -, h⟩ := Option.bind_eq_some_iff.mp h
        exact next h
    split at h
    · cases h
    · obtain ⟨⟨d, t⟩, hd, h⟩ := Option.bind_eq_some_iff.mp h
      exact legal_of_contentChar? hd (next h)

end Content

theorem legal_of_skipMisc : (fuel : Nat) → (s : List Char) → skipMisc fuel s = some r → Legal r → Legal s
  | 0, _, h, _ => nomatch h
  | fuel + 1, s, h, hr => by
    refine legal_of_skipSpace ?_
    rw [skipMisc] at h
    split at h
    · rename_i hs
      obtain ⟨t, ht, h⟩ := Option.bind_eq_some_iff.mp h
      rw [hs]
      exact legal_append.mpr ⟨(by decide : Legal ['<', '!', '-', '-']),
        legal_of_comment? ht (legal_of_skipMisc fuel t h hr)⟩
    · rename_i hs
      obtain ⟨t, ht, h⟩ := Option.bind_eq_some_iff.mp h
      rw [hs]
      exact legal_append.mpr ⟨(by decide : Legal ['<', '?']),
        legal_of_instruction? ht (legal_of_skipMisc fuel t h hr)⟩
    · cases h
      exact hr

/-- All characters of a document that starts with its root are legal, if it can be read. -/
theorem legal_of_tokens? (hc : isNameStart c = true) {ts : Array Token}
    (h : tokens? ('<' :: c :: s) = some ts) : Legal ('<' :: c :: s) := by
  rw [tokens?_eq hc] at h
  obtain ⟨⟨root, rest⟩, hroot, h⟩ := Option.bind_eq_some_iff.mp h
  obtain ⟨left, hleft, h⟩ := Option.bind_eq_some_iff.mp h
  have hrest : Legal rest := by
    refine legal_of_skipMisc _ rest hleft ?_
    cases left with
    | nil => exact legal_nil
    | cons d left => cases h
  rw [root?, if_pos hc] at hroot
  exact legal_of_contentLoop _ _ _ _ hroot hrest

end WireSketch.Xml
