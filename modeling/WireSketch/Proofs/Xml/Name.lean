import WireSketch.Diagram.Emit
import WireSketch.Xml.Reader

/-! Names without a colon: how they are read, written and put into the SVG namespace. -/
namespace WireSketch.Xml

/-- A name ends here: what follows neither goes on with it nor makes it a prefix. -/
def EndsName (rest : List Char) : Prop := ∀ c ∈ rest.head?, isNameChar c = false ∧ c ≠ ':'

theorem endsName_cons {c : Char} (hc : isNameChar c = false) (hcolon : c ≠ ':') (rest : List Char) :
    EndsName (c :: rest) := by
  intro d hd
  cases hd
  exact ⟨hc, hcolon⟩

variable {name : List Char}

theorem isNameStart_or_isNameChar (h : isLocalName name = true) {c : Char} (hc : c ∈ name) :
    isNameStart c = true ∨ isNameChar c = true := by
  cases name with
  | nil => cases hc
  | cons a r =>
    obtain ⟨ha, hr⟩ := Bool.and_eq_true_iff.mp h
    rcases List.mem_cons.mp hc with rfl | hc
    · exact .inl ha
    · exact .inr (List.all_eq_true.mp hr c hc)

/-- A character that can stand nowhere in a name stands in none. -/
theorem ne_of_mem_localName (h : isLocalName name = true) {a c : Char}
    (ha : isNameStart a = false ∧ isNameChar a = false) (hc : c ∈ name) : c ≠ a := by
  rintro rfl
  rcases isNameStart_or_isNameChar h hc with h | h
  · rw [ha.1] at h
    cases h
  · rw [ha.2] at h
    cases h

theorem colon_stands_in_no_name : isNameStart ':' = false ∧ isNameChar ':' = false := by decide

theorem brace_stands_in_no_name : isNameStart '\x7d' = false ∧ isNameChar '\x7d' = false := by decide

theorem takeWhile_of_endsName {s rest : List Char} (h : s.all isNameChar = true) (hr : EndsName rest) :
    (s ++ rest).takeWhile isNameChar = s ∧ (s ++ rest).dropWhile isNameChar = rest := by
  have hs := List.all_eq_true.mp h
  rw [List.takeWhile_append_of_pos hs, List.dropWhile_append_of_pos hs]
  cases rest with
  | nil => simp
  | cons c r =>
    have hc := (hr c rfl).1
    simp [hc]

theorem localName?_append (h : isLocalName name = true) {rest : List Char} (hr : EndsName rest) :
    localName? (name ++ rest) = some (name, rest) := by
  cases name with
  | nil => cases h
  | cons c s =>
    obtain ⟨hc, hs⟩ := Bool.and_eq_true_iff.mp h
    obtain ⟨htake, hdrop⟩ := takeWhile_of_endsName hs hr
    rw [List.cons_append, localName?, if_pos hc, htake, hdrop]

theorem qualifiedName?_append (h : isLocalName name = true) {rest : List Char} (hr : EndsName rest) :
    qualifiedName? (name ++ rest) = some (name, rest) := by
  unfold qualifiedName?
  rw [localName?_append h hr]
  cases rest with
  | nil => rfl
  | cons c r =>
    have hc := (hr c rfl).2
    simp only [Option.bind_eq_bind, Option.bind_some]
    split
    · rename_i hcolon
      exact absurd (List.cons.inj hcolon).1 hc
    · rfl

/-- A name without a colon has no prefix. -/
theorem splitPrefix_localName (h : isLocalName name = true) : splitPrefix name = ([], name) := by
  have htake : name.takeWhile (· ≠ ':') = name := by
    have hall : ∀ c ∈ name, decide (c ≠ ':') = true := fun c hc =>
      decide_eq_true (ne_of_mem_localName h colon_stands_in_no_name hc)
    have happend : (name ++ []).takeWhile (· ≠ ':') = name ++ [].takeWhile (· ≠ ':') :=
      List.takeWhile_append_of_pos hall
    simpa using happend
  unfold splitPrefix
  rw [htake, if_pos rfl]

theorem declaredPrefix?_localName (h : isLocalName name = true) (hx : name ≠ xmlnsPrefix) :
    declaredPrefix? name = none := by
  unfold declaredPrefix?
  rw [if_neg (by simpa using hx), splitPrefix_localName h]
  rfl

end WireSketch.Xml

namespace WireSketch.Markup
open Xml

/-- The namespace of a name in braces is the one that was put there. -/
theorem splitName_braced (uri : List Char) {loc : List Char} (h : isLocalName loc = true) :
    splitName ('\x7b' :: (uri ++ '\x7d' :: loc)) = some (some (String.ofList uri), String.ofList loc) := by
  have hloc : ∀ c ∈ loc.reverse, (c != '\x7d') = true := fun c hc =>
    bne_iff_ne.mpr (ne_of_mem_localName h brace_stands_in_no_name (List.mem_reverse.mp hc))
  have hlast : ((uri ++ '\x7d' :: loc).reverse.takeWhile (· != '\x7d')).reverse = loc := by
    rw [List.reverse_append, List.reverse_cons, List.append_assoc,
      List.takeWhile_append_of_pos hloc, List.singleton_append,
      List.takeWhile_cons_of_neg (by decide), List.append_nil, List.reverse_reverse]
  have hlength : (uri ++ '\x7d' :: loc).length = uri.length + 1 + loc.length := by
    rw [List.length_append, List.length_cons]
    omega
  have huri : (uri ++ '\x7d' :: loc).take
      ((uri ++ '\x7d' :: loc).length - loc.length - 1) = uri := by
    rw [hlength]
    have hsub : uri.length + 1 + loc.length - loc.length - 1 = uri.length := by omega
    rw [hsub, List.take_left]
  simp only [splitName, hlast]
  rw [if_neg (by omega), huri]

theorem toList_qualified (tag : String) :
    (qualified tag).toList = '\x7b' :: (svgSpace.toList ++ '\x7d' :: tag.toList) := by
  unfold qualified Value.braced
  simp only [String.toList_append]
  rw [show "\x7b".toList = ['\x7b'] from rfl, show "\x7d".toList = ['\x7d'] from rfl]
  simp

theorem splitName_qualified {tag : String} (h : isLocalName tag.toList = true) :
    splitName (qualified tag).toList = some (some svgSpace, tag) := by
  rw [toList_qualified, splitName_braced _ h, String.ofList_toList, String.ofList_toList]

/-- A name without a colon stands for itself. -/
theorem splitName_localName {name : String} (h : isLocalName name.toList = true) :
    splitName name.toList = some (none, name) := by
  unfold splitName
  split
  · rename_i r hr
    have hne := ne_of_mem_localName h (a := '\x7b') (by decide) (hr ▸ List.mem_cons_self)
    exact absurd rfl hne
  · rw [String.ofList_toList]

end WireSketch.Markup
