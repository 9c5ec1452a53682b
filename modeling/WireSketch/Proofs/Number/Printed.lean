import WireSketch.Diagram.Element
import WireSketch.Xml.Name

/-! The text of a number consists of characters that may stand in a document. -/
namespace WireSketch
open Xml

theorem isChar_of_isDigit {c : Char} (h : c.isDigit = true) : isChar c = true := by
  have hrange : 0x30 ≤ c.toNat ∧ c.toNat ≤ 0x39 := by
    obtain ⟨hlow, hhigh⟩ := Bool.and_eq_true_iff.mp h
    exact ⟨of_decide_eq_true hlow, of_decide_eq_true hhigh⟩
  have hlow : 0x20 ≤ c.toNat := by omega
  have hhigh : c.toNat < 0xd800 := by omega
  unfold isChar isCharCode
  simp [hlow, hhigh]

def Printed (s : List Char) : Prop := ∀ c ∈ s, isChar c = true

instance (s : List Char) : Decidable (Printed s) :=
  decidable_of_iff (s.all isChar = true) List.all_eq_true

theorem Printed.append {s t : List Char} (hs : Printed s) (ht : Printed t) : Printed (s ++ t) :=
  fun c hc => (List.mem_append.mp hc).elim (hs c) (ht c)

theorem Printed.cons {c : Char} {s : List Char} (hc : isChar c = true) (hs : Printed s) :
    Printed (c :: s) := List.forall_mem_cons.mpr ⟨hc, hs⟩

theorem Printed.ite {p : Prop} [Decidable p] {s t : List Char} (hs : Printed s) (ht : Printed t) :
    Printed (if p then s else t) := by
  split
  · exact hs
  · exact ht

theorem printed_nil : Printed [] := by
  intro c hc
  cases hc

theorem printed_zeros (n : Nat) : Printed (List.replicate n '0') := by
  intro c hc
  rw [List.eq_of_mem_replicate hc]
  decide

theorem printed_toDigits (n : Nat) : Printed (Nat.toDigits 10 n) := fun _ hc =>
  isChar_of_isDigit (Nat.isDigit_of_mem_toDigits (by decide) (by decide) hc)

theorem printed_toString_int (n : Int) : Printed (toString n).toList := by
  rw [Int.toString_eq_repr, Int.repr_eq_if]
  split
  · rw [Nat.toList_repr]
    exact printed_toDigits _
  · rw [String.toList_append, Nat.toList_repr]
    exact .append (by decide) (printed_toDigits _)

namespace Decimal

theorem printed_ofNat (n : Nat) (e : Int) : Printed (ofNat n e).digits := by
  unfold ofNat
  split
  · exact printed_nil
  · intro c hc
    have hdropped := List.mem_reverse.mp hc
    exact printed_toDigits n c (List.mem_reverse.mp ((List.dropWhile_sublist _).mem hdropped))

theorem printed_significant (num den k : Nat) : Printed (significant num den k).digits := by
  unfold significant
  split
  · exact printed_nil
  · exact printed_ofNat _ _

theorem printed_shortestFrom (m : Nat) (e point : Int) (num den fuel : Nat) :
    Printed (shortestFrom m e point num den fuel).digits := by
  induction fuel with
  | zero => exact printed_significant num den 17
  | succ fuel ih =>
    unfold shortestFrom
    dsimp only
    split
    · exact printed_ofNat _ _
    · exact ih

theorem printed_shortest (m : Nat) (e : Int) : Printed (shortest m e).digits := by
  unfold shortest
  split
  · exact printed_nil
  · exact printed_shortestFrom _ _ _ _ _ _

end Decimal

namespace NumberStyle
open Decimal

theorem printed_places {ds : List Char} (h : Printed ds) (a b : Int) : Printed (places ds a b) := by
  have hbody : Printed ((ds.drop a.toNat).take (b - max a 0).toNat) := fun c hc =>
    h c (List.mem_of_mem_drop (List.mem_of_mem_take hc))
  exact (Printed.append (printed_zeros _) hbody).append (printed_zeros _)

theorem printed_exponentText (e : Int) (upper : Bool) : Printed (exponentText e upper) := by
  have hletter : isChar (if upper then 'E' else 'e') = true := by
    cases upper with
    | true => decide
    | false => decide
  have hsign : isChar (if e < 0 then '-' else '+') = true := by
    split
    · decide
    · decide
  exact .cons hletter (.cons hsign ((printed_zeros _).append (printed_toDigits _)))

theorem printed_layout (s : NumberStyle) (m : Nat) (e : Int) : Printed (layout s m e).1.digits := by
  unfold layout
  dsimp only
  split
  · exact printed_shortest m e
  · exact printed_ofNat _ _
  · exact printed_significant _ _ _
  · exact printed_significant _ _ _

theorem printed_magnitude (s : NumberStyle) (m : Nat) (e : Int) : Printed (magnitude s m e).1 := by
  have hdigits := printed_layout s m e
  unfold magnitude
  dsimp only
  have hchosen : Printed (if (layout s m e).1.digits.isEmpty then ⟨[], 1⟩
      else (layout s m e).1 : Decimal).digits := by
    split
    · exact printed_nil
    · exact hdigits
  have hpoint : isChar '.' = true := by decide
  exact ((printed_places hchosen _ _).append
    (.ite printed_nil (.cons hpoint (printed_places hchosen _ _)))).append
      (.ite (printed_exponentText _ _) printed_nil)

theorem printed_write (s : NumberStyle) (x : Float) : Printed (s.write x).toList := by
  have hsign : Printed (if Binary64.isNegative x then ['-'] else []) :=
    .ite (by decide) printed_nil
  unfold write
  split
  · split
    · decide
    · decide
  · dsimp only
    split
    · rw [String.toList_ofList]
      exact hsign.append (.ite (by decide) (by decide))
    · rw [String.toList_ofList]
      exact .append (.ite printed_nil hsign) (printed_magnitude _ _ _)

end NumberStyle

theorem printed_trimEnd {s : String} (h : Printed s.toList) (c : Char) :
    Printed (Text.trimEnd c s).toList := by
  unfold Text.trimEnd
  rw [String.toList_ofList]
  intro d hd
  have hdropped := (List.dropWhile_sublist _).mem (List.mem_reverse.mp hd)
  exact h d (List.mem_reverse.mp hdropped)

theorem printed_coordinateOfFloat (x : Float) : Printed (coordinateOfFloat x).toList := by
  unfold coordinateOfFloat
  dsimp only
  split
  · exact printed_toString_int _
  · exact printed_trimEnd (printed_trimEnd (NumberStyle.printed_write _ x) '0') '.'

theorem printed_coordinate {v : Value} {text : String} (h : coordinate v = .ok text) :
    Printed text.toList := by
  unfold coordinate at h
  split at h
  · rename_i n
    unfold Value.intText at h
    split at h
    · cases h
    · cases h
      exact printed_toString_int n
  · rename_i b
    cases b with
    | true =>
      cases h
      decide
    | false =>
      cases h
      decide
  · cases h
    exact printed_coordinateOfFloat _
  · cases h

end WireSketch
