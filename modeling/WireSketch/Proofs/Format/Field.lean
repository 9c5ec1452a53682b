import WireSketch.Proofs.Value.Evaluating
import WireSketch.Format.Spec

/-! Fields and templates read the values that they are filled with, and no member of an object. -/
namespace WireSketch
open Contract StoreM

theorem Fault.civil_checkLength (length : Nat) : Civil (checkLength length) := by
  unfold checkLength
  exact .ite (civil_ok _) ((civil_error _).mpr rfl)

namespace FormatSpec

theorem civil_checkWord (n : Option Nat) : Civil (checkWord n) := by
  unfold checkWord
  exact .ite ((civil_error _).mpr rfl) (civil_ok _)

theorem civil_separators (s : List Char) : Civil (separators s) := by
  unfold separators
  split <;> simp

theorem civil_precisions (s : List Char) : Civil (precisions s) := by
  unfold precisions
  split
  · exact (civil_checkWord _).bind fun _ => .ite (civil_throw_bind rfl) (civil_pure _)
  · exact civil_ok _

theorem civil_codeOf (spec t : String) (code : Option Char) (s : List Char) :
    Civil (codeOf spec t code s) := by
  unfold codeOf
  split <;> simp

theorem civil_checkSeparator (separator : Option Separator) (code : Option Char) :
    Civil (checkSeparator separator code) := by
  unfold checkSeparator
  split
  · exact civil_ok _
  · exact .ite (civil_ok _) ((civil_error _).mpr rfl)

theorem civil_parse (spec t : String) (code : Option Char) (align : Align) :
    Civil (parse spec t code align) := by
  unfold parse
  exact (civil_checkWord _).bind fun _ => (civil_separators _).bind fun _ =>
    (civil_precisions _).bind fun _ => (civil_codeOf _ _ _ _).bind fun _ =>
      (civil_checkSeparator _ _).bind fun _ => civil_pure _

theorem civil_checkLimit {field : String} {digits : List Char} {f : Fault}
    (h : checkLimit field digits = .error (.fault f)) : f.isMember = false := by
  unfold checkLimit at h
  split at h
  · cases h
  · split at h
    · split at h <;> cases h
    · cases h
      rfl
    · cases h

theorem civil_checkLimits {spec : String} {f : Fault} (h : checkLimits spec = .error (.fault f)) :
    f.isMember = false := by
  unfold checkLimits at h
  dsimp only at h
  cases hw : checkLimit "width" (declared spec).1 with
  | error e =>
    rw [hw] at h
    cases h
    exact civil_checkLimit hw
  | ok u =>
    rw [hw] at h
    exact civil_checkLimit h

theorem civil_checkPrecision (s : FormatSpec) : Civil s.checkPrecision := by
  unfold checkPrecision
  exact .ite ((civil_error _).mpr rfl) (civil_ok _)

theorem civil_formatFloat (s : FormatSpec) (x : Float) : Civil (s.formatFloat x) :=
  s.civil_checkPrecision.bind fun _ => civil_pure _

theorem civil_formatInt (s : FormatSpec) (n : Int) : Civil (s.formatInt n) := by
  unfold formatInt
  refine .ite (civil_throw_bind rfl) (.ite (civil_throw_bind rfl) (.ite ?_ ?_))
  · exact .ite (civil_throw_bind rfl) (.ite (civil_throw_bind rfl) (.ite (civil_throw_bind rfl)
      (.ite (civil_throw_bind rfl) (civil_pure _))))
  · exact .ite ((Value.civil_intText n).bind fun _ => civil_pure _) (civil_pure _)

theorem civil_formatText (s : FormatSpec) (text : String) : Civil (s.formatText text) := by
  unfold formatText
  dsimp only
  split
  · exact civil_throw_bind rfl
  · exact civil_throw_bind rfl
  · exact .ite (civil_throw_bind rfl) (.ite (civil_throw_bind rfl) (.ite (civil_throw_bind rfl)
      (civil_pure _)))

theorem civil_formatComplex (s : FormatSpec) (re im : Float) : Civil (s.formatComplex re im) :=
  s.civil_checkPrecision.bind fun _ => .ite (civil_throw_bind rfl) (.ite (civil_throw_bind rfl)
    (civil_pure _))

end FormatSpec

theorem TemplateInput.civil_next (i : TemplateInput) : Civil i.next := by
  unfold next
  split <;> simp

namespace Directive

theorem civil_count (s : List Char) (limit : Nat) (tooBig : TemplateFault) :
    Civil (count s limit tooBig) := by
  unfold count
  exact .ite (civil_ok _) (.ite ((civil_error _).mpr rfl) (civil_ok _))

theorem civil_starred (bits : Nat) (kind : String) (i : TemplateInput) :
    Civil (starred bits kind i) := by
  refine i.civil_next.bind fun found => ?_
  obtain ⟨v, i⟩ := found
  dsimp only
  split
  · exact .ite (civil_throw_bind rfl) (civil_pure _)
  · exact (civil_throw _).mpr rfl

theorem civil_readWidth (d : Directive) (s : List Char) (i : TemplateInput) :
    Civil (readWidth d s i) := by
  unfold readWidth
  split
  · exact (civil_starred _ _ _).bind fun _ => civil_pure _
  · exact (civil_count _ _ _).bind fun _ => civil_pure _

theorem civil_readPrecision (kind : TemplateKind) (d : Directive) (s : List Char) (i : TemplateInput) :
    Civil (readPrecision kind d s i) := by
  unfold readPrecision
  split
  · exact (civil_starred _ _ _).bind fun _ => civil_pure _
  · exact (civil_count _ _ _).bind fun _ => civil_pure _
  · exact civil_pure _

theorem civil_readCode (d : Directive) (s : List Char) : Civil (readCode d s) := by
  unfold readCode
  dsimp only
  split
  · exact civil_ok _
  · exact (civil_error _).mpr rfl

theorem civil_parse (kind : TemplateKind) (s : List Char) (i : TemplateInput) :
    Civil (parse kind s i) :=
  (civil_readWidth _ _ _).bind fun _ => (civil_readPrecision _ _ _ _).bind fun _ =>
    (civil_readCode _ _).bind fun _ => civil_pure _

theorem civil_integer (d : Directive) (v : Value) : Civil (d.integer v) := by
  unfold integer
  dsimp only
  split
  · exact .ite (civil_throw_bind rfl) (.ite (civil_throw_bind rfl) (.ite (civil_throw_bind rfl)
      (civil_pure _)))
  · split
    · exact civil_pure _
    · exact .ite (civil_throw_bind rfl) ((civil_throw _).mpr rfl)

theorem civil_integerText (d : Directive) (n : Int) : Civil (d.integerText n) := by
  unfold integerText
  exact .ite ((Value.civil_intText n).bind fun _ => civil_pure _) (civil_pure _)

theorem civil_character (v : Value) : Civil (character v) := by
  unfold character
  split
  · split <;> simp
  · split
    · exact .ite ((civil_error _).mpr rfl) (civil_ok _)
    · exact (civil_error _).mpr rfl

theorem civil_byte (v : Value) : Civil (byte v) := by
  unfold byte
  split
  · exact civil_ok _
  · split
    · exact .ite ((civil_error _).mpr rfl) (civil_ok _)
    · exact (civil_error _).mpr rfl

theorem civil_real (kind : TemplateKind) (v : Value) : Civil (real kind v) := by
  unfold real
  dsimp only
  split
  · exact (civil_error _).mpr rfl
  · split
    · exact (civil_error _).mpr rfl
    · exact (civil_error _).mpr rfl
    · exact Num.civil_toFloat _

end Directive

variable {C : Contract Fault Store}

/-- A value is written under a specification by reading it. -/
theorem Value.keeps_format [C.Reading] (v : Value) (spec : String) : C.Keeps (v.format spec) := by
  unfold format
  refine yields_ite (keeps_plain v) ?_
  dsimp only
  split
  case h_2 | h_3 =>
    refine (keeps_ofExcept (FormatSpec.civil_parse _ _ _ _)).bind fun s => ?_
    have float (n : Int) : C.Keeps (do
        s.formatFloat (← ((Num.int n).toFloat : Except Fault Float)) : StoreM String) :=
      (keeps_ofExcept (Num.civil_toFloat _)).bind fun x => keeps_ofExcept (s.civil_formatFloat x)
    split <;> first
      | exact keeps_ofExcept (s.civil_formatInt _)
      | exact float _
      | exact keeps_throw rfl
  · exact (keeps_ofExcept (FormatSpec.civil_parse _ _ _ _)).bind fun s =>
      yields_ite (keeps_ofExcept (s.civil_formatText _)) (keeps_throw rfl)
  · exact (keeps_ofExcept (FormatSpec.civil_parse _ _ _ _)).bind fun s =>
      yields_ite (keeps_ofExcept (s.civil_formatFloat _)) (keeps_throw rfl)
  · exact (keeps_ofExcept (FormatSpec.civil_parse _ _ _ _)).bind fun s =>
      yields_ite (keeps_ofExcept (s.civil_formatComplex _ _)) (keeps_throw rfl)
  · exact keeps_throw rfl

theorem Directive.keeps_fill [C.Reading] (kind : TemplateKind) (d : Directive) (v : Value) (index : Nat) :
    C.Keeps (d.fill kind v index) := by
  have cut (out : List Char) : C.Keeps (liftM (do
      Fault.checkLength (d.width.getD 0)
      return out : Except Fault (List Char)) : StoreM (List Char)) :=
    keeps_ofExcept ((Fault.civil_checkLength _).bind fun _ => civil_pure _)
  have checked {α : Type} (length : Nat) {rest : StoreM α} (hrest : C.Keeps rest) : C.Keeps (do
      Fault.checkLength length
      rest) := (keeps_ofExcept (Fault.civil_checkLength length)).bind fun _ => hrest
  unfold fill
  dsimp only
  split
  case h_1 => exact (Value.keeps_plain v).bind fun _ => cut _
  case h_2 | h_5 | h_6 => exact (Value.keeps_shown v).bind fun _ => cut _
  case h_3 | h_4 =>
    split
    · exact cut _
    · exact keeps_throw rfl
  case h_7 | h_8 | h_9 | h_10 | h_11 | h_12 =>
    exact (keeps_ofExcept (civil_integer _ v)).bind fun n =>
      checked _ (keeps_ofExcept (civil_integerText _ n))
  case h_13 | h_14 | h_15 | h_16 | h_17 | h_18 =>
    exact (keeps_ofExcept (civil_real _ v)).bind fun _ => checked _ (keeps_pure _)
  case h_19 =>
    split
    · exact (keeps_ofExcept (civil_character v)).bind fun _ => checked _ (keeps_pure _)
    · exact (keeps_ofExcept (civil_byte v)).bind fun _ => checked _ (keeps_pure _)
  case h_20 => exact keeps_throw rfl

namespace Template

variable [C.Evaluating]

theorem keeps_fillAll (kind : TemplateKind) (size : Nat) : (fuel : Nat) → (template : List Char) →
    (i : TemplateInput) → (out : List Char) → C.Keeps (fillAll kind size fuel template i out)
  | 0, _, _, _ => keeps_pure _
  | fuel + 1, template, i, out => by
    have later (s : List Char) (i : TemplateInput) (out : List Char) :
        C.Keeps (fillAll kind size fuel s i out) := keeps_fillAll kind size fuel s i out
    -- A directive that is read is filled with the next value, and the template goes on after it.
    have filled (d : Directive) (s : List Char) (v : Value) (i : TemplateInput) (out : List Char) :
        C.Keeps (do
          let text ← d.fill kind v (size - s.length - 1)
          fillAll kind size fuel s i (text.reverse ++ out)) :=
      (Directive.keeps_fill _ _ _ _).bind fun _ => later _ _ _
    unfold fillAll
    split
    case h_1 hfuel => cases hfuel
    case h_2 => exact yields_ite (keeps_throw_bind rfl) (keeps_pure _)
    case h_3 hfuel =>
      cases hfuel
      exact later _ _ _
    case h_4 hfuel =>
      cases hfuel
      dsimp only
      split
      · split
        · exact keeps_throw_bind rfl
        · split
          · exact keeps_throw_bind rfl
          · exact (Value.keeps_subscript _ _).bind fun _ =>
              (keeps_ofExcept (Directive.civil_parse _ _ _)).bind fun _ =>
                (keeps_ofExcept (TemplateInput.civil_next _)).bind fun _ => filled _ _ _ _ _
      · exact (keeps_ofExcept (Directive.civil_parse _ _ _)).bind fun _ =>
          (keeps_ofExcept (TemplateInput.civil_next _)).bind fun _ => filled _ _ _ _ _
    case h_5 hfuel =>
      cases hfuel
      exact later _ _ _

theorem keeps_run (kind : TemplateKind) (template : List Char) (v : Value) :
    C.Keeps (run kind template v) := (keeps_fillAll _ _ _ _ _ _).bind fun _ => keeps_pure _

end Template
end WireSketch
