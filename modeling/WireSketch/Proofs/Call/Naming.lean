import WireSketch.Proofs.Call.Registry

/-! Names of styles: a registration takes symbols, symbols with a line end after them, and nothing else. -/
namespace WireSketch

namespace Symbol

def IsFirst (c : Char) : Prop := 'A' ≤ c ∧ c ≤ 'Z' ∨ 'a' ≤ c ∧ c ≤ 'z' ∨ c = '_'

/-- After the first character digits and hyphens stand as well. -/
def IsFurther (c : Char) : Prop := IsFirst c ∨ '0' ≤ c ∧ c ≤ '9' ∨ c = '-'

theorem isFirst_iff (c : Char) : (c.isAlpha || c == '_') = true ↔ IsFirst c := by
  have hletter : c.isAlpha = (decide ('A' ≤ c ∧ c ≤ 'Z') || (decide ('a' ≤ c) && decide (c ≤ 'z'))) := rfl
  simp only [hletter, Bool.or_eq_true, beq_iff_eq, Bool.and_eq_true, decide_eq_true_eq, IsFirst, or_assoc]

theorem isFurther_iff (c : Char) : (c.isAlphanum || c == '_' || c == '-') = true ↔ IsFurther c := by
  have hfurther : c.isAlphanum = (c.isAlpha || (decide ('0' ≤ c) && decide (c ≤ '9'))) := rfl
  simp only [hfurther, Bool.or_eq_true, beq_iff_eq, IsFurther, ← isFirst_iff, Bool.and_eq_true,
    decide_eq_true_eq]
  tauto

end Symbol

/-- A symbolic name, to its last character. -/
inductive IsSymbol : List Char → Prop
  | mk {c : Char} {rest : List Char} (hfirst : Symbol.IsFirst c) (hrest : ∀ d ∈ rest, Symbol.IsFurther d) :
    IsSymbol (c :: rest)

/-- A symbol, or one with a line end after it. -/
def IsTakenName (name : String) : Prop :=
  IsSymbol name.toList ∨ ∃ symbol, IsSymbol symbol ∧ name.toList = symbol ++ ['\n']

theorem not_isFurther_lineEnd : ¬ Symbol.IsFurther '\n' := by
  rw [← Symbol.isFurther_iff]
  decide

theorem isSymbol_cons {c : Char} {rest : List Char} :
    IsSymbol (c :: rest) ↔ Symbol.IsFirst c ∧ ∀ d ∈ rest, Symbol.IsFurther d :=
  ⟨fun | .mk hfirst hrest => ⟨hfirst, hrest⟩, fun ⟨hfirst, hrest⟩ => .mk hfirst hrest⟩

/-- A line end is no part of a symbol, so that one at the end stands after it. -/
theorem isSymbol_concat_lineEnd {c : Char} {rest : List Char} :
    (IsSymbol (c :: rest) ∨ ∃ symbol, IsSymbol symbol ∧ c :: rest = symbol ++ ['\n']) ↔
      IsSymbol (c :: if rest.getLast? == some '\n' then rest.dropLast else rest) := by
  by_cases hlast : rest.getLast? = some '\n'
  · have hrest : rest = rest.dropLast ++ ['\n'] := (List.dropLast_append_getLast? '\n' hlast).symm
    rw [if_pos (beq_iff_eq.mpr hlast)]
    constructor
    · rintro (hsymbol | ⟨symbol, hsymbol, heq⟩)
      · have hend : '\n' ∈ rest := List.mem_of_getLast? hlast
        exact absurd ((isSymbol_cons.mp hsymbol).2 _ hend) not_isFurther_lineEnd
      · rw [hrest, ← List.cons_append] at heq
        rwa [List.append_cancel_right heq]
    · intro hsymbol
      exact .inr ⟨_, hsymbol, by rw [List.cons_append, ← hrest]⟩
  · rw [if_neg (by simpa using hlast)]
    refine or_iff_left ?_
    rintro ⟨symbol, ⟨⟩, heq⟩
    rw [List.cons_append] at heq
    exact hlast ((List.cons.inj heq).2 ▸ List.getLast?_concat)

theorem isStyleName_iff (name : String) : isStyleName name = true ↔ IsTakenName name := by
  unfold isStyleName IsTakenName
  cases name.toList with
  | nil =>
    refine iff_of_false Bool.false_ne_true ?_
    rintro (hempty | ⟨symbol, -, heq⟩)
    · cases hempty
    · exact List.append_ne_nil_of_right_ne_nil symbol (List.cons_ne_nil _ _) heq.symm
  | cons c rest =>
    dsimp only
    rw [Bool.and_eq_true, List.all_eq_true, Symbol.isFirst_iff, isSymbol_concat_lineEnd, isSymbol_cons]
    simp only [Symbol.isFurther_iff]

namespace Primitive

/-- What is registered are a name that is taken and a map. -/
theorem of_registration? {p : Primitive} {a : Arguments} {w : World} {name : String} {r : Ref}
    (h : p.registration? a w = some (name, r)) :
    IsTakenName name ∧ ∃ rest extra, p.signature.bind a = .ok ⟨[.str name, .dict r], rest, extra⟩ := by
  unfold registration? at h
  split at h
  · rename_i hbind hcall
    cases h
    refine ⟨(isStyleName_iff name).mp ?_, _, _, hbind⟩
    have hperform : registerAttrs.call a w =
        (do WireSketch.registerAttrs (.str name) (.dict r); return .none : DrawM Value) w := by
      unfold call
      rw [hbind]
      rfl
    rcases run_registerAttrs (.str name) (.dict r) w with ⟨_, _, hname, -, htaken, -⟩ | ⟨e, hrun⟩
    · cases hname
      exact htaken
    · rw [hperform, Run.bind_error hrun] at hcall
      cases hcall
  · cases h

/-- A registration succeeds just if it is given a name that is taken and a map. -/
theorem call_registerAttrs_ok_iff (a : Arguments) (w : World) :
    (∃ v t, registerAttrs.call a w = .ok v t) ↔ ∃ name r rest extra,
      registerAttrs.signature.bind a = .ok ⟨[.str name, .dict r], rest, extra⟩ ∧ IsTakenName name := by
  constructor
  · rintro ⟨v, t, hcall⟩
    rcases call_registerAttrs a w with ⟨name, r, hmade, -⟩ | ⟨-, e, hfails⟩
    · obtain ⟨htaken, rest, extra, hbind⟩ := of_registration? hmade
      exact ⟨name, r, rest, extra, hbind, htaken⟩
    · rw [hcall] at hfails
      cases hfails
  · rintro ⟨name, r, rest, extra, hbind, htaken⟩
    have hname : styleName (.str name) w = .ok name w := by
      unfold styleName
      dsimp only
      rw [if_pos ((isStyleName_iff name).mpr htaken)]
      rfl
    have hregister : WireSketch.registerAttrs (.str name) (.dict r) w =
        .ok () { w with styles := Styles.set name (.shared r) w.styles } := Run.bind_ok hname
    refine ⟨.none, { w with styles := Styles.set name (.shared r) w.styles }, ?_⟩
    unfold call
    rw [hbind]
    exact Run.bind_ok hregister

end Primitive

namespace LibraryCall

theorem isTakenName_of_registrations {name : String} : (calls : List LibraryCall) → (w : World) →
    name ∈ (registrations calls w).map (·.1) → IsTakenName name
  | [], _, h => by cases h
  | c :: rest, w, h => by
    rw [registrations, List.map_append, List.mem_append] at h
    rcases h with h | h
    · obtain ⟨⟨_, r⟩, hmade, rfl⟩ := List.mem_map.mp h
      rw [Option.mem_toList] at hmade
      unfold LibraryFunction.registration? at hmade
      split at hmade
      · exact (Primitive.of_registration? hmade).1
      · cases hmade
    · exact isTakenName_of_registrations rest (c.after w) h

/--
After any calls on a new drawing, every name in the registry is a symbol, but that a line end may follow it. A
registration succeeds just if its first argument is such a text and the second one is a map, and one that
fails changes nothing.
-/
theorem takenNames_runAll (l : Layout) (calls : List LibraryCall) :
    (∀ name ∈ Styles.names (runAll calls (World.initial l)).styles, IsTakenName name) ∧
    ∀ (a : Arguments) (w : World),
      ((∃ v t, Primitive.registerAttrs.call a w = .ok v t) ↔ ∃ name r rest extra,
        Primitive.registerAttrs.signature.bind a = .ok ⟨[.str name, .dict r], rest, extra⟩ ∧
          IsTakenName name) ∧
      ∀ e t, Primitive.registerAttrs.call a w = .error e t → t = w := by
  refine ⟨fun name hname => ?_, fun a w => ⟨Primitive.call_registerAttrs_ok_iff a w, fun e t herror => ?_⟩⟩
  · have hnames : Styles.names (runAll calls (World.initial l)).styles =
        (Styles.names defaultStyles ++ (registrations calls (World.initial l)).map (·.1)).eraseDups := by
      rw [styles_runAll]
      exact Styles.names_registered defaultStyles (by decide +kernel) _
    have hdefaults : ∀ name ∈ Styles.names defaultStyles, isStyleName name = true := by decide +kernel
    rw [hnames, List.mem_eraseDups, List.mem_append] at hname
    rcases hname with hname | hname
    · exact (isStyleName_iff name).mp (hdefaults name hname)
    · exact isTakenName_of_registrations calls (World.initial l) hname
  · rcases Primitive.call_registerAttrs a w with ⟨name, r, -, hrun⟩ | ⟨-, f, hrun⟩
    · rw [hrun] at herror
      cases herror
    · rw [hrun] at herror
      cases herror
      rfl

/-- A symbol with a line end after it is registered, and is no symbol. -/
theorem takenNames_lineEnd :
    let register : LibraryCall :=
      ⟨fun _ => ⟨#[.dict .empty]⟩, .primitive .registerAttrs, ⟨[.str "a\n", .dict 0], []⟩⟩
    (∃ v t, Primitive.registerAttrs.call register.arguments (register.entered (World.initial {})) = .ok v t) ∧
      "a\n" ∈ Styles.names (runAll [register] (World.initial {})).styles ∧ ¬ IsSymbol "a\n".toList := by
  intro register
  refine ⟨⟨_, _, rfl⟩, by decide +kernel, fun h => ?_⟩
  have hsymbol : IsSymbol ['a', '\n'] := h
  exact not_isFurther_lineEnd ((isSymbol_cons.mp hsymbol).2 _ (by decide))

end LibraryCall
end WireSketch
