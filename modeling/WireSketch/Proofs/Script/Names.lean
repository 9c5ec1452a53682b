import WireSketch.Proofs.Script.Traced

/-! What names of a script stand for at every point of a run: fields, functions and values stored last. -/
namespace WireSketch
open Contract

namespace Field

theorem name_of_ofName? {name : String} {f : Field} (h : ofName? name = some f) : f.name = name :=
  by simpa using List.find?_some h

theorem not_private {name : String} {f : Field} (h : ofName? name = some f) :
    name.startsWith "__" = false := by
  rw [← name_of_ofName? h]
  cases f <;> decide +kernel

end Field

namespace Bindings

variable {name other : String} {v w : Value}

theorem find?_set : (b : Bindings) →
    (b.set name v).find? other = if name = other then some v else b.find? other
  | [] => by
    unfold set find?
    by_cases h : name = other
    · rw [if_pos h, if_pos (beq_iff_eq.mpr h)]
    · rw [if_neg h, if_neg (by simpa using h)]
      rfl
  | (k, u) :: rest => by
    unfold set
    by_cases hk : k = name
    · subst hk
      rw [if_pos (beq_self_eq_true k)]
      unfold find?
      by_cases h : k = other
      · rw [if_pos h, if_pos (beq_iff_eq.mpr h)]
      · rw [if_neg h, if_neg (by simpa using h), if_neg (by simpa using h)]
    · rw [if_neg (by simpa using hk)]
      unfold find?
      rw [find?_set rest]
      by_cases h : k = other
      · subst h
        rw [if_pos (beq_self_eq_true k), if_neg (Ne.symm hk), if_pos (beq_self_eq_true k)]
      · have hbeq : ¬ (k == other) = true := by simpa using h
        rw [if_neg hbeq, if_neg hbeq]

theorem mem_set {entry : String × Value} : (b : Bindings) → entry ∈ b.set name v →
    entry.1 = name ∨ entry ∈ b
  | [], h => .inl (congrArg Prod.fst (List.mem_singleton.mp h))
  | (k, u) :: rest, h => by
    unfold set at h
    split at h
    · rename_i hk
      rcases List.mem_cons.mp h with rfl | hrest
      · exact .inl (beq_iff_eq.mp hk)
      · exact .inr (List.mem_cons_of_mem _ hrest)
    · rcases List.mem_cons.mp h with rfl | hrest
      · exact .inr List.mem_cons_self
      · exact (mem_set rest hrest).imp_right (List.mem_cons_of_mem _)

theorem find?_eq_none : (b : Bindings) → (∀ entry ∈ b, entry.1 ≠ name) → b.find? name = none
  | [], _ => rfl
  | (k, u) :: rest, h => by
    unfold find?
    rw [if_neg (by simpa using h (k, u) List.mem_cons_self)]
    exact find?_eq_none rest fun entry he => h entry (List.mem_cons_of_mem _ he)

end Bindings

/-- Fields of the geometry, functions, and names with two underscores in front are no names of variables. -/
def isReserved (name : String) : Bool :=
  (Field.ofName? name).isSome || (ScriptM.function? name).isSome || name.startsWith "__"

namespace ScriptM

variable {p : Place} {name : String} {v : Value} {s : Session}

theorem checkName_ok (h : name.startsWith "__" = false) : checkName p name s = .ok () s := by
  unfold checkName
  rw [if_neg (by rw [h]; decide)]
  rfl

theorem checkName_private (h : name.startsWith "__" = true) :
    checkName p name s = .error (.script ⟨.privateName (Text.quote name), some p.line, some p.column⟩) s := by
  unfold checkName
  rw [if_pos h]
  rfl

/-- A lookup finds a variable first, then a field, then a function. -/
theorem lookup_of_public (h : name.startsWith "__" = false) :
    lookup p name s = match s.bindings.find? name with
      | some v => .ok v s
      | none => match Field.ofName? name with
        | some f => .ok (s.world.layout.get f) s
        | none => match function? name with
          | some f => .ok (.function f) s
          | none => .error (.script ⟨.undefinedName (Text.quote name), some p.line, some p.column⟩) s := by
  have hget : (get : ScriptM Session) s = .ok s s := rfl
  unfold lookup
  rw [Run.bind_ok (checkName_ok h), Run.bind_ok hget]
  cases s.bindings.find? name with
  | some v => rfl
  | none =>
    cases Field.ofName? name with
    | some f => rfl
    | none => cases function? name <;> rfl

/-- A store to a field of the geometry changes that field. -/
theorem store_field {f : Field} (h : Field.ofName? name = some f) :
    store p name v s = .ok () { s with world := { s.world with layout := s.world.layout.set f v } } := by
  unfold store
  rw [Run.bind_ok (checkName_ok (Field.not_private h)), h]
  rfl

theorem store_variable (h : isReserved name = false) :
    store p name v s = .ok () { s with bindings := s.bindings.set name v } := by
  unfold isReserved at h
  simp only [Bool.or_eq_false_iff, Option.isSome_eq_false_iff, Option.isNone_iff_eq_none] at h
  obtain ⟨⟨hfield, hfun⟩, hpriv⟩ := h
  unfold store
  rw [Run.bind_ok (checkName_ok hpriv), hfield]
  dsimp only
  rw [hfun]
  rfl

/-- A store to any other name fails and stores nothing. -/
theorem store_refused (hfield : Field.ofName? name = none) (h : isReserved name = true) :
    ∃ r, store p name v s = .error (.script ⟨r, some p.line, some p.column⟩) s := by
  unfold store
  cases hpriv : name.startsWith "__" with
  | true => exact ⟨_, Run.bind_error (checkName_private hpriv)⟩
  | false =>
    unfold isReserved at h
    rw [hfield, hpriv, Bool.or_false, Option.isSome_none, Bool.false_or] at h
    refine ⟨.rebinding (Text.quote name), ?_⟩
    rw [Run.bind_ok (checkName_ok hpriv), hfield]
    dsimp only
    rw [if_pos h]
    rfl

/-- All that a store can do. -/
theorem store_cases (p : Place) (name : String) (v : Value) (s : Session) :
    (∃ f, Field.ofName? name = some f ∧ Run.final (store p name v s) =
      { s with world := { s.world with layout := s.world.layout.set f v } }) ∨
    (isReserved name = false ∧ Run.final (store p name v s) =
      { s with bindings := s.bindings.set name v }) ∨
    (Field.ofName? name = none ∧ isReserved name = true ∧ Run.final (store p name v s) = s) := by
  cases hfield : Field.ofName? name with
  | some f => exact .inl ⟨f, rfl, congrArg Run.final (store_field hfield)⟩
  | none =>
    cases hres : isReserved name with
    | false => exact .inr (.inl ⟨rfl, congrArg Run.final (store_variable hres)⟩)
    | true =>
      obtain ⟨r, hr⟩ := store_refused (p := p) (v := v) (s := s) hfield hres
      exact .inr (.inr ⟨rfl, rfl, congrArg Run.final hr⟩)

end ScriptM

namespace Trace

def stored? (name : String) : Action → Option Value
  | .store _ other v => if other = name then some v else none
  | _ => none

def lastStored (name : String) : Trace → Option Value
  | [] => none
  | ev :: es => (lastStored name es).or (stored? name ev.action)

end Trace

/-- No function of the diagram runs in the event, and the field is not assigned. -/
def Event.Leaves (f : Field) (ev : Event) : Prop :=
  match ev.action with
  | .work => True
  | .store _ name _ => Field.ofName? name ≠ some f
  | .call g a => ¬ g.RunsMethod a ev.before.world

namespace Session

/-- No variable has the name of a field, of a function or of anything private. -/
def NamesVariables (s : Session) : Prop := ∀ entry ∈ s.bindings, isReserved entry.1 = false

/-- What a name stands for: a field as it is now, a function, or what was stored last under the name. -/
def meaning? (s : Session) (es : Trace) (name : String) : Option Value :=
  if name.startsWith "__" then none
  else match Field.ofName? name with
    | some f => some (s.world.layout.get f)
    | none => match ScriptM.function? name with
      | some f => some (.function f)
      | none => es.lastStored name

end Session

namespace Action.Leads

variable {act : Action} {s t : Session} {name : String}

/-- No action gives a reserved name to a variable. -/
theorem namesVariables (h : act.Leads s t) (hs : s.NamesVariables) : t.NamesVariables := by
  cases act with
  | work =>
    intro entry he
    rw [h.1] at he
    exact hs entry he
  | call f a =>
    rw [show t = _ from h]
    exact hs
  | store p other v =>
    rw [show t = _ from h]
    rcases ScriptM.store_cases p other v s with ⟨f, -, hrun⟩ | ⟨hres, hrun⟩ | ⟨-, -, hrun⟩
    · rw [hrun]
      exact hs
    · rw [hrun]
      intro entry he
      rcases Bindings.mem_set s.bindings he with rfl | hold
      · exact hres
      · exact hs entry hold
    · rw [hrun]
      exact hs

/-- An action changes the value of a variable only if it stores one under the variable's name. -/
theorem find?_bindings (h : act.Leads s t) (hname : isReserved name = false) :
    t.bindings.find? name = (Trace.stored? name act).or (s.bindings.find? name) := by
  cases act with
  | work =>
    rw [h.1]
    rfl
  | call f a =>
    rw [show t = _ from h]
    rfl
  | store p other v =>
    have hstored : Trace.stored? name (.store p other v) = if other = name then some v else none := rfl
    rw [show t = _ from h, hstored]
    rcases ScriptM.store_cases p other v s with ⟨f, hfield, hrun⟩ | ⟨-, hrun⟩ | ⟨-, hres, hrun⟩
    · have hne : other ≠ name := by
        rintro rfl
        unfold isReserved at hname
        rw [hfield] at hname
        cases hname
      rw [hrun, if_neg hne]
      rfl
    · rw [hrun, Bindings.find?_set]
      split <;> rfl
    · have hne : other ≠ name := by
        rintro rfl
        rw [hname] at hres
        cases hres
      rw [hrun, if_neg hne]
      rfl

theorem layout_get {f : Field} (h : act.Leads s t) (hleave : Event.Leaves f ⟨act, s, t⟩) :
    t.world.layout.get f = s.world.layout.get f := by
  cases act with
  | work => rw [h.2.layout]
  | call g a =>
    rw [show t = _ from h]
    exact congrArg (Layout.get · f) (Callable.sameDrawing_call hleave).layout
  | store p name v =>
    rw [show t = _ from h]
    rcases ScriptM.store_cases p name v s with ⟨g, hfield, hrun⟩ | ⟨-, hrun⟩ | ⟨-, -, hrun⟩
    · have hne : f ≠ g := by
        rintro rfl
        exact hleave hfield
      rw [hrun]
      exact Layout.get_set_other s.world.layout hne v
    · rw [hrun]
    · rw [hrun]

end Action.Leads

namespace Explains

variable {s t : Session} {es : Trace} {name : String}

theorem namesVariables (h : Explains s es t) (hs : s.NamesVariables) : t.NamesVariables := by
  induction h with
  | nil => exact hs
  | cons hact _ ih => exact ih (hact.namesVariables hs)

theorem find?_bindings (h : Explains s es t) (hname : isReserved name = false) :
    t.bindings.find? name = (es.lastStored name).or (s.bindings.find? name) := by
  induction h with
  | nil => rfl
  | cons hact _ ih =>
    rw [ih, hact.find?_bindings hname, Trace.lastStored, Option.or_assoc]

/-- At every point of a run that starts without variables, names mean what `meaning?` says. -/
theorem lookup (h : Explains s es t) (hs : s.bindings = []) (p : Place) (name : String) :
    match t.meaning? es name with
    | some v => ScriptM.lookup p name t = .ok v t
    | none => ∃ r, ScriptM.lookup p name t = .error (.script ⟨r, some p.line, some p.column⟩) t := by
  unfold Session.meaning?
  cases hpriv : name.startsWith "__" with
  | true => exact ⟨_, Run.bind_error (ScriptM.checkName_private hpriv)⟩
  | false =>
    rw [ScriptM.lookup_of_public hpriv, if_neg Bool.false_ne_true]
    have hvars : t.NamesVariables := h.namesVariables (by simp [Session.NamesVariables, hs])
    have unbound (hres : isReserved name = true) : t.bindings.find? name = none :=
      Bindings.find?_eq_none t.bindings fun entry he hname => by
        rw [← hname, hvars entry he] at hres
        cases hres
    cases hfield : Field.ofName? name with
    | some f =>
      rw [unbound (by unfold isReserved; rw [hfield]; rfl)]
    | none =>
      cases hfun : ScriptM.function? name with
      | some f => rw [unbound (by unfold isReserved; rw [hfield, hfun]; rfl)]
      | none =>
        have hname : isReserved name = false := by
          unfold isReserved
          rw [hfield, hfun, hpriv]
          rfl
        have hfind := h.find?_bindings hname
        rw [hs, Bindings.find?, Option.or_none] at hfind
        rw [hfind]
        cases es.lastStored name with
        | some v => rfl
        | none => exact ⟨_, rfl⟩

/-- A field keeps its value until it is assigned or a function of the diagram runs. -/
theorem layout_get {f : Field} (h : Explains s es t) (hleave : ∀ ev ∈ es, Event.Leaves f ev) :
    t.world.layout.get f = s.world.layout.get f := by
  induction h with
  | nil => rfl
  | cons hact _ ih =>
    rw [ih fun ev hev => hleave ev (List.mem_cons_of_mem _ hev)]
    exact hact.layout_get (hleave _ List.mem_cons_self)

/-- A stored field has the value until it is assigned again or a function of the diagram runs. -/
theorem layout_get_stored {before later : Trace} {p : Place} {v : Value} {u u' : Session} {f : Field}
    (h : Explains s (before ++ ⟨.store p name v, u, u'⟩ :: later) t) (hfield : Field.ofName? name = some f)
    (hleave : ∀ ev ∈ later, Event.Leaves f ev) : t.world.layout.get f = v := by
  induction before generalizing s with
  | nil =>
    cases h with
    | cons hact rest =>
      rw [rest.layout_get hleave, show u' = _ from hact, ScriptM.store_field hfield]
      exact Layout.get_set_same _ f v
  | cons ev before ih =>
    cases h with
    | cons hact rest => exact ih rest

end Explains

namespace Session

/-- At every point of a script's run on a new session, no variable has a reserved name, and each name means
what `meaning?` says. A value stored in a field of the geometry is what the field's name means, and what a
call finds there, until the field is assigned again or a function of the diagram runs. -/
theorem pointAt_names (budget : Int) (source : String) (w : World) (n : Nat) :
    let all := ({ world := w } : Session).trace budget source
    let es := all.take n
    let t := ({ world := w } : Session).pointAt budget source n
    Explains { world := w } all (Run.final (ScriptM.runSource budget source { world := w })) ∧
    Explains { world := w } es t ∧
    t.NamesVariables ∧
    (∀ p name, match t.meaning? es name with
      | some v => ScriptM.lookup p name t = .ok v t
      | none => ∃ r, ScriptM.lookup p name t = .error (.script ⟨r, some p.line, some p.column⟩) t) ∧
    ∀ before p name v u u' later f, es = before ++ ⟨.store p name v, u, u'⟩ :: later →
      Field.ofName? name = some f → (∀ ev ∈ later, Event.Leaves f ev) →
        t.world.layout.get f = v ∧ (∀ q, ScriptM.lookup q name t = .ok v t) ∧
        ∀ g a r r', all[n]? = some ⟨.call g a, r, r'⟩ → r'.world = Run.final (g.call a t.world) := by
  intro all es t
  have hpoint : Explains { world := w } es t := explains_pointAt budget source _ n
  have hlookup := hpoint.lookup rfl
  have hwhole : Explains { world := w } all (Run.final (ScriptM.runSource budget source { world := w })) :=
    ScriptM.explains_runSource budget source _
  refine ⟨hwhole, hpoint, hpoint.namesVariables (by simp [NamesVariables]), hlookup, ?_⟩
  intro before p name v u u' later f hes hfield hleave
  rw [hes] at hpoint
  have hget := hpoint.layout_get_stored hfield hleave
  refine ⟨hget, fun q => ?_, fun g a r r' hcall => ?_⟩
  · have hmeaning : t.meaning? es name = some v := by
      unfold meaning?
      rw [if_neg (by rw [Field.not_private hfield]; decide), hfield, ← hget]
    have hq := hlookup q name
    rwa [hmeaning] at hq
  · obtain ⟨hbefore, hact⟩ := hwhole.getElem? hcall
    obtain rfl : r = t := hbefore
    rw [show r' = _ from hact]

end Session
end WireSketch
