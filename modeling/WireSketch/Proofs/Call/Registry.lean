import Mathlib.Data.List.Basic
import WireSketch.Proofs.Call.Library
import WireSketch.Proofs.Drawing.Defaults

/-! The registry of styles under calls: each registration that succeeds enters it, nothing else changes it. -/
namespace WireSketch
open Contract

theorem styled_moving : Contract.styled.Moving where
  store _ _ := rfl
  fault _ _ := trivial
  diagram _ := trivial
  scene _ _ := rfl
  labels _ _ := rfl
  range _ := trivial
  format _ _ _ _ := trivial
  field _ _ _ := rfl

namespace Primitive

def NamesDefaults (p : Primitive) (b : Bound) : Prop :=
  match p, b.values with
  | .drawGap, _ | .drawGroupLabelHeader, _ => True
  | .hexLabel, [_, _, spec] => spec = .str "hex"
  | .drawBox, [_, spec] => spec = .none
  | _, _ => False

theorem finds_perform {p : Primitive} {b : Bound} (h : p.NamesDefaults b) : Finds (p.perform b) := by
  have done {x : DrawM Unit} (hx : Finds x) : Finds (do x; return .none : DrawM Value) :=
    hx.bind fun _ => finds_pure _
  obtain ⟨values, rest, extra⟩ := b
  cases p <;> try cases h
  case drawGap =>
    match values with
    | [height, gap, edge] => exact done (finds_drawGap height gap edge)
    | [] | [_] | [_, _] | _ :: _ :: _ :: _ :: _ => exact finds_pure _
  case drawGroupLabelHeader =>
    match values with
    | [span, label] => exact done (finds_drawGroupLabelHeader span label)
    | [] | [_] | _ :: _ :: _ :: _ => exact finds_pure _
  case hexLabel =>
    match values with
    | [n, digits, spec] =>
      obtain rfl : spec = .str "hex" := h
      exact (finds_hexLabel n digits (.named (by decide))).bind fun _ => finds_pure _
    | [] | [_] | [_, _] | _ :: _ :: _ :: _ :: _ => cases h
  case drawBox =>
    match values with
    | [label, spec] =>
      obtain rfl : spec = .none := h
      exact done (finds_drawBox label .empty)
    | [] | [_] | _ :: _ :: _ :: _ => cases h

/-- In a drawing with the default styles, a function that looks up no others misses none. -/
theorem finds_call {p : Primitive} {a : Arguments} (h : ∀ b, p.signature.bind a = .ok b → p.NamesDefaults b) :
    Finds (p.call a) := by
  unfold call
  cases hb : p.signature.bind a with
  | error f => exact finds_of_keeps (yields_throw_bind nofun)
  | ok b => exact finds_perform (h b hb)

/-- The name and the map that a call registers: those of a registration that succeeds. -/
def registration? (p : Primitive) (a : Arguments) (w : World) : Option Registration :=
  match p, p.signature.bind a, p.call a w with
  | .registerAttrs, .ok ⟨[.str name, .dict r], _, _⟩, .ok .. => some (name, r)
  | _, _, _ => none

/-- A registration that succeeds sets one style; one that fails changes nothing. -/
theorem call_registerAttrs (a : Arguments) (w : World) :
    (∃ name r, registerAttrs.registration? a w = some (name, r) ∧
      registerAttrs.call a w = .ok .none { w with styles := Styles.set name (.shared r) w.styles }) ∨
    registerAttrs.registration? a w = none ∧ ∃ e, registerAttrs.call a w = .error e w := by
  unfold registration?
  cases hb : registerAttrs.signature.bind a with
  | error f =>
    refine .inr ⟨rfl, .fault f, ?_⟩
    unfold call
    rw [hb]
    rfl
  | ok b =>
    obtain ⟨values, rest, extra⟩ := b
    have hlength : values.length = 2 := Signature.length_values hb
    obtain ⟨key, map, rfl⟩ := List.length_eq_two.mp hlength
    have hcall : registerAttrs.call a w =
        (do WireSketch.registerAttrs key map; return .none : DrawM Value) w := by
      unfold call
      rw [hb]
      rfl
    rcases run_registerAttrs key map w with ⟨name, r, rfl, rfl, -, hrun⟩ | ⟨e, hrun⟩
    · rw [hcall, Run.bind_ok hrun]
      exact .inl ⟨name, r, rfl, rfl⟩
    · rw [hcall, Run.bind_error hrun]
      refine .inr ⟨?_, e, rfl⟩
      split <;> trivial

/-- With one argument alone there is no registration, so that it never runs as a key. -/
theorem bind_registerAttrs_one (x : Value) (b : Bound) : registerAttrs.signature.bind ⟨[x], []⟩ ≠ .ok b :=
  nofun

end Primitive

namespace Callable

def registration? (f : Callable) (a : Arguments) (w : World) : Option Registration :=
  match f with
  | builtin _ => none
  | primitive p => p.registration? a w

/-- Functions other than the registration leave the styles as they are. -/
theorem styled_call {f : Callable} (hf : f ≠ .primitive .registerAttrs) (a : Arguments) :
    styled.Keeps (f.call a) := by
  refine styled_moving.keeps_call (fun _ _ _ _ _ _ _ _ => trivial) fun b hb => ?_
  cases hb with
  | itself hb => exact absurd rfl hf
  | key f h x hb => exact absurd hb (Primitive.bind_registerAttrs_one x b)

/-- The styles after a call, whether it succeeds or fails. -/
theorem styles_call (f : Callable) (a : Arguments) (w : World) :
    (Run.final (f.call a w)).styles = Styles.registered w.styles (f.registration? a w).toList := by
  by_cases hf : f = .primitive .registerAttrs
  · subst hf
    have hcall : (primitive .registerAttrs).call a w = Primitive.registerAttrs.call a w := rfl
    have hentry : (primitive .registerAttrs).registration? a w = Primitive.registerAttrs.registration? a w :=
      rfl
    rw [hcall, hentry]
    rcases Primitive.call_registerAttrs a w with ⟨name, r, hmade, hrun⟩ | ⟨hnone, e, hrun⟩
    · rw [hmade, hrun]
      rfl
    · rw [hnone, hrun]
      rfl
  · have hnone : f.registration? a w = none := by
      unfold registration? Primitive.registration?
      split
      · rfl
      · split
        · exact absurd rfl hf
        · rfl
    rw [hnone]
    exact (styled_call hf a).final w

end Callable

namespace LibraryFunction

def registration? (f : LibraryFunction) (a : Arguments) (w : World) : Option Registration :=
  match f with
  | primitive p => p.registration? a w
  | _ => none

theorem styled_perform {f : LibraryFunction} (hf : ∀ p, f ≠ primitive p) (b : Bound) :
    styled.Keeps (f.perform b) := by
  by_cases hset : f = setField
  · subst hset
    exact keeps_setField styled_moving.field b
  · exact styled_moving.toResolving.keeps_library (fun _ => trivial) hf hset b

/-- The styles after a call, whether it succeeds or fails. -/
theorem styles_call (f : LibraryFunction) (a : Arguments) (w : World) :
    (Run.final (f.call a w)).styles = Styles.registered w.styles (f.registration? a w).toList := by
  by_cases hf : ∃ p, f = primitive p
  · obtain ⟨p, rfl⟩ := hf
    exact Callable.styles_call (.primitive p) a w
  · have hother : ∀ p, f ≠ primitive p := fun p h => hf ⟨p, h⟩
    have hnone : f.registration? a w = none := by
      unfold registration?
      split
      · exact absurd rfl (hother _)
      · rfl
    have hstyled : styled.Keeps (f.call a) :=
      (keeps_anyExcept (fun _ => trivial) _).bind fun b => styled_perform hother b
    rw [hnone]
    exact hstyled.final w

end LibraryFunction

/-- A call of a function of the library by a caller who may have changed the containers before. -/
structure LibraryCall where
  prepare : Store → Store
  function : LibraryFunction
  arguments : Arguments

namespace LibraryCall

def entered (c : LibraryCall) (w : World) : World := { w with store := c.prepare w.store }

/-- The world after a call, also after one that failed. -/
def after (c : LibraryCall) (w : World) : World := Run.final (c.function.call c.arguments (c.entered w))

/-- The world after calls one after another, the failing ones among them. -/
def runAll (calls : List LibraryCall) (w : World) : World := calls.foldl (fun w c => c.after w) w

def registrations : List LibraryCall → World → List Registration
  | [], _ => []
  | c :: rest, w =>
    (c.function.registration? c.arguments (c.entered w)).toList ++ registrations rest (c.after w)

/-- The styles after calls one after another. -/
theorem styles_runAll : (calls : List LibraryCall) → (w : World) →
    (runAll calls w).styles = Styles.registered w.styles (registrations calls w)
  | [], _ => rfl
  | c :: rest, w => by
    have hrun : runAll (c :: rest) w = runAll rest (c.after w) := rfl
    have hcall : (c.after w).styles =
        Styles.registered w.styles (c.function.registration? c.arguments (c.entered w)).toList :=
      c.function.styles_call c.arguments (c.entered w)
    rw [hrun, styles_runAll rest, hcall, registrations, Styles.registered_append]

/-- The second name is no symbol; the third call puts another map in the place of the first. -/
example :
    let register (key : String) (map : Ref) : LibraryCall :=
      ⟨id, .primitive .registerAttrs, ⟨[.str key, .dict map], []⟩⟩
    let calls := [register "bold" 0, register "0" 1, register "bold" 2, register "new" 1]
    (registrations calls (World.initial {})).map (·.1) = ["bold", "bold", "new"] ∧
      Styles.names (runAll calls (World.initial {})).styles = Styles.names defaultStyles ++ ["new"] := by
  decide +kernel

end LibraryCall

/-- The registry of a drawing that started with the default styles, after registrations one after another. -/
structure World.Registers (w : World) (rs : List Registration) : Prop where
  /-- Every default style and every name that was registered is there. -/
  contains : ∀ name ∈ Styles.names defaultStyles ++ rs.map (·.1), (Styles.find? name w.styles).isSome = true
  /-- A name stands for the map that was registered last, or for the default. -/
  find : ∀ name, Styles.find? name w.styles = Styles.current? name defaultStyles rs
  /-- Names are in the order in which they first came in. -/
  names : Styles.names w.styles = (Styles.names defaultStyles ++ rs.map (·.1)).eraseDups
  /-- Functions that look up default styles alone miss none, whatever else has changed. -/
  finds : ∀ u : World, u.styles = w.styles → ∀ (p : Primitive) (a : Arguments) (b : Bound),
    p.signature.bind a = .ok b → p.NamesDefaults b →
      ∀ key t, p.call a u ≠ .error (.diagram (.unknownStyle key)) t

theorem World.registers_of_styles {w : World} {rs : List Registration}
    (h : w.styles = Styles.registered defaultStyles rs) : w.Registers rs := by
  have hnames : Styles.names w.styles = (Styles.names defaultStyles ++ rs.map (·.1)).eraseDups := by
    rw [h]
    exact Styles.names_registered defaultStyles (by decide +kernel) rs
  have hmem (name : String) (hname : name ∈ Styles.names defaultStyles ++ rs.map (·.1)) :
      name ∈ Styles.names w.styles := by
    rw [hnames]
    exact List.mem_eraseDups.mpr hname
  refine ⟨fun name hname => (Styles.isSome_find? name w.styles).mpr (hmem name hname), fun name => ?_,
    hnames, fun u hu p a b hb hdefaults key t hrun => ?_⟩
  · rw [h]
    exact Styles.find?_registered name defaultStyles rs
  · have hdefault : u.HasDefaults := fun name hname => hu ▸ hmem name (List.mem_append_left _ hname)
    have hfinds : Finds (p.call a) := Primitive.finds_call fun b' hb' => by
      rw [hb] at hb'
      cases hb'
      exact hdefaults
    exact ((hfinds u hdefault).of_error hrun).2 key rfl

end WireSketch
