import WireSketch.Proofs.Call.CursorRun
import WireSketch.Proofs.Drawing.Shifted

/-! The same calls in two drawings that begin at different places: all that they draw is shifted. -/
namespace WireSketch
open Contract

/-- A box without label, a gap, a closing line or a new row, whose sizes are integers as far as they are given. -/
def Primitive.HasIntegers (p : Primitive) (b : Bound) (w : World) : Prop :=
  match p, b.values with
  | drawBox, [label, spec] => label = .none ∧ ∀ options t, resolveValue spec w = .ok options t → options.IsIntegral
  | drawGap, [height, gap, edge] => height.asInt?.isSome ∧ gap.asInt?.isSome ∧ edge.asInt?.isSome
  | drawBottom, _ => True
  | nextRow, [height] => height = .none ∨ height.asInt?.isSome
  | _, _ => False

variable {d e : Int} {start start' : List Value} {w w' : World}

theorem endAlike_drawBox {label spec : Value} (hlabel : label = .none)
    (hoptions : ∀ options t, resolveValue spec w = .ok options t → options.IsIntegral)
    (h : w.Shifted d e start start' w') :
    EndAlike (World.Shifted d e start start') Eq (drawBox label (Spec.ofValue spec) w)
      (drawBox label (Spec.ofValue spec) w') := by
  subst hlabel
  rw [drawBox_ofValue]
  refine (World.Shifted.sharesStyles.alike_resolveValue spec w w' h).bind fun options options' t t' hr ho ht => ?_
  subst ho
  exact World.Shifted.paired_drawBoxOf (hoptions options t hr) t t' ht

theorem Primitive.endAlike_perform {p : Primitive} {b : Bound} (hp : p.HasIntegers b w)
    (h : w.Shifted d e start start' w') :
    EndAlike (World.Shifted d e start start') (fun _ _ => True) (p.perform b w) (p.perform b w') := by
  have done {x : DrawM Unit} (hx : EndAlike (World.Shifted d e start start') Eq (x w) (x w')) :
      EndAlike (World.Shifted d e start start') (fun _ _ => True) ((do x; return .none : DrawM Value) w)
        ((do x; return .none : DrawM Value) w') :=
    hx.bind fun _ _ _ _ _ _ hs => .ok hs trivial
  obtain ⟨values, rest, extra⟩ := b
  cases p <;> try exact False.elim hp
  case drawBox =>
    match values, hp with
    | [label, spec], ⟨hlabel, hoptions⟩ => exact done (endAlike_drawBox hlabel hoptions h)
  case drawGap =>
    match values, hp with
    | [height, gap, edge], ⟨hheight, hgap, hedge⟩ =>
      exact done (World.Shifted.paired_drawGap hheight hgap hedge w w' h)
  case drawBottom => exact done (World.Shifted.paired_drawBottom w w' h)
  case nextRow =>
    match values, hp with
    | [height], hheight => exact done (World.Shifted.paired_nextRow hheight w w' h)

namespace DrawingCall

def failure? (c : DrawingCall) (w : World) : Option Failure :=
  match c.run w with
  | .ok .. => none
  | .error e _ => some e

def failures : List DrawingCall → World → List (Option Failure)
  | [], _ => []
  | c :: rest, w => c.failure? w :: failures rest (c.after w)

/-- The call draws in integers, and its caller has left the dotted style as it was. -/
structure IsPlain (c : DrawingCall) (w : World) : Prop where
  dotted : w.HasDotted → (c.entered w).HasDotted
  integers : ∀ b, c.function.signature.bind c.arguments = .ok b → c.function.HasIntegers b (c.entered w)

def ArePlain : List DrawingCall → World → Prop
  | [], _ => True
  | c :: rest, w => c.IsPlain w ∧ ArePlain rest (c.after w)

/-- One call ends alike in both drawings, and leaves them shifted against each other. -/
theorem shifted_after {c : DrawingCall} (hc : c.IsPlain w) (h : w.Shifted d e start start' w') :
    (c.after w).Shifted d e start start' (c.after w') ∧ c.failure? w' = c.failure? w := by
  have hentered : (c.entered w).Shifted d e start start' (c.entered w') :=
    ⟨congrArg c.prepare h.store, h.styles, h.layout, hc.dotted h.dotted, h.scene⟩
  have hends : EndAlike (World.Shifted d e start start') (fun _ _ => True) (c.run w) (c.run w') := by
    unfold run Primitive.call
    refine (SharesStyles.alike_ofExcept _ _ _ hentered).bind fun b b' t t' hr hb ht => ?_
    subst hb
    obtain ⟨hbound, rfl⟩ := DrawM.of_ofExcept_ok hr
    exact Primitive.endAlike_perform (hc.integers b hbound) ht
  unfold after failure?
  generalize c.run w = r, c.run w' = q at hends
  cases hends with
  | ok hs _ => exact ⟨hs, rfl⟩
  | error f hs => exact ⟨hs, rfl⟩

theorem shifted_runs : (calls : List DrawingCall) → {w w' : World} → ArePlain calls w →
    w.Shifted d e start start' w' →
      (runAll calls w).Shifted d e start start' (runAll calls w') ∧ failures calls w' = failures calls w
  | [], _, _, _, h => ⟨h, rfl⟩
  | c :: rest, w, w', ⟨hc, hrest⟩, h => by
    obtain ⟨hafter, hfailure⟩ := shifted_after hc h
    obtain ⟨hend, hfailures⟩ := shifted_runs rest hrest hafter
    refine ⟨hend, ?_⟩
    unfold failures
    rw [hfailure, hfailures]

/-- Of two drawings with the same styles and integer geometry, the second of which begins `d` further right and
`e` further down, the same calls fail with the same failures; the cursors end in the same column and `e` apart, and
the nodes added are the same, with every coordinate shifted. -/
theorem shifted_runAll (d e : Int) (calls : List DrawingCall) (w w' : World) (hstore : w'.store = w.store)
    (hstyles : w'.styles = w.styles) (hlayout : w.layout.Shifted d e w'.layout) (hdotted : w.HasDotted)
    (hcalls : ArePlain calls w) :
    failures calls w' = failures calls w ∧
      (runAll calls w').layout.boxIndex = (runAll calls w).layout.boxIndex ∧
      (runAll calls w).layout.diagramY.ShiftedBy e (runAll calls w').layout.diagramY ∧
      ∃ nodes nodes', (runAll calls w).scene.toList = w.scene.toList ++ nodes ∧
        (runAll calls w').scene.toList = w'.scene.toList ++ nodes' ∧
          List.Forall₂ (Value.Shifted d e) nodes nodes' := by
  have hstart : w.Shifted d e w.scene.toList w'.scene.toList w' :=
    ⟨hstore, hstyles, hlayout, hdotted, [], [], (List.append_nil _).symm, (List.append_nil _).symm, .nil⟩
  obtain ⟨hend, hfailures⟩ := shifted_runs calls hcalls hstart
  exact ⟨hfailures, (hend.layout.others .boxIndex nofun nofun).1, hend.layout.diagramY, hend.scene⟩

/-- A box that fails at its borders after its area, a wide box, a new row, a gap and the closing line, five to the
right and seven down. -/
theorem shifted_runAll_rows :
    let broken : Dict := .ofDistinct [(.str "fill", .str "#ccc"), (.str "borders", .int 3)] (by decide)
    let wide : Dict := .ofDistinct
      [(.str "span", .int 2), (.str "fill", .str "#eee"), (.str "borders", .str "top left")] (by decide)
    let w : World := { World.initial {} with store := ⟨#[.dict broken, .dict wide]⟩ }
    let w' : World := { w with layout := { leftMargin := .int 45, diagramY := .int 7 } }
    let calls : List DrawingCall := [
      ⟨id, .drawBox, ⟨[.none, .dict 0], []⟩⟩,
      ⟨id, .drawBox, ⟨[.none, .dict 1], []⟩⟩,
      ⟨id, .nextRow, ⟨[.int 25], []⟩⟩,
      ⟨id, .drawGap, ⟨[], [("gap", .int 8)]⟩⟩,
      ⟨id, .drawBottom, ⟨[], []⟩⟩]
    ArePlain calls w ∧ (failures calls w).map Option.isSome = [true, false, false, false, false] ∧
      (runAll calls w).scene.size = 13 ∧ (runAll calls w').layout.diagramY.asInt? = some 102 ∧
      ∃ nodes nodes', (runAll calls w).scene.toList = nodes ∧ (runAll calls w').scene.toList = nodes' ∧
        List.Forall₂ (Value.Shifted 5 7) nodes nodes' := by
  intro broken wide w w' calls
  have hbroken : Attrs.IsIntegral broken.entries.toList := ⟨rfl, nofun⟩
  have hwide : Attrs.IsIntegral wide.entries.toList := ⟨rfl, nofun⟩
  have hentered {p : Primitive} {a : Arguments} (u : World) (hu : u.HasDotted) :
      ((⟨id, p, a⟩ : DrawingCall).entered u).HasDotted := hu
  have hcalls : ArePlain calls w := by
    refine ⟨⟨hentered _, fun b hb => ?_⟩, ⟨hentered _, fun b hb => ?_⟩, ⟨hentered _, fun b hb => ?_⟩,
      ⟨hentered _, fun b hb => ?_⟩, ⟨hentered _, fun b hb => ?_⟩, trivial⟩
    · cases hb
      exact ⟨rfl, fun _ _ => isIntegral_of_dict rfl hbroken⟩
    · cases hb
      exact ⟨rfl, fun _ _ => isIntegral_of_dict rfl hwide⟩
    · cases hb
      exact .inr rfl
    · cases hb
      exact ⟨rfl, rfl, rfl⟩
    · cases hb
      trivial
  have hlayout : w.layout.Shifted 5 7 w'.layout :=
    ⟨⟨40, rfl, rfl⟩, ⟨0, rfl, rfl⟩, fun f _ _ => by cases f <;> first | contradiction | exact ⟨rfl, rfl⟩⟩
  obtain ⟨-, -, -, nodes, nodes', hnodes, hnodes', hshifted⟩ :=
    shifted_runAll 5 7 calls w w' rfl rfl hlayout (.own rfl) hcalls
  exact ⟨hcalls, by decide +kernel, by decide +kernel, by decide +kernel, nodes, nodes', hnodes, hnodes', hshifted⟩

end DrawingCall
end WireSketch
