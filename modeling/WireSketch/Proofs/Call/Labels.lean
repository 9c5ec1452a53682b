import WireSketch.Proofs.Call.Move
import WireSketch.Proofs.Call.Registry
import WireSketch.Proofs.Drawing.Labels

/-! The labels of boxes after any run of calls: one for each box that was drawn with a label, in order. -/
namespace WireSketch
open Contract

/-- The cursor stands at a whole column, and columns are of whole width. -/
structure Layout.HasWholeColumns (l : Layout) : Prop where
  boxIndex : l.boxIndex.asInt?.isSome
  boxWidth : l.boxWidth.asInt?.isSome

theorem unlabelled_shifting : Contract.unlabelled.Shifting :=
  { unlabelled_sketching with field := fun _ _ _ => ⟨rfl, List.prefix_rfl⟩ }

namespace Move

/-- A move across columns is one across whole columns. -/
def IsWhole : Move → Prop
  | across span => span.asInt?.isSome
  | _ => True

theorem Makes.hasWholeColumns {m : Move} {l l' : Layout} (h : m.Makes l l') (hm : m.IsWhole)
    (hl : l.HasWholeColumns) : l'.HasWholeColumns := by
  cases m with
  | stay =>
    obtain rfl : l' = l := h
    exact hl
  | across span =>
    obtain ⟨v, s, s', hv, rfl⟩ := h
    obtain ⟨columns, hcolumns⟩ := Option.isSome_iff_exists.mp hm
    obtain ⟨column, hcolumn⟩ := Option.isSome_iff_exists.mp hl.boxIndex
    rw [Value.addInto_of_asInt? hcolumn hcolumns] at hv
    cases hv
    exact ⟨rfl, hl.boxWidth⟩
  | down height =>
    obtain ⟨v, s, s', -, rfl⟩ := h
    exact ⟨hl.boxIndex, hl.boxWidth⟩
  | row height =>
    obtain ⟨v, s, s', -, rfl⟩ := h
    exact ⟨rfl, hl.boxWidth⟩

end Move

section Boxes

variable {w : World} {column columnWidth : Int}

theorem commitsAt_drawBox_label (label spec : Value)
    (hmove : (Move.resolved spec w fun options => .across (boxSpan options)).IsWhole)
    (hindex : w.layout.boxIndex.asInt? = some column)
    (hwidth : w.layout.boxWidth.asInt? = some columnWidth) :
    unlabelled.CommitsAt (fun u t => ∃ span columns,
      (Move.resolved spec w fun options => .across (boxSpan options)) = .across span ∧
        span.asInt? = some columns ∧ World.RecordsLabel label (.int (columns * columnWidth)) u t)
      (drawBox label (Spec.ofValue spec)) w := by
  rw [drawBox_ofValue]
  refine (unlabelled_sketching.keeps_resolveValue spec).commitsAt fun options t hr => ?_
  obtain ⟨⟨s, rfl⟩, -⟩ := (storing_resolving.keeps_resolveValue spec).of_ok hr
  have hresolved : (Move.resolved spec w fun options => .across (boxSpan options)) =
      .across (boxSpan options) := by
    unfold Move.resolved
    rw [hr]
  rw [hresolved] at hmove ⊢
  obtain ⟨columns, hcolumns⟩ := Option.isSome_iff_exists.mp hmove
  exact (commitsAt_drawBoxOf_label (w := { w with store := s }) label hcolumns hindex hwidth).mono
    fun _ _ hrecords => ⟨boxSpan options, columns, rfl, hcolumns, hrecords⟩

/-- The label of a group is always there: nothing has a text as well. -/
theorem commitsAt_drawGroupLabelHeader_label {span : Value} {columns : Int} (label : Value)
    (hspan : span.asInt? = some columns) (hindex : w.layout.boxIndex.asInt? = some column)
    (hwidth : w.layout.boxWidth.asInt? = some columnWidth) :
    unlabelled.CommitsAt (World.Records (.int (columns * columnWidth))) (drawGroupLabelHeader span label)
      w := by
  let options := Attrs.ofNames [("span", span), ("borders", .frozenset #[]), ("height", .int 14)]
  have hoptions : (boxSpan options).asInt? = some columns := hspan
  let math : Spec := .composite [.named (.str "math"), .ofNames [("font-size", .int 12)] (by decide)]
  have style {C : Contract Failure World} : C.Yields (Spec.Allowed C) (pure math : DrawM Spec) :=
    yields_pure (.styled _ (.own _ _))
  unfold drawGroupLabelHeader
  refine (unlabelled_sketching.keeps_buildLabel label style []).commitsAt fun n t hr => ?_
  obtain ⟨⟨s, rfl⟩, -⟩ := (storing_resolving.keeps_buildLabel label style []).of_ok hr
  exact commitsAt_drawBoxOf_label (w := { w with store := s }) (.node n) hoptions hindex hwidth

end Boxes

namespace Primitive

def givesLabel (p : Primitive) (b : Bound) : Bool :=
  match p, b.values with
  | drawBox, [label, _] => !(label matches .none)
  | drawGroupLabelHeader, [_, _] => true
  | _, _ => false

/-- The label of the call is recorded with the width of the columns that the call moves across. -/
def RecordsLabel (p : Primitive) (b : Bound) (w u t : World) : Prop :=
  if p.givesLabel b then ∃ span columns width, p.move b w = .across span ∧ span.asInt? = some columns ∧
    w.layout.boxWidth.asInt? = some width ∧ World.Records (.int (columns * width)) u t
  else t.labels = u.labels

theorem commitsAt_done {C : Contract Failure World} {P : World → World → Prop} {x : DrawM Unit} {w : World}
    (hx : C.CommitsAt P x w) : C.CommitsAt P (do x; return .none : DrawM Value) w := by
  unfold CommitsAt at *
  cases hr : x w with
  | ok a t =>
    rw [hr] at hx
    rw [Run.bind_ok hr]
    exact hx
  | error e t =>
    rw [hr] at hx
    rw [Run.bind_error hr]
    exact hx

theorem commitsAt_keeping {p : Primitive} {b : Bound} (w : World) (h : unlabelled.Keeps (p.perform b))
    (hnone : p.givesLabel b = false) : unlabelled.CommitsAt (p.RecordsLabel b w) (p.perform b) w := by
  have hquiet : p.RecordsLabel b w = fun u t => t.labels = u.labels := by
    unfold RecordsLabel
    rw [hnone]
    rfl
  rw [hquiet]
  exact .intro (fun a t ht => ⟨w, unlabelled.refl w, (h.of_ok ht).1.1⟩) fun e t ht => h.of_error ht

/-- In whole columns, a function that succeeds records the label that it is given, and nothing else. -/
theorem commitsAt_perform_label (p : Primitive) (b : Bound) {w : World} (hmove : (p.move b w).IsWhole)
    (hl : w.layout.HasWholeColumns) : unlabelled.CommitsAt (p.RecordsLabel b w) (p.perform b) w := by
  obtain ⟨column, hindex⟩ := Option.isSome_iff_exists.mp hl.boxIndex
  obtain ⟨width, hwidth⟩ := Option.isSome_iff_exists.mp hl.boxWidth
  by_cases hp : p.drawsBox = false
  · have registers : unlabelled.AllowsRegistration :=
      unlabelled_sketching.keeps_registerAttrs fun _ _ => ⟨rfl, List.prefix_rfl⟩
    have hnone : p.givesLabel b = false := by
      unfold givesLabel
      split <;> first | rfl | cases hp
    exact commitsAt_keeping w
      (unlabelled_shifting.keeps_perform hp (fun _ _ _ _ _ => trivial) fun _ => registers) hnone
  · obtain ⟨values, rest, extra⟩ := b
    cases p <;> try exact absurd rfl hp
    case drawBox =>
      match values with
      | [label, spec] =>
        refine (commitsAt_done (commitsAt_drawBox_label label spec hmove hindex hwidth)).mono
          fun u t ⟨span, columns, hacross, hspan, hrecords⟩ => ?_
        unfold RecordsLabel
        cases label with
        | none => exact hrecords
        | _ => exact ⟨span, columns, width, hacross, hspan, hwidth, hrecords⟩
      | [] | [_] | _ :: _ :: _ :: _ => exact commitsAt_keeping w (keeps_pure _) rfl
    case drawGroupLabelHeader =>
      match values with
      | [span, label] =>
        obtain ⟨columns, hspan⟩ := Option.isSome_iff_exists.mp hmove
        refine (commitsAt_done (commitsAt_drawGroupLabelHeader_label label hspan hindex hwidth)).mono
          fun u t hrecords => ?_
        exact ⟨span, columns, width, rfl, hspan, hwidth, hrecords⟩
      | [] | [_] | _ :: _ :: _ :: _ => exact commitsAt_keeping w (keeps_pure _) rfl

end Primitive

namespace LibraryFunction

/-- Spans are whole, and so is what a field of the geometry is set to. -/
def IsWhole (f : LibraryFunction) (b : Bound) (w : World) : Prop :=
  match f, b.values with
  | primitive p, _ => (p.move b w).IsWhole
  | setField, [_, v] => v.asInt?.isSome
  | _, _ => True

theorem hasWholeColumns_set {l : Layout} (hl : l.HasWholeColumns) {v : Value} (hv : v.asInt?.isSome)
    (f : Field) : (l.set f v).HasWholeColumns := by
  cases f with
  | boxIndex => exact ⟨hv, hl.boxWidth⟩
  | boxWidth => exact ⟨hl.boxIndex, hv⟩
  | _ => exact ⟨hl.boxIndex, hl.boxWidth⟩

theorem hasWholeColumns_setField {b : Bound} {w : World} (hf : setField.IsWhole b w)
    (hl : w.layout.HasWholeColumns) : (Run.final (setField.perform b w)).layout.HasWholeColumns := by
  obtain ⟨name, f, v, hvalues, hset⟩ | hnone := setField_cases b
  · have hv : v.asInt?.isSome := by
      unfold IsWhole at hf
      rwa [hvalues] at hf
    rw [hset]
    exact hasWholeColumns_set hl hv f
  · rw [hnone]
    exact hl

theorem hasWholeColumns_perform {f : LibraryFunction} {b : Bound} {w : World} (hf : f.IsWhole b w)
    (hl : w.layout.HasWholeColumns) : (Run.final (f.perform b w)).layout.HasWholeColumns := by
  by_cases hp : ∃ p, f = primitive p
  · obtain ⟨p, rfl⟩ := hp
    have hmoves : Moves (p.move b w) (p.perform b) w := p.moves_perform b w
    have hrun : (primitive p).perform b w = p.perform b w := rfl
    unfold Moves at hmoves
    rw [hrun]
    cases hr : p.perform b w with
    | ok v t =>
      rw [hr] at hmoves
      exact hmoves.hasWholeColumns hf hl
    | error e t =>
      rw [hr] at hmoves
      exact (congrArg Layout.HasWholeColumns hmoves).mpr hl
  · have hother : ∀ p, f ≠ primitive p := fun p h => hp ⟨p, h⟩
    by_cases hset : f = setField
    · subst hset
      exact hasWholeColumns_setField hf hl
    · have hstill : still.Keeps (f.perform b) :=
        still_drawing.toResolving.keeps_library (fun _ => trivial) hother hset b
      exact (congrArg Layout.HasWholeColumns (hstill.final w)).mpr hl

end LibraryFunction

namespace LibraryCall

/-- The call passes whole spans, or sets a field to an integer. -/
def IsWhole (c : LibraryCall) (w : World) : Prop :=
  ∀ b, c.function.signature.bind c.arguments = .ok b → c.function.IsWhole b (c.entered w)

def AllWhole : List LibraryCall → World → Prop
  | [], _ => True
  | c :: rest, w => c.IsWhole w ∧ AllWhole rest (c.after w)

def succeeds (c : LibraryCall) (w : World) : Bool :=
  match c.function.call c.arguments (c.entered w) with
  | .ok .. => true
  | .error .. => false

def givesLabel (c : LibraryCall) : Bool :=
  match c.function, c.function.signature.bind c.arguments with
  | .primitive p, .ok b => p.givesLabel b
  | _, _ => false

def move (c : LibraryCall) (w : World) : Move :=
  match c.function, c.function.signature.bind c.arguments with
  | .primitive p, .ok b => p.move b (c.entered w)
  | _, _ => .stay

/-- The label is the node that the call drew last, and it has the width of the columns at that time. -/
def Records (c : LibraryCall) (w : World) (p : PlacedLabel) : Prop :=
  (∃ others, (c.after w).scene.toList = w.scene.toList ++ others ++ [.node p.label]) ∧
    ∃ span columns width, c.move w = .across span ∧ span.asInt? = some columns ∧
      w.layout.boxWidth.asInt? = some width ∧ p.available = .int (columns * width)

/-- The calls that succeed with a label, each with the world that it starts in. -/
def labelling : List LibraryCall → World → List (LibraryCall × World)
  | [], _ => []
  | c :: rest, w =>
    (if c.givesLabel && c.succeeds w then [(c, w)] else []) ++ labelling rest (c.after w)

theorem call_of_bind {f : LibraryFunction} {a : Arguments} {b : Bound} (hb : f.signature.bind a = .ok b)
    (w : World) : f.call a w = f.perform b w := by
  unfold LibraryFunction.call
  rw [hb]
  rfl

theorem call_of_bind_error {f : LibraryFunction} {a : Arguments} {e : Fault}
    (hb : f.signature.bind a = .error e) (w : World) : f.call a w = .error (.fault e) w := by
  unfold LibraryFunction.call
  rw [hb]
  rfl

theorem hasWholeColumns_after {c : LibraryCall} {w : World} (hc : c.IsWhole w)
    (hl : w.layout.HasWholeColumns) : (c.after w).layout.HasWholeColumns := by
  unfold after
  cases hb : c.function.signature.bind c.arguments with
  | error e =>
    rw [call_of_bind_error hb]
    exact hl
  | ok b =>
    rw [call_of_bind hb]
    exact LibraryFunction.hasWholeColumns_perform (hc b hb) hl

theorem labels_after_primitive {c : LibraryCall} {w : World} {p : Primitive} {b : Bound}
    (hp : c.function = .primitive p) (hb : c.function.signature.bind c.arguments = .ok b) (hc : c.IsWhole w)
    (hl : w.layout.HasWholeColumns) :
    if c.givesLabel && c.succeeds w then ∃ p, c.Records w p ∧ (c.after w).labels = w.labels.push p
    else (c.after w).labels = w.labels := by
  have hgives : c.givesLabel = p.givesLabel b := by
    unfold givesLabel
    rw [hb, hp]
  have hmove : c.move w = p.move b (c.entered w) := by
    unfold move
    rw [hb, hp]
  have hcall : c.function.call c.arguments (c.entered w) = p.perform b (c.entered w) := by
    rw [call_of_bind hb, hp]
    rfl
  have hwhole : (p.move b (c.entered w)).IsWhole := by
    have hfunction := hc b hb
    rwa [hp] at hfunction
  have hcommits := p.commitsAt_perform_label b hwhole (w := c.entered w) hl
  have hafter : c.after w = Run.final (p.perform b (c.entered w)) := congrArg Run.final hcall
  unfold Records succeeds
  rw [hgives, hmove, hcall, hafter]
  cases hr : p.perform b (c.entered w) with
  | error e t =>
    rw [Bool.and_false]
    exact (hcommits.of_error hr).1.1
  | ok v t =>
    obtain ⟨u, hu, hrecords⟩ := hcommits.of_ok hr
    obtain ⟨hlabels, others, hothers⟩ : u.labels = w.labels ∧ w.scene.toList <+: u.scene.toList := hu
    unfold Primitive.RecordsLabel at hrecords
    rw [Bool.and_true]
    by_cases hlabel : p.givesLabel b
    · rw [if_pos hlabel] at hrecords ⊢
      obtain ⟨span, columns, width, hacross, hspan, hwidth, n, hscene, hpush⟩ := hrecords
      have hlast : t.scene.toList = w.scene.toList ++ others ++ [.node n] := by
        rw [hscene, Array.toList_push, hothers]
      exact ⟨⟨n, .int (columns * width)⟩, ⟨⟨others, hlast⟩, span, columns, width, hacross, hspan, hwidth, rfl⟩,
        hpush.trans (by rw [hlabels])⟩
    · rw [if_neg hlabel] at hrecords ⊢
      exact hrecords.trans hlabels

/-- A call records one label if it gives one and succeeds, and none if not. -/
theorem labels_after {c : LibraryCall} {w : World} (hc : c.IsWhole w) (hl : w.layout.HasWholeColumns) :
    if c.givesLabel && c.succeeds w then ∃ p, c.Records w p ∧ (c.after w).labels = w.labels.push p
    else (c.after w).labels = w.labels := by
  cases hb : c.function.signature.bind c.arguments with
  | error e =>
    have hfails : c.succeeds w = false := by
      unfold succeeds
      rw [call_of_bind_error hb]
    have hafter : c.after w = c.entered w := by
      unfold after
      rw [call_of_bind_error hb]
      rfl
    rw [hfails, Bool.and_false, hafter]
    rfl
  | ok b =>
    by_cases hp : ∃ p, c.function = .primitive p
    · obtain ⟨p, hp⟩ := hp
      exact labels_after_primitive hp hb hc hl
    · have hother : ∀ p, c.function ≠ .primitive p := fun p h => hp ⟨p, h⟩
      have hnone : c.givesLabel = false := by
        unfold givesLabel
        split
        · exact absurd ‹_› (hother _)
        · rfl
      have hkeeps : unlabelled.Keeps (c.function.perform b) := by
        by_cases hset : c.function = .setField
        · rw [hset]
          exact keeps_setField unlabelled_shifting.field b
        · exact unlabelled_sketching.toResolving.keeps_library (fun _ => trivial) hother hset b
      rw [hnone, Bool.false_and]
      unfold after
      rw [call_of_bind hb]
      exact (hkeeps.final (c.entered w)).1

/-- The labels after a run of calls: those before, and one for each call that gives one and succeeds. -/
theorem labels_runAll_append : (calls : List LibraryCall) → (w : World) → AllWhole calls w →
    w.layout.HasWholeColumns → ∃ placed, (runAll calls w).labels.toList = w.labels.toList ++ placed ∧
      List.Forall₂ (fun call p => call.1.Records call.2 p) (labelling calls w) placed
  | [], w, _, _ => ⟨[], (List.append_nil _).symm, .nil⟩
  | c :: rest, w, hcalls, hl => by
    obtain ⟨hc, hrest⟩ := hcalls
    have hafter := labels_after hc hl
    obtain ⟨placed, hlabels, hplaced⟩ :=
      labels_runAll_append rest (c.after w) hrest (hasWholeColumns_after hc hl)
    have hrun : runAll (c :: rest) w = runAll rest (c.after w) := rfl
    rw [hrun, hlabels, labelling]
    by_cases hgives : c.givesLabel && c.succeeds w
    · rw [if_pos hgives] at hafter ⊢
      obtain ⟨p, hp, hpush⟩ := hafter
      refine ⟨p :: placed, ?_, .cons hp hplaced⟩
      rw [hpush, Array.toList_push, List.append_assoc]
      rfl
    · rw [if_neg hgives] at hafter ⊢
      exact ⟨placed, by rw [hafter], hplaced⟩

end LibraryCall
end WireSketch
