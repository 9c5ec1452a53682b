import Mathlib.Data.List.Forall2
import WireSketch.Proofs.Call.Labels
import WireSketch.Proofs.Fit.Measurer

/-! The check of labels against their boxes: one call of the measurer for each label, and what it finds. -/
namespace WireSketch

/-- The label is wider than its box: what it is wider by is more than zero, in binary64. -/
def LabelFit.overflows (f : LabelFit) : Bool :=
  match f.available with
  | .int n => (Binary64.ofInt? n).any fun x => Binary64.compareInt 0 (f.width - x) == some .lt
  | _ => false

def LabelFit.ofCall (p : PlacedLabel) (call : String × Float) : LabelFit := ⟨call.1, call.2, p.available⟩

section Compare

variable {s s' : Store}

theorem compareBy_gt_float (x : Float) (n : Int) : (Value.float x).compareBy .gt (.int n) =
    pure (match (Num.float x).order? (.int n) with
      | some o => CompareOp.gt.ofOrdering o
      | none => false) := rfl

theorem compareBy_gt_zero (x : Float) :
    (Value.float x).compareBy .gt (.int 0) = pure (Binary64.compareInt 0 x == some .lt) := by
  rw [compareBy_gt_float, Num.order?]
  cases Binary64.compareInt 0 x with
  | none => rfl
  | some o => cases o <;> rfl

/-- A width less an integer is compared with zero, if the integer is in range. -/
theorem of_isTooWide_ok {f : LabelFit} {n : Int} {wide : Bool} (hf : f.available = .int n)
    (h : f.isTooWide s = .ok wide s') : wide = f.overflows ∧ s' = s := by
  have hoverflows : f.overflows =
      (Binary64.ofInt? n).any fun x => Binary64.compareInt 0 (f.width - x) == some .lt := by
    unfold LabelFit.overflows
    rw [hf]
  have hnumeric : BinaryOp.sub ∉ [BinaryOp.bitAnd, .bitOr, .bitXor] := by decide
  have hsub : Value.binaryAs "-" .sub (.float f.width) (.int n) = _ :=
    Value.binaryAs_of_num? rfl rfl hnumeric
  have hdef : (Value.float f.width).sub (.int n) = Value.binaryAs "-" .sub (.float f.width) (.int n) := rfl
  have hop : (Num.float f.width).op .sub (.int n) =
      (do return some (.float (f.width - (← (Num.int n).toFloat)))) := rfl
  unfold LabelFit.isTooWide LabelFit.overflow at h
  rw [hf, hdef, hsub, hop] at h
  rw [hoverflows]
  unfold Num.toFloat at h
  dsimp only at h
  cases hn : Binary64.ofInt? n with
  | none =>
    rw [hn] at h
    cases h
  | some x =>
    rw [hn] at h
    have hcompare : (Value.float (f.width - x)).compareBy .gt (.int 0) s = .ok wide s' := h
    rw [compareBy_gt_zero] at hcompare
    cases hcompare
    rw [Option.any_some]
    exact ⟨rfl, rfl⟩

end Compare

section Measure

variable {σ : Type} {measure : Measurer σ} {s s' : Store} {t t' : σ}

/-- Measuring a label is one call of the measurer with the label's text. -/
theorem of_measureLabel_ok {p : PlacedLabel} {f : LabelFit} (calls : List (String × Float))
    (h : measureLabel measure p (s, t) = .ok f (s', t')) : ∃ call : String × Float,
      p.label.textContent = .ok call.1 ∧ f = .ofCall p call ∧
      measureLabel measure.recording p (s, (t, calls)) = .ok f (s', (t', calls ++ [call])) := by
  unfold measureLabel at h ⊢
  obtain ⟨text, u, htext, h⟩ := Run.of_bind_ok h
  obtain ⟨size, u₁, hsize, h⟩ := Run.of_bind_ok h
  obtain ⟨width, u₂, hwidth, h⟩ := Run.of_bind_ok h
  cases h
  obtain ⟨hcontent, rfl⟩ := FitM.of_ofExcept_ok htext
  obtain ⟨s₁, hlength, rfl⟩ := FitM.of_ofStore_ok hsize
  refine ⟨(text, width), hcontent, rfl, ?_⟩
  have hmeasured := Measurer.recording_ok calls hwidth
  exact (Run.bind_ok (FitM.ofExcept_ok hcontent _)).trans
    ((Run.bind_ok (FitM.ofStore_ok hlength _)).trans (Run.bind_ok hmeasured))

/-- The labels are measured one after another. -/
theorem of_mapM_measureLabel_ok {labels : List PlacedLabel} {fits : List LabelFit}
    (calls : List (String × Float)) (h : labels.mapM (measureLabel measure) (s, t) = .ok fits (s', t')) :
    ∃ made, List.Forall₂ (fun (p : PlacedLabel) (call : String × Float) => p.label.textContent = .ok call.1)
        labels made ∧
      fits = List.zipWith LabelFit.ofCall labels made ∧
      labels.mapM (measureLabel measure.recording) (s, (t, calls)) = .ok fits (s', (t', calls ++ made)) := by
  induction labels generalizing fits calls s t with
  | nil =>
    cases h
    exact ⟨[], .nil, rfl, by rw [List.append_nil]; rfl⟩
  | cons p labels ih =>
    rw [List.mapM_cons] at h ⊢
    obtain ⟨f, ⟨s₁, t₁⟩, hf, h⟩ := Run.of_bind_ok h
    obtain ⟨rest, ⟨s₂, t₂⟩, hrest, h⟩ := Run.of_bind_ok h
    cases h
    obtain ⟨call, htext, hfit, hcall⟩ := of_measureLabel_ok calls hf
    obtain ⟨made, htexts, hfits, hmade⟩ := ih (calls ++ [call]) hrest
    refine ⟨call :: made, .cons htext htexts, ?_, ?_⟩
    · rw [hfit, hfits]
      rfl
    · rw [Run.bind_ok hcall, Run.bind_ok hmade, List.append_assoc]
      rfl

/-- The labels that are kept are those that overflow, whatever state a measurer is in. -/
theorem of_filterAuxM_isTooWide_ok {fits kept result : List LabelFit}
    (hfits : ∀ f ∈ fits, ∃ n, f.available = .int n)
    (h : List.filterAuxM (fun f : LabelFit => (liftM f.isTooWide : FitM σ Bool)) fits kept (s, t) =
      .ok result (s', t')) :
    result = (fits.filter LabelFit.overflows).reverse ++ kept ∧ s' = s ∧ t' = t ∧ ∀ {τ : Type} (u : τ),
      List.filterAuxM (fun f : LabelFit => (liftM f.isTooWide : FitM τ Bool)) fits kept (s, u) =
        .ok result (s, u) := by
  induction fits generalizing kept with
  | nil =>
    cases h
    exact ⟨rfl, rfl, rfl, fun _ => rfl⟩
  | cons f fits ih =>
    rw [List.filterAuxM] at h
    obtain ⟨wide, u, hlifted, hrest⟩ := Run.of_bind_ok h
    obtain ⟨s₁, hwide, rfl⟩ := FitM.of_ofStore_ok hlifted
    obtain ⟨n, hn⟩ := hfits f List.mem_cons_self
    obtain ⟨rfl, rfl⟩ := of_isTooWide_ok hn hwide
    obtain ⟨hresult, hs, ht, hother⟩ := ih (fun f hf => hfits f (List.mem_cons_of_mem _ hf)) hrest
    refine ⟨?_, hs, ht, fun u => ?_⟩
    · rw [hresult, List.filter_cons]
      cases f.overflows with
      | true =>
        rw [if_pos rfl, List.reverse_cons, List.append_assoc]
        rfl
      | false =>
        rw [if_neg Bool.false_ne_true]
        rfl
    · exact (Run.bind_ok (FitM.ofStore_ok hwide u)).trans (hother u)

/-- A check that comes to a result has measured each label once, in order, and finds those that overflow. -/
theorem of_checkLabelFit_ok {labels : List PlacedLabel} {fits : List LabelFit}
    (hlabels : ∀ p ∈ labels, ∃ n, p.available = .int n)
    (h : checkLabelFit measure labels (s, t) = .ok fits (s', t')) : ∃ calls,
      List.Forall₂ (fun (p : PlacedLabel) (call : String × Float) => p.label.textContent = .ok call.1)
        labels calls ∧
      checkLabelFit measure.recording labels (s, (t, [])) = .ok fits (s', (t', calls)) ∧
      fits = (List.zipWith LabelFit.ofCall labels calls).filter LabelFit.overflows := by
  unfold checkLabelFit List.filterM at h ⊢
  obtain ⟨measured, ⟨s₁, t₁⟩, hmeasured, h⟩ := Run.of_bind_ok h
  obtain ⟨kept, ⟨s₂, t₂⟩, hkept, h⟩ := Run.of_bind_ok h
  cases h
  obtain ⟨calls, htexts, rfl, hcalls⟩ := of_mapM_measureLabel_ok [] hmeasured
  have hwhole : ∀ f ∈ List.zipWith LabelFit.ofCall labels calls, ∃ n, f.available = .int n := by
    intro f hf
    rw [← List.map_uncurry_zip_eq_zipWith, List.mem_map] at hf
    obtain ⟨⟨p, call⟩, hmem, rfl⟩ := hf
    exact hlabels p (List.of_mem_zip hmem).1
  obtain ⟨rfl, rfl, rfl, hagain⟩ := of_filterAuxM_isTooWide_ok hwhole hkept
  refine ⟨calls, htexts, ?_, ?_⟩
  · rw [Run.bind_ok hcalls, Run.bind_ok (hagain _)]
    rfl
  · rw [List.append_nil, List.reverse_reverse]

end Measure

section Group

variable {w : World}

/-- A label that is nothing has a text in the style of groups. -/
theorem run_buildLabel_none (hw : w.styles = defaultStyles) :
    buildLabel .none (return .composite [.named (.str "math"), .ofNames [("font-size", .int 12)] (by decide)])
      [] w = .ok (.mk (.str "text") (Attrs.ofNames [("font-size", .int 12), ("font-family", serifFamily),
        ("font-style", .str "italic")]) [.text "None"]) w := by
  have hnamed : resolve (.named (.str "math")) w = .ok (Attrs.ofNames
      [("font-size", .int 18), ("font-family", serifFamily), ("font-style", .str "italic")]) w := by
    have hresolve : resolve (.named (.str "math")) =
        (lookupStyle (.str "math") >>= fun style => liftM style.attrs) := rfl
    have hlookup := run_lookupStyle "math" w
    rw [hw] at hlookup
    rw [hresolve, Run.bind_ok hlookup]
    rfl
  have hstyle : resolve (.composite [.named (.str "math"), .ofNames [("font-size", .int 12)] (by decide)]) w =
      .ok (Attrs.ofNames [("font-size", .int 12), ("font-family", serifFamily),
        ("font-style", .str "italic")]) w := by
    unfold resolve resolveAll
    rw [Run.bind_ok hnamed]
    rfl
  unfold buildLabel
  exact (Run.bind_ok rfl).trans ((Run.bind_ok hstyle).trans rfl)

/-- A group without a label leaves one in the record, and one of 50 points is too wide for its box. -/
theorem run_drawGroupLabelHeader_none :
    ∃ t, drawGroupLabelHeader (.int 1) .none (World.initial {}) = .ok () t ∧ t.labels.size = 1 ∧
      ∀ s, checkLabelFit (fun _ _ _ => pure 50) t.labels.toList (s, ()) =
        .ok [⟨"None", 50, .int 40⟩] (s, ()) := by
  have hlabel := run_buildLabel_none (w := World.initial {}) rfl
  have hborders := run_drawBorders (World.initial {}) (.int 40) (.int 80) (.int 0) (.int 14)
    (.frozenset [] : Value.Names Store.empty (.frozenset #[]) [])
  have hbox : drawGroupLabelHeader (.int 1) .none (World.initial {}) =
      drawBoxOf (.node (.mk (.str "text") _ [.text "None"])) (Attrs.ofNames
        [("span", .int 1), ("borders", .frozenset #[]), ("height", .int 14)]) (World.initial {}) :=
    (Run.bind_ok hlabel).trans (Run.bind_ok rfl)
  have hfill : drawFill .none (.int 40) (.int 0) (.int 40) (.int 14) (World.initial {}) =
      .ok () (World.initial {}) := rfl
  rw [hbox, drawBoxOf_whole ⟨rfl, rfl, rfl, rfl⟩ rfl rfl]
  exact ⟨_, (Run.bind_ok hfill).trans ((Run.bind_ok hborders).trans rfl), rfl, fun s => rfl⟩

end Group

namespace LibraryCall

/--
After a run of calls in whole columns, there is one label for each call that gives one and succeeds. A check
measures each of them once, in order, and finds those that are wider than their boxes.
-/
theorem labels_runAll (l : Layout) (hl : l.HasWholeColumns) (calls : List LibraryCall)
    (hcalls : AllWhole calls (World.initial l)) :
    let labels := (runAll calls (World.initial l)).labels.toList
    List.Forall₂ (fun call p => call.1.Records call.2 p) (labelling calls (World.initial l)) labels ∧
      ∀ {σ : Type} (measure : Measurer σ) {s s' : Store} {t t' : σ} {fits : List LabelFit},
        checkLabelFit measure labels (s, t) = .ok fits (s', t') → ∃ made,
          List.Forall₂ (fun (p : PlacedLabel) (call : String × Float) => p.label.textContent = .ok call.1)
            labels made ∧
          checkLabelFit measure.recording labels (s, (t, [])) = .ok fits (s', (t', made)) ∧
          fits = (List.zipWith LabelFit.ofCall labels made).filter LabelFit.overflows := by
  intro labels
  obtain ⟨placed, hlabels, hplaced⟩ := labels_runAll_append calls (World.initial l) hcalls hl
  have hnew : labels = placed := hlabels
  rw [hnew]
  have hwhole : List.Forall₂ (fun p (_ : LibraryCall × World) => (∃ n, p.available = .int n) ∧ True) placed
      (labelling calls (World.initial l)) :=
    .flip (hplaced.imp fun _ _ ⟨_, _, columns, width, _, _, _, hp⟩ => ⟨⟨columns * width, hp⟩, trivial⟩)
  exact ⟨hplaced, fun _ _ _ _ _ _ h => of_checkLabelFit_ok ((List.forall₂_and_left _ _).mp hwhole).1 h⟩

def unnamedGroup : LibraryCall := ⟨id, .primitive .drawGroupLabelHeader, ⟨[.int 1, .none], []⟩⟩

theorem after_unnamedGroup {w t : World} (h : drawGroupLabelHeader (.int 1) .none w = .ok () t) :
    unnamedGroup.succeeds w = true ∧ unnamedGroup.after w = t := by
  have hcall : unnamedGroup.function.call unnamedGroup.arguments (unnamedGroup.entered w) = .ok .none t :=
    (call_of_bind rfl _).trans (Run.bind_ok h)
  unfold succeeds after
  rw [hcall]
  exact ⟨rfl, rfl⟩

/-- A group keeps the width that it was drawn with when columns get narrower. -/
theorem labels_runAll_narrowed :
    let narrow : LibraryCall := ⟨id, .setField, ⟨[.str "box_width", .int 10], []⟩⟩
    let w := runAll [unnamedGroup, narrow] (World.initial {})
    w.layout.boxWidth.asInt? = some 10 ∧
      (∃ p, w.labels.toList = [p] ∧ p.available = .int 40 ∧
        ∃ others, (unnamedGroup.after (World.initial {})).scene.toList = others ++ [.node p.label]) ∧
      ∃ s t made, [⟨"None", 50, .int 40⟩] =
          (List.zipWith LabelFit.ofCall w.labels.toList made).filter LabelFit.overflows ∧
        checkLabelFit (Measurer.recording fun _ _ _ => pure 50) w.labels.toList (.empty, ((), [])) =
          .ok [⟨"None", 50, .int 40⟩] (s, (t, made)) := by
  intro narrow w
  obtain ⟨t, hdrawn, -, hcheck⟩ := run_drawGroupLabelHeader_none
  obtain ⟨hsucceeds, hafter⟩ := after_unnamedGroup hdrawn
  have hlabelling : labelling [unnamedGroup, narrow] (World.initial {}) =
      [(unnamedGroup, World.initial {})] := by
    unfold labelling
    rw [hsucceeds]
    rfl
  have hw : w = narrow.after t := congrArg narrow.after hafter
  have hlabels : w.labels = t.labels := by
    rw [hw]
    rfl
  have hcalls : AllWhole [unnamedGroup, narrow] (World.initial {}) := by
    refine ⟨fun b hb => ?_, fun b hb => ?_, trivial⟩
    · cases hb
      exact rfl
    · cases hb
      exact rfl
  obtain ⟨hplaced, hfits⟩ := labels_runAll {} ⟨rfl, rfl⟩ [unnamedGroup, narrow] hcalls
  rw [hlabelling] at hplaced
  obtain ⟨p, _, ⟨⟨others, hlast⟩, _, _, _, hmove, hspan, hwidth, havailable⟩, hrest, hp⟩ :=
    List.forall₂_cons_left_iff.mp hplaced
  obtain rfl := List.forall₂_nil_left_iff.mp hrest
  cases hmove
  cases hspan
  cases hwidth
  obtain ⟨made, -, hagain, hmade⟩ := hfits (fun _ _ _ => pure 50) (hlabels ▸ hcheck .empty)
  exact ⟨rfl, ⟨p, hp, havailable, others, hlast⟩, _, _, made, hmade, hagain⟩

/-- The record has a label for a group without one. -/
theorem labels_after_none :
    unnamedGroup.succeeds (World.initial {}) = true ∧
      (unnamedGroup.after (World.initial {})).labels.size = 1 := by
  obtain ⟨t, hdrawn, hsize, -⟩ := run_drawGroupLabelHeader_none
  obtain ⟨hsucceeds, hafter⟩ := after_unnamedGroup hdrawn
  exact ⟨hsucceeds, hafter ▸ hsize⟩

end LibraryCall

end WireSketch
