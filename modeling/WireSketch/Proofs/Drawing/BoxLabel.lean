import WireSketch.Proofs.Drawing.Defaults
import WireSketch.Proofs.Drawing.Unmoved
import WireSketch.Proofs.Format.Hex
import WireSketch.Proofs.Number.Whole

/-! Labels of boxes: which values are labels, and what node each of them becomes. -/
namespace WireSketch
open Contract

/-- The value is a number other than a truth value, and is equal to the integer. -/
inductive Value.IsWhole : Value → Int → Prop
  | int (n : Int) : IsWhole (.int n) n
  | float {x : Float} {n : Int} (h : Binary64.compareInt n x = some .eq) : IsWhole (.float x) n

inductive Value.IsBoxLabel : Value → Prop
  | str (text : String) : IsBoxLabel (.str text)
  | node (n : Node) : IsBoxLabel (.node n)
  | whole {v : Value} {n : Int} (h : v.IsWhole n) : IsBoxLabel v

namespace Value.IsWhole

variable {v : Value} {n : Int}

theorem isNumber (h : v.IsWhole n) : WireSketch.isNumber v = true := by cases h <;> rfl

theorem isWhole (h : v.IsWhole n) : WireSketch.isWhole v = true := by
  cases h with
  | int => rfl
  | float h => exact (Binary64.compareInt_eq_iff.mp h).1

theorem toInt (h : v.IsWhole n) : v.toInt = .ok (.int n) := by
  cases h with
  | int => rfl
  | @float x n h =>
    obtain ⟨hwhole, htruncate⟩ := Binary64.compareInt_eq_iff.mp h
    have hfinite : Binary64.isFinite x = true := (Bool.and_eq_true_iff.mp hwhole).1
    unfold Value.toInt
    dsimp only
    rw [Binary64.isNaN_of_isFinite hfinite, hfinite, htruncate]
    rfl

/-- A number that is no whole one is equal to no integer. -/
theorem of_isWhole (h : WireSketch.isWhole v = true) : ∃ n, v.IsWhole n := by
  unfold WireSketch.isWhole at h
  split at h
  · exact ⟨_, .int _⟩
  · exact ⟨_, .float (Binary64.compareInt_eq_iff.mpr ⟨h, rfl⟩)⟩
  · cases h

end Value.IsWhole

theorem Value.plain_int {n : Int} (hn : n.natAbs < Nat.pow 2 63) (h : Store) :
    (int n).plain h = .ok (toString n) h := by
  have hlog : ¬ n.natAbs.log2 ≥ 14000 := by
    rw [Nat.not_le]
    by_cases hzero : n.natAbs = 0
    · rw [hzero]
      decide
    · exact Nat.lt_of_lt_of_le ((Nat.log2_lt hzero).mpr hn) (by decide)
  have htext : intText n = .ok (toString n) := by
    unfold intText
    rw [if_neg fun hlong => hlog hlong.1]
  have hrun : (int n).plain = liftM (intText n) := rfl
  rw [hrun, htext]
  rfl

theorem Value.plain_width {k : Nat} (hk : k < Nat.pow 2 63) (h : Store) :
    (int k).plain h = .ok (toString k) h := plain_int (Int.natAbs_natCast k ▸ hk) h

section Label

variable {w : World}

/-- A default style resolves to attributes, whatever is registered under its name. -/
theorem run_resolve_default (hdefaults : w.HasDefaults) (name : String)
    (hname : name ∈ Styles.names defaultStyles) : ∃ a, resolve (.named (.str name)) w = .ok a w := by
  obtain ⟨style, hstyle⟩ := Option.isSome_iff_exists.mp
    ((Styles.isSome_find? name w.styles).mpr (hdefaults name hname))
  have hlookup := run_lookupStyle name w
  rw [hstyle] at hlookup
  have hresolve : resolve (.named (.str name)) = (lookupStyle (.str name) >>= fun s => liftM s.attrs) := rfl
  rw [hresolve, Run.bind_ok hlookup]
  cases style with
  | own a _ => exact ⟨a, rfl⟩
  | shared r => exact ⟨_, run_entriesOf r w⟩

/-- A text without further content becomes a node of this text alone. -/
theorem run_buildLabel_str {spec : DrawM Spec} {s : Spec} {a : Attrs} (text : String)
    (hspec : spec w = .ok s w) (hresolve : resolve s w = .ok a w) :
    buildLabel (.str text) spec [] w = .ok (.mk (.str "text") a [.text text]) w := by
  unfold buildLabel
  rw [Run.bind_ok hspec, Run.bind_ok hresolve]
  rfl

/-- A number that is equal to an integer becomes the numeral of this integer. -/
theorem run_formatBoxLabel_whole (hdefaults : w.HasDefaults) {label : Value} {n : Int}
    (hlabel : label.IsWhole n) {width : Nat} (hwidth : width < Nat.pow 2 63) {span : Int}
    (hspan : span * 2 = width) :
    ∃ a, formatBoxLabel label (.int span) w =
      .ok (.mk (.str "text") a [.text (String.ofList (Hex.padded n width))]) w := by
  obtain ⟨a, ha⟩ := run_resolve_default hdefaults "hex" (by decide)
  have hspec : resolve (.composite [.named (.str "hex"), .named (.str "hex")]) w =
      .ok ((Attrs.merge [] a).merge a) w := by
    have hrun : resolve (.composite [.named (.str "hex"), .named (.str "hex")]) =
        (resolve (.named (.str "hex")) >>= fun a => resolve (.named (.str "hex")) >>= fun b =>
          pure ((Attrs.merge [] a).merge b)) := rfl
    rw [hrun, Run.bind_ok ha, Run.bind_ok ha]
    rfl
  have hdoubled : (liftM ((Value.int span).mul (.int 2)) : DrawM Value) w = .ok (.int width) w := by
    rw [← hspan]
    rfl
  have hdigits : (liftM (Value.int width).toInt : DrawM Value) w = .ok (.int width) w := rfl
  have hn : (liftM label.toInt : DrawM Value) w = .ok (.int n) w := by
    rw [hlabel.toInt]
    rfl
  have hplain : (liftM (Value.int width).plain : DrawM String) w = .ok (toString width) w := by
    rw [DrawM.run_ofStore, Value.plain_width hwidth]
  have htext : (liftM ((Value.int n).format ("0" ++ toString width ++ "x")) : DrawM String) w =
      .ok (String.ofList (Hex.padded n width)) w := by
    rw [DrawM.run_ofStore, Value.format_hex n hwidth]
  refine ⟨(Attrs.merge [] a).merge a, ?_⟩
  unfold formatBoxLabel
  rw [if_pos hlabel.isNumber, Run.bind_ok hdoubled, Run.bind_ok hdigits]
  unfold hexLabel
  rw [if_neg (by simp [hlabel.isWhole])]
  dsimp only
  rw [Run.bind_ok hn, Run.bind_ok hdigits, Run.bind_ok hplain,
    Run.bind_ok htext]
  exact run_buildLabel_str _ rfl hspec

/-- Any other value is refused by the text that shows it. -/
theorem run_formatBoxLabel_refused {label : Value} (hlabel : ¬ label.IsBoxLabel) (span : Int) (w : World) :
    ∃ refuse : String → DiagramError, (∀ text, (refuse text).code = "E_LABEL_TYPE") ∧
      formatBoxLabel label (.int span) w = .error (w.refusal label refuse) w := by
  have hwhole : isWhole label = false := by
    rw [← Bool.not_eq_true]
    intro h
    obtain ⟨n, hn⟩ := Value.IsWhole.of_isWhole h
    exact hlabel (.whole hn)
  unfold formatBoxLabel
  cases hnumber : isNumber label with
  | true =>
    refine ⟨.notWhole, fun _ => rfl, ?_⟩
    have hdoubled : (liftM ((Value.int span).mul (.int 2)) : DrawM Value) w = .ok (.int (span * 2)) w := rfl
    have hdigits : (liftM (Value.int (span * 2)).toInt : DrawM Value) w = .ok (.int (span * 2)) w := rfl
    have hrefused : (do DrawM.refuse (.notWhole (← label.shown)) : DrawM PUnit) w =
        .error (w.refusal label .notWhole) w := run_refuseShown label .notWhole w
    rw [if_pos rfl, Run.bind_ok hdoubled, Run.bind_ok hdigits]
    unfold hexLabel
    rw [if_pos (by simp [hwhole])]
    rw [← bind_assoc]
    exact Run.bind_error hrefused
  | false =>
    refine ⟨.badLabel, fun _ => rfl, ?_⟩
    rw [if_neg Bool.false_ne_true]
    split
    · exact absurd (.node _) hlabel
    · exact absurd (.str _) hlabel
    · exact run_refuseShown label .badLabel w

/-- Boxes take texts, nodes and whole numbers for labels, and refuse all other values. A whole number is written
in hexadecimal digits, two for each column, with a sign in front of the zeros; a text stands for itself, and a
node stays as it is. -/
theorem formatBoxLabel_iff_isBoxLabel (hdefaults : w.HasDefaults) (label : Value) {span : Int}
    (hspan : 0 ≤ 2 * span) (hword : 2 * span < Nat.pow 2 63) :
    ((∃ node t, formatBoxLabel label (.int span) w = .ok node t) ↔ label.IsBoxLabel) ∧
    (¬ label.IsBoxLabel → ∀ text t, label.shown w.store = .ok text t →
      ∃ e, e.code = "E_LABEL_TYPE" ∧ formatBoxLabel label (.int span) w = .error (.diagram e) w) ∧
    (∀ n, label.IsWhole n → ∃ tag attrs h, formatBoxLabel label (.int span) w = .ok (.mk tag attrs [.text h]) w ∧
      Hex.IsNumeral n h.toList ∧
      (∃ k, h.toList = Hex.sign n ++ List.replicate k '0' ++ Nat.toDigits 16 n.natAbs) ∧
      ∃ least, IsLeast {l | ∃ s, Hex.IsNumeral n s ∧ s.length = l} least ∧
        h.length = max (2 * span).toNat least) ∧
    (∀ text, label = .str text → ∃ node, formatBoxLabel label (.int span) w = .ok node w ∧
      node.textContent = .ok text) ∧
    ∀ node, label = .node node → formatBoxLabel label (.int span) w = .ok node w := by
  obtain ⟨width, hwidth⟩ := Int.eq_ofNat_of_zero_le hspan
  have hnat : (2 * span).toNat = width := by omega
  have hlimit : width < Nat.pow 2 63 := by omega
  have hdoubled : span * 2 = width := by omega
  have hnumber (n : Int) (hn : label.IsWhole n) := run_formatBoxLabel_whole hdefaults hn hlimit hdoubled
  have htext (text : String) : ∃ node, formatBoxLabel (.str text) (.int span) w = .ok node w ∧
      node.textContent = .ok text := by
    obtain ⟨a, ha⟩ := run_resolve_default hdefaults "plain" (by decide)
    refine ⟨_, run_buildLabel_str text rfl ha, ?_⟩
    have hcontent : (Node.mk (.str "text") a [.text text]).textContent = .ok (text ++ "") := rfl
    rw [hcontent, String.append_empty]
  refine ⟨⟨fun ⟨node, t, hrun⟩ => ?_, fun hlabel => ?_⟩, fun hlabel text t hshown => ?_, fun n hn => ?_,
    fun text htext' => ?_, fun node hnode => ?_⟩
  · by_contra hlabel
    obtain ⟨refuse, -, hrefused⟩ := run_formatBoxLabel_refused hlabel span w
    rw [hrun] at hrefused
    cases hrefused
  · cases hlabel with
    | str text =>
      obtain ⟨node, hnode, -⟩ := htext text
      exact ⟨node, w, hnode⟩
    | node n => exact ⟨n, w, rfl⟩
    | whole hn =>
      obtain ⟨a, hrun⟩ := hnumber _ hn
      exact ⟨_, w, hrun⟩
  · obtain ⟨refuse, hcode, hrefused⟩ := run_formatBoxLabel_refused hlabel span w
    refine ⟨refuse text, hcode text, ?_⟩
    rw [hrefused, World.refusal, hshown]
  · obtain ⟨a, hrun⟩ := hnumber n hn
    refine ⟨_, a, _, hrun, ?_⟩
    rw [String.toList_ofList, String.length_ofList, hnat]
    refine ⟨Hex.isNumeral_padded n width, ⟨_, (List.append_assoc ..).symm⟩, _, Hex.isLeast_length n,
      Hex.length_padded n width⟩
  · subst htext'
    exact htext text
  · subst hnode
    rfl

/-- In a new drawing a negative number has its sign in front of the zeros. -/
theorem formatBoxLabel_negative :
    let w := World.initial {}
    w.HasDefaults ∧
    ∃ tag attrs h, formatBoxLabel (.int (-255)) (.int 3) w = .ok (.mk tag attrs [.text h]) w ∧
      Hex.IsNumeral (-255) h.toList ∧
      (∃ k, h.toList = Hex.sign (-255) ++ List.replicate k '0' ++ Nat.toDigits 16 255) ∧
      ∃ least, IsLeast {l | ∃ s, Hex.IsNumeral (-255) s ∧ s.length = l} least ∧ h.length = max 6 least := by
  intro w
  have hdefaults : w.HasDefaults := fun _ h => h
  have hspan : (0 : Int) ≤ 2 * 3 := by decide
  have hword : (2 * 3 : Int) < Nat.pow 2 63 := by decide
  exact ⟨hdefaults, (formatBoxLabel_iff_isBoxLabel hdefaults (.int (-255)) hspan hword).2.2.1 _
    (.int (-255))⟩

end Label
end WireSketch
