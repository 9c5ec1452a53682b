import Mathlib.Data.List.Forall2
import WireSketch.Proofs.Drawing.Box
import WireSketch.Proofs.Drawing.BoxLabel
import WireSketch.Proofs.Drawing.Lookup
import WireSketch.Proofs.Number.Small

/-! The row of column labels: one text for each column, and an error for the first that has no label. -/
namespace WireSketch
open Contract

namespace Value

/-- The value is an integer of at most 53 binary places. -/
structure IsSmall (v : Value) (n : Int) : Prop where
  asInt : v.asInt? = some n
  bound : n.natAbs < Nat.pow 2 53

namespace IsSmall

variable {v w : Value} {m n : Int}

/-- The number of a small integer, as which it meets binary64 numbers. -/
theorem toFloat (h : v.IsSmall n) : ∃ x, Num.toFloat (.int n) = .ok x := by
  obtain ⟨x, hx⟩ := Option.isSome_iff_exists.mp (Binary64.isSome_ofInt? h.bound)
  refine ⟨x, ?_⟩
  unfold Num.toFloat
  dsimp only
  rw [hx]

theorem add_float (h : v.IsSmall n) (x : Float) : ∃ r, v.add (.float x) = pure (.float r) := by
  obtain ⟨y, hy⟩ := h.toFloat
  have hop : (Num.int n).op .add (.float x) = .ok (some (.float (y + x))) := by
    unfold Num.op
    dsimp only
    rw [hy]
    rfl
  exact ⟨y + x, binaryAs_of_op (num?_of_asInt? h.asInt) rfl (by decide) hop⟩

theorem float_mul (h : v.IsSmall n) (x : Float) : ∃ r, (Value.float x).mul v = pure (.float r) := by
  obtain ⟨y, hy⟩ := h.toFloat
  have hop : (Num.float x).op .mul (.int n) = .ok (some (.float (x * y))) := by
    unfold Num.op
    dsimp only
    rw [hy]
    rfl
  exact ⟨x * y, binaryAs_of_op rfl (num?_of_asInt? h.asInt) (by decide) hop⟩

theorem toInt (h : v.IsSmall n) : v.toInt = .ok (.int n) := by
  obtain ⟨hasInt, -⟩ := h
  cases v with
  | int k => cases hasInt; rfl
  | bool b => cases hasInt; rfl
  | _ => cases hasInt

theorem plain (h : v.IsSmall n) (s : Store) : ∃ text, v.plain s = .ok text s := by
  obtain ⟨hasInt, hbound⟩ := h
  cases v with
  | int k =>
    cases hasInt
    exact ⟨_, plain_int (Nat.lt_trans hbound (by decide)) s⟩
  | bool b => exact ⟨_, rfl⟩
  | _ => cases hasInt

end IsSmall

inductive IsRow (h : Store) : Value → List Value → Prop
  | list {r : Ref} {xs : Array Value} (hr : h.cells[r]? = some (.list xs)) : IsRow h (.list r) xs.toList
  | tuple (xs : Array Value) : IsRow h (.tuple xs) xs.toList
  | str (text : String) : IsRow h (.str text) (text.toList.map fun c => .str (String.singleton c))

namespace IsRow

variable {h : Store} {v x : Value} {xs : List Value} {i : Nat}

theorem run_length? (hv : v.IsRow h xs) : v.length? h = .ok (some xs.length) h := by
  cases hv with
  | list hr => exact Run.bind_ok (StoreM.run_getList hr)
  | tuple xs => rfl
  | str text =>
    rw [List.length_map, String.length_toList]
    rfl

/-- The item at a position of a sequence, or the fault of a position beyond its end. -/
theorem run_subscriptSequence {length : Nat} {f : Fault} {bad : String → Fault} {one : Nat → StoreM Value}
    {many : SliceIndices → StoreM Value} (hi : i < Nat.pow 2 53) :
    subscriptSequence length (.int i) f bad one many = if i < length then one i else throw f := by
  have hfits : fitsWord i = true := by
    have hword : (i : Int) < Int.pow 2 63 := by
      have hlt : i < Nat.pow 2 63 := Nat.lt_trans hi (by decide)
      exact Int.ofNat_lt.mpr hlt
    unfold fitsWord
    rw [Bool.and_eq_true, decide_eq_true_iff, decide_eq_true_iff]
    exact ⟨by omega, hword⟩
  have hnat : ¬ (i : Int) < 0 := by omega
  unfold subscriptSequence position? asInt?
  dsimp only
  rw [hfits, if_neg hnat, if_neg (by decide)]
  by_cases hlt : i < length
  · rw [if_pos hlt, if_pos (by omega), Int.toNat_natCast]
  · rw [if_neg hlt, if_neg (by omega)]

theorem run_subscript (hv : v.IsRow h xs) (hi : i < Nat.pow 2 53) (shown : Value → StoreM String) :
    match xs[i]? with
    | some x => v.subscript (.int i) shown h = .ok x h
    | Option.none => ∃ f, f.faultClass = .index ∧ v.subscript (.int i) shown h = .error f h := by
  have hread : ∃ f, f.faultClass = .index ∧ v.subscript (.int i) shown h =
      (if i < xs.length then pure (xs[i]?.getD none) else throw f : StoreM Value) h := by
    unfold subscript
    cases hv with
    | @list r xs hr =>
      refine ⟨.indexOutOfRange "list", rfl, ?_⟩
      rw [Array.length_toList, Array.getElem?_toList]
      dsimp only
      rw [Run.bind_ok (StoreM.run_getList hr), run_subscriptSequence hi]
    | tuple xs =>
      refine ⟨.indexOutOfRange "tuple", rfl, ?_⟩
      rw [Array.length_toList, Array.getElem?_toList]
      dsimp only
      rw [run_subscriptSequence hi]
    | str text =>
      refine ⟨.indexOutOfRange "string", rfl, ?_⟩
      rw [List.length_map, List.getElem?_map]
      dsimp only
      rw [run_subscriptSequence hi, List.size_toArray, List.getElem?_toArray]
      by_cases hlt : i < text.toList.length
      · rw [if_pos hlt, if_pos hlt, List.getElem?_eq_getElem hlt]
        rfl
      · rw [if_neg hlt, if_neg hlt]
  obtain ⟨f, hf, hread⟩ := hread
  rw [hread]
  by_cases hlt : i < xs.length
  · rw [if_pos hlt, List.getElem?_eq_getElem hlt]
    rfl
  · rw [if_neg hlt, List.getElem?_eq_none (Nat.le_of_not_lt hlt)]
    exact ⟨f, hf, rfl⟩

end IsRow
end Value

section Label

variable {labels perRow x : Value} {xs : List Value} {i : Nat} {w : World}

theorem run_headerLabel (hrow : labels.IsRow w.store xs) (hi : i < Nat.pow 2 53) (hx : xs[i]? = some x) :
    headerLabel labels i perRow w = .ok x w := by
  have hread := hrow.run_subscript hi Value.shown
  rw [hx] at hread
  have hrun := DrawM.run_ofStore (labels.subscript (.int i) Value.shown) w
  rw [hread] at hrun
  unfold headerLabel
  dsimp only
  rw [hrun]

theorem run_headerLabel_missing {text : String} (hrow : labels.IsRow w.store xs) (hi : i < Nat.pow 2 53)
    (hx : xs.length ≤ i) (hper : perRow.plain w.store = .ok text w.store) :
    headerLabel labels i perRow w = .error (.diagram (.missingHeader i xs.length text)) w := by
  have hread := hrow.run_subscript hi Value.shown
  rw [List.getElem?_eq_none hx] at hread
  obtain ⟨f, hf, hread⟩ := hread
  have hrun := DrawM.run_ofStore (labels.subscript (.int i) Value.shown) w
  rw [hread] at hrun
  have hlength := DrawM.run_ofStore labels.length? w
  rw [hrow.run_length?] at hlength
  have htext := DrawM.run_ofStore perRow.plain w
  rw [hper] at htext
  unfold headerLabel
  dsimp only
  rw [hrun]
  dsimp only
  rw [if_pos hf, missingLabel]
  exact (Run.bind_ok hlength).trans (Run.bind_ok htext)

end Label

/-- The geometry that column labels are drawn under, in small integers. -/
structure Layout.IsGrid (l : Layout) (margin width top perRow : Int) : Prop where
  leftMargin : l.leftMargin.IsSmall margin
  boxWidth : l.boxWidth.IsSmall width
  diagramY : l.diagramY.IsSmall top
  boxesPerRow : l.boxesPerRow.IsSmall perRow

def Layout.MiddleOf (l : Layout) (i : Nat) (x : Value) : Prop :=
  ∃ s s', (do l.leftMargin.add (← (← (Value.int i).add (.float 0.5)).mul l.boxWidth) : StoreM Value) s =
    .ok x s'

/-- What a column label has of its own, whatever the options. -/
def headerPlace (x y : Value) : Attrs :=
  Attrs.ofNames [("x", x), ("y", y), ("dominant-baseline", .str "middle"), ("text-anchor", .str "middle")]

def headerFont : Attrs := Attrs.ofNames [("font-size", .int 11), ("font-family", monoFamily)]

/-- The options as attributes of the labels: neither the labels nor the height are any. -/
def headerOptions (options : Attrs) : Attrs :=
  (((options.erase "labels").erase "height").setDefault "font-size" (.int 11)).setDefault
    "font-family" monoFamily

/--
The label of column `i`: a text with the content of its label. Its place is its own, and all else is as the
options have it, apart from the labels and the height themselves, or the default font.
-/
def IsHeader (l : Layout) (options : Attrs) (y : Value) (i : Nat) (item : Item) (v : Value) : Prop :=
  ∃ x attrs, l.MiddleOf i x ∧ v = .node (.mk (.str "text") attrs [item]) ∧
    ∀ k, Attrs.at? k attrs = ((headerPlace x y).at? k).or
      ((if (Value.str "labels").sameKey k ∨ (Value.str "height").sameKey k then none else options.at? k).or
        (headerFont.at? k))

/-- Labels of columns in a row, the first one that of column `i`. -/
inductive Headers (l : Layout) (options : Attrs) (y : Value) : Nat → List Item → List Value → Prop
  | nil (i : Nat) : Headers l options y i [] []
  | cons {i : Nat} {item : Item} {v : Value} {items : List Item} {nodes : List Value}
      (hv : IsHeader l options y i item v) (hrest : Headers l options y (i + 1) items nodes) :
      Headers l options y i (item :: items) (v :: nodes)

theorem Headers.length_eq {l : Layout} {options : Attrs} {y : Value} {i : Nat} {items : List Item}
    {nodes : List Value} (h : Headers l options y i items nodes) : nodes.length = items.length := by
  induction h with
  | nil => rfl
  | cons _ _ ih => exact congrArg (· + 1) ih

theorem at?_headerAttrs {options : Attrs} (h : options.IsMap) (x y k : Value) :
    Attrs.at? k ((headerOptions options).merge (headerPlace x y)) = ((headerPlace x y).at? k).or
      ((if (Value.str "labels").sameKey k ∨ (Value.str "height").sameKey k then none else options.at? k).or
        (headerFont.at? k)) := by
  have hplace : (headerPlace x y).IsMap := Attrs.isMap_ofNames (by simp)
  have hfont : headerFont.at? k = (Attrs.at? k [(.str "font-size", .int 11)]).or
      (Attrs.at? k [(.str "font-family", monoFamily)]) := Attrs.at?_append k [_] [_]
  rw [hplace.at?_merge, headerOptions, Attrs.at?_setDefault, Attrs.at?_setDefault, (h.erase _).at?_erase,
    h.at?_erase, hfont, Option.or_assoc]
  congr 2
  by_cases hlabels : (Value.str "labels").sameKey k
  · simp [hlabels]
  · simp [hlabels]

section Row

variable {l : Layout} {options : Attrs} {labels y : Value} {margin width top perRow : Int}

/-- One column: its label is added to the scene, and the next column is drawn. -/
theorem run_header {x : Value} {item : Item} {xs : List Value} {i : Nat} {w : World} (count : Nat)
    (hoptions : options.IsMap) (hgrid : w.layout.IsGrid margin width top perRow)
    (hrow : labels.IsRow w.store xs) (hi : i < Nat.pow 2 53) (hx : xs[i]? = some x)
    (hitem : Node.contentItem x w.store = .ok item w.store) :
    ∃ v, IsHeader w.layout options y i item v ∧
      drawHeaderLabels labels y (headerOptions options) i (count + 1) w =
        drawHeaderLabels labels y (headerOptions options) (i + 1) count (w.shows [v]) := by
  have hcolumn : (Value.int i).IsSmall i := ⟨rfl, by rwa [Int.natAbs_natCast]⟩
  obtain ⟨middle, hmiddle⟩ := hcolumn.add_float 0.5
  obtain ⟨offset, hoffset⟩ := hgrid.boxWidth.float_mul middle
  obtain ⟨x', hx'⟩ := hgrid.leftMargin.add_float offset
  have hmiddleOf : w.layout.MiddleOf i (.float x') := by
    refine ⟨w.store, w.store, ?_⟩
    rw [hmiddle, pure_bind, hoffset, pure_bind, hx']
    rfl
  have hlayout : DrawM.layout w = .ok w.layout w := rfl
  have hcontent := DrawM.run_ofStore (Node.contentItem x) w
  rw [hitem] at hcontent
  refine ⟨_, ⟨.float x', _, hmiddleOf, rfl, at?_headerAttrs hoptions _ y⟩, ?_⟩
  rw [drawHeaderLabels, Run.bind_ok hlayout, Run.bind_ok (run_headerLabel hrow hi hx), hmiddle, lift_pure,
    pure_bind, hoffset, lift_pure, pure_bind, hx', lift_pure, pure_bind, Run.bind_ok hcontent]
  rfl

/--
The columns in a row, when the labels before `rest` are drawn: each column is drawn in turn, and the one
after the last label is an error.
-/
theorem run_drawHeaderLabels {xs rest : List Value} {items : List Item} {text : String}
    (hoptions : options.IsMap) (done : List Value) (count : Nat) (w : World)
    (hgrid : w.layout.IsGrid margin width top perRow) (hrow : labels.IsRow w.store xs)
    (hxs : xs = done ++ rest) (hcount : done.length + count ≤ Nat.pow 2 53)
    (htext : w.layout.boxesPerRow.plain w.store = .ok text w.store)
    (hitems : List.Forall₂ (fun x item => Node.contentItem x w.store = .ok item w.store) rest items) :
    ∃ nodes, Headers w.layout options y done.length (items.take count) nodes ∧
      drawHeaderLabels labels y (headerOptions options) done.length count w =
        if count ≤ rest.length then .ok () (w.shows nodes)
        else .error (.diagram (.missingHeader xs.length xs.length text)) (w.shows nodes) := by
  induction rest generalizing items done count w with
  | nil =>
    cases hitems
    cases count with
    | zero => exact ⟨[], .nil _, by rw [if_pos (Nat.zero_le _), World.shows_nil]; rfl⟩
    | succ count =>
      have hlast : done.length = xs.length := by rw [hxs, List.append_nil]
      have hlayout : DrawM.layout w = .ok w.layout w := rfl
      refine ⟨[], .nil _, ?_⟩
      have hnone : ¬ count + 1 ≤ ([] : List Value).length := Nat.not_succ_le_zero count
      have hmissing := run_headerLabel_missing hrow (by omega) (Nat.le_of_eq hlast.symm) htext
      rw [if_neg hnone, World.shows_nil, drawHeaderLabels, Run.bind_ok hlayout, Run.bind_error hmissing,
        hlast]
  | cons x rest ih =>
    cases hitems with
    | cons hitem hrest =>
      cases count with
      | zero => exact ⟨[], .nil _, by rw [if_pos (Nat.zero_le _), World.shows_nil]; rfl⟩
      | succ count =>
        have hx : xs[done.length]? = some x := by simp [hxs]
        obtain ⟨v, hv, hrun⟩ := run_header count hoptions hgrid hrow (by omega) hx hitem
        have hlength : (done ++ [x]).length = done.length + 1 := List.length_append
        obtain ⟨nodes, hnodes, hruns⟩ := ih (done ++ [x]) count (w.shows [v]) hgrid hrow (by simp [hxs])
          (by omega) htext hrest
        rw [hlength] at hnodes hruns
        refine ⟨v :: nodes, .cons hv hnodes, ?_⟩
        rw [hrun, hruns, World.shows_shows, List.length_cons]
        simp only [Nat.add_le_add_iff_right, List.singleton_append]

end Row

def Layout.HeaderHeight (l : Layout) (height y : Value) : Prop :=
  ∃ s s', (do l.diagramY.add (← (Value.float 0.5).mul height) : StoreM Value) s = .ok y s'

/-- What has a text can be written into a label. -/
theorem contentItem_of_plain {x : Value} {text : String} {s t : Store} (h : x.plain s = .ok text t) :
    ∃ item, Node.contentItem x s = .ok item s := by
  obtain rfl : t = s := ((Value.keeps_plain x : reading.Keeps _).of_ok h).1
  unfold Node.contentItem
  split
  · exact ⟨_, rfl⟩
  · exact ⟨_, Run.bind_ok h⟩

theorem contentItems_of_plain {xs : List Value} {s : Store}
    (h : ∀ x ∈ xs, ∃ text t, x.plain s = .ok text t) :
    ∃ items, List.Forall₂ (fun x item => Node.contentItem x s = .ok item s) xs items := by
  induction xs with
  | nil => exact ⟨[], .nil⟩
  | cons x rest ih =>
    obtain ⟨⟨text, t, htext⟩, hrest⟩ := List.forall_mem_cons.mp h
    obtain ⟨item, hitem⟩ := contentItem_of_plain htext
    obtain ⟨items, hitems⟩ := ih hrest
    exact ⟨item :: items, .cons hitem hitems⟩

section Headers

variable {spec labels : Value} {options : Attrs} {xs : List Value} {w u : World}
  {margin width top perRow height : Int}

theorem run_drawHeadersOf {items : List Item} {text : String} (hmap : options.IsMap)
    (hlabels : options.find? "labels" = some labels) (hrow : labels.IsRow w.store xs)
    (htext : w.layout.boxesPerRow.plain w.store = .ok text w.store)
    (hitems : List.Forall₂ (fun x item => Node.contentItem x w.store = .ok item w.store) xs items)
    (hgrid : w.layout.IsGrid margin width top perRow) (hheight : (headerHeight options).IsSmall height) :
    ∃ y nodes, w.layout.HeaderHeight (headerHeight options) y ∧
      Headers w.layout options y 0 (items.take perRow.toNat) nodes ∧
      drawHeadersOf options w =
        if perRow ≤ xs.length then
          .ok () { w.shows nodes with layout := w.layout.set .diagramY (.int (top + height)) }
        else .error (.diagram (.missingHeader xs.length xs.length text)) (w.shows nodes) := by
  obtain ⟨half, hhalf⟩ := hheight.float_mul 0.5
  obtain ⟨y, hy⟩ := hgrid.diagramY.add_float half
  have hbound := hgrid.boxesPerRow.bound
  have hlayout : DrawM.layout w = .ok w.layout w := rfl
  have hcount : (liftM w.layout.boxesPerRow.toInt : DrawM Value) w = .ok (.int perRow) w := by
    rw [hgrid.boxesPerRow.toInt]
    rfl
  obtain ⟨nodes, hnodes, hrun⟩ := run_drawHeaderLabels (y := .float y) hmap [] perRow.toNat w hgrid
    hrow rfl (by rw [List.length_nil]; omega) htext hitems
  rw [List.length_nil] at hnodes hrun
  refine ⟨.float y, nodes, ⟨w.store, w.store, ?_⟩, hnodes, ?_⟩
  · rw [hhalf, pure_bind, hy]
    rfl
  · have hsteps : drawHeadersOf options w = (do
        drawHeaderLabels labels (.float y) (headerOptions options) 0 perRow.toNat
        DrawM.setField .diagramY (.int (top + height)) : DrawM Unit) w := by
      unfold drawHeadersOf
      rw [Run.bind_ok hlayout, hhalf, lift_pure, pure_bind, hy, lift_pure, pure_bind, Run.bind_ok hcount,
        hlabels, Value.addInto_of_asInt? hgrid.diagramY.asInt hheight.asInt]
      rfl
    rw [hsteps]
    by_cases hle : perRow ≤ xs.length
    · rw [if_pos (by omega)] at hrun
      rw [if_pos hle, Run.bind_ok hrun]
      rfl
    · rw [if_neg (by omega)] at hrun
      rw [if_neg hle, Run.bind_error hrun]

/--
The labels are enough exactly if there is one for each column, and then one text is drawn for each column
and the cursor moves down by the height. If there are fewer, all of them are drawn before the error, and the
cursor stays. Labels that are left over do not matter.
-/
theorem drawColumnHeaders_labels (hspec : resolveValue spec w = .ok options u)
    (hlabels : options.find? "labels" = some labels) (hrow : labels.IsRow u.store xs)
    (htexts : ∀ x ∈ xs, ∃ text t, x.plain u.store = .ok text t)
    (hgrid : w.layout.IsGrid margin width top perRow) (hheight : (headerHeight options).IsSmall height) :
    ∃ y items nodes, w.layout.HeaderHeight (headerHeight options) y ∧
      List.Forall₂ (fun x item => Node.contentItem x u.store = .ok item u.store) xs items ∧
      Headers w.layout options y 0 (items.take perRow.toNat) nodes ∧
      ((∃ t, drawColumnHeaders spec w = .ok () t) ↔ perRow ≤ xs.length) ∧
      (perRow ≤ xs.length → nodes.length = perRow.toNat ∧ drawColumnHeaders spec w =
        .ok () { w with
          store := u.store
          scene := w.scene ++ nodes.toArray
          layout := w.layout.set .diagramY (.int (top + height)) }) ∧
      (xs.length < perRow → nodes.length = xs.length ∧ ∃ text, drawColumnHeaders spec w =
        .error (.diagram (.missingHeader xs.length xs.length text))
          { w with store := u.store, scene := w.scene ++ nodes.toArray }) := by
  obtain ⟨⟨s, rfl⟩, -⟩ := (storing_resolving.keeps_resolveValue spec).of_ok hspec
  obtain ⟨items, hitems⟩ := contentItems_of_plain htexts
  obtain ⟨text, htext⟩ := hgrid.boxesPerRow.plain s
  obtain ⟨y, nodes, hy, hnodes, hrun⟩ :=
    run_drawHeadersOf (w := { w with store := s }) (isMap_of_resolveValue hspec) hlabels hrow htext hitems hgrid hheight
  have hlength : nodes.length = min perRow.toNat xs.length := by
    rw [hnodes.length_eq, List.length_take, hitems.length_eq]
  have hdraw : drawColumnHeaders spec w = _ := (Run.bind_ok hspec).trans hrun
  refine ⟨y, items, nodes, hy, hitems, hnodes, ?_, fun hle => ?_, fun hlt => ?_⟩
  · rw [hdraw]
    constructor
    · rintro ⟨t, ht⟩
      by_contra hmore
      rw [if_neg hmore] at ht
      cases ht
    · intro hle
      exact ⟨_, if_pos hle⟩
  · rw [hdraw, if_pos hle]
    exact ⟨by omega, rfl⟩
  · rw [hdraw, if_neg (by omega)]
    exact ⟨by omega, text, rfl⟩

def twoColumns : World :=
  { World.initial { boxesPerRow := .int 2 } with
    store := ⟨#[.dict (.ofDistinct [(.str "labels", .str "abc"), (.str "height", .int 20)] (by decide))]⟩ }

theorem drawColumnHeaders_labels_two : ∃ nodes : List Value, nodes.length = 2 ∧
    drawColumnHeaders (.dict 0) twoColumns = .ok () { twoColumns with
      scene := nodes.toArray
      layout := { boxesPerRow := .int 2, diagramY := .int 20 } } := by
  have hspec : resolveValue (.dict 0) twoColumns =
      .ok [(.str "labels", .str "abc"), (.str "height", .int 20)] twoColumns := rfl
  have htexts : ∀ x ∈ "abc".toList.map fun c => Value.str (String.singleton c),
      ∃ text t, x.plain twoColumns.store = .ok text t := by
    intro x hx
    obtain ⟨c, -, rfl⟩ := List.mem_map.mp hx
    exact ⟨_, _, rfl⟩
  have hgrid : twoColumns.layout.IsGrid 40 40 0 2 :=
    ⟨⟨rfl, by decide⟩, ⟨rfl, by decide⟩, ⟨rfl, by decide⟩, ⟨rfl, by decide⟩⟩
  have hheight : (Value.int 20).IsSmall 20 := ⟨rfl, by decide⟩
  obtain ⟨y, items, nodes, -, -, -, -, hdrawn, -⟩ :=
    drawColumnHeaders_labels hspec rfl (.str "abc") htexts hgrid hheight
  obtain ⟨hlength, hrun⟩ := hdrawn (by decide)
  exact ⟨nodes, hlength, by simpa [twoColumns, World.initial, Layout.set] using hrun⟩

end Headers
end WireSketch
