import WireSketch.Call.Library
import WireSketch.Proofs.Drawing.Lookup

/-! Centring a tree on its base line: each of its nodes gets one attribute, and nothing else changes. -/
namespace WireSketch

namespace Attrs

/--
The second map is the first one with this value under the name: where the name stood, and last if it did
not stand there.
-/
inductive SetsTo (name : String) (v : Value) : Attrs → Attrs → Prop
  | placed {before after : Attrs} (old : Value) (h : ∀ entry ∈ before, entry.1 ≠ .str name) :
    SetsTo name v (before ++ (.str name, old) :: after) (before ++ (.str name, v) :: after)
  | last {a : Attrs} (h : ∀ entry ∈ a, entry.1 ≠ .str name) : SetsTo name v a (a ++ [(.str name, v)])

theorem SetsTo.cons {name : String} {v k u : Value} {a b : Attrs} (hk : k ≠ .str name)
    (h : SetsTo name v a b) : SetsTo name v ((k, u) :: a) ((k, u) :: b) := by
  cases h with
  | placed old hbefore => exact .placed old (List.forall_mem_cons.mpr ⟨hk, hbefore⟩)
  | last hall => exact .last (List.forall_mem_cons.mpr ⟨hk, hall⟩)

theorem setsTo_set (name : String) (v : Value) : (a : Attrs) → SetsTo name v a (a.set (.str name) v)
  | [] => .last fun entry hentry => absurd hentry List.not_mem_nil
  | (k, u) :: rest => by
    unfold set
    by_cases hk : k.sameKey (.str name)
    · rw [if_pos hk]
      obtain rfl := Value.sameKey_str_iff.mp hk
      have hnone : ∀ entry ∈ ([] : Attrs), entry.1 ≠ .str name := fun entry hentry => absurd hentry List.not_mem_nil
      exact .placed u hnone
    · rw [if_neg hk]
      have hne : k ≠ .str name := fun heq => hk (Value.sameKey_str_iff.mpr heq)
      exact (setsTo_set name v rest).cons hne

/-- What is set twice has the value of the second time. -/
theorem set_set {k : Value} (hk : k.sameKey k) (u v : Value) :
    (a : Attrs) → (a.set k u).set k v = a.set k v
  | [] => if_pos hk
  | (l, w) :: rest => by
    by_cases hl : l.sameKey k
    · have hplaced (x y : Value) : set k x ((l, y) :: rest) = (l, x) :: rest := if_pos hl
      rw [hplaced, hplaced, hplaced]
    · have hpassed (x : Value) (r : Attrs) : set k x ((l, w) :: r) = (l, w) :: set k x r := if_neg hl
      rw [hpassed, hpassed, hpassed, set_set hk u v rest]

/-- A key that stands in the map keeps its place, whatever is set under another key before or after. -/
theorem set_comm {k l : Value} (hkl : ¬ k.sameKey l) (v w : Value) :
    (a : Attrs) → (a.at? k).isSome → (a.set l w).set k v = (a.set k v).set l w
  | [], h => absurd h Bool.false_ne_true
  | (m, u) :: rest, h => by
    have placed {j : Value} (hm : m.sameKey j) (x y : Value) (r : Attrs) :
        set j x ((m, y) :: r) = (m, x) :: r := if_pos hm
    have passed {j : Value} (hm : ¬ m.sameKey j) (x y : Value) (r : Attrs) :
        set j x ((m, y) :: r) = (m, y) :: set j x r := if_neg hm
    by_cases hk : m.sameKey k
    · have hl : ¬ m.sameKey l := by rwa [Value.sameKey_congr_left hk]
      rw [passed hl, placed hk, placed hk, passed hl]
    · by_cases hl : m.sameKey l
      · rw [placed hl, passed hk, passed hk, placed hl]
      · have hrest : (at? k rest).isSome := by rwa [at?, if_neg hk] at h
        rw [passed hl, passed hk, passed hk, passed hl, set_comm hkl v w rest hrest]

/-- A key that stands in the first map and not in the second may be set before the two are merged. -/
theorem merge_set {k : Value} (v : Value) : (b a : Attrs) → (∀ entry ∈ b, ¬ k.sameKey entry.1) →
    (a.at? k).isSome → (a.merge b).set k v = (a.set k v).merge b
  | [], _, _, _ => rfl
  | (l, w) :: rest, a, hb, ha => by
    obtain ⟨hl, hrest⟩ := List.forall_mem_cons.mp hb
    have hstays : ((a.set l w).at? k).isSome := by
      rw [at?_set]
      split
      · rfl
      · exact ha
    have hmerge (c : Attrs) : c.merge ((l, w) :: rest) = (c.set l w).merge rest := rfl
    rw [hmerge, hmerge, merge_set v rest (a.set l w) hrest hstays, set_comm hl v w a ha]

theorem ne_of_find?_eq_none {name : String} {a : Attrs} (h : a.find? name = none) :
    ∀ entry ∈ a, ¬ (Value.str name).sameKey entry.1 := by
  induction a with
  | nil => exact nofun
  | cons entry rest ih =>
    obtain ⟨k, v⟩ := entry
    rw [find?_cons] at h
    split at h
    · cases h
    · rename_i hk
      rw [Value.sameKey_comm] at hk
      exact List.forall_mem_cons.mpr ⟨hk, ih h⟩

end Attrs

namespace Node

theorem attrs_centerBaseline (n : Node) :
    n.centerBaseline.attrs = Attrs.set (.str "dominant-baseline") (.str "middle") n.attrs := by
  obtain ⟨tag, attrs, content⟩ := n
  rfl

theorem tag_centerBaseline (n : Node) : n.centerBaseline.tag = n.tag := by
  obtain ⟨tag, attrs, content⟩ := n
  rfl

end Node

namespace Item

/-- The part of a tree that the places lead to, each counted in the content of the node before it. -/
def at? : Item → List Nat → Option Item
  | i, [] => some i
  | .node n, k :: path => n.content[k]?.bind fun i => i.at? path
  | _, _ :: _ => none

/-- What stands in the place of an item after its tree was centred. -/
def centred : Item → Item
  | .node n => .node n.centerBaseline
  | i => i

theorem centerItems_eq_map : (items : List Item) → Node.centerItems items = items.map centred
  | [] => rfl
  | .text s :: rest => congrArg (Item.text s :: ·) (centerItems_eq_map rest)
  | .other v :: rest => congrArg (Item.other v :: ·) (centerItems_eq_map rest)
  | .node n :: rest => congrArg (Item.node n.centerBaseline :: ·) (centerItems_eq_map rest)

theorem content_centerBaseline (n : Node) : n.centerBaseline.content = n.content.map centred := by
  obtain ⟨tag, attrs, content⟩ := n
  exact centerItems_eq_map content

/-- Centring and following places commute. -/
theorem at?_centred (i : Item) (path : List Nat) : i.centred.at? path = (i.at? path).map centred := by
  induction path generalizing i with
  | nil => rfl
  | cons k path ih =>
    cases i with
    | text s => rfl
    | other v => rfl
    | node n =>
      change n.centerBaseline.content[k]?.bind _ = Option.map centred (n.content[k]?.bind _)
      rw [content_centerBaseline, List.getElem?_map]
      cases n.content[k]? with
      | none => rfl
      | some j => exact ih j

/-- The parts of two trees at one place are the same, but for the base line of nodes. -/
inductive SameButBaseline : Item → Item → Prop
  | text (s : String) : SameButBaseline (.text s) (.text s)
  | other (v : Value) : SameButBaseline (.other v) (.other v)
  | node {m n : Node} (tag : n.tag = m.tag) (length : n.content.length = m.content.length)
    (attrs : Attrs.SetsTo "dominant-baseline" (.str "middle") m.attrs n.attrs) :
    SameButBaseline (.node m) (.node n)

theorem sameButBaseline_centred (i : Item) : i.SameButBaseline i.centred := by
  cases i with
  | text s => exact .text s
  | other v => exact .other v
  | node n =>
    refine .node n.tag_centerBaseline ?_ ?_
    · rw [content_centerBaseline, List.length_map]
    · rw [Node.attrs_centerBaseline]
      exact Attrs.setsTo_set _ _ _

end Item

namespace Node

theorem ext {m n : Node} (htag : m.tag = n.tag) (hattrs : m.attrs = n.attrs)
    (hcontent : m.content = n.content) : m = n := by
  obtain ⟨tag, attrs, content⟩ := m
  obtain ⟨tag', attrs', content'⟩ := n
  cases htag
  cases hattrs
  cases hcontent
  rfl

mutual

/-- Centring changes no text. -/
theorem textContent_centerBaseline : (n : Node) → n.centerBaseline.textContent = n.textContent
  | .mk tag attrs content => by
    rw [centerBaseline, textContent, textContent, contentTexts_centerItems content]

theorem contentTexts_centerItems : (items : List Item) → contentTexts (centerItems items) = contentTexts items
  | [] => rfl
  | .text s :: rest => by
    rw [centerItems, contentTexts, contentTexts, contentTexts_centerItems rest]
  | .other v :: rest => by
    rw [centerItems, contentTexts, contentTexts, contentTexts_centerItems rest]
  | .node n :: rest => by
    rw [centerItems, contentTexts, contentTexts, textContent_centerBaseline n, contentTexts_centerItems rest]

end

mutual

/-- A centred tree is centred already. -/
theorem centerBaseline_idem : (n : Node) → n.centerBaseline.centerBaseline = n.centerBaseline
  | .mk tag attrs content => by
    have hattrs : Attrs.merge (Attrs.merge attrs [(.str "dominant-baseline", .str "middle")])
        [(.str "dominant-baseline", .str "middle")] =
        Attrs.merge attrs [(.str "dominant-baseline", .str "middle")] :=
      Attrs.set_set (by simp [Value.sameKey]) _ _ attrs
    rw [centerBaseline, centerBaseline, hattrs, centerItems_idem content]

theorem centerItems_idem : (items : List Item) → centerItems (centerItems items) = centerItems items
  | [] => rfl
  | .text s :: rest => by rw [centerItems, centerItems, centerItems_idem rest]
  | .other v :: rest => by rw [centerItems, centerItems, centerItems_idem rest]
  | .node n :: rest => by rw [centerItems, centerItems, centerBaseline_idem n, centerItems_idem rest]

end

/-- A root that has a base line may get further attributes before or after it is centred. -/
theorem centerBaseline_mergeAttrs {n : Node} {a : Attrs} (ha : a.find? "dominant-baseline" = none)
    (hn : (Attrs.find? "dominant-baseline" n.attrs).isSome) :
    (n.mergeAttrs a).centerBaseline = n.centerBaseline.mergeAttrs a := by
  rw [Attrs.find?_eq_at?] at hn
  refine ext (tag_centerBaseline n).symm ?_ ?_
  · rw [attrs_centerBaseline]
    refine (Attrs.merge_set _ a n.attrs (Attrs.ne_of_find?_eq_none ha) hn).trans ?_
    rw [← attrs_centerBaseline]
    rfl
  · rw [Item.content_centerBaseline]
    exact (Item.content_centerBaseline n).symm

/--
A centred tree has the shape, the tags and the texts of the given one. At every depth a node has its own
attributes with the base line set, those that the keyword gives it, and a second time changes nothing. The
call leaves the world as it found it, the given tree in it.
-/
theorem centerBaseline_tree (n : Node) :
    (∀ path, Option.Rel Item.SameButBaseline ((Item.node n).at? path) ((Item.node n.centerBaseline).at? path)) ∧
    n.centerBaseline.textContent = n.textContent ∧
    (∀ w, addAttrs (.node n) [("dominant_baseline", .str "middle")] w =
      .ok (.node (.mk n.tag n.centerBaseline.attrs n.content)) w) ∧
    n.centerBaseline.centerBaseline = n.centerBaseline ∧
    (∀ w, LibraryFunction.centerBaseline.call ⟨[.node n], []⟩ w = .ok (.node n.centerBaseline) w) ∧
    ∀ a : Attrs, a.find? "dominant-baseline" = none → (Attrs.find? "dominant-baseline" n.attrs).isSome →
      (n.mergeAttrs a).centerBaseline = n.centerBaseline.mergeAttrs a := by
  have hkeyword : keywordAttrs [("dominant_baseline", .str "middle")] =
      [(.str "dominant-baseline", .str "middle")] := by rfl
  refine ⟨fun path => ?_, textContent_centerBaseline n, fun w => ?_, centerBaseline_idem n, fun w => rfl,
    fun a ha hn => centerBaseline_mergeAttrs ha hn⟩
  · change Option.Rel _ _ ((Item.node n).centred.at? path)
    rw [Item.at?_centred]
    cases (Item.node n).at? path with
    | none => exact .none
    | some i => exact .some i.sameButBaseline_centred
  · obtain ⟨tag, attrs, content⟩ := n
    rfl

/-- A label with a base line of its own, and a span in it without one. -/
theorem centerBaseline_tree_span :
    let span := Node.mk (.str "tspan") [] [.text "b"]
    let n := Node.mk (.str "text") [(.str "dominant-baseline", .str "hanging"), (.str "x", .int 1)]
      [.text "a", .node span]
    let a : Attrs := [(.str "x", .int 2)]
    a.find? "dominant-baseline" = none ∧ (Attrs.find? "dominant-baseline" n.attrs).isSome ∧
      (n.mergeAttrs a).centerBaseline = n.centerBaseline.mergeAttrs a ∧
      Option.Rel Item.SameButBaseline (some (.node span)) ((Item.node n.centerBaseline).at? [1]) := by
  intro span n a
  obtain ⟨hplaces, -, -, -, -, hmerge⟩ := centerBaseline_tree n
  have ha : a.find? "dominant-baseline" = none := rfl
  have hn : (Attrs.find? "dominant-baseline" n.attrs).isSome := rfl
  exact ⟨ha, hn, hmerge a ha hn, hplaces [1]⟩

end Node
end WireSketch
