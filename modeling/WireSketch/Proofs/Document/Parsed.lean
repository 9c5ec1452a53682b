import WireSketch.Proofs.Document.Image
import WireSketch.Proofs.Number.Printed

/-! Reading the document of a scene gives the images of its nodes. -/
namespace WireSketch
open Xml

namespace Markup

def isElement : Markup → Bool
  | text _ => false
  | element .. => true

def isBlank (s : String) : Bool := s.toList.all isSpace

variable {ms : List Markup}

theorem mem_indented {m : Markup} (h : m ∈ indented ms) :
    m ∈ ms ∨ m = .text "\n  " ∨ m = .text "\n" := by
  induction ms using indented.induct with
  | case1 => cases h
  | case2 n =>
    rw [indented] at h
    rcases List.mem_cons.mp h with rfl | h
    · exact .inr (.inl rfl)
    rcases List.mem_cons.mp h with rfl | h
    · exact .inl List.mem_cons_self
    · exact .inr (.inr (List.mem_singleton.mp h))
  | case3 n rest hrest ih =>
    rw [indented] at h
    · rcases List.mem_cons.mp h with rfl | h
      · exact .inr (.inl rfl)
      rcases List.mem_cons.mp h with rfl | h
      · exact .inl List.mem_cons_self
      · exact (ih h).imp_left (List.mem_cons_of_mem n)
    · exact hrest

theorem elements_indented (h : ∀ m ∈ ms, m.isElement = true) :
    (indented ms).filter isElement = ms := by
  induction ms using indented.induct with
  | case1 => rfl
  | case2 m =>
    rw [indented, List.filter_cons_of_neg (by decide),
      List.filter_cons_of_pos (h m List.mem_cons_self)]
    rfl
  | case3 m rest hrest ih =>
    rw [indented, List.filter_cons_of_neg (by decide),
      List.filter_cons_of_pos (h m List.mem_cons_self),
      ih fun n hn => h n (List.mem_cons_of_mem m hn)]
    exact hrest

theorem blank_of_mem_indented (h : ∀ m ∈ ms, m.isElement = true) {s : String}
    (hs : Markup.text s ∈ indented ms) : isBlank s = true := by
  rcases mem_indented hs with hs | hs | hs
  · cases h (.text s) hs
  · cases hs
    decide
  · cases hs
    decide

/-- Texts around elements are joined with nothing. -/
theorem joinedFrom_element (s : String) {m : Markup} (hm : m.isElement = true) (rest : List Markup) :
    joinedFrom s (m :: rest) = textContent s ++ m :: joined rest := by
  cases m with
  | text t => cases hm
  | element name attrs content => rfl

theorem joined_indented (h : ∀ m ∈ ms, m.isElement = true) : joined (indented ms) = indented ms := by
  induction ms using indented.induct with
  | case1 => rfl
  | case2 m =>
    rw [indented, joined, joinedFrom, joinedFrom_element _ (h m List.mem_cons_self)]
    rfl
  | case3 m rest hrest ih =>
    rw [indented, joined, joinedFrom, joinedFrom_element _ (h m List.mem_cons_self),
      ih fun n hn => h n (List.mem_cons_of_mem m hn)]
    · rfl
    · exact hrest

theorem normalAll_indented (ms : List Markup) :
    normalAll (indented ms) = indented (normalAll ms) := by
  induction ms using indented.induct with
  | case1 => rfl
  | case2 m => rfl
  | case3 m rest hrest ih =>
    cases rest with
    | nil => exact absurd rfl hrest
    | cons n rest =>
      rw [indented, normalAll, normalAll, ih]
      · rfl
      · exact hrest

theorem plain_indented (h : ∀ m ∈ ms, Plain m) : ∀ m ∈ indented ms, Plain m := by
  intro m hm
  rcases mem_indented hm with hm | rfl | rfl
  · exact h m hm
  · exact .text (by decide)
  · exact .text (by decide)

end Markup

namespace Node
open Markup

variable {store : Store}

theorem Image.isElement {n : Node} {m : Markup} (h : Image store n m) : m.isElement = true := by
  cases h
  rfl

theorem Images.isElement {nodes : List Node} {ms : List Markup}
    (h : Images store (nodes.map Item.node) ms) : ∀ m ∈ ms, m.isElement = true := by
  induction nodes generalizing ms with
  | nil =>
    cases h
    simp
  | cons n nodes ih =>
    cases h with
    | node hn hrest => exact List.forall_mem_cons.mpr ⟨hn.isElement, ih hrest⟩

/-- The nodes of a scene become elements one after another; the store is only read. -/
theorem mapM_sceneMarkup {w t : World} {nodes : List Node} {ms : List Markup}
    (hd : ∀ n ∈ nodes, n.Drawable w.store)
    (hrun : (nodes.map Value.node).mapM sceneMarkup w = .ok ms t) :
    t = w ∧ (∀ m ∈ ms, Plain m) ∧ Images w.store (nodes.map Item.node) (normalAll ms) := by
  induction nodes generalizing ms with
  | nil =>
    cases hrun
    exact ⟨rfl, by simp, .nil⟩
  | cons n nodes ih =>
    rw [List.map_cons, List.mapM_cons] at hrun
    obtain ⟨m, t₁, hm, hrest⟩ := Run.of_bind_ok hrun
    obtain ⟨k, t₂, hnode, hm⟩ := Run.of_bind_ok hm
    cases hnode
    obtain ⟨s, hmarkup, rfl⟩ := DrawM.of_ofStore_ok hm
    obtain ⟨rfl, hplain, himage⟩ := toMarkup_image n (hd n List.mem_cons_self) m hmarkup
    obtain ⟨rest, t₃, hrest, hdone⟩ := Run.of_bind_ok hrest
    cases hdone
    obtain ⟨rfl, hplains, himages⟩ := ih (fun k hk => hd k (List.mem_cons_of_mem n hk)) hrest
    exact ⟨rfl, List.forall_mem_cons.mpr ⟨hplain, hplains⟩, .node himage himages⟩

end Node

theorem isLocalName_svg : isLocalName "svg".toList = true := by decide

theorem isLocalName_width : isLocalName "width".toList = true := by decide

theorem isLocalName_height : isLocalName "height".toList = true := by decide

/-- The size of a document is a pair of attributes that can be written. -/
theorem plainAttrs_size {a b : String} (ha : Printed a.toList) (hb : Printed b.toList) :
    PlainAttrs [("width", a), ("height", b)] where
  name := List.forall_mem_cons.mpr ⟨⟨isLocalName_width, by simp⟩,
    List.forall_mem_singleton.mpr ⟨isLocalName_height, by simp⟩⟩
  value := List.forall_mem_cons.mpr ⟨List.all_eq_true.mpr ha,
    List.forall_mem_singleton.mpr (List.all_eq_true.mpr hb)⟩
  nodup := by simp

/-- A document is written whenever its size and its nodes can be. -/
theorem document_returns {width height : Value} {a b : String} {nodes : List Node} {w : World}
    {ms : List Markup} (ha : coordinate width = .ok a) (hb : coordinate height = .ok b)
    (hnodes : ∀ n ∈ nodes, n.Drawable w.store)
    (hscene : (nodes.map Value.node).mapM sceneMarkup w = .ok ms w) :
    ∃ text, document width height (nodes.map Value.node) w = .ok text w := by
  obtain ⟨-, hplain, -⟩ := Node.mapM_sceneMarkup hnodes hscene
  obtain ⟨text, hwrite, -⟩ := Markup.ofText?_write isLocalName_svg
    (plainAttrs_size (printed_coordinate ha) (printed_coordinate hb)) (Markup.plain_indented hplain)
  have hwidth : (liftM (coordinate width) : DrawM String) w = .ok a w := by
    rw [ha]
    rfl
  have hheight : (liftM (coordinate height) : DrawM String) w = .ok b w := by
    rw [hb]
    rfl
  refine ⟨text ++ "\n", ?_⟩
  unfold document
  rw [Run.bind_ok hwidth, Run.bind_ok hheight, Run.bind_ok hscene, hwrite]
  rfl

theorem isSvg_of_root {text : String} {pairs : List (String × String)} {content : List Markup}
    (h : Markup.ofText? text = some (.element (qualified "svg") pairs content)) :
    isSvg text = true := by
  have hname : Markup.localName? (.element (qualified "svg") pairs content) = some "svg" := by
    rw [Markup.localName?, Markup.splitName_qualified (by decide)]
    rfl
  unfold isSvg
  rw [h]
  dsimp only
  rw [hname]
  rfl

open Markup in
/--
The text of a scene is a document of its size whose elements are the images of the nodes in order; all
other text in it is white space between them.
-/
theorem document_parsed {width height : Value} {nodes : List Node} {w t : World} {text : String}
    (hnodes : ∀ n ∈ nodes, n.Drawable w.store)
    (hrun : document width height (nodes.map Value.node) w = .ok text t) :
    ∃ a b content, coordinate width = .ok a ∧ coordinate height = .ok b ∧
      ofText? text = some (.element (qualified "svg") [("width", a), ("height", b)] content) ∧
      Node.Images w.store (nodes.map Item.node) (content.filter isElement) ∧
      (∀ s, Markup.text s ∈ content → isBlank s = true) ∧ isSvg text = true := by
  unfold document at hrun
  obtain ⟨a, t₁, hwidth, hrun₁⟩ := Run.of_bind_ok hrun
  obtain ⟨ha, rfl⟩ := DrawM.of_ofExcept_ok hwidth
  obtain ⟨b, t₂, hheight, hrun₂⟩ := Run.of_bind_ok hrun₁
  obtain ⟨hb, rfl⟩ := DrawM.of_ofExcept_ok hheight
  obtain ⟨ms, t₃, hscene, hrun₃⟩ := Run.of_bind_ok hrun₂
  obtain ⟨rfl, hplain, himages⟩ := Node.mapM_sceneMarkup hnodes hscene
  obtain ⟨root, t₄, hroot, hdone⟩ := Run.of_bind_ok hrun₃
  obtain ⟨hwrite, rfl⟩ := DrawM.of_ofExcept_ok hroot
  cases hdone
  obtain ⟨written, hwritten, hread⟩ := ofText?_write isLocalName_svg
    (plainAttrs_size (printed_coordinate ha) (printed_coordinate hb)) (plain_indented hplain)
  cases hwritten.symm.trans hwrite
  have helements := himages.isElement
  rw [normal, normalAll_indented, joined_indented helements] at hread
  refine ⟨a, b, _, ha, hb, hread, ?_, fun s => blank_of_mem_indented helements, isSvg_of_root hread⟩
  rw [elements_indented helements]
  exact himages

open Markup in
/-- A label with an attribute that is dropped, texts that are joined and an element in its content. -/
theorem document_parsed_label :
    let label : Node := .mk (.str "text") [(.str "class", .str "a b"), (.str "fill", .none)]
      [.text "a<", .text "b", .node (.mk (.str "tspan") [] []), .text ""]
    let w := World.initial {}
    label.Drawable w.store ∧ ∃ text, document (.int 10) (.int 20) [.node label] w = .ok text w ∧
      ∃ a b content, coordinate (.int 10) = .ok a ∧ coordinate (.int 20) = .ok b ∧
        ofText? text = some (.element (qualified "svg") [("width", a), ("height", b)] content) ∧
        Node.Images w.store [.node label] (content.filter isElement) ∧
        (∀ s, Markup.text s ∈ content → isBlank s = true) ∧ isSvg text = true := by
  intro label w
  have hspan : Node.Drawable w.store (.mk (.str "tspan") [] []) :=
    .mk (by decide) ⟨by simp, by simp, by simp⟩ (by simp) (by simp)
  have hlabel : label.Drawable w.store := by
    refine .mk (by decide) ⟨?_, by simp, ?_⟩ ?_ ?_
    · intro entry hentry
      rcases List.mem_cons.mp hentry with rfl | hentry
      · exact ⟨"class", rfl, by decide, by decide⟩
      · rw [List.mem_singleton.mp hentry]
        exact ⟨"fill", rfl, by decide, by decide⟩
    · intro entry hentry hsome text htext
      rcases List.mem_cons.mp hentry with rfl | hentry
      · cases htext
        decide
      · exact absurd (congrArg Prod.snd (List.mem_singleton.mp hentry)) hsome
    · intro s hs
      simp at hs
      rcases hs with rfl | rfl | rfl
      · decide
      · decide
      · decide
    · intro n hn
      simp at hn
      rw [hn]
      exact hspan
  have hsmall (n : Int) (hn : n.natAbs.log2 < 14000) : coordinate (.int n) = .ok (toString n) :=
    if_neg fun h => absurd h.1 (by omega)
  have hwidth := hsmall 10 (by decide)
  have hheight := hsmall 20 (by decide)
  have hscene : ([Value.node label].mapM sceneMarkup) w =
      .ok [.element (qualified "text") [("class", "a b")]
        [.text "a<", .text "b", .element (qualified "tspan") [] [], .text ""]] w := rfl
  have hnodes : ∀ n ∈ [label], n.Drawable w.store := fun n hn => List.mem_singleton.mp hn ▸ hlabel
  obtain ⟨text, hrun⟩ := document_returns hwidth hheight hnodes hscene
  exact ⟨hlabel, text, hrun, document_parsed hnodes hrun⟩

end WireSketch
