import WireSketch.Proofs.Drawing.Box
import WireSketch.Proofs.Drawing.Leaves
import WireSketch.Proofs.Drawing.Lookup

/-! Where a row header stands, for a label that is a text and for one that is a node already. -/
namespace WireSketch
open Contract

/-- The right end of a row header: left of the rows, at half the height of the row at the cursor. -/
structure Layout.RowHeaderAt (l : Layout) (x y : Value) : Prop where
  x : ∃ s s', l.leftMargin.sub (.int 5) s = .ok x s'
  y : ∃ s s', (do l.diagramY.add (← (Value.float 0.5).mul l.rowHeight) : StoreM Value) s = .ok y s'

def rowHeaderPlace (x y : Value) : List (String × Value) :=
  [("x", x), ("y", y), ("text-anchor", .str "end")]

/-- The options of a row header, with the defaults where they are absent. -/
def rowHeaderOptions (options : Attrs) : Attrs :=
  ((options.setDefault "font-size" (.int 11)).setDefault "font-family" monoFamily).setDefault
    "dominant-baseline" (.str "middle")

def writtenRowHeader (x y : Value) (options : Attrs) (text : String) : Node :=
  .mk (.str "text") ((rowHeaderOptions options).merge (Attrs.ofNames (rowHeaderPlace x y))) [.text text]

def Attrs.only (name : String) (options : Attrs) : Attrs :=
  (options.find? name).toList.map fun v => (.str name, v)

def rowHeaderOverlay (x y : Value) (options : Attrs) : Attrs :=
  ((Attrs.ofNames (rowHeaderPlace x y)).put "dominant-baseline"
      ((options.find? "dominant-baseline").getD .none)).merge
    (options.only "x" ++ options.only "y" ++ options.only "text-anchor")

def placedRowHeader (x y : Value) (options : Attrs) (n : Node) : Node :=
  n.mergeAttrs (rowHeaderOverlay x y (rowHeaderOptions options))

section Place

variable {name : String} {x y v : Value}

theorem isMap_rowHeaderPlace (x y : Value) : (Attrs.ofNames (rowHeaderPlace x y)).IsMap :=
  Attrs.isMap_ofNames (by simp [rowHeaderPlace])

theorem find?_rowHeaderPlace (h : (name, v) ∈ rowHeaderPlace x y) :
    (Attrs.ofNames (rowHeaderPlace x y)).find? name = some v := by
  simp only [rowHeaderPlace, List.mem_cons, Prod.mk.injEq, List.not_mem_nil, or_false] at h
  obtain ⟨rfl, rfl⟩ | ⟨rfl, rfl⟩ | ⟨rfl, rfl⟩ := h <;> rfl

/-- The defaults of a row header do not place it. -/
theorem find?_rowHeaderOptions (h : (name, v) ∈ rowHeaderPlace x y) (options : Attrs) :
    (rowHeaderOptions options).find? name = options.find? name := by
  simp only [rowHeaderPlace, List.mem_cons, Prod.mk.injEq, List.not_mem_nil, or_false] at h
  obtain ⟨rfl, rfl⟩ | ⟨rfl, rfl⟩ | ⟨rfl, rfl⟩ := h <;>
    simp [rowHeaderOptions, Attrs.find?_eq_at?, Attrs.at?_setDefault, Attrs.at?, Value.sameKey]

theorem at?_only_reverse (name other : String) (options : Attrs) :
    Attrs.at? (.str name) (options.only other).reverse =
      if other = name then options.find? other else none := by
  unfold Attrs.only
  cases options.find? other with
  | none => simp [Attrs.at?]
  | some v => simp [Attrs.at?, Value.sameKey]

/-- What the options give wins over the place of the header. -/
theorem find?_rowHeaderOverlay (h : (name, v) ∈ rowHeaderPlace x y) (options : Attrs) :
    (rowHeaderOverlay x y options).find? name = some ((options.find? name).getD v) := by
  have hplace := find?_rowHeaderPlace h
  rw [Attrs.find?_eq_at?] at hplace
  unfold rowHeaderOverlay Attrs.put
  rw [Attrs.find?_eq_at?, Attrs.at?_merge, Attrs.at?_set, hplace]
  simp only [List.reverse_append, Attrs.at?_append, at?_only_reverse]
  simp only [rowHeaderPlace, List.mem_cons, Prod.mk.injEq, List.not_mem_nil, or_false] at h
  obtain ⟨rfl, rfl⟩ | ⟨rfl, rfl⟩ | ⟨rfl, rfl⟩ := h <;>
    cases options.find? _ <;> simp [Value.sameKey]

/-- A text is placed last: its place wins over what the options give. -/
theorem find?_writtenRowHeader (h : (name, v) ∈ rowHeaderPlace x y) (options : Attrs) (text : String) :
    Attrs.find? name (writtenRowHeader x y options text).attrs = some v := by
  unfold writtenRowHeader Node.attrs
  rw [Attrs.find?_eq_at?, (isMap_rowHeaderPlace x y).at?_merge, ← Attrs.find?_eq_at?,
    find?_rowHeaderPlace h, Option.some_or]

theorem find?_placedRowHeader (h : (name, v) ∈ rowHeaderPlace x y) (options : Attrs) (n : Node) :
    Attrs.find? name (placedRowHeader x y options n).attrs = some ((options.find? name).getD v) := by
  have hmap : (rowHeaderOverlay x y (rowHeaderOptions options)).IsMap :=
    ((isMap_rowHeaderPlace x y).set _ _).merge _
  unfold placedRowHeader Node.mergeAttrs
  rw [Node.attrs, Attrs.find?_eq_at?, hmap.at?_merge, ← Attrs.find?_eq_at?, find?_rowHeaderOverlay h,
    find?_rowHeaderOptions h, Option.some_or]

end Place

section Run

variable {spec : Value} {options : Attrs} {w t : World}

def atRowHeader (l : Layout) (draw : Value → Value → DrawM Unit) : DrawM Unit := do
  let x ← l.leftMargin.sub (.int 5)
  let y ← l.diagramY.add (← (Value.float 0.5).mul l.rowHeight)
  draw x y

/-- The place is found, or not, before the label is looked at. -/
theorem run_atRowHeader (l : Layout) (w : World) :
    (∃ s x y, l.RowHeaderAt x y ∧ ∀ draw, atRowHeader l draw w = draw x y { w with store := s }) ∨
      ∃ f s, ∀ draw, atRowHeader l draw w = .error (.fault f) { w with store := s } := by
  have hx := DrawM.run_ofStore (l.leftMargin.sub (.int 5)) w
  cases hrx : l.leftMargin.sub (.int 5) w.store with
  | error f s =>
    rw [hrx] at hx
    exact .inr ⟨f, s, fun _ => Run.bind_error hx⟩
  | ok x s =>
    rw [hrx] at hx
    have hhalf := DrawM.run_ofStore ((Value.float 0.5).mul l.rowHeight) { w with store := s }
    cases hrhalf : (Value.float 0.5).mul l.rowHeight s with
    | error f s' =>
      rw [hrhalf] at hhalf
      exact .inr ⟨f, s', fun _ => (Run.bind_ok hx).trans (Run.bind_error hhalf)⟩
    | ok half s' =>
      rw [hrhalf] at hhalf
      have hy := DrawM.run_ofStore (l.diagramY.add half) { w with store := s' }
      cases hry : l.diagramY.add half s' with
      | error f s'' =>
        rw [hry] at hy
        exact .inr ⟨f, s'', fun _ => (Run.bind_ok hx).trans ((Run.bind_ok hhalf).trans (Run.bind_error hy))⟩
      | ok y s'' =>
        rw [hry] at hy
        refine .inl ⟨s'', x, y, ⟨⟨_, _, hrx⟩, s, s'', (Run.bind_ok hrhalf).trans hry⟩, fun _ => ?_⟩
        exact (Run.bind_ok hx).trans ((Run.bind_ok hhalf).trans (Run.bind_ok hy))

theorem run_drawRowHeader (h : resolveValue spec w = .ok options t) :
    (∃ s x y, w.layout.RowHeaderAt x y ∧
      (∀ text, drawRowHeader (.str text) spec w =
        .ok () { w with store := s, scene := w.scene.push (.node (writtenRowHeader x y options text)) }) ∧
      ∀ n, drawRowHeader (.node n) spec w =
        .ok () { w with store := s, scene := w.scene.push (.node (placedRowHeader x y options n)) }) ∨
    ∃ f s, ∀ label, drawRowHeader label spec w = .error (.fault f) { w with store := s } := by
  obtain ⟨⟨u, rfl⟩, -⟩ := (storing_resolving.keeps_resolveValue spec).of_ok h
  obtain ⟨s, x, y, hplace, hdraw⟩ | ⟨f, s, hfail⟩ := run_atRowHeader w.layout { w with store := u }
  · refine .inl ⟨s, x, y, hplace, fun text => ?_, fun n => ?_⟩
    · exact (Run.bind_ok h).trans (hdraw _)
    · exact (Run.bind_ok h).trans (hdraw _)
  · exact .inr ⟨f, s, fun label => (Run.bind_ok h).trans (hfail _)⟩

/--
A text always stands at the place of a row header. A node stands there too unless the specification gives
another one: the two agree exactly if it does not. The cursor stays, and so does the scene if the place
cannot be computed.
-/
theorem drawRowHeader_place (h : resolveValue spec w = .ok options t) (text : String) (n : Node) :
    (∃ s x y written placed, w.layout.RowHeaderAt x y ∧
      drawRowHeader (.str text) spec w =
        .ok () { w with store := s, scene := w.scene.push (.node written) } ∧
      drawRowHeader (.node n) spec w =
        .ok () { w with store := s, scene := w.scene.push (.node placed) } ∧
      (∀ name v, (name, v) ∈ rowHeaderPlace x y → Attrs.find? name written.attrs = some v ∧
        Attrs.find? name placed.attrs = some ((options.find? name).getD v)) ∧
      ((∀ name v, (name, v) ∈ rowHeaderPlace x y →
          Attrs.find? name placed.attrs = Attrs.find? name written.attrs) ↔
        ∀ name v, (name, v) ∈ rowHeaderPlace x y → ∀ given, options.find? name = some given → given = v)) ∨
    ∃ f s, drawRowHeader (.str text) spec w = .error (.fault f) { w with store := s } ∧
      drawRowHeader (.node n) spec w = .error (.fault f) { w with store := s } := by
  obtain ⟨s, x, y, hplace, htext, hnode⟩ | ⟨f, s, hfail⟩ := run_drawRowHeader h
  · refine .inl ⟨s, x, y, _, _, hplace, htext text, hnode n, fun name v hv => ?_, ?_⟩
    · exact ⟨find?_writtenRowHeader hv options text, find?_placedRowHeader hv options n⟩
    · refine forall_congr' fun name => forall_congr' fun v => forall_congr' fun hv => ?_
      rw [find?_writtenRowHeader hv, find?_placedRowHeader hv, Option.some_inj]
      cases options.find? name with
      | none => simp
      | some given => simp
  · exact .inr ⟨f, s, hfail _, hfail _⟩

def placingWorld : World :=
  { World.initial {} with store := ⟨#[.dict (.ofDistinct [(.str "x", .int 1)] (List.pairwise_singleton _ _))]⟩ }

theorem resolveValue_placingWorld :
    resolveValue (.dict 0) placingWorld = .ok [(.str "x", .int 1)] placingWorld := rfl

/-- The text `a` and a node of that text under the same map. -/
theorem drawRowHeader_place_placing :
    ∃ s x y written placed, placingWorld.layout.RowHeaderAt x y ∧
      drawRowHeader (.str "a") (.dict 0) placingWorld =
        .ok () { placingWorld with store := s, scene := #[.node written] } ∧
      drawRowHeader (.node (.mk (.str "text") [] [.text "a"])) (.dict 0) placingWorld =
        .ok () { placingWorld with store := s, scene := #[.node placed] } ∧
      Attrs.find? "x" written.attrs = some x ∧ Attrs.find? "x" placed.attrs = some (.int 1) ∧
      Attrs.find? "y" placed.attrs = Attrs.find? "y" written.attrs := by
  have hdrawn : ∃ t, drawRowHeader (.str "a") (.dict 0) placingWorld = .ok () t := ⟨_, rfl⟩
  obtain ⟨s, x, y, written, placed, hplace, htext, hnode, hattrs, -⟩ | ⟨f, s, hfail, -⟩ :=
    drawRowHeader_place resolveValue_placingWorld "a" (.mk (.str "text") [] [.text "a"])
  · obtain ⟨hx, hx'⟩ := hattrs "x" x (by simp [rowHeaderPlace])
    obtain ⟨hy, hy'⟩ := hattrs "y" y (by simp [rowHeaderPlace])
    exact ⟨s, x, y, written, placed, hplace, htext, hnode, hx, hx', hy'.trans hy.symm⟩
  · obtain ⟨t, ht⟩ := hdrawn
    rw [hfail] at ht
    cases ht

/-- Under this map, the text stands at the margin and the node where the map says. -/
theorem drawRowHeader_place_given :
    ∃ s s' written placed,
      drawRowHeader (.str "a") (.dict 0) placingWorld =
        .ok () { placingWorld with store := s, scene := #[.node written] } ∧
      drawRowHeader (.node (.mk (.str "text") [] [.text "a"])) (.dict 0) placingWorld =
        .ok () { placingWorld with store := s', scene := #[.node placed] } ∧
      Attrs.find? "x" written.attrs = some (.int 35) ∧ Attrs.find? "x" placed.attrs = some (.int 1) :=
  ⟨_, _, _, _, rfl, rfl, rfl, rfl⟩

end Run

end WireSketch
