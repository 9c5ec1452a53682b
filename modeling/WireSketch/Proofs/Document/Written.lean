import WireSketch.Proofs.Document.Parsed
import WireSketch.Proofs.Drawing.Box
import WireSketch.Script.Run

/-! Whatever a script draws, its document is written as one element with a size, and a line end after it. -/
namespace WireSketch

theorem of_document_ok {width height : Value} {body : List Value} {w t : World} {text : String}
    (h : document width height body w = .ok text t) : ∃ a b elements written,
      coordinate width = .ok a ∧ coordinate height = .ok b ∧ body.mapM sceneMarkup w = .ok elements t ∧
      (Markup.element (qualified "svg") [("width", a), ("height", b)] (indented elements)).write =
        .ok written ∧ text = written ++ "\n" := by
  unfold document at h
  obtain ⟨a, t₁, hwidth, hrun₁⟩ := Run.of_bind_ok h
  obtain ⟨ha, rfl⟩ := DrawM.of_ofExcept_ok hwidth
  obtain ⟨b, t₂, hheight, hrun₂⟩ := Run.of_bind_ok hrun₁
  obtain ⟨hb, rfl⟩ := DrawM.of_ofExcept_ok hheight
  obtain ⟨elements, t₃, hscene, hrun₃⟩ := Run.of_bind_ok hrun₂
  obtain ⟨written, t₄, hroot, hdone⟩ := Run.of_bind_ok hrun₃
  obtain ⟨hwrite, rfl⟩ := DrawM.of_ofExcept_ok hroot
  cases hdone
  exact ⟨a, b, elements, written, ha, hb, hscene, hwrite, rfl⟩

/-- A script's document is that of the scene it has built. -/
theorem of_generate_ok {budget : Int} {source text : String} (h : generate budget source = .ok text) :
    ∃ world width height store t, buildDiagram budget source = .ok world ∧
      document width height world.scene.toList { world with store } = .ok text t := by
  obtain ⟨world, hbuild, h⟩ := Except.of_bind_ok h
  cases hemit : emit world with
  | error f t =>
    rw [hemit] at h
    cases h
  | ok emitted t =>
    rw [hemit] at h
    cases h
    unfold emit at hemit
    obtain ⟨width, t₁, hwidth, hemit⟩ := Run.of_bind_ok hemit
    obtain ⟨height, t₂, hheight, hemit⟩ := Run.of_bind_ok hemit
    obtain ⟨w, t₃, hget, hemit⟩ := Run.of_bind_ok hemit
    cases hget
    obtain ⟨s₁, rfl⟩ := (storing_resolving.keeps_diagramWidth.of_ok hwidth).1
    obtain ⟨s₂, rfl⟩ := (storing_resolving.keeps_diagramHeight.of_ok hheight).1
    exact ⟨world, width, height, s₂, t, hbuild, hemit⟩

theorem endsWith_of_generate {budget : Int} {source text : String} (h : generate budget source = .ok text) :
    text.endsWith "\n" = true := by
  obtain ⟨world, width, height, store, t, -, hdocument⟩ := of_generate_ok h
  obtain ⟨a, b, elements, written, -, -, -, -, rfl⟩ := of_document_ok hdocument
  have hsuffix : "\n".toList <:+ (written ++ "\n").toSlice.copy.toList := by simp
  exact String.Slice.endsWith_string_iff.mpr hsuffix

end WireSketch
