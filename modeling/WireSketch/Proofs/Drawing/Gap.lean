import WireSketch.Proofs.Drawing.Box

/-! Lines over the full width of a row: the one that closes the last row, and the mark of a discontinuity. -/
namespace WireSketch
open Contract

theorem run_rowWidth {w : World} {b n : Int} (hb : w.layout.boxWidth = .int b)
    (hn : w.layout.boxesPerRow = .int n) : rowWidth w = .ok (.int (b * n)) w := by
  have hlayout : DrawM.layout w = .ok w.layout w := rfl
  unfold rowWidth
  rw [Run.bind_ok hlayout, hb, hn, Value.mul_int, lift_pure]
  rfl

/-- The closing line reaches from the left margin over all columns. -/
theorem run_drawBottom {w : World} {m b y i n : Int} (hl : w.layout.Whole m b y i)
    (hn : w.layout.boxesPerRow = .int n) :
    drawBottom w = .ok () (w.shows [lineNode (.int m) (.int y) (.int (m + b * n)) (.int y)]) := by
  have hlayout : DrawM.layout w = .ok w.layout w := rfl
  unfold drawBottom
  rw [Run.bind_ok hlayout, Run.bind_ok (run_rowWidth hl.boxWidth hn), hl.leftMargin, hl.diagramY,
    Value.add_int, lift_pure, pure_bind]
  exact run_drawPlainLine _ _ _ _ w

section
variable {α β : Type} {w t : World} {b : β}

theorem of_lift_bind_ok {x : StoreM α} {f : α → DrawM β} (h : (liftM x >>= f : DrawM β) w = .ok b t) :
    ∃ a s, f a { w with store := s } = .ok b t := by
  obtain ⟨a, u, hx, h⟩ := Run.of_bind_ok h
  obtain ⟨s, -, rfl⟩ := DrawM.of_ofStore_ok hx
  exact ⟨a, s, h⟩

theorem of_plainLine_bind_ok {x1 y1 x2 y2 : Value} {f : Unit → DrawM β}
    (h : (drawPlainLine x1 y1 x2 y2 >>= f) w = .ok b t) :
    f () (w.shows [lineNode x1 y1 x2 y2]) = .ok b t := by
  rwa [Run.bind_ok (run_drawPlainLine x1 y1 x2 y2 w)] at h

/-- A line of a named style is one node, whatever the style says. -/
theorem of_namedLine_bind_ok {x1 y1 x2 y2 key : Value} {f : Unit → DrawM β}
    (h : (drawLine x1 y1 x2 y2 (return .named key) >>= f) w = .ok b t) :
    ∃ s attrs, f () (World.shows { w with store := s } [.node (.mk (.str "line") attrs [])]) =
      .ok b t := by
  obtain ⟨_, u, hline, h⟩ := Run.of_bind_ok h
  unfold drawLine at hline
  rw [pure_bind] at hline
  obtain ⟨options, v, hoptions, hline⟩ := Run.of_bind_ok hline
  obtain ⟨⟨s, rfl⟩, -⟩ := (storing_resolving.keeps_resolve (.named key) (.named key)).of_ok hoptions
  cases hline
  exact ⟨s, _, h⟩

end

/-- The lines of a gap over the columns between two edges: every second one stands on an edge of the row. -/
def GapNodes (left right y : Value) (nodes : List Value) : Prop :=
  ∃ (top low high bottom belowLeft belowRight : Value) (upper lower : Attrs),
    nodes = [lineNode left y left top, lineNode right y right top,
      .node (.mk (.str "line") upper []), lineNode right y right low,
      .node (.mk (.str "line") lower []), lineNode left high left bottom,
      lineNode left bottom left belowLeft, lineNode right bottom right belowRight]

/-- The borders of a gap stand at the left margin and where the columns end. -/
theorem of_drawGap_ok {height gap edge : Value} {w t : World} {m b y i n : Int}
    (hl : w.layout.Whole m b y i) (hn : w.layout.boxesPerRow = .int n)
    (h : drawGap height gap edge w = .ok () t) :
    ∃ nodes, GapNodes (.int m) (.int (m + b * n)) (.int y) nodes ∧
      t.scene = w.scene ++ nodes.toArray := by
  have hlayout : DrawM.layout w = .ok w.layout w := rfl
  unfold drawGap at h
  rw [Run.bind_ok hlayout] at h
  obtain ⟨top, s₁, h⟩ := of_lift_bind_ok h
  have hwidth : rowWidth { w with store := s₁ } = .ok (.int (b * n)) { w with store := s₁ } :=
    run_rowWidth hl.boxWidth hn
  dsimp only at h
  rw [Run.bind_ok hwidth, hl.leftMargin, hl.diagramY, Value.add_int, lift_pure, pure_bind] at h
  obtain ⟨below, s₂, h⟩ := of_lift_bind_ok h
  obtain ⟨bottom, s₃, h⟩ := of_lift_bind_ok h
  replace h := of_plainLine_bind_ok h
  replace h := of_plainLine_bind_ok h
  obtain ⟨low₁, s₄, h⟩ := of_lift_bind_ok h
  obtain ⟨s₅, upper, h⟩ := of_namedLine_bind_ok h
  obtain ⟨low, s₆, h⟩ := of_lift_bind_ok h
  replace h := of_plainLine_bind_ok h
  obtain ⟨high₁, s₇, h⟩ := of_lift_bind_ok h
  obtain ⟨s₈, lower, h⟩ := of_namedLine_bind_ok h
  obtain ⟨high, s₉, h⟩ := of_lift_bind_ok h
  replace h := of_plainLine_bind_ok h
  obtain ⟨below₁, s₁₀, h⟩ := of_lift_bind_ok h
  replace h := of_plainLine_bind_ok h
  obtain ⟨below₂, s₁₁, h⟩ := of_lift_bind_ok h
  replace h := of_plainLine_bind_ok h
  obtain ⟨l, u, hlast, h⟩ := Run.of_bind_ok h
  cases hlast
  obtain ⟨v, s₁₂, h⟩ := of_lift_bind_ok h
  cases h
  refine ⟨_, ⟨top, low, high, bottom, below₁, below₂, upper, lower, rfl⟩, ?_⟩
  apply Array.ext'
  simp [World.shows]

end WireSketch
