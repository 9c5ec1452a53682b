import WireSketch.Proofs.Drawing.Leaves
import WireSketch.Proofs.Program.Point

/-!
Labels with nested content: a span for each list or tuple, where it stands, and the texts of all other items
in order. What fails is the first specification that does not resolve.
-/
namespace WireSketch
open Contract

/-- An item of a label's content. -/
inductive Piece
  /-- A list or tuple: its first item is a specification, the others are content. -/
  | span (spec : Value) (content : List Piece)
  | node (n : Node)
  | text (v : Value)

namespace Piece

mutual

def specs : Piece → List Value
  | span spec content => spec :: specsAll content
  | node _ | text _ => []

def specsAll : List Piece → List Value
  | [] => []
  | p :: rest => specs p ++ specsAll rest

end

mutual

def written : Piece → List Value
  | span _ content => writtenAll content
  | node _ => []
  | text v => [v]

def writtenAll : List Piece → List Value
  | [] => []
  | p :: rest => written p ++ writtenAll rest

end

end Piece

/-- The pieces of content that is nested less deep than the limit; an empty list has no specification. -/
def Store.pieces? (s : Store) : Nat → List Value → Option (List Piece)
  | 0, _ => none
  | fuel + 1, content => content.mapM fun v =>
    match s.parts? v with
    | some parts => (s.pieces? fuel parts.tail).map (.span (parts.head?.getD .none))
    | none =>
      match v with
      | .node n => some (.node n)
      | v => some (.text v)

theorem Store.pieces?_succ (s : Store) : (fuel : Nat) → (content : List Value) → (ps : List Piece) →
    s.pieces? fuel content = some ps → s.pieces? (fuel + 1) content = some ps
  | 0, _, _, h => by cases h
  | fuel + 1, content, ps, h => by
    refine mapM_some_of_imp (fun v p hp => ?_) content ps h
    split at hp
    · obtain ⟨inner, hinner, hp⟩ := Option.map_eq_some_iff.mp hp
      exact Option.map_eq_some_iff.mpr ⟨inner, s.pieces?_succ fuel _ inner hinner, hp⟩
    · exact hp

theorem Store.pieces?_mono (s : Store) {depth limit : Nat} {content : List Value} {ps : List Piece}
    (hlimit : depth ≤ limit) (h : s.pieces? depth content = some ps) : s.pieces? limit content = some ps := by
  induction hlimit with
  | refl => exact h
  | step _ ih => exact s.pieces?_succ _ content ps ih

namespace World

def specFailure? (w : World) (spec : Value) : Option Failure :=
  match resolveValue spec w with
  | .ok _ _ => none
  | .error e _ => some e

def specAttrs (w : World) (spec : Value) : Attrs :=
  match resolveValue spec w with
  | .ok a _ => a
  | .error _ _ => []

def textFailure? (w : World) (v : Value) : Option Failure :=
  match v.plain w.store with
  | .ok _ _ => none
  | .error f _ => some (.fault f)

def textOf (w : World) (v : Value) : String :=
  match v.plain w.store with
  | .ok text _ => text
  | .error _ _ => ""

mutual

/-- The part of a label that a piece becomes. -/
def item (w : World) : Piece → Item
  | .span spec content => .node (.mk (.str "tspan") (w.specAttrs spec) (w.items content))
  | .node n => .node n
  | .text v => .text (w.textOf v)

def items (w : World) : List Piece → List Item
  | [] => []
  | p :: rest => w.item p :: w.items rest

end

mutual

/-- The texts and nodes of a piece in order, out of their spans. -/
def texts (w : World) : Piece → List (Except Fault String)
  | .span _ content => w.textsAll content
  | .node n => [n.textContent]
  | .text v => [.ok (w.textOf v)]

def textsAll (w : World) : List Piece → List (Except Fault String)
  | [] => []
  | p :: rest => w.texts p ++ w.textsAll rest

end

end World

section Expand

variable {w : World}

theorem settles_resolveValue {v : Value} (hv : w.store.DirectMaps nestingLimit v) :
    Settles w (w.specFailure? v) (w.specAttrs v) (resolveValue v) := by
  have hmoved := unmoved_resolveValue hv
  unfold Settles World.specFailure? World.specAttrs
  cases hr : resolveValue v w with
  | ok a t =>
    obtain rfl := (hmoved.of_ok hr).1
    rfl
  | error e t =>
    obtain rfl := (hmoved.of_error hr).1
    rfl

theorem run_nestedParts? (v : Value) (w : World) :
    (liftM (nestedParts? v) : DrawM (Option (List Value))) w = .ok (w.store.parts? v) w := by
  have hrun : nestedParts? v w.store = .ok (w.store.parts? v) w.store := by
    cases v with
    | list r => exact Run.bind_ok (Store.run_getList w.store r)
    | _ => rfl
  rw [DrawM.run_ofStore, hrun]

theorem run_plain {v : Value} (hv : w.textFailure? v = none) :
    v.plain w.store = .ok (w.textOf v) w.store := by
  have hread : reading.Keeps v.plain := Value.keeps_plain v
  unfold World.textFailure? at hv
  unfold World.textOf
  cases hr : v.plain w.store with
  | ok text s =>
    obtain rfl := (hread.of_ok hr).1
    rfl
  | error f s =>
    rw [hr] at hv
    cases hv

theorem findSome?_cons_or {α β : Type} (f : α → Option β) (x : α) (xs : List α) :
    (x :: xs).findSome? f = (f x).or (xs.findSome? f) := by
  rw [List.findSome?_cons]
  cases f x <;> rfl

theorem settles_text {v : Value} (hv : w.textFailure? v = none) (hnode : ∀ n, v ≠ .node n) :
    Settles w none (.text (w.textOf v)) (liftM (Node.contentItem v) : DrawM Item) := by
  have hrun : Node.contentItem v w.store = .ok (.text (w.textOf v)) w.store := by
    unfold Node.contentItem
    split
    · rename_i n
      exact (hnode n rfl).elim
    · exact Run.bind_ok (run_plain hv)
  unfold Settles
  rw [DrawM.run_ofStore, hrun]

/-- Specifications that resolve without a trace, and values that can be written. -/
structure World.Takes (w : World) (specs written : List Value) : Prop where
  specs : ∀ v ∈ specs, w.store.DirectMaps nestingLimit v
  written : ∀ v ∈ written, w.textFailure? v = none

theorem World.Takes.of_append {specs specs' written written' : List Value}
    (h : w.Takes (specs ++ specs') (written ++ written')) :
    w.Takes specs written ∧ w.Takes specs' written' := by
  obtain ⟨hspecs, hspecs'⟩ := List.forall_mem_append.mp h.specs
  obtain ⟨hwritten, hwritten'⟩ := List.forall_mem_append.mp h.written
  exact ⟨⟨hspecs, hwritten⟩, ⟨hspecs', hwritten'⟩⟩

theorem settles_mapM_pieces {f : Value → DrawM Item} {piece? : Value → Option Piece}
    (hf : ∀ v p, piece? v = some p → w.Takes p.specs p.written →
      Settles w (p.specs.findSome? w.specFailure?) (w.item p) (f v)) :
    (content : List Value) → (ps : List Piece) → content.mapM piece? = some ps →
      w.Takes (Piece.specsAll ps) (Piece.writtenAll ps) →
        Settles w ((Piece.specsAll ps).findSome? w.specFailure?) (w.items ps) (content.mapM f)
  | [], _, h, _ => by
    cases h
    rfl
  | v :: rest, ps, h, htakes => by
    rw [List.mapM_cons, Option.bind_eq_bind, Option.bind_eq_some_iff] at h
    obtain ⟨p, hp, h⟩ := h
    obtain ⟨others, hothers, h⟩ := Option.bind_eq_some_iff.mp h
    cases h
    obtain ⟨hfirst, hrest⟩ := htakes.of_append
    have hpiece := hf v p hp hfirst
    have hothers := settles_mapM_pieces hf rest others hothers hrest
    rw [List.mapM_cons, Piece.specsAll, List.findSome?_append]
    exact hpiece.bind (hothers.map (w.item p :: ·))

theorem settles_expandIn : (fuel : Nat) → (content : List Value) → (ps : List Piece) →
    w.store.pieces? fuel content = some ps → w.Takes (Piece.specsAll ps) (Piece.writtenAll ps) →
      Settles w ((Piece.specsAll ps).findSome? w.specFailure?) (w.items ps) (expandIn fuel content)
  | 0, _, _, h, _ => by cases h
  | fuel + 1, content, ps, h, htakes => by
    refine settles_mapM_pieces (fun v p hp htakes => ?_) content ps h htakes
    have hparts := run_nestedParts? v w
    unfold Settles
    rw [Run.bind_ok hparts]
    cases hnested : w.store.parts? v with
    | some parts =>
      rw [hnested] at hp
      obtain ⟨inner, hinner, rfl⟩ := Option.map_eq_some_iff.mp hp
      have hspec : w.store.DirectMaps nestingLimit (parts.head?.getD .none) :=
        htakes.specs _ List.mem_cons_self
      have hcontent : w.Takes (Piece.specsAll inner) (Piece.writtenAll inner) :=
        ⟨fun v hv => htakes.specs v (List.mem_cons_of_mem _ hv), htakes.written⟩
      rw [Piece.specs, findSome?_cons_or]
      refine (settles_resolveValue hspec).bind ?_
      exact (settles_expandIn fuel parts.tail inner hinner hcontent).map fun items =>
        Item.node (.mk (.str "tspan") (w.specAttrs (parts.head?.getD .none)) items)
    | none =>
      rw [hnested] at hp
      dsimp only at hp
      split at hp
      · cases hp
        exact DrawM.run_ofStore _ w
      · rename_i hnode
        cases hp
        exact settles_text (htakes.written _ List.mem_cons_self) fun n hn => hnode n hn

end Expand

section TextContent

/-- Texts in a row, or the first failure among them. -/
def joined (texts : List (Except Fault String)) : Except Fault String := do
  return String.join (← texts.mapM id)

theorem joined_singleton (x : Except Fault String) : joined [x] = x := by
  cases x with
  | ok s => simp [joined, String.join]
  | error f => rfl

theorem joined_append (xs ys : List (Except Fault String)) :
    joined (xs ++ ys) = (do return (← joined xs) ++ (← joined ys)) := by
  unfold joined
  rw [List.mapM_append]
  cases xs.mapM id with
  | error f => rfl
  | ok a =>
    cases ys.mapM id with
    | error f => rfl
    | ok b => exact congrArg Except.ok (String.join_append)

mutual

theorem contentTexts_item (w : World) (rest : List Item) : (p : Piece) →
    Node.contentTexts (w.item p :: rest) = (do
      let s ← joined (w.texts p)
      return .ok s :: (← Node.contentTexts rest))
  | .span spec content => by
    rw [World.item, World.texts, ← joinTexts_items w 0 content]
    rw [Node.contentTexts, Node.textContent]
  | .node n => by
    rw [World.item, World.texts, joined_singleton, Node.contentTexts]
  | .text v => by
    rw [World.item, World.texts, joined_singleton, Node.contentTexts]
    rfl

theorem joinTexts_items (w : World) (i : Nat) : (ps : List Piece) →
    (do Node.joinTexts i (← Node.contentTexts (w.items ps))) = joined (w.textsAll ps)
  | [] => rfl
  | p :: rest => by
    rw [World.items, World.textsAll, contentTexts_item, joined_append, ← joinTexts_items w (i + 1) rest]
    cases joined (w.texts p) with
    | error f => rfl
    | ok s =>
      cases Node.contentTexts (w.items rest) with
      | error f => rfl
      | ok texts => rfl

end

end TextContent

/-- The label as it is built under a limit on how deep its content may be nested. -/
def buildLabelIn (limit : Nat) (label : Value) (spec : DrawM Spec) (content : List Value) : DrawM Node := do
  let attrs ← resolve (← spec)
  let text ← label.plain
  return .mk (.str "text") attrs (.text text :: (← expandIn limit content))

theorem buildLabel_eq (label : Value) (spec : DrawM Spec) (content : List Value) :
    buildLabel label spec content = buildLabelIn nestingLimit label spec content := rfl

section Label

variable {w : World} {spec : Value} {content : List Value} {pieces : List Piece} {depth : Nat}

theorem settles_plain (label : Value) (w : World) :
    Settles w (w.textFailure? label) (w.textOf label) (liftM label.plain : DrawM String) := by
  have hread : reading.Keeps label.plain := Value.keeps_plain label
  unfold Settles World.textFailure? World.textOf
  rw [DrawM.run_ofStore]
  cases hr : label.plain w.store with
  | ok text s =>
    obtain rfl := (hread.of_ok hr).1
    rfl
  | error f s =>
    obtain rfl := (hread.of_error hr).1
    rfl

theorem buildLabelIn_eq (limit : Nat) (label spec : Value) (content : List Value) :
    buildLabelIn limit label (Spec.ofValue spec) content = (do
      let attrs ← resolveValue spec
      let text ← label.plain
      return .mk (.str "text") attrs (.text text :: (← expandIn limit content))) := by
  unfold buildLabelIn resolveValue
  rw [bind_assoc]

theorem settles_buildLabelIn (label : Value) (hspec : w.store.DirectMaps nestingLimit spec)
    (hpieces : w.store.pieces? depth content = some pieces)
    (htakes : w.Takes (Piece.specsAll pieces) (Piece.writtenAll pieces)) :
    Settles w ((w.specFailure? spec).or
        ((w.textFailure? label).or ((Piece.specsAll pieces).findSome? w.specFailure?)))
      (.mk (.str "text") (w.specAttrs spec) (.text (w.textOf label) :: w.items pieces))
      (buildLabelIn depth label (Spec.ofValue spec) content) := by
  rw [buildLabelIn_eq]
  refine (settles_resolveValue hspec).bind ((settles_plain label w).bind ?_)
  exact (settles_expandIn depth content pieces hpieces htakes).map fun items =>
    Node.mk (.str "text") (w.specAttrs spec) (.text (w.textOf label) :: items)

/--
A label is a text node of its own text and of its content: a span for each list or tuple, at its place and
with the attributes of its first item, whatever else there is. It fails in the first specification that does
not resolve, or as its own text does.
-/
theorem buildLabel_pieces (label : Value)
    (hpieces : w.store.pieces? depth content = some pieces)
    (htakes : w.Takes (spec :: Piece.specsAll pieces) (Piece.writtenAll pieces)) :
    let node := .mk (.str "text") (w.specAttrs spec) (.text (w.textOf label) :: w.items pieces)
    (w.textFailure? label = none →
      (∀ limit ≥ depth, Settles w ((spec :: Piece.specsAll pieces).findSome? w.specFailure?) node
        (buildLabelIn limit label (Spec.ofValue spec) content)) ∧
      (depth ≤ nestingLimit → Settles w ((spec :: Piece.specsAll pieces).findSome? w.specFailure?) node
        (buildLabel label (Spec.ofValue spec) content))) ∧
    (∀ f, w.textFailure? label = some f → ∀ limit,
      buildLabelIn limit label (Spec.ofValue spec) content w = .error ((w.specFailure? spec).getD f) w) ∧
    node.textContent = (do return w.textOf label ++ (← joined (w.textsAll pieces))) := by
  have hspec := htakes.specs spec List.mem_cons_self
  have hcontent : w.Takes (Piece.specsAll pieces) (Piece.writtenAll pieces) :=
    ⟨fun v hv => htakes.specs v (List.mem_cons_of_mem _ hv), htakes.written⟩
  refine ⟨fun htext => ?_, fun f hf limit => ?_, ?_⟩
  · have hwithin : ∀ limit ≥ depth, Settles w ((spec :: Piece.specsAll pieces).findSome? w.specFailure?)
        (.mk (.str "text") (w.specAttrs spec) (.text (w.textOf label) :: w.items pieces))
        (buildLabelIn limit label (Spec.ofValue spec) content) := by
      intro limit hlimit
      have hgives := settles_buildLabelIn label hspec (w.store.pieces?_mono hlimit hpieces) hcontent
      rwa [htext, Option.none_or, ← findSome?_cons_or] at hgives
    refine ⟨hwithin, fun hdepth => ?_⟩
    rw [buildLabel_eq]
    exact hwithin nestingLimit hdepth
  · have hresolved := settles_resolveValue hspec
    have hwritten := settles_plain label w
    rw [hf] at hwritten
    rw [buildLabelIn_eq]
    cases hfailure : w.specFailure? spec with
    | some e =>
      rw [hfailure] at hresolved
      exact Run.bind_error hresolved
    | none =>
      rw [hfailure] at hresolved
      rw [Run.bind_ok hresolved]
      exact Run.bind_error hwritten
  · have htexts := joinTexts_items w 1 pieces
    rw [← htexts, Node.textContent, Node.contentTexts]
    cases Node.contentTexts (w.items pieces) with
    | error f => rfl
    | ok texts => rfl

/-- A drawing with a list that stands for a span, and in it an empty tuple for another. -/
def spanWorld : World :=
  { World.initial {} with store := ⟨#[.list #[.str "bold", .str "b", .tuple #[], .str "c"]]⟩ }

def spanPieces : List Piece :=
  [.span (.str "bold") [.text (.str "b"), .span .none [], .text (.str "c")], .text (.str "d")]

theorem buildLabel_pieces_spans :
    spanWorld.Takes [.str "plain", .str "bold", .none] [.str "b", .str "c", .str "d"] ∧
    buildLabel (.str "a") (Spec.ofValue (.str "plain")) [.list 0, .str "d"] spanWorld =
      .ok (.mk (.str "text") [(.str "font-size", .int 18), (.str "font-family", serifFamily)]
        [.text "a", .node (.mk (.str "tspan") [(.str "font-weight", .str "bold")]
          [.text "b", .node (.mk (.str "tspan") [] []), .text "c"]), .text "d"]) spanWorld := by
  have htakes : spanWorld.Takes [.str "plain", .str "bold", .none] [.str "b", .str "c", .str "d"] := by
    constructor
    · simp only [List.forall_mem_cons]
      exact ⟨trivial, trivial, trivial, nofun⟩
    · simp only [List.forall_mem_cons]
      exact ⟨rfl, rfl, rfl, nofun⟩
  have hpieces : spanWorld.store.pieces? 3 [.list 0, .str "d"] = some spanPieces := rfl
  have attrs (v : Value) {a : Attrs} (hleaf : spanWorld.store.specLeaves? nestingLimit v = some [v])
      (ha : spanWorld.resolved [v] = .ok a spanWorld) :
      spanWorld.specFailure? v = none ∧ spanWorld.specAttrs v = a := by
    unfold World.specFailure? World.specAttrs
    have hrun : resolveValue v spanWorld = _ := Spec.run_resolve_of_leaves hleaf
    rw [hrun, ha]
    exact ⟨rfl, rfl⟩
  obtain ⟨hplain, hplain'⟩ := attrs (.str "plain") rfl rfl
  obtain ⟨hbold, hbold'⟩ := attrs (.str "bold") rfl rfl
  obtain ⟨hnone, hnone'⟩ := attrs .none rfl rfl
  have hlabel := ((buildLabel_pieces (.str "a") hpieces htakes).1 rfl).2 (by decide)
  have hfailure : [.str "plain", .str "bold", .none].findSome? spanWorld.specFailure? = none := by
    simp [hplain, hbold, hnone]
  refine ⟨htakes, hlabel.trans ?_⟩
  have hspecs : Piece.specsAll spanPieces = [.str "bold", .none] := rfl
  rw [hspecs, hfailure]
  simp only [spanPieces, World.items, World.item, hplain', hbold', hnone']
  rfl

end Label
end WireSketch
