import WireSketch.Proofs.Drawing.Merge
import WireSketch.Proofs.Drawing.Unmoved

/-!
Specifications by their leaves. However lists and tuples are nested, what counts is which maps and names they
hold from left to right.
-/
namespace WireSketch
open Contract

namespace Store

def parts? (s : Store) : Value → Option (List Value)
  | .tuple xs => some xs.toList
  | .list r => some ((s.list? r).getD #[]).toList
  | _ => none

def entries (s : Store) (r : Ref) : Attrs :=
  match s.cells[r]? with
  | some (.dict d) => d.entries.toList
  | _ => []

end Store

namespace Value

def isSpec : Value → Bool
  | emptySpec | directSpec _ | namedSpec _ | compositeSpec _ => true
  | _ => false

/-- Has the value a meaning as a specification without parts? -/
def isSpecLeaf : Value → Bool
  | none | dict _ | str _ => true
  | _ => false

end Value

/-- The leaves of nested tuples and lists, left to right; none if they are nested too deep. -/
def Store.specLeaves? (s : Store) : Nat → Value → Option (List Value)
  | 0, _ => none
  | fuel + 1, v =>
    match s.parts? v with
    | some parts => (parts.mapM (s.specLeaves? fuel)).map List.flatten
    | none => if v.isSpec then none else some [v]

theorem mapM_some_of_imp {α β : Type} {f g : α → Option β} (h : ∀ a b, f a = some b → g a = some b) :
    (xs : List α) → (ys : List β) → xs.mapM f = some ys → xs.mapM g = some ys
  | [], _, hys => hys
  | x :: xs, ys, hys => by
    rw [List.mapM_cons] at hys ⊢
    obtain ⟨y, hy, hys⟩ := Option.bind_eq_some_iff.mp hys
    obtain ⟨rest, hrest, hys⟩ := Option.bind_eq_some_iff.mp hys
    exact Option.bind_eq_some_iff.mpr ⟨y, h x y hy,
      Option.bind_eq_some_iff.mpr ⟨rest, mapM_some_of_imp h xs rest hrest, hys⟩⟩

theorem Store.specLeaves?_succ (s : Store) : (fuel : Nat) → (v : Value) → (leaves : List Value) →
    s.specLeaves? fuel v = some leaves → s.specLeaves? (fuel + 1) v = some leaves
  | 0, _, _, h => by cases h
  | fuel + 1, v, leaves, h => by
    unfold specLeaves? at h ⊢
    split
    · rename_i parts hparts
      rw [hparts] at h
      obtain ⟨found, hfound, hleaves⟩ := Option.map_eq_some_iff.mp h
      exact Option.map_eq_some_iff.mpr
        ⟨found, mapM_some_of_imp (s.specLeaves?_succ fuel) parts found hfound, hleaves⟩
    · rename_i hparts
      rw [hparts] at h
      exact h

theorem Store.specLeaves?_mono (s : Store) {depth limit : Nat} {v : Value} {leaves : List Value}
    (hlimit : depth ≤ limit) (h : s.specLeaves? depth v = some leaves) :
    s.specLeaves? limit v = some leaves := by
  induction hlimit with
  | refl => exact h
  | step _ ih => exact s.specLeaves?_succ _ v leaves ih

section Groups

variable {s : Store} {x y z v : Value} {leaves lx ly lz : List Value} {fuel : Nat}

theorem Store.of_specLeaves?_pair (hparts : s.parts? v = some [x, y])
    (h : s.specLeaves? fuel v = some leaves) :
    ∃ n lx ly, fuel = n + 1 ∧ s.specLeaves? n x = some lx ∧ s.specLeaves? n y = some ly ∧
      leaves = lx ++ ly := by
  cases fuel with
  | zero => cases h
  | succ n =>
    unfold specLeaves? at h
    rw [hparts] at h
    obtain ⟨found, hfound, rfl⟩ := Option.map_eq_some_iff.mp h
    cases hx : s.specLeaves? n x with
    | none => simp [hx] at hfound
    | some lx =>
      cases hy : s.specLeaves? n y with
      | none => simp [hx, hy] at hfound
      | some ly =>
        obtain rfl : [lx, ly] = found := by simpa [hx, hy] using hfound
        exact ⟨n, lx, ly, rfl, hx, hy, by simp⟩

theorem Store.specLeaves?_triple (hparts : s.parts? v = some [x, y, z]) (hx : s.specLeaves? fuel x = some lx)
    (hy : s.specLeaves? fuel y = some ly) (hz : s.specLeaves? fuel z = some lz) :
    s.specLeaves? (fuel + 1) v = some (lx ++ (ly ++ lz)) := by
  unfold specLeaves?
  rw [hparts]
  simp [hx, hy, hz]

/-- A group of two neighbours has their leaves at its place. -/
theorem Store.specLeaves?_regrouped {group row : Value} (h : s.specLeaves? fuel v = some leaves)
    (hrow : s.parts? row = some [x, y, z])
    (hgroups : s.parts? v = some [x, group] ∧ s.parts? group = some [y, z] ∨
      s.parts? v = some [group, z] ∧ s.parts? group = some [x, y]) :
    s.specLeaves? fuel row = some leaves := by
  rcases hgroups with ⟨hv, hgroup⟩ | ⟨hv, hgroup⟩
  · obtain ⟨n, lx, rest, rfl, hx, hrest, rfl⟩ := of_specLeaves?_pair hv h
    obtain ⟨m, ly, lz, rfl, hy, hz, rfl⟩ := of_specLeaves?_pair hgroup hrest
    exact specLeaves?_triple hrow hx (s.specLeaves?_succ m y ly hy) (s.specLeaves?_succ m z lz hz)
  · obtain ⟨n, first, lz, rfl, hfirst, hz, rfl⟩ := of_specLeaves?_pair hv h
    obtain ⟨m, lx, ly, rfl, hx, hy, rfl⟩ := of_specLeaves?_pair hgroup hfirst
    rw [List.append_assoc]
    exact specLeaves?_triple hrow (s.specLeaves?_succ m x lx hx) (s.specLeaves?_succ m y ly hy) hz

end Groups

namespace World

/-- How a value without a meaning is refused: with its text, or as its text fails. -/
def refusal (w : World) (v : Value) (e : String → DiagramError) : Failure :=
  match v.shown w.store with
  | .ok text _ => .diagram (e text)
  | .error f _ => .fault f

def styleAttrs (w : World) : Style → Attrs
  | .own a _ => a
  | .shared r => w.store.entries r

def leafAttrs (w : World) : Value → Attrs
  | .dict r => w.store.entries r
  | .str name => ((Styles.find? name w.styles).map w.styleAttrs).getD []
  | _ => []

/-- The name that a leaf is, if there is no such style. -/
def unregistered? (w : World) : Value → Option String
  | .str name => if (Styles.find? name w.styles).isNone then some name else none
  | _ => none

/--
What leaves in a row resolve to. The first without a meaning is refused before any name is looked up, then
the first name without a style.
-/
def resolved (w : World) (leaves : List Value) : EStateM.Result Failure World Attrs :=
  match leaves.find? (!·.isSpecLeaf) with
  | some bad => .error (w.refusal bad .badSpec) w
  | none =>
    match leaves.findSome? w.unregistered? with
    | some name => .error (.diagram (.unknownStyle name)) w
    | none => .ok (Attrs.union (leaves.flatMap w.leafAttrs)) w

section Maps

variable (w : World)

theorem isMap_entries (r : Ref) : Attrs.IsMap (w.store.entries r) := by
  unfold Store.entries
  split
  · rename_i d _
    exact d.isMap
  · exact .nil

theorem isMap_styleAttrs (s : Style) : (w.styleAttrs s).IsMap := by
  cases s with
  | own a h => exact h
  | shared r => exact w.isMap_entries r

theorem isMap_leafAttrs (v : Value) : (w.leafAttrs v).IsMap := by
  unfold leafAttrs
  split
  · exact w.isMap_entries _
  · rename_i name
    cases Styles.find? name w.styles with
    | none => exact .nil
    | some s => exact w.isMap_styleAttrs s
  · exact .nil

end Maps

end World

namespace StoreM

theorem run_getDict (s : Store) (r : Ref) :
    ∃ d : Dict, getDict r s = .ok d s ∧ d.entries.toList = s.entries r := by
  have hget : (get : StoreM Store) s = .ok s s := rfl
  unfold getDict Store.entries
  rw [Run.bind_ok hget]
  cases s.cells[r]? with
  | none => exact ⟨_, rfl, rfl⟩
  | some c => cases c <;> exact ⟨_, rfl, rfl⟩

end StoreM

section Resolve

variable {w : World}

theorem run_refuseShown {α : Type} (v : Value) (e : String → DiagramError) (w : World) :
    (do DrawM.refuse (e (← v.shown)) : DrawM α) w = .error (w.refusal v e) w := by
  have hread : reading.Keeps v.shown := Value.keeps_shown v
  have hrun := DrawM.run_ofStore v.shown w
  unfold World.refusal
  cases hs : v.shown w.store with
  | ok text s =>
    obtain rfl := (hread.of_ok hs).1
    rw [hs] at hrun
    exact Run.bind_ok hrun
  | error f s =>
    obtain rfl := (hread.of_error hs).1
    rw [hs] at hrun
    exact Run.bind_error hrun

theorem run_entriesOf (r : Ref) (w : World) :
    (liftM (entriesOf (.dict r)) : DrawM Attrs) w = .ok (w.store.entries r) w := by
  obtain ⟨d, hd, hentries⟩ := StoreM.run_getDict w.store r
  have hrun : entriesOf (.dict r) w.store = .ok (w.store.entries r) w.store := by
    rw [← hentries]
    exact Run.bind_ok hd
  rw [DrawM.run_ofStore, hrun]

section Maps

variable {a : Attrs}

theorem isMap_of_entriesOf {v : Value} {s t : Store} (h : entriesOf v s = .ok a t) : a.IsMap := by
  unfold entriesOf at h
  split at h
  · obtain ⟨d, _, -, h⟩ := Run.of_bind_ok h
    cases h
    exact d.isMap
  · obtain ⟨d, _, -, h⟩ := Run.of_bind_ok h
    cases h
    exact d.isMap

theorem isMap_of_styleAttrs {s : Style} {t u : Store} (h : s.attrs t = .ok a u) : a.IsMap := by
  cases s with
  | own b distinct =>
    cases h
    exact distinct
  | shared r =>
    have hentries : entriesOf (.dict r) t = .ok a u := h
    exact isMap_of_entriesOf hentries

mutual

/-- What a specification resolves to is a map. -/
theorem isMap_of_resolve {t : World} : (s : Spec) → {w : World} → resolve s w = .ok a t → a.IsMap
  | .empty, _, h => by
    cases h
    exact .nil
  | .own b distinct, _, h => by
    cases h
    exact distinct
  | .direct m, _, h => by
    obtain ⟨_, hentries, -⟩ := DrawM.of_ofStore_ok h
    exact isMap_of_entriesOf hentries
  | .named k, _, h => by
    obtain ⟨s, _, -, hattrs⟩ := Run.of_bind_ok h
    obtain ⟨_, hstyle, -⟩ := DrawM.of_ofStore_ok hattrs
    exact isMap_of_styleAttrs hstyle
  | .composite parts, _, h => isMap_of_resolveAll parts .nil h
  | .refused _, _, h => by cases h

theorem isMap_of_resolveAll {t : World} : (parts : List Spec) → {merged : Attrs} → {w : World} →
    merged.IsMap → resolveAll parts merged w = .ok a t → a.IsMap
  | [], _, _, hm, h => by
    cases h
    exact hm
  | s :: rest, _, _, hm, h => by
    obtain ⟨b, _, -, hrest⟩ := Run.of_bind_ok h
    exact isMap_of_resolveAll rest (hm.merge b) hrest

end

theorem isMap_of_resolveValue {v : Value} {w t : World} (h : resolveValue v w = .ok a t) : a.IsMap := by
  obtain ⟨s, _, -, hresolve⟩ := Run.of_bind_ok h
  exact isMap_of_resolve s hresolve

end Maps

theorem run_lookupStyle (name : String) (w : World) : lookupStyle (.str name) w =
    match Styles.find? name w.styles with
    | some s => .ok s w
    | none => .error (.diagram (.unknownStyle name)) w := by
  have hkey : Value.key (.str name) = .ok ("s" ++ name) := by simp [Value.key]
  have hhashed : (liftM (Value.key (.str name)) : DrawM Key) w = .ok ("s" ++ name) w := by
    rw [hkey]
    rfl
  have hget : (get : DrawM World) w = .ok w w := rfl
  unfold lookupStyle
  rw [Run.bind_ok hhashed]
  dsimp only
  rw [Run.bind_ok hget]
  cases Styles.find? name w.styles with
  | some s => rfl
  | none => rfl

theorem run_styleAttrs (s : Style) (w : World) : (liftM s.attrs : DrawM Attrs) w = .ok (w.styleAttrs s) w := by
  cases s with
  | own a _ => rfl
  | shared r => exact run_entriesOf r w

theorem run_resolve_name (name : String) : resolve (.named (.str name)) w =
    match w.unregistered? (.str name) with
    | some name => .error (.diagram (.unknownStyle name)) w
    | none => .ok (w.leafAttrs (.str name)) w := by
  have hlookup := run_lookupStyle name w
  unfold resolve World.unregistered? World.leafAttrs
  dsimp only
  cases hfound : Styles.find? name w.styles with
  | none =>
    rw [hfound] at hlookup
    exact Run.bind_error hlookup
  | some s =>
    rw [hfound] at hlookup
    rw [Run.bind_ok hlookup]
    exact run_styleAttrs s w

end Resolve

namespace Spec

def ofLeaf : Value → Spec
  | .dict r => direct (.dict r)
  | .str name => named (.str name)
  | _ => empty

mutual

def flat : Spec → List Spec
  | composite parts => flatAll parts
  | s => [s]

def flatAll : List Spec → List Spec
  | [] => []
  | s :: rest => flat s ++ flatAll rest

end

variable {w : World} {α : Type} {leaves : List Value}

def Converts (w : World) (leaves : List Value) (parts : α → List Spec) (x : DrawM α) : Prop :=
  match leaves.find? (!·.isSpecLeaf) with
  | some bad => x w = .error (w.refusal bad .badSpec) w
  | none => ∃ a, x w = .ok a w ∧ parts a = leaves.map ofLeaf

theorem Converts.cons {x : DrawM Spec} {y : DrawM (List Spec)} {others : List Value}
    (hx : Converts w leaves flat x) (hy : Converts w others flatAll y) :
    Converts w (leaves ++ others) flatAll (do return (← x) :: (← y)) := by
  unfold Converts at hx hy ⊢
  rw [List.find?_append]
  cases hfirst : leaves.find? (!·.isSpecLeaf) with
  | some bad =>
    rw [hfirst] at hx
    exact Run.bind_error hx
  | none =>
    rw [hfirst] at hx
    obtain ⟨spec, hspec, hparts⟩ := hx
    rw [Option.none_or]
    cases hnext : others.find? (!·.isSpecLeaf) with
    | some bad =>
      rw [hnext] at hy
      exact (Run.bind_ok hspec).trans (Run.bind_error hy)
    | none =>
      rw [hnext] at hy
      obtain ⟨rest, hrest, hall⟩ := hy
      refine ⟨spec :: rest, (Run.bind_ok hspec).trans (Run.bind_ok hrest), ?_⟩
      rw [flatAll, hparts, hall, List.map_append]

theorem Converts.mapM {f : Value → DrawM Spec} {leavesOf : Value → Option (List Value)}
    (hf : ∀ v leaves, leavesOf v = some leaves → Converts w leaves flat (f v)) :
    (parts : List Value) → (found : List (List Value)) → parts.mapM leavesOf = some found →
      Converts w found.flatten flatAll (parts.mapM f)
  | [], found, h => by
    cases h
    exact ⟨[], rfl, rfl⟩
  | v :: rest, found, h => by
    rw [List.mapM_cons, Option.bind_eq_bind, Option.bind_eq_some_iff] at h
    obtain ⟨leaves, hv, h⟩ := h
    obtain ⟨others, hrest, h⟩ := Option.bind_eq_some_iff.mp h
    cases h
    rw [List.mapM_cons]
    exact (hf v leaves hv).cons (Converts.mapM hf rest others hrest)

/-- A list of parts is converted as its parts are. -/
theorem Converts.composite {x : DrawM (List Spec)} (hx : Converts w leaves flatAll x) :
    Converts w leaves flat (do return .composite (← x)) := by
  unfold Converts at hx ⊢
  cases hfirst : leaves.find? (!·.isSpecLeaf) with
  | some bad =>
    rw [hfirst] at hx
    exact Run.bind_error hx
  | none =>
    rw [hfirst] at hx
    obtain ⟨specs, hspecs, hall⟩ := hx
    exact ⟨.composite specs, Run.bind_ok hspecs, hall⟩

/-- A value without parts is its only leaf. -/
theorem converts_leaf {v : Value} (fuel : Nat) (hparts : w.store.parts? v = none) (hv : v.isSpec = false) :
    Converts w [v] flat (ofValueIn (fuel + 1) v) := by
  have refused (hbad : v.isSpecLeaf = false)
      (hrun : ofValueIn (fuel + 1) v = (do DrawM.refuse (.badSpec (← v.shown)))) :
      Converts w [v] flat (ofValueIn (fuel + 1) v) := by
    unfold Converts
    rw [List.find?_cons_of_pos (by rw [hbad]; rfl), hrun]
    exact run_refuseShown v _ w
  cases v with
  | none => exact ⟨.empty, rfl, rfl⟩
  | dict r => exact ⟨.direct (.dict r), rfl, rfl⟩
  | str name => exact ⟨.named (.str name), rfl, rfl⟩
  | tuple xs => cases hparts
  | list r => cases hparts
  | emptySpec | directSpec _ | namedSpec _ | compositeSpec _ => cases hv
  | _ => exact refused rfl rfl

theorem converts_ofValueIn : (fuel : Nat) → (v : Value) → (leaves : List Value) →
    w.store.specLeaves? fuel v = some leaves → Converts w leaves flat (ofValueIn fuel v)
  | 0, _, _, h => by cases h
  | fuel + 1, v, leaves, h => by
    unfold Store.specLeaves? at h
    cases hparts : w.store.parts? v with
    | none =>
      rw [hparts] at h
      dsimp only at h
      split at h
      · cases h
      · rename_i hv
        cases h
        exact converts_leaf fuel hparts (by simpa using hv)
    | some parts =>
      rw [hparts] at h
      obtain ⟨found, hfound, rfl⟩ := Option.map_eq_some_iff.mp h
      have hall := (Converts.mapM (converts_ofValueIn fuel) parts found hfound).composite
      cases v with
      | tuple xs =>
        cases hparts
        exact hall
      | list r =>
        cases hparts
        have hrun : ofValueIn (fuel + 1) (.list r) w = (do
            return .composite (← ((w.store.list? r).getD #[]).toList.mapM (ofValueIn fuel)) : DrawM Spec) w :=
          Run.bind_ok (DrawM.run_getList r w)
        unfold Converts at hall ⊢
        rwa [hrun]
      | _ => cases hparts

/-- What resolves as leaves in a row do. -/
def ResolvesTo (w : World) (leaves : List Value) (before : Attrs) (x : DrawM Attrs) : Prop :=
  x w = match leaves.findSome? w.unregistered? with
    | some name => .error (.diagram (.unknownStyle name)) w
    | none => .ok (Attrs.union (before ++ leaves.flatMap w.leafAttrs)) w

theorem resolvesTo_leaf {v : Value} (hv : v.isSpecLeaf) :
    ResolvesTo w [v] [] (resolve (ofLeaf v)) := by
  unfold ResolvesTo
  rw [List.nil_append, List.flatMap_singleton, (w.isMap_leafAttrs v).union_eq]
  cases v with
  | none => rfl
  | dict r => exact run_entriesOf r w
  | str name =>
    rw [ofLeaf, run_resolve_name, List.findSome?_singleton]
  | _ => cases hv

/-- A specification without parts is the only leaf. -/
theorem resolvesTo_single {spec : Spec} (hleaves : ∀ leaf ∈ leaves, leaf.isSpecLeaf)
    (h : [spec] = leaves.map ofLeaf) : ResolvesTo w leaves [] (resolve spec) := by
  obtain ⟨leaf, rfl, rfl⟩ := List.map_eq_singleton_iff.mp h.symm
  exact resolvesTo_leaf (hleaves leaf List.mem_cons_self)

mutual

theorem resolvesTo_flat : (spec : Spec) → (leaves : List Value) →
    (∀ leaf ∈ leaves, leaf.isSpecLeaf) → spec.flat = leaves.map ofLeaf → ResolvesTo w leaves [] (resolve spec)
  | .composite parts, leaves, hleaves, h => resolvesTo_flatAll parts leaves hleaves h []
  | .empty, _, hleaves, h => resolvesTo_single hleaves h
  | .own _ _, _, hleaves, h => resolvesTo_single hleaves h
  | .direct _, _, hleaves, h => resolvesTo_single hleaves h
  | .named _, _, hleaves, h => resolvesTo_single hleaves h
  | .refused _, _, hleaves, h => resolvesTo_single hleaves h

/-- Parts are merged into what has been merged before. -/
theorem resolvesTo_flatAll : (parts : List Spec) → (leaves : List Value) →
    (∀ leaf ∈ leaves, leaf.isSpecLeaf) → flatAll parts = leaves.map ofLeaf → (before : Attrs) →
      ResolvesTo w leaves before (resolveAll parts before.union)
  | [], leaves, _, h, before => by
    obtain rfl := List.map_eq_nil_iff.mp h.symm
    unfold ResolvesTo
    rw [List.flatMap_nil, List.append_nil]
    rfl
  | spec :: rest, leaves, hleaves, h, before => by
    obtain ⟨first, others, rfl, hfirst, hothers⟩ := List.map_eq_append_iff.mp h.symm
    obtain ⟨hleft, hright⟩ := List.forall_mem_append.mp hleaves
    have hspec := resolvesTo_flat spec first hleft hfirst.symm
    have hrest := resolvesTo_flatAll rest others hright hothers.symm (before ++ first.flatMap w.leafAttrs)
    unfold ResolvesTo at hspec hrest ⊢
    rw [List.findSome?_append]
    unfold resolveAll
    cases hname : first.findSome? w.unregistered? with
    | some name =>
      rw [hname] at hspec
      exact Run.bind_error hspec
    | none =>
      rw [hname] at hspec
      rw [Run.bind_ok hspec, List.nil_append, Attrs.merge_union, hrest, Option.none_or, List.flatMap_append,
        List.append_assoc]

end

theorem run_resolve_of_leaves {v : Value} {limit : Nat}
    (hleaves : w.store.specLeaves? limit v = some leaves) :
    (do resolve (← ofValueIn limit v)) w = w.resolved leaves := by
  have hconverts := converts_ofValueIn limit v leaves hleaves
  unfold Converts at hconverts
  unfold World.resolved
  cases hbad : leaves.find? (!·.isSpecLeaf) with
  | some bad =>
    rw [hbad] at hconverts
    exact Run.bind_error hconverts
  | none =>
    rw [hbad] at hconverts
    obtain ⟨spec, hspec, hparts⟩ := hconverts
    have hgood : ∀ leaf ∈ leaves, leaf.isSpecLeaf := by simpa using hbad
    exact (Run.bind_ok hspec).trans (resolvesTo_flat spec leaves hgood hparts)

/--
Nested specifications resolve as their leaves in a row do, under any limit on nesting that they keep to.
However three parts are grouped, they resolve to one map or fail in one way.
-/
theorem resolve_leaves :
    (∀ (v : Value) (depth : Nat) (leaves : List Value), w.store.specLeaves? depth v = some leaves →
      (∀ limit ≥ depth, (do resolve (← ofValueIn limit v)) w = w.resolved leaves) ∧
      (depth ≤ nestingLimit → resolveValue v w = w.resolved leaves)) ∧
    ∀ (a b c group tree row : Value) (limit : Nat), (w.store.specLeaves? limit tree).isSome →
      w.store.parts? row = some [a, b, c] →
      (w.store.parts? tree = some [a, group] ∧ w.store.parts? group = some [b, c] ∨
        w.store.parts? tree = some [group, c] ∧ w.store.parts? group = some [a, b]) →
        (do resolve (← ofValueIn limit tree)) w = (do resolve (← ofValueIn limit row)) w := by
  refine ⟨fun v depth leaves hleaves => ⟨fun limit hlimit => ?_, fun hdepth => ?_⟩, ?_⟩
  · exact run_resolve_of_leaves (w.store.specLeaves?_mono hlimit hleaves)
  · exact run_resolve_of_leaves (w.store.specLeaves?_mono hdepth hleaves)
  · intro a b c group tree row limit htree hrow hgroups
    obtain ⟨leaves, htree⟩ := Option.isSome_iff_exists.mp htree
    have hrowLeaves : w.store.specLeaves? limit row = some leaves :=
      Store.specLeaves?_regrouped htree hrow hgroups
    rw [run_resolve_of_leaves htree, run_resolve_of_leaves hrowLeaves]

/-- A drawing with a list of a style, of a map, and of another style. -/
def nestedWorld : World :=
  { World.initial {} with
    store := ⟨#[.list #[.str "bold", .tuple #[.dict 1, .str "hex"]],
      .dict (.ofDistinct [(.str "font-size", .int 20)] (List.pairwise_singleton _ _))]⟩ }

theorem resolve_leaves_nested : resolveValue (.list 0) nestedWorld =
    .ok [(.str "font-weight", .str "bold"), (.str "font-size", .int 18), (.str "font-family", monoFamily)]
      nestedWorld :=
  (resolve_leaves.1 (.list 0) 3 [.str "bold", .dict 1, .str "hex"] rfl).2 (by decide)

end Spec
end WireSketch
