import WireSketch.Proofs.Call.Builtin
import WireSketch.Proofs.Drawing.Cursor
import WireSketch.Call.Primitive

/-! Calls of functions under a contract that lets them draw, move the cursor and meet their own limits. -/
namespace WireSketch
open Contract

def Primitive.drawsBox : Primitive → Bool
  | .drawBox | .drawGroupLabelHeader => true
  | _ => false

def Primitive.movesCursor : Primitive → Bool
  | .drawColumnHeaders | .nextRow | .drawBox | .drawGroupLabelHeader | .drawGap => true
  | _ => false

/-- The part of a node that a function looks up in its first argument. -/
def Primitive.nodePart : Primitive → Option String
  | .mergeAttrs | .addAttrs | .setContent | .addContent => some "tag"
  | .getAttrs => some "attrs"
  | .getContent => some "content"
  | _ => none

/-- The contract allows the fault of a look for a part of a node in what is no node. -/
def Contract.Lacks (C : Contract Failure World) (v : Value) (part : String) : Prop :=
  (∀ n, v ≠ .node n) → C.fails (.fault (v.memberFault part))

/-- The contract allows the fault of a function whose first argument is no node. -/
def Contract.Misses (C : Contract Failure World) (p : Primitive) (b : Bound) : Prop :=
  ∀ part v, p.nodePart = some part → b.values.head? = some v → C.Lacks v part

namespace Contract.Resolving

variable {C : Contract Failure World}

theorem keeps_toNode {part : String} {v : Value} (h : C.Lacks v part) : C.Keeps (v.toNode part) := by
  unfold Value.toNode
  split
  · exact keeps_pure _
  · exact yields_throw (h (by assumption))

variable {node : Value}

theorem keeps_mergeAttrs (hC : C.Resolving) (hn : C.Lacks node "tag") (attrs : Value) :
    C.Keeps (mergeAttrs node attrs) :=
  (keeps_toNode hn).bind fun _ => (hC.keeps_ofStore (keeps_mappingEntries attrs)).bind fun _ =>
    keeps_pure _

theorem keeps_addAttrs (hn : C.Lacks node "tag") (keywords : List (String × Value)) :
    C.Keeps (addAttrs node keywords) := (keeps_toNode hn).bind fun _ => keeps_pure _

theorem keeps_getAttrs (hC : C.Resolving) (hn : C.Lacks node "attrs") : C.Keeps (getAttrs node) := by
  have made (entries : Attrs) : C.Keeps (do
      StoreM.newDict (← (Dict.ofPairs entries : Except Fault Dict)) : DrawM Value) :=
    (hC.keeps_ofExcept (Dict.civil_ofPairs entries)).bind fun d =>
      hC.keeps_ofStore (StoreM.keeps_newDict d)
  unfold getAttrs
  split
  · exact (hC.keeps_ofStore (keeps_entriesOf _)).bind made
  · exact (keeps_toNode hn).bind fun _ => (keeps_pure _).bind made

theorem keeps_getContent (hC : C.Resolving) (hn : C.Lacks node "content") :
    C.Keeps (getContent node) :=
  (keeps_toNode hn).bind fun _ => hC.keeps_ofStore (StoreM.keeps_newList _)

theorem keeps_setContent (hC : C.Resolving) (hn : C.Lacks node "tag") (content : List Value) :
    C.Keeps (setContent node content) :=
  (keeps_toNode hn).bind fun _ =>
    (hC.keeps_ofStore (Node.keeps_contentItems content)).bind fun _ => keeps_pure _

theorem keeps_addContent (hC : C.Resolving) (hn : C.Lacks node "tag") (content : List Value) :
    C.Keeps (addContent node content) :=
  (keeps_toNode hn).bind fun _ =>
    (hC.keeps_ofStore (Node.keeps_contentItems content)).bind fun _ => keeps_pure _

/-- The functions that act on no diagram make and change nodes, and the containers that nodes are made of. -/
theorem keeps_perform (hC : C.Resolving) {p : Primitive} {b : Bound} (hp : p.ofDiagram = false)
    (hm : C.Misses p b) : C.Keeps (p.perform b) := by
  have lacks {node : Value} {rest : List Value} (hb : b.values = node :: rest) (part : String)
      (hpart : p.nodePart = some part) : C.Lacks node part := hm part node hpart (hb ▸ rfl)
  unfold Primitive.perform
  split <;> try cases hp
  · exact keeps_pure _
  · exact keeps_pure _
  · exact keeps_pure _
  · exact keeps_pure _
  · exact keeps_pure _
  · exact hC.keeps_ofStore (keeps_polygon _ _)
  · exact hC.keeps_ofStore (keeps_container _ _ _)
  · exact hC.keeps_ofStore (keeps_container _ _ _)
  · exact hC.keeps_ofStore (keeps_container _ _ _)
  · exact hC.keeps_mergeAttrs (lacks ‹_› _ rfl) _
  · exact keeps_addAttrs (lacks ‹_› _ rfl) _
  · exact hC.keeps_getAttrs (lacks ‹_› _ rfl)
  · exact hC.keeps_getContent (lacks ‹_› _ rfl)
  · exact hC.keeps_setContent (lacks ‹_› _ rfl) _
  · exact hC.keeps_addContent (lacks ‹_› _ rfl) _
  · exact keeps_pure _

end Contract.Resolving

def Contract.AllowsRegistration (C : Contract Failure World) : Prop :=
  ∀ key map, C.Keeps (registerAttrs key map)

namespace Contract.Sketching

variable {C : Contract Failure World}

/-- A function of which nothing is returned. -/
theorem keeps_done {x : DrawM Unit} (hx : C.Keeps x) :
    C.Keeps (do x; return .none : DrawM Value) := hx.bind fun _ => keeps_pure _

/-- A function that makes a node. -/
theorem keeps_made {x : DrawM Node} (hx : C.Keeps x) :
    C.Keeps (do return .node (← x) : DrawM Value) := hx.bind fun _ => keeps_pure _

theorem keeps_perform (hC : C.Sketching) {p : Primitive} {b : Bound} (hp : p.movesCursor = false)
    (hm : C.Misses p b) (hr : p = .registerAttrs → C.AllowsRegistration) : C.Keeps (p.perform b) := by
  by_cases hd : p.ofDiagram = false
  · exact hC.toResolving.keeps_perform hd hm
  · have hspec := hC.yields_ofValue
    unfold Primitive.perform
    split <;> try first | exact absurd hp (by decide) | exact absurd rfl hd
    · exact keeps_done (hr rfl _ _)
    · exact keeps_done (hC.keeps_append _)
    · exact keeps_done (hC.keeps_drawRowHeader _ _)
    · exact keeps_done (hC.keeps_drawLine _ _ _ _ (hspec _))
    · exact keeps_made (hC.keeps_hexLabel _ _ (hspec _))
    · exact keeps_done hC.keeps_drawBottom
    · exact keeps_made (hC.keeps_buildLabel _ (hspec _) _)
    · exact keeps_made (hC.keeps_buildSpan _ _)
    · exact keeps_pure _

end Contract.Sketching

/-- Where styles may change, they may be registered. -/
theorem Contract.Drawing.keeps_perform {C : Contract Failure World} (hC : C.Drawing) {p : Primitive} {b : Bound}
    (hp : p.movesCursor = false) (hm : C.Misses p b) : C.Keeps (p.perform b) :=
  hC.toSketching.keeps_perform hp hm fun _ => hC.keeps_registerAttrs hC.styles

/-- The contract of functions that compute under limits of their own. -/
structure Contract.Computing (C : Contract Failure World) : Prop extends C.Resolving where
  range : ∀ n, C.fails (.script ⟨.rangeLimit n, none, none⟩)
  format : ∀ spec r, FormatSpec.checkLimits spec = .error r → (∀ f, r ≠ .fault f) →
    C.fails (.script ⟨r, none, none⟩)

/-- The contract also allows changes of the geometry. -/
structure Contract.Shifting (C : Contract Failure World) : Prop extends C.Sketching where
  field : ∀ w f v, C.rel w { w with layout := w.layout.set f v }

/-- The contract of functions that draw and move the cursor; the geometry may change. -/
structure Contract.Moving (C : Contract Failure World) : Prop extends C.Showing, C.Shifting, C.Computing

structure Contract.Calling (C : Contract Failure World) : Prop extends C.Drawing, C.Moving

def Arguments.Passes (a : Arguments) (f : Callable) : Prop := ∃ name, (name, .function f) ∈ a.named

namespace Contract.Computing
open Builtin (Apply)

variable {C : Contract Failure World} {apply : Apply}

theorem keeps_best (hC : C.Computing) {before : Value → Value → StoreM Bool} {key : Value → DrawM Value}
    (hbefore : ∀ x y, civil.Keeps (before x y)) (hkey : ∀ x, C.Keeps (key x)) :
    (items : List Value) → (found : Option (Value × Value)) →
      C.Keeps (Builtin.best before key items found)
  | [], _ => keeps_pure _
  | x :: rest, found => by
    have later := hC.keeps_best hbefore hkey rest
    unfold Builtin.best
    refine (hkey x).bind fun k => ?_
    split
    · exact later _
    · exact (hC.keeps_ofStore (hbefore _ _)).bind fun _ => yields_ite (later _) (later _)

theorem keeps_keyFunction (hC : C.Computing) {key : Option Value}
    (happly : ∀ f, key = some (.function f) → ∀ x, C.Keeps (apply f x)) (x : Value) :
    C.Keeps (Builtin.keyFunction apply key x) := by
  unfold Builtin.keyFunction
  split
  · exact keeps_pure _
  · exact keeps_pure _
  · exact happly _ rfl _
  · exact yields_throw (hC.fault _ rfl)

/-- A key function is one of the arguments by name. -/
theorem keeps_givenKey (hC : C.Computing) {a : Arguments} {f : String} {names : List String}
    {given : List (Option Value)} (happly : ∀ g, a.Passes g → ∀ x, C.Keeps (apply g x))
    (hgiven : Builtin.options f names a.named = .ok given) (x : Value) :
    C.Keeps (Builtin.keyFunction apply given[0]?.join x) :=
  hC.keeps_keyFunction (fun g hg => happly g (Builtin.mem_of_options_ok hgiven hg)) x

theorem keeps_extreme (hC : C.Computing) {a : Arguments}
    (happly : ∀ g, a.Passes g → ∀ x, C.Keeps (apply g x)) (f : String) (op : CompareOp) :
    C.Keeps (Builtin.extreme apply f op a) := by
  unfold Builtin.extreme
  refine (hC.keeps_ofExcept (Builtin.civil_firstArgument f a)).bind fun single =>
    (hC.yields_ofExcept (Builtin.civil_options _ _ _)).bind fun given hgiven =>
      (hC.keeps_ofExcept (Builtin.civil_checkDefault _ _ _)).bind fun _ =>
        (hC.keeps_ofStore (Builtin.keeps_severalItems a single)).bind fun items =>
          (hC.keeps_best (fun x y => Value.keeps_ordered op _ x y)
            (hC.keeps_givenKey happly hgiven) items none).bind fun found => ?_
  split
  · exact keeps_pure _
  · exact keeps_pure _
  · exact yields_throw (hC.fault _ rfl)

theorem keeps_sortedList (hC : C.Computing) {a : Arguments}
    (happly : ∀ g, a.Passes g → ∀ x, C.Keeps (apply g x)) : C.Keeps (Builtin.sortedList apply a) := by
  have less (x y : Value × Value) : civil.Keeps (Value.lessThan x.2 y.2) := Value.keeps_ordered _ _ _ _
  unfold Builtin.sortedList
  refine (hC.keeps_ofExcept (Builtin.civil_soleArgument _ a)).bind fun seq =>
    (hC.keeps_ofStore (Value.keeps_items seq)).bind fun items =>
      (hC.yields_ofExcept (Builtin.civil_options _ _ _)).bind fun given hgiven =>
        (hC.keeps_ofExcept (Builtin.civil_isReversed _)).bind fun down =>
          (keeps_arrayMapM (fun x => (hC.keeps_givenKey happly hgiven x).bind fun _ => keeps_pure _)
            items).bind fun keyed => (hC.keeps_ofStore ?_).bind fun _ =>
              hC.keeps_ofStore (StoreM.keeps_newList _)
  exact yields_ite (Sorting.keeps_sortDown less keyed) (Sorting.keeps_sort less keyed)

theorem keeps_limitedRange (hC : C.Computing) (a : Arguments) : C.Keeps (Builtin.limitedRange a) := by
  unfold Builtin.limitedRange
  exact (hC.keeps_ofExcept (Signature.civil_bind _ a)).bind fun _ =>
    (hC.keeps_ofExcept (Builtin.civil_rangeOf _)).bind fun _ =>
      yields_ite (yields_throw (hC.fault _ rfl)) (yields_ite (yields_throw (hC.range _)) (keeps_pure _))

theorem keeps_formatted (hC : C.Computing) (a : Arguments) : C.Keeps (Builtin.formatted a) := by
  unfold Builtin.formatted
  refine (hC.keeps_ofExcept (Signature.civil_bind _ a)).bind fun b => ?_
  split
  · rename_i v spec _
    split
    · exact (hC.keeps_ofStore (v.keeps_format spec)).bind fun _ => keeps_pure _
    · rename_i f hs
      exact yields_throw (hC.fault f (FormatSpec.civil_checkLimits hs))
    · rename_i r hne hs
      exact yields_throw (hC.format spec r hs hne)
  · exact yields_throw (hC.fault _ rfl)
  · exact keeps_pure _

theorem keeps_builtin (hC : C.Computing) {a : Arguments}
    (happly : ∀ g, a.Passes g → ∀ x, C.Keeps (apply g x)) (f : Builtin) : C.Keeps (f.call apply a) := by
  unfold Builtin.call
  cases f with
  | abs =>
    exact hC.keeps_ofExcept ((Builtin.civil_oneArgument _ a).bind fun v => Builtin.civil_magnitude v)
  | bool =>
    refine (hC.keeps_ofExcept (Builtin.civil_optional _ a)).bind fun given => ?_
    cases given with
    | none => exact keeps_pure _
    | some v => exact (hC.keeps_ofStore (Value.keeps_truth v)).bind fun _ => keeps_pure _
  | dict => exact hC.keeps_ofStore (Builtin.keeps_mapping a)
  | enumerate => exact hC.keeps_ofStore (Builtin.keeps_enumeration a)
  | float =>
    refine (hC.keeps_ofExcept (Builtin.civil_optional _ a)).bind fun given => ?_
    cases given with
    | none => exact keeps_pure _
    | some v => exact (hC.keeps_ofExcept (Value.civil_toFloat v)).bind fun _ => keeps_pure _
  | format => exact hC.keeps_formatted a
  | hex =>
    exact hC.keeps_ofExcept ((Builtin.civil_oneArgument _ a).bind fun v =>
      (Value.civil_toIndex v).bind fun _ => civil_pure _)
  | int => exact hC.keeps_ofExcept (Builtin.civil_integer a)
  | len =>
    exact (hC.keeps_ofExcept (Builtin.civil_oneArgument _ a)).bind fun v =>
      hC.keeps_ofStore (Builtin.keeps_length v)
  | list =>
    exact (hC.keeps_ofStore (Builtin.keeps_itemsOf _ a)).bind fun _ =>
      hC.keeps_ofStore (StoreM.keeps_newList _)
  | max => exact hC.keeps_extreme happly _ _
  | min => exact hC.keeps_extreme happly _ _
  | range => exact hC.keeps_limitedRange a
  | reversed =>
    refine (hC.keeps_ofExcept (Builtin.civil_positionalOnly _ a)).bind fun given => ?_
    split
    · exact hC.keeps_ofStore (Builtin.keeps_backward _)
    · exact yields_throw (hC.fault _ rfl)
  | round =>
    refine (hC.keeps_ofExcept (Builtin.civil_arguments _ _ _ a)).bind fun given => ?_
    split
    · exact hC.keeps_ofExcept (Value.civil_rounded _ _)
    · exact keeps_pure _
  | set =>
    exact (hC.keeps_ofStore (Builtin.keeps_itemsOf _ a)).bind fun items =>
      (hC.keeps_ofExcept (ItemSet.civil_ofItems items)).bind fun _ =>
        hC.keeps_ofStore (StoreM.keeps_newSet _)
  | sorted => exact hC.keeps_sortedList happly
  | str => exact hC.keeps_ofStore (Builtin.keeps_text a)
  | tuple => exact (hC.keeps_ofStore (Builtin.keeps_itemsOf _ a)).bind fun _ => keeps_pure _
  | zip => exact hC.keeps_ofStore (Builtin.keeps_zipped a)

end Contract.Computing

/--
The functions that a call runs, with their arguments: the one that is called, or one that it is given as
a key and that it calls with an item.
-/
inductive Callable.Reaches : Callable → Arguments → Primitive → Bound → Prop
  | itself {p : Primitive} {a : Arguments} {b : Bound} (hb : p.signature.bind a = .ok b) :
    Reaches (.primitive p) a p b
  | key (f : Builtin) {p : Primitive} {a : Arguments} {b : Bound} (h : a.Passes (.primitive p)) (x : Value)
    (hb : p.signature.bind ⟨[x], []⟩ = .ok b) : Reaches (.builtin f) a p b

namespace Contract.Shifting
open Contract.Sketching (keeps_done)

variable {C : Contract Failure World} {α : Type}

theorem rel_adds (hC : C.Shifting) {l : Layout} {f : Field} {amount : Value} {u t : World}
    (h : World.Adds l f amount u t) : C.rel u t := by
  obtain ⟨v, s, s', hv, rfl⟩ := h
  exact hC.field u f v

theorem rel_entersRow (hC : C.Shifting) {l : Layout} {height : Value} {u t : World}
    (h : World.EntersRow l height u t) : C.rel u t := by
  obtain ⟨v, s, s', hv, rfl⟩ := h
  exact C.trans (hC.field u .diagramY v)
    (hC.field { u with layout := u.layout.set .diagramY v } .boxIndex (.int 0))

/-- A program that moves the cursor last keeps to a contract under which the geometry may change. -/
theorem keeps_of_commitsAt {P : World → World → World → Prop} {x : DrawM α}
    (hx : ∀ w, C.CommitsAt (P w) x w) (hP : ∀ w u t, P w u t → C.rel u t) : C.Keeps x :=
  .intro (fun w _ _ hr =>
    let ⟨_, hwu, hut⟩ := (hx w).of_ok hr
    ⟨C.trans hwu (hP w _ _ hut), trivial⟩) fun w _ _ hr => (hx w).of_error hr

theorem keeps_drawColumnHeaders (hC : C.Shifting) (spec : Value) : C.Keeps (drawColumnHeaders spec) := by
  unfold drawColumnHeaders
  exact (hC.keeps_resolveValue spec).bind fun options =>
    keeps_of_commitsAt (hC.commitsAt_drawHeadersOf options) fun _ _ _ => hC.rel_adds

theorem keeps_nextRow (hC : C.Shifting) (height : Value) : C.Keeps (nextRow height) :=
  keeps_of_commitsAt (hC.commitsAt_nextRow height) fun _ _ _ => hC.rel_entersRow

theorem keeps_drawGap (hC : C.Shifting) (height gap edge : Value) : C.Keeps (drawGap height gap edge) :=
  keeps_of_commitsAt (hC.commitsAt_drawGap height gap edge) fun _ _ _ => hC.rel_adds

/-- A function that moves the cursor without drawing a box, or any other function. -/
theorem keeps_perform (hC : C.Shifting) {p : Primitive} {b : Bound} (hp : p.drawsBox = false)
    (hm : C.Misses p b) (hr : p = .registerAttrs → C.AllowsRegistration) : C.Keeps (p.perform b) := by
  by_cases hmoves : p.movesCursor = false
  · exact hC.toSketching.keeps_perform hmoves hm hr
  · unfold Primitive.perform
    split <;> try first | exact absurd rfl hmoves | cases hp
    · exact keeps_done (hC.keeps_drawColumnHeaders _)
    · exact keeps_done (hC.keeps_nextRow _)
    · exact keeps_done (hC.keeps_drawGap _ _ _)
    · exact keeps_pure _

end Contract.Shifting

namespace Contract.Moving
open Contract.Sketching (keeps_done)
open Contract.Shifting (keeps_of_commitsAt)

variable {C : Contract Failure World}

theorem keeps_drawBox (hC : C.Moving) (label : Value) {spec : DrawM Spec}
    (h : C.Yields (Spec.Allowed C) spec) : C.Keeps (drawBox label spec) := by
  unfold drawBox
  exact h.bind fun s hs => (hC.keeps_resolve s hs).bind fun options =>
    keeps_of_commitsAt (hC.commitsAt_drawBoxOf label options) fun _ _ _ => hC.rel_adds

theorem keeps_drawGroupLabelHeader (hC : C.Moving) (span label : Value) :
    C.Keeps (drawGroupLabelHeader span label) := by
  have style : (Spec.composite [.named (.str "math"),
      .ofNames [("font-size", .int 12)] (by decide)]).Allowed C := .styled _ (.own _ _)
  unfold drawGroupLabelHeader
  exact (hC.keeps_buildLabel label (yields_pure style) []).bind fun n =>
    hC.keeps_drawBox (.node n) (yields_pure (.own _ _))

/-- A drawing function that draws a box, or any other function. -/
theorem keeps_perform (hC : C.Moving) {p : Primitive} {b : Bound} (hm : C.Misses p b)
    (hr : p = .registerAttrs → C.AllowsRegistration) : C.Keeps (p.perform b) := by
  by_cases hp : p.drawsBox = false
  · exact hC.toShifting.keeps_perform hp hm hr
  · unfold Primitive.perform
    split <;> try exact absurd rfl hp
    · exact keeps_done (hC.keeps_drawBox _ (hC.yields_ofValue _))
    · exact keeps_done (hC.keeps_drawGroupLabelHeader _ _)
    · exact keeps_pure _

theorem keeps_primitive (hC : C.Moving) {p : Primitive} {a : Arguments}
    (hm : ∀ b, p.signature.bind a = .ok b → C.Misses p b)
    (hr : ∀ b, p.signature.bind a = .ok b → p = .registerAttrs → C.AllowsRegistration) : C.Keeps (p.call a) :=
  (hC.yields_ofExcept (Signature.civil_bind _ a)).bind fun b hb => hC.keeps_perform (hm b hb) (hr b hb)

/-- A call that registers no style needs no leave to do so. -/
theorem keeps_call (hC : C.Moving) {f : Callable} {a : Arguments} (hm : ∀ p b, f.Reaches a p b → C.Misses p b)
    (hr : ∀ b, f.Reaches a .registerAttrs b → C.AllowsRegistration) : C.Keeps (f.call a) := by
  cases f with
  | builtin f =>
    refine hC.keeps_builtin (fun g hg x => ?_) f
    cases g with
    | builtin g => exact hC.keeps_builtin (fun _ _ _ => keeps_pure _) g
    | primitive p =>
      refine hC.keeps_primitive (fun b hb => hm p b (.key f hg x hb)) fun b hb hp => ?_
      subst hp
      exact hr b (.key f hg x hb)
  | primitive p =>
    refine hC.keeps_primitive (fun b hb => hm p b (.itself hb)) fun b hb hp => ?_
    subst hp
    exact hr b (.itself hb)

end Contract.Moving

theorem Contract.Calling.keeps_call {C : Contract Failure World} (hC : C.Calling) {f : Callable} {a : Arguments}
    (hm : ∀ p b, f.Reaches a p b → C.Misses p b) : C.Keeps (f.call a) :=
  hC.toMoving.keeps_call hm fun _ _ => hC.toDrawing.keeps_registerAttrs hC.styles

end WireSketch
