import Mathlib.Logic.Relation
import WireSketch.Proofs.Call.Frame

/-! Calls in which no function of the diagram runs leave the drawing as it is; all others only add to it. -/
namespace WireSketch
open Contract

namespace World

/-- Geometry, styles, scene and labels are the same; containers may differ. -/
structure SameDrawing (w t : World) : Prop where
  layout : t.layout = w.layout
  styles : t.styles = w.styles
  scene : t.scene = w.scene
  labels : t.labels = w.labels

theorem SameDrawing.refl (w : World) : SameDrawing w w := ⟨rfl, rfl, rfl, rfl⟩

theorem SameDrawing.trans {w t u : World} (h : SameDrawing w t) (h' : SameDrawing t u) :
    SameDrawing w u where
  layout := h'.layout.trans h.layout
  styles := h'.styles.trans h.styles
  scene := h'.scene.trans h.scene
  labels := h'.labels.trans h.labels

/-- What stands in the scene stays there in its place, and so do the labels. -/
structure Grows (w t : World) : Prop where
  scene : w.scene.toList <+: t.scene.toList
  labels : w.labels.toList <+: t.labels.toList

theorem Grows.refl (w : World) : Grows w w := ⟨List.prefix_rfl, List.prefix_rfl⟩

theorem Grows.trans {w t u : World} (h : Grows w t) (h' : Grows t u) : Grows w u where
  scene := h.scene.trans h'.scene
  labels := h.labels.trans h'.labels

/-- One change of a world: of containers, styles or a field of the geometry, or one more node or label. -/
inductive Change (w : World) : World → Prop
  | store (s : Store) : Change w { w with store := s }
  | styles (ss : List (String × Style)) : Change w { w with styles := ss }
  | field (f : Field) (v : Value) : Change w { w with layout := w.layout.set f v }
  | scene (v : Value) : Change w { w with scene := w.scene.push v }
  | labels (p : PlacedLabel) : Change w { w with labels := w.labels.push p }

theorem Change.grows {w t : World} (h : Change w t) : Grows w t := by
  cases h with
  | store s => exact ⟨List.prefix_rfl, List.prefix_rfl⟩
  | styles ss => exact ⟨List.prefix_rfl, List.prefix_rfl⟩
  | field f v => exact ⟨List.prefix_rfl, List.prefix_rfl⟩
  | scene v => exact ⟨by simp, List.prefix_rfl⟩
  | labels p => exact ⟨List.prefix_rfl, by simp⟩

abbrev Changes : World → World → Prop := Relation.ReflTransGen Change

theorem grows_of_changes {w t : World} (h : Changes w t) : Grows w t := by
  induction h with
  | refl => exact .refl w
  | tail _ hlast ih => exact ih.trans hlast.grows

theorem SameDrawing.changes {w t : World} (h : SameDrawing w t) : Changes w t := by
  have ht : t = { w with store := t.store } := by
    obtain ⟨store, layout, styles, scene, labels⟩ := t
    obtain ⟨rfl, rfl, rfl, rfl⟩ := h
    rfl
  rw [ht]
  exact .single (.store t.store)

end World

def Contract.unseen : Contract Failure World where
  rel := World.SameDrawing
  fails _ := True
  refl := World.SameDrawing.refl
  trans := World.SameDrawing.trans

theorem unseen_computing : Contract.unseen.Computing where
  store _ _ := ⟨rfl, rfl, rfl, rfl⟩
  fault _ _ := trivial
  diagram _ := trivial
  range _ := trivial
  format _ _ _ _ := trivial

def Contract.changing : Contract Failure World where
  rel := World.Changes
  fails _ := True
  refl _ := .refl
  trans := .trans

theorem changing_calling : Contract.changing.Calling where
  store _ s := .single (.store s)
  styles _ ss := .single (.styles ss)
  scene _ v := .single (.scene v)
  labels _ p := .single (.labels p)
  fault _ _ := trivial
  diagram _ := trivial
  range _ := trivial
  format _ _ _ _ := trivial
  field _ f v := .single (.field f v)

abbrev Methods := Primitive → Arguments → DrawM Value

namespace Callable

/-- Calls a function as a key while the functions of the diagram do what `m` says. -/
def callWithOneUnder (m : Methods) (f : Callable) (x : Value) : DrawM Value :=
  match f with
  | builtin b => b.call (fun _ x => return x) ⟨[x], []⟩
  | primitive p => if p.ofDiagram then m p ⟨[x], []⟩ else p.call ⟨[x], []⟩

def callUnder (m : Methods) (f : Callable) (a : Arguments) : DrawM Value :=
  match f with
  | builtin b => b.call (callWithOneUnder m) a
  | primitive p => if p.ofDiagram then m p a else p.call a

theorem callWithOneUnder_call (f : Callable) (x : Value) :
    f.callWithOneUnder Primitive.call x = f.callWithOne x := by
  cases f with
  | builtin b => rfl
  | primitive p => exact ite_self _

theorem callUnder_call (f : Callable) (a : Arguments) : f.callUnder Primitive.call a = f.call a := by
  have hone : callWithOneUnder Primitive.call = callWithOne :=
    funext fun f => funext fun x => callWithOneUnder_call f x
  cases f with
  | builtin b =>
    unfold callUnder call
    rw [hone]
  | primitive p => exact ite_self _

/-- A function of the diagram runs in the call: it makes a difference what those functions do. -/
def RunsMethod (f : Callable) (a : Arguments) (w : World) : Prop :=
  ∃ m : Methods, f.callUnder m a w ≠ f.call a w

/-- The call of a function of the diagram always runs one: another function may fail where it succeeds. -/
theorem runsMethod_of_ofDiagram {p : Primitive} (hp : p.ofDiagram = true) (a : Arguments) (w : World) :
    (primitive p).RunsMethod a w := by
  have hcall (m : Methods) : (primitive p).callUnder m a w = m p a w :=
    congrFun (if_pos hp : (if p.ofDiagram then m p a else p.call a) = m p a) w
  cases hrun : (primitive p).call a w with
  | ok v t =>
    refine ⟨fun _ _ => throw (.fault .negativeShift), ?_⟩
    rw [hcall, hrun]
    exact nofun
  | error e t =>
    refine ⟨fun _ _ => pure .none, ?_⟩
    rw [hcall, hrun]
    exact nofun

end Callable

namespace Contract.Computing

variable {C : Contract Failure World} {m : Methods}

theorem keeps_nodeFunction (hC : C.Computing) (hn : ∀ p b, C.Misses p b) {p : Primitive}
    (hp : p.ofDiagram = false) (a : Arguments) : C.Keeps (p.call a) :=
  (hC.keeps_ofExcept (Signature.civil_bind _ a)).bind fun b => hC.toResolving.keeps_perform hp (hn p b)

theorem keeps_callWithOneUnder (hC : C.Computing) (hn : ∀ p b, C.Misses p b) (hm : ∀ p a, C.Keeps (m p a))
    (f : Callable) (x : Value) : C.Keeps (f.callWithOneUnder m x) := by
  cases f with
  | builtin b => exact hC.keeps_builtin (fun _ _ _ => keeps_pure _) b
  | primitive p =>
    unfold Callable.callWithOneUnder
    dsimp only
    split
    · exact hm p _
    · exact hC.keeps_nodeFunction hn (Bool.not_eq_true _ ▸ ‹_›) _

theorem keeps_callUnder (hC : C.Computing) (hn : ∀ p b, C.Misses p b) (hm : ∀ p a, C.Keeps (m p a))
    (f : Callable) (a : Arguments) : C.Keeps (f.callUnder m a) := by
  cases f with
  | builtin b => exact hC.keeps_builtin (fun g _ x => hC.keeps_callWithOneUnder hn hm g x) b
  | primitive p =>
    unfold Callable.callUnder
    dsimp only
    split
    · exact hm p _
    · exact hC.keeps_nodeFunction hn (Bool.not_eq_true _ ▸ ‹_›) _

end Contract.Computing

namespace Callable

/-- A call in which no function of the diagram runs goes as if those functions did nothing at all. -/
theorem sameDrawing_call {f : Callable} {a : Arguments} {w : World} (h : ¬ f.RunsMethod a w) :
    World.SameDrawing w (Run.final (f.call a w)) := by
  have hidle : f.callUnder (fun _ _ => pure .none) a w = f.call a w :=
    Classical.byContradiction fun hne => h ⟨_, hne⟩
  have hkeeps : unseen.Keeps (f.callUnder (fun _ _ => pure .none) a) :=
    unseen_computing.keeps_callUnder (fun _ _ _ _ _ _ _ => trivial) (fun _ _ => keeps_pure _) f a
  rw [← hidle]
  exact hkeeps.final w

theorem changes_call (f : Callable) (a : Arguments) (w : World) :
    World.Changes w (Run.final (f.call a w)) :=
  (changing_calling.keeps_call fun _ _ _ _ _ _ _ _ => trivial).final w

end Callable
end WireSketch
