import WireSketch.Proofs.Call.Registry
import WireSketch.Proofs.Script.Names

/-! The registry of styles at every point of a script's run, and after any calls of the library. -/
namespace WireSketch
open Contract

def Event.registration? (ev : Event) : Option Registration :=
  match ev.action with
  | .call f a => f.registration? a ev.before.world
  | _ => none

def Trace.registrations (es : Trace) : List Registration := es.filterMap Event.registration?

theorem Action.Leads.styles {act : Action} {s t : Session} (h : act.Leads s t) :
    t.world.styles = Styles.registered s.world.styles (Event.registration? ⟨act, s, t⟩).toList := by
  cases act with
  | work => exact h.2.styles
  | call f a =>
    rw [show t = _ from h]
    exact f.styles_call a s.world
  | store p name v =>
    rw [show t = _ from h]
    rcases ScriptM.store_cases p name v s with ⟨f, -, hrun⟩ | ⟨-, hrun⟩ | ⟨-, -, hrun⟩
    · rw [hrun]
      rfl
    · rw [hrun]
      rfl
    · rw [hrun]
      rfl

/-- The styles after a run of events are those before it after the events' registrations. -/
theorem Explains.styles {s t : Session} {es : Trace} (h : Explains s es t) :
    t.world.styles = Styles.registered s.world.styles es.registrations := by
  induction h with
  | nil => rfl
  | @cons act s u t es hact _ ih =>
    have hcons : Trace.registrations (⟨act, s, u⟩ :: es) =
        (Event.registration? ⟨act, s, u⟩).toList ++ es.registrations := by
      unfold Trace.registrations
      rw [List.filterMap_cons]
      cases Event.registration? ⟨act, s, u⟩ <;> rfl
    rw [hcons, Styles.registered_append, ← hact.styles, ih]

namespace Session

/-- A new drawing goes through any calls of the library's functions, then through any script. After the calls
and at every point of the script's run, the last one among them, the registry holds the default styles and
the registrations that have succeeded so far. One that succeeds sets one style, one that fails changes
nothing. -/
theorem pointAt_registry (layout : Layout) (calls : List LibraryCall) (budget : Int) (source : String) :
    let w := World.initial layout
    let s : Session := { world := LibraryCall.runAll calls w }
    let es := s.trace budget source
    s.world.Registers (LibraryCall.registrations calls w) ∧
    s.pointAt budget source es.length = Run.final (ScriptM.runSource budget source s) ∧
    (∀ n, Explains s (es.take n) (s.pointAt budget source n) ∧
      (s.pointAt budget source n).world.Registers
        (LibraryCall.registrations calls w ++ Trace.registrations (es.take n))) ∧
    ∀ a u, match Primitive.registerAttrs.call a u with
      | .ok _ t => ∃ name r, Primitive.registerAttrs.registration? a u = some (name, r) ∧
          t = { u with styles := Styles.set name (.shared r) u.styles }
      | .error _ t => Primitive.registerAttrs.registration? a u = none ∧ t = u := by
  intro w s es
  have hcalls : s.world.styles = Styles.registered defaultStyles (LibraryCall.registrations calls w) :=
    LibraryCall.styles_runAll calls w
  refine ⟨World.registers_of_styles hcalls, pointAt_length budget source s, fun n => ?_, fun a u => ?_⟩
  · have hpoint : Explains s (es.take n) (s.pointAt budget source n) := explains_pointAt budget source s n
    have hstyles := hpoint.styles
    rw [hcalls, ← Styles.registered_append] at hstyles
    exact ⟨hpoint, World.registers_of_styles hstyles⟩
  · rcases Primitive.call_registerAttrs a u with ⟨name, r, hmade, hrun⟩ | ⟨hnone, e, hrun⟩
    · rw [hrun]
      exact ⟨name, r, hmade, rfl⟩
    · rw [hrun]
      exact ⟨hnone, rfl⟩

end Session
end WireSketch
