import WireSketch.Proofs.Call.Method
import WireSketch.Proofs.Script.Work

/-! Programs of scripts that keep a record of what they do, and what such a record says about a run. -/
namespace WireSketch
open Contract

/-- What a script does to its session in one go. -/
inductive Action
  /-- A step, a lookup, an operator, a change of a container. -/
  | work
  | store (p : Place) (name : String) (v : Value)
  | call (f : Callable) (a : Arguments)

structure Event where
  action : Action
  before : Session
  after : Session

abbrev Trace := List Event

/-- A program of scripts that keeps a record. -/
abbrev TraceM := EStateM Failure (Session × Trace)

namespace TraceM

/-- Runs a program as one event. -/
def record {α : Type} (act : Action) (x : ScriptM α) : TraceM α := fun (s, es) =>
  match x s with
  | .ok a t => .ok a (t, es ++ [⟨act, s, t⟩])
  | .error e t => .error e (t, es ++ [⟨act, s, t⟩])

instance : MonadLift ScriptM TraceM := ⟨record .work⟩

def store (p : Place) (name : String) (v : Value) : TraceM Unit :=
  record (.store p name v) (ScriptM.store p name v)

def call (f : Callable) (a : Arguments) : TraceM Value := record (.call f a) (f.call a)

end TraceM

def Failure.isMember : Failure → Bool
  | .fault f => f.isMember
  | _ => false

/-- Work leaves the variables and the drawing alone, and looks up no member. -/
def Contract.worked : Contract Failure Session where
  rel s t := t.bindings = s.bindings ∧ World.SameDrawing s.world t.world
  fails e := e.isMember = false
  refl s := ⟨rfl, .refl s.world⟩
  trans hst htu := ⟨htu.1.trans hst.1, hst.2.trans htu.2⟩

theorem worked_working : civil.Working worked where
  heap _ _ _ := ⟨rfl, rfl, rfl, rfl, rfl⟩
  fault _ h := h
  begins s _ _ := ⟨rfl, .refl s.world⟩
  script _ _ := rfl

/-- The sessions in which an action may end: for stores and calls, the one that the program ends in. -/
def Action.Leads : Action → Session → Session → Prop
  | work, s, t => worked.rel s t
  | store p name v, s, t => t = Run.final (ScriptM.store p name v s)
  | call f a, s, t => t = { s with world := Run.final (f.call a s.world) }

/-- The failures in which an action may end: for stores and calls, the one that the program ends in. -/
def Action.Fails : Action → Session → Failure → Prop
  | work, _, e => worked.fails e
  | store p name v, s, e => ∃ t, ScriptM.store p name v s = .error e t
  | call f a, s, e => ∃ w, f.call a s.world = .error e w

def Action.Succeeds : Action → Session → Prop
  | work, _ => True
  | store p name v, s => ∃ t, ScriptM.store p name v s = .ok () t
  | call f a, s => ∃ v w, f.call a s.world = .ok v w

namespace Trace

variable {α β : Type} {es fs : Trace}

/-- Every event of a run that returns succeeds, and a run that fails does so in its last event. -/
def Concludes (es : Trace) : EStateM.Result Failure Session α → Prop
  | .ok _ _ => ∀ ev ∈ es, ev.action.Succeeds ev.before
  | .error e _ => ∃ ev, es.getLast? = some ev ∧ ev.action.Fails ev.before e

/-- Events that succeed may come before. -/
theorem Concludes.append {a : α} {s : Session} {r : EStateM.Result Failure Session β}
    (h : es.Concludes (.ok a s : EStateM.Result Failure Session α)) (h' : fs.Concludes r) :
    Concludes (es ++ fs) r := by
  cases r with
  | ok b t => exact fun ev hev => (List.mem_append.mp hev).elim (h ev) (h' ev)
  | error e t =>
    obtain ⟨ev, hlast, hev⟩ := h'
    exact ⟨ev, by rw [List.getLast?_append, hlast]; rfl, hev⟩

end Trace

/-- The events lead from one session to another, each going on where the one before it ended. -/
inductive Explains : Session → Trace → Session → Prop
  | nil (s : Session) : Explains s [] s
  | cons {act : Action} {s t u : Session} {es : Trace} (h : act.Leads s t) (rest : Explains t es u) :
    Explains s (⟨act, s, t⟩ :: es) u

theorem Explains.append {s t u : Session} {es fs : Trace} (h : Explains s es t) (h' : Explains t fs u) :
    Explains s (es ++ fs) u := by
  induction h with
  | nil => exact h'
  | cons hact _ ih => exact .cons hact (ih h')

def recorded {α : Type} (es : Trace) : EStateM.Result Failure Session α →
    EStateM.Result Failure (Session × Trace) α
  | .ok a t => .ok a (t, es)
  | .error e t => .error e (t, es)

/-- Without its record `x` runs as `y` does, and its record explains where a run leads and how it ends. -/
def Traces {α : Type} (x : TraceM α) (y : ScriptM α) : Prop :=
  ∀ s es, ∃ fs, x (s, es) = recorded (es ++ fs) (y s) ∧ Explains s fs (Run.final (y s)) ∧ fs.Concludes (y s)

section Traces

variable {α β : Type}

theorem traces_pure (a : α) : Traces (pure a) (pure a) := by
  intro s es
  refine ⟨[], ?_, .nil s, fun ev hev => ?_⟩
  · rw [List.append_nil]
    rfl
  · cases hev

theorem traces_record {act : Action} {y : ScriptM α} (hleads : ∀ s, act.Leads s (Run.final (y s)))
    (hsucceeds : ∀ s a t, y s = .ok a t → act.Succeeds s)
    (hfails : ∀ s e t, y s = .error e t → act.Fails s e) : Traces (TraceM.record act y) y := by
  intro s es
  refine ⟨[⟨act, s, Run.final (y s)⟩], ?_, .cons (hleads s) (.nil _), ?_⟩
  · have hrun : TraceM.record act y (s, es) = match y s with
        | .ok a t => .ok a (t, es ++ [⟨act, s, t⟩])
        | .error e t => .error e (t, es ++ [⟨act, s, t⟩]) := rfl
    rw [hrun]
    cases y s with
    | ok a t => rfl
    | error e t => rfl
  · cases hy : y s with
    | ok a t => exact fun ev hev => List.mem_singleton.mp hev ▸ hsucceeds s a t hy
    | error e t => exact ⟨_, rfl, hfails s e t hy⟩

theorem Traces.bind {x : TraceM α} {y : ScriptM α} {f : α → TraceM β} {g : α → ScriptM β}
    (hx : Traces x y) (hf : ∀ a, Traces (f a) (g a)) : Traces (x >>= f) (y >>= g) := by
  intro s es
  obtain ⟨fs, hrun, hfs, hends⟩ := hx s es
  cases hy : y s with
  | ok a t =>
    rw [hy] at hrun hfs hends
    obtain ⟨gs, hrest, hgs, hlast⟩ := hf a t (es ++ fs)
    refine ⟨fs ++ gs, ?_, ?_, ?_⟩
    · rw [Run.bind_ok hrun, Run.bind_ok hy, hrest, List.append_assoc]
    · rw [Run.bind_ok hy]
      exact hfs.append hgs
    · rw [Run.bind_ok hy]
      exact hends.append hlast
  | error e t =>
    rw [hy] at hrun hfs hends
    refine ⟨fs, ?_, ?_, ?_⟩
    · rw [Run.bind_error hrun, Run.bind_error hy]
      rfl
    · rw [Run.bind_error hy]
      exact hfs
    · rw [Run.bind_error hy]
      exact hends

/-- Work is one event. -/
theorem traces_work {y : ScriptM α} (hy : worked.Keeps y) : Traces (liftM y) y :=
  traces_record hy.final (fun _ _ _ _ => trivial) fun _ _ _ hr => (hy.of_error hr).2

theorem traces_ofStore {x : StoreM α} (hx : civil.Keeps x) : Traces (liftM x) (liftM x) :=
  traces_work (worked_working.keeps_ofStore hx)

theorem traces_ofExcept {x : Except Fault α} (hx : Civil x) : Traces (liftM x) (liftM x) :=
  traces_work (worked_working.keeps_ofExcept hx)

theorem traces_failAt (p : Place) {r : ScriptReason}
    (hr : Failure.isOwn (.script ⟨r, some p.line, some p.column⟩) = true) :
    Traces (liftM (ScriptM.failAt p r : ScriptM α)) (ScriptM.failAt p r) :=
  traces_work (worked_working.keeps_failAt p hr)

theorem traces_tick (budget : Int) : Traces (liftM (ScriptM.tick budget)) (ScriptM.tick budget) := by
  refine traces_work fun ⟨world, bindings, steps, line, column⟩ => ?_
  unfold ScriptM.tick
  dsimp only
  split
  · rename_i h
    split at h
    · cases h
    · cases h
      exact ⟨⟨rfl, .refl world⟩, trivial⟩
  · rename_i h
    split at h
    · cases h
      exact ⟨⟨rfl, .refl world⟩, rfl⟩
    · cases h

theorem traces_store (p : Place) (name : String) (v : Value) :
    Traces (TraceM.store p name v) (ScriptM.store p name v) :=
  traces_record (fun _ => rfl) (fun _ _ t hr => ⟨t, hr⟩) fun _ _ t hr => ⟨t, hr⟩

theorem traces_call (f : Callable) (a : Arguments) : Traces (TraceM.call f a) (liftM (f.call a)) := by
  have hlift : (liftM (f.call a) : ScriptM Value) = ScriptM.ofDraw (f.call a) := rfl
  unfold TraceM.call
  rw [hlift]
  refine traces_record (fun ⟨world, bindings, steps, line, column⟩ => ?_)
    (fun ⟨world, bindings, steps, line, column⟩ v t hr => ?_)
    fun ⟨world, bindings, steps, line, column⟩ e t hr => ?_
  · unfold Action.Leads ScriptM.ofDraw
    dsimp only
    cases f.call a world with
    | ok v w => rfl
    | error e w => rfl
  · unfold ScriptM.ofDraw at hr
    dsimp only at hr
    cases hcall : f.call a world with
    | ok u w => exact ⟨u, w, hcall⟩
    | error e w =>
      rw [hcall] at hr
      cases hr
  · unfold ScriptM.ofDraw at hr
    dsimp only at hr
    cases hcall : f.call a world with
    | ok v w =>
      rw [hcall] at hr
      cases hr
    | error e' w =>
      rw [hcall] at hr
      cases hr
      exact ⟨w, hcall⟩

end Traces
end WireSketch
