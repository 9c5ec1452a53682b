import WireSketch.Proofs.Call.Frame
import WireSketch.Proofs.Script.Work

/-! What scripts do between two steps counts no step, and it never fails for want of steps. -/
namespace WireSketch
open Contract

/-- Drawing may do anything, but not fail for want of steps. -/
def Contract.unlimited : Contract Failure World where
  rel _ _ := True
  fails e := e.isStepLimit = false
  refl _ := trivial
  trans _ _ := trivial

/-- Programs that count no step and do not fail for want of steps. -/
def Contract.stepless : Contract Failure Session where
  rel s t := t.steps = s.steps
  fails e := e.isStepLimit = false
  refl _ := rfl
  trans hst htu := htu.trans hst

theorem unlimited_calling : Contract.unlimited.Calling where
  store _ _ := trivial
  styles _ _ := trivial
  scene _ _ := trivial
  labels _ _ := trivial
  fault _ _ := rfl
  diagram _ := rfl
  field _ _ _ := trivial
  range _ := rfl
  format _ _ h _ := checkLimits_isStepLimit h

theorem stepless_working : civil.Working stepless where
  heap _ _ _ := rfl
  fault _ _ := rfl
  begins _ _ _ := rfl
  script _ h := Failure.isStepLimit_of_isOwn h

namespace ScriptM

variable {α : Type}

theorem keeps_ofDraw {x : DrawM α} (hx : unlimited.Keeps x) : stepless.Keeps (liftM x : ScriptM α) :=
  keeps_liftDraw (fun _ _ _ => rfl) (fun _ he => he) hx

theorem keeps_call (f : Callable) (a : Arguments) : stepless.Keeps (liftM (f.call a) : ScriptM Value) :=
  keeps_ofDraw (unlimited_calling.keeps_call fun _ _ _ _ _ _ _ _ => rfl)

theorem keeps_store (p : Place) (name : String) (v : Value) : stepless.Keeps (store p name v) :=
  stepless_working.keeps_store (fun _ _ _ => ⟨rfl, trivial⟩)
    (fun _ _ => keeps_ofDraw fun _ => ⟨trivial, trivial⟩) p name v

end ScriptM
end WireSketch
