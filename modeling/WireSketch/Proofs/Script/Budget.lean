import WireSketch.Proofs.Script.Metered

/-! The budget of steps decides only whether a script is stopped: each run has a number of steps. -/
namespace WireSketch
open Contract ScriptM

namespace Stmt

/-- A loop has no step of its own between its rounds. -/
theorem metered_rounds {round : Value → Int → ScriptM Flow} (hround : ∀ x, Metered (round x)) :
    (xs : List Value) → Metered fun budget => rounds (fun x => round x budget) xs
  | [] => metered_pure true
  | x :: rest => by
    simp only [rounds]
    refine (hround x).bind fun flow => ?_
    cases flow with
    | breakLoop => exact metered_pure false
    | next => exact metered_rounds hround rest
    | continueLoop => exact metered_rounds hround rest

/-- Each statement begins with a step. -/
theorem metered_begin {α : Type} (p : Place) {f : Int → ScriptM α} (hf : Metered f) :
    Metered fun budget => (do
      beginAt p
      tick budget
      f budget) :=
  .after (stepless_working.keeps_beginAt p) fun _ => metered_tick.bind fun _ => hf

mutual

theorem metered_run : (s : Stmt) → Metered fun budget => s.run budget
  | expr p e => by
    simp only [run]
    exact metered_begin p ((metered_assigns.eval e).bind fun _ => metered_pure _)
  | assign p targets value => by
    simp only [run]
    exact metered_begin p ((metered_assigns.eval value).bind fun v =>
      (metered_assigns.assignEach targets v).bind fun _ => metered_pure _)
  | augmented p target op value => by
    simp only [run]
    exact metered_begin p ((metered_assigns.current target).bind fun a =>
      (metered_assigns.eval value).bind fun b => .after (stepless_working.keeps_guarded op a b) fun v =>
        (metered_assigns.assign target v).bind fun _ => metered_pure _)
  | branch p test yes no => by
    simp only [run]
    refine metered_begin p ((metered_assigns.eval test).bind fun _ =>
      .after (stepless_working.keeps_ofStore (Value.keeps_truth _)) fun holds => ?_)
    cases holds with
    | true => exact metered_runAll yes
    | false => exact metered_runAll no
  | loop p target items body after => by
    simp only [run]
    refine metered_begin p ((metered_assigns.eval items).bind fun v =>
      .after (stepless_working.keeps_loopItems p v) fun xs =>
        (metered_rounds (fun x => ?_) xs).bind fun ended => ?_)
    · exact (metered_assigns.assign target x).bind fun _ => metered_runAll body
    · cases ended with
      | true => exact metered_runAll after
      | false => exact metered_pure _
  | pass p => by
    simp only [run]
    exact metered_begin p (metered_pure _)
  | breakLoop p => by
    simp only [run]
    exact metered_begin p (metered_pure _)
  | continueLoop p => by
    simp only [run]
    exact metered_begin p (metered_pure _)
  | forbidden p _ => by
    simp only [run]
    exact metered_begin p (.of_keeps (stepless_working.keeps_failAt p rfl))

theorem metered_runAll : (body : List Stmt) → Metered fun budget => runAll budget body
  | [] => metered_pure _
  | s :: rest => by
    simp only [runAll]
    refine (metered_run s).bind fun flow => ?_
    cases flow with
    | next => exact metered_runAll rest
    | breakLoop => exact metered_pure _
    | continueLoop => exact metered_pure _

end

end Stmt

namespace ScriptM

variable {α : Type}

/-- A fault may become an error of the script in the end. -/
def reportedResult : EStateM.Result Failure Session α → EStateM.Result Failure Session α
  | .error (.fault f) s =>
    if f.faultClass.isReported then .error (.script ⟨.fault f, s.line, s.column⟩) s
    else .error (.fault f) s
  | r => r

theorem reported_apply (x : ScriptM α) (s : Session) : reported x s = reportedResult (x s) := by
  unfold reported reportedResult
  rfl

theorem final_reportedResult (r : EStateM.Result Failure Session α) :
    final (reportedResult r) = final r := by
  unfold reportedResult
  split
  · split
    · rfl
    · rfl
  · rfl

theorem isStopped_reportedResult (r : EStateM.Result Failure Session α) :
    isStopped (reportedResult r) = isStopped r := by
  unfold reportedResult
  split
  · split
    · rfl
    · rfl
  · rfl

/-- Reporting faults leaves the failure of the budget alone. -/
theorem Metered.reported {x : Int → ScriptM α} (hx : Metered x) :
    Metered fun budget => reported (x budget) := by
  intro s
  obtain ⟨r, hr⟩ := hx s
  refine ⟨reportedResult r, ?_, ?_, fun budget hb => ?_, fun budget hs hb => ?_⟩
  · rw [isStopped_reportedResult]
    exact hr.unstopped
  · rw [final_reportedResult]
    exact hr.counts
  · rw [final_reportedResult] at hb
    rw [reported_apply, hr.enough budget hb]
  · rw [final_reportedResult] at hb
    obtain ⟨line, t, hrun, ht⟩ := hr.less budget hs hb
    exact ⟨line, t, by rw [reported_apply, hrun]; rfl, ht⟩

theorem metered_runScript (script : List Stmt) : Metered fun budget => runScript budget script := by
  unfold runScript
  refine Metered.reported ((Stmt.metered_runAll script).bind fun flow => ?_)
  cases flow with
  | next => exact metered_pure _
  | breakLoop => exact .of_keeps (stepless_working.keeps_failInLine fun _ => rfl)
  | continueLoop => exact .of_keeps (stepless_working.keeps_failInLine fun _ => rfl)

/-- Reading a script takes no step. -/
theorem metered_runSource (source : String) : Metered fun budget => runSource budget source := by
  unfold runSource
  split
  · exact .of_keeps (stepless_working.keeps_fault rfl)
  · cases Stmt.ofSource? source with
    | none => exact .of_keeps (yields_throw rfl)
    | some script => exact metered_runScript script

/-- A run that is not stopped is the same under every budget that covers its steps, and any other stops it. -/
theorem runSource_budget (source : String) (w : World) (limit : Nat)
    {r : EStateM.Result Failure Session Unit} (hr : runSource limit source { world := w } = r)
    (hstop : isStopped r = false) :
    (final r).steps ≤ limit ∧
      (∀ m : Nat, (final r).steps ≤ m → runSource m source { world := w } = r) ∧
      ∀ m : Nat, m < (final r).steps → StopsAt m (runSource m source { world := w }) := by
  obtain ⟨q, hq⟩ := metered_runSource source { world := w }
  have hlimit : (final q).steps ≤ limit := by
    refine Nat.le_of_not_lt fun hlt => ?_
    obtain ⟨line, t, hrun, -⟩ := hq.less limit (Int.natCast_nonneg limit) (by omega)
    rw [← hr, hrun] at hstop
    cases hstop
  obtain rfl : q = r := by rw [← hr, hq.enough limit (by omega)]
  refine ⟨hlimit, fun m hm => hq.enough m (by omega), fun m hm => ?_⟩
  exact hq.less m (Int.natCast_nonneg m) (by omega)

/-- A branch and two calls take eight steps, and the budget of seven stops them. -/
theorem runSource_budget_branch :
    let run (m : Nat) := runSource m "if next_row:\n    next_row()\ndraw_bottom()\n"
      { world := .initial {} }
    (final (run 100)).steps = 8 ∧ run 8 = run 100 ∧ StopsAt 7 (run 7) := by
  intro run
  have hsteps : (final (run 100)).steps = 8 := by decide +kernel
  have hrun : isStopped (run 100) = false := by decide +kernel
  obtain ⟨-, enough, less⟩ := runSource_budget _ _ 100 rfl hrun
  exact ⟨hsteps, enough 8 (Nat.le_of_eq hsteps), less 7 (hsteps ▸ by decide)⟩

end ScriptM
end WireSketch
