import WireSketch.Proofs.Script.Budget

/-! Jumps that name the loop they act on: the innermost one whose rounds hold them. -/
namespace WireSketch
open ScriptM

/-- How a statement ends when jumps name their loops by number, the outermost one by 1; 0 is no loop. -/
inductive Exit
  | next
  | jump (leaves : Bool) (loop : Nat)

/-- The way in which a statement inside the rounds of `depth` loops ends. -/
def Flow.exit (depth : Nat) : Flow → Exit
  | .next => .next
  | .breakLoop => .jump true depth
  | .continueLoop => .jump false depth

namespace Stmt

/-- The rounds of a loop that takes its own jumps and passes on all others; none if it ended by itself. -/
def roundsIn (loop : Nat) (round : Value → ScriptM Exit) : List Value → ScriptM (Option Exit)
  | [] => return none
  | x :: rest => do
    match ← round x with
    | .next => roundsIn loop round rest
    | .jump leaves target =>
      if target ≠ loop then return some (.jump leaves target)
      else if leaves then return some .next
      else roundsIn loop round rest

variable (budget : Int)

mutual

/-- Runs a statement inside the rounds of `depth` loops; a jump names the innermost of them. The other block
of a loop is not inside its rounds. -/
def runIn (depth : Nat) : Stmt → ScriptM Exit
  | branch p test yes no => do
    beginAt p
    tick budget
    let v ← test.eval budget
    if ← v.truth then runAllIn depth yes else runAllIn depth no
  | loop p target items body after => do
    beginAt p
    tick budget
    let v ← items.eval budget
    let xs ← loopItems p v
    let ended ← roundsIn (depth + 1) (fun x => do
      target.assign budget x
      runAllIn (depth + 1) body) xs
    match ended with
    | none => runAllIn depth after
    | some exit => return exit
  | breakLoop p => do
    beginAt p
    tick budget
    return .jump true depth
  | continueLoop p => do
    beginAt p
    tick budget
    return .jump false depth
  | s => do
    let _ ← s.run budget
    return .next

def runAllIn (depth : Nat) : List Stmt → ScriptM Exit
  | [] => return .next
  | s :: rest => do
    match ← runIn depth s with
    | .next => runAllIn depth rest
    | exit => return exit

end

variable {budget}

theorem roundsIn_exit (depth : Nat) {round : Value → ScriptM Flow} {roundIn : Value → ScriptM Exit}
    (h : ∀ x, roundIn x = (round x >>= fun flow => pure (flow.exit (depth + 1)))) :
    (xs : List Value) → roundsIn (depth + 1) roundIn xs =
      (rounds round xs >>= fun ended => pure (if ended then none else some .next))
  | [] => by
    unfold roundsIn rounds
    rw [pure_bind]
    rfl
  | x :: rest => by
    unfold roundsIn rounds
    rw [h x]
    simp only [bind_assoc, pure_bind]
    refine bind_congr fun flow => ?_
    cases flow with
    | next => exact roundsIn_exit depth h rest
    | breakLoop => simp [Flow.exit]
    | continueLoop =>
      simp only [Flow.exit, ne_eq, not_true_eq_false, if_false, Bool.false_eq_true]
      exact roundsIn_exit depth h rest

mutual

/-- No jump leaves more than one loop, and every jump that leaves a loop was meant for it. -/
theorem runIn_exit (depth : Nat) : (s : Stmt) →
    s.runIn budget depth = (s.run budget >>= fun flow => pure (flow.exit depth))
  | branch p test yes no => by
    simp only [runIn, run, bind_assoc]
    refine bind_congr fun _ => bind_congr fun _ => bind_congr fun v => bind_congr fun holds => ?_
    cases holds with
    | true => exact runAllIn_exit depth yes
    | false => exact runAllIn_exit depth no
  | loop p target items body after => by
    simp only [runIn, run, bind_assoc]
    refine bind_congr fun _ => bind_congr fun _ => bind_congr fun v => bind_congr fun xs => ?_
    have hround (x : Value) : (target.assign budget x >>= fun _ => runAllIn budget (depth + 1) body) =
        ((target.assign budget x >>= fun _ => runAll budget body) >>= fun flow =>
          pure (flow.exit (depth + 1))) := by
      rw [bind_assoc]
      exact bind_congr fun _ => runAllIn_exit (depth + 1) body
    rw [roundsIn_exit depth hround, bind_assoc]
    refine bind_congr fun ended => ?_
    rw [pure_bind]
    cases ended with
    | true => exact runAllIn_exit depth after
    | false => rfl
  | breakLoop p => by
    simp only [runIn, run, bind_assoc, pure_bind, Flow.exit]
  | continueLoop p => by
    simp only [runIn, run, bind_assoc, pure_bind, Flow.exit]
  | forbidden p c => by
    simp only [runIn, run, bind_assoc]
    exact bind_congr fun _ => bind_congr fun _ => rfl
  | expr .. | assign .. | augmented .. | pass _ => by
    simp only [runIn, run, bind_assoc, pure_bind, Flow.exit]

theorem runAllIn_exit (depth : Nat) : (body : List Stmt) →
    runAllIn budget depth body = (runAll budget body >>= fun flow => pure (flow.exit depth))
  | [] => by
    unfold runAllIn runAll
    rw [pure_bind]
    rfl
  | s :: rest => by
    unfold runAllIn runAll
    rw [runIn_exit depth s]
    simp only [bind_assoc, pure_bind]
    refine bind_congr fun flow => ?_
    cases flow with
    | next => exact runAllIn_exit depth rest
    | breakLoop => rfl
    | continueLoop => rfl

end

end Stmt

/-- A jump that leaves every statement of a script is inside the rounds of no loop, and is an error in the line
of the statement begun last. -/
theorem ScriptM.runScript_exit (budget : Int) (script : List Stmt) (s : Session) :
    runScript budget script s = match Stmt.runAllIn budget 0 script s with
      | .ok .next t => .ok () t
      | .ok (.jump ..) t => .error (.script ⟨.strayJump, t.line, none⟩) t
      | .error e t => reportedResult (.error e t) := by
  unfold runScript
  rw [reported_apply, Stmt.runAllIn_exit]
  cases hr : Stmt.runAll budget script s with
  | error e t => rw [Run.bind_error hr, Run.bind_error hr]
  | ok flow t =>
    rw [Run.bind_ok hr, Run.bind_ok hr]
    cases flow <;> rfl

/-- No jump that leaves a script was meant for a loop. -/
theorem Stmt.of_runAllIn_jump {budget : Int} {depth : Nat} {body : List Stmt} {s t : Session} {leaves : Bool}
    {loop : Nat} (h : runAllIn budget depth body s = .ok (.jump leaves loop) t) : loop = depth := by
  rw [runAllIn_exit] at h
  obtain ⟨flow, u, -, hflow⟩ := Run.of_bind_ok h
  cases flow <;> cases hflow <;> rfl

end WireSketch
