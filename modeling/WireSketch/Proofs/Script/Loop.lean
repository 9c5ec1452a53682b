import WireSketch.Proofs.Script.Display
import WireSketch.Proofs.Script.Jump

/-! Loops over containers: the items are those held when the loop begins, whatever its rounds do to them. -/
namespace WireSketch
open ScriptM

/-- What a list, tuple, text, dict, set or range holds in a store, in order. -/
inductive Value.Holds (h : Store) : Value → List Value → Prop
  | list {r : Ref} {xs : Array Value} (hr : h.cells[r]? = some (.list xs)) : Holds h (.list r) xs.toList
  | tuple (xs : Array Value) : Holds h (.tuple xs) xs.toList
  | str (text : String) : Holds h (.str text) (text.toList.map fun c => .str (String.singleton c))
  | dict {r : Ref} {d : Dict} (hr : h.cells[r]? = some (.dict d)) :
      Holds h (.dict r) (d.entries.toList.map Prod.fst)
  | set {r : Ref} {xs : ItemSet} (hr : h.cells[r]? = some (.set xs)) : Holds h (.set r) xs.entries.toList
  | range (r : IntRange) :
      Holds h (.range r) ((List.range r.length).map fun i : Nat => .int (r.start + i * r.step))

inductive RoundsEnd
  | exhausted
  | left
  | failed (e : Failure)

/-- `Rounds bind body s items bound ending t`: from the session `s` the rounds of a loop over `items` bind the
items `bound`, one in each round, and end in the session `t`. -/
inductive Rounds (bind : Value → ScriptM Unit) (body : ScriptM Flow) :
    Session → List Value → List Value → RoundsEnd → Session → Prop
  | exhausted (s : Session) : Rounds bind body s [] [] .exhausted s
  | unbound {s t : Session} {x : Value} {rest : List Value} {e : Failure} (hbind : bind x s = .error e t) :
      Rounds bind body s (x :: rest) [x] (.failed e) t
  | failed {s t u : Session} {x : Value} {rest : List Value} {e : Failure} (hbind : bind x s = .ok () t)
      (hbody : body t = .error e u) : Rounds bind body s (x :: rest) [x] (.failed e) u
  | left {s t u : Session} {x : Value} {rest : List Value} (hbind : bind x s = .ok () t)
      (hbody : body t = .ok .breakLoop u) : Rounds bind body s (x :: rest) [x] .left u
  | round {s t u v : Session} {x : Value} {rest bound : List Value} {flow : Flow} {ending : RoundsEnd}
      (hbind : bind x s = .ok () t) (hbody : body t = .ok flow u) (hflow : flow ≠ .breakLoop)
      (hrest : Rounds bind body u rest bound ending v) :
      Rounds bind body s (x :: rest) (x :: bound) ending v

namespace Rounds

variable {bind : Value → ScriptM Unit} {body : ScriptM Flow} {s t : Session} {xs bound : List Value}
  {ending : RoundsEnd}

theorem bound_prefix (h : Rounds bind body s xs bound ending t) : bound <+: xs := by
  induction h with
  | exhausted => exact List.prefix_rfl
  | unbound _ | failed _ _ | left _ _ => exact List.prefix_append [_] _
  | round _ _ _ _ ih => exact (List.prefix_cons_inj _).mpr ih

theorem bound_all (h : Rounds bind body s xs bound .exhausted t) : bound = xs := by
  generalize hending : RoundsEnd.exhausted = ending at h
  induction h with
  | exhausted => rfl
  | unbound _ | failed _ _ | left _ _ => cases hending
  | round _ _ _ _ ih => exact congrArg _ (ih hending)

end Rounds

namespace Stmt

/-- The rounds of a loop as a program are its rounds as a course. -/
theorem run_rounds (bind : Value → ScriptM Unit) (body : ScriptM Flow) : (xs : List Value) → (s : Session) →
    ∃ bound ending t, Rounds bind body s xs bound ending t ∧
      rounds (fun x => bind x >>= fun _ => body) xs s = match ending with
        | .exhausted => .ok true t
        | .left => .ok false t
        | .failed e => .error e t
  | [], s => ⟨[], .exhausted, s, .exhausted s, rfl⟩
  | x :: rest, s => by
    unfold rounds
    simp only [bind_assoc]
    cases hbind : bind x s with
    | error e t => exact ⟨[x], .failed e, t, .unbound hbind, Run.bind_error hbind⟩
    | ok a t =>
      rw [Run.bind_ok hbind]
      cases hbody : body t with
      | error e u => exact ⟨[x], .failed e, u, .failed hbind hbody, Run.bind_error hbody⟩
      | ok flow u =>
        rw [Run.bind_ok hbody]
        obtain ⟨bound, ending, v, hrest, hrun⟩ := run_rounds bind body rest u
        cases flow with
        | breakLoop => exact ⟨[x], .left, u, .left hbind hbody, rfl⟩
        | next => exact ⟨x :: bound, ending, v, .round hbind hbody nofun hrest, hrun⟩
        | continueLoop => exact ⟨x :: bound, ending, v, .round hbind hbody nofun hrest, hrun⟩

end Stmt

namespace Value.Holds

variable {h : Store} {v : Value} {xs : List Value} {s : Session}

theorem run_sizedItems? (hv : v.Holds h xs) : v.sizedItems? h = .ok (some xs.toArray) h := by
  have hget : (get : StoreM Store) h = .ok h h := rfl
  cases hv with
  | tuple | str => rfl
  | list hr =>
    unfold sizedItems? StoreM.getList
    simp only [bind_assoc]
    rw [Run.bind_ok hget, hr]
    rfl
  | @dict r d hr =>
    have hkeys : d.keys = (d.entries.toList.map Prod.fst).toArray := by rw [← Array.toList_map]; rfl
    unfold sizedItems? StoreM.getDict
    simp only [bind_assoc]
    rw [Run.bind_ok hget, hr, ← hkeys]
    rfl
  | set hr =>
    unfold sizedItems? StoreM.getSet
    simp only [bind_assoc]
    rw [Run.bind_ok hget, hr]
    rfl
  | range r =>
    have hitems : r.items = ((List.range r.length).map fun i : Nat => int (r.get i)).toArray := by
      rw [← List.map_toArray, List.toArray_range]
      rfl
    exact congrArg (fun xs => EStateM.Result.ok (some xs) h) hitems

theorem run_items (hv : v.Holds h xs) : v.items h = .ok xs.toArray h := by
  have hsized := hv.run_sizedItems?
  unfold items
  cases hv <;> exact Run.bind_ok hsized

theorem run_length? (hv : v.Holds h xs) : v.length? h = .ok (some xs.length) h := by
  rw [length?_eq_size, map_eq_pure_bind, Run.bind_ok hv.run_sizedItems?]
  rfl

theorem run_sizedLength? (hv : v.Holds h xs) :
    v.sizedLength? h = if xs.length ≥ Nat.pow 2 63 then .error (.wordTooLarge "C ssize_t") h
      else .ok (some xs.length) h := by
  unfold sizedLength?
  rw [Run.bind_ok hv.run_length?]
  simp only [Option.any_some, decide_eq_true_eq]
  split <;> rfl

end Value.Holds

namespace Stmt

variable {v : Value} {xs : List Value} {s : Session}

/-- A loop takes all items of a container that is not too long, and changes nothing by it. -/
theorem run_loopItems (p : Place) (hv : v.Holds s.world.store xs) (hlength : xs.length ≤ maxSequenceLength) :
    loopItems p v s = .ok xs s := by
  have hchecked : checkLoop p v s = .ok () s := by
    have hsized := hv.run_sizedLength?
    rw [if_neg (Nat.not_le.mpr (Nat.lt_of_le_of_lt hlength (by decide +kernel)))] at hsized
    unfold checkLoop
    rw [Run.bind_ok (run_ofStore hsized)]
    exact congrFun (if_neg (Nat.not_lt.mpr hlength)) s
  have hfirst : v.firstItems (maxSequenceLength + 1) s.world.store = .ok xs.toArray s.world.store := by
    have hitems := hv.run_items
    have hall : xs.toArray.extract 0 (maxSequenceLength + 1) = xs.toArray :=
      Array.extract_eq_self_of_le (Nat.le_succ_of_le hlength)
    unfold Value.firstItems
    cases hv <;> exact (Run.bind_ok hitems).trans (congrArg (EStateM.Result.ok · s.world.store) hall)
  unfold loopItems
  rw [Run.bind_ok hchecked, Run.bind_ok (run_ofStore hfirst)]
  exact congrFun (if_neg (Nat.not_lt.mpr hlength)) s

/-- A loop over a container that is too long fails before its first round. -/
theorem run_loopItems_long (p : Place) (hv : v.Holds s.world.store xs)
    (hlength : maxSequenceLength < xs.length) : ∃ e, loopItems p v s = .error e s ∧
      (e = .script ⟨.loopLimit xs.length, some p.line, some p.column⟩ ∨
        e = .fault (.wordTooLarge "C ssize_t")) := by
  have hsized := hv.run_sizedLength?
  split at hsized
  · refine ⟨_, Run.bind_error ?_, .inr rfl⟩
    unfold checkLoop
    exact Run.bind_error (run_ofStore_error hsized)
  · refine ⟨_, Run.bind_error ?_, .inl rfl⟩
    unfold checkLoop
    rw [Run.bind_ok (run_ofStore hsized)]
    exact congrFun (if_pos hlength) s

/-- What a loop evaluates before its first round: its own step and its items. -/
def header (budget : Int) (p : Place) (items : Expr) : ScriptM Value := do
  beginAt p
  tick budget
  items.eval budget

/-- A loop over a container that holds too many items fails before its target is bound. Else its rounds bind
a prefix of the items held when it began, all of them if no jump and no failure ended it, and its other block
runs in this case only. Jumps act on the innermost loop with rounds around them, and fail if there is none. -/
theorem run_loop (budget : Int) (p : Place) (target items : Expr) (body after : List Stmt) {s t : Session}
    {v : Value} {xs : List Value} (hitems : header budget p items s = .ok v t)
    (hv : v.Holds t.world.store xs) :
    (maxSequenceLength < xs.length →
      ∃ e, (loop p target items body after).run budget s = .error e t ∧
        (e = .script ⟨.loopLimit xs.length, some p.line, some p.column⟩ ∨
          e = .fault (.wordTooLarge "C ssize_t"))) ∧
    (xs.length ≤ maxSequenceLength →
      ∃ bound ending u, Rounds (target.assign budget) (runAll budget body) t xs bound ending u ∧
        bound <+: xs ∧ (ending = .exhausted → bound = xs) ∧
        (loop p target items body after).run budget s = match ending with
          | .exhausted => runAll budget after u
          | .left => .ok .next u
          | .failed e => .error e u) ∧
    (∀ depth stmt, runIn budget depth stmt = (stmt.run budget >>= fun flow => pure (flow.exit depth))) ∧
    ∀ script r, match runAllIn budget 0 script r with
      | .ok .next u => runScript budget script r = .ok () u
      | .ok (.jump _ depth) u =>
        depth = 0 ∧ runScript budget script r = .error (.script ⟨.strayJump, u.line, none⟩) u
      | .error e u => runScript budget script r = reportedResult (.error e u) := by
  have hrun : (loop p target items body after).run budget = (header budget p items >>= fun v =>
      loopItems p v >>= fun xs => rounds (fun x => target.assign budget x >>= fun _ => runAll budget body) xs >>=
        fun ended => if ended then runAll budget after else pure .next) := by
    simp only [run, header, bind_assoc]
  rw [hrun, Run.bind_ok hitems]
  refine ⟨fun hlong => ?_, fun hshort => ?_, fun depth stmt => runIn_exit depth stmt, fun script r => ?_⟩
  · obtain ⟨e, he, hkind⟩ := run_loopItems_long p hv hlong
    exact ⟨e, Run.bind_error he, hkind⟩
  · obtain ⟨bound, ending, u, hcourse, hrounds⟩ := run_rounds (target.assign budget) (runAll budget body) xs t
    refine ⟨bound, ending, u, hcourse, hcourse.bound_prefix, fun hend => (hend ▸ hcourse).bound_all, ?_⟩
    rw [Run.bind_ok (run_loopItems p hv hshort)]
    cases ending with
    | exhausted => exact Run.bind_ok hrounds
    | left => exact Run.bind_ok hrounds
    | failed e => exact Run.bind_error hrounds
  · have hscript := runScript_exit budget script r
    cases hr : runAllIn budget 0 script r with
    | error e u => rwa [hr] at hscript
    | ok exit u =>
      rw [hr] at hscript
      cases exit with
      | next => exact hscript
      | jump leaves depth => exact ⟨of_runAllIn_jump hr, hscript⟩

/-- A body that adds to the list of its loop still sees the two items of the beginning. -/
theorem run_loop_growing :
    let xs : List Value := [.int 1, .int 2]
    let name := Expr.name ⟨1, 10⟩ "xs"
    let body := [augmented ⟨2, 5⟩ (.name ⟨2, 5⟩ "xs") .add (.list ⟨2, 11⟩ [.name ⟨2, 12⟩ "x"])]
    let s : Session :=
      { world := { World.initial {} with store := ⟨#[.list xs.toArray]⟩ }, bindings := [("xs", .list 0)] }
    let t : Session := { s with steps := 2, line := some 1, column := some 1 }
    ∃ bound ending u, Rounds (Expr.assign 100 (.name ⟨1, 5⟩ "x")) (runAll 100 body) t xs bound ending u ∧
      bound <+: xs ∧ (ending = .exhausted → bound = xs) ∧
      (loop ⟨1, 1⟩ (.name ⟨1, 5⟩ "x") name body []).run 100 s = match ending with
        | .exhausted => .ok .next u
        | .left => .ok .next u
        | .failed e => .error e u := by
  intro xs name body s t
  have hname : lookup ⟨1, 10⟩ "xs" t = .ok (.list 0) t := lookup_of_public (by decide +kernel)
  have hitems : header 100 ⟨1, 1⟩ name s = .ok (.list 0) t := hname
  have hv : Value.Holds t.world.store (.list 0) xs := .list rfl
  exact (run_loop 100 ⟨1, 1⟩ (.name ⟨1, 5⟩ "x") name body [] hitems hv).2.1 (by decide)

end Stmt
end WireSketch
