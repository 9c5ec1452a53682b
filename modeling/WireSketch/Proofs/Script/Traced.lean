import WireSketch.Proofs.Script.Trace

/-! Scripts run with a record of what they do; without the record their runs are those of scripts. -/
namespace WireSketch
open Contract

namespace Traced
open ScriptM (tick failAt beginAt checkLength)

variable (budget : Int)

mutual

def eval (e : Expr) : TraceM Value := do
  tick budget
  match e with
  | .const _ v => return v
  | .name p id => ScriptM.lookup p id
  | .list _ items => do
    let xs ← evalItems items #[]
    StoreM.newList xs
  | .tuple _ items => return .tuple (← evalItems items #[])
  | .set _ items => do
    let xs ← evalItems items #[]
    StoreM.newSet (← (ItemSet.ofItems xs : Except Fault ItemSet))
  | .dict _ entries => do
    let d ← evalEntries entries Table.empty
    StoreM.newDict d
  | .binary _ op left right => do
    let a ← eval left
    let b ← eval right
    op.guarded a b
  | .unary _ op operand => do
    let v ← eval operand
    v.unary op
  | .conj _ operands => evalConj operands .none
  | .disj _ operands => evalDisj operands .none
  | .compare _ first links => do
    let v ← eval first
    evalLinks links v
  | .conditional _ test yes no => do
    let v ← eval test
    if ← v.truth then eval yes else eval no
  | .subscript _ container index => do
    let c ← eval container
    let i ← eval index
    c.subscript i Value.shown
  | .slice _ start stop step => do
    let a ← evalOption start
    let b ← evalOption stop
    let c ← evalOption step
    return .slice a b c
  | .call p function args keywords => do
    let f ← eval function
    match f.callable? with
    | none => failAt p (.notCallable (← (f.shown : StoreM String)))
    | some f => do
      let xs ← evalItems args #[]
      let named ← evalKeywords keywords []
      let named ← (NamedValues.names named : Except Fault _)
      TraceM.call f ⟨xs.toList, named⟩
  | .joined _ parts => return .str (← evalParts parts "" 0)
  | .formatted p value conversion spec => do
    let v ← eval value
    let v ← (v.converted conversion : StoreM Value)
    match ← evalOption spec with
    | .str s => v.formattedAt p s
    | _ => v.formattedAt p ""
  | .starred p _ => failAt p (.forbidden Construct.starred.name)
  | .forbidden p c => failAt p (.forbidden c.name)

def evalOption : Option Expr → TraceM Value
  | none => return .none
  | some e => eval e

def evalItems : List Expr → Array Value → TraceM (Array Value)
  | [], done => return done
  | .starred _ e :: rest, done => do
    let v ← eval e
    let done ← Value.appendItems done v
    evalItems rest done
  | e :: rest, done => do
    let v ← eval e
    evalItems rest (done.push v)

def evalEntries : List Entry → Dict → TraceM Dict
  | [], d => return d
  | .pair key value :: rest, d => do
    let v ← eval value
    let k ← eval key
    let d ← (Dict.set d k v : Except Fault Dict)
    evalEntries rest d
  | .spread map :: rest, d => do
    let m ← eval map
    let d ← (Value.addEntries d m : StoreM Dict)
    evalEntries rest d

def evalConj : List Expr → Value → TraceM Value
  | [], last => return last
  | e :: rest, _ => do
    let v ← eval e
    if ← v.truth then evalConj rest v else return v

def evalDisj : List Expr → Value → TraceM Value
  | [], last => return last
  | e :: rest, _ => do
    let v ← eval e
    if ← v.truth then return v else evalDisj rest v

def evalLinks : List Link → Value → TraceM Value
  | [], _ => return .bool true
  | .mk op right :: rest, left => do
    let v ← eval right
    if ← left.compareBy op v then evalLinks rest v else return .bool false

def evalKeywords : List Keyword → NamedValues → TraceM NamedValues
  | [], named => return named
  | .named id e :: rest, named => do
    let v ← eval e
    evalKeywords rest (NamedValues.set named (.str id) v)
  | .spread e :: rest, named => do
    let m ← eval e
    let named ← (NamedValues.spread named m : StoreM NamedValues)
    evalKeywords rest named

def evalParts : List Expr → String → Nat → TraceM String
  | [], done, _ => return done
  | e :: rest, done, length => do
    let v ← eval e
    let s ← (v.plain : StoreM String)
    let length := length + s.length
    checkLength length
    evalParts rest (done ++ s) length

end

mutual

def assign : Expr → Value → TraceM Unit
  | .name p id, v => TraceM.store p id v
  | .tuple p targets, v | .list p targets, v => do
    let xs ← (v.items : StoreM (Array Value))
    if xs.size = targets.length then assignAll targets xs.toList
    else failAt p (.unpacking xs.size targets.length)
  | .subscript _ container index, v => do
    let c ← eval budget container
    let i ← eval budget index
    c.assignItem i v
  | .starred p _, _ => failAt p (.forbidden Construct.starred.name)
  | .forbidden p c, _ => failAt p (.forbidden c.name)
  | e, _ => failAt e.place .malformed

def assignAll : List Expr → List Value → TraceM Unit
  | e :: targets, v :: vs => do
    assign e v
    assignAll targets vs
  | _, _ => return

end

def assignEach : List Expr → Value → TraceM Unit
  | [], _ => return
  | e :: targets, v => do
    assign budget e v
    assignEach targets v

def current (e : Expr) : TraceM Value := do
  match e with
  | .name .. | .subscript .. => eval budget e
  | .starred p _ => failAt p (.forbidden Construct.starred.name)
  | .forbidden p c => failAt p (.forbidden c.name)
  | e => failAt e.place .malformed

def rounds (round : Value → TraceM Flow) : List Value → TraceM Bool
  | [] => return true
  | x :: rest => do
    match ← round x with
    | .breakLoop => return false
    | .next | .continueLoop => rounds round rest

mutual

def run : Stmt → TraceM Flow
  | .expr p e => do
    beginAt p
    tick budget
    let _ ← eval budget e
    return .next
  | .assign p targets value => do
    beginAt p
    tick budget
    let v ← eval budget value
    assignEach budget targets v
    return .next
  | .augmented p target op value => do
    beginAt p
    tick budget
    let a ← current budget target
    let b ← eval budget value
    let v ← op.guarded a b
    assign budget target v
    return .next
  | .branch p test yes no => do
    beginAt p
    tick budget
    let v ← eval budget test
    if ← v.truth then runAll yes else runAll no
  | .loop p target items body after => do
    beginAt p
    tick budget
    let v ← eval budget items
    let xs ← Stmt.loopItems p v
    let ended ← rounds (fun x => do
      assign budget target x
      runAll body) xs
    if ended then runAll after else return .next
  | .pass p => do
    beginAt p
    tick budget
    return .next
  | .breakLoop p => do
    beginAt p
    tick budget
    return .breakLoop
  | .continueLoop p => do
    beginAt p
    tick budget
    return .continueLoop
  | .forbidden p c => do
    beginAt p
    tick budget
    failAt p (.forbidden c.name)

def runAll : List Stmt → TraceM Flow
  | [] => return .next
  | s :: rest => do
    match ← run s with
    | .next => runAll rest
    | flow => return flow

end

/-! Without its record each program runs as the one that it repeats. -/

mutual

theorem traces_eval : (e : Expr) → Traces (eval budget e) (e.eval budget)
  | .const _ v => by
    simp only [eval, Expr.eval]
    exact (traces_tick budget).bind fun _ => traces_pure v
  | .name p id => by
    simp only [eval, Expr.eval]
    exact (traces_tick budget).bind fun _ => traces_work (worked_working.keeps_lookup p id)
  | .list _ items => by
    simp only [eval, Expr.eval]
    exact (traces_tick budget).bind fun _ => (traces_evalItems items #[]).bind fun _ =>
      traces_ofStore (StoreM.keeps_newList _)
  | .tuple _ items => by
    simp only [eval, Expr.eval]
    exact (traces_tick budget).bind fun _ => (traces_evalItems items #[]).bind fun _ => traces_pure _
  | .set _ items => by
    simp only [eval, Expr.eval]
    exact (traces_tick budget).bind fun _ => (traces_evalItems items #[]).bind fun _ =>
      (traces_ofExcept (ItemSet.civil_ofItems _)).bind fun _ => traces_ofStore (StoreM.keeps_newSet _)
  | .dict _ entries => by
    simp only [eval, Expr.eval]
    exact (traces_tick budget).bind fun _ => (traces_evalEntries entries Table.empty).bind fun _ =>
      traces_ofStore (StoreM.keeps_newDict _)
  | .binary _ op left right => by
    simp only [eval, Expr.eval]
    exact (traces_tick budget).bind fun _ => (traces_eval left).bind fun a =>
      (traces_eval right).bind fun b => traces_work (worked_working.keeps_guarded op a b)
  | .unary _ op operand => by
    simp only [eval, Expr.eval]
    exact (traces_tick budget).bind fun _ => (traces_eval operand).bind fun v =>
      traces_ofStore (Value.keeps_unary op v)
  | .conj _ operands => by
    simp only [eval, Expr.eval]
    exact (traces_tick budget).bind fun _ => traces_evalConj operands .none
  | .disj _ operands => by
    simp only [eval, Expr.eval]
    exact (traces_tick budget).bind fun _ => traces_evalDisj operands .none
  | .compare _ first links => by
    simp only [eval, Expr.eval]
    exact (traces_tick budget).bind fun _ => (traces_eval first).bind fun v => traces_evalLinks links v
  | .conditional _ test yes no => by
    simp only [eval, Expr.eval]
    refine (traces_tick budget).bind fun _ => (traces_eval test).bind fun v =>
      (traces_ofStore v.keeps_truth).bind fun holds => ?_
    cases holds with
    | true => exact traces_eval yes
    | false => exact traces_eval no
  | .subscript _ container index => by
    simp only [eval, Expr.eval]
    exact (traces_tick budget).bind fun _ => (traces_eval container).bind fun c =>
      (traces_eval index).bind fun i => traces_ofStore (c.keeps_subscript i)
  | .slice _ start stop step => by
    simp only [eval, Expr.eval]
    exact (traces_tick budget).bind fun _ => (traces_evalOption start).bind fun _ =>
      (traces_evalOption stop).bind fun _ => (traces_evalOption step).bind fun _ => traces_pure _
  | .call p function args keywords => by
    simp only [eval, Expr.eval]
    refine (traces_tick budget).bind fun _ => (traces_eval function).bind fun f => ?_
    cases f.callable? with
    | none => exact (traces_ofStore f.keeps_shown).bind fun _ => traces_failAt p rfl
    | some f =>
      exact (traces_evalItems args #[]).bind fun _ => (traces_evalKeywords keywords []).bind fun _ =>
        (traces_ofExcept (NamedValues.civil_names _)).bind fun _ => traces_call f _
  | .joined _ parts => by
    simp only [eval, Expr.eval]
    exact (traces_tick budget).bind fun _ => (traces_evalParts parts "" 0).bind fun _ => traces_pure _
  | .formatted p value conversion spec => by
    simp only [eval, Expr.eval]
    refine (traces_tick budget).bind fun _ => (traces_eval value).bind fun v =>
      (traces_ofStore (v.keeps_converted conversion)).bind fun v =>
        (traces_evalOption spec).bind fun s => ?_
    cases s with
    | str s => exact traces_work (worked_working.keeps_formattedAt p v s)
    | _ => exact traces_work (worked_working.keeps_formattedAt p v "")
  | .starred p _ => by
    simp only [eval, Expr.eval]
    exact (traces_tick budget).bind fun _ => traces_failAt p rfl
  | .forbidden p _ => by
    simp only [eval, Expr.eval]
    exact (traces_tick budget).bind fun _ => traces_failAt p rfl

theorem traces_evalOption : (e : Option Expr) → Traces (evalOption budget e) (Expr.evalOption budget e)
  | none => traces_pure _
  | some e => traces_eval e

theorem traces_evalItems : (items : List Expr) → (done : Array Value) →
    Traces (evalItems budget items done) (Expr.evalItems budget items done)
  | [], done => traces_pure done
  | e :: rest, done => by
    have plain : Traces (do
        let v ← eval budget e
        evalItems budget rest (done.push v)) (do
        let v ← e.eval budget
        Expr.evalItems budget rest (done.push v)) :=
      (traces_eval e).bind fun v => traces_evalItems rest (done.push v)
    cases e with
    | starred _ e =>
      simp only [evalItems, Expr.evalItems]
      exact (traces_eval e).bind fun v => (traces_work (worked_working.keeps_appendItems done v)).bind
        fun done => traces_evalItems rest done
    | _ => exact plain

theorem traces_evalEntries : (entries : List Entry) → (d : Dict) →
    Traces (evalEntries budget entries d) (Expr.evalEntries budget entries d)
  | [], d => traces_pure d
  | .pair key value :: rest, d => by
    simp only [evalEntries, Expr.evalEntries]
    exact (traces_eval value).bind fun _ => (traces_eval key).bind fun _ =>
      (traces_ofExcept (Dict.civil_set d _ _)).bind fun d => traces_evalEntries rest d
  | .spread map :: rest, d => by
    simp only [evalEntries, Expr.evalEntries]
    exact (traces_eval map).bind fun m => (traces_ofStore (Value.keeps_addEntries d m)).bind fun d =>
      traces_evalEntries rest d

theorem traces_evalConj : (operands : List Expr) → (last : Value) →
    Traces (evalConj budget operands last) (Expr.evalConj budget operands last)
  | [], last => traces_pure last
  | e :: rest, _ => by
    simp only [evalConj, Expr.evalConj]
    refine (traces_eval e).bind fun v => (traces_ofStore v.keeps_truth).bind fun holds => ?_
    cases holds with
    | true => exact traces_evalConj rest v
    | false => exact traces_pure v

theorem traces_evalDisj : (operands : List Expr) → (last : Value) →
    Traces (evalDisj budget operands last) (Expr.evalDisj budget operands last)
  | [], last => traces_pure last
  | e :: rest, _ => by
    simp only [evalDisj, Expr.evalDisj]
    refine (traces_eval e).bind fun v => (traces_ofStore v.keeps_truth).bind fun holds => ?_
    cases holds with
    | true => exact traces_pure v
    | false => exact traces_evalDisj rest v

theorem traces_evalLinks : (links : List Link) → (left : Value) →
    Traces (evalLinks budget links left) (Expr.evalLinks budget links left)
  | [], _ => traces_pure _
  | .mk op right :: rest, left => by
    simp only [evalLinks, Expr.evalLinks]
    refine (traces_eval right).bind fun v =>
      (traces_ofStore (Value.keeps_compareBy op left v)).bind fun holds => ?_
    cases holds with
    | true => exact traces_evalLinks rest v
    | false => exact traces_pure _

theorem traces_evalKeywords : (keywords : List Keyword) → (named : NamedValues) →
    Traces (evalKeywords budget keywords named) (Expr.evalKeywords budget keywords named)
  | [], named => traces_pure named
  | .named id e :: rest, named => by
    simp only [evalKeywords, Expr.evalKeywords]
    exact (traces_eval e).bind fun v => traces_evalKeywords rest (NamedValues.set named (.str id) v)
  | .spread e :: rest, named => by
    simp only [evalKeywords, Expr.evalKeywords]
    exact (traces_eval e).bind fun m =>
      (traces_ofStore (NamedValues.keeps_spread named m)).bind fun named => traces_evalKeywords rest named

theorem traces_evalParts : (parts : List Expr) → (done : String) → (length : Nat) →
    Traces (evalParts budget parts done length) (Expr.evalParts budget parts done length)
  | [], done, _ => traces_pure done
  | e :: rest, done, length => by
    simp only [evalParts, Expr.evalParts]
    exact (traces_eval e).bind fun v => (traces_ofStore v.keeps_plain).bind fun s =>
      (traces_work (worked_working.keeps_checkLength _)).bind fun _ =>
        traces_evalParts rest (done ++ s) (length + s.length)

end

mutual

theorem traces_assign : (e : Expr) → (v : Value) → Traces (assign budget e v) (e.assign budget v)
  | .name p id, v => traces_store p id v
  | .tuple p targets, v => by
    simp only [assign, Expr.assign]
    refine (traces_ofStore v.keeps_items).bind fun xs => ?_
    by_cases hsize : xs.size = targets.length
    · rw [if_pos hsize, if_pos hsize]
      exact traces_assignAll targets xs.toList
    · rw [if_neg hsize, if_neg hsize]
      exact traces_failAt p rfl
  | .list p targets, v => by
    simp only [assign, Expr.assign]
    refine (traces_ofStore v.keeps_items).bind fun xs => ?_
    by_cases hsize : xs.size = targets.length
    · rw [if_pos hsize, if_pos hsize]
      exact traces_assignAll targets xs.toList
    · rw [if_neg hsize, if_neg hsize]
      exact traces_failAt p rfl
  | .subscript _ container index, v => by
    simp only [assign, Expr.assign]
    exact (traces_eval budget container).bind fun _ => (traces_eval budget index).bind fun _ =>
      traces_ofStore (Value.keeps_assignItem _ _ v)
  | .starred p _, _ => traces_failAt p rfl
  | .forbidden p _, _ => traces_failAt p rfl
  | .const .., _ | .set .., _ | .dict .., _ | .binary .., _ | .unary .., _ | .conj .., _ | .disj .., _
  | .compare .., _ | .conditional .., _ | .slice .., _ | .call .., _ | .joined .., _
  | .formatted .., _ => traces_failAt _ rfl

theorem traces_assignAll : (targets : List Expr) → (vs : List Value) →
    Traces (assignAll budget targets vs) (Expr.assignAll budget targets vs)
  | [], _ => traces_pure _
  | _ :: _, [] => traces_pure _
  | e :: targets, v :: vs => by
    simp only [assignAll, Expr.assignAll]
    exact (traces_assign e v).bind fun _ => traces_assignAll targets vs

end

theorem traces_assignEach (targets : List Expr) (v : Value) :
    Traces (assignEach budget targets v) (Expr.assignEach budget targets v) := by
  induction targets with
  | nil => exact traces_pure _
  | cons e targets ih =>
    simp only [assignEach, Expr.assignEach]
    exact (traces_assign budget e v).bind fun _ => ih

theorem traces_current (e : Expr) : Traces (current budget e) (e.current budget) := by
  cases e with
  | name p id => exact traces_eval budget (.name p id)
  | subscript p container index => exact traces_eval budget (.subscript p container index)
  | _ => exact traces_failAt _ rfl

theorem traces_rounds {round : Value → TraceM Flow} {plain : Value → ScriptM Flow}
    (hround : ∀ x, Traces (round x) (plain x)) :
    (xs : List Value) → Traces (rounds round xs) (Stmt.rounds plain xs)
  | [] => traces_pure true
  | x :: rest => by
    simp only [rounds, Stmt.rounds]
    refine (hround x).bind fun flow => ?_
    cases flow with
    | breakLoop => exact traces_pure false
    | next => exact traces_rounds hround rest
    | continueLoop => exact traces_rounds hround rest

/-- Each statement begins with a step. -/
theorem traces_begin {α : Type} (p : Place) {x : TraceM α} {y : ScriptM α} (h : Traces x y) :
    Traces (do
      beginAt p
      tick budget
      x) (do
      beginAt p
      tick budget
      y) :=
  (traces_work (worked_working.keeps_beginAt p)).bind fun _ => (traces_tick budget).bind fun _ => h

mutual

theorem traces_run : (s : Stmt) → Traces (run budget s) (s.run budget)
  | .expr p e => by
    simp only [run, Stmt.run]
    exact traces_begin budget p ((traces_eval budget e).bind fun _ => traces_pure _)
  | .assign p targets value => by
    simp only [run, Stmt.run]
    exact traces_begin budget p ((traces_eval budget value).bind fun v =>
      (traces_assignEach budget targets v).bind fun _ => traces_pure _)
  | .augmented p target op value => by
    simp only [run, Stmt.run]
    exact traces_begin budget p ((traces_current budget target).bind fun a =>
      (traces_eval budget value).bind fun b => (traces_work (worked_working.keeps_guarded op a b)).bind
        fun v => (traces_assign budget target v).bind fun _ => traces_pure _)
  | .branch p test yes no => by
    simp only [run, Stmt.run]
    refine traces_begin budget p ((traces_eval budget test).bind fun v =>
      (traces_ofStore v.keeps_truth).bind fun holds => ?_)
    cases holds with
    | true => exact traces_runAll yes
    | false => exact traces_runAll no
  | .loop p target items body after => by
    simp only [run, Stmt.run]
    refine traces_begin budget p ((traces_eval budget items).bind fun v =>
      (traces_work (worked_working.keeps_loopItems p v)).bind fun xs =>
        (traces_rounds (fun x => ?_) xs).bind fun ended => ?_)
    · exact (traces_assign budget target x).bind fun _ => traces_runAll body
    · cases ended with
      | true => exact traces_runAll after
      | false => exact traces_pure _
  | .pass p => by
    simp only [run, Stmt.run]
    exact traces_begin budget p (traces_pure _)
  | .breakLoop p => by
    simp only [run, Stmt.run]
    exact traces_begin budget p (traces_pure _)
  | .continueLoop p => by
    simp only [run, Stmt.run]
    exact traces_begin budget p (traces_pure _)
  | .forbidden p _ => by
    simp only [run, Stmt.run]
    exact traces_begin budget p (traces_failAt p rfl)

theorem traces_runAll : (body : List Stmt) → Traces (runAll budget body) (Stmt.runAll budget body)
  | [] => traces_pure _
  | s :: rest => by
    simp only [runAll, Stmt.runAll]
    refine (traces_run s).bind fun flow => ?_
    cases flow with
    | next => exact traces_runAll rest
    | breakLoop => exact traces_pure _
    | continueLoop => exact traces_pure _

end

end Traced

namespace Trace

def ends : Session → Trace → Session
  | s, [] => s
  | _, ev :: es => ends ev.after es

end Trace

theorem Explains.ends {s t : Session} {es : Trace} (h : Explains s es t) : Trace.ends s es = t := by
  induction h with
  | nil => rfl
  | cons _ _ ih => exact ih

/-- The events of a trace up to any point explain how the session there came about. -/
theorem Explains.take {s t : Session} {es : Trace} (h : Explains s es t) :
    (n : Nat) → Explains s (es.take n) (Trace.ends s (es.take n))
  | 0 => .nil s
  | n + 1 => by
    cases h with
    | nil => exact .nil s
    | cons hact rest => exact .cons hact (rest.take n)

theorem Explains.drop {s t : Session} {es : Trace} (h : Explains s es t) :
    (n : Nat) → Explains (Trace.ends s (es.take n)) (es.drop n) t
  | 0 => h
  | n + 1 => by
    cases h with
    | nil => exact .nil s
    | cons _ rest => exact rest.drop n

/-- Each event begins in the session after the events before it. -/
theorem Explains.getElem? {s t : Session} {es : Trace} {ev : Event} (h : Explains s es t) :
    {n : Nat} → es[n]? = some ev →
      ev.before = Trace.ends s (es.take n) ∧ ev.action.Leads ev.before ev.after
  | 0, hev => by
    cases h with
    | nil => cases hev
    | cons hact _ =>
      cases hev
      exact ⟨rfl, hact⟩
  | n + 1, hev => by
    cases h with
    | nil => cases hev
    | cons _ rest => exact rest.getElem? hev

namespace Session

def trace (budget : Int) (source : String) (s : Session) : Trace :=
  if source.toList.contains '\x00' then []
  else match Stmt.ofSource? source with
    | none => []
    | some script => (Run.final (Traced.runAll budget script (s, []))).2

/-- The session of a run after so many events. -/
def pointAt (budget : Int) (source : String) (s : Session) (n : Nat) : Session :=
  Trace.ends s ((s.trace budget source).take n)

end Session

namespace ScriptM

variable {α : Type}

theorem final_reported (x : ScriptM α) (s : Session) : Run.final (reported x s) = Run.final (x s) := by
  unfold reported
  cases x s with
  | ok a t => rfl
  | error e t =>
    cases e with
    | fault f =>
      dsimp only
      split <;> rfl
    | diagram e => rfl
    | script e => rfl

/-- A whole script ends where its statements end. -/
theorem final_runScript (budget : Int) (script : List Stmt) (s : Session) :
    Run.final (runScript budget script s) = Run.final (Stmt.runAll budget script s) := by
  unfold runScript
  rw [final_reported]
  cases h : Stmt.runAll budget script s with
  | ok flow t =>
    rw [Run.bind_ok h]
    cases flow <;> rfl
  | error e t =>
    rw [Run.bind_error h]
    rfl

/-- The trace of a script that can be read is the record of its statements. -/
theorem trace_of_ofSource? (budget : Int) {source : String} {script : List Stmt}
    (hnull : source.toList.contains '\x00' = false) (hscript : Stmt.ofSource? source = some script)
    (s : Session) : Explains s (s.trace budget source) (Run.final (Stmt.runAll budget script s)) ∧
      (s.trace budget source).Concludes (Stmt.runAll budget script s) := by
  obtain ⟨fs, hrun, hfs⟩ := Traced.traces_runAll budget script s []
  have htrace : s.trace budget source = fs := by
    unfold Session.trace
    rw [hnull, hscript]
    dsimp only
    rw [hrun]
    cases Stmt.runAll budget script s with
    | ok flow t => rfl
    | error e t => rfl
  rw [htrace]
  exact hfs

/-- The trace of a script explains the session that the script leaves. -/
theorem explains_runSource (budget : Int) (source : String) (s : Session) :
    Explains s (s.trace budget source) (Run.final (runSource budget source s)) := by
  cases hnull : source.toList.contains '\x00' with
  | true =>
    unfold Session.trace runSource
    rw [hnull]
    exact .nil s
  | false =>
    cases hscript : Stmt.ofSource? source with
    | none =>
      unfold Session.trace runSource
      rw [hnull, hscript]
      exact .nil s
    | some script =>
      have hrun : runSource budget source s = runScript budget script s := by
        unfold runSource
        rw [hnull, hscript]
        rfl
      rw [hrun, final_runScript]
      exact (trace_of_ofSource? budget hnull hscript s).1

end ScriptM

namespace Session

variable (budget : Int) (source : String) (s : Session)

theorem explains_pointAt (n : Nat) :
    Explains s ((s.trace budget source).take n) (s.pointAt budget source n) :=
  (ScriptM.explains_runSource budget source s).take n

/-- The last point of a run is the session that the script leaves. -/
theorem pointAt_length : s.pointAt budget source (s.trace budget source).length =
    Run.final (ScriptM.runSource budget source s) := by
  unfold pointAt
  rw [List.take_length]
  exact (ScriptM.explains_runSource budget source s).ends

/-- The events between two points of a run lead from the one to the other. -/
theorem explains_between {m n : Nat} (h : m ≤ n) :
    Explains (s.pointAt budget source m) (((s.trace budget source).take n).drop m)
      (s.pointAt budget source n) := by
  have hdrop := (explains_pointAt budget source s n).drop m
  rwa [List.take_take, Nat.min_eq_left h] at hdrop

end Session
end WireSketch
