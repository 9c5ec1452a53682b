import WireSketch.Proofs.Script.Budget

/-! The statement whose own work fails, and the place at which the failure is reported. -/
namespace WireSketch
open Contract ScriptM

def Failure.isReport : Failure → Bool
  | .script ⟨.fault _, _, _⟩ => true
  | _ => false

theorem Failure.isReport_of_isOwn {e : Failure} (h : e.isOwn = true) : e.isReport = false := by
  unfold isReport
  split
  · cases h
  · rfl

/-- Drawing may do anything, but reports no fault. -/
def Contract.unreporting : Contract Failure World where
  rel _ _ := True
  fails e := e.isReport = false
  refl _ := trivial
  trans _ _ := trivial

theorem unreporting_calling : Contract.unreporting.Calling where
  store _ _ := trivial
  styles _ _ := trivial
  scene _ _ := trivial
  labels _ _ := trivial
  fault _ _ := rfl
  diagram _ := rfl
  field _ _ _ := trivial
  range _ := rfl
  format _ r _ h := by
    cases r with
    | fault f => exact absurd rfl (h f)
    | _ => rfl

/-- Programs that leave the place of the statement begun last, and report no fault. -/
def Contract.placed : Contract Failure Session where
  rel s t := t.line = s.line ∧ t.column = s.column
  fails e := e.isReport = false
  refl _ := ⟨rfl, rfl⟩
  trans hst htu := ⟨htu.1.trans hst.1, htu.2.trans hst.2⟩

theorem placed_inside : civil.Inside placed where
  heap _ _ _ := ⟨rfl, rfl⟩
  fault _ _ := rfl
  script _ h := Failure.isReport_of_isOwn h

theorem placed_tick (budget : Int) : placed.Keeps (tick budget) :=
  keeps_tick (C := placed) (fun _ => ⟨rfl, rfl⟩) (fun _ _ => rfl) budget

theorem placed_liftDraw {α : Type} {x : DrawM α} (hx : unreporting.Keeps x) :
    placed.Keeps (liftM x : ScriptM α) :=
  keeps_liftDraw (C := placed) (fun _ _ _ => ⟨rfl, rfl⟩) (fun _ he => he) hx

/-- Expressions and targets begin no statement. -/
theorem placed_assigns : Assigns fun _ x => ∀ budget, placed.Keeps (x budget) where
  toComposes := placed_inside.composes placed_tick fun _ _ =>
    placed_liftDraw (unreporting_calling.keeps_call fun _ _ _ _ _ _ _ _ => rfl)
  assignItem c i v _ := placed_inside.keeps_ofStore (Value.keeps_assignItem c i v)
  store p name v _ := placed_inside.keeps_store (fun _ _ _ => ⟨⟨rfl, rfl⟩, trivial⟩)
    (fun _ _ => placed_liftDraw fun _ => ⟨trivial, trivial⟩) p name v

/-- Whose work failed: a statement's own, or that of a loop that binds its target again. -/
inductive Blame
  | own (s : Stmt)
  | again (loop : Stmt)

def Blame.stmt : Blame → Stmt
  | own s => s
  | again loop => loop

/-- A program of scripts whose failures tell whose work it was. -/
abbrev BlameM := EStateM (Failure × Blame) Session

namespace BlameM

variable {α β : Type}

def ofWork (b : Blame) (x : ScriptM α) : BlameM α := fun s =>
  match x s with
  | .ok a t => .ok a t
  | .error e t => .error (e, b) t

def forget (x : BlameM α) : ScriptM α := fun s =>
  match x s with
  | .ok a t => .ok a t
  | .error (e, _) t => .error e t

theorem forget_ofWork (b : Blame) (x : ScriptM α) : forget (ofWork b x) = x := by
  funext s
  unfold forget ofWork
  cases x s <;> rfl

theorem forget_bind (x : BlameM α) (f : α → BlameM β) :
    forget (x >>= f) = forget x >>= fun a => forget (f a) := by
  funext s
  cases hx : x s with
  | ok a t =>
    have hrun : forget x s = .ok a t := by
      unfold forget
      rw [hx]
    rw [Run.bind_ok hrun]
    unfold forget
    rw [Run.bind_ok hx]
  | error e t =>
    have hrun : forget x s = .error e.1 t := by
      unfold forget
      rw [hx]
    rw [Run.bind_error hrun]
    unfold forget
    rw [Run.bind_error hx]

end BlameM

namespace Stmt
open BlameM

variable (budget : Int)

/-- The rounds of a loop, which binds its target itself; the first round is told from those after it. -/
def roundsBlamed (loop : Stmt) (target : Expr) (body : BlameM Flow) : Bool → List Value → BlameM Bool
  | _, [] => return true
  | again, x :: rest => do
    ofWork (if again then .again loop else .own loop) (target.assign budget x)
    match ← body with
    | .breakLoop => return false
    | .next | .continueLoop => roundsBlamed loop target body true rest

mutual

/-- Runs a statement. What it evaluates and stores itself is its own work, other statements in it are not. -/
def blamed : Stmt → BlameM Flow
  | branch p test yes no => do
    let holds ← ofWork (.own (branch p test yes no)) do
      beginAt p
      tick budget
      let v ← test.eval budget
      v.truth
    if holds then blamedAll yes else blamedAll no
  | loop p target items body after => do
    let xs ← ofWork (.own (loop p target items body after)) do
      beginAt p
      tick budget
      let v ← items.eval budget
      loopItems p v
    let ended ← roundsBlamed budget (loop p target items body after) target (blamedAll body) false xs
    if ended then blamedAll after else return .next
  | s => ofWork (.own s) (s.run budget)

def blamedAll : List Stmt → BlameM Flow
  | [] => return .next
  | s :: rest => do
    match ← blamed s with
    | .next => blamedAll rest
    | flow => return flow

end

variable {budget}

theorem forget_roundsBlamed (loop : Stmt) (target : Expr) (body : BlameM Flow) (again : Bool) (xs : List Value) :
    forget (roundsBlamed budget loop target body again xs) =
      rounds (fun x => target.assign budget x >>= fun _ => forget body) xs := by
  induction xs generalizing again with
  | nil => rfl
  | cons x rest ih =>
    unfold roundsBlamed rounds
    rw [forget_bind, forget_ofWork]
    simp only [bind_assoc, forget_bind]
    refine bind_congr fun _ => bind_congr fun flow => ?_
    cases flow with
    | breakLoop => rfl
    | next => exact ih true
    | continueLoop => exact ih true

mutual

theorem forget_blamed : (s : Stmt) → forget (s.blamed budget) = s.run budget
  | branch p test yes no => by
    simp only [blamed, run, forget_bind, forget_ofWork, bind_assoc]
    refine bind_congr fun _ => bind_congr fun _ => bind_congr fun v => bind_congr fun holds => ?_
    cases holds with
    | true => exact forget_blamedAll yes
    | false => exact forget_blamedAll no
  | loop p target items body after => by
    simp only [blamed, run, forget_bind, forget_ofWork, bind_assoc]
    refine bind_congr fun _ => bind_congr fun _ => bind_congr fun v => bind_congr fun xs => ?_
    rw [forget_roundsBlamed, forget_blamedAll body]
    refine bind_congr fun ended => ?_
    cases ended with
    | true => exact forget_blamedAll after
    | false => rfl
  | expr .. | assign .. | augmented .. | pass _ | breakLoop _ | continueLoop _ | forbidden .. => by
    simp only [blamed]
    exact forget_ofWork _ _

theorem forget_blamedAll : (body : List Stmt) → forget (blamedAll budget body) = runAll budget body
  | [] => rfl
  | s :: rest => by
    simp only [blamedAll, runAll, forget_bind, forget_blamed s]
    refine bind_congr fun flow => ?_
    cases flow with
    | next => exact forget_blamedAll rest
    | breakLoop => rfl
    | continueLoop => rfl

end

mutual

def nested : Stmt → List Stmt
  | branch p test yes no => branch p test yes no :: (nestedAll yes ++ nestedAll no)
  | loop p target items body after => loop p target items body after :: (nestedAll body ++ nestedAll after)
  | s => [s]

def nestedAll : List Stmt → List Stmt
  | [] => []
  | s :: rest => nested s ++ nestedAll rest

end

def body : Stmt → List Stmt
  | loop _ _ _ body _ => body
  | _ => []

theorem mem_nested_self (s : Stmt) : s ∈ s.nested := by
  cases s <;> simp [nested]

theorem mem_nested_of_body {loop q : Stmt} (h : q ∈ nestedAll loop.body) : q ∈ loop.nested := by
  cases loop with
  | loop p target items body after =>
    exact List.mem_cons_of_mem _ (List.mem_append_left _ h)
  | _ => cases h

end Stmt

/-- The statement is the one begun last. -/
def Session.IsAt (t : Session) (s : Stmt) : Prop :=
  t.line = some s.place.line ∧ t.column = some s.place.column

/-- Where a failure is reported: at the statement whose work it was; but where a loop binds its target again, at
a statement of its rounds. -/
def Blame.Placed (t : Session) : Blame → Prop
  | own s => t.IsAt s
  | again loop => (∃ q ∈ Stmt.nestedAll loop.body, t.IsAt q) ∨ loop.body = [] ∧ t.IsAt loop

theorem Blame.Placed.of_rel {s t : Session} {b : Blame} (h : b.Placed s) (hst : placed.rel s t) : b.Placed t := by
  have hat {q : Stmt} (hq : s.IsAt q) : t.IsAt q := ⟨hst.1.trans hq.1, hst.2.trans hq.2⟩
  cases b with
  | own q => exact hat h
  | again loop => exact h.imp (fun ⟨q, hq, hs⟩ => ⟨q, hq, hat hs⟩) (And.imp_right hat)

theorem Blame.Placed.nested {t : Session} {b : Blame} (h : b.Placed t) : ∃ q ∈ b.stmt.nested, t.IsAt q := by
  cases b with
  | own s => exact ⟨s, s.mem_nested_self, h⟩
  | again loop =>
    rcases h with ⟨q, hq, ht⟩ | ⟨-, ht⟩
    · exact ⟨q, Stmt.mem_nested_of_body hq, ht⟩
    · exact ⟨loop, loop.mem_nested_self, ht⟩

/-- From a session with `P` the program ends in one with `Q`, or in the failure of one of the statements, which is
no report and is reported where `Blame.Placed` says. -/
def Blames {α : Type} (within : List Stmt) (P : Session → Prop) (x : BlameM α) (Q : Session → Prop) : Prop :=
  ∀ s, P s → match x s with
    | .ok _ t => Q t
    | .error (e, b) t => e.isReport = false ∧ b.stmt ∈ within ∧ b.Placed t

section Blames

variable {α β : Type} {within within' : List Stmt} {P P' Q Q' R : Session → Prop} {x : BlameM α}

theorem blames_pure (a : α) : Blames within P (pure a : BlameM α) P := fun _ h => h

theorem Blames.bind {f : α → BlameM β} (hx : Blames within P x Q) (hf : ∀ a, Blames within Q (f a) R) :
    Blames within P (x >>= f) R := by
  intro s hs
  have hrun := hx s hs
  cases hr : x s with
  | ok a t =>
    rw [hr] at hrun
    rw [Run.bind_ok hr]
    exact hf a t hrun
  | error e t =>
    rw [hr] at hrun
    rw [Run.bind_error hr]
    exact hrun

theorem Blames.mono (hx : Blames within P x Q) (hwithin : ∀ q ∈ within, q ∈ within') (hP : ∀ s, P' s → P s)
    (hQ : ∀ s, Q s → Q' s) : Blames within' P' x Q' := by
  intro s hs
  have hrun := hx s (hP s hs)
  cases hr : x s with
  | ok a t =>
    rw [hr] at hrun
    exact hQ t hrun
  | error e t =>
    rw [hr] at hrun
    exact ⟨hrun.1, hwithin _ hrun.2.1, hrun.2.2⟩

/-- Work that begins no statement is reported where it would have been before. -/
theorem blames_work {b : Blame} (hb : b.stmt ∈ within) {y : ScriptM α} (hy : placed.Keeps y) :
    Blames within b.Placed (BlameM.ofWork b y) b.Placed := by
  intro s hs
  unfold BlameM.ofWork
  cases hr : y s with
  | ok a t => exact hs.of_rel (hy.of_ok hr).1
  | error e t => exact ⟨(hy.of_error hr).2, hb, hs.of_rel (hy.of_error hr).1⟩

/-- A statement begins and goes on with such work. -/
theorem blames_begin (s : Stmt) {y : ScriptM α} (hy : placed.Keeps y) :
    Blames s.nested (fun _ => True) (BlameM.ofWork (.own s) (beginAt s.place >>= fun _ => y))
      (Blame.own s).Placed := by
  intro t _
  have hbegun : beginAt s.place t = .ok () { t with line := some s.place.line, column := some s.place.column } := rfl
  have hrun : BlameM.ofWork (.own s) (beginAt s.place >>= fun _ => y) t =
      BlameM.ofWork (.own s) y { t with line := some s.place.line, column := some s.place.column } := by
    unfold BlameM.ofWork
    rw [Run.bind_ok hbegun]
  rw [hrun]
  exact blames_work s.mem_nested_self hy _ ⟨rfl, rfl⟩

end Blames

namespace Stmt
open BlameM

variable {budget : Int}

/-- After a round the loop binds its target again, in the place of a statement of the round. -/
theorem blames_roundsBlamed {loop : Stmt} (target : Expr) {body : BlameM Flow}
    (hbody : ∀ P, Blames (nestedAll loop.body) P body fun t =>
      (∃ q ∈ nestedAll loop.body, t.IsAt q) ∨ loop.body = [] ∧ P t) (again : Bool) (xs : List Value) :
    Blames loop.nested (if again then Blame.again loop else Blame.own loop).Placed
      (roundsBlamed budget loop target body again xs) fun t => ∃ q ∈ loop.nested, t.IsAt q := by
  have hstmt (again : Bool) : (if again then Blame.again loop else Blame.own loop).stmt = loop := by
    cases again <;> rfl
  induction xs generalizing again with
  | nil =>
    refine (blames_pure true).mono (fun _ h => h) (fun _ h => h) fun t ht => ?_
    have hnested := ht.nested
    rwa [hstmt] at hnested
  | cons x rest ih =>
    have hmem : (if again then Blame.again loop else Blame.own loop).stmt ∈ loop.nested := by
      rw [hstmt]
      exact loop.mem_nested_self
    have hround : Blames loop.nested (if again then Blame.again loop else Blame.own loop).Placed body
        (Blame.again loop).Placed := by
      refine (hbody _).mono (fun q => mem_nested_of_body) (fun _ h => h) fun t ht => ?_
      cases again with
      | true => exact ht.elim .inl fun h => h.2
      | false => exact ht
    have hleft : Blames loop.nested (Blame.again loop).Placed (pure false : BlameM Bool)
        fun t => ∃ q ∈ loop.nested, t.IsAt q :=
      (blames_pure false).mono (fun _ h => h) (fun _ h => h) fun t ht => ht.nested
    unfold roundsBlamed
    refine (blames_work hmem (placed_assigns.assign target x budget)).bind fun _ => hround.bind fun flow => ?_
    cases flow with
    | breakLoop => exact hleft
    | next => exact ih true
    | continueLoop => exact ih true

/-- A statement without blocks does all its work at its own place. -/
theorem blames_simple {s : Stmt} (hblamed : s.blamed budget = ofWork (.own s) (s.run budget))
    {y : ScriptM Flow} (hrun : s.run budget = beginAt s.place >>= fun _ => y) (hy : placed.Keeps y) :
    Blames s.nested (fun _ => True) (s.blamed budget) fun t => ∃ q ∈ s.nested, t.IsAt q := by
  rw [hblamed, hrun]
  exact (blames_begin s hy).mono (fun _ h => h) (fun _ h => h) fun t ht => ht.nested

/-- A block of a statement ends at one of its statements, or where it began if it has none. -/
theorem blames_block {s : Stmt} {block : List Stmt} {P : Session → Prop} {x : BlameM Flow}
    (hx : Blames (nestedAll block) P x fun t => (∃ q ∈ nestedAll block, t.IsAt q) ∨ block = [] ∧ P t)
    (hblock : ∀ q ∈ nestedAll block, q ∈ s.nested) (hP : ∀ t, P t → ∃ q ∈ s.nested, t.IsAt q) :
    Blames s.nested P x fun t => ∃ q ∈ s.nested, t.IsAt q := by
  refine hx.mono hblock (fun _ h => h) ?_
  rintro t (⟨q, hq, ht⟩ | ⟨-, ht⟩)
  · exact ⟨q, hblock q hq, ht⟩
  · exact hP t ht

mutual

theorem blames_blamed : (s : Stmt) →
    Blames s.nested (fun _ => True) (s.blamed budget) fun t => ∃ q ∈ s.nested, t.IsAt q
  | branch p test yes no => by
    have hwork : placed.Keeps (do
        tick budget
        let v ← test.eval budget
        v.truth : ScriptM Bool) :=
      (placed_tick budget).bind fun _ => (placed_assigns.eval test budget).bind fun v =>
        placed_inside.keeps_ofStore v.keeps_truth
    have hbegin := blames_begin (branch p test yes no) hwork
    simp only [blamed]
    refine hbegin.bind fun holds => ?_
    cases holds with
    | true =>
      have hyes (q : Stmt) (hq : q ∈ nestedAll yes) : q ∈ (branch p test yes no).nested :=
        List.mem_cons_of_mem _ (List.mem_append_left _ hq)
      exact blames_block (blames_blamedAll _ yes) hyes fun t ht => ht.nested
    | false =>
      have hno (q : Stmt) (hq : q ∈ nestedAll no) : q ∈ (branch p test yes no).nested :=
        List.mem_cons_of_mem _ (List.mem_append_right _ hq)
      exact blames_block (blames_blamedAll _ no) hno fun t ht => ht.nested
  | loop p target items body after => by
    have hwork : placed.Keeps (do
        tick budget
        let v ← items.eval budget
        loopItems p v) :=
      (placed_tick budget).bind fun _ => (placed_assigns.eval items budget).bind fun v =>
        placed_inside.keeps_loopItems p v
    have hbegin := blames_begin (loop p target items body after) hwork
    have hbody (P : Session → Prop) : Blames (nestedAll (loop p target items body after).body) P
        (blamedAll budget body) fun t => (∃ q ∈ nestedAll (loop p target items body after).body, t.IsAt q) ∨
          (loop p target items body after).body = [] ∧ P t := blames_blamedAll P body
    simp only [blamed]
    refine hbegin.bind fun xs => (blames_roundsBlamed target hbody false xs).bind fun ended => ?_
    cases ended with
    | false => exact blames_pure _
    | true =>
      have hafter (q : Stmt) (hq : q ∈ nestedAll after) : q ∈ (loop p target items body after).nested :=
        List.mem_cons_of_mem _ (List.mem_append_right _ hq)
      exact blames_block (blames_blamedAll _ after) hafter fun t ht => ht
  | expr p e => by
    refine blames_simple (by simp only [blamed]) (by simp only [run]; rfl) ?_
    exact (placed_tick budget).bind fun _ => (placed_assigns.eval e budget).bind fun _ => keeps_pure _
  | assign p targets value => by
    refine blames_simple (by simp only [blamed]) (by simp only [run]; rfl) ?_
    exact (placed_tick budget).bind fun _ => (placed_assigns.eval value budget).bind fun v =>
      (placed_assigns.assignEach targets v budget).bind fun _ => keeps_pure _
  | augmented p target op value => by
    refine blames_simple (by simp only [blamed]) (by simp only [run]; rfl) ?_
    exact (placed_tick budget).bind fun _ => (placed_assigns.current target budget).bind fun a =>
      (placed_assigns.eval value budget).bind fun b => (placed_inside.keeps_guarded op a b).bind fun v =>
        (placed_assigns.assign target v budget).bind fun _ => keeps_pure _
  | pass p => by
    refine blames_simple (by simp only [blamed]) (by simp only [run]; rfl) ?_
    exact (placed_tick budget).bind fun _ => keeps_pure _
  | breakLoop p => by
    refine blames_simple (by simp only [blamed]) (by simp only [run]; rfl) ?_
    exact (placed_tick budget).bind fun _ => keeps_pure _
  | continueLoop p => by
    refine blames_simple (by simp only [blamed]) (by simp only [run]; rfl) ?_
    exact (placed_tick budget).bind fun _ => keeps_pure _
  | forbidden p c => by
    refine blames_simple (by simp only [blamed]) (by simp only [run]; rfl) ?_
    exact (placed_tick budget).bind fun _ => placed_inside.keeps_failAt p rfl

theorem blames_blamedAll (P : Session → Prop) : (body : List Stmt) →
    Blames (nestedAll body) P (blamedAll budget body) fun t =>
      (∃ q ∈ nestedAll body, t.IsAt q) ∨ body = [] ∧ P t
  | [] => (blames_pure _).mono (fun _ h => h) (fun _ h => h) fun t ht => .inr ⟨rfl, ht⟩
  | s :: rest => by
    have hfirst : Blames (nestedAll (s :: rest)) P (s.blamed budget) fun t => ∃ q ∈ s.nested, t.IsAt q :=
      (blames_blamed s).mono (fun q hq => List.mem_append_left _ hq) (fun _ _ => trivial) fun _ h => h
    have hmem {t : Session} (h : ∃ q ∈ s.nested, t.IsAt q) : ∃ q ∈ nestedAll (s :: rest), t.IsAt q :=
      h.imp fun q hq => hq.imp_left (List.mem_append_left _)
    have hends (flow : Flow) : Blames (nestedAll (s :: rest)) (fun t => ∃ q ∈ s.nested, t.IsAt q)
        (pure flow : BlameM Flow) fun t => (∃ q ∈ nestedAll (s :: rest), t.IsAt q) ∨ s :: rest = [] ∧ P t :=
      (blames_pure flow).mono (fun _ h => h) (fun _ h => h) fun t ht => .inl (hmem ht)
    simp only [blamedAll]
    refine hfirst.bind fun flow => ?_
    cases flow with
    | breakLoop => exact hends _
    | continueLoop => exact hends _
    | next =>
      refine (blames_blamedAll _ rest).mono (fun q hq => List.mem_append_right _ hq) (fun _ h => h) ?_
      rintro t (⟨q, hq, ht⟩ | ⟨-, ht⟩)
      · exact .inl ⟨q, List.mem_append_right _ hq, ht⟩
      · exact .inl (hmem ht)

end

end Stmt

namespace ScriptM
open Stmt

/-- What is reported of a script whose statements fail is a fault of theirs, at the place begun last. -/
theorem runScript_report_iff (budget : Int) (script : List Stmt) (s t : Session) (f : Fault)
    (line column : Option Nat) :
    runScript budget script s = .error (.script ⟨.fault f, line, column⟩) t ↔
      f.faultClass.isReported = true ∧ line = t.line ∧ column = t.column ∧
        ∃ b, blamedAll budget script s = .error (.fault f, b) t := by
  have hblames := @blames_blamedAll budget (fun _ => True) script s trivial
  unfold runScript
  rw [reported_apply, ← forget_blamedAll]
  cases hr : blamedAll budget script s with
  | ok flow u =>
    have hrun : BlameM.forget (blamedAll budget script) s = .ok flow u := by
      unfold BlameM.forget
      rw [hr]
    rw [Run.bind_ok hrun]
    refine iff_of_false (fun h => ?_) fun ⟨_, _, _, b, hb⟩ => nomatch hb
    cases flow <;> cases h
  | error eb u =>
    obtain ⟨e, b⟩ := eb
    have hrun : BlameM.forget (blamedAll budget script) s = .error e u := by
      unfold BlameM.forget
      rw [hr]
    rw [hr] at hblames
    rw [Run.bind_error hrun]
    cases e with
    | diagram e => exact iff_of_false nofun fun ⟨_, _, _, b, hb⟩ => nomatch hb
    | script e =>
      refine iff_of_false (fun h => ?_) fun ⟨_, _, _, b, hb⟩ => nomatch hb
      cases h
      cases hblames.1
    | fault g =>
      unfold reportedResult
      dsimp only
      split
      · rename_i hg
        refine ⟨fun h => ?_, fun ⟨_, hline, hcolumn, c, hc⟩ => ?_⟩
        · cases h
          exact ⟨hg, rfl, rfl, b, rfl⟩
        · cases hc
          rw [hline, hcolumn]
      · rename_i hg
        refine iff_of_false nofun fun ⟨hf, _, _, c, hc⟩ => ?_
        cases hc
        exact hg hf

/-- A script ends in the report of a fault just if the work of one of its statements fails with it, and the
report is placed at this statement; but where a loop binds its target after a round, at a statement of the round. -/
theorem runSource_report_iff (budget : Int) (source : String) (s t : Session) (f : Fault)
    (line column : Option Nat) :
    runSource budget source s = .error (.script ⟨.fault f, line, column⟩) t ↔
      source.toList.contains '\x00' = false ∧ f.faultClass.isReported = true ∧ line = t.line ∧ column = t.column ∧
        ∃ script, Stmt.ofSource? source = some script ∧
          BlameM.forget (blamedAll budget script) = runAll budget script ∧
          ∃ b, blamedAll budget script s = .error (.fault f, b) t ∧ b.stmt ∈ nestedAll script ∧ b.Placed t := by
  unfold runSource
  cases hnull : source.toList.contains '\x00' with
  | true => exact iff_of_false nofun fun h => nomatch h.1
  | false =>
    rw [if_neg Bool.false_ne_true]
    cases hscript : Stmt.ofSource? source with
    | none => exact iff_of_false nofun fun ⟨_, _, _, _, script, h, _⟩ => nomatch h
    | some script =>
      rw [runScript_report_iff]
      constructor
      · rintro ⟨hf, hline, hcolumn, b, hb⟩
        have hblames := @blames_blamedAll budget (fun _ => True) script s trivial
        rw [hb] at hblames
        exact ⟨rfl, hf, hline, hcolumn, script, rfl, forget_blamedAll script, b, hb, hblames.2⟩
      · rintro ⟨-, hf, hline, hcolumn, script', hsame, -, b, hb, -⟩
        cases hsame
        exact ⟨hf, hline, hcolumn, b, hb⟩

/-- The place in the report of a script, beside the place of the statement whose work failed. -/
def reportedAndBlamed (budget : Int) (source : String) : Option ((Option Nat × Option Nat) × Place) :=
  match runSource budget source (.start {}), Stmt.ofSource? source with
  | .error (.script e) _, some script =>
    match blamedAll budget script (.start {}) with
    | .error (.fault _, b) _ => some ((e.line, e.column), b.stmt.place)
    | _ => none
  | _, _ => none

set_option maxRecDepth 100000 in
/-- The second item cannot be unpacked by the loop in the first line; the report is placed in the second line. -/
theorem runSource_report_later :
    reportedAndBlamed 100 "for a, b in [(1, 2), 3]:\n    pass\n" = some ((some 2, some 5), ⟨1, 1⟩) := by
  decide +kernel

end ScriptM
end WireSketch
