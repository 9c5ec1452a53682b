import WireSketch.Proofs.Script.Composed
import WireSketch.Proofs.Script.Names
import WireSketch.Proofs.Script.Stepless

/-! Augmented assignments to items, whose container and index are evaluated before the right side and again
after it. -/
namespace WireSketch
open Contract ScriptM

variable {α β : Type}

namespace ScriptM

def ticks (budget : Int) : Nat → ScriptM Unit
  | 0 => return
  | n + 1 => do
    tick budget
    ticks budget n

theorem ticks_add (budget : Int) (m n : Nat) :
    ticks budget (m + n) = (ticks budget m >>= fun _ => ticks budget n) := by
  induction m with
  | zero =>
    rw [Nat.zero_add]
    rfl
  | succ m ih =>
    rw [Nat.succ_add]
    simp only [ticks, bind_assoc, ih]

end ScriptM

/-- Programs that leave the variables of the script alone. -/
def Contract.unbinding : Contract Failure Session where
  rel s t := t.bindings = s.bindings
  fails _ := True
  refl _ := rfl
  trans hst htu := htu.trans hst

theorem unbinding_inside : civil.Inside unbinding where
  heap _ _ _ := rfl
  fault _ _ := trivial
  script _ _ := trivial

theorem unbinding_tick (budget : Int) : unbinding.Keeps (tick budget) :=
  keeps_tick (fun _ => rfl) (fun _ _ => trivial) budget

theorem unbinding_ticks (budget : Int) : (n : Nat) → unbinding.Keeps (ticks budget n)
  | 0 => keeps_pure ()
  | n + 1 => (unbinding_tick budget).bind fun _ => unbinding_ticks budget n

theorem unbinding_call (f : Callable) (a : Arguments) : unbinding.Keeps (liftM (f.call a) : ScriptM Value) :=
  keeps_liftDraw (fun _ _ _ => rfl) (fun _ _ => trivial)
    (unlimited_calling.keeps_call fun _ _ _ _ _ _ _ _ => rfl)

/-- Expressions bind no names. -/
theorem unbinding_composes : Composes fun _ x => ∀ budget, unbinding.Keeps (x budget) :=
  unbinding_inside.composes unbinding_tick unbinding_call

/-- Whenever the variables are these, the program takes `n` steps and returns `a`, and does nothing else. -/
def Steps (budget : Int) (vars : Bindings) (x : ScriptM α) (a : α) (n : Nat) : Prop :=
  ∀ s, s.bindings = vars → x s = (ticks budget n >>= fun _ => pure a) s

namespace Steps

variable {budget : Int} {vars : Bindings} {x : ScriptM α} {f : α → ScriptM β} {a : α} {b : β} {m n : Nat}

theorem of_pure (a : α) : Steps budget vars (pure a) a 0 := fun _ _ => rfl

theorem of_tick : Steps budget vars (tick budget) () 1 := by
  intro s _
  simp only [ticks, bind_pure_unit]

/-- What comes after the program goes on from its value. -/
theorem run_bind (hx : Steps budget vars x a n) (f : α → ScriptM β) {s : Session} (hs : s.bindings = vars) :
    (x >>= f) s = (ticks budget n >>= fun _ => f a) s := by
  have hxs := hx s hs
  cases ht : ticks budget n s with
  | error e t =>
    rw [Run.bind_error ht] at hxs
    rw [Run.bind_error hxs, Run.bind_error ht]
  | ok u t =>
    rw [Run.bind_ok ht] at hxs
    rw [Run.bind_ok hxs, Run.bind_ok ht]

theorem bind (hx : Steps budget vars x a m) (hf : Steps budget vars (f a) b n) :
    Steps budget vars (x >>= f) b (m + n) := by
  intro s hs
  rw [hx.run_bind f hs, ticks_add, bind_assoc]
  cases ht : ticks budget m s with
  | error e t => rw [Run.bind_error ht, Run.bind_error ht]
  | ok u t =>
    rw [Run.bind_ok ht, Run.bind_ok ht]
    exact hf t (((unbinding_ticks budget m).of_ok ht).1.trans hs)

/-- Work at the end takes no step. -/
theorem last (hx : Steps budget vars x a n) (hf : Steps budget vars (f a) b 0) : Steps budget vars (x >>= f) b n :=
  hx.bind hf

theorem of_ok (hx : Steps budget vars x a n) {s t : Session} {a' : α} (hs : s.bindings = vars)
    (h : x s = .ok a' t) : a' = a := by
  rw [hx s hs] at h
  obtain ⟨_, _, -, hpure⟩ := Run.of_bind_ok h
  cases hpure
  rfl

/-- A program on values that does not look at the store is no step. -/
theorem of_ofStore {y : StoreM α} (hy : ∀ h, y h = .ok a h) : Steps budget vars (liftM y) a 0 :=
  fun s _ => run_ofStore (hy s.world.store)

/-- Lookups of variables take no step of their own. -/
theorem of_lookup {p : Place} {name : String} {v : Value} (hpublic : name.startsWith "__" = false)
    (hv : vars.find? name = some v) : Steps budget vars (lookup p name) v 0 := by
  intro s hs
  rw [lookup_of_public hpublic, hs, hv]
  rfl

end Steps

mutual

/-- The value of an expression, and the number of its steps, depend on the variables alone: it draws nothing, and
reads no field of the geometry and nothing that scripts can change in place. -/
inductive Expr.Settled (vars : Bindings) : Expr → Value → Nat → Prop
  | const (p : Place) (v : Value) : Settled vars (.const p v) v 1
  | variable (p : Place) {name : String} {v : Value} (hpublic : name.startsWith "__" = false)
      (hv : vars.find? name = some v) : Settled vars (.name p name) v 1
  | tuple (p : Place) {items : List Expr} {vs : List Value} {n : Nat} (hitems : AllSettled vars items vs n) :
      Settled vars (.tuple p items) (.tuple vs.toArray) (1 + n)
  | unary (p : Place) {op : UnaryOp} {e : Expr} {a v : Value} {n : Nat} (he : Settled vars e a n)
      (hv : ∀ h, a.unary op h = .ok v h) : Settled vars (.unary p op e) v (1 + n)
  | binary (p : Place) {op : BinaryOp} {left right : Expr} {a b v : Value} {m n : Nat}
      (hleft : Settled vars left a m) (hright : Settled vars right b n)
      (hv : ∀ s, op.guarded a b s = .ok v s) : Settled vars (.binary p op left right) v (1 + (m + n))
  | subscript (p : Place) {container index : Expr} {c i v : Value} {m n : Nat}
      (hcontainer : Settled vars container c m) (hindex : Settled vars index i n)
      (hv : ∀ h, c.subscript i Value.shown h = .ok v h) :
      Settled vars (.subscript p container index) v (1 + (m + n))
  | slice (p : Place) {start stop step : Option Expr} {a b c : Value} {l m n : Nat}
      (hstart : BoundSettled vars start a l) (hstop : BoundSettled vars stop b m)
      (hstep : BoundSettled vars step c n) :
      Settled vars (.slice p start stop step) (.slice a b c) (1 + (l + (m + n)))

inductive Expr.AllSettled (vars : Bindings) : List Expr → List Value → Nat → Prop
  | nil : AllSettled vars [] [] 0
  | cons {e : Expr} {rest : List Expr} {v : Value} {vs : List Value} {m n : Nat} (he : Settled vars e v m)
      (hrest : AllSettled vars rest vs n) : AllSettled vars (e :: rest) (v :: vs) (m + n)

inductive Expr.BoundSettled (vars : Bindings) : Option Expr → Value → Nat → Prop
  | omitted : BoundSettled vars none .none 0
  | given {e : Expr} {v : Value} {n : Nat} (he : Settled vars e v n) : BoundSettled vars (some e) v n

end

namespace Expr

variable {budget : Int} {vars : Bindings}

mutual

/-- A settled expression takes its steps and returns its value, whatever was drawn or changed before. -/
theorem Settled.steps {e : Expr} {v : Value} {n : Nat} : e.Settled vars v n → Steps budget vars (e.eval budget) v n
  | .const p v => by
    simp only [eval]
    exact Steps.of_tick.last (.of_pure v)
  | .variable p hpublic hv => by
    simp only [eval]
    exact Steps.of_tick.last (.of_lookup hpublic hv)
  | @Settled.tuple _ _ items vs n hitems => by
    simp only [eval]
    have hall : Steps budget vars (evalItems budget items #[]) vs.toArray n := by
      simpa only [Array.empty_append] using hitems.steps #[]
    exact Steps.of_tick.bind (hall.last (.of_pure (Value.tuple vs.toArray)))
  | .unary p he hv => by
    simp only [eval]
    exact Steps.of_tick.bind (he.steps.last (.of_ofStore hv))
  | .binary p hleft hright hv => by
    simp only [eval]
    exact Steps.of_tick.bind (hleft.steps.bind (hright.steps.last fun s _ => hv s))
  | .subscript p hcontainer hindex hv => by
    simp only [eval]
    exact Steps.of_tick.bind (hcontainer.steps.bind (hindex.steps.last (.of_ofStore hv)))
  | .slice p hstart hstop hstep => by
    simp only [eval]
    exact Steps.of_tick.bind (hstart.steps.bind (hstop.steps.bind (hstep.steps.last (.of_pure _))))

theorem AllSettled.steps {items : List Expr} {vs : List Value} {n : Nat} (done : Array Value) :
    AllSettled vars items vs n → Steps budget vars (evalItems budget items done) (done ++ vs.toArray) n
  | .nil => by
    rw [Array.append_empty]
    exact .of_pure done
  | @AllSettled.cons _ e rest v vs m n he hrest => by
    have htail : Steps budget vars (evalItems budget rest (done.push v)) (done ++ (v :: vs).toArray) n := by
      simpa using hrest.steps (done.push v)
    have hcons : Steps budget vars (e.eval budget >>= fun v => evalItems budget rest (done.push v))
        (done ++ (v :: vs).toArray) (m + n) := he.steps.bind htail
    cases e with
    | starred => cases he
    | _ => exact hcons

theorem BoundSettled.steps {e : Option Expr} {v : Value} {n : Nat} :
    BoundSettled vars e v n → Steps budget vars (evalOption budget e) v n
  | .omitted => .of_pure Value.none
  | .given he => he.steps

end

end Expr

namespace Stmt

variable (budget : Int)

def located (container index : Expr) : ScriptM (Value × Value) := do
  let c ← container.eval budget
  let i ← index.eval budget
  return (c, i)

/-- What an augmented assignment to an item does up to its store: it finds the container and the index, takes the
item, evaluates the right side and combines the two. -/
def combined (p : Place) (container index : Expr) (op : BinaryOp) (value : Expr) :
    ScriptM ((Value × Value) × Value) := do
  beginAt p
  tick budget
  tick budget
  let (c, i) ← located budget container index
  let a ← c.subscript i Value.shown
  let b ← value.eval budget
  let v ← op.guarded a b
  return ((c, i), v)

def storedAt (v : Value) (item : Value × Value) : ScriptM Flow := do
  (item.1.assignItem item.2 v : StoreM Unit)
  return .next

/-- An augmented assignment that stores to the very item it took its first operand from, some steps later. -/
def augmentedOnce (p : Place) (container index : Expr) (op : BinaryOp) (value : Expr) (steps : Nat) :
    ScriptM Flow := do
  let (item, v) ← combined budget p container index op value
  ticks budget steps
  storedAt v item

variable {budget : Int} {p q : Place} {container index value : Expr} {op : BinaryOp} {s t : Session}

theorem run_augmented_combined :
    (augmented p (.subscript q container index) op value).run budget =
      (combined budget p container index op value >>= fun r =>
        located budget container index >>= storedAt r.2) := by
  simp only [run, Expr.current, Expr.eval, Expr.assign, combined, located, storedAt, bind_assoc, pure_bind]

/-- Nothing up to the store binds a name. -/
theorem unbinding_combined : unbinding.Keeps (combined budget p container index op value) := by
  have hwork := unbinding_composes
  unfold combined
  simp only [located, bind_assoc]
  refine Keeps.bind (fun s => ⟨rfl, trivial⟩) fun _ => (unbinding_tick budget).bind fun _ =>
    (unbinding_tick budget).bind fun _ => ((hwork.eval container) budget).bind fun c =>
      ((hwork.eval index) budget).bind fun i => ?_
  exact (unbinding_inside.keeps_ofStore (c.keeps_subscript i)).bind fun a =>
    ((hwork.eval value) budget).bind fun b => (unbinding_inside.keeps_guarded op a b).bind fun _ =>
      keeps_pure _

/-- The item of a settled target is found again, by steps alone. -/
theorem steps_located {vars : Bindings} {c i : Value} {m n : Nat} (hcontainer : container.Settled vars c m)
    (hindex : index.Settled vars i n) : Steps budget vars (located budget container index) (c, i) (m + n) :=
  hcontainer.steps.bind (hindex.steps.last (.of_pure (c, i)))

theorem combined_item {c i v : Value} {item : Value × Value} {m n : Nat}
    (hcontainer : container.Settled s.bindings c m) (hindex : index.Settled s.bindings i n)
    (h : combined budget p container index op value s = .ok (item, v) t) : item = (c, i) := by
  obtain ⟨_, s₁, hbegin, h⟩ := Run.of_bind_ok h
  obtain ⟨_, s₂, htick, h⟩ := Run.of_bind_ok h
  obtain ⟨_, s₃, hnode, h⟩ := Run.of_bind_ok h
  obtain ⟨⟨c', i'⟩, s₄, hlocated, h⟩ := Run.of_bind_ok h
  have hvars : s₃.bindings = s.bindings := by
    rw [((unbinding_tick budget).of_ok hnode).1, ((unbinding_tick budget).of_ok htick).1]
    cases hbegin
    rfl
  have hfound : (c', i') = (c, i) := (steps_located hcontainer hindex).of_ok hvars hlocated
  obtain ⟨a, s₅, -, h⟩ := Run.of_bind_ok h
  obtain ⟨b, s₆, -, h⟩ := Run.of_bind_ok h
  obtain ⟨v', s₇, -, h⟩ := Run.of_bind_ok h
  cases h
  exact hfound

/-- An augmented assignment to an item ends with the failure of its first part, or stores what that part combines.
The place of the store is looked for once more, in the session that the right side leaves. If the container and
the index depend on variables alone, it is the item taken before, whatever the right side does. -/
theorem run_augmented_item (budget : Int) (p q : Place) (container index : Expr) (op : BinaryOp) (value : Expr)
    (s : Session) :
    (match combined budget p container index op value s with
      | .error e t => (augmented p (.subscript q container index) op value).run budget s = .error e t
      | .ok (_, v) t => (augmented p (.subscript q container index) op value).run budget s =
          (located budget container index >>= storedAt v) t) ∧
    ∀ c i m n, container.Settled s.bindings c m → index.Settled s.bindings i n →
      (augmented p (.subscript q container index) op value).run budget s =
        augmentedOnce budget p container index op value (m + n) s := by
  constructor
  · cases hr : combined budget p container index op value s with
    | error e t => rw [run_augmented_combined, Run.bind_error hr]
    | ok r t => rw [run_augmented_combined, Run.bind_ok hr]
  · intro c i m n hcontainer hindex
    rw [run_augmented_combined]
    unfold augmentedOnce
    cases hr : combined budget p container index op value s with
    | error e t => rw [Run.bind_error hr, Run.bind_error hr]
    | ok r t =>
      have hvars : t.bindings = s.bindings := (unbinding_combined.of_ok hr).1
      obtain ⟨item, v⟩ := r
      obtain rfl : item = (c, i) := combined_item hcontainer hindex hr
      rw [Run.bind_ok hr, Run.bind_ok hr]
      exact (steps_located hcontainer hindex).run_bind (storedAt v) hvars

/-- A cursor that the right side moves does not change the place of an item at a variable and a number. -/
theorem run_augmented_moving :
    let s : Session :=
      { world := { World.initial {} with store := ⟨#[.list #[.int 1, .int 2]]⟩ },
        bindings := [("x", .list 0), ("i", .int 0)] }
    let x := Expr.name ⟨1, 1⟩ "x"
    let next := Expr.binary ⟨1, 3⟩ .add (.name ⟨1, 3⟩ "i") (.const ⟨1, 7⟩ (.int 1))
    let moved := Expr.disj ⟨1, 13⟩ [.call ⟨1, 13⟩ (.name ⟨1, 13⟩ "next_row") [] [], .const ⟨1, 27⟩ (.int 5)]
    (augmented ⟨1, 1⟩ (.subscript ⟨1, 1⟩ x next) .add moved).run 100 s =
      augmentedOnce 100 ⟨1, 1⟩ x next .add moved 4 s := by
  intro s x next moved
  have hx : x.Settled s.bindings (.list 0) 1 := .variable _ (by decide +kernel) rfl
  have hi : next.Settled s.bindings (.int 1) 3 :=
    .binary _ (.variable _ (by decide +kernel) rfl) (.const _ _) fun _ => rfl
  exact (run_augmented_item 100 ⟨1, 1⟩ ⟨1, 1⟩ x next .add moved s).2 (.list 0) (.int 1) 1 3 hx hi

end Stmt

def Session.numbers (s : Session) (r : Ref) : List (Option Int) :=
  match s.world.store.cells[r]? with
  | some (.list xs) => xs.toList.map Value.asInt?
  | _ => []

/-- A call in the index moves the cursor down twice, and a right side that resets the column makes an item at the
column be stored over another one. -/
theorem Stmt.run_augmented_twice :
    let s : Session :=
      { world := { World.initial { boxIndex := .int 1 } with store := ⟨#[.list #[.int 0, .int 7]]⟩ },
        bindings := [("x", .list 0)] }
    let x := Expr.name ⟨1, 1⟩ "x"
    let moved (column : Nat) (n : Int) :=
      Expr.disj ⟨1, column⟩
        [.call ⟨1, column⟩ (.name ⟨1, column⟩ "next_row") [] [], .const ⟨1, column + 14⟩ (.int n)]
    let diagramY (r : EStateM.Result Failure Session Flow) := (Run.final r).world.layout.diagramY.asInt?
    let run (index value : Expr) := (augmented ⟨1, 1⟩ (.subscript ⟨1, 1⟩ x index) .add value).run 100 s
    let once (index value : Expr) := augmentedOnce 100 ⟨1, 1⟩ x index .add value 0 s
    diagramY (run (moved 3 0) (.const ⟨1, 23⟩ (.int 1))) = some 60 ∧
      diagramY (once (moved 3 0) (.const ⟨1, 23⟩ (.int 1))) = some 30 ∧
      (Run.final (run (.name ⟨1, 3⟩ "box_index") (moved 17 5))).numbers 0 = [some 12, some 7] ∧
      (Run.final (once (.name ⟨1, 3⟩ "box_index") (moved 17 5))).numbers 0 = [some 0, some 12] := by
  decide +kernel

end WireSketch
