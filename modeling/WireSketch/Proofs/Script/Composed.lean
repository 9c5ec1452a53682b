import WireSketch.Proofs.Script.Work

/-! Properties of programs that hold of every expression and target, once they hold of what these are made of. -/
namespace WireSketch
open Contract ScriptM

namespace Expr

mutual

def callFree : Expr → Bool
  | const .. | name .. | forbidden .. => true
  | list _ items | tuple _ items | set _ items | conj _ items | disj _ items | joined _ items => allCallFree items
  | dict _ entries => entriesCallFree entries
  | binary _ _ left right => left.callFree && right.callFree
  | unary _ _ operand => operand.callFree
  | compare _ first links => first.callFree && linksCallFree links
  | conditional _ test yes no => test.callFree && (yes.callFree && no.callFree)
  | subscript _ container index => container.callFree && index.callFree
  | slice _ start stop step => optionCallFree start && (optionCallFree stop && optionCallFree step)
  | call .. => false
  | formatted _ value _ spec => value.callFree && optionCallFree spec
  | starred _ items => items.callFree

def allCallFree : List Expr → Bool
  | [] => true
  | e :: rest => e.callFree && allCallFree rest

def optionCallFree : Option Expr → Bool
  | none => true
  | some e => e.callFree

def entriesCallFree : List Entry → Bool
  | [] => true
  | .pair key value :: rest => (key.callFree && value.callFree) && entriesCallFree rest
  | .spread map :: rest => map.callFree && entriesCallFree rest

def linksCallFree : List Link → Bool
  | [] => true
  | .mk _ right :: rest => right.callFree && linksCallFree rest

end

end Expr

/-- The property holds of steps and of whatever keeps every contract of work inside a statement, and of programs in
a row. -/
structure Evaluates (P : (α : Type) → (Int → ScriptM α) → Prop) : Prop where
  pure : ∀ {α : Type} (a : α), P α fun _ => Pure.pure a
  bind : ∀ {α β : Type} {x : Int → ScriptM α} {f : α → Int → ScriptM β}, P α x → (∀ a, P β (f a)) →
    P β fun budget => x budget >>= fun a => f a budget
  inside : ∀ {α : Type} {x : ScriptM α}, (∀ {B : Contract Fault Store} [B.Evaluating] {C : Contract Failure Session},
    B.Inside C → C.Keeps x) → P α fun _ => x
  tick : P Unit tick

/-- The property also holds of calls. -/
structure Composes (P : (α : Type) → (Int → ScriptM α) → Prop) : Prop extends Evaluates P where
  call : ∀ f a, P Value fun _ => liftM (Callable.call f a)

def Covers (P : (α : Type) → (Int → ScriptM α) → Prop) (free : Bool) : Prop :=
  free = true ∨ ∀ f a, P Value fun _ => liftM (Callable.call f a)

theorem Covers.and {P : (α : Type) → (Int → ScriptM α) → Prop} {a b : Bool} (h : Covers P (a && b)) :
    Covers P a ∧ Covers P b := by
  rcases h with h | h
  · obtain ⟨ha, hb⟩ := Bool.and_eq_true_iff.mp h
    exact ⟨.inl ha, .inl hb⟩
  · exact ⟨.inr h, .inr h⟩

namespace Evaluates

variable {P : (α : Type) → (Int → ScriptM α) → Prop} {α : Type}

theorem ofStore (hP : Evaluates P) {x : StoreM α} (hx : ∀ {B : Contract Fault Store} [B.Evaluating], B.Keeps x) :
    P α fun _ => liftM x := hP.inside fun hC => hC.keeps_ofStore hx

theorem ofExcept (hP : Evaluates P) {x : Except Fault α} (hx : Civil x) : P α fun _ => liftM x :=
  hP.inside fun hC => hC.keeps_ofExcept hx

mutual

/-- Each kind of expression, from its first step on. -/
theorem eval (hP : Evaluates P) : (e : Expr) → Covers P e.callFree → P _ fun budget => e.eval budget
  | .const _ v, _ => by
    simp only [Expr.eval]
    exact hP.bind hP.tick fun _ => hP.pure v
  | .name p id, _ => by
    simp only [Expr.eval]
    exact hP.bind hP.tick fun _ => hP.inside fun hC => hC.keeps_lookup p id
  | .list _ items, h => by
    simp only [Expr.eval]
    exact hP.bind hP.tick fun _ => hP.bind (hP.evalItems items #[] h) fun _ =>
      hP.ofStore (StoreM.keeps_newList _)
  | .tuple _ items, h => by
    simp only [Expr.eval]
    exact hP.bind hP.tick fun _ => hP.bind (hP.evalItems items #[] h) fun _ => hP.pure _
  | .set _ items, h => by
    simp only [Expr.eval]
    exact hP.bind hP.tick fun _ => hP.bind (hP.evalItems items #[] h) fun _ =>
      hP.bind (hP.ofExcept (ItemSet.civil_ofItems _)) fun _ =>
        hP.ofStore (StoreM.keeps_newSet _)
  | .dict _ entries, h => by
    simp only [Expr.eval]
    exact hP.bind hP.tick fun _ => hP.bind (hP.evalEntries entries Table.empty h) fun _ =>
      hP.ofStore (StoreM.keeps_newDict _)
  | .binary _ op left right, h => by
    simp only [Expr.eval]
    exact hP.bind hP.tick fun _ => hP.bind (hP.eval left h.and.1) fun _ =>
      hP.bind (hP.eval right h.and.2) fun _ => hP.inside fun hC => hC.keeps_guarded op _ _
  | .unary _ op operand, h => by
    simp only [Expr.eval]
    exact hP.bind hP.tick fun _ => hP.bind (hP.eval operand h) fun v =>
      hP.ofStore (Value.keeps_unary op v)
  | .conj _ operands, h => by
    simp only [Expr.eval]
    exact hP.bind hP.tick fun _ => hP.evalConj operands .none h
  | .disj _ operands, h => by
    simp only [Expr.eval]
    exact hP.bind hP.tick fun _ => hP.evalDisj operands .none h
  | .compare _ first links, h => by
    simp only [Expr.eval]
    exact hP.bind hP.tick fun _ => hP.bind (hP.eval first h.and.1) fun v => hP.evalLinks links v h.and.2
  | .conditional _ test yes no, h => by
    obtain ⟨htest, hbranches⟩ := h.and
    simp only [Expr.eval]
    refine hP.bind hP.tick fun _ => hP.bind (hP.eval test htest) fun v =>
      hP.bind (hP.ofStore v.keeps_truth) fun holds => ?_
    cases holds with
    | true => exact hP.eval yes hbranches.and.1
    | false => exact hP.eval no hbranches.and.2
  | .subscript _ container index, h => by
    simp only [Expr.eval]
    exact hP.bind hP.tick fun _ => hP.bind (hP.eval container h.and.1) fun c =>
      hP.bind (hP.eval index h.and.2) fun i => hP.ofStore (c.keeps_subscript i)
  | .slice _ start stop step, h => by
    obtain ⟨hstart, hbounds⟩ := h.and
    simp only [Expr.eval]
    exact hP.bind hP.tick fun _ => hP.bind (hP.evalOption start hstart) fun _ =>
      hP.bind (hP.evalOption stop hbounds.and.1) fun _ =>
        hP.bind (hP.evalOption step hbounds.and.2) fun _ => hP.pure _
  | .call p function args keywords, h => by
    have hcall : ∀ f a, P Value fun _ => liftM (Callable.call f a) := h.resolve_left nofun
    simp only [Expr.eval]
    refine hP.bind hP.tick fun _ => hP.bind (hP.eval function (.inr hcall)) fun f => ?_
    cases f.callable? with
    | none =>
      exact hP.bind (hP.ofStore f.keeps_shown) fun _ => hP.inside fun hC => hC.keeps_failAt p rfl
    | some f =>
      exact hP.bind (hP.evalItems args #[] (.inr hcall)) fun _ => hP.bind (hP.evalKeywords keywords [] hcall) fun _ =>
        hP.bind (hP.ofExcept (NamedValues.civil_names _)) fun _ => hcall f _
  | .joined _ parts, h => by
    simp only [Expr.eval]
    exact hP.bind hP.tick fun _ => hP.bind (hP.evalParts parts "" 0 h) fun _ => hP.pure _
  | .formatted p value conversion spec, h => by
    simp only [Expr.eval]
    refine hP.bind hP.tick fun _ => hP.bind (hP.eval value h.and.1) fun v =>
      hP.bind (hP.ofStore (v.keeps_converted conversion)) fun v =>
        hP.bind (hP.evalOption spec h.and.2) fun s => ?_
    cases s with
    | str s => exact hP.inside fun hC => hC.keeps_formattedAt p v s
    | _ => exact hP.inside fun hC => hC.keeps_formattedAt p v ""
  | .starred p _, _ => by
    simp only [Expr.eval]
    exact hP.bind hP.tick fun _ => hP.inside fun hC => hC.keeps_failAt p rfl
  | .forbidden p _, _ => by
    simp only [Expr.eval]
    exact hP.bind hP.tick fun _ => hP.inside fun hC => hC.keeps_failAt p rfl

theorem evalOption (hP : Evaluates P) :
    (e : Option Expr) → Covers P (Expr.optionCallFree e) → P _ fun budget => Expr.evalOption budget e
  | none, _ => hP.pure _
  | some e, h => hP.eval e h

theorem evalItems (hP : Evaluates P) :
    (items : List Expr) → (done : Array Value) → Covers P (Expr.allCallFree items) →
      P _ fun budget => Expr.evalItems budget items done
  | [], done, _ => hP.pure done
  | e :: rest, done, h => by
    obtain ⟨he, hrest⟩ := h.and
    have plain : P _ fun budget => (do
        let v ← e.eval budget
        Expr.evalItems budget rest (done.push v)) :=
      hP.bind (hP.eval e he) fun v => hP.evalItems rest (done.push v) hrest
    cases e with
    | starred _ e =>
      simp only [Expr.evalItems]
      exact hP.bind (hP.eval e he) fun v => hP.bind (hP.inside fun hC => hC.keeps_appendItems done v) fun done =>
        hP.evalItems rest done hrest
    | _ => exact plain

theorem evalEntries (hP : Evaluates P) :
    (entries : List Entry) → (d : Dict) → Covers P (Expr.entriesCallFree entries) →
      P _ fun budget => Expr.evalEntries budget entries d
  | [], d, _ => hP.pure d
  | .pair key value :: rest, d, h => by
    obtain ⟨hpair, hrest⟩ := h.and
    simp only [Expr.evalEntries]
    exact hP.bind (hP.eval value hpair.and.2) fun _ => hP.bind (hP.eval key hpair.and.1) fun _ =>
      hP.bind (hP.ofExcept (Dict.civil_set d _ _)) fun d => hP.evalEntries rest d hrest
  | .spread map :: rest, d, h => by
    simp only [Expr.evalEntries]
    exact hP.bind (hP.eval map h.and.1) fun m =>
      hP.bind (hP.ofStore (Value.keeps_addEntries d m)) fun d =>
        hP.evalEntries rest d h.and.2

theorem evalConj (hP : Evaluates P) :
    (operands : List Expr) → (last : Value) → Covers P (Expr.allCallFree operands) →
      P _ fun budget => Expr.evalConj budget operands last
  | [], last, _ => hP.pure last
  | e :: rest, _, h => by
    simp only [Expr.evalConj]
    refine hP.bind (hP.eval e h.and.1) fun v =>
      hP.bind (hP.ofStore v.keeps_truth) fun holds => ?_
    cases holds with
    | true => exact hP.evalConj rest v h.and.2
    | false => exact hP.pure v

theorem evalDisj (hP : Evaluates P) :
    (operands : List Expr) → (last : Value) → Covers P (Expr.allCallFree operands) →
      P _ fun budget => Expr.evalDisj budget operands last
  | [], last, _ => hP.pure last
  | e :: rest, _, h => by
    simp only [Expr.evalDisj]
    refine hP.bind (hP.eval e h.and.1) fun v =>
      hP.bind (hP.ofStore v.keeps_truth) fun holds => ?_
    cases holds with
    | true => exact hP.pure v
    | false => exact hP.evalDisj rest v h.and.2

theorem evalLinks (hP : Evaluates P) :
    (links : List Link) → (left : Value) → Covers P (Expr.linksCallFree links) →
      P _ fun budget => Expr.evalLinks budget links left
  | [], _, _ => hP.pure _
  | .mk op right :: rest, left, h => by
    simp only [Expr.evalLinks]
    refine hP.bind (hP.eval right h.and.1) fun v =>
      hP.bind (hP.ofStore (Value.keeps_compareBy op left v)) fun holds => ?_
    cases holds with
    | true => exact hP.evalLinks rest v h.and.2
    | false => exact hP.pure _

theorem evalKeywords (hP : Evaluates P) :
    (keywords : List Keyword) → (named : NamedValues) → (∀ f a, P Value fun _ => liftM (Callable.call f a)) →
      P _ fun budget => Expr.evalKeywords budget keywords named
  | [], named, _ => hP.pure named
  | .named id e :: rest, named, h => by
    simp only [Expr.evalKeywords]
    exact hP.bind (hP.eval e (.inr h)) fun v => hP.evalKeywords rest (NamedValues.set named (.str id) v) h
  | .spread e :: rest, named, h => by
    simp only [Expr.evalKeywords]
    exact hP.bind (hP.eval e (.inr h)) fun m =>
      hP.bind (hP.ofStore (NamedValues.keeps_spread named m)) fun named => hP.evalKeywords rest named h

theorem evalParts (hP : Evaluates P) :
    (parts : List Expr) → (done : String) → (length : Nat) → Covers P (Expr.allCallFree parts) →
      P _ fun budget => Expr.evalParts budget parts done length
  | [], done, _, _ => hP.pure done
  | e :: rest, done, length, h => by
    simp only [Expr.evalParts]
    exact hP.bind (hP.eval e h.and.1) fun v => hP.bind (hP.ofStore v.keeps_plain) fun s =>
      hP.bind (hP.inside fun hC => hC.keeps_checkLength _) fun _ =>
        hP.evalParts rest (done ++ s) (length + s.length) h.and.2

end

end Evaluates

namespace Composes

variable {P : (α : Type) → (Int → ScriptM α) → Prop}

theorem eval (hP : Composes P) (e : Expr) : P _ fun budget => e.eval budget :=
  hP.toEvaluates.eval e (.inr hP.call)

theorem current (hP : Composes P) (e : Expr) : P _ fun budget => e.current budget := by
  cases e with
  | name p id => exact hP.eval (.name p id)
  | subscript p container index => exact hP.eval (.subscript p container index)
  | _ => exact hP.inside fun hC => hC.keeps_failAt _ rfl

end Composes

/-- The property also holds of stores to names and to items of containers. -/
structure Assigns (P : (α : Type) → (Int → ScriptM α) → Prop) : Prop extends Composes P where
  assignItem : ∀ c i v, P Unit fun _ => liftM (Value.assignItem c i v)
  store : ∀ p name v, P Unit fun _ => ScriptM.store p name v

namespace Assigns

variable {P : (α : Type) → (Int → ScriptM α) → Prop}

mutual

theorem assign (hP : Assigns P) : (e : Expr) → (v : Value) → P _ fun budget => e.assign budget v
  | .name p id, v => by
    simp only [Expr.assign]
    exact hP.store p id v
  | .tuple p targets, v => by
    simp only [Expr.assign]
    refine hP.bind (hP.ofStore v.keeps_items) fun xs => ?_
    by_cases hsize : xs.size = targets.length
    · simp only [if_pos hsize]
      exact hP.assignAll targets xs.toList
    · simp only [if_neg hsize]
      exact hP.inside fun hC => hC.keeps_failAt p rfl
  | .list p targets, v => by
    simp only [Expr.assign]
    refine hP.bind (hP.ofStore v.keeps_items) fun xs => ?_
    by_cases hsize : xs.size = targets.length
    · simp only [if_pos hsize]
      exact hP.assignAll targets xs.toList
    · simp only [if_neg hsize]
      exact hP.inside fun hC => hC.keeps_failAt p rfl
  | .subscript _ container index, v => by
    simp only [Expr.assign]
    exact hP.bind (hP.eval container) fun _ => hP.bind (hP.eval index) fun _ =>
      hP.assignItem _ _ v
  | .starred p _, _ => by
    simp only [Expr.assign]
    exact hP.inside fun hC => hC.keeps_failAt p rfl
  | .forbidden p _, _ => by
    simp only [Expr.assign]
    exact hP.inside fun hC => hC.keeps_failAt p rfl
  | .const .., _ | .set .., _ | .dict .., _ | .binary .., _ | .unary .., _ | .conj .., _ | .disj .., _
  | .compare .., _ | .conditional .., _ | .slice .., _ | .call .., _ | .joined .., _ | .formatted .., _ => by
    simp only [Expr.assign]
    exact hP.inside fun hC => hC.keeps_failAt _ rfl

theorem assignAll (hP : Assigns P) :
    (targets : List Expr) → (vs : List Value) → P _ fun budget => Expr.assignAll budget targets vs
  | [], _ => hP.pure _
  | _ :: _, [] => hP.pure _
  | e :: targets, v :: vs => by
    simp only [Expr.assignAll]
    exact hP.bind (hP.assign e v) fun _ => hP.assignAll targets vs

end

theorem assignEach (hP : Assigns P) (targets : List Expr) (v : Value) :
    P _ fun budget => Expr.assignEach budget targets v := by
  induction targets with
  | nil => exact hP.pure _
  | cons e targets ih =>
    simp only [Expr.assignEach]
    exact hP.bind (hP.assign e v) fun _ => ih

end Assigns

theorem ScriptM.keeps_tick {C : Contract Failure Session} (count : ∀ s, C.rel s { s with steps := s.steps + 1 })
    (limit : ∀ budget line, C.fails (.script ⟨.stepLimit budget, line, none⟩)) (budget : Int) :
    C.Keeps (tick budget) := by
  intro s
  obtain ⟨world, bindings, steps, line, column⟩ := s
  unfold tick
  dsimp only
  by_cases h : ((steps + 1 : Nat) : Int) > budget
  · rw [if_pos h]
    exact ⟨count _, limit budget line⟩
  · rw [if_neg h]
    exact ⟨count _, trivial⟩

/-- A contract that steps keep. -/
theorem Contract.Inside.evaluates {B : Contract Fault Store} [B.Evaluating] {C : Contract Failure Session}
    (hC : B.Inside C) (htick : ∀ budget, C.Keeps (tick budget)) :
    Evaluates fun _ x => ∀ budget, C.Keeps (x budget) where
  pure a _ := keeps_pure a
  bind hx hf budget := (hx budget).bind fun a => hf a budget
  inside hx _ := hx hC
  tick := htick

/-- A contract that steps and calls keep. -/
theorem Contract.Inside.composes {B : Contract Fault Store} [B.Evaluating] {C : Contract Failure Session}
    (hC : B.Inside C) (htick : ∀ budget, C.Keeps (tick budget))
    (hcall : ∀ f a, C.Keeps (liftM (Callable.call f a) : ScriptM Value)) :
    Composes fun _ x => ∀ budget, C.Keeps (x budget) where
  toEvaluates := hC.evaluates htick
  call f a _ := hcall f a

end WireSketch
