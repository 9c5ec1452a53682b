import WireSketch.Proofs.Drawing.Resolve
import WireSketch.Script.Run

/-! What scripts do between two steps, calls and stores apart, under a contract on what may change. -/
namespace WireSketch
open Contract

def Failure.isStepLimit : Failure → Bool
  | .script ⟨.stepLimit _, _, _⟩ => true
  | _ => false

/-- Is it the script's own error, and not want of steps or the report of a fault? -/
def Failure.isOwn : Failure → Bool
  | .script ⟨.stepLimit _, _, _⟩ | .script ⟨.fault _, _, _⟩ => false
  | _ => true

theorem Failure.isStepLimit_of_isOwn {e : Failure} (h : e.isOwn = true) : e.isStepLimit = false := by
  unfold isStepLimit
  split
  · cases h
  · rfl

theorem ScriptM.run_ofStore {α : Type} {x : StoreM α} {s : Session} {a : α} {t : Store}
    (h : x s.world.store = .ok a t) :
    (liftM x : ScriptM α) s = .ok a { s with world := { s.world with store := t } } := by
  have hlift : (liftM x : ScriptM α) = ofDraw (DrawM.ofStore x) := rfl
  rw [hlift]
  unfold ofDraw DrawM.ofStore
  dsimp only
  rw [h]

theorem ScriptM.run_ofStore_error {α : Type} {x : StoreM α} {s : Session} {f : Fault} {t : Store}
    (h : x s.world.store = .error f t) :
    (liftM x : ScriptM α) s = .error (.fault f) { s with world := { s.world with store := t } } := by
  have hlift : (liftM x : ScriptM α) = ofDraw (DrawM.ofStore x) := rfl
  rw [hlift]
  unfold ofDraw DrawM.ofStore
  dsimp only
  rw [h]

/-- A program on values that succeeds in a script changes nothing but the store. -/
theorem ScriptM.of_ofStore_ok {α : Type} {x : StoreM α} {s t : Session} {a : α}
    (h : (liftM x : ScriptM α) s = .ok a t) :
    ∃ store, x s.world.store = .ok a store ∧ t = { s with world := { s.world with store } } := by
  obtain ⟨⟨store, layout, styles, scene, labels⟩, bindings, steps, line, column⟩ := s
  have hlift : (liftM x : ScriptM α) = ofDraw (DrawM.ofStore x) := rfl
  rw [hlift] at h
  unfold ofDraw DrawM.ofStore at h
  dsimp only at h
  cases hx : x store with
  | ok b after =>
    rw [hx] at h
    cases h
    exact ⟨after, rfl, rfl⟩
  | error f after =>
    rw [hx] at h
    cases h

theorem ScriptM.of_ofExcept_ok {α : Type} {x : Except Fault α} {s t : Session} {a : α}
    (h : (liftM x : ScriptM α) s = .ok a t) : x = .ok a := by
  cases x with
  | ok b =>
    cases h
    rfl
  | error f => cases h

theorem checkLimit_isStepLimit {field : String} {digits : List Char} {r : ScriptReason}
    (h : FormatSpec.checkLimit field digits = .error r) :
    Failure.isStepLimit (.script ⟨r, none, none⟩) = false := by
  unfold FormatSpec.checkLimit at h
  split at h
  · cases h
  · split at h
    · split at h
      · cases h; rfl
      · cases h
    · cases h; rfl
    · cases h

theorem checkLimits_isStepLimit {spec : String} {r : ScriptReason}
    (h : FormatSpec.checkLimits spec = .error r) :
    Failure.isStepLimit (.script ⟨r, none, none⟩) = false := by
  unfold FormatSpec.checkLimits at h
  dsimp only at h
  cases hw : FormatSpec.checkLimit "width" (FormatSpec.declared spec).1 with
  | error e =>
    rw [hw] at h
    cases h
    exact checkLimit_isStepLimit hw
  | ok u =>
    rw [hw] at h
    exact checkLimit_isStepLimit h

/-- A drawing program in a script keeps what the contract says of drawings, as the contract of scripts says it. -/
theorem ScriptM.keeps_liftDraw {D : Contract Failure World} {C : Contract Failure Session} {α : Type}
    (rel : ∀ (s : Session) w, D.rel s.world w → C.rel s { s with world := w }) (fails : ∀ e, D.fails e → C.fails e)
    {x : DrawM α} (hx : D.Keeps x) : C.Keeps (liftM x : ScriptM α) := by
  intro ⟨world, bindings, steps, line, column⟩
  have hlift : (liftM x : ScriptM α) = ofDraw x := rfl
  rw [hlift]
  unfold ofDraw
  dsimp only
  cases hr : x world with
  | ok a w => exact ⟨rel _ w (hx.of_ok hr).1, trivial⟩
  | error e w => exact ⟨rel _ w (hx.of_error hr).1, fails e (hx.of_error hr).2⟩

variable {B : Contract Fault Store} {α : Type}

namespace Value

theorem keeps_sequenceLength? (v : Value) : B.Keeps v.sequenceLength? := by
  cases v with
  | list r => exact (StoreM.keeps_getList r).bind fun _ => keeps_pure _
  | _ => exact keeps_pure _

variable [B.Reading]

theorem keeps_sizedLength? (v : Value) : B.Keeps v.sizedLength? :=
  (keeps_length? v).bind fun _ => yields_ite (StoreM.keeps_throw_bind rfl) (keeps_pure _)

theorem keeps_converted (v : Value) (c : Option Conversion) : B.Keeps (v.converted c) := by
  unfold converted
  split
  · exact keeps_pure _
  · exact (keeps_shown v).bind fun _ => keeps_pure _
  · exact (keeps_plain v).bind fun _ => keeps_pure _
  · exact (keeps_shown v).bind fun _ => keeps_pure _

end Value

namespace NamedValues

theorem civil_names (a : NamedValues) : Civil a.names := by
  refine civil_listMapM a fun entry _ => ?_
  split
  · exact civil_ok _
  · exact (civil_error _).mpr rfl

theorem keeps_spread [B.Evaluating] (a : NamedValues) (map : Value) : B.Keeps (a.spread map) :=
  (StoreM.keeps_ofExcept (Dict.civil_ofPairs a)).bind fun d => (Value.keeps_addEntries d map).bind
    fun _ => keeps_pure _

end NamedValues

/--
The contract lets containers change and fail as the contract `B` of the store says, and allows the errors that
a script raises by itself.
-/
structure Contract.Inside (B : Contract Fault Store) (C : Contract Failure Session) : Prop where
  heap : ∀ s h, B.rel s.world.store h → C.rel s { s with world := { s.world with store := h } }
  fault : ∀ f, B.fails f → C.fails (.fault f)
  script : ∀ e, Failure.isOwn (.script e) = true → C.fails (.script e)

/-- The contract also lets statements begin. -/
structure Contract.Working (B : Contract Fault Store) (C : Contract Failure Session) : Prop
    extends B.Inside C where
  begins : ∀ (s : Session) line column, C.rel s { s with line, column }

namespace Contract.Inside
open ScriptM BinaryOp

variable {C : Contract Failure Session}

theorem keeps_ofStore (hC : B.Inside C) {x : StoreM α} (hx : B.Keeps x) :
    C.Keeps (liftM x : ScriptM α) := by
  intro ⟨⟨store, layout, styles, scene, labels⟩, bindings, steps, line, column⟩
  have hlift : (liftM x : ScriptM α) = ofDraw (DrawM.ofStore x) := rfl
  rw [hlift]
  unfold ofDraw DrawM.ofStore
  dsimp only
  cases hr : x store with
  | ok a h => exact ⟨hC.heap _ h (hx.of_ok hr).1, trivial⟩
  | error f h => exact ⟨hC.heap _ h (hx.of_error hr).1, hC.fault f (hx.of_error hr).2⟩

theorem keeps_fault (hC : B.Inside C) {f : Fault} (hf : B.fails f) :
    C.Keeps (throw (.fault f) : ScriptM α) := yields_throw (hC.fault f hf)

theorem keeps_failAt (hC : B.Inside C) (p : Place) {r : ScriptReason}
    (hr : Failure.isOwn (.script ⟨r, some p.line, some p.column⟩) = true) :
    C.Keeps (failAt p r : ScriptM α) := yields_throw (hC.script _ hr)

theorem keeps_failInLine (hC : B.Inside C) {r : ScriptReason}
    (hr : ∀ line, Failure.isOwn (.script ⟨r, line, none⟩) = true) :
    C.Keeps (failInLine r : ScriptM α) :=
  keeps_get.bind fun s => yields_throw (hC.script _ (hr s.line))

theorem keeps_checkName (hC : B.Inside C) (p : Place) (name : String) : C.Keeps (checkName p name) := by
  unfold checkName
  split
  · exact hC.keeps_failAt p rfl
  · exact keeps_pure _

theorem keeps_lookup (hC : B.Inside C) (p : Place) (name : String) : C.Keeps (lookup p name) := by
  unfold lookup
  refine (hC.keeps_checkName p name).bind fun _ => keeps_get.bind fun s => ?_
  split
  · exact keeps_pure _
  · split
    · exact keeps_pure _
    · split
      · exact keeps_pure _
      · exact hC.keeps_failAt p rfl

/-- Storing a value under a name checks the name, and sets a variable or a field of the geometry. -/
theorem keeps_store (hC : B.Inside C) (hvariable : ∀ name v, C.Keeps (setVariable name v))
    (hfield : ∀ f v, C.Keeps (liftM (DrawM.setField f v) : ScriptM Unit)) (p : Place) (name : String)
    (v : Value) : C.Keeps (store p name v) := by
  unfold store
  refine (hC.keeps_checkName p name).bind fun _ => ?_
  split
  · exact hfield _ v
  · split
    · exact hC.keeps_failAt p rfl
    · exact hvariable name v

variable [B.Evaluating]

theorem keeps_ofExcept (hC : B.Inside C) {x : Except Fault α} (hx : Civil x) :
    C.Keeps (liftM x : ScriptM α) := by
  cases x with
  | ok a => exact keeps_pure a
  | error f => exact hC.keeps_fault (Reading.fails f (hx f rfl))

theorem keeps_exceeds (hC : B.Inside C) (n : Int) {r : ScriptReason}
    (hr : ∀ line, Failure.isOwn (.script ⟨r, line, none⟩) = true) :
    C.Keeps (exceeds n r : ScriptM α) := by
  unfold exceeds
  exact (hC.keeps_ofExcept (Value.civil_intText n)).bind fun _ => hC.keeps_failInLine hr

theorem keeps_checkLength (hC : B.Inside C) (length : Int) : C.Keeps (checkLength length) := by
  unfold checkLength
  split
  · exact hC.keeps_exceeds _ fun _ => rfl
  · exact keeps_pure _

theorem keeps_checkBits (hC : B.Inside C) (bits : Int) : C.Keeps (checkBits bits) := by
  unfold checkBits
  split
  · exact hC.keeps_exceeds _ fun _ => rfl
  · exact keeps_pure _

theorem keeps_checkRepeat (hC : B.Inside C) (sequence count : Value) :
    C.Keeps (checkRepeat sequence count) := by
  unfold checkRepeat
  refine (hC.keeps_ofStore (Value.keeps_sequenceLength? sequence)).bind fun n => ?_
  split
  · exact hC.keeps_checkLength _
  · exact keeps_pure _

theorem keeps_checkExponent (hC : B.Inside C) (exponent : Value) : C.Keeps (checkExponent exponent) := by
  unfold checkExponent
  split
  · exact (hC.keeps_ofStore (Value.keeps_plain exponent)).bind fun _ => hC.keeps_failInLine fun _ => rfl
  · exact keeps_pure _

theorem keeps_checkPower (hC : B.Inside C) (left right : Value) : C.Keeps (checkPower left right) := by
  unfold checkPower
  split
  · split
    · exact hC.keeps_checkBits _
    · exact keeps_pure _
  · exact keeps_pure _

theorem keeps_checkShift (hC : B.Inside C) (left right : Value) : C.Keeps (checkShift left right) := by
  unfold checkShift
  split
  · exact keeps_pure _
  · split
    · exact hC.keeps_exceeds _ fun _ => rfl
    · split
      · split
        · exact hC.keeps_checkBits _
        · exact keeps_pure _
      · exact keeps_pure _

theorem keeps_checkProduct (hC : B.Inside C) (left right : Value) : C.Keeps (checkProduct left right) := by
  unfold checkProduct
  split
  · exact hC.keeps_checkBits _
  · exact keeps_pure _

theorem keeps_checkSum (hC : B.Inside C) (left right : Value) : C.Keeps (checkSum left right) := by
  unfold checkSum
  refine (hC.keeps_ofStore (Value.keeps_sequenceLength? left)).bind fun m =>
    (hC.keeps_ofStore (Value.keeps_sequenceLength? right)).bind fun n => ?_
  split
  · exact hC.keeps_checkLength _
  · exact keeps_pure _

theorem keeps_guarded (hC : B.Inside C) (op : BinaryOp) (left right : Value) :
    C.Keeps (op.guarded left right) := by
  have guarded : C.Keeps (op.guard left right) := by
    unfold BinaryOp.guard
    split
    · exact hC.keeps_failInLine fun _ => rfl
    · exact (hC.keeps_checkExponent _).bind fun _ => hC.keeps_checkPower _ _
    · exact hC.keeps_checkShift _ _
    · exact (hC.keeps_checkProduct _ _).bind fun _ => (hC.keeps_checkRepeat _ _).bind fun _ =>
        hC.keeps_checkRepeat _ _
    · exact hC.keeps_checkSum _ _
    · exact keeps_pure _
  exact guarded.bind fun _ => hC.keeps_ofStore (Value.keeps_binary op left right)

theorem keeps_formattedAt (hC : B.Inside C) (p : Place) (v : Value) (spec : String) :
    C.Keeps (v.formattedAt p spec) := by
  unfold Value.formattedAt
  cases hs : FormatSpec.checkLimits spec with
  | ok u => exact (hC.keeps_ofStore (v.keeps_format spec)).bind fun _ => keeps_pure _
  | error r =>
    cases r with
    | stepLimit limit => exact absurd (checkLimits_isStepLimit hs) Bool.noConfusion
    | fault f => exact hC.keeps_fault (Reading.fails f (FormatSpec.civil_checkLimits hs))
    | _ => exact hC.keeps_failAt p rfl

theorem keeps_appendItems (hC : B.Inside C) (done : Array Value) (v : Value) :
    C.Keeps (Value.appendItems done v) := by
  have checked : C.Keeps (Value.checkAppended done v) := by
    unfold Value.checkAppended
    refine (hC.keeps_ofStore v.keeps_sizedLength?).bind fun n => ?_
    cases n with
    | none => exact keeps_pure _
    | some n => exact hC.keeps_checkLength _
  exact checked.bind fun _ => (hC.keeps_ofStore v.keeps_items).bind fun _ => keeps_pure _

theorem keeps_loopItems (hC : B.Inside C) (p : Place) (v : Value) : C.Keeps (Stmt.loopItems p v) := by
  have checked : C.Keeps (Stmt.checkLoop p v) := by
    unfold Stmt.checkLoop
    refine (hC.keeps_ofStore v.keeps_sizedLength?).bind fun n => ?_
    cases n with
    | none => exact keeps_pure _
    | some n =>
      dsimp only
      split
      · exact hC.keeps_failAt p rfl
      · exact keeps_pure _
  unfold Stmt.loopItems
  refine checked.bind fun _ => (hC.keeps_ofStore (Value.keeps_firstItems _ v)).bind fun xs => ?_
  split
  · exact hC.keeps_failAt p rfl
  · exact keeps_pure _

end Contract.Inside

theorem Contract.Working.keeps_beginAt {C : Contract Failure Session} (hC : B.Working C) (p : Place) :
    C.Keeps (ScriptM.beginAt p) := fun s =>
  ⟨hC.begins s (some p.line) (some p.column), trivial⟩

end WireSketch
