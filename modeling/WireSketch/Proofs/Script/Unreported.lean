import WireSketch.Command.Problem
import WireSketch.Proofs.Script.Traced

/-! The faults that leave a script without a report: of all that calls may raise, one kind does. -/
namespace WireSketch
open Contract

theorem Value.isMember_memberFault (v : Value) (part : String) : (v.memberFault part).isMember = true := by
  unfold Value.memberFault
  split <;> rfl

theorem FormatFault.faultClass_ne_member (f : FormatFault) : f.faultClass ≠ .member := by
  unfold FormatFault.faultClass
  split <;> exact nofun

theorem TemplateFault.faultClass_ne_member (t : TemplateFault) : t.faultClass ≠ .member := by
  unfold TemplateFault.faultClass
  split <;> exact nofun

theorem Fault.isMember_iff (f : Fault) : f.isMember = true ↔ f.faultClass = .member := by
  cases f with
  | noAttribute t name => exact iff_of_true rfl rfl
  | format f => exact iff_of_false Bool.noConfusion f.faultClass_ne_member
  | template t => exact iff_of_false Bool.noConfusion t.faultClass_ne_member
  | _ => exact iff_of_false Bool.noConfusion nofun

/-- Besides the classes of the host, one class of faults is not reported. -/
theorem FaultClass.isReported_eq_false_iff (c : FaultClass) :
    c.isReported = false ∧ c ≠ .recursion ∧ c ≠ .state ↔ c = .member := by
  cases c <;> decide

/-- The call runs a function that looks for a part of a node in its first argument, which is no node. -/
def Callable.MissesNode (g : Callable) (a : Arguments) (f : Fault) : Prop :=
  ∃ p b part v, g.Reaches a p b ∧ p.nodePart = some part ∧ b.values.head? = some v ∧ (∀ n, v ≠ .node n) ∧
    f = v.memberFault part

def Contract.missing (g : Callable) (a : Arguments) : Contract Failure World where
  rel _ _ := True
  fails e := ∀ f, e = .fault f → f.isMember = true → g.MissesNode a f
  refl _ := trivial
  trans _ _ := trivial

theorem missing_calling (g : Callable) (a : Arguments) : (Contract.missing g a).Calling where
  store _ _ := trivial
  styles _ _ := trivial
  scene _ _ := trivial
  labels _ _ := trivial
  fault f hf := by
    rintro _ ⟨⟩ h
    exact absurd (h.symm.trans hf) Bool.noConfusion
  diagram _ := nofun
  field _ _ _ := trivial
  range _ := nofun
  format _ _ _ _ := nofun

theorem Callable.missesNode_of_error {g : Callable} {a : Arguments} {w t : World} {f : Fault}
    (h : g.call a w = .error (.fault f) t) (hf : f.isMember = true) : g.MissesNode a f := by
  have hkeeps : (Contract.missing g a).Keeps (g.call a) :=
    (missing_calling g a).keeps_call fun p b hp part v hpart hv hn g hg _ => by
      cases hg
      exact ⟨p, b, part, v, hp, hpart, hv, hn, rfl⟩
  exact (hkeeps.of_error h).2 f rfl hf

theorem Callable.MissesNode.isMember {g : Callable} {a : Arguments} {f : Fault} (h : g.MissesNode a f) :
    f.isMember = true := by
  obtain ⟨p, b, part, v, -, -, -, -, rfl⟩ := h
  exact v.isMember_memberFault part

/-- Programs of scripts in which no member is missing. -/
def Contract.complete : Contract Failure Session where
  rel _ _ := True
  fails e := e.isMember = false
  refl _ := trivial
  trans _ _ := trivial

theorem complete_working : civil.Working complete where
  heap _ _ _ := trivial
  fault _ h := h
  begins _ _ _ := trivial
  script _ _ := rfl

theorem ScriptM.complete_store (p : Place) (name : String) (v : Value) : complete.Keeps (store p name v) :=
  complete_working.keeps_store (fun _ _ _ => ⟨trivial, trivial⟩) (fun _ _ _ => ⟨trivial, trivial⟩) p name v

namespace Trace

variable {α : Type} {es : Trace}

/-- The last event is a call that fails, as a function in it is given no node. -/
def EndsWithoutNode (es : Trace) (f : Fault) : Prop :=
  ∃ g a s t, es.getLast? = some ⟨.call g a, s, t⟩ ∧ (∃ w, g.call a s.world = .error (.fault f) w) ∧
    g.MissesNode a f

/-- A missing member ends a run in a call, and such a call ends the run. -/
theorem Concludes.error_iff {r : EStateM.Result Failure Session α} (h : es.Concludes r) (f : Fault) :
    (∃ t, r = .error (.fault f) t) ∧ f.isMember = true ↔ es.EndsWithoutNode f := by
  constructor
  · rintro ⟨⟨t, rfl⟩, hf⟩
    obtain ⟨⟨act, s, u⟩, hlast, hfails⟩ := h
    cases act with
    | work => exact absurd (hf.symm.trans hfails) Bool.noConfusion
    | store p name v =>
      obtain ⟨t', hstore⟩ := hfails
      have hcivil : f.isMember = false := ((ScriptM.complete_store p name v).of_error hstore).2
      exact absurd (hf.symm.trans hcivil) Bool.noConfusion
    | call g a =>
      obtain ⟨w, hcall⟩ := hfails
      exact ⟨g, a, s, u, hlast, ⟨w, hcall⟩, Callable.missesNode_of_error hcall hf⟩
  · rintro ⟨g, a, s, u, hlast, ⟨w, hcall⟩, hmiss⟩
    refine ⟨?_, hmiss.isMember⟩
    cases r with
    | ok b t =>
      obtain ⟨v, w', hok⟩ := h _ (List.mem_of_getLast? hlast)
      exact absurd (hok.symm.trans hcall) nofun
    | error e t =>
      obtain ⟨ev, hev, hfails⟩ := h
      cases hev.symm.trans hlast
      obtain ⟨w', hfault⟩ := hfails
      cases hfault.symm.trans hcall
      exact ⟨t, rfl⟩

end Trace

namespace ScriptM

variable {α : Type} {s : Session} {f : Fault}

theorem reported_error_iff (x : ScriptM α) : (∃ t, reported x s = .error (.fault f) t) ↔
    (∃ t, x s = .error (.fault f) t) ∧ f.faultClass.isReported = false := by
  unfold reported
  cases x s with
  | ok a t => exact iff_of_false nofun nofun
  | error e t =>
    cases e with
    | fault g =>
      dsimp only
      split
      · rename_i hg
        refine iff_of_false nofun fun ⟨⟨t, ht⟩, hf⟩ => ?_
        cases ht
        exact absurd (hg.symm.trans hf) Bool.noConfusion
      · rename_i hg
        refine ⟨fun ⟨t, ht⟩ => ?_, And.left⟩
        cases ht
        exact ⟨⟨t, rfl⟩, eq_false_of_ne_true hg⟩
    | diagram e => exact iff_of_false nofun nofun
    | script e => exact iff_of_false nofun nofun

/-- What passes the report of a script is what its statements raise in a class that is not reported. -/
theorem runScript_error_iff (budget : Int) (script : List Stmt) :
    (∃ t, runScript budget script s = .error (.fault f) t) ↔
      (∃ t, Stmt.runAll budget script s = .error (.fault f) t) ∧ f.faultClass.isReported = false := by
  unfold runScript
  rw [reported_error_iff]
  refine and_congr_left fun _ => ?_
  cases h : Stmt.runAll budget script s with
  | ok flow t =>
    rw [Run.bind_ok h]
    cases flow <;> exact iff_of_false nofun nofun
  | error e t =>
    rw [Run.bind_error h]
    refine ⟨fun ⟨_, ht⟩ => ?_, fun ⟨_, ht⟩ => ?_⟩ <;> cases ht <;> exact ⟨t, rfl⟩

/-- The same of a script that is still to be read. -/
theorem runSource_error_iff (budget : Int) (source : String) :
    (∃ t, runSource budget source s = .error (.fault f) t) ∧ f.faultClass ≠ .recursion ∧
        f.faultClass ≠ .state ↔
      source.toList.contains '\x00' = true ∧ f = .nullInSource ∨
        (s.trace budget source).EndsWithoutNode f := by
  cases hnull : source.toList.contains '\x00' with
  | true =>
    have htrace : s.trace budget source = [] := if_pos hnull
    have hrun : runSource budget source s = .error (.fault .nullInSource) s := by
      unfold runSource
      rw [hnull]
      rfl
    rw [htrace, hrun]
    constructor
    · rintro ⟨⟨t, ht⟩, -⟩
      cases ht
      exact .inl ⟨rfl, rfl⟩
    · rintro (⟨-, rfl⟩ | ⟨g, a, u, t, hlast, -⟩)
      · exact ⟨⟨s, rfl⟩, nofun, nofun⟩
      · cases hlast
  | false =>
    cases hscript : Stmt.ofSource? source with
    | none =>
      have htrace : s.trace budget source = [] := by
        unfold Session.trace
        rw [hnull, hscript]
        rfl
      have hrun : runSource budget source s = .error (.script ⟨.malformed, none, none⟩) s := by
        unfold runSource
        rw [hnull, hscript]
        rfl
      rw [htrace, hrun]
      refine iff_of_false (fun ⟨⟨_, ht⟩, _⟩ => nomatch ht) ?_
      rintro (⟨h, -⟩ | ⟨g, a, u, t, hlast, -⟩)
      · cases h
      · cases hlast
    | some script =>
      have hrun : runSource budget source s = runScript budget script s := by
        unfold runSource
        rw [hnull, hscript]
        rfl
      rw [hrun, runScript_error_iff, and_assoc, FaultClass.isReported_eq_false_iff, ← Fault.isMember_iff,
        (trace_of_ofSource? budget hnull hscript s).2.error_iff f]
      exact (or_iff_right fun h => Bool.noConfusion h.1).symm

end ScriptM

theorem DiagramError.code_ne_internal (e : DiagramError) : e.code ≠ "E_INTERNAL" := by
  unfold code
  split <;> decide

/-- A command reports a drawing that fails as a fault of its own just if a bare fault left the script. -/
theorem Command.Problem.internal_drawing_iff (source : Option String) (e : Failure) :
    (drawing source e).report.code = "E_INTERNAL" ↔ ∃ f, e = .fault f := by
  cases e with
  | fault f => exact iff_of_true rfl ⟨f, rfl⟩
  | script e =>
    have hcode : (drawing source (.script e)).report.code = "E_SCRIPT" := rfl
    rw [hcode]
    exact iff_of_false (by decide) nofun
  | diagram e => exact iff_of_false e.code_ne_internal nofun

/--
Apart from limits of the host and from containers that change size while they are walked, two kinds of bare
faults leave a script: that of a source with a null character, and that of a call that gives a node function
no node. No operator, no subscript and no assignment lets one out, and nothing stops one that such a call
raises.
-/
theorem buildDiagram_fault_iff (budget : Int) (source : String) (f : Fault) :
    buildDiagram budget source = .error (.fault f) ∧ f.faultClass ≠ .recursion ∧ f.faultClass ≠ .state ↔
      source.toList.contains '\x00' = true ∧ f = .nullInSource ∨
        (Session.trace budget source (.start {})).EndsWithoutNode f := by
  rw [← ScriptM.runSource_error_iff]
  refine and_congr_left fun _ => ?_
  unfold buildDiagram
  cases ScriptM.runSource budget source (.start {}) with
  | ok u s => exact iff_of_false nofun nofun
  | error e s =>
    refine ⟨fun h => ?_, fun ⟨_, h⟩ => ?_⟩
    · cases h
      exact ⟨s, rfl⟩
    · cases h
      rfl

set_option maxRecDepth 100000 in
/-- A number in the place of a node: the command reports a fault of its own, with status 1. -/
theorem buildDiagram_getAttrs_of_int :
    buildDiagram defaultBudget "get_attrs(1)\n" = .error (.fault (.noAttribute "int" "attrs")) ∧
      (Command.Problem.drawing none (.fault (.noAttribute "int" "attrs"))).report.status = 1 := by
  have houtcome : (match buildDiagram defaultBudget "get_attrs(1)\n" with
      | .ok _ => none
      | .error e => some e) = some (.fault (.noAttribute "int" "attrs")) := by decide +kernel
  refine ⟨?_, rfl⟩
  cases h : buildDiagram defaultBudget "get_attrs(1)\n" with
  | ok w =>
    rw [h] at houtcome
    cases houtcome
  | error e =>
    rw [h] at houtcome
    cases houtcome
    rfl

end WireSketch
