import Mathlib.Data.List.Basic
import WireSketch.Proofs.Call.Builtin
import WireSketch.Proofs.Number.Numeral
import WireSketch.Proofs.Script.Work

/-!
The width and the precision that are checked against the limit are those that the formatter takes, so that
no field of a text is wider than the limit allows.
-/
namespace WireSketch
open Contract Text

namespace FormatSpec

variable {spec t : String} {code : Option Char} {align : Align} {s : FormatSpec}

theorem number_eq (r : List Char) : number r =
    (if (r.takeWhile isDecimalDigit).isEmpty then none else some (numeral (r.takeWhile isDecimalDigit)),
      r.dropWhile isDecimalDigit) := by
  unfold number
  dsimp only
  split
  · rename_i hnone
    have hdrop : r.dropWhile isDecimalDigit = r := by
      have happend := List.takeWhile_append_dropWhile (p := isDecimalDigit) (l := r)
      rwa [List.isEmpty_iff.mp hnone, List.nil_append] at happend
    rw [hdrop]
  · rfl

/-- A number that is left out counts as zero, like no digits. -/
theorem getD_number (r : List Char) : (number r).1.getD 0 = numeral (r.takeWhile isDecimalDigit) := by
  rw [number_eq]
  dsimp only
  split
  · rename_i hnone
    rw [List.isEmpty_iff.mp hnone]
    rfl
  · rfl

/-- A zero in front of a width changes neither its value nor what follows it. -/
theorem optional_zero (r : List Char) :
    numeral ((optional (· == '0') r).2.takeWhile isDecimalDigit) = numeral (r.takeWhile isDecimalDigit) ∧
      (optional (· == '0') r).2.dropWhile isDecimalDigit = r.dropWhile isDecimalDigit := by
  cases r with
  | nil => exact ⟨rfl, rfl⟩
  | cons c r =>
    by_cases hc : c = '0'
    · subst hc
      have hdigit : isDecimalDigit '0' = true := by decide
      rw [optional, if_pos (by decide), List.takeWhile_cons_of_pos hdigit,
        List.dropWhile_cons_of_pos hdigit]
      exact ⟨rfl, rfl⟩
    · rw [optional, if_neg (by simpa using hc)]
      exact ⟨rfl, rfl⟩

theorem separators_rest {r rest : List Char} {separator : Option Separator}
    (h : separators r = .ok (separator, rest)) :
    (optional (fun c => c == ',' || c == '_') r).2 = rest := by
  unfold separators at h
  split at h
  · cases h
  · cases h
  · cases h
    rfl
  · cases h
    rfl
  · rename_i hcomma hunderscore
    cases h
    cases r with
    | nil => rfl
    | cons c r =>
      have hc : c ≠ ',' := fun hc => hcomma r (congrArg (· :: r) hc)
      have hu : c ≠ '_' := fun hc => hunderscore r (congrArg (· :: r) hc)
      rw [optional, if_neg (by simp [hc, hu])]

def precisionDigits : List Char → List Char
  | '.' :: r => r.takeWhile isDecimalDigit
  | _ => []

theorem precisionDigits_of_ne {r : List Char} (h : ∀ tail, r = '.' :: tail → False) :
    precisionDigits r = [] := by
  unfold precisionDigits
  split
  · exact (h _ rfl).elim
  · rfl

theorem precisions_value {r rest : List Char} {precision : Option Nat}
    (h : precisions r = .ok (precision, rest)) : precision.getD 0 = numeral (precisionDigits r) := by
  unfold precisions at h
  split at h
  · obtain ⟨-, -, h⟩ := Except.of_bind_ok h
    split at h
    · cases h
    · cases h
      exact getD_number _
  · rename_i hpoint
    cases h
    rw [precisionDigits_of_ne hpoint]
    rfl

/-- What follows the alignment, the sign and the two marks of a specification. -/
def afterMarks (spec : String) : List Char :=
  let (_, _, r) := alignment spec.toList
  let (_, r) := optional (fun c => c == '+' || c == '-' || c == ' ') r
  let (_, r) := optional (· == 'z') r
  (optional (· == '#') r).2

/-- The formatter reads a width, with or without the zero in front of it, and then a precision. -/
theorem of_parse_ok (h : parse spec t code align = .ok s) : ∃ r separator after rest,
    (r = afterMarks spec ∨ r = (optional (· == '0') (afterMarks spec)).2) ∧ s.width = (number r).1 ∧
      separators (r.dropWhile isDecimalDigit) = .ok (separator, after) ∧
      precisions after = .ok (s.precision, rest) := by
  unfold parse at h
  dsimp only at h
  generalize hzero : (if (alignment spec.toList).1.isSome = true then _ else _) = zero at h
  have hr : zero.2 = afterMarks spec ∨ zero.2 = (optional (· == '0') (afterMarks spec)).2 := by
    rw [← hzero]
    split
    · exact .inl rfl
    · exact .inr rfl
  obtain ⟨-, -, h⟩ := Except.of_bind_ok h
  obtain ⟨⟨separator, after⟩, hseparator, h⟩ := Except.of_bind_ok h
  obtain ⟨⟨precision, rest⟩, hprecision, h⟩ := Except.of_bind_ok h
  obtain ⟨code', -, h⟩ := Except.of_bind_ok h
  obtain ⟨-, -, h⟩ := Except.of_bind_ok h
  cases h
  rw [number_eq] at hseparator
  exact ⟨zero.2, separator, after, rest, hr, rfl, hseparator, hprecision⟩

/-- Both readers of a specification find the same width and the same precision. -/
theorem declared_of_parse (h : parse spec t code align = .ok s) :
    s.width.getD 0 = numeral (declared spec).1 ∧ s.precision.getD 0 = numeral (declared spec).2 := by
  obtain ⟨r, separator, after, rest, hr, hwidth, hseparator, hprecision⟩ := of_parse_ok h
  have hdeclared : declared spec =
      let r := (optional (· == '0') (afterMarks spec)).2
      (r.takeWhile isDecimalDigit,
        precisionDigits (optional (fun c => c == ',' || c == '_') (r.dropWhile isDecimalDigit)).2) := by
    unfold declared afterMarks
    dsimp only
    generalize (optional (fun c => c == ',' || c == '_') _).2 = tail
    split
    · rfl
    · rename_i hpoint
      rw [precisionDigits_of_ne hpoint]
  obtain ⟨hdigits, hafter⟩ := optional_zero (afterMarks spec)
  have hsame : numeral (r.takeWhile isDecimalDigit) = numeral (declared spec).1 ∧
      precisionDigits after = (declared spec).2 := by
    rw [← separators_rest hseparator, hdeclared]
    dsimp only
    rcases hr with rfl | rfl
    · exact ⟨hdigits.symm, by rw [hafter]⟩
    · exact ⟨rfl, rfl⟩
  rw [hwidth, getD_number, precisions_value hprecision, hsame.1, hsame.2]
  exact ⟨rfl, rfl⟩

theorem isDecimalDigit_declared (spec : String) :
    (∀ c ∈ (declared spec).1, isDecimalDigit c = true) ∧
      ∀ c ∈ (declared spec).2, isDecimalDigit c = true := by
  unfold declared
  dsimp only
  split
  · exact ⟨List.all_eq_true.mp List.all_takeWhile, List.all_eq_true.mp List.all_takeWhile⟩
  · exact ⟨List.all_eq_true.mp List.all_takeWhile, by simp⟩

/-- Digits pass the limit just if what they denote does; too many of them are a fault of their own. -/
theorem numeral_of_checkLimit (field : String) {digits : List Char}
    (h : ∀ c ∈ digits, isDecimalDigit c = true) :
    (checkLimit field digits = .ok () → numeral digits ≤ maxSequenceLength) ∧
      ∀ name n, checkLimit field digits = .error (.formatLimit name n) →
        maxSequenceLength < numeral digits := by
  unfold checkLimit
  cases digits with
  | nil => exact ⟨fun _ => Nat.zero_le _, nofun⟩
  | cons c digits =>
    rw [if_neg (by simp), Reading.int_digits (List.cons_ne_nil c digits) h]
    split
    · rename_i n hread
      split at hread
      · cases hread
      · cases hread
        split
        · rename_i hlarge
          exact ⟨nofun, fun _ _ _ => by omega⟩
        · rename_i hsmall
          exact ⟨fun _ => by omega, nofun⟩
    · exact ⟨nofun, nofun⟩
    · rename_i hread
      split at hread <;> cases hread

/-- Neither the width nor the precision is above the greatest length of a text. -/
def WithinLimits (s : FormatSpec) : Prop :=
  (∀ w ∈ s.width, w ≤ maxSequenceLength) ∧ ∀ p ∈ s.precision, p ≤ maxSequenceLength

theorem getD_le_iff (n : Option Nat) (limit : Nat) : n.getD 0 ≤ limit ↔ ∀ k ∈ n, k ≤ limit := by
  cases n <;> simp

theorem withinLimits_iff (h : parse spec t code align = .ok s) : s.WithinLimits ↔
    numeral (declared spec).1 ≤ maxSequenceLength ∧ numeral (declared spec).2 ≤ maxSequenceLength := by
  obtain ⟨hwidth, hprecision⟩ := declared_of_parse h
  rw [← hwidth, ← hprecision, getD_le_iff, getD_le_iff]
  exact Iff.rfl

/-- A specification that passes the check is read within the limits, and one that is over them is not. -/
theorem withinLimits_of_checkLimits (h : parse spec t code align = .ok s) :
    (checkLimits spec = .ok () → s.WithinLimits) ∧
      ∀ field n, checkLimits spec = .error (.formatLimit field n) → ¬ s.WithinLimits := by
  rw [withinLimits_iff h]
  obtain ⟨hdigits, hdigits'⟩ := isDecimalDigit_declared spec
  obtain ⟨width_ok, width_limit⟩ := numeral_of_checkLimit "width" hdigits
  obtain ⟨precision_ok, precision_limit⟩ := numeral_of_checkLimit "precision" hdigits'
  unfold checkLimits
  dsimp only
  cases hwidth : checkLimit "width" (declared spec).1 with
  | ok u => exact ⟨fun hp => ⟨width_ok hwidth, precision_ok hp⟩,
      fun field n hp hle => absurd hle.2 (Nat.not_le.mpr (precision_limit field n hp))⟩
  | error e =>
    refine ⟨nofun, fun field n he hle => ?_⟩
    cases he
    exact absurd hle.1 (Nat.not_le.mpr (width_limit field n hwidth))

/-- A text is as wide as its field at least. -/
def Fills (s : FormatSpec) (text : String) : Prop := ∀ w ∈ s.width, w ≤ text.length

theorem fills_padded (s : FormatSpec) (text : List Char) : s.Fills (s.padded text) := by
  intro w hw
  have hmargins : w ≤ (s.margins text.length).1 + text.length + (s.margins text.length).2 := by
    unfold margins
    rw [Option.mem_def.mp hw]
    cases s.align <;> simp only [Option.getD_some] <;> omega
  unfold padded
  rw [String.length_ofList]
  simpa [Nat.add_assoc] using hmargins

theorem fills_writeNumber (s : FormatSpec) (size : Nat) (p : FieldParts) :
    s.Fills (String.ofList (s.writeNumber size p)) := by
  intro w hw
  rw [String.length_ofList]
  unfold writeNumber
  dsimp only
  generalize s.grouped size p.digits _ = digits
  rw [Option.mem_def.mp hw]
  cases s.align <;> simp only [List.length_append, List.length_replicate, Option.getD_some] <;> omega

theorem fills_formatText (s : FormatSpec) (text : String) : Returns s.Fills (s.formatText text) := by
  have hwritten (cs : List Char) : Returns s.Fills (pure (s.padded cs) : Except Fault String) :=
    returns_pure (s.fills_padded cs)
  unfold formatText
  dsimp only
  split
  · exact returns_throw_bind
  · exact returns_throw_bind
  · exact .ite returns_throw_bind (.ite returns_throw_bind (.ite returns_throw_bind (hwritten _)))

theorem fills_formatInt (s : FormatSpec) (n : Int) : Returns s.Fills (s.formatInt n) := by
  have hwritten (size : Nat) (p : FieldParts) :
      Returns s.Fills (pure (String.ofList (s.writeNumber size p)) : Except Fault String) :=
    returns_pure (s.fills_writeNumber size p)
  unfold formatInt
  refine .ite returns_throw_bind (.ite returns_throw_bind (.ite ?_ ?_))
  · exact .ite returns_throw_bind (.ite returns_throw_bind (.ite returns_throw_bind
      (.ite returns_throw_bind (hwritten 3 _))))
  · exact .ite (.bind fun _ => hwritten _ _) (hwritten _ _)

theorem fills_formatFloat (s : FormatSpec) (x : Float) : Returns s.Fills (s.formatFloat x) :=
  .bind fun _ => returns_pure (s.fills_writeNumber 3 _)

theorem fills_formatComplex (s : FormatSpec) (re im : Float) : Returns s.Fills (s.formatComplex re im) :=
  .bind fun _ => .ite returns_throw_bind (.ite returns_throw_bind (returns_pure (s.fills_padded _)))

end FormatSpec

namespace Value
open FormatSpec

/-- How the formatter of a value reads a specification: integers are decimal and texts stand on the left
unless it says otherwise. -/
def fieldSpec (v : Value) (spec : String) : Except Fault FormatSpec :=
  match v with
  | str _ => parse spec v.typeName (some 's') .left
  | int _ | bool _ => parse spec v.typeName (some 'd') .right
  | _ => parse spec v.typeName Option.none .right

theorem fieldSpec_parse (v : Value) (spec : String) :
    ∃ code align, v.fieldSpec spec = parse spec v.typeName code align := by
  unfold fieldSpec
  split
  · exact ⟨_, _, rfl⟩
  · exact ⟨_, _, rfl⟩
  · exact ⟨_, _, rfl⟩
  · exact ⟨_, _, rfl⟩

/-- The empty specification asks for nothing. -/
theorem fieldSpec_empty (v : Value) : ∃ s, v.fieldSpec "" = .ok s ∧ s.width = Option.none := by
  obtain ⟨code, align, h⟩ := v.fieldSpec_parse ""
  exact ⟨_, h, rfl⟩

/-- Nothing but its reading of a specification counts for the formatter. -/
theorem format_congr (v : Value) {spec spec' : String} (h : spec ≠ "") (h' : spec' ≠ "")
    (hread : v.fieldSpec spec = v.fieldSpec spec') : v.format spec = v.format spec' := by
  have hempty : spec.isEmpty = false := by simpa using h
  have hempty' : spec'.isEmpty = false := by simpa using h'
  unfold format fieldSpec at *
  cases v with
  | str _ | int _ | bool _ | float _ | complex _ _ =>
    dsimp only at hread ⊢
    rw [hempty, hempty', hread]
  | _ =>
    dsimp only
    rw [hempty, hempty']

/-- What the formatter returns for a value: a text that fills the field of a specification it has read. -/
def FieldOf (v : Value) (spec text : String) : Prop := ∃ s, v.fieldSpec spec = .ok s ∧ s.Fills text

theorem yields_format (v : Value) (spec : String) : reading.Yields (v.FieldOf spec) (v.format spec) := by
  have hwhole (s : FormatSpec) (hs : v.fieldSpec spec = .ok s) (n : Int) :
      reading.Yields (v.FieldOf spec) (liftM (s.formatInt n) : StoreM String) :=
    (StoreM.yields_ofExcept (s.fills_formatInt n)).mono fun text htext => ⟨s, hs, htext⟩
  have hreal (s : FormatSpec) (hs : v.fieldSpec spec = .ok s) (x : Float) :
      reading.Yields (v.FieldOf spec) (liftM (s.formatFloat x) : StoreM String) :=
    (StoreM.yields_ofExcept (s.fills_formatFloat x)).mono fun text htext => ⟨s, hs, htext⟩
  have hrounded (s : FormatSpec) (hs : v.fieldSpec spec = .ok s) (n : Int) :
      reading.Yields (v.FieldOf spec) (do s.formatFloat (← (Num.int n).toFloat) : StoreM String) :=
    (StoreM.yields_ofExcept fun _ h => h).bind fun x _ => hreal s hs x
  have hread {x : Except Fault FormatSpec} (hx : v.fieldSpec spec = x) :
      reading.Yields (fun s => v.fieldSpec spec = .ok s) (liftM x : StoreM FormatSpec) :=
    StoreM.yields_ofExcept fun s hs => hx.trans hs
  unfold format
  split
  · rename_i hempty
    obtain rfl : spec = "" := by simpa using hempty
    obtain ⟨s, hs, hnone⟩ := v.fieldSpec_empty
    refine (keeps_plain v).mono fun text _ => ⟨s, hs, fun w hw => ?_⟩
    rw [hnone] at hw
    cases hw
  · dsimp only
    cases v with
    | str t =>
      refine (hread rfl).bind fun s hs => yields_ite ?_ (yields_throw trivial)
      exact (StoreM.yields_ofExcept (s.fills_formatText t)).mono fun text htext => ⟨s, hs, htext⟩
    | int n =>
      refine (hread rfl).bind fun s hs => ?_
      split
      all_goals first | exact hwhole s hs n | exact hrounded s hs n | exact yields_throw trivial
    | bool b =>
      refine (hread rfl).bind fun s hs => ?_
      split
      all_goals first | exact hwhole s hs _ | exact hrounded s hs _ | exact yields_throw trivial
    | float x =>
      exact (hread rfl).bind fun s hs => yields_ite (hreal s hs x) (yields_throw trivial)
    | complex re im =>
      refine (hread rfl).bind fun s hs => yields_ite ?_ (yields_throw trivial)
      exact (StoreM.yields_ofExcept (s.fills_formatComplex re im)).mono fun text htext => ⟨s, hs, htext⟩
    | _ => exact yields_throw trivial

/-- A text in a field whose width and precision, where they are given, are within the limits. -/
def LimitedField (v : Value) (spec text : String) : Prop :=
  ∃ s, v.fieldSpec spec = .ok s ∧ s.WithinLimits ∧ s.Fills text

theorem limitedField {v : Value} {spec text : String} (hlimits : checkLimits spec = .ok ())
    (h : v.FieldOf spec text) : v.LimitedField spec text := by
  obtain ⟨s, hs, hfills⟩ := h
  obtain ⟨code, align, hparse⟩ := v.fieldSpec_parse spec
  exact ⟨s, hs, (withinLimits_of_checkLimits (hparse.symm.trans hs)).1 hlimits, hfills⟩

theorem limitedField_of_format {v : Value} {spec text : String} {s t : Store}
    (hlimits : checkLimits spec = .ok ()) (h : v.format spec s = .ok text t) :
    v.LimitedField spec text := limitedField hlimits ((v.yields_format spec).of_ok h).2

/-- A specification over the limit is refused by the formatter, or it is read so. -/
theorem not_withinLimits_of_formatLimit {v : Value} {spec field : String} {n : Nat} {st t : Store}
    {text : String} (hlimits : checkLimits spec = .error (.formatLimit field n))
    (h : v.format spec st = .ok text t) : ∃ s, v.fieldSpec spec = .ok s ∧ ¬ s.WithinLimits := by
  obtain ⟨-, s, hs, -⟩ := (v.yields_format spec).of_ok h
  obtain ⟨code, align, hparse⟩ := v.fieldSpec_parse spec
  exact ⟨s, hs, (withinLimits_of_checkLimits (hparse.symm.trans hs)).2 field n hlimits⟩

/-- A field of a text in a script is limited. -/
theorem of_formattedAt_ok {p : Place} {v result : Value} {spec : String} {s t : Session}
    (h : v.formattedAt p spec s = .ok result t) :
    ∃ text, result = str text ∧ v.LimitedField spec text := by
  unfold formattedAt at h
  cases hlimits : checkLimits spec with
  | ok u =>
    rw [hlimits] at h
    obtain ⟨text, u, htext, h⟩ := Run.of_bind_ok h
    obtain ⟨store, hformat, -⟩ := ScriptM.of_ofStore_ok htext
    cases h
    exact ⟨text, rfl, limitedField_of_format hlimits hformat⟩
  | error r =>
    rw [hlimits] at h
    cases r <;> cases h

end Value

open FormatSpec

namespace Builtin

def formatSignature : Signature := {
  name := Builtin.format.ownName
  parameters := [.required "value", .withDefault "format_spec" (.str "")] }

theorem of_formatted_ok {a : Arguments} {result : Value} {w t : World}
    (h : formatted a w = .ok result t) : ∃ b v spec text, formatSignature.bind a = .ok b ∧
      b.values = [v, .str spec] ∧ result = .str text ∧ v.LimitedField spec text := by
  unfold formatted at h
  obtain ⟨b, u, hlift, h⟩ := Run.of_bind_ok h
  obtain ⟨hbind, -⟩ := DrawM.of_ofExcept_ok hlift
  have hlength : b.values.length = 2 := Signature.length_values hbind
  obtain ⟨v, second, hvalues⟩ := List.length_eq_two.mp hlength
  rw [hvalues] at h
  cases second with
  | str spec =>
    dsimp only at h
    cases hlimits : checkLimits spec with
    | ok u =>
      rw [hlimits] at h
      obtain ⟨text, u, htext, h⟩ := Run.of_bind_ok h
      obtain ⟨store, hformat, -⟩ := DrawM.of_ofStore_ok htext
      cases h
      exact ⟨b, v, spec, text, hbind, hvalues, rfl, Value.limitedField_of_format hlimits hformat⟩
    | error r =>
      rw [hlimits] at h
      cases r <;> cases h
  | _ => cases h

end Builtin

/-- The check of a specification and the formatter agree on every field that the formatter accepts: what
passes the check is written within the limits, in fields of texts and by the function that formats alike,
and what is refused for its length is refused by the formatter too or is over a limit. Nothing else of a
specification counts for the formatter than what it reads of it. -/
theorem Value.format_limits (v : Value) (spec : String) :
    (∀ spec', spec ≠ "" → spec' ≠ "" → v.fieldSpec spec = v.fieldSpec spec' → v.format spec = v.format spec') ∧
    (checkLimits spec = .ok () → ∀ s text t, v.format spec s = .ok text t → v.LimitedField spec text) ∧
    (∀ field n, checkLimits spec = .error (.formatLimit field n) → ∀ s,
      (∃ f t, v.format spec s = .error f t) ∨
        ∃ read, v.fieldSpec spec = .ok read ∧ ¬ read.WithinLimits) ∧
    (∀ p s result t, v.formattedAt p spec s = .ok result t →
      ∃ text, result = .str text ∧ v.LimitedField spec text) ∧
    ∀ a w result t b, Builtin.formatted a w = .ok result t → Builtin.formatSignature.bind a = .ok b →
      b.values = [v, .str spec] → ∃ text, result = .str text ∧ v.LimitedField spec text := by
  refine ⟨fun spec' h h' hread => v.format_congr h h' hread,
    fun hlimits s text t h => limitedField_of_format hlimits h, fun field n hlimits s => ?_,
    fun p s result t h => of_formattedAt_ok h, fun a w result t b h hbind hvalues => ?_⟩
  · cases hformat : v.format spec s with
    | error f t => exact .inl ⟨f, t, rfl⟩
    | ok text t => exact .inr (not_withinLimits_of_formatLimit hlimits hformat)
  · obtain ⟨b', v', spec', text, hbind', hvalues', hresult, hfield⟩ := Builtin.of_formatted_ok h
    obtain rfl : b' = b := Except.ok.inj (hbind'.symm.trans hbind)
    obtain ⟨rfl, hspec⟩ : v' = v ∧ Value.str spec' = .str spec := by simpa using hvalues'.symm.trans hvalues
    cases hspec
    exact ⟨text, hresult, hfield⟩

end WireSketch
