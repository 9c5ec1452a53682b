import WireSketch.Proofs.Program.Contract
import WireSketch.Value.Operate

/-! Arithmetic on numbers leaves the store alone, and what is added to a number is a number. -/
namespace WireSketch.Value

theorem isSome_num?_toValue (n : Num) : n.toValue.num?.isSome := by cases n <;> rfl

/-- A value other than a number is not added to one. -/
theorem binaryAs_add_of_num?_none {a b : Value} (ha : a.num?.isSome) (hb : b.num? = Option.none)
    (sign : String) (s : Store) :
    binaryAs sign .add a b s = .error (.operands sign a.typeName b.typeName) s := by
  cases a with
  | bool _ => simp only [binaryAs, hb]; rfl
  | int _ => simp only [binaryAs, hb]; rfl
  | float _ => simp only [binaryAs, hb]; rfl
  | complex re im => simp only [binaryAs, hb]; rfl
  | _ => cases ha

/-- The sum of two numbers, whatever the store. -/
theorem binaryAs_add_of_num? {a b : Value} {x y : Num} (ha : a.num? = some x) (hb : b.num? = some y)
    (sign : String) (s : Store) :
    binaryAs sign .add a b s = match x.op .add y with
      | .ok (some r) => .ok r.toValue s
      | .ok Option.none => .error (.operands sign a.typeName b.typeName) s
      | .error f => .error f s := by
  simp only [binaryAs, ha, hb]
  cases x.op .add y with
  | ok r => cases r <;> rfl
  | error f => rfl

/-- Adding into a field that holds a number adds as `+` does, and the sum is a number again. -/
theorem addInto_number {a b v : Value} {s t : Store} (ha : a.num?.isSome)
    (h : a.addInto b s = .ok v t) : v.num?.isSome ∧ ∀ u, a.add b u = .ok v u := by
  have hinto : a.addInto b = binaryAs "+=" .add a b := by
    cases a with
    | list r => cases ha
    | _ => rfl
  rw [hinto] at h
  obtain ⟨x, hx⟩ := Option.isSome_iff_exists.mp ha
  cases hb : b.num? with
  | none =>
    rw [binaryAs_add_of_num?_none ha hb] at h
    cases h
  | some y =>
    rw [binaryAs_add_of_num? hx hb] at h
    cases hop : x.op .add y with
    | error f => rw [hop] at h; cases h
    | ok r =>
      rw [hop] at h
      cases r with
      | none => cases h
      | some r =>
        cases h
        refine ⟨isSome_num?_toValue r, fun u => ?_⟩
        rw [add, binary, binaryAs_add_of_num? hx hb, hop]

/-- Truth values count as integers. -/
theorem num?_of_asInt? {v : Value} {n : Int} (h : v.asInt? = some n) : v.num? = some (.int n) := by
  cases v with
  | bool b => cases h; rfl
  | int n => cases h; rfl
  | _ => cases h

/-- Numbers are combined as numbers by all operators but those of the bits, which keep truth values. -/
theorem binaryAs_of_num? {a b : Value} {x y : Num} {op : BinaryOp} {sign : String} (ha : a.num? = some x)
    (hb : b.num? = some y) (hop : op ∉ [BinaryOp.bitAnd, .bitOr, .bitXor]) :
    binaryAs sign op a b = (do
      match ← (x.op op y : Except Fault (Option Num)) with
      | some r => return r.toValue
      | Option.none => refuse sign a b) := by
  unfold binaryAs
  rw [ha, hb]
  dsimp only
  split
  · simp at hop
  · simp at hop
  · simp at hop
  · rfl

theorem binaryAs_of_op {a b : Value} {x y r : Num} {op : BinaryOp} {sign : String} (ha : a.num? = some x)
    (hb : b.num? = some y) (hop : op ∉ [BinaryOp.bitAnd, .bitOr, .bitXor]) (hr : x.op op y = .ok (some r)) :
    binaryAs sign op a b = pure r.toValue := by
  rw [binaryAs_of_num? ha hb hop, hr]
  rfl

section Integers

variable {a b : Value} {m n : Int}

theorem mul_of_asInt? (ha : a.asInt? = some m) (hb : b.asInt? = some n) : a.mul b = pure (.int (m * n)) :=
  have hop : BinaryOp.mul ∉ [BinaryOp.bitAnd, .bitOr, .bitXor] := by decide
  binaryAs_of_op (num?_of_asInt? ha) (num?_of_asInt? hb) hop rfl

theorem add_of_asInt? (ha : a.asInt? = some m) (hb : b.asInt? = some n) : a.add b = pure (.int (m + n)) :=
  have hop : BinaryOp.add ∉ [BinaryOp.bitAnd, .bitOr, .bitXor] := by decide
  binaryAs_of_op (num?_of_asInt? ha) (num?_of_asInt? hb) hop rfl

theorem sub_of_asInt? (ha : a.asInt? = some m) (hb : b.asInt? = some n) : a.sub b = pure (.int (m - n)) :=
  have hop : BinaryOp.sub ∉ [BinaryOp.bitAnd, .bitOr, .bitXor] := by decide
  binaryAs_of_op (num?_of_asInt? ha) (num?_of_asInt? hb) hop rfl

theorem addInto_of_asInt? (ha : a.asInt? = some m) (hb : b.asInt? = some n) :
    a.addInto b = pure (.int (m + n)) := by
  have hop : BinaryOp.add ∉ [BinaryOp.bitAnd, .bitOr, .bitXor] := by decide
  have hsum : binaryAs "+=" .add a b = pure (.int (m + n)) :=
    binaryAs_of_op (num?_of_asInt? ha) (num?_of_asInt? hb) hop rfl
  cases a with
  | int _ | bool _ => exact hsum
  | _ => cases ha

end Integers

theorem add_int (a b : Int) : (int a).add (int b) = pure (int (a + b)) := rfl

theorem mul_int (a b : Int) : (int a).mul (int b) = pure (int (a * b)) := rfl

theorem addInto_int (a b : Int) : (int a).addInto (int b) = pure (int (a + b)) := rfl

end WireSketch.Value
