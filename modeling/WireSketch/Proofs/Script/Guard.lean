import WireSketch.Proofs.Number.Bits
import WireSketch.Proofs.Script.Work
import WireSketch.Proofs.Value.Growing

/-!
What the limits on operators let through: integers of so many bits, and texts, lists and tuples of so many
items. Nothing much smaller is refused.
-/
namespace WireSketch
open StoreM

theorem Value.run_sequenceLength? (v : Value) (s : Store) :
    v.sequenceLength? s = .ok (s.sequenceLength? v) s := by
  cases v with
  | list r => exact Run.bind_ok (s.run_getList r)
  | _ => rfl

namespace ScriptM

variable {n : Int} {s t : Session}

/-- How a number beyond a limit is refused: in the line of the statement, if the number has a text. -/
def refusal (n : Int) (r : ScriptReason) (s : Session) : Failure :=
  match Value.intText n with
  | .ok _ => .script ⟨r, s.line, none⟩
  | .error f => .fault f

theorem run_exceeds {α : Type} (n : Int) (r : ScriptReason) (s : Session) :
    (exceeds n r : ScriptM α) s = .error (refusal n r s) s := by
  unfold exceeds refusal
  cases Value.intText n <;> rfl

/-- A number is checked against a limit and changes nothing, whichever limit it is. -/
theorem run_within (limit n : Int) (r : ScriptReason) (s : Session) :
    (do if n > limit then exceeds n r : ScriptM Unit) s =
      if n > limit then .error (refusal n r s) s else .ok () s := by
  split
  · exact run_exceeds n r s
  · rfl

theorem of_within_ok {limit : Int} {e : Failure}
    (h : (if n > limit then .error e s else .ok () s : EStateM.Result Failure Session Unit) = .ok () t) :
    n ≤ limit ∧ t = s := by
  split at h
  · cases h
  · cases h
    exact ⟨by omega, rfl⟩

theorem run_checkLength (n : Int) (s : Session) :
    checkLength n s = if n > maxSequenceLength then .error (refusal n (.lengthLimit n) s) s else .ok () s :=
  run_within _ n _ s

theorem of_checkLength_ok (h : checkLength n s = .ok () t) : n ≤ maxSequenceLength ∧ t = s :=
  of_within_ok ((run_checkLength n s).symm.trans h)

theorem run_checkBits (n : Int) (s : Session) :
    checkBits n s = if n > maxIntBits then .error (refusal n (.bitLimit n) s) s else .ok () s :=
  run_within _ n _ s

theorem of_checkBits_ok (h : checkBits n s = .ok () t) : n ≤ maxIntBits ∧ t = s :=
  of_within_ok ((run_checkBits n s).symm.trans h)

theorem of_checkBits_error {e : Failure} (h : checkBits n s = .error e t) : maxIntBits < n := by
  rw [run_checkBits] at h
  split at h
  · assumption
  · cases h

end ScriptM

namespace BinaryOp
open ScriptM

variable {op : BinaryOp} {left right v : Value} {s t : Session} {e : Failure} {a b n : Int} {l m : Nat}

theorem run_checkRepeat (sequence count : Value) (s : Session) :
    checkRepeat sequence count s = match s.world.store.sequenceLength? sequence, count.asInt? with
      | some n, some k => checkLength (n * k) s
      | _, _ => .ok () s := by
  unfold checkRepeat
  rw [Run.bind_ok (run_ofStore (sequence.run_sequenceLength? s.world.store))]
  cases s.world.store.sequenceLength? sequence <;> cases count.asInt? <;> rfl

theorem run_guard_mul (left right : Value) : guard .mul left right = (do
    checkProduct left right
    checkRepeat left right
    checkRepeat right left) := rfl

/-- A product of integers is guarded by the bits of its factors. -/
theorem run_guard_product (ha : left.asInt? = some a) (hb : right.asInt? = some b) :
    guard .mul left right s = checkBits (bitLength a + bitLength b) s := by
  have hproduct : checkProduct left right = checkBits (bitLength a + bitLength b) := by
    unfold checkProduct
    rw [ha, hb]
  have hrepeat {v w : Value} {k : Int} (hv : v.asInt? = some k) (u : Session) :
      checkRepeat v w u = .ok () u := by
    rw [run_checkRepeat, Value.sequenceLength?_of_asInt? hv]
  rw [run_guard_mul, hproduct]
  cases hbits : checkBits (bitLength a + bitLength b) s with
  | ok u t => rw [Run.bind_ok hbits, Run.bind_ok (hrepeat ha t), hrepeat hb t]
  | error e t => exact Run.bind_error hbits

/-- A repetition is guarded by the length of its result, whichever operand the sequence is. -/
theorem run_guard_repetition (hl : s.world.store.sequenceLength? left = some l) (hb : right.asInt? = some b) :
    guard .mul left right s = checkLength (l * b) s ∧ guard .mul right left s = checkLength (l * b) s := by
  have hproduct : checkProduct left right = pure () ∧ checkProduct right left = pure () := by
    unfold checkProduct
    rw [Value.asInt?_of_sequenceLength? hl, hb]
    exact ⟨rfl, rfl⟩
  have hother (u : Session) : checkRepeat right left u = .ok () u := by
    rw [run_checkRepeat, Value.sequenceLength?_of_asInt? hb]
  have hlength : checkRepeat left right s = checkLength (l * b) s := by
    rw [run_checkRepeat, hl, hb]
  rw [run_guard_mul, run_guard_mul, hproduct.1, hproduct.2, pure_bind, pure_bind, Run.bind_ok (hother s)]
  refine ⟨?_, hlength⟩
  cases hchecked : checkRepeat left right s with
  | ok u t => rw [Run.bind_ok hchecked, hother t, ← hlength, hchecked]
  | error e t => rw [Run.bind_error hchecked, ← hlength, hchecked]

theorem run_guard_add (left right : Value) (s : Session) : guard .add left right s =
    match s.world.store.sequenceLength? left, s.world.store.sequenceLength? right with
      | some l, some m => checkLength (l + m) s
      | _, _ => .ok () s := by
  have hguard : guard .add left right = checkSum left right := rfl
  rw [hguard]
  unfold checkSum
  rw [Run.bind_ok (run_ofStore (left.run_sequenceLength? s.world.store)),
    Run.bind_ok (run_ofStore (right.run_sequenceLength? s.world.store))]
  cases s.world.store.sequenceLength? left <;> cases s.world.store.sequenceLength? right <;> rfl

theorem of_guarded_ok (h : op.guarded left right s = .ok v t) : ∃ u store,
    op.guard left right s = .ok () u ∧ Value.binary op left right u.world.store = .ok v store ∧
      t.world.store = store := by
  obtain ⟨_, u, hguard, hbinary⟩ := Run.of_bind_ok h
  obtain ⟨store, hstore, rfl⟩ := of_ofStore_ok hbinary
  exact ⟨u, store, hguard, hstore, rfl⟩

theorem run_guard_shift (ha : left.asInt? = some a) (hb : right.asInt? = some b) (s : Session) :
    guard .shiftLeft left right s =
      if b > maxShift then .error (refusal b (.shiftLimit b) s) s
      else if 0 < b then checkBits (bitLength a + b) s else .ok () s := by
  have hguard : guard .shiftLeft left right = checkShift left right := rfl
  rw [hguard]
  unfold checkShift
  rw [ha, hb]
  dsimp only
  split
  · exact run_exceeds b _ s
  · split <;> rfl

theorem of_guard_power_ok (ha : left.asInt? = some a) (hb : right.asInt? = some b) (hpos : 0 < b)
    (h : guard .pow left right s = .ok () t) : bitLength a * b ≤ maxIntBits := by
  obtain ⟨_, u, -, hpower⟩ := Run.of_bind_ok h
  unfold checkPower at hpower
  rw [ha, hb] at hpower
  dsimp only at hpower
  rw [if_pos hpos] at hpower
  exact (of_checkBits_ok hpower).1

/-- An integer result has no more bits than the guard has counted. -/
theorem bitLength_of_guarded_ok (hop : op.isGrowing) (ha : left.asInt? = some a) (hb : right.asInt? = some b)
    (h : op.guarded left right s = .ok v t) (hn : v.asInt? = some n) :
    bitLength n ≤ maxIntBits ∨ op = .shiftLeft ∧ b = 0 ∧ n = a := by
  obtain ⟨u, store, hguard, hbinary, -⟩ := of_guarded_ok h
  rcases Num.of_intOp_growing hop (Value.of_binary_ints_ok hop ha hb hbinary hn) with
    ⟨rfl, hb0, rfl⟩ | ⟨rfl, hb0, rfl⟩ | ⟨rfl, rfl⟩
  · rcases Int.lt_or_le 0 b with hpos | hle
    · have hbits := of_guard_power_ok ha hb hpos hguard
      have hpower := bitLength_pow_le a (n := b.toNat) (by omega)
      have hcast : ((bitLength a * b.toNat : Nat) : Int) = bitLength a * b := by
        rw [Int.natCast_mul, Int.toNat_of_nonneg hb0]
      omega
    · have hzero : b.toNat = 0 := by omega
      rw [hzero, Int.pow_zero]
      exact .inl (by decide)
  · rw [run_guard_shift ha hb] at hguard
    split at hguard
    · cases hguard
    split at hguard
    · obtain ⟨hbits, -⟩ := of_checkBits_ok hguard
      by_cases hzero : a = 0
      · rw [hzero, Int.zero_mul]
        exact .inl (by decide)
      · have hshift := bitLength_shift hzero b.toNat
        omega
    · have hzero : b = 0 := by omega
      rw [hzero]
      exact .inr ⟨rfl, rfl, Int.mul_one a⟩
  · rw [run_guard_product ha hb] at hguard
    obtain ⟨hbits, -⟩ := of_checkBits_ok hguard
    have hproduct := bitLength_mul_le a b
    omega

theorem of_checkProduct_ok (h : checkProduct left right s = .ok () t) : t = s := by
  unfold checkProduct at h
  generalize left.asInt? = x, right.asInt? = y at h
  split at h
  · exact (of_checkBits_ok h).2
  · cases h
    rfl

theorem of_checkRepeat_ok {sequence count : Value} (h : checkRepeat sequence count s = .ok () t) :
    t = s ∧ (s.world.store.sequenceLength? sequence = some l → count.asInt? = some b →
      l * b ≤ maxSequenceLength) := by
  rw [run_checkRepeat] at h
  split at h
  · rename_i n k hn hk
    obtain ⟨hlength, rfl⟩ := of_checkLength_ok h
    refine ⟨rfl, fun hl hb => ?_⟩
    rw [Option.some.inj (hl.symm.trans hn), Option.some.inj (hb.symm.trans hk)]
    exact hlength
  · rename_i hother
    cases h
    exact ⟨rfl, fun hl hb => (hother _ _ hl hb).elim⟩

theorem of_guard_add_ok (h : guard .add left right s = .ok () t) :
    t = s ∧ (s.world.store.sequenceLength? left = some l → s.world.store.sequenceLength? right = some m →
      l + m ≤ maxSequenceLength) := by
  rw [run_guard_add] at h
  split at h
  · rename_i k n hk hn
    obtain ⟨hlength, rfl⟩ := of_checkLength_ok h
    refine ⟨rfl, fun hl hm => ?_⟩
    rw [Option.some.inj (hl.symm.trans hk), Option.some.inj (hm.symm.trans hn)]
    omega
  · rename_i hother
    cases h
    exact ⟨rfl, fun hl hm => (hother _ _ hl hm).elim⟩

/-- A sequence that is a sum or a product has as many items as the guard has counted. -/
theorem length_of_guarded_ok (hop : op = .add ∨ op = .mul) (h : op.guarded left right s = .ok v t)
    (hm : t.world.store.sequenceLength? v = some m) : m ≤ maxSequenceLength := by
  obtain ⟨u, store, hguard, hbinary, rfl⟩ := of_guarded_ok h
  rcases hop with rfl | rfl
  · obtain ⟨k, l, hk, hl, rfl⟩ := Value.of_binary_add_ok hbinary hm
    obtain ⟨rfl, hlength⟩ := of_guard_add_ok hguard
    exact hlength hk hl
  · obtain ⟨l, k, rfl, hoperands⟩ := Value.of_binary_mul_ok hbinary hm
    rw [run_guard_mul] at hguard
    obtain ⟨_, u₁, hproduct, hguard⟩ := Run.of_bind_ok hguard
    obtain ⟨_, u₂, hleft, hright⟩ := Run.of_bind_ok hguard
    obtain rfl := of_checkProduct_ok hproduct
    obtain ⟨rfl, hleft⟩ := of_checkRepeat_ok hleft
    obtain ⟨rfl, hright⟩ := of_checkRepeat_ok hright
    have hlength : l * k ≤ maxSequenceLength := by
      rcases hoperands with ⟨hl, hk⟩ | ⟨hl, hk⟩
      · exact hleft hl hk
      · exact hright hl hk
    rcases Int.lt_or_le k 0 with hneg | hpos
    · have hzero : k.toNat = 0 := by omega
      rw [hzero, Nat.zero_mul]
      exact Nat.zero_le _
    · have hcast : ((k.toNat * l : Nat) : Int) = l * k := by
        rw [Int.natCast_mul, Int.toNat_of_nonneg hpos, Int.mul_comm]
      omega

/-- Where the operator gives an integer, what fails is the guard. -/
theorem guard_of_guarded_error {r : Num} (hop : op.isGrowing) (ha : left.asInt? = some a)
    (hb : right.asInt? = some b) (hr : Num.intOp op a b = .ok (some r))
    (h : op.guarded left right s = .error e t) : op.guard left right s = .error e t := by
  cases hguard : op.guard left right s with
  | error e' t' =>
    have hrun : op.guarded left right s = .error e' t' := Run.bind_error hguard
    rw [hrun] at h
    cases h
    rfl
  | ok u u' =>
    have hbinary := Value.run_binary_ints hop ha hb hr u'.world.store
    have hrun : op.guarded left right s = _ := (Run.bind_ok hguard).trans (run_ofStore hbinary)
    rw [hrun] at h
    cases h

/-- Only a product with at least as many bits as the limit is refused: one bit may be counted in vain. -/
theorem le_bitLength_of_guarded_mul_error (ha : left.asInt? = some a) (hb : right.asInt? = some b)
    (ha0 : a ≠ 0) (hb0 : b ≠ 0) (h : guarded .mul left right s = .error e t) :
    maxIntBits ≤ bitLength (a * b) := by
  have hresult : Num.intOp .mul a b = .ok (some (.int (a * b))) := rfl
  have hguard := guard_of_guarded_error rfl ha hb hresult h
  rw [run_guard_product ha hb] at hguard
  have hcount := of_checkBits_error hguard
  have hproduct := le_bitLength_mul ha0 hb0
  omega

/-- Only a shift of a nonzero integer that has more bits than the limit is refused for its bits. -/
theorem lt_bitLength_of_guarded_shift_error (ha : left.asInt? = some a) (hb : right.asInt? = some b)
    (ha0 : a ≠ 0) (hb0 : 0 < b) (hshift : b ≤ maxShift) (h : guarded .shiftLeft left right s = .error e t) :
    maxIntBits < bitLength (a * 2 ^ b.toNat) := by
  have hfar : ¬ b ≥ Int.pow 2 62 := by
    have hlimit : (maxShift : Int) < Int.pow 2 62 := by decide
    omega
  have hresult : Num.intOp .shiftLeft a b = .ok (some (.int (a * Int.pow 2 b.toNat))) := by
    unfold Num.intOp
    dsimp only
    rw [if_neg (by omega), if_neg ha0, if_neg hfar]
    rfl
  have hguard := guard_of_guarded_error rfl ha hb hresult h
  rw [run_guard_shift ha hb, if_neg (by omega), if_pos hb0] at hguard
  have hcount := of_checkBits_error hguard
  have hbits := bitLength_shift ha0 b.toNat
  omega

def unlessLonger (length : Int) (x : StoreM Value) (s : Session) : EStateM.Result Failure Session Value :=
  if length > maxSequenceLength then .error (refusal length (.lengthLimit length) s) s
  else (liftM x : ScriptM Value) s

theorem guarded_of_checkLength {length : Int} (h : op.guard left right s = checkLength length s) :
    op.guarded left right s = unlessLonger length (Value.binary op left right) s := by
  rw [run_checkLength] at h
  unfold unlessLonger
  split
  · rename_i hlong
    rw [if_pos hlong] at h
    exact Run.bind_error h
  · rename_i hshort
    rw [if_neg hshort] at h
    exact Run.bind_ok h

/--
The limits on operators. Powers, shifts and products of integers have at most so many bits, sums and products
that are texts, lists or tuples at most so many items, and hardly anything smaller is refused.
-/
theorem guarded_limits (s : Session) (left right : Value) :
    (∀ (op : BinaryOp) (a b n : Int) (v : Value) (t : Session), op.isGrowing → left.asInt? = some a →
      right.asInt? = some b → op.guarded left right s = .ok v t → v.asInt? = some n →
        bitLength n ≤ maxIntBits ∨ op = .shiftLeft ∧ b = 0 ∧ n = a) ∧
    (∀ (op : BinaryOp) (n : Nat) (v : Value) (t : Session), op = .add ∨ op = .mul →
      op.guarded left right s = .ok v t → t.world.store.sequenceLength? v = some n →
        n ≤ maxSequenceLength) ∧
    (∀ (a b : Int) (e : Failure) (t : Session), left.asInt? = some a → right.asInt? = some b → a ≠ 0 → b ≠ 0 →
      guarded .mul left right s = .error e t → maxIntBits ≤ bitLength (a * b)) ∧
    (∀ (a b : Int) (e : Failure) (t : Session), left.asInt? = some a → right.asInt? = some b → a ≠ 0 → 0 < b →
      b ≤ maxShift → guarded .shiftLeft left right s = .error e t →
        maxIntBits < bitLength (a * 2 ^ b.toNat)) ∧
    (∀ (l : Nat) (k : Int), s.world.store.sequenceLength? left = some l → right.asInt? = some k →
      guarded .mul left right s = unlessLonger (l * k) (Value.binary .mul left right) s ∧
      guarded .mul right left s = unlessLonger (l * k) (Value.binary .mul right left) s) ∧
    ∀ l m : Nat, s.world.store.sequenceLength? left = some l → s.world.store.sequenceLength? right = some m →
      guarded .add left right s = unlessLonger (l + m) (Value.binary .add left right) s := by
  refine ⟨fun _ _ _ _ _ _ hop ha hb h hn => bitLength_of_guarded_ok hop ha hb h hn,
    fun _ _ _ _ hop h hm => length_of_guarded_ok hop h hm,
    fun _ _ _ _ ha hb ha0 hb0 h => le_bitLength_of_guarded_mul_error ha hb ha0 hb0 h,
    fun _ _ _ _ ha hb ha0 hb0 hshift h => lt_bitLength_of_guarded_shift_error ha hb ha0 hb0 hshift h,
    fun l k hl hk => ?_, fun l m hl hm => ?_⟩
  · obtain ⟨hleft, hright⟩ := run_guard_repetition hl hk
    exact ⟨guarded_of_checkLength hleft, guarded_of_checkLength hright⟩
  · refine guarded_of_checkLength ?_
    rw [run_guard_add, hl, hm]

end BinaryOp
end WireSketch
