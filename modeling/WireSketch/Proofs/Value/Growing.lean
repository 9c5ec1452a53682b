import Mathlib.Algebra.Group.Int.Defs
import WireSketch.Proofs.Value.Number
import WireSketch.Proofs.Value.Size

/-! Operators whose results can be large: those on integers, and sequences repeated or put together. -/
namespace WireSketch
open StoreM

def Store.sequenceLength? (s : Store) : Value → Option Nat
  | .str text => some text.length
  | .list r => some ((s.list? r).getD #[]).size
  | .tuple items => some items.size
  | _ => none

theorem Store.sequenceLength?_list {s : Store} {r : Ref} {xs : Array Value} (h : s.list? r = some xs) :
    s.sequenceLength? (.list r) = some xs.size := by
  unfold sequenceLength?
  dsimp only
  rw [h, Option.getD_some]

/-- The operators that can make large integers of small ones. -/
def BinaryOp.isGrowing : BinaryOp → Bool
  | pow | shiftLeft | mul => true
  | _ => false

namespace Num

variable {op : BinaryOp} {a b n : Int}

theorem floatPow_ne_int (x y : Float) : Returns (fun r => ∀ n, r ≠ int n) (floatPow x y) := by
  have float (z : Float) : Returns (fun r => ∀ n, r ≠ int n) (pure (.float z) : Except Fault Num) :=
    returns_pure nofun
  unfold floatPow
  dsimp only
  repeat' first
    | exact float _
    | exact returns_throw_bind
    | exact .bind fun _ => float _
    | exact .bind fun _ => returns_pure nofun
    | refine .ite ?_ ?_

theorem of_intOp_growing (hop : op.isGrowing) (h : intOp op a b = .ok (some (int n))) :
    op = .pow ∧ 0 ≤ b ∧ n = a ^ b.toNat ∨ op = .shiftLeft ∧ 0 ≤ b ∧ n = a * 2 ^ b.toNat ∨
      op = .mul ∧ n = a * b := by
  cases op with
  | pow =>
    unfold intOp at h
    dsimp only at h
    split at h
    · obtain ⟨x, -, h⟩ := Except.of_bind_ok h
      obtain ⟨y, -, h⟩ := Except.of_bind_ok h
      obtain ⟨r, hr, h⟩ := Except.of_bind_ok h
      cases h
      exact (floatPow_ne_int x y _ hr n rfl).elim
    · cases h
      exact .inl ⟨rfl, by omega, rfl⟩
  | shiftLeft =>
    unfold intOp at h
    dsimp only at h
    split at h
    · cases h
    · refine .inr (.inl ⟨rfl, by omega, ?_⟩)
      split at h
      · rename_i ha
        cases h
        rw [ha, Int.zero_mul]
      · split at h
        · cases h
        · cases h
          rfl
  | mul =>
    cases h
    exact .inr (.inr ⟨rfl, rfl⟩)
  | _ => cases hop

end Num

theorem StoreM.of_newList_ok {xs : Array Value} {s t : Store} {v : Value} (h : newList xs s = .ok v t) :
    ∃ r, v = .list r ∧ t.list? r = some xs := by
  obtain ⟨cells⟩ := s
  cases h
  exact ⟨cells.size, rfl, Store.list?_eq_some.mpr (by simp)⟩

namespace Value

variable {s t : Store} {v left right : Value} {op : BinaryOp} {a b k n : Int} {l m : Nat}

theorem asInt?_of_sequenceLength? (h : s.sequenceLength? v = some m) : v.asInt? = Option.none := by
  cases v with
  | str _ | list _ | tuple _ => rfl
  | _ => cases h

theorem sequenceLength?_of_asInt? (h : v.asInt? = some n) (s : Store) :
    s.sequenceLength? v = Option.none := by
  cases v with
  | bool _ | int _ => rfl
  | _ => cases h

/-- Booleans count as integers for the operators that grow. -/
theorem binary_ints (hop : op.isGrowing) (ha : left.asInt? = some a) (hb : right.asInt? = some b) :
    binary op left right = (do
      match ← (Num.intOp op a b : Except Fault (Option Num)) with
      | some r => return r.toValue
      | Option.none => refuse op.sign left right) := by
  unfold binary binaryAs
  rw [num?_of_asInt? ha, num?_of_asInt? hb]
  dsimp only
  split
  · cases hop
  · cases hop
  · cases hop
  · rfl

theorem run_binary_ints {r : Num} (hop : op.isGrowing) (ha : left.asInt? = some a)
    (hb : right.asInt? = some b) (hr : Num.intOp op a b = .ok (some r)) (s : Store) :
    binary op left right s = .ok r.toValue s := by
  rw [binary_ints hop ha hb, hr]
  rfl

theorem of_binary_ints_ok (hop : op.isGrowing) (ha : left.asInt? = some a) (hb : right.asInt? = some b)
    (h : binary op left right s = .ok v t) (hn : v.asInt? = some n) :
    Num.intOp op a b = .ok (some (.int n)) := by
  rw [binary_ints hop ha hb] at h
  cases hr : Num.intOp op a b with
  | error f =>
    rw [hr] at h
    cases h
  | ok found =>
    rw [hr] at h
    cases found with
    | none => cases h
    | some r =>
      cases h
      cases r with
      | int k => cases hn; rfl
      | float x => cases hn
      | complex x y => cases hn

theorem length_repeatList {α : Type} (n : Nat) (xs : List α) : (repeatList n xs).length = n * xs.length := by
  unfold repeatList
  split
  · rename_i hempty
    simp [List.isEmpty_iff.mp hempty]
  · simp [List.length_flatten]

theorem size_repeatArray {α : Type} (n : Nat) (xs : Array α) : (repeatArray n xs).size = n * xs.size := by
  have hfold (m : Nat) (init : Array α) :
      (m.fold (fun _ _ acc => acc ++ xs) init).size = init.size + m * xs.size := by
    induction m with
    | zero => simp
    | succ m ih =>
      rw [Nat.fold_succ, Array.size_append, ih, Nat.succ_mul, Nat.add_assoc]
  unfold repeatArray
  split
  · rename_i hempty
    simp [Array.isEmpty_iff.mp hempty]
  · rw [hfold]
    exact Nat.zero_add _

/-- A sequence a number of times over has all its items each time. -/
theorem of_repeated_ok (h : repeated left right s = .ok v t) :
    ∃ k, right.asInt? = some k ∧ t.sequenceLength? v = (s.sequenceLength? left).map (k.toNat * ·) := by
  unfold repeated at h
  cases hk : right.asInt? with
  | none =>
    rw [hk] at h
    cases h
  | some k =>
    rw [hk] at h
    dsimp only at h
    split at h
    · cases h
    refine ⟨k, rfl, ?_⟩
    cases left with
    | str text =>
      obtain ⟨u, s', -, h⟩ := Run.of_bind_ok h
      cases h
      simp [Store.sequenceLength?, length_repeatList, String.length_toList]
    | bytes b =>
      obtain ⟨u, s', -, h⟩ := Run.of_bind_ok h
      cases h
      rfl
    | tuple xs =>
      obtain ⟨u, s', -, h⟩ := Run.of_bind_ok h
      cases h
      exact congrArg some (size_repeatArray _ _)
    | list r =>
      obtain ⟨xs, s', hxs, h⟩ := Run.of_bind_ok h
      rw [s.run_getList r] at hxs
      cases hxs
      obtain ⟨u, s', -, h⟩ := Run.of_bind_ok h
      obtain ⟨q, rfl, hq⟩ := of_newList_ok h
      rw [Store.sequenceLength?_list hq, size_repeatArray]
      rfl
    | _ => cases h

/-- A sequence followed by another one has the items of both. -/
theorem of_concatenated_ok (h : concatenated left right s = .ok v t) (hm : t.sequenceLength? v = some m) :
    ∃ k l, s.sequenceLength? left = some k ∧ s.sequenceLength? right = some l ∧ m = k + l := by
  unfold concatenated at h
  split at h
  · cases h
    cases hm
    exact ⟨_, _, rfl, rfl, String.length_append _ _⟩
  · cases h
    cases hm
  · cases h
    cases hm
    exact ⟨_, _, rfl, rfl, Array.size_append⟩
  · rw [Run.bind_ok (s.run_getList _), Run.bind_ok (s.run_getList _)] at h
    obtain ⟨q, rfl, hq⟩ := of_newList_ok h
    rw [Store.sequenceLength?_list hq, Array.size_append] at hm
    cases hm
    exact ⟨_, _, rfl, rfl, rfl⟩
  · cases h
  · cases h
  · cases h
  · cases h
  · cases h

/-- Arithmetic makes no sequence. -/
theorem of_binary_numbers_ok {x y : Num} (hx : left.num? = some x) (hy : right.num? = some y)
    (h : binary op left right s = .ok v t) : t.sequenceLength? v = Option.none := by
  unfold binary binaryAs at h
  rw [hx, hy] at h
  dsimp only at h
  split at h
  · cases h
    rfl
  · cases h
    rfl
  · cases h
    rfl
  · obtain ⟨found, u, -, h⟩ := Run.of_bind_ok h
    cases found with
    | none => cases h
    | some r =>
      cases h
      cases r <;> rfl

theorem of_binary_add_ok (h : binary .add left right s = .ok v t) (hm : t.sequenceLength? v = some m) :
    ∃ k l, s.sequenceLength? left = some k ∧ s.sequenceLength? right = some l ∧ m = k + l := by
  have hsum := h
  unfold binary binaryAs at hsum
  generalize hx : left.num? = x, hy : right.num? = y at hsum
  split at hsum
  · rw [of_binary_numbers_ok hx hy h] at hm
    cases hm
  · dsimp only at hsum
    split at hsum
    · exact of_concatenated_ok hsum hm
    · exact of_concatenated_ok hsum hm
    · exact of_concatenated_ok hsum hm
    · exact of_concatenated_ok hsum hm
    · cases hsum

/-- A product that is a sequence repeats one of the operands. -/
theorem of_binary_mul_ok (h : binary .mul left right s = .ok v t) (hm : t.sequenceLength? v = some m) :
    ∃ l k, m = k.toNat * l ∧ (s.sequenceLength? left = some l ∧ right.asInt? = some k ∨
      s.sequenceLength? right = some l ∧ left.asInt? = some k) := by
  have repetition {sequence count : Value} (h : repeated sequence count s = .ok v t) :
      ∃ l k, s.sequenceLength? sequence = some l ∧ count.asInt? = some k ∧ m = k.toNat * l := by
    obtain ⟨k, hk, hlength⟩ := of_repeated_ok h
    rw [hlength, Option.map_eq_some_iff] at hm
    obtain ⟨l, hl, rfl⟩ := hm
    exact ⟨l, k, hl, hk, rfl⟩
  have hproduct := h
  unfold binary binaryAs at hproduct
  generalize hx : left.num? = x, hy : right.num? = y at hproduct
  split at hproduct
  · rw [of_binary_numbers_ok hx hy h] at hm
    cases hm
  · dsimp only at hproduct
    split at hproduct
    · obtain ⟨l, k, hl, hk, hlength⟩ := repetition hproduct
      exact ⟨l, k, hlength, .inl ⟨hl, hk⟩⟩
    · split at hproduct
      · obtain ⟨l, k, hl, hk, hlength⟩ := repetition hproduct
        exact ⟨l, k, hlength, .inr ⟨hl, hk⟩⟩
      · cases hproduct

end Value
end WireSketch
