import WireSketch.Proofs.Program.Contract
import WireSketch.Proofs.Value.Table
import WireSketch.Value.Compare

/-! Membership of a text in a collection of texts, whichever kind of collection it is. -/
namespace WireSketch

namespace StoreM

variable {s : Store} {r : Ref}

theorem run_getList {items : Array Value} (hr : s.cells[r]? = some (.list items)) :
    getList r s = .ok items s := by
  have hget : (get : StoreM Store) s = .ok s s := rfl
  unfold getList
  rw [Run.bind_ok hget, hr]
  rfl

theorem run_getSet {t : ItemSet} (hr : s.cells[r]? = some (.set t)) : getSet r s = .ok t s := by
  have hget : (get : StoreM Store) s = .ok s s := rfl
  unfold getSet
  rw [Run.bind_ok hget, hr]
  rfl

end StoreM

namespace Value

theorem key_str (s : String) : (str s).key = .ok ("s" ++ s) := by rw [key]

/-- A set made of texts contains the keys of these texts. -/
theorem ofItems_texts (names : List String) (t : ItemSet) :
    ∃ u, (names.map str).foldlM ItemSet.insert t = .ok u ∧
      ∀ k, u.contains k = (names.any (fun name => "s" ++ name == k) || t.contains k) := by
  induction names generalizing t with
  | nil => exact ⟨t, rfl, fun k => rfl⟩
  | cons name names ih =>
    obtain ⟨u, hu, hcontains⟩ := ih (t.add (str name) _ (key_str name))
    have hinsert : t.insert (str name) = .ok (t.add (str name) _ (key_str name)) := by
      unfold ItemSet.insert
      rw [Except.attach_of_ok (key_str name)]
      rfl
    refine ⟨u, ?_, fun k => ?_⟩
    · rw [List.map_cons, List.foldlM_cons, hinsert]
      exact hu
    · rw [hcontains, ItemSet.add, Table.contains_upsert, List.any_cons, ← Bool.or_assoc]
      congr 1
      exact Bool.or_comm _ _

/-- A text is equal to texts that are the same. -/
theorem eqOrSame_str (a b : String) (s : Store) : (str a).eqOrSame (str b) s = .ok (a == b) s := by
  have hsame : (str a).isSame (str b) = (a == b) := rfl
  have heq : (str a).eq (str b) s = .ok (a == b) s := rfl
  unfold eqOrSame
  rw [hsame]
  cases hab : a == b with
  | true => rfl
  | false =>
    rw [if_neg (by decide), heq, hab]

theorem anyEqual_texts (name : String) (names : List String) (s : Store) :
    anyEqual (str name) (names.map str) s = .ok (decide (name ∈ names)) s := by
  induction names with
  | nil => rfl
  | cons a names ih =>
    rw [List.map_cons, anyEqual, Run.bind_ok (eqOrSame_str a name s)]
    cases hab : a == name with
    | true =>
      rw [beq_iff_eq] at hab
      simp [hab]
      rfl
    | false =>
      have hne : a ≠ name := by simpa using hab
      simp [ih, Ne.symm hne]

/-- The value is a collection of the given texts, as the store has it. -/
inductive Names (s : Store) : Value → List String → Prop
  | tuple (names : List String) : Names s (.tuple (names.map str).toArray) names
  | frozenset (names : List String) : Names s (.frozenset (names.map str).toArray) names
  | list {r : Ref} (names : List String) (hr : s.cells[r]? = some (.list (names.map str).toArray)) :
    Names s (.list r) names
  | set {r : Ref} {t : ItemSet} (names : List String) (hr : s.cells[r]? = some (.set t))
    (hnames : t.entries.toList = names.map str) : Names s (.set r) names

theorem contains_texts {t : ItemSet} {names : List String} (hnames : t.entries.toList = names.map str)
    (name : String) : t.contains ("s" ++ name) = decide (name ∈ names) := by
  rw [Bool.eq_iff_iff, decide_eq_true_iff, t.contains_iff, hnames]
  constructor
  · rintro ⟨x, hx, hkey⟩
    obtain ⟨other, hother, rfl⟩ := List.mem_map.mp hx
    rw [id, key_str] at hkey
    have hsame : other = name := (String.append_right_inj "s").mp (Except.ok.inj hkey)
    exact hsame ▸ hother
  · intro hname
    exact ⟨str name, List.mem_map.mpr ⟨name, hname, rfl⟩, key_str name⟩

theorem isMember_names {s : Store} {v : Value} {names : List String} (h : Names s v names)
    (name : String) : isMember (str name) v s = .ok (decide (name ∈ names)) s := by
  cases h with
  | tuple =>
    unfold isMember
    exact anyEqual_texts name names s
  | list _ hr =>
    rename_i r
    have hrun : isMember (str name) (.list r) = StoreM.getList r >>= fun xs =>
        anyEqual (str name) xs.toList := rfl
    rw [hrun, Run.bind_ok (StoreM.run_getList hr)]
    exact anyEqual_texts name names s
  | frozenset =>
    obtain ⟨u, hu, hcontains⟩ := ofItems_texts names Table.empty
    have hof : ItemSet.ofItems (names.map str).toArray = .ok u := by
      unfold ItemSet.ofItems
      rw [List.foldlM_toArray]
      exact hu
    have hname : u.contains ("s" ++ name) = decide (name ∈ names) := by
      rw [hcontains, Bool.eq_iff_iff, decide_eq_true_iff]
      simp [Table.contains, Table.empty, String.append_right_inj]
    unfold isMember
    simp only [pure_bind, key_str, hof]
    change EStateM.Result.ok (u.contains ("s" ++ name)) s = _
    rw [hname]
  | set _ hr hnames =>
    rename_i r t
    have hrun : isMember (str name) (.set r) = StoreM.getSet r >>= fun t =>
        pure (t.contains ("s" ++ name)) := by
      unfold isMember
      simp only [pure_bind, key_str]
      rfl
    rw [hrun, Run.bind_ok (StoreM.run_getSet hr), contains_texts hnames]
    rfl

end Value
end WireSketch
