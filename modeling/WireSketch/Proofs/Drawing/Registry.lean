import Mathlib.Data.List.Induction
import WireSketch.Proofs.Drawing.Leaves

/-! The registry of styles: what it holds after registrations, and what one registration does. -/
namespace WireSketch
open Contract

/-- A name, and the map that is registered under it. -/
abbrev Registration := String × Ref

namespace Styles

def names (styles : List (String × Style)) : List String := styles.map (·.1)

def registered (styles : List (String × Style)) (rs : List Registration) : List (String × Style) :=
  rs.foldl (fun styles (name, r) => set name (.shared r) styles) styles

def lastMap? (name : String) : List Registration → Option Ref
  | [] => none
  | (other, r) :: rs => (lastMap? name rs).or (if other = name then some r else none)

def current? (name : String) (styles : List (String × Style)) (rs : List Registration) : Option Style :=
  ((lastMap? name rs).map fun r => .shared r).or (find? name styles)

theorem find?_cons (name other : String) (s : Style) (styles : List (String × Style)) :
    find? name ((other, s) :: styles) = if other = name then some s else find? name styles := by
  unfold find?
  by_cases h : other = name
  · rw [List.find?_cons_of_pos (by simp [h]), if_pos h]
    rfl
  · rw [List.find?_cons_of_neg (by simp [h]), if_neg h]

theorem find?_set (name other : String) (s : Style) : (styles : List (String × Style)) →
    find? name (set other s styles) = if other = name then some s else find? name styles
  | [] => find?_cons name other s []
  | (k, t) :: rest => by
    unfold set
    by_cases hk : k = other
    · rw [if_pos (by simp [hk]), find?_cons, find?_cons, hk]
      split <;> rfl
    · rw [if_neg (by simp [hk]), find?_cons, find?_cons, find?_set name other s rest]
      by_cases hname : k = name
      · rw [if_pos hname, if_pos hname, if_neg fun h => hk (hname.trans h.symm)]
      · rw [if_neg hname, if_neg hname]

theorem registered_append (styles : List (String × Style)) (rs later : List Registration) :
    registered styles (rs ++ later) = registered (registered styles rs) later := List.foldl_append

theorem find?_registered (name : String) (styles : List (String × Style)) (rs : List Registration) :
    find? name (registered styles rs) = current? name styles rs := by
  induction rs generalizing styles with
  | nil => rfl
  | cons entry rs ih =>
    obtain ⟨other, r⟩ := entry
    have hrest : registered styles ((other, r) :: rs) = registered (set other (.shared r) styles) rs :=
      rfl
    rw [hrest, ih]
    unfold current?
    rw [find?_set, lastMap?]
    cases lastMap? name rs with
    | some later => rfl
    | none =>
      by_cases h : other = name
      · rw [if_pos h, if_pos h]
        rfl
      · rw [if_neg h, if_neg h]
        rfl

theorem isSome_find? (name : String) : (styles : List (String × Style)) →
    (find? name styles).isSome = true ↔ name ∈ names styles
  | [] => by simp [find?, names]
  | (other, s) :: rest => by
    have hrest := isSome_find? name rest
    have hnames : names ((other, s) :: rest) = other :: names rest := rfl
    rw [find?_cons, hnames, List.mem_cons]
    by_cases h : other = name
    · simp [h]
    · rw [if_neg h, hrest]
      simp [Ne.symm h]

/-- A name that is there already keeps its place; a new one comes last. -/
theorem names_set (name : String) (s : Style) : (styles : List (String × Style)) →
    names (set name s styles) = names styles ++ [name].removeAll (names styles)
  | [] => rfl
  | (k, t) :: rest => by
    have hnames : names ((k, t) :: rest) = k :: names rest := rfl
    unfold set
    by_cases h : k = name
    · subst h
      rw [if_pos (by simp), hnames]
      simp [names, List.removeAll]
    · have hset := names_set name s rest
      have hcons : names ((k, t) :: set name s rest) = k :: names (set name s rest) := rfl
      have hleft : [name].removeAll (k :: names rest) = [name].removeAll (names rest) :=
        List.filter_congr fun x hx => by
          rw [List.mem_singleton.mp hx]
          simp [Ne.symm h]
      rw [if_neg (by simp [h]), hcons, hset, hnames, hleft, List.cons_append]

/-- The names of the registry are in the order in which they first came in. -/
theorem names_registered (styles : List (String × Style)) (hnodup : (names styles).eraseDups = names styles)
    (rs : List Registration) :
    names (registered styles rs) = (names styles ++ rs.map (·.1)).eraseDups := by
  induction rs using List.reverseRecOn with
  | nil => rw [List.map_nil, List.append_nil, hnodup]; rfl
  | append_singleton rs r ih =>
    have hlast : registered styles (rs ++ [r]) = set r.1 (.shared r.2) (registered styles rs) :=
      registered_append styles rs [r]
    have hone : ([r.1].removeAll (names styles ++ rs.map (·.1))).eraseDups =
        [r.1].removeAll (names (registered styles rs)) := by
      rw [ih]
      by_cases h : r.1 ∈ names styles ++ rs.map (·.1)
      · simp [List.removeAll, h]
      · simp [List.removeAll, h, List.eraseDups_cons]
    rw [hlast, names_set, List.map_append, ← List.append_assoc, List.map_singleton, List.eraseDups_append,
      hone, ih]

end Styles

theorem run_styleName (key : Value) (w : World) :
    (∃ name, key = .str name ∧ isStyleName name = true ∧ styleName key w = .ok name w) ∨
    ∃ e, styleName key w = .error e w := by
  unfold styleName
  split
  · rename_i name
    split
    · exact .inl ⟨name, rfl, by assumption, rfl⟩
    · exact .inr ⟨_, run_refuseShown (.str name) _ w⟩
  · exact .inr ⟨_, run_refuseShown key _ w⟩

/-- A registration that succeeds adds a style or puts it in its place; one that fails changes nothing. -/
theorem run_registerAttrs (key map : Value) (w : World) :
    (∃ name r, key = .str name ∧ map = .dict r ∧ isStyleName name = true ∧
      registerAttrs key map w = .ok () { w with styles := Styles.set name (.shared r) w.styles }) ∨
    ∃ e, registerAttrs key map w = .error e w := by
  unfold registerAttrs
  rcases run_styleName key w with ⟨name, hkey, hname, hrun⟩ | ⟨e, hrun⟩
  · rw [Run.bind_ok hrun]
    split
    · rename_i r
      exact .inl ⟨name, r, hkey, rfl, hname, rfl⟩
    · exact .inr ⟨_, run_refuseShown map _ w⟩
  · exact .inr ⟨e, Run.bind_error hrun⟩

end WireSketch
