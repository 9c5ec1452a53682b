import WireSketch.Command.Folder

/-! What hosts promise about their files, and that files in memory keep the promise. -/
namespace WireSketch.Command

variable {σ : Type}

/-- After writing a file its name leads to the content, and no other file has changed. -/
def Wrote (host : Host (StateM σ)) (files : σ → Path → Option ByteArray) (s : σ) (name : String)
    (content : ByteArray) (t : σ) : Prop :=
  ((host.readFile name).run t).1 = .ok content ∧
    ∃ p, files t p = some content ∧ ∀ q, q ≠ p → files t q = files s q

theorem Wrote.of_eq {host : Host (StateM σ)} {files : σ → Path → Option ByteArray} {s u t : σ} {name : String}
    {content : ByteArray} (h : Wrote host files u name content t) (hu : files u = files s) :
    Wrote host files s name content t := by
  unfold Wrote at h ⊢
  rw [hu] at h
  exact h

/-- Reading changes no file, and neither does writing that fails. -/
structure Host.Orderly (host : Host (StateM σ)) (files : σ → Path → Option ByteArray) : Prop where
  isTerminal : ∀ s, files (host.isTerminal.run s).2 = files s
  readInput : ∀ s, files (host.readInput.run s).2 = files s
  readFile : ∀ name s, files ((host.readFile name).run s).2 = files s
  unwritten : ∀ name content s f t, (host.writeFile name content).run s = (.error f, t) → files t = files s
  written : ∀ name content s t, (host.writeFile name content).run s = (.ok (), t) →
    Wrote host files s name content t

namespace FileTree

variable {t : FileTree} {p q : Path} {content : ByteArray}

def content? (t : FileTree) (p : Path) : Option ByteArray := t.files.lookup p

theorem lookup_map (p q : Path) (content : ByteArray) : (files : List (Path × ByteArray)) →
    (files.map fun (r, old) => (r, if r = p then content else old)).lookup q =
      if q = p then (files.lookup q).map fun _ => content else files.lookup q
  | [] => by simp
  | (r, old) :: files => by
    rw [List.map_cons, List.lookup_cons, List.lookup_cons, lookup_map p q content files]
    cases hq : q == r with
    | true =>
      rw [beq_iff_eq] at hq
      subst hq
      dsimp only
      split <;> rfl
    | false => rfl

theorem content?_put : (t.put p content).content? q = if q = p then some content else t.content? q := by
  unfold put content?
  split
  · rename_i hold
    rw [lookup_map]
    split
    · rename_i hq
      subst hq
      obtain ⟨old, hold⟩ := Option.isSome_iff_exists.mp hold
      rw [hold]
      rfl
    · rfl
  · rename_i hnew
    have hnone : t.files.lookup p = none := Option.not_isSome_iff_eq_none.mp hnew
    rw [List.lookup_append]
    by_cases hq : q = p
    · subst hq
      rw [hnone, if_pos rfl, List.lookup_cons_self]
      rfl
    · have hne : (q == p) = false := beq_eq_false_iff_ne.mpr hq
      rw [if_neg hq, List.lookup_cons, hne]
      exact Option.or_none

theorem directories_put : (t.put p content).directories = t.directories := by
  unfold put
  split <;> rfl

/-- What a place has become once a file is written at `p`. -/
def Place.filled (p : Path) : Place → Place
  | .free q => if q = p then .file q else .free q
  | place => place

theorem isSome_lookup_put (q : Path) : ((t.put p content).files.lookup q).isSome =
    (decide (q = p) || (t.files.lookup q).isSome) := by
  have hput : (t.put p content).files.lookup q = if q = p then some content else t.files.lookup q :=
    content?_put
  rw [hput]
  by_cases hq : q = p <;> simp [hq]

theorem enter_put {d : Path} {name : String} {place : Place} (h : t.enter d name = .ok place) :
    (t.put p content).enter d name = .ok (place.filled p) := by
  unfold enter at h ⊢
  dsimp only at h ⊢
  rw [directories_put, isSome_lookup_put]
  split at h
  · rename_i hup
    cases h
    exact if_pos hup
  · rename_i hup
    rw [if_neg hup]
    split at h
    · cases h
    · rename_i hshort
      rw [if_neg hshort]
      split at h
      · rename_i hdirectory
        cases h
        exact if_pos hdirectory
      · rename_i hdirectory
        rw [if_neg hdirectory]
        split at h
        · rename_i hfile
          cases h
          rw [hfile, Bool.or_true, if_pos rfl]
          rfl
        · rename_i hfree
          cases h
          rw [Bool.not_eq_true] at hfree
          rw [hfree, Bool.or_false]
          unfold Place.filled
          simp only [decide_eq_true_eq]
          split <;> rfl

/-- A path leads where it led; what was free there is a file when that is the one written. -/
theorem follow_put : (parts : List String) → (place : Place) → {found : Place} →
    t.follow place parts = .ok found → (t.put p content).follow (place.filled p) parts = .ok (found.filled p)
  | [], place, found, h => by
    rw [follow] at h ⊢
    cases h
    rfl
  | name :: rest, .directory d, found, h => by
    unfold follow at h ⊢
    dsimp only [Place.filled]
    cases hstep : t.enter d name with
    | error f =>
      rw [hstep] at h
      cases h
    | ok next =>
      rw [hstep] at h
      rw [enter_put hstep]
      exact follow_put rest next h
  | _ :: _, .file _, _, h => nomatch h
  | _ :: _, .free _, _, h => nomatch h

theorem find_put {path : String} {place : Place} (h : t.find path = .ok place) :
    (t.put p content).find path = .ok (place.filled p) := by
  unfold find at h ⊢
  split at h
  · cases h
  · rename_i hshort
    rw [if_neg hshort]
    exact follow_put _ _ h

/-- What has been written is read again under the same name. -/
theorem of_write {path : String} {u : FileTree} (h : t.write path content = .ok u) :
    u.read path = .ok content ∧
      ∃ p, u.content? p = some content ∧ ∀ q, q ≠ p → u.content? q = t.content? q := by
  have written {p : Path} {place : Place} (hu : u = t.put p content) (hfind : t.find path = .ok place)
      (hplace : place.filled p = .file p) : u.read path = .ok content ∧
        ∃ p, u.content? p = some content ∧ ∀ q, q ≠ p → u.content? q = t.content? q := by
    subst hu
    have hput : (t.put p content).content? p = some content := content?_put.trans (if_pos rfl)
    refine ⟨?_, p, hput, fun q hne => content?_put.trans (if_neg hne)⟩
    unfold read
    rw [find_put hfind, hplace]
    exact congrArg (fun found => Except.ok (found.getD .empty)) hput
  unfold write at h
  cases hfind : t.find path with
  | error f =>
    rw [hfind] at h
    cases h
  | ok place =>
    rw [hfind] at h
    cases place with
    | file p =>
      cases h
      exact written rfl hfind rfl
    | free p =>
      cases h
      exact written rfl hfind (if_pos rfl)
    | directory p => cases h

end FileTree

theorem run_writeFile (input : ByteArray) (terminal : Bool) (gauge : Gauge) (name : String)
    (content : ByteArray) (t : FileTree) :
    ((memoryHost input terminal gauge).writeFile name content).run t =
      match t.write name content with
      | .ok u => (.ok (), u)
      | .error f => (.error f, t) := by
  unfold memoryHost
  rw [StateT.run_bind, StateT.run_get, pure_bind]
  cases t.write name content <;> rfl

/-- Files in memory keep to the laws. -/
theorem memoryHost_orderly (input : ByteArray) (terminal : Bool) (gauge : Gauge) :
    (memoryHost input terminal gauge).Orderly FileTree.content? where
  isTerminal _ := rfl
  readInput _ := rfl
  readFile _ _ := rfl
  unwritten name content s f t h := by
    rw [run_writeFile] at h
    cases hwrite : s.write name content with
    | ok u =>
      rw [hwrite] at h
      cases h
    | error g =>
      rw [hwrite] at h
      cases h
      rfl
  written name content s t h := by
    rw [run_writeFile] at h
    cases hwrite : s.write name content with
    | ok u =>
      rw [hwrite] at h
      cases h
      exact FileTree.of_write hwrite
    | error g =>
      rw [hwrite] at h
      cases h

end WireSketch.Command
