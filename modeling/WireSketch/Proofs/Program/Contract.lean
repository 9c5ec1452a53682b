/-! Contracts of programs with state and failures: what every run may change, return and fail with. -/
namespace WireSketch

namespace Run

variable {ε σ α β : Type} {x : EStateM ε σ α} {f : α → EStateM ε σ β} {s t : σ}

theorem bind_ok {a : α} (hx : x s = .ok a t) : (x >>= f) s = f a t := by
  change EStateM.bind x f s = _
  unfold EStateM.bind
  rw [hx]

theorem bind_error {e : ε} (hx : x s = .error e t) : (x >>= f) s = .error e t := by
  change EStateM.bind x f s = _
  unfold EStateM.bind
  rw [hx]

/-- A run of two programs in a row that succeeds is a success of both. -/
theorem of_bind_ok {b : β} {u : σ} (h : (x >>= f) s = .ok b u) :
    ∃ a t, x s = .ok a t ∧ f a t = .ok b u := by
  cases hx : x s with
  | ok a t => exact ⟨a, t, rfl, (bind_ok hx).symm.trans h⟩
  | error e t =>
    rw [bind_error hx] at h
    cases h

def final : EStateM.Result ε σ α → σ
  | .ok _ t => t
  | .error _ t => t

end Run

/-- What a run may do to the state, as a relation that composes, and the failures it may end in. -/
structure Contract (ε σ : Type) where
  rel : σ → σ → Prop
  fails : ε → Prop
  refl : ∀ s, rel s s
  trans : ∀ {s t u}, rel s t → rel t u → rel s u

namespace Contract

variable {ε σ α β : Type} {C : Contract ε σ} {Q : α → Prop} {R : β → Prop}

/-- Every run keeps to the contract, and what it returns satisfies `Q`. -/
def Yields (C : Contract ε σ) (Q : α → Prop) (x : EStateM ε σ α) : Prop :=
  ∀ s, match x s with
    | .ok a t => C.rel s t ∧ Q a
    | .error e t => C.rel s t ∧ C.fails e

abbrev Keeps (C : Contract ε σ) (x : EStateM ε σ α) : Prop := C.Yields (fun _ => True) x

theorem Yields.of_ok {x : EStateM ε σ α} (h : C.Yields Q x) {s t : σ} {a : α}
    (hx : x s = .ok a t) : C.rel s t ∧ Q a := by
  have hs := h s
  rwa [hx] at hs

theorem Yields.of_error {x : EStateM ε σ α} (h : C.Yields Q x) {s t : σ} {e : ε}
    (hx : x s = .error e t) : C.rel s t ∧ C.fails e := by
  have hs := h s
  rwa [hx] at hs

theorem Yields.intro {x : EStateM ε σ α} (ok : ∀ s a t, x s = .ok a t → C.rel s t ∧ Q a)
    (error : ∀ s e t, x s = .error e t → C.rel s t ∧ C.fails e) : C.Yields Q x := by
  intro s
  cases hr : x s with
  | ok a t => exact ok s a t hr
  | error e t => exact error s e t hr

theorem yields_pure {a : α} (ha : Q a) : C.Yields Q (pure a : EStateM ε σ α) :=
  fun s => ⟨C.refl s, ha⟩

theorem keeps_pure (a : α) : C.Keeps (pure a : EStateM ε σ α) := yields_pure trivial

theorem yields_throw {e : ε} (he : C.fails e) : C.Yields Q (throw e : EStateM ε σ α) :=
  fun s => ⟨C.refl s, he⟩

theorem yields_ite {p : Prop} [Decidable p] {x y : EStateM ε σ α} (hx : C.Yields Q x)
    (hy : C.Yields Q y) : C.Yields Q (if p then x else y) := by
  split
  · exact hx
  · exact hy

theorem Yields.final {x : EStateM ε σ α} (hx : C.Yields Q x) (s : σ) : C.rel s (Run.final (x s)) := by
  cases hr : x s with
  | ok a t => exact (hx.of_ok hr).1
  | error e t => exact (hx.of_error hr).1

/-- A run that goes on after a run of the contract. -/
theorem Yields.after {x : EStateM ε σ α} (hx : C.Yields Q x) {s t : σ} (hst : C.rel s t) :
    match x t with
    | .ok a u => C.rel s u ∧ Q a
    | .error e u => C.rel s u ∧ C.fails e := by
  cases hr : x t with
  | ok a u => exact (hx.of_ok hr).imp_left (C.trans hst)
  | error e u => exact (hx.of_error hr).imp_left (C.trans hst)

theorem Yields.bind {x : EStateM ε σ α} {f : α → EStateM ε σ β} (hx : C.Yields Q x)
    (hf : ∀ a, Q a → C.Yields R (f a)) : C.Yields R (x >>= f) := by
  intro s
  cases hr : x s with
  | error e t =>
    rw [Run.bind_error hr]
    exact hx.of_error hr
  | ok a t =>
    rw [Run.bind_ok hr]
    obtain ⟨hst, ha⟩ := hx.of_ok hr
    exact (hf a ha).after hst

theorem Keeps.bind {x : EStateM ε σ α} {f : α → EStateM ε σ β} (hx : C.Keeps x)
    (hf : ∀ a, C.Yields R (f a)) : C.Yields R (x >>= f) :=
  Yields.bind hx fun a _ => hf a

theorem Yields.mono {Q' : α → Prop} {x : EStateM ε σ α} (hx : C.Yields Q x)
    (h : ∀ a, Q a → Q' a) : C.Yields Q' x :=
  .intro (fun _ a _ hr => (hx.of_ok hr).imp_right (h a)) fun _ _ _ hr => hx.of_error hr

theorem Yields.keeps {x : EStateM ε σ α} (hx : C.Yields Q x) : C.Keeps x := hx.mono fun _ _ => trivial

/-- If every failure is allowed, the contract is one about the state in which a run ends. -/
theorem Yields.of_final {x : EStateM ε σ α} (hfails : ∀ e, C.fails e) (h : ∀ s, C.rel s (Run.final (x s))) :
    C.Keeps x := by
  intro s
  have hs := h s
  cases hr : x s with
  | ok a t =>
    rw [hr] at hs
    exact ⟨hs, trivial⟩
  | error e t =>
    rw [hr] at hs
    exact ⟨hs, hfails e⟩

/-- What comes after a run need only be looked at where that run ends. -/
theorem Yields.final_bind {x : EStateM ε σ α} {f : α → EStateM ε σ β} (hx : C.Yields Q x) {s : σ}
    (hf : ∀ a, Q a → ∀ t, C.rel s t → C.rel s (Run.final (f a t))) : C.rel s (Run.final ((x >>= f) s)) := by
  cases hr : x s with
  | error e t =>
    rw [Run.bind_error hr]
    exact (hx.of_error hr).1
  | ok a t =>
    rw [Run.bind_ok hr]
    exact hf a (hx.of_ok hr).2 t (hx.of_ok hr).1

/-- What a handler catches is an allowed failure. -/
theorem Yields.handled {x : EStateM ε σ α} {handler : ε → EStateM ε σ α} (hx : C.Yields Q x)
    (hh : ∀ e, C.fails e → C.Yields Q (handler e)) : C.Yields Q (tryCatch x handler) := by
  intro s
  have hcatch : tryCatch x handler s = EStateM.tryCatch x handler s := rfl
  rw [hcatch]
  unfold EStateM.tryCatch
  cases hr : x s with
  | ok a t => exact hx.of_ok hr
  | error e t =>
    obtain ⟨hst, he⟩ := hx.of_error hr
    exact (hh e he).after hst

/-- What would come after a failure does not matter. -/
theorem yields_throw_bind {e : ε} {f : α → EStateM ε σ β} (he : C.fails e) :
    C.Yields R (throw e >>= f) := fun s => ⟨C.refl s, he⟩

theorem keeps_get : C.Keeps (get : EStateM ε σ σ) := fun s => ⟨C.refl s, trivial⟩

/-- The items of a list are handled one after another. -/
theorem yields_mapM {f : α → EStateM ε σ β} (hf : ∀ a, C.Yields R (f a)) :
    (xs : List α) → C.Yields (fun ys => ∀ y ∈ ys, R y) (xs.mapM f)
  | [] => yields_pure (by simp)
  | a :: xs => by
    rw [List.mapM_cons]
    refine (hf a).bind fun b hb => (yields_mapM hf xs).bind fun ys hys => yields_pure ?_
    simpa using ⟨hb, hys⟩

theorem Keeps.map {x : EStateM ε σ α} (f : α → β) (hx : C.Keeps x) : C.Keeps (f <$> x) := by
  rw [map_eq_pure_bind]
  exact hx.bind fun a => keeps_pure _

theorem keeps_mapM {f : α → EStateM ε σ β} (hf : ∀ a, C.Keeps (f a)) (xs : List α) :
    C.Keeps (xs.mapM f) := (yields_mapM hf xs).keeps

theorem keeps_arrayMapM {f : α → EStateM ε σ β} (hf : ∀ a, C.Keeps (f a)) (xs : Array α) :
    C.Keeps (xs.mapM f) := by
  rw [Array.mapM_eq_mapM_toList]
  exact (keeps_mapM hf xs.toList).map _

theorem keeps_allM {p : α → EStateM ε σ Bool} (h : ∀ a, C.Keeps (p a)) :
    (xs : List α) → C.Keeps (xs.allM p)
  | [] => keeps_pure _
  | a :: xs => by
    refine (h a).bind fun holds => ?_
    cases holds with
    | true => exact keeps_allM h xs
    | false => exact keeps_pure _

/-- A run that succeeds keeps to the contract up to a last change, which a run that fails never makes. -/
def CommitsAt (C : Contract ε σ) (P : σ → σ → Prop) (x : EStateM ε σ α) (s : σ) : Prop :=
  match x s with
    | .ok _ t => ∃ u, C.rel s u ∧ P u t
    | .error e t => C.rel s t ∧ C.fails e

abbrev Commits (C : Contract ε σ) (P : σ → σ → Prop) (x : EStateM ε σ α) : Prop :=
  ∀ s, C.CommitsAt P x s

variable {P : σ → σ → Prop}

theorem CommitsAt.of_ok {x : EStateM ε σ α} {s t : σ} {a : α} (h : C.CommitsAt P x s)
    (hx : x s = .ok a t) : ∃ u, C.rel s u ∧ P u t := by
  unfold CommitsAt at h
  rwa [hx] at h

theorem CommitsAt.of_error {x : EStateM ε σ α} {s t : σ} {e : ε} (h : C.CommitsAt P x s)
    (hx : x s = .error e t) : C.rel s t ∧ C.fails e := by
  unfold CommitsAt at h
  rwa [hx] at h

theorem CommitsAt.intro {x : EStateM ε σ α} {s : σ}
    (ok : ∀ a t, x s = .ok a t → ∃ u, C.rel s u ∧ P u t)
    (error : ∀ e t, x s = .error e t → C.rel s t ∧ C.fails e) : C.CommitsAt P x s := by
  unfold CommitsAt
  cases hr : x s with
  | ok a t => exact ok a t hr
  | error e t => exact error e t hr

theorem CommitsAt.mono {P' : σ → σ → Prop} {x : EStateM ε σ α} {s : σ} (h : C.CommitsAt P x s)
    (hP : ∀ u t, P u t → P' u t) : C.CommitsAt P' x s :=
  .intro (fun _ _ hx => (h.of_ok hx).imp fun u => And.imp_right (hP u _)) fun _ _ hx => h.of_error hx

theorem Yields.commitsAt {x : EStateM ε σ α} {f : α → EStateM ε σ β} {s : σ} (hx : C.Yields Q x)
    (hf : ∀ a t, x s = .ok a t → C.CommitsAt P (f a) t) : C.CommitsAt P (x >>= f) s := by
  unfold CommitsAt
  cases hr : x s with
  | error e t =>
    rw [Run.bind_error hr]
    exact hx.of_error hr
  | ok a t =>
    rw [Run.bind_ok hr]
    obtain ⟨hst, -⟩ := hx.of_ok hr
    cases hf' : f a t with
    | ok b u =>
      obtain ⟨v, htv, hv⟩ := (hf a t hr).of_ok hf'
      exact ⟨v, C.trans hst htv, hv⟩
    | error e u => exact ((hf a t hr).of_error hf').imp_left (C.trans hst)

theorem Yields.commits {x : EStateM ε σ α} {f : α → EStateM ε σ β} (hx : C.Yields Q x)
    (hf : ∀ a, Q a → C.Commits P (f a)) : C.Commits P (x >>= f) :=
  fun _ => hx.commitsAt fun a t hr => hf a (hx.of_ok hr).2 t

theorem Keeps.commits {x : EStateM ε σ α} {f : α → EStateM ε σ β} (hx : C.Keeps x)
    (hf : ∀ a, C.Commits P (f a)) : C.Commits P (x >>= f) := Yields.commits hx fun a _ => hf a

end Contract
end WireSketch
