import WireSketch.Proofs.Program.Contract

/-! Runs from one state: contracts kept there, and runs known up to the first of several failures. -/
namespace WireSketch

namespace Contract

variable {ε σ α β : Type} {C : Contract ε σ} {Q : α → Prop} {R : β → Prop} {s : σ}

/-- The run from this state keeps to the contract, and what it returns satisfies `Q`. -/
def YieldsAt (C : Contract ε σ) (Q : α → Prop) (x : EStateM ε σ α) (s : σ) : Prop :=
  match x s with
  | .ok a t => C.rel s t ∧ Q a
  | .error e t => C.rel s t ∧ C.fails e

theorem Yields.from {x : EStateM ε σ α} (h : C.Yields Q x) (s : σ) : C.YieldsAt Q x s := h s

theorem YieldsAt.of_ok {x : EStateM ε σ α} {t : σ} {a : α} (h : C.YieldsAt Q x s) (hx : x s = .ok a t) :
    C.rel s t ∧ Q a := by
  unfold YieldsAt at h
  rwa [hx] at h

theorem YieldsAt.of_error {x : EStateM ε σ α} {t : σ} {e : ε} (h : C.YieldsAt Q x s)
    (hx : x s = .error e t) : C.rel s t ∧ C.fails e := by
  unfold YieldsAt at h
  rwa [hx] at h

theorem yieldsAt_pure {a : α} (ha : Q a) : C.YieldsAt Q (pure a : EStateM ε σ α) s := ⟨C.refl s, ha⟩

theorem yieldsAt_throw {e : ε} (he : C.fails e) : C.YieldsAt Q (throw e : EStateM ε σ α) s := ⟨C.refl s, he⟩

/-- A run that goes on after a run of the contract. -/
theorem YieldsAt.after {x : EStateM ε σ α} {t : σ} (hx : C.YieldsAt Q x t) (hst : C.rel s t) :
    match x t with
    | .ok a u => C.rel s u ∧ Q a
    | .error e u => C.rel s u ∧ C.fails e := by
  cases hr : x t with
  | ok a u => exact (hx.of_ok hr).imp_left (C.trans hst)
  | error e u => exact (hx.of_error hr).imp_left (C.trans hst)

theorem YieldsAt.bind {x : EStateM ε σ α} {f : α → EStateM ε σ β} (hx : C.YieldsAt Q x s)
    (hf : ∀ a t, C.rel s t → Q a → C.YieldsAt R (f a) t) : C.YieldsAt R (x >>= f) s := by
  unfold YieldsAt
  cases hr : x s with
  | error e t =>
    rw [Run.bind_error hr]
    exact hx.of_error hr
  | ok a t =>
    rw [Run.bind_ok hr]
    obtain ⟨hst, ha⟩ := hx.of_ok hr
    exact (hf a t hst ha).after hst

theorem YieldsAt.mono {Q' : α → Prop} {x : EStateM ε σ α} (h : C.YieldsAt Q x s) (hQ : ∀ a, Q a → Q' a) :
    C.YieldsAt Q' x s := by
  unfold YieldsAt at h ⊢
  cases hr : x s with
  | ok a t =>
    rw [hr] at h
    exact h.imp_right (hQ a)
  | error e t =>
    rw [hr] at h
    exact h

theorem yieldsAt_mapM {f : α → EStateM ε σ β} : (xs : List α) → (s : σ) →
    (∀ a ∈ xs, ∀ t, C.rel s t → C.YieldsAt R (f a) t) → C.YieldsAt (fun ys => ∀ y ∈ ys, R y) (xs.mapM f) s
  | [], _, _ => yieldsAt_pure (by simp)
  | x :: xs, s, h => by
    rw [List.mapM_cons]
    refine (h x List.mem_cons_self s (C.refl s)).bind fun y t hst hy => ?_
    refine (yieldsAt_mapM xs t fun a ha u htu =>
      h a (List.mem_cons_of_mem x ha) u (C.trans hst htu)).bind fun ys u _ hys => ?_
    exact yieldsAt_pure (List.forall_mem_cons.mpr ⟨hy, hys⟩)

/-- What a handler catches is an allowed failure. -/
theorem YieldsAt.handled {x : EStateM ε σ α} {handler : ε → EStateM ε σ α} (hx : C.YieldsAt Q x s)
    (hh : ∀ e t, C.rel s t → C.fails e → C.YieldsAt Q (handler e) t) :
    C.YieldsAt Q (tryCatch x handler) s := by
  have hcatch : tryCatch x handler s = EStateM.tryCatch x handler s := rfl
  unfold YieldsAt
  rw [hcatch]
  unfold EStateM.tryCatch
  cases hr : x s with
  | ok a t => exact hx.of_ok hr
  | error e t =>
    obtain ⟨hst, he⟩ := hx.of_error hr
    exact (hh e t hst he).after hst

end Contract

/-- The run fails if there is a failure, else gives `a`, and either way leaves the state as it is. -/
def Settles {ε σ α : Type} (s : σ) (failure : Option ε) (a : α) (x : EStateM ε σ α) : Prop :=
  x s = match failure with
    | some e => .error e s
    | none => .ok a s

namespace Settles

variable {ε σ α β : Type} {s : σ} {failure next : Option ε} {a : α} {b : β} {x : EStateM ε σ α}

theorem bind {f : α → EStateM ε σ β} (hx : Settles s failure a x) (hf : Settles s next b (f a)) :
    Settles s (failure.or next) b (x >>= f) := by
  cases failure with
  | some e => exact Run.bind_error hx
  | none => exact (Run.bind_ok hx).trans hf

theorem map (f : α → β) (hx : Settles s failure a x) :
    Settles s failure (f a) (x >>= fun a => pure (f a)) := by
  have hall : Settles s (failure.or none) (f a) (x >>= fun a => pure (f a)) := hx.bind rfl
  rwa [Option.or_none] at hall

end Settles
end WireSketch
