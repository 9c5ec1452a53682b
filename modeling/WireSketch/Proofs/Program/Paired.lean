import WireSketch.Proofs.Program.Contract

/-! Two programs that run side by side, from related states to related states. -/
namespace WireSketch

variable {ε σ α α' β β' : Type}

/-- Both runs succeed, or both end in the same failure. -/
inductive EndAlike (R : σ → σ → Prop) (Q : α → α' → Prop) :
    EStateM.Result ε σ α → EStateM.Result ε σ α' → Prop
  | ok {s t : σ} {a : α} {b : α'} (hs : R s t) (ha : Q a b) : EndAlike R Q (.ok a s) (.ok b t)
  | error {s t : σ} (e : ε) (hs : R s t) : EndAlike R Q (.error e s) (.error e t)

/-- From related states, both programs end alike. -/
def Paired (R : σ → σ → Prop) (Q : α → α' → Prop) (x : EStateM ε σ α) (y : EStateM ε σ α') : Prop :=
  ∀ s t, R s t → EndAlike R Q (x s) (y t)

variable {R : σ → σ → Prop} {Q : α → α' → Prop} {S : β → β' → Prop}

theorem paired_pure {a : α} {b : α'} (h : Q a b) :
    Paired R Q (pure a : EStateM ε σ α) (pure b) := fun _ _ hs => .ok hs h

theorem paired_throw (e : ε) : Paired R Q (throw e : EStateM ε σ α) (throw e) := fun _ _ hs => .error e hs

theorem paired_get : Paired R R (get : EStateM ε σ σ) get := fun _ _ hs => .ok hs hs

/-- What comes after the two runs need only end alike where these have succeeded. -/
theorem EndAlike.bind {x : EStateM ε σ α} {y : EStateM ε σ α'} {f : α → EStateM ε σ β} {g : α' → EStateM ε σ β'}
    {s t : σ} (h : EndAlike R Q (x s) (y t))
    (hf : ∀ a b s' t', x s = .ok a s' → Q a b → R s' t' → EndAlike R S (f a s') (g b t')) :
    EndAlike R S ((x >>= f) s) ((y >>= g) t) := by
  generalize hr : x s = r, hq : y t = q at h
  cases h with
  | ok hs ha =>
    rw [Run.bind_ok hr, Run.bind_ok hq]
    exact hf _ _ _ _ hr ha hs
  | error e hs =>
    rw [Run.bind_error hr, Run.bind_error hq]
    exact .error e hs

theorem Paired.bind {x : EStateM ε σ α} {y : EStateM ε σ α'} {f : α → EStateM ε σ β} {g : α' → EStateM ε σ β'}
    (hx : Paired R Q x y) (hf : ∀ a b, Q a b → Paired R S (f a) (g b)) : Paired R S (x >>= f) (y >>= g) :=
  fun s t hs => (hx s t hs).bind fun a b s' t' _ ha hs' => hf a b ha s' t' hs'

theorem Paired.tryCatch {x y : EStateM ε σ α} {f g : ε → EStateM ε σ α} {Q : α → α → Prop} (hx : Paired R Q x y)
    (hf : ∀ e, Paired R Q (f e) (g e)) : Paired R Q (tryCatch x f) (tryCatch y g) := by
  intro s t hs
  have hends := hx s t hs
  have hcatch (z : EStateM ε σ α) (h : ε → EStateM ε σ α) (u : σ) :
      MonadExcept.tryCatch z h u = EStateM.tryCatch z h u := rfl
  rw [hcatch, hcatch]
  unfold EStateM.tryCatch
  generalize x s = r, y t = q at hends
  cases hends with
  | ok hs' ha => exact .ok hs' ha
  | error e hs' => exact hf e _ _ hs'

/-- A program that ends alike from any two related states. -/
abbrev Alike (R : σ → σ → Prop) (x : EStateM ε σ α) : Prop := Paired R Eq x x

theorem alike_pure (a : α) : Alike R (pure a : EStateM ε σ α) := paired_pure rfl

theorem Alike.bind {x : EStateM ε σ α} {f : α → EStateM ε σ β} {g : α → EStateM ε σ β'} (hx : Alike R x)
    (hf : ∀ a, Paired R S (f a) (g a)) : Paired R S (x >>= f) (x >>= g) :=
  Paired.bind hx fun a _ hab => hab ▸ hf a

theorem alike_mapM {f : α → EStateM ε σ β} (hf : ∀ a, Alike R (f a)) : (xs : List α) → Alike R (xs.mapM f)
  | [] => alike_pure []
  | a :: xs => by
    rw [List.mapM_cons]
    exact (hf a).bind fun b => (alike_mapM hf xs).bind fun bs => alike_pure (b :: bs)

end WireSketch
