import WireSketch.Fit.Measurer
import WireSketch.Proofs.Program.Contract

/-! Programs that measure: programs over the store alone among them, and measurers that record their calls. -/
namespace WireSketch

namespace FitM

variable {σ α : Type} {x : StoreM α} {s s' : Store} {t : σ} {a : α}

theorem run_ofStore (x : StoreM α) (s : Store) (t : σ) : FitM.ofStore x (s, t) = match x s with
    | .ok a s' => .ok a (s', t)
    | .error f s' => .error f (s', t) := rfl

theorem ofStore_ok (h : x s = .ok a s') (t : σ) : FitM.ofStore x (s, t) = .ok a (s', t) := by
  rw [run_ofStore, h]

theorem ofStore_error {f : Fault} (h : x s = .error f s') (t : σ) :
    FitM.ofStore x (s, t) = .error f (s', t) := by
  rw [run_ofStore, h]

theorem of_ofStore_ok {u : Store × σ} (h : FitM.ofStore x (s, t) = .ok a u) :
    ∃ s', x s = .ok a s' ∧ u = (s', t) := by
  cases hx : x s with
  | ok b s' =>
    rw [ofStore_ok hx] at h
    cases h
    exact ⟨s', rfl, rfl⟩
  | error f s' =>
    rw [ofStore_error hx] at h
    cases h

theorem ofExcept_ok {r : Except Fault α} (h : r = .ok a) (u : Store × σ) :
    (liftM r : FitM σ α) u = .ok a u := by
  rw [h]
  rfl

theorem of_ofExcept_ok {r : Except Fault α} {u v : Store × σ} (h : (liftM r : FitM σ α) u = .ok a v) :
    r = .ok a ∧ v = u := by
  cases r with
  | ok b =>
    cases h
    exact ⟨rfl, rfl⟩
  | error f => cases h

end FitM

namespace Measurer

variable {σ : Type} {measure : Measurer σ}

/-- The measurer that also writes down the texts it is called with and the widths it finds. -/
def recording (measure : Measurer σ) : Measurer (σ × List (String × Float)) :=
  fun text size family (s, (t, calls)) =>
    match measure text size family (s, t) with
    | .ok x (s, t) => .ok x (s, (t, calls ++ [(text, x)]))
    | .error f (s, t) => .error f (s, (t, calls))

theorem run_recording (text : String) (size family : Value) (s : Store) (t : σ)
    (calls : List (String × Float)) :
    measure.recording text size family (s, (t, calls)) = match measure text size family (s, t) with
      | .ok x (s, t) => .ok x (s, (t, calls ++ [(text, x)]))
      | .error f (s, t) => .error f (s, (t, calls)) := rfl

theorem recording_ok {text : String} {size family : Value} {width : Float} {s s' : Store} {t t' : σ}
    (calls : List (String × Float)) (h : measure text size family (s, t) = .ok width (s', t')) :
    measure.recording text size family (s, (t, calls)) =
      .ok width (s', (t', calls ++ [(text, width)])) := by
  rw [run_recording, h]

end Measurer
end WireSketch
