import Mathlib.Data.List.Basic

/-! # Runs of a step function

A system that answers every request is a function `step : σ → ι → σ`, and its run on a list of
requests is `List.foldl step`.  `Along step P requests s` says that `P` holds at every step of
the run, of the state before the step and the request.

* `run_invariant`: what each step keeps holds after the run.
* `Along.imp`, `along_congr`: under an invariant, one property of the steps follows from another. -/

namespace Run

variable {σ τ ι : Type*} {step : σ → ι → σ} {P Q C : σ → ι → Prop} {I : σ → Prop}

/-- `P` holds at every step of the run. -/
def Along (step : σ → ι → σ) (P : σ → ι → Prop) : List ι → σ → Prop
  | [], _ => True
  | i :: l, s => P s i ∧ Along step P l (step s i)

instance Along.decidable (step : σ → ι → σ) (P : σ → ι → Prop) [∀ s i, Decidable (P s i)] :
    ∀ l s, Decidable (Along step P l s)
  | [], _ => .isTrue trivial
  | i :: l, s =>
      have := Along.decidable step P l (step s i)
      inferInstanceAs (Decidable (P s i ∧ Along step P l (step s i)))

@[simp] theorem along_nil (s : σ) : Along step P [] s := trivial

@[simp] theorem along_cons (i : ι) (l : List ι) (s : σ) :
    Along step P (i :: l) s ↔ P s i ∧ Along step P l (step s i) := Iff.rfl

/-- What each step keeps holds after the run. -/
theorem run_invariant (hstep : ∀ s i, I s → C s i → I (step s i)) (l : List ι) (s : σ)
    (hs : I s) (hc : Along step C l s) : I (l.foldl step s) := by
  induction l generalizing s with
  | nil => exact hs
  | cons i l ih => exact ih (step s i) (hstep s i hs hc.1) hc.2

theorem Along.imp (hstep : ∀ s i, I s → P s i → I (step s i)) (himp : ∀ s i, I s → P s i → Q s i)
    {l : List ι} {s : σ} (hs : I s) (h : Along step P l s) : Along step Q l s := by
  induction l generalizing s with
  | nil => exact trivial
  | cons i l ih => exact ⟨himp s i hs h.1, ih (hstep s i hs h.1) h.2⟩

theorem along_congr (hstep : ∀ s i, I s → I (step s i)) (hiff : ∀ s i, I s → (P s i ↔ Q s i))
    (l : List ι) {s : σ} (hs : I s) : Along step P l s ↔ Along step Q l s :=
  ⟨Along.imp (fun s i h _ => hstep s i h) (fun s i h => (hiff s i h).mp) hs,
    Along.imp (fun s i h _ => hstep s i h) (fun s i h => (hiff s i h).mpr) hs⟩

end Run
