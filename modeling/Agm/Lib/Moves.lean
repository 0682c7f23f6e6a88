import Agm.Lib.Prog

/-! # Programs that move the state along a preorder

`Moves R m` says that whenever `m` returns, the state has moved along `R`.  When `R` is a
preorder the programs that move along it are closed under sequencing, branching and the two loop
shapes, so that what a large program moves along follows from its primitive steps. -/

namespace Prog

variable {σ ε α β ι : Type} {R : σ → σ → Prop}

/-- Whenever the program returns, the state has moved along `R`. -/
def Moves (R : σ → σ → Prop) (m : Prog σ ε α) : Prop := ∀ s, Ensures anyFault m s fun _ s' => R s s'

theorem moves_fault (e : ε) : Moves R (fault e : Prog σ ε α) := fun _ => trivial

theorem moves_modify {f : σ → σ} (h : ∀ s, R s (f s)) : Moves R (modify f : Prog σ ε Unit) := h

theorem moves_ite {c : Prop} [Decidable c] {m n : Prog σ ε α} (hm : Moves R m) (hn : Moves R n) :
    Moves R (if c then m else n) := by
  intro s
  rw [ensures_ite]
  exact ⟨fun _ => hm s, fun _ => hn s⟩

section preorder
variable [IsPreorder σ R]

theorem moves_pure (a : α) : Moves R (pure a : Prog σ ε α) := fun s => refl_of R s

theorem moves_gets (f : σ → α) : Moves R (gets f : Prog σ ε α) := fun s => refl_of R s

theorem moves_bind {m : Prog σ ε α} {f : α → Prog σ ε β} (hm : Moves R m)
    (hf : ∀ a, Moves R (f a)) : Moves R (m >>= f) := by
  intro s
  rw [ensures_bind]
  refine (hm s).imp fun a s₁ h₁ => ?_
  exact (hf a s₁).imp fun _ s₂ h₂ => trans_of R h₁ h₂

theorem moves_forEach {body : ι → Prog σ ε ℤ} (hbody : ∀ i, Moves R (body i)) (l : List ι) :
    Moves R (forEach body l) := by
  induction l with
  | nil => exact moves_pure 0
  | cons i is ih =>
      apply moves_bind (hbody i)
      intro r
      exact moves_ite (moves_pure r) ih

theorem moves_forAll {body : ι → β → Prog σ ε β} (hbody : ∀ i b, Moves R (body i b)) (l : List ι) :
    ∀ b, Moves R (forAll body l b) := by
  induction l with
  | nil => exact moves_pure
  | cons i is ih =>
      intro b
      exact moves_bind (hbody i b) ih

theorem moves_runAll {step : ι → Prog σ ε α} (hstep : ∀ i, Moves R (step i)) (l : List ι) :
    Moves R (runAll step l) := by
  induction l with
  | nil => exact moves_pure ()
  | cons i is ih => exact moves_bind (hstep i) fun _ => ih

/-- A program that moves along the relation, on top of what has been reached. -/
theorem Moves.after {m : Prog σ ε α} (h : Moves R m) {s₀ s : σ} (hs : R s₀ s) :
    Ensures anyFault m s fun _ s' => R s₀ s' :=
  (h s).imp fun _ _ h' => trans_of R hs h'

end preorder

/-- While `P` holds it keeps holding, and the state moves along `R`. -/
def Under (P : σ → Prop) (R : σ → σ → Prop) (s s' : σ) : Prop := P s → P s' ∧ R s s'

instance {P : σ → Prop} [IsPreorder σ R] : IsPreorder σ (Under P R) where
  refl s hs := ⟨hs, refl_of R s⟩
  trans s₁ s₂ s₃ h h' hs := by
    obtain ⟨hs₂, h₂⟩ := h hs
    obtain ⟨hs₃, h₃⟩ := h' hs₂
    exact ⟨hs₃, trans_of R h₂ h₃⟩

end Prog
