import Agm.Lib.Prog

/-! # Two programs with the same outcome

Two programs over different states agree when they stop with the same fault, or return the same
value in states that are related.  A loop is done step by step (`agrees_forAll`); the relation may
depend on what the loop has not visited yet. -/

namespace Prog

variable {σ τ ε α β ι γ : Type}

/-- The same fault, or the same value in related states. -/
inductive Agrees (R : σ → τ → Prop) : Except ε (α × σ) → Except ε (α × τ) → Prop
  | fault (e : ε) : Agrees R (.error e) (.error e)
  | returns (a : α) {s : σ} {t : τ} : R s t → Agrees R (.ok (a, s)) (.ok (a, t))

variable {R R' : σ → τ → Prop}

theorem Agrees.imp {x : Except ε (α × σ)} {y : Except ε (α × τ)} (h : Agrees R x y)
    (hR : ∀ s t, R s t → R' s t) : Agrees R' x y := by
  cases h with
  | fault e => exact .fault e
  | returns a hst => exact .returns a (hR _ _ hst)

theorem agrees_bind {m : Prog σ ε α} {n : Prog τ ε α} {f : α → Prog σ ε β} {g : α → Prog τ ε β}
    {s : σ} {t : τ} (h : Agrees R (m s) (n t))
    (hf : ∀ a s' t', R s' t' → Agrees R' (f a s') (g a t')) :
    Agrees R' ((m >>= f) s) ((n >>= g) t) := by
  generalize hm : m s = x at h
  generalize hn : n t = y at h
  cases h with
  | fault e =>
      rw [bind_of_error hm, bind_of_error hn]
      exact .fault e
  | returns a hst =>
      rw [bind_of_ok hm, bind_of_ok hn]
      exact hf a _ _ hst

/-- What the bodies keep at every turn, the loops keep. -/
theorem agrees_forAll {f : ι → β → Prog σ ε β} {g : ι → β → Prog τ ε β}
    (I : List ι → σ → τ → Prop)
    (hbody : ∀ i is b s t, I (i :: is) s t → Agrees (I is) (f i b s) (g i b t))
    (l : List ι) : ∀ b s t, I l s t → Agrees (I []) (forAll f l b s) (forAll g l b t) := by
  induction l with
  | nil => exact fun b s t h => .returns b h
  | cons i is ih =>
      intro b s t h
      exact agrees_bind (hbody i is b s t h) ih

/-- What is seen of related states in the same way is seen of the outcomes in the same way. -/
theorem Agrees.map_eq {x : Except ε (α × σ)} {y : Except ε (α × τ)} (h : Agrees R x y)
    {f : σ → γ} {g : τ → γ} (hfg : ∀ s t, R s t → f s = g t) :
    x.map (fun r => f r.2) = y.map fun r => g r.2 := by
  cases h with
  | fault e => rfl
  | returns a hst => exact congrArg Except.ok (hfg _ _ hst)

end Prog
