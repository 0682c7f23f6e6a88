import Agm.Lib.Prog

/-! # What a program holds

A state holds things: blocks, handles, references.  `L.Swaps P m φ Q` is said of a program that is
given `P`: within the invariant it returns a value `a` with `φ a` and holds `Q a` instead, and what
is held beside it stays.  Only the faults that the ledger allows are possible.

`unwinding` is the idiom of a function that takes one thing after the other, and gives all of them
back at its labels: when it fails it holds what it held before (`opens_unwinding`). -/

namespace Prog

variable {σ ε R α β γ : Type}

/-- What a state holds, the states that are considered, and the faults that are put up with. -/
structure Ledger (σ ε R : Type) where
  held : σ → Multiset R
  Inv : σ → Prop
  Allowed : ε → Prop

variable {L : Ledger σ ε R} {P G : Multiset R} {m : Prog σ ε α} {φ : α → Prop}
  {Q : α → Multiset R}

/-- Given `P`, the program returns `a` with `φ a`, and holds `Q a` instead. -/
def Ledger.Swaps (L : Ledger σ ε R) (P : Multiset R) (m : Prog σ ε α) (φ : α → Prop)
    (Q : α → Multiset R) : Prop :=
  ∀ s F, L.Inv s → L.held s = P + F →
    Ensures L.Allowed m s fun a s' => φ a ∧ L.Inv s' ∧ L.held s' = Q a + F

theorem swaps_pure {a : α} (h : φ a) (hP : P = Q a) : L.Swaps P (pure a) φ Q :=
  fun _ _ hs hheld => ⟨h, hs, hP ▸ hheld⟩

theorem swaps_bind {f : α → Prog σ ε β} {ψ : β → Prop} {T : β → Multiset R}
    (hm : L.Swaps P m φ Q) (hf : ∀ a, φ a → L.Swaps (Q a) (f a) ψ T) :
    L.Swaps P (m >>= f) ψ T := by
  intro s F hs hheld
  rw [ensures_bind]
  exact (hm s F hs hheld).imp fun a s' h => hf a h.1 s' F h.2.1 h.2.2

theorem swaps_ite {c : Prop} [Decidable c] {m' : Prog σ ε α} (hm : c → L.Swaps P m φ Q)
    (hm' : ¬ c → L.Swaps P m' φ Q) : L.Swaps P (if c then m else m') φ Q := by
  split_ifs with h
  · exact hm h
  · exact hm' h

/-- What is held beside `P` is not touched. -/
theorem Ledger.Swaps.frame (h : L.Swaps P m φ Q) (G : Multiset R) :
    L.Swaps (P + G) m φ fun a => Q a + G := by
  intro s F hs hheld
  rw [add_assoc] at hheld
  refine (h s (G + F) hs hheld).imp fun a s' h' => ⟨h'.1, h'.2.1, ?_⟩
  rw [h'.2.2, add_assoc]

theorem Ledger.Swaps.imp {ψ : α → Prop} {T : α → Multiset R} (h : L.Swaps P m φ Q)
    (hψ : ∀ a, φ a → ψ a ∧ Q a = T a) : L.Swaps P m ψ T := by
  intro s F hs hheld
  refine (h s F hs hheld).imp fun a s' h' => ?_
  obtain ⟨hψa, hT⟩ := hψ a h'.1
  exact ⟨hψa, h'.2.1, hT ▸ h'.2.2⟩

/-- Something is given back, and the program goes on with the rest. -/
theorem swaps_drop_bind {f : α → Prog σ ε β} {ψ : β → Prop} {T : β → Multiset R}
    (hm : L.Swaps P m φ fun _ => 0) (hf : ∀ a, φ a → L.Swaps G (f a) ψ T) :
    L.Swaps (P + G) (m >>= f) ψ T := by
  refine swaps_bind (hm.frame G) fun a ha => ?_
  rw [zero_add]
  exact hf a ha

/-- A program that needs nothing. -/
theorem Ledger.Swaps.beside (h : L.Swaps 0 m φ Q) (G : Multiset R) :
    L.Swaps G m φ fun a => Q a + G := by
  have hframe := h.frame G
  rwa [zero_add] at hframe

/-- A program that only uses a part of what is held. -/
theorem Ledger.Swaps.within {P' : Multiset R} (h : L.Swaps P m φ fun _ => P) (hP : P ≤ P') :
    L.Swaps P' m φ fun _ => P' := by
  obtain ⟨G, rfl⟩ := Multiset.le_iff_exists_add.mp hP
  exact h.frame G

/-! ### Labels -/

/-- What a function holds when it returns a value, and what it holds at its labels: `P`, as
before. -/
def Ledger.Opens (L : Ledger σ ε R) (P : Multiset R) (m : Prog σ ε (Except ℤ α)) (φ : α → Prop)
    (Q : α → Multiset R) : Prop :=
  L.Swaps P m (fun r => ∀ a, r = .ok a → φ a) fun r => r.toOption.elim P Q

/-- Take something, go on with it, and give it back if this ends at a label. -/
def unwinding (acquire : Prog σ ε (Except ℤ α)) (release : α → Prog σ ε Unit)
    (body : α → Prog σ ε (Except ℤ β)) : Prog σ ε (Except ℤ β) := do
  let r ← acquire
  match r with
  | .error e => pure (.error e)
  | .ok a => do
      let x ← body a
      match x with
      | .error e => do
          release a
          pure (.error e)
      | .ok b => pure (.ok b)

theorem opens_error {e : ℤ} : L.Opens P (pure (.error e)) φ Q :=
  swaps_pure (by rintro _ ⟨⟩) rfl

/-- A program that does not change what is held, before what may fail. -/
theorem opens_after {p : Prog σ ε γ} {χ : γ → Prop} {f : γ → Prog σ ε (Except ℤ α)}
    (hp : L.Swaps P p χ fun _ => P) (hf : ∀ c, χ c → L.Opens P (f c) φ Q) :
    L.Opens P (p >>= f) φ Q :=
  swaps_bind hp hf

theorem opens_ite {c : Prop} [Decidable c] {m m' : Prog σ ε (Except ℤ α)}
    (hm : c → L.Opens P m φ Q) (hm' : ¬ c → L.Opens P m' φ Q) :
    L.Opens P (if c then m else m') φ Q :=
  swaps_ite hm hm'

theorem opens_unwinding {acquire : Prog σ ε (Except ℤ α)} {release : α → Prog σ ε Unit}
    {body : α → Prog σ ε (Except ℤ β)} {ψ : β → Prop} {T : β → Multiset R}
    (hacq : L.Opens 0 acquire φ Q) (hbody : ∀ a, φ a → L.Opens (Q a + P) (body a) ψ T)
    (hrel : ∀ a, φ a → L.Swaps (Q a) (release a) (fun _ => True) fun _ => 0) :
    L.Opens P (unwinding acquire release body) ψ T := by
  refine swaps_bind (hacq.beside P) fun r hr => ?_
  cases r with
  | error e => exact swaps_pure (by rintro _ ⟨⟩) (zero_add P)
  | ok a =>
      refine swaps_bind (hbody a (hr a rfl)) fun x hx => ?_
      cases x with
      | error e =>
          refine swaps_bind ((hrel a (hr a rfl)).frame P) fun _ _ => ?_
          exact swaps_pure (by rintro _ ⟨⟩) (zero_add P)
      | ok b => exact swaps_pure hx rfl

end Prog
