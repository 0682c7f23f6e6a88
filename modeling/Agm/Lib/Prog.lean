import Mathlib

/-! # State programs that may fault

A program `m : Prog σ ε α` takes a state and either returns a value with the next state or
stops with a fault.  The module fixes the vocabulary in which such programs are specified:

* `Ensures E m s Q`: run from `s`, the program either stops with a fault allowed by `E` or
  returns `a` in a state `s'` with `Q a s'`.  With `E` always true this is partial
  correctness, with `E` always false it is total correctness, and in between it says which
  faults are excluded.
* `zoom part put err m` runs a program of a smaller state on a part of a larger one.
  Everything outside the part is untouched by construction, which is what makes the frame
  conditions of the layers below free (`ensures_zoom`).
* `forEach` and `forAll` are the two loop shapes: leave at the first non-zero code, or visit
  every element and thread a value.
* `runAll` executes a list of calls, `Admits C` says that every call of the list meets the
  condition `C` in the state where it is made, and `runAll_invariant` is the induction that
  lifts what one admitted call preserves to whole runs; `admits_congr` exchanges the condition. -/

/-- A program over states `σ`: it returns a value and the next state, or stops with a fault. -/
def Prog (σ ε α : Type) : Type := σ → Except ε (α × σ)

namespace Prog

variable {σ τ ε δ α β ι : Type}

instance : Monad (Prog σ ε) where
  pure a := fun s => .ok (a, s)
  bind m f := fun s =>
    match m s with
    | .ok (a, s') => f a s'
    | .error e => .error e

/-- Read a value off the state. -/
def gets (f : σ → α) : Prog σ ε α := fun s => .ok (f s, s)

/-- Replace the state. -/
def modify (f : σ → σ) : Prog σ ε Unit := fun s => .ok ((), f s)

/-- Stop with a fault. -/
def fault (e : ε) : Prog σ ε α := fun _ => .error e

/-- Run a program on a part of the state. -/
def zoom (part : σ → τ) (put : τ → σ → σ) (err : δ → ε) (m : Prog τ δ α) : Prog σ ε α := fun s =>
  match m (part s) with
  | .ok (a, t) => .ok (a, put t s)
  | .error e => .error (err e)

/-- Visit the elements in order and leave at the first non-zero code. -/
def forEach (body : ι → Prog σ ε ℤ) : List ι → Prog σ ε ℤ
  | [] => pure 0
  | i :: is => do
      let r ← body i
      if r ≠ 0 then pure r else forEach body is

/-- Visit all elements in order, threading a value. -/
def forAll (body : ι → β → Prog σ ε β) : List ι → β → Prog σ ε β
  | [], b => pure b
  | i :: is, b => do
      let b' ← body i b
      forAll body is b'

/-! ### What a program ensures -/

/-- Run from `s`, the program faults within `E` or returns within `Q`. -/
def Ensures (E : ε → Prop) (m : Prog σ ε α) (s : σ) (Q : α → σ → Prop) : Prop :=
  match m s with
  | .ok (a, s') => Q a s'
  | .error e => E e

/-- Every fault is allowed: partial correctness. -/
def anyFault : ε → Prop := fun _ => True

/-- No fault is allowed: total correctness. -/
def noFault : ε → Prop := fun _ => False

variable {E : ε → Prop} {s : σ}

instance (m : Prog σ ε α) (Q : α → σ → Prop) [DecidablePred E] [∀ a s', Decidable (Q a s')] :
    Decidable (Ensures E m s Q) :=
  match h : m s with
  | .ok p => decidable_of_iff (Q p.1 p.2) (by simp [Ensures, h])
  | .error e => decidable_of_iff (E e) (by simp [Ensures, h])

instance : DecidablePred (anyFault : ε → Prop) := fun _ => isTrue trivial

instance : DecidablePred (noFault : ε → Prop) := fun _ => isFalse id

@[simp] theorem ensures_pure (a : α) (Q : α → σ → Prop) :
    Ensures E (pure a : Prog σ ε α) s Q ↔ Q a s := Iff.rfl

@[simp] theorem ensures_bind (m : Prog σ ε α) (f : α → Prog σ ε β) (Q : β → σ → Prop) :
    Ensures E (m >>= f) s Q ↔ Ensures E m s (fun a s' => Ensures E (f a) s' Q) := by
  unfold Ensures
  show (match (match m s with | .ok (a, s') => f a s' | .error e => .error e) with
    | .ok (a, s') => Q a s' | .error e => E e) ↔ _
  cases m s with
  | ok p => exact Iff.rfl
  | error e => exact Iff.rfl

@[simp] theorem ensures_gets (f : σ → α) (Q : α → σ → Prop) :
    Ensures E (gets f : Prog σ ε α) s Q ↔ Q (f s) s := Iff.rfl

@[simp] theorem ensures_modify (f : σ → σ) (Q : Unit → σ → Prop) :
    Ensures E (modify f : Prog σ ε Unit) s Q ↔ Q () (f s) := Iff.rfl

@[simp] theorem ensures_fault (e : ε) (Q : α → σ → Prop) :
    Ensures E (fault e : Prog σ ε α) s Q ↔ E e := Iff.rfl

theorem ensures_zoom {part : σ → τ} {put : τ → σ → σ} {err : δ → ε} (m : Prog τ δ α)
    (Q : α → σ → Prop) :
    Ensures E (zoom part put err m) s Q ↔
      Ensures (fun e => E (err e)) m (part s) (fun a t => Q a (put t s)) := by
  unfold Ensures zoom
  cases m (part s) with
  | ok p => exact Iff.rfl
  | error e => exact Iff.rfl

theorem ensures_ite {c : Prop} [Decidable c] {m n : Prog σ ε α} {Q : α → σ → Prop} :
    Ensures E (if c then m else n) s Q ↔
      (c → Ensures E m s Q) ∧ (¬ c → Ensures E n s Q) := by
  by_cases h : c
  · simp [h]
  · simp [h]

theorem Ensures.mono {E' : ε → Prop} {m : Prog σ ε α} {P Q : α → σ → Prop}
    (h : Ensures E m s P) (hE : ∀ e, E e → E' e) (hQ : ∀ a s', P a s' → Q a s') :
    Ensures E' m s Q := by
  unfold Ensures at h ⊢
  cases hm : m s with
  | ok p => rw [hm] at h; exact hQ _ _ h
  | error e => rw [hm] at h; exact hE _ h

/-- Weaken the postcondition. -/
theorem Ensures.imp {m : Prog σ ε α} {P Q : α → σ → Prop} (h : Ensures E m s P)
    (hQ : ∀ a s', P a s' → Q a s') : Ensures E m s Q :=
  h.mono (fun _ he => he) hQ

/-- Two facts about one program; the faults are bounded by the first. -/
theorem Ensures.and {E' : ε → Prop} {m : Prog σ ε α} {P Q : α → σ → Prop} (h : Ensures E m s P)
    (h' : Ensures E' m s Q) : Ensures E m s (fun a s' => P a s' ∧ Q a s') := by
  unfold Ensures at *
  cases hm : m s with
  | ok p => rw [hm] at h h'; exact ⟨h, h'⟩
  | error e => rw [hm] at h; exact h

/-- Partial correctness read off the executions that return. -/
theorem ensures_anyFault_iff {m : Prog σ ε α} {Q : α → σ → Prop} :
    Ensures anyFault m s Q ↔ ∀ a s', m s = .ok (a, s') → Q a s' := by
  unfold Ensures
  cases m s with
  | ok p =>
      constructor
      · rintro h a s' e
        cases e
        exact h
      · intro h
        exact h _ _ rfl
  | error e =>
      constructor
      · intro _ a s' h
        cases h
      · intro _
        trivial

theorem Ensures.of_ok {m : Prog σ ε α} {Q : α → σ → Prop} (h : Ensures E m s Q) {a : α} {s' : σ}
    (e : m s = .ok (a, s')) : Q a s' := by
  unfold Ensures at h
  rw [e] at h
  exact h

/-- A program that ensures nothing but the absence of faults returns. -/
theorem Ensures.exists_ok {m : Prog σ ε α} {Q : α → σ → Prop}
    (h : Ensures noFault m s Q) : ∃ a s', m s = .ok (a, s') ∧ Q a s' := by
  unfold Ensures at h
  cases hm : m s with
  | ok p => rw [hm] at h; exact ⟨p.1, p.2, rfl, h⟩
  | error e => rw [hm] at h; exact h.elim

/-- Keep the execution itself at hand. -/
theorem Ensures.with_ok {m : Prog σ ε α} {Q : α → σ → Prop} (h : Ensures E m s Q) :
    Ensures E m s (fun a s' => Q a s' ∧ m s = .ok (a, s')) := by
  unfold Ensures at *
  cases hm : m s with
  | ok p => rw [hm] at h; exact ⟨h, rfl⟩
  | error e => rw [hm] at h; exact h

/-- On an execution that returns, a total specification is its postcondition. -/
theorem ensures_iff_of_ok {m : Prog σ ε α} {Q : α → σ → Prop} {a : α} {s' : σ}
    (e : m s = .ok (a, s')) : Ensures E m s Q ↔ Q a s' := by
  simp only [Ensures, e]

theorem ensures_congr {m : Prog σ ε α} {Q Q' : α → σ → Prop} (h : ∀ a s', Q a s' ↔ Q' a s') :
    Ensures E m s Q ↔ Ensures E m s Q' :=
  ⟨fun hm => hm.imp fun a s' => (h a s').mp, fun hm => hm.imp fun a s' => (h a s').mpr⟩

/-- The first part of a sequence is known to return. -/
theorem ensures_bind_ok {m : Prog σ ε α} {f : α → Prog σ ε β} {Q : β → σ → Prop} {a : α} {s' : σ}
    (e : m s = .ok (a, s')) : Ensures E (m >>= f) s Q ↔ Ensures E (f a) s' Q := by
  rw [ensures_bind, ensures_iff_of_ok e]

/-- The first part of a sequence is known to fault. -/
theorem ensures_bind_error {m : Prog σ ε α} {f : α → Prog σ ε β} {Q : β → σ → Prop} {x : ε}
    (e : m s = .error x) : Ensures E (m >>= f) s Q ↔ E x := by
  rw [ensures_bind]
  simp only [Ensures, e]

/-- A sequence runs on from what its first part returns. -/
theorem bind_of_ok {m : Prog σ ε α} {f : α → Prog σ ε β} {a : α} {t : σ} (e : m s = .ok (a, t)) :
    (m >>= f) s = f a t := by
  show (match m s with | .ok (a, s') => f a s' | .error e => .error e) = _
  rw [e]

/-- A sequence stops with a fault of its first part. -/
theorem bind_of_error {m : Prog σ ε α} {f : α → Prog σ ε β} {x : ε} (e : m s = .error x) :
    (m >>= f) s = .error x := by
  show (match m s with | .ok (a, s') => f a s' | .error e => .error e) = _
  rw [e]

theorem bind_gets (f : σ → α) (k : α → Prog σ ε β) (s : σ) : (gets f >>= k) s = k (f s) s := rfl

theorem bind_modify (f : σ → σ) (k : Unit → Prog σ ε β) (s : σ) :
    (modify f >>= k) s = k () (f s) := rfl

/-- What holds of every fault and of every return is ensured. -/
theorem ensures_of_forall {m : Prog σ ε α} {Q : α → σ → Prop} (hE : ∀ e, E e)
    (hQ : ∀ a s', Q a s') : Ensures E m s Q := by
  unfold Ensures
  cases m s with
  | ok p => exact hQ p.1 p.2
  | error e => exact hE e

/-! ### Programs without faults -/

/-- The program never stops with a fault. -/
def Total (m : Prog σ ε α) : Prop := ∀ s, Ensures noFault m s fun _ _ => True

theorem total_pure (a : α) : Total (pure a : Prog σ ε α) := fun _ => trivial

theorem total_bind {m : Prog σ ε α} {f : α → Prog σ ε β} (hm : Total m) (hf : ∀ a, Total (f a)) :
    Total (m >>= f) := by
  intro s
  rw [ensures_bind]
  exact (hm s).imp fun a s' _ => hf a s'

theorem total_ite {c : Prop} [Decidable c] {m n : Prog σ ε α} (hm : Total m) (hn : Total n) :
    Total (if c then m else n) := by
  intro s
  rw [ensures_ite]
  exact ⟨fun _ => hm s, fun _ => hn s⟩

theorem Total.exists_ok {m : Prog σ ε α} (h : Total m) (s : σ) : ∃ a s', m s = .ok (a, s') := by
  obtain ⟨a, s', hrun, -⟩ := (h s).exists_ok
  exact ⟨a, s', hrun⟩

/-! ### Loops -/

/-- `forEach` keeps an invariant `I` indexed by what is still to visit; a non-zero code leaves
the loop with `J`. -/
theorem ensures_forEach {body : ι → Prog σ ε ℤ} (I : List ι → σ → Prop) (J : ℤ → σ → Prop)
    (hbody : ∀ i is s, I (i :: is) s →
      Ensures E (body i) s (fun r s' => (r = 0 → I is s') ∧ (r ≠ 0 → J r s'))) :
    ∀ (l : List ι) (s : σ), I l s →
      Ensures E (forEach body l) s (fun r s' => (r = 0 → I [] s') ∧ (r ≠ 0 → J r s'))
  | [], s, h => by
      simp only [forEach, ensures_pure]
      exact ⟨fun _ => h, fun hne => absurd rfl hne⟩
  | i :: is, s, h => by
      simp only [forEach, ensures_bind]
      refine (hbody i is s h).imp fun r s' hr => ?_
      rw [ensures_ite]
      refine ⟨fun hne => ?_, fun he => ?_⟩
      · simp only [ensures_pure]
        exact ⟨fun he => absurd he hne, hr.2⟩
      · exact ensures_forEach I J hbody is s' (hr.1 (not_not.mp he))

/-- `forAll` keeps an invariant `I` indexed by what is still to visit. -/
theorem ensures_forAll {body : ι → β → Prog σ ε β} (I : List ι → β → σ → Prop)
    (hbody : ∀ i is b s, I (i :: is) b s → Ensures E (body i b) s (fun b' s' => I is b' s')) :
    ∀ (l : List ι) (b : β) (s : σ), I l b s →
      Ensures E (forAll body l b) s (fun b' s' => I [] b' s')
  | [], b, s, h => by
      simp only [forAll, ensures_pure]
      exact h
  | i :: is, b, s, h => by
      simp only [forAll, ensures_bind]
      exact (hbody i is b s h).imp fun b' s' h' => ensures_forAll I hbody is b' s' h'

/-- Every turn of `forAll` meets `P` in the state in which it is made. -/
def Turns (body : ι → β → Prog σ ε β) (P : ι → σ → Prop) : List ι → β → σ → Prop
  | [], _, _ => True
  | i :: is, b, s => P i s ∧
      match body i b s with
      | .ok (b', s') => Turns body P is b' s'
      | .error _ => True

instance decidableTurns (body : ι → β → Prog σ ε β) (P : ι → σ → Prop)
    [∀ i s, Decidable (P i s)] : ∀ (l : List ι) (b : β) (s : σ), Decidable (Turns body P l b s)
  | [], _, _ => isTrue trivial
  | i :: is, b, s =>
      match h : body i b s with
      | .ok (b', s') =>
          have : Decidable (Turns body P is b' s') := decidableTurns body P is b' s'
          decidable_of_iff (P i s ∧ Turns body P is b' s') (by simp [Turns, h])
      | .error e => decidable_of_iff (P i s) (by simp [Turns, h])

/-! ### Loops seen through an abstraction

When `abs` maps states to abstract states and the body of a loop is described by a relation
between those, so is the loop: by `Until` for `forEach` and by `Chain` for `forAll`. -/

section abstraction
variable {A : Type}

/-- The turns of a loop that is left at the first non-zero code. -/
inductive Until (T : ι → A → ℤ → A → Prop) : List ι → A → ℤ → A → Prop
  | nil (c : A) : Until T [] c 0 c
  | fail {i is c r c'} (hr : r ≠ 0) (h : T i c r c') : Until T (i :: is) c r c'
  | next {i is c c₁ r c'} (h : T i c 0 c₁) (hs : Until T is c₁ r c') : Until T (i :: is) c r c'

/-- The turns of a loop that visits every element. -/
inductive Chain (T : ι → A → A → Prop) : List ι → A → A → Prop
  | nil (c : A) : Chain T [] c c
  | cons {i is c c₁ c'} (h : T i c c₁) (hs : Chain T is c₁ c') : Chain T (i :: is) c c'

/-- What every turn keeps, the loop keeps. -/
theorem Until.invariant {T : ι → A → ℤ → A → Prop} {I : A → Prop}
    (hI : ∀ i c r c', I c → T i c r c' → I c') {l : List ι} {c c' : A} {r : ℤ}
    (h : Until T l c r c') : I c → I c' := by
  induction h with
  | nil c => exact id
  | fail hr h => exact fun hc => hI _ _ _ _ hc h
  | next h hs ih => exact fun hc => ih (hI _ _ _ _ hc h)

/-- What every turn keeps, the loop keeps. -/
theorem Chain.invariant {T : ι → A → A → Prop} {I : A → Prop}
    (hI : ∀ i c c', I c → T i c c' → I c') {l : List ι} {c c' : A}
    (h : Chain T l c c') : I c → I c' := by
  induction h with
  | nil c => exact id
  | cons h hs ih => exact fun hc => ih (hI _ _ _ hc h)

/-- The invariant may depend on what is still to visit. -/
theorem Chain.visits {T : ι → A → A → Prop} {I : List ι → A → Prop}
    (hI : ∀ i is c c', I (i :: is) c → T i c c' → I is c') {l : List ι} {c c' : A}
    (h : Chain T l c c') : I l c → I [] c' := by
  induction h with
  | nil c => exact id
  | cons h hs ih => exact fun hc => ih (hI _ _ _ _ hc h)

theorem Chain.congr {T T' : ι → A → A → Prop} {l : List ι} {c c' : A} (h : Chain T l c c') :
    (∀ i ∈ l, T i = T' i) → Chain T' l c c' := by
  induction h with
  | nil c => exact fun _ => .nil c
  | cons h hs ih =>
      intro he
      obtain ⟨h₁, h₂⟩ := List.forall_mem_cons.mp he
      exact .cons (h₁ ▸ h) (ih h₂)

variable (abs : σ → A) {P : σ → Prop}

theorem ensures_forEach_until {T : ι → A → ℤ → A → Prop} {body : ι → Prog σ ε ℤ}
    (hbody : ∀ i s, P s → Ensures E (body i) s (fun r s' => T i (abs s) r (abs s') ∧ P s')) :
    ∀ (l : List ι) (s : σ), P s →
      Ensures E (forEach body l) s (fun r s' => Until T l (abs s) r (abs s') ∧ P s')
  | [], s, h => by
      simp only [forEach, ensures_pure]
      exact ⟨.nil _, h⟩
  | i :: is, s, h => by
      simp only [forEach, ensures_bind]
      refine (hbody i s h).imp fun r s' hr => ?_
      rw [ensures_ite]
      refine ⟨fun hne => ?_, fun he => ?_⟩
      · simp only [ensures_pure]
        exact ⟨.fail hne hr.1, hr.2⟩
      · have h0 : r = 0 := not_not.mp he
        subst h0
        exact (ensures_forEach_until hbody is s' hr.2).imp fun r' s'' h' =>
          ⟨.next hr.1 h'.1, h'.2⟩

theorem ensures_forAll_chain {T : ι → A → A → Prop} {body : ι → β → Prog σ ε β}
    (hbody : ∀ i b s, P s → Ensures E (body i b) s (fun _ s' => T i (abs s) (abs s') ∧ P s')) :
    ∀ (l : List ι) (b : β) (s : σ), P s →
      Ensures E (forAll body l b) s (fun _ s' => Chain T l (abs s) (abs s') ∧ P s')
  | [], b, s, h => by
      simp only [forAll, ensures_pure]
      exact ⟨.nil _, h⟩
  | i :: is, b, s, h => by
      simp only [forAll, ensures_bind]
      exact (hbody i b s h).imp fun b' s' h' =>
        (ensures_forAll_chain hbody is b' s' h'.2).imp fun _ _ h'' => ⟨.cons h'.1 h''.1, h''.2⟩

/-- `forAll` when the turns are told apart by an event `L` of the state they start in: the turns
of the chain are labelled by whether the event happened, and no label is set exactly when it
never did. -/
theorem ensures_forAll_labelled [DecidableEq ι] {L : ι → σ → Prop}
    {T : Prop → ι → A → A → Prop} {body : ι → β → Prog σ ε β}
    (hbody : ∀ i b s, P s →
      Ensures E (body i b) s (fun _ s' => T (L i s) i (abs s) (abs s') ∧ P s')) :
    ∀ (l : List ι) (b : β) (s : σ), l.Nodup → P s →
      Ensures E (forAll body l b) s (fun _ s' => P s' ∧ ∃ lab : ι → Prop,
        Chain (fun i => T (lab i) i) l (abs s) (abs s') ∧
        (Turns body (fun i s => ¬ L i s) l b s ↔ ∀ i ∈ l, ¬ lab i))
  | [], b, s, _, h => by
      simp only [forAll, ensures_pure]
      exact ⟨h, fun _ => False, .nil _, by simp [Turns]⟩
  | i :: is, b, s, hnd, h => by
      simp only [forAll, ensures_bind]
      refine (hbody i b s h).with_ok.imp fun b' s' h' => ?_
      obtain ⟨⟨hT, hP⟩, hrun⟩ := h'
      obtain ⟨hni, hnd⟩ := List.nodup_cons.mp hnd
      refine (ensures_forAll_labelled hbody is b' s' hnd hP).imp fun _ s'' h'' => ?_
      obtain ⟨hP'', lab, hchain, hlab⟩ := h''
      have hagree : ∀ j ∈ is, Function.update lab i (L i s) j = lab j := by
        intro j hj
        have hne : j ≠ i := by
          rintro rfl
          exact hni hj
        rw [Function.update_of_ne hne]
      have hrest : Chain (fun j => T (Function.update lab i (L i s) j) j) is (abs s') (abs s'') :=
        hchain.congr fun j hj => by rw [hagree j hj]
      refine ⟨hP'', Function.update lab i (L i s), .cons ?_ hrest, ?_⟩
      · rw [Function.update_self]
        exact hT
      · simp only [Turns, hrun, hlab, List.forall_mem_cons, Function.update_self]
        refine and_congr_right fun _ => forall₂_congr fun j hj => ?_
        rw [hagree j hj]

end abstraction

/-! ### Runs -/

variable (step : ι → Prog σ ε α)

/-- Execute the calls of a list one after the other, forgetting what they return. -/
def runAll : List ι → Prog σ ε Unit
  | [] => pure ()
  | c :: cs => do
      let _ ← step c
      runAll cs

/-- Every call of the list meets `C` in the state in which it is made. -/
def Admits (C : σ → ι → Prop) : List ι → σ → Prop
  | [], _ => True
  | c :: cs, s => C s c ∧
      match step c s with
      | .ok (_, s') => Admits C cs s'
      | .error _ => True

instance decidableAdmits (C : σ → ι → Prop) [∀ s c, Decidable (C s c)] :
    ∀ (cs : List ι) (s : σ), Decidable (Admits step C cs s)
  | [], _ => isTrue trivial
  | c :: cs, s =>
      match h : step c s with
      | .ok (a, s') =>
          have : Decidable (Admits step C cs s') := decidableAdmits C cs s'
          decidable_of_iff (C s c ∧ Admits step C cs s') (by simp [Admits, h])
      | .error e => decidable_of_iff (C s c) (by simp [Admits, h])

/-- **Invariants over runs.**  What holds before a run and is kept by every admitted call holds
in every state the run reaches, and the run stops only with the faults its calls may stop
with. -/
theorem runAll_invariant {C : σ → ι → Prop} {I : σ → Prop}
    (hstep : ∀ s c, I s → C s c → Ensures E (step c) s (fun _ s' => I s')) :
    ∀ (cs : List ι) (s : σ), I s → Admits step C cs s →
      Ensures E (runAll step cs) s (fun _ s' => I s')
  | [], s, hI, _ => by
      simp only [runAll, ensures_pure]
      exact hI
  | c :: cs, s, hI, hC => by
      simp only [runAll, ensures_bind]
      have hrest : Ensures anyFault (step c) s (fun _ s' => Admits step C cs s') := by
        rw [ensures_anyFault_iff]
        intro a s' e
        have h := hC.2
        rw [e] at h
        exact h
      exact ((hstep s c hI hC.1).and hrest).imp fun _ s' h =>
        runAll_invariant hstep cs s' h.1 h.2

/-- Along a run that keeps an invariant, one condition on the calls follows from another. -/
theorem Admits.imp {C D : σ → ι → Prop} {I : σ → Prop}
    (hstep : ∀ s c, I s → C s c → Ensures anyFault (step c) s fun _ s' => I s')
    (himp : ∀ s c, I s → C s c → D s c) :
    ∀ {cs : List ι} {s : σ}, I s → Admits step C cs s → Admits step D cs s
  | [], _, _, _ => trivial
  | c :: cs, s, hI, ⟨hC, hrest⟩ => by
      have hkept := hstep s c hI hC
      refine ⟨himp s c hI hC, ?_⟩
      cases hrun : step c s with
      | error e => exact trivial
      | ok p =>
          rw [hrun] at hrest
          exact Admits.imp hstep himp (hkept.of_ok hrun) hrest

/-- Two conditions that agree where an invariant holds agree along the runs that keep it. -/
theorem admits_congr {C D : σ → ι → Prop} {I : σ → Prop} (hiff : ∀ s c, I s → (C s c ↔ D s c))
    (hstep : ∀ s c, I s → C s c → Ensures anyFault (step c) s fun _ s' => I s')
    (cs : List ι) (s : σ) (hs : I s) : Admits step C cs s ↔ Admits step D cs s :=
  ⟨Admits.imp step hstep (fun s c h => (hiff s c h).mp) hs,
    Admits.imp step (fun s c h hD => hstep s c h ((hiff s c h).mpr hD))
      (fun s c h => (hiff s c h).mpr) hs⟩

end Prog
