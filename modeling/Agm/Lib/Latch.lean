import Mathlib

/-! # A register that keeps its value

A loop reads a value for every element of a list into one register, and an element that has no
value leaves the register as it was.  `latched own p v l` are the elements at which the register,
`v` at the start, meets `p`.

Two such loops with different tests select equally many elements when the tests agree on the values
that occur (`latched_length_eq_iff`).  The elements selected are those whose own value meets the
test when every element without a value comes behind one that fails it (`latched_length_filter_iff`
and `latched_eq_filter`). -/

section latch
variable {α β : Type} {own : α → Option β} {p q : β → Bool} {v : β} {a : α} {l : List α}

/-- The elements at which the register meets `p`. -/
def latched (own : α → Option β) (p : β → Bool) : β → List α → List α
  | _, [] => []
  | v, a :: l =>
      if p ((own a).getD v) then a :: latched own p ((own a).getD v) l
      else latched own p ((own a).getD v) l

theorem latched_cons_of_pos (h : p ((own a).getD v) = true) :
    latched own p v (a :: l) = a :: latched own p ((own a).getD v) l := if_pos h

theorem latched_cons_of_neg (h : p ((own a).getD v) = false) :
    latched own p v (a :: l) = latched own p ((own a).getD v) l := if_neg (by simp [h])

/-- A weaker test selects no fewer elements. -/
theorem latched_length_le (h : ∀ w, p w = true → q w = true) :
    (latched own p v l).length ≤ (latched own q v l).length := by
  induction l generalizing v with
  | nil => exact le_rfl
  | cons a l ih =>
      cases hp : p ((own a).getD v) with
      | true =>
          rw [latched_cons_of_pos hp, latched_cons_of_pos (h _ hp)]
          exact Nat.succ_le_succ ih
      | false =>
          rw [latched_cons_of_neg hp]
          cases hq : q ((own a).getD v) with
          | true =>
              rw [latched_cons_of_pos hq]
              exact Nat.le_succ_of_le ih
          | false =>
              rw [latched_cons_of_neg hq]
              exact ih

/-- Two tests select equally many elements when they agree on the values of the elements. -/
theorem latched_length_eq_iff (h : ∀ w, p w = true → q w = true) (hv : p v = q v) :
    (latched own p v l).length = (latched own q v l).length ↔
      ∀ a ∈ l, ∀ x ∈ own a, p x = q x := by
  induction l generalizing v with
  | nil => exact ⟨fun _ _ ha => absurd ha List.not_mem_nil, fun _ => rfl⟩
  | cons a l ih =>
      rw [List.forall_mem_cons]
      have hown : (∀ x ∈ own a, p x = q x) ↔ p ((own a).getD v) = q ((own a).getD v) := by
        cases own a with
        | none => exact ⟨fun _ => hv, fun _ _ hx => nomatch hx⟩
        | some x =>
            refine ⟨fun hx => hx x rfl, fun hx y hy => ?_⟩
            obtain rfl : x = y := Option.some.inj hy
            exact hx
      rw [hown]
      cases hp : p ((own a).getD v) with
      | true =>
          have hq := h _ hp
          rw [latched_cons_of_pos hp, latched_cons_of_pos hq, List.length_cons, List.length_cons,
            Nat.succ_inj, ih (hp.trans hq.symm)]
          exact ⟨fun hl => ⟨hq.symm, hl⟩, And.right⟩
      | false =>
          rw [latched_cons_of_neg hp]
          cases hq : q ((own a).getD v) with
          | true =>
              have hle : (latched own p ((own a).getD v) l).length ≤ _ := latched_length_le h
              rw [latched_cons_of_pos hq, List.length_cons]
              exact ⟨fun he => absurd he (by omega), fun hf => absurd hf.1 (by decide)⟩
          | false =>
              rw [latched_cons_of_neg hq, ih (hp.trans hq.symm)]
              exact ⟨fun hl => ⟨rfl, hl⟩, And.right⟩

/-- What holds where a list is split, for a list that has a head. -/
theorem forall_split_cons {Q : List α → α → Prop} :
    (∀ pre b post, a :: l = pre ++ b :: post → Q pre b) ↔
      Q [] a ∧ ∀ pre b post, l = pre ++ b :: post → Q (a :: pre) b := by
  constructor
  · intro h
    exact ⟨h [] a l rfl, fun pre b post e => h (a :: pre) b post (congrArg (a :: ·) e)⟩
  · rintro ⟨hhead, htail⟩ pre b post e
    cases pre with
    | nil =>
        obtain ⟨rfl, rfl⟩ := List.cons.inj e
        exact hhead
    | cons c pre =>
        obtain ⟨rfl, hl⟩ := List.cons.inj e
        exact htail pre b post hl

theorem getLast?_filterMap_cons :
    ((a :: l).filterMap own).getLast?.getD v =
      (l.filterMap own).getLast?.getD ((own a).getD v) := by
  cases h : own a with
  | none => rw [List.filterMap_cons_none h, Option.getD_none]
  | some x => rw [List.filterMap_cons_some h, List.getLast?_cons, Option.getD_some, Option.getD_some]

/-- Selecting by the own value selects no more elements. -/
theorem length_filter_le_latched :
    (l.filter fun a => (own a).any p).length ≤ (latched own p v l).length := by
  induction l generalizing v with
  | nil => exact le_rfl
  | cons a l ih =>
      have hle : (l.filter fun a => (own a).any p).length ≤
          (latched own p ((own a).getD v) l).length := ih
      cases hp : p ((own a).getD v) with
      | true =>
          rw [latched_cons_of_pos hp, List.filter_cons, List.length_cons]
          split_ifs
          · exact Nat.succ_le_succ hle
          · exact Nat.le_succ_of_le hle
      | false =>
          have hany : (own a).any p = false := by
            cases ha : own a with
            | none => rfl
            | some x =>
                rw [ha] at hp
                exact hp
          rw [latched_cons_of_neg hp, List.filter_cons, hany]
          exact hle

/-- Equally many elements are selected by the own value when the register fails the test at every
element without a value. -/
theorem latched_length_filter_iff :
    (latched own p v l).length = (l.filter fun a => (own a).any p).length ↔
      ∀ pre a post, l = pre ++ a :: post → own a = none →
        p ((pre.filterMap own).getLast?.getD v) = false := by
  induction l generalizing v with
  | nil => exact ⟨fun _ pre a post e => absurd e (by simp), fun _ => rfl⟩
  | cons a l ih =>
      rw [forall_split_cons]
      simp only [getLast?_filterMap_cons]
      rw [← ih]
      cases ha : own a with
      | some x =>
          rw [List.filter_cons, ha, Option.any_some]
          cases hp : p x with
          | true =>
              rw [latched_cons_of_pos (by rw [ha]; exact hp), ha, if_pos rfl, List.length_cons,
                List.length_cons, Nat.succ_inj]
              exact ⟨fun h => ⟨fun hx => absurd hx (Option.some_ne_none x), h⟩, And.right⟩
          | false =>
              rw [latched_cons_of_neg (by rw [ha]; exact hp), ha, if_neg (by decide)]
              exact ⟨fun h => ⟨fun hx => absurd hx (Option.some_ne_none x), h⟩, And.right⟩
      | none =>
          rw [List.filter_cons, ha, Option.any_none, if_neg (by decide), List.filterMap_nil,
            List.getLast?_nil, Option.getD_none]
          cases hp : p v with
          | true =>
              have hle : (l.filter fun a => (own a).any p).length ≤ (latched own p v l).length :=
                length_filter_le_latched
              rw [latched_cons_of_pos (by rw [ha]; exact hp), ha, List.length_cons,
                Option.getD_none]
              exact ⟨fun he => absurd he (by omega), fun hf => absurd (hf.1 rfl) (by decide)⟩
          | false =>
              rw [latched_cons_of_neg (by rw [ha]; exact hp), ha, Option.getD_none]
              exact ⟨fun h => ⟨fun _ => rfl, h⟩, And.right⟩

/-- In that case they are the same elements. -/
theorem latched_eq_filter
    (h : ∀ pre a post, l = pre ++ a :: post → own a = none →
      p ((pre.filterMap own).getLast?.getD v) = false) :
    latched own p v l = l.filter fun a => (own a).any p := by
  induction l generalizing v with
  | nil => rfl
  | cons a l ih =>
      rw [forall_split_cons] at h
      simp only [getLast?_filterMap_cons] at h
      obtain ⟨hhead, htail⟩ := h
      have hany : p ((own a).getD v) = (own a).any p := by
        cases ha : own a with
        | none => exact hhead ha
        | some x => rfl
      rw [List.filter_cons, ← hany, ← ih htail]
      rfl

end latch
