import Mathlib.Data.List.Basic

/-! # Lists in which the first entry of a key wins

`firstWins key l` keeps, of the entries with one key, the first one.  The laws are those that
merging lists one after the other needs:

* `firstWins_append`: what comes later adds the entries with new keys;
* `firstWins_absorb`, `firstWins_again`: removing duplicates early, or repeating entries whose keys
  are there already, makes no difference;
* `firstWins_map`: a change of the entries that leaves their keys alone commutes with it. -/

namespace FirstWins

variable {α κ : Type*} [DecidableEq κ] (key : α → κ)

/-- Of the entries with one key, the first one. -/
def firstWins (l : List α) : List α := l.eraseDupsBy fun a b => decide (key a = key b)

@[simp] theorem firstWins_nil : firstWins key [] = [] := rfl

theorem firstWins_cons (a : α) (l : List α) :
    firstWins key (a :: l) = a :: firstWins key (l.filter fun b => key b ≠ key a) := by
  simp [firstWins, List.eraseDupsBy_cons]

/-- Entries can be dropped by their key before or after. -/
theorem firstWins_filter (p : κ → Bool) : ∀ l : List α,
    firstWins key (l.filter fun b => p (key b)) = (firstWins key l).filter fun b => p (key b)
  | [] => rfl
  | a :: l => by
      have hrest := firstWins_filter p (l.filter fun b => key b ≠ key a)
      rw [List.filter_filter] at hrest
      rw [firstWins_cons, List.filter_cons, List.filter_cons]
      by_cases ha : p (key a) = true
      · rw [if_pos ha, if_pos ha, firstWins_cons, List.filter_filter, ← hrest]
        simp only [Bool.and_comm]
      · rw [if_neg ha, if_neg ha, ← hrest]
        congr 1
        refine List.filter_congr fun b _ => ?_
        by_cases hb : key b = key a
        · rw [hb]
          simp [ha]
        · simp [hb]
termination_by l => l.length
decreasing_by exact Nat.lt_succ_of_le (List.length_filter_le _ _)

theorem firstWins_sublist (l : List α) : (firstWins key l).Sublist l := by
  induction l with
  | nil => exact List.Sublist.refl _
  | cons a l ih =>
      have hrest := firstWins_filter key (fun c => decide (c ≠ key a)) l
      rw [firstWins_cons, hrest]
      exact (List.filter_sublist.trans ih).cons_cons a

/-- No key is lost. -/
theorem mem_keys_firstWins (k : κ) (l : List α) :
    k ∈ (firstWins key l).map key ↔ k ∈ l.map key := by
  induction l with
  | nil => rfl
  | cons a l ih =>
      have hrest := firstWins_filter key (fun c => decide (c ≠ key a)) l
      rw [firstWins_cons, hrest, List.map_cons, List.map_cons, List.mem_cons, List.mem_cons, ← ih]
      by_cases hk : k = key a
      · simp [hk]
      · simp only [hk, false_or, List.mem_map, List.mem_filter, decide_eq_true_eq]
        constructor
        · rintro ⟨b, ⟨hb, -⟩, rfl⟩
          exact ⟨b, hb, rfl⟩
        · rintro ⟨b, hb, rfl⟩
          exact ⟨b, ⟨hb, hk⟩, rfl⟩

/-- What comes later adds the entries with new keys. -/
theorem firstWins_append : ∀ l m : List α,
    firstWins key (l ++ m) =
      firstWins key l ++ firstWins key (m.filter fun b => key b ∉ l.map key)
  | [], m => by simp
  | a :: l, m => by
      rw [List.cons_append, firstWins_cons, firstWins_cons, List.filter_append,
        firstWins_append, List.cons_append, List.filter_filter]
      congr 3
      refine List.filter_congr fun b _ => ?_
      by_cases hb : key b = key a
      · simp [hb]
      · have hkeys : (∀ x ∈ l, key x ≠ key a → key x ≠ key b) ↔ ∀ x ∈ l, key x ≠ key b :=
          forall₂_congr fun x _ =>
            ⟨fun h he => h (fun hx => hb (he.symm.trans hx)) he, fun h _ => h⟩
        simpa [hb, List.mem_filter] using hkeys
termination_by l => l.length
decreasing_by exact Nat.lt_succ_of_le (List.length_filter_le _ _)

/-- Entries whose keys are there already make no difference. -/
theorem firstWins_again (l m n : List α) (h : ∀ a ∈ m, key a ∈ l.map key) :
    firstWins key (l ++ (m ++ n)) = firstWins key (l ++ n) := by
  have hm : m.filter (fun b => key b ∉ l.map key) = [] := by
    rw [List.filter_eq_nil_iff]
    intro a ha
    simpa using h a ha
  rw [firstWins_append, firstWins_append, List.filter_append, hm, List.nil_append]

theorem firstWins_idem (l : List α) : firstWins key (firstWins key l) = firstWins key l := by
  induction l with
  | nil => rfl
  | cons a l ih =>
      have hrest := firstWins_filter key (fun c => decide (c ≠ key a)) l
      rw [firstWins_cons, hrest, firstWins_cons, firstWins_filter key (fun c => decide (c ≠ key a)),
        firstWins_filter key (fun c => decide (c ≠ key a)), ih, List.filter_filter]
      simp

/-- Removing duplicates early makes no difference. -/
theorem firstWins_absorb (l m : List α) :
    firstWins key (firstWins key l ++ m) = firstWins key (l ++ m) := by
  rw [firstWins_append, firstWins_append, firstWins_idem]
  simp only [mem_keys_firstWins]

/-- A change of the entries that leaves their keys alone. -/
theorem firstWins_map (f : α → α) (hf : ∀ a, key (f a) = key a) (l : List α) :
    firstWins key (l.map f) = (firstWins key l).map f := by
  induction l with
  | nil => rfl
  | cons a l ih =>
      have hrest := firstWins_filter key (fun c => decide (c ≠ key a))
      rw [List.map_cons, firstWins_cons, firstWins_cons, List.map_cons, hrest l, hf, hrest, ih,
        List.filter_map]
      congr 3
      funext b
      simp [hf]

end FirstWins
