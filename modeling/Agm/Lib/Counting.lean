import Mathlib

/-! # Counting the entries of a family of lists

`pairCount pool rows p` is the number of entries with `p` in the lists `rows k`, over the keys
`k` of a pool.  The lemmas say how it moves when one entry of one list is replaced, when lists
grow by entries without `p`, and when keys are added. -/

section
variable {κ ρ : Type} [DecidableEq κ]

/-- The entries with `p` in the lists of a pool of keys. -/
def pairCount (pool : List κ) (rows : κ → List ρ) (p : ρ → Bool) : ℕ :=
  ∑ k ∈ pool.toFinset, (rows k).countP p

/-- One list, one entry. -/
theorem countP_modify_add (p : ρ → Bool) (f : ρ → ρ) :
    ∀ (l : List ρ) (i : ℕ) (h : i < l.length),
      (l.modify i f).countP p + (if p l[i] then 1 else 0) =
        l.countP p + (if p (f l[i]) then 1 else 0)
  | [], i, h => by simp at h
  | a :: l, 0, h => by
      simp only [List.modify_zero_cons, List.countP_cons, List.getElem_cons_zero]
      omega
  | a :: l, i + 1, h => by
      have ih := countP_modify_add p f l i (by simpa using h)
      simp only [List.modify_succ_cons, List.countP_cons, List.getElem_cons_succ]
      omega

/-- Counts that agree list by list. -/
theorem pairCount_congr {pool : List κ} {rows rows' : κ → List ρ} {p : ρ → Bool}
    (h : ∀ k ∈ pool, (rows' k).countP p = (rows k).countP p) :
    pairCount pool rows' p = pairCount pool rows p :=
  Finset.sum_congr rfl fun k hk => h k (List.mem_toFinset.mp hk)

/-- New keys with nothing to count do not count. -/
theorem pairCount_grow {pool pool' : List κ} {rows rows' : κ → List ρ} {p : ρ → Bool}
    (hsub : ∀ k ∈ pool, k ∈ pool') (h : ∀ k ∈ pool, (rows' k).countP p = (rows k).countP p)
    (hnew : ∀ k ∈ pool', k ∉ pool → (rows' k).countP p = 0) :
    pairCount pool' rows' p = pairCount pool rows p := by
  have hss : pool.toFinset ⊆ pool'.toFinset := by
    intro k hk
    exact List.mem_toFinset.mpr (hsub k (List.mem_toFinset.mp hk))
  calc pairCount pool' rows' p
      = ∑ k ∈ pool.toFinset, (rows' k).countP p := by
        refine (Finset.sum_subset hss fun k hk hn => ?_).symm
        exact hnew k (List.mem_toFinset.mp hk) fun h => hn (List.mem_toFinset.mpr h)
    _ = pairCount pool rows p := pairCount_congr h

/-- Replacing one list of the family. -/
theorem pairCount_update {pool : List κ} {rows : κ → List ρ} {p : ρ → Bool} {k : κ}
    (hk : k ∈ pool) (l : List ρ) :
    pairCount pool (Function.update rows k l) p + (rows k).countP p =
      pairCount pool rows p + l.countP p := by
  have hk' : k ∈ pool.toFinset := List.mem_toFinset.mpr hk
  unfold pairCount
  rw [← Finset.add_sum_erase _ _ hk', ← Finset.add_sum_erase _ (fun k => (rows k).countP p) hk']
  have hrest : ∑ j ∈ pool.toFinset.erase k, (Function.update rows k l j).countP p =
      ∑ j ∈ pool.toFinset.erase k, (rows j).countP p := by
    refine Finset.sum_congr rfl fun j hj => ?_
    rw [Function.update_of_ne (Finset.ne_of_mem_erase hj)]
  rw [hrest, Function.update_self]
  omega

/-- Replacing one entry of one list. -/
theorem pairCount_modify {pool : List κ} {rows : κ → List ρ} {p : ρ → Bool} {k : κ} {i : ℕ}
    (hk : k ∈ pool) (hi : i < (rows k).length) (f : ρ → ρ) :
    pairCount pool (Function.update rows k ((rows k).modify i f)) p +
        (if p (rows k)[i] then 1 else 0) =
      pairCount pool rows p + (if p (f (rows k)[i]) then 1 else 0) := by
  have hsum : pairCount pool (Function.update rows k ((rows k).modify i f)) p +
      (rows k).countP p = pairCount pool rows p + ((rows k).modify i f).countP p :=
    pairCount_update hk _
  have hone := countP_modify_add p f (rows k) i hi
  omega

theorem pairCount_pos {pool : List κ} {rows : κ → List ρ} {p : ρ → Bool} {k : κ} {r : ρ}
    (hk : k ∈ pool) (hr : r ∈ rows k) (hp : p r = true) : 0 < pairCount pool rows p := by
  have hone : 0 < (rows k).countP p := List.countP_pos_iff.mpr ⟨r, hr, hp⟩
  refine lt_of_lt_of_le hone ?_
  exact Finset.single_le_sum (f := fun k => (rows k).countP p) (fun _ _ => Nat.zero_le _)
    (List.mem_toFinset.mpr hk)

end
