import Agm.Metadata
import Agm.Lib.FirstWins

/-! # The loops of `metadata_remove_dup`

The function removes repeated keys from an array in place: a loop over `i`, in it a loop over `j`,
and in that a loop over `k` that closes the gap.  The loops are run here step by step, on `int`
indices: a step faults when it leaves the array or the range of an `int`.

* `removeDup_eq_firstWins`: what the loops leave is the array in which the first entry of each key
  wins.
* `removeDup_reaches`: step by step they get there, so they end and no step faults. -/

namespace Agm

open FirstWins

/-! ### What the loops compute -/

section result
variable {α κ : Type} [Inhabited α] [DecidableEq κ] (key : α → κ)

@[simp] theorem length_shiftDown (a : List α) (n k : ℕ) : (shiftDown a n k).length = a.length := by
  induction n generalizing a k with
  | zero => rfl
  | succ n ih => rw [shiftDown, ih, List.length_set]

/-- The entry at `k` is overwritten by its successors; the last of them is there twice. -/
theorem shiftDown_eq (p : List α) (y : α) (s t : List α) :
    ∃ z, shiftDown (p ++ y :: (s ++ t)) s.length p.length = p ++ s ++ z :: t := by
  induction s generalizing p y with
  | nil => exact ⟨y, by simp [shiftDown]⟩
  | cons x s ih =>
      obtain ⟨z, hz⟩ := ih (p ++ [x]) x
      refine ⟨z, ?_⟩
      have hread : (p ++ y :: (x :: s ++ t)).getD (p.length + 1) default = x := by simp
      have hset : (p ++ y :: (x :: s ++ t)).set p.length x = p ++ [x] ++ x :: (s ++ t) := by simp
      rw [List.length_cons, shiftDown, hread, hset]
      simpa using hz

/-- The loop over `j` drops the entries with the key of entry `i`. -/
theorem dropDups_eq (p : List α) (x : α) (q s t : List α) (n : ℕ) (hn : s.length ≤ n) :
    ∃ t', dropDups key p.length n (p ++ x :: (q ++ (s ++ t))) (p.length + 1 + q.length + s.length)
        (p.length + 1 + q.length) =
      (p ++ x :: (q ++ ((s.filter fun b => key b ≠ key x) ++ t')),
        p.length + 1 + q.length + (s.filter fun b => key b ≠ key x).length) := by
  induction s generalizing q t n with
  | nil =>
      refine ⟨t, ?_⟩
      cases n with
      | zero => rfl
      | succ n => simp [dropDups]
  | cons y s ih =>
      obtain ⟨n, rfl⟩ : ∃ m, n = m + 1 := ⟨n - 1, by simp at hn; omega⟩
      have hn' : s.length ≤ n := by simpa using hn
      have hlt : p.length + 1 + q.length < p.length + 1 + q.length + (y :: s).length := by simp
      have hi : (p ++ x :: (q ++ (y :: s ++ t))).getD p.length default = x := by simp
      have hj : (p ++ x :: (q ++ (y :: s ++ t))).getD (p.length + 1 + q.length) default = y := by
        have hsplit : p ++ x :: (q ++ (y :: s ++ t)) = (p ++ x :: q) ++ y :: (s ++ t) := by simp
        have hlen : p.length + 1 + q.length = (p ++ x :: q).length := by simp; omega
        rw [hsplit, hlen]
        simp
      rw [dropDups, if_pos hlt, hi, hj]
      by_cases hxy : key x = key y
      · -- the entry goes: its successors move up
        obtain ⟨z, hz⟩ := shiftDown_eq (p ++ x :: q) y s t
        have hshift : shiftDown (p ++ x :: (q ++ (y :: s ++ t)))
            (p.length + 1 + q.length + (y :: s).length - 1 - (p.length + 1 + q.length))
            (p.length + 1 + q.length) = p ++ x :: (q ++ (s ++ z :: t)) := by
          have hgap : p.length + 1 + q.length + (y :: s).length - 1 - (p.length + 1 + q.length) =
              s.length := by simp
          have hlen : p.length + 1 + q.length = (p ++ x :: q).length := by simp; omega
          rw [hgap, hlen]
          simpa using hz
        obtain ⟨t', ht'⟩ := ih q (z :: t) n hn'
        refine ⟨t', ?_⟩
        rw [if_pos hxy, hshift]
        have hcount : p.length + 1 + q.length + (y :: s).length - 1 =
            p.length + 1 + q.length + s.length := by simp
        rw [hcount, ht']
        simp [hxy]
      · -- the entry stays
        obtain ⟨t', ht'⟩ := ih (q ++ [y]) t n hn'
        refine ⟨t', ?_⟩
        have hyx : key y ≠ key x := fun h => hxy h.symm
        have hlen : p.length + 1 + (q ++ [y]).length = p.length + 1 + q.length + 1 := by simp; omega
        have hcount : p.length + 1 + q.length + 1 + s.length =
            p.length + 1 + q.length + (y :: s).length := by simp; omega
        rw [hlen, hcount] at ht'
        rw [if_neg hxy]
        simpa [hyx, Nat.add_assoc, Nat.add_comm 1, Nat.add_comm 2] using ht'

/-- The loop over `i` leaves the first entry of each key. -/
theorem removeDupLoop_eq (n : ℕ) (p s t : List α) (hn : s.length ≤ n) :
    ∃ t', removeDupLoop key n (p ++ (s ++ t)) (p.length + s.length) p.length =
      (p ++ (firstWins key s ++ t'), p.length + (firstWins key s).length) := by
  induction n generalizing p s t with
  | zero =>
      obtain rfl : s = [] := List.length_eq_zero_iff.mp (Nat.le_zero.mp hn)
      exact ⟨t, rfl⟩
  | succ n ih =>
      cases s with
      | nil => exact ⟨t, by simp [removeDupLoop]⟩
      | cons x s =>
          have hlt : p.length < p.length + (x :: s).length := by simp
          obtain ⟨t', ht'⟩ := dropDups_eq key p x [] s t (p.length + (x :: s).length)
            (by simp; omega)
          have hcount : p.length + 1 + ([] : List α).length + s.length =
              p.length + (x :: s).length := by simp; omega
          have hfirst : p.length + 1 + ([] : List α).length = p.length + 1 := rfl
          have hshort : (s.filter fun b => key b ≠ key x).length ≤ n :=
            (List.length_filter_le _ s).trans (by simpa using hn)
          obtain ⟨t'', ht''⟩ := ih (p ++ [x]) (s.filter fun b => key b ≠ key x) t' hshort
          refine ⟨t'', ?_⟩
          rw [hcount, hfirst] at ht'
          rw [removeDupLoop, if_pos hlt]
          simp only [List.nil_append] at ht'
          simp only [List.cons_append, ht']
          have hlen : (p ++ [x]).length = p.length + 1 := by simp
          rw [hlen, List.append_assoc] at ht''
          rw [firstWins_cons]
          simpa [Nat.add_assoc, Nat.add_comm 1] using ht''

/-- The array that `metadata_remove_dup` leaves: the first entry of each key, up to the count. -/
theorem removeDup_eq_firstWins (a : List α) :
    (removeDup key a).1.take (removeDup key a).2 = firstWins key a ∧
      (removeDup key a).2 = (firstWins key a).length := by
  obtain ⟨t, ht⟩ := removeDupLoop_eq key a.length [] a [] le_rfl
  have hrun : removeDup key a = (firstWins key a ++ t, (firstWins key a).length) := by
    simpa [removeDup] using ht
  rw [hrun]
  exact ⟨List.take_left, rfl⟩

end result

/-! ### The loops step by step -/

/-- Where the loops stand. -/
inductive DupPoint where
  | outer (i : ℤ)
  | inner (i j : ℤ)
  | shift (i j k : ℤ)
  | done
deriving DecidableEq, Repr

/-- The array, the local `count` and the place in the code. -/
structure DupConfig (α : Type) where
  arr : List α
  count : ℤ
  point : DupPoint
deriving DecidableEq, Repr

/-- The value of an `int` expression, if it is in the range of an `int`. -/
def int32 (x : ℤ) : Option ℤ := if -2 ^ 31 ≤ x ∧ x < 2 ^ 31 then some x else none

section steps
variable {α κ : Type} [DecidableEq κ] (key : α → κ)

/-- Read an entry, if the index lies inside the array. -/
def entry (a : List α) (i : ℤ) : Option α := if 0 ≤ i then a[i.toNat]? else none

/-- Write an entry, if the index lies inside the array. -/
def store (a : List α) (i : ℤ) (x : α) : Option (List α) :=
  if 0 ≤ i ∧ i < a.length then some (a.set i.toNat x) else none

namespace DupConfig

/-- One step of the loops; `none` is a fault. -/
def step : DupConfig α → Option (DupConfig α)
  | ⟨a, count, .outer i⟩ =>
      if i < count then do
        let j ← int32 (i + 1)
        some ⟨a, count, .inner i j⟩
      else some ⟨a, count, .done⟩
  | ⟨a, count, .inner i j⟩ =>
      if j < count then do
        let x ← entry a i
        let y ← entry a j
        if key x = key y then some ⟨a, count, .shift i j j⟩
        else do
          let j' ← int32 (j + 1)
          some ⟨a, count, .inner i j'⟩
      else do
        let i' ← int32 (i + 1)
        some ⟨a, count, .outer i'⟩
  | ⟨a, count, .shift i j k⟩ => do
      let last ← int32 (count - 1)
      if k < last then do
        let k' ← int32 (k + 1)
        let x ← entry a k'
        let a' ← store a k x
        some ⟨a', count, .shift i j k'⟩
      else do
        -- count--, j-- and the j++ of the loop
        let j' ← int32 (j - 1)
        let j'' ← int32 (j' + 1)
        some ⟨a, last, .inner i j''⟩
  | ⟨a, count, .done⟩ => some ⟨a, count, .done⟩

/-- So many steps; `none` when one of them faults. -/
def run : ℕ → DupConfig α → Option (DupConfig α)
  | 0, c => some c
  | n + 1, c => do
      let c' ← c.step key
      run n c'

/-- The loops get from one configuration to the other. -/
def Reaches (c c' : DupConfig α) : Prop := ∃ n, c.run key n = some c'

variable {key} {c c' c'' : DupConfig α}

theorem Reaches.refl (c : DupConfig α) : Reaches key c c := ⟨0, rfl⟩

theorem Reaches.head (h : c.step key = some c') (hs : Reaches key c' c'') : Reaches key c c'' := by
  obtain ⟨n, hn⟩ := hs
  refine ⟨n + 1, ?_⟩
  rw [run, h]
  exact hn

theorem Reaches.trans (h : Reaches key c c') (h' : Reaches key c' c'') : Reaches key c c'' := by
  obtain ⟨n, hn⟩ := h
  induction n generalizing c with
  | zero =>
      obtain rfl : c = c' := by simpa [run] using hn
      exact h'
  | succ n ih =>
      rw [run] at hn
      obtain ⟨d, hd, hn⟩ := Option.bind_eq_some_iff.mp hn
      exact .head hd (ih hn)

/-- The start of the loops on an array. -/
def start (a : List α) : DupConfig α := ⟨a, a.length, .outer 0⟩

end DupConfig

open DupConfig

theorem int32_natCast {n : ℕ} (h : n < 2 ^ 31) : int32 n = some (n : ℤ) := by
  unfold int32
  rw [if_pos]
  constructor
  · omega
  · exact_mod_cast h

theorem entry_natCast [Inhabited α] {a : List α} {i : ℕ} (h : i < a.length) :
    entry a i = some (a.getD i default) := by
  unfold entry
  rw [if_pos (Int.natCast_nonneg i), Int.toNat_natCast, List.getElem?_eq_getElem h,
    List.getD_eq_getElem _ _ h]

theorem store_natCast {a : List α} {i : ℕ} (h : i < a.length) (x : α) :
    store a i x = some (a.set i x) := by
  unfold store
  rw [if_pos ⟨Int.natCast_nonneg i, by exact_mod_cast h⟩, Int.toNat_natCast]

variable [Inhabited α]

/-- The loop over `k`. -/
theorem reaches_shift {a : List α} {count : ℕ} (i : ℤ) (j n k : ℕ) (hk : k + n + 1 = count)
    (hj : j < count) (hc : count ≤ a.length) (ha : a.length < 2 ^ 31) :
    Reaches key ⟨a, count, .shift i j k⟩ ⟨shiftDown a n k, (count - 1 : ℕ), .inner i j⟩ := by
  have hlast : int32 ((count : ℤ) - 1) = some ((count - 1 : ℕ) : ℤ) := by
    rw [← int32_natCast (by omega)]
    congr 1
    omega
  induction n generalizing a k with
  | zero =>
      have hprev : int32 ((j : ℤ) - 1) = some ((j : ℤ) - 1) := by
        unfold int32
        rw [if_pos]
        omega
      have hnext : int32 ((j : ℤ) - 1 + 1) = some (j : ℤ) := by
        rw [Int.sub_add_cancel]
        exact int32_natCast (by omega)
      have hend : ¬ (k : ℤ) < ((count - 1 : ℕ) : ℤ) := by omega
      refine .head ?_ (.refl _)
      simp only [step, hlast, if_neg hend, hprev, hnext, shiftDown, Option.bind_eq_bind,
        Option.bind_some]
  | succ n ih =>
      have hgo : (k : ℤ) < ((count - 1 : ℕ) : ℤ) := by omega
      have hnext : int32 ((k : ℤ) + 1) = some ((k + 1 : ℕ) : ℤ) := by
        exact_mod_cast int32_natCast (n := k + 1) (by omega)
      have hstep : step key ⟨a, count, .shift i j k⟩ =
          some ⟨a.set k (a.getD (k + 1) default), count, .shift i j (k + 1 : ℕ)⟩ := by
        simp only [step, hlast, hnext, if_pos hgo, entry_natCast (show k + 1 < a.length by omega),
          store_natCast (show k < a.length by omega), Option.bind_eq_bind, Option.bind_some]
      refine .head hstep ?_
      rw [shiftDown]
      apply ih
      · omega
      · rw [List.length_set]
        exact hc
      · rw [List.length_set]
        exact ha

@[simp] theorem length_dropDups (i n : ℕ) (a : List α) (count j : ℕ) :
    (dropDups key i n a count j).1.length = a.length := by
  induction n generalizing a count j with
  | zero => rfl
  | succ n ih =>
      unfold dropDups
      split_ifs
      · rw [ih, length_shiftDown]
      · rw [ih]
      · rfl

theorem dropDups_count_le (i n : ℕ) (a : List α) (count j : ℕ) :
    (dropDups key i n a count j).2 ≤ count := by
  induction n generalizing a count j with
  | zero => exact le_rfl
  | succ n ih =>
      unfold dropDups
      split_ifs
      · exact (ih _ _ _).trans (Nat.sub_le count 1)
      · exact ih _ _ _
      · exact le_rfl

/-- The loop over `j`, up to the next turn of the loop over `i`. -/
theorem reaches_inner {a : List α} {count : ℕ} (i n j : ℕ) (hij : i < j) (hj : j ≤ count)
    (hn : count ≤ j + n) (hc : count ≤ a.length) (ha : a.length < 2 ^ 31) :
    Reaches key ⟨a, count, .inner i j⟩
      ⟨(dropDups key i n a count j).1, ((dropDups key i n a count j).2 : ℕ),
        .outer (i + 1 : ℕ)⟩ := by
  have hout : int32 ((i : ℤ) + 1) = some ((i + 1 : ℕ) : ℤ) := by
    exact_mod_cast int32_natCast (n := i + 1) (by omega)
  induction n generalizing a count j with
  | zero =>
      have hend : ¬ (j : ℤ) < (count : ℤ) := by omega
      refine .head ?_ (.refl _)
      simp only [step, if_neg hend, hout, dropDups, Option.bind_eq_bind, Option.bind_some]
  | succ n ih =>
      unfold dropDups
      by_cases hgo : j < count
      · have hgo' : (j : ℤ) < (count : ℤ) := by exact_mod_cast hgo
        have hx := entry_natCast (show i < a.length by omega)
        have hy := entry_natCast (show j < a.length by omega)
        rw [if_pos hgo]
        by_cases hk : key (a.getD i default) = key (a.getD j default)
        · have hstep : step key ⟨a, count, .inner i j⟩ = some ⟨a, count, .shift i j j⟩ := by
            simp only [step, if_pos hgo', hx, hy, if_pos hk, Option.bind_eq_bind, Option.bind_some]
          have hgap : j + (count - 1 - j) + 1 = count := by omega
          rw [if_pos hk]
          refine (Reaches.head hstep (reaches_shift key i j _ j hgap hgo hc ha)).trans ?_
          apply ih
          · exact hij
          · omega
          · omega
          · rw [length_shiftDown]
            omega
          · rw [length_shiftDown]
            exact ha
        · have hnext : int32 ((j : ℤ) + 1) = some ((j + 1 : ℕ) : ℤ) := by
            exact_mod_cast int32_natCast (n := j + 1) (by omega)
          have hstep : step key ⟨a, count, .inner i j⟩ = some ⟨a, count, .inner i (j + 1 : ℕ)⟩ := by
            simp only [step, if_pos hgo', hx, hy, if_neg hk, hnext, Option.bind_eq_bind,
              Option.bind_some]
          rw [if_neg hk]
          refine .head hstep ?_
          apply ih
          · omega
          · exact hgo
          · omega
          · exact hc
          · exact ha
      · have hend : ¬ (j : ℤ) < (count : ℤ) := by exact_mod_cast hgo
        rw [if_neg hgo]
        refine .head ?_ (.refl _)
        simp only [step, if_neg hend, hout, Option.bind_eq_bind, Option.bind_some]

/-- The loop over `i`. -/
theorem reaches_outer {a : List α} {count : ℕ} (n i : ℕ) (hn : count ≤ i + n)
    (hc : count ≤ a.length) (ha : a.length < 2 ^ 31) :
    Reaches key ⟨a, count, .outer i⟩
      ⟨(removeDupLoop key n a count i).1, ((removeDupLoop key n a count i).2 : ℕ), .done⟩ := by
  induction n generalizing a count i with
  | zero =>
      have hend : ¬ (i : ℤ) < (count : ℤ) := by omega
      refine .head ?_ (.refl _)
      simp only [step, if_neg hend, removeDupLoop]
  | succ n ih =>
      unfold removeDupLoop
      by_cases hgo : i < count
      · have hgo' : (i : ℤ) < (count : ℤ) := by exact_mod_cast hgo
        have hfirst : int32 ((i : ℤ) + 1) = some ((i + 1 : ℕ) : ℤ) := by
          exact_mod_cast int32_natCast (n := i + 1) (by omega)
        have hstep : step key ⟨a, count, .outer i⟩ = some ⟨a, count, .inner i (i + 1 : ℕ)⟩ := by
          simp only [step, if_pos hgo', hfirst, Option.bind_eq_bind, Option.bind_some]
        have hinner : Reaches key ⟨a, count, .inner i (i + 1 : ℕ)⟩ _ :=
          reaches_inner key i count (i + 1) (Nat.lt_succ_self i) hgo (Nat.le_add_left _ _) hc ha
        have hle := dropDups_count_le key i count a count (i + 1)
        rw [if_pos hgo]
        refine (Reaches.head hstep hinner).trans ?_
        apply ih
        · omega
        · rw [length_dropDups]
          omega
        · rw [length_dropDups]
          exact ha
      · have hend : ¬ (i : ℤ) < (count : ℤ) := by exact_mod_cast hgo
        rw [if_neg hgo]
        refine .head ?_ (.refl _)
        simp only [step, if_neg hend]

/-- On an array whose length is in the range of an `int` the loops end, and no step faults. -/
theorem removeDup_reaches (a : List α) (ha : a.length < 2 ^ 31) :
    Reaches key (start a) ⟨(removeDup key a).1, ((removeDup key a).2 : ℕ), .done⟩ :=
  reaches_outer key a.length 0 (Nat.le_add_left _ _) le_rfl ha

end steps

end Agm
