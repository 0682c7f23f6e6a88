import Agm.Lib.Block

/-! # Arrays in a block

Structs that lie at equal distances in a block, and the loops that fill and read them.

* `Layout.array`: the layout of an array of structs, each `stride` bytes after the one before; the
  distance may be larger than the struct.
* `visit`, `gather`: the loops over the elements, the second with a list of results.
* `Fills.visit`: the rule of invariants for a loop that fills a block; `gather_eq`: a loop of reads
  returns what each of them does. -/

namespace Block

open Codec

variable {α β F G H : Type}

/-! ### Layouts -/

/-- The distance of two elements of an array is a multiple of the stride. -/
theorem stride_le (stride : ℕ) {i j : ℕ} (h : i < j) : stride * i + stride ≤ stride * j := by
  rw [← Nat.mul_succ]
  exact Nat.mul_le_mul_left stride h

namespace Layout

/-- `n` structs, each `stride` bytes after the one before. -/
def array (L : Layout F) (stride n : ℕ) (h : L.size ≤ stride) : Layout (Fin n × F) where
  size := stride * n
  offset f := stride * f.1 + L.offset f.2
  width f := L.width f.2
  width_pos f := L.width_pos f.2
  fits f := by
    have hnext := stride_le stride f.1.isLt
    have hfits := L.fits f.2
    omega
  apart f g hne := by
    have hf := L.fits f.2
    have hg := L.fits g.2
    rcases lt_trichotomy f.1 g.1 with hlt | heq | hgt
    · have hnext := stride_le stride (show (f.1 : ℕ) < g.1 from hlt)
      left
      omega
    · have hfields : f.2 ≠ g.2 := fun h => hne (Prod.ext heq h)
      rw [heq]
      rcases L.apart f.2 g.2 hfields with h | h <;> [left; right] <;> omega
    · have hnext := stride_le stride (show (g.1 : ℕ) < f.1 from hgt)
      right
      omega

/-- The struct with unused bytes behind it. -/
def padded (L : Layout F) (size : ℕ) (h : L.size ≤ size) : Layout F :=
  { L with
    size := size
    fits := fun f => (L.fits f).trans h }

theorem Placed.padded (L : Layout F) (size : ℕ) (h : L.size ≤ size) :
    L.Placed 0 (L.padded size h) id :=
  ⟨fun _ => (Nat.zero_add _).symm, fun _ => rfl⟩

/-- A struct in a struct in a block. -/
theorem Placed.trans {L : Layout F} {M : Layout G} {W : Layout H} {base off : ℕ} {e : F → G}
    {e' : G → H} (h : L.Placed off M e) (h' : M.Placed base W e') :
    L.Placed (base + off) W (e' ∘ e) where
  offset f := by rw [Function.comp_apply, h'.offset, h.offset, Nat.add_assoc]
  width f := by rw [Function.comp_apply, h'.width, h.width]

theorem Placed.item (L : Layout F) {stride n : ℕ} (h : L.size ≤ stride) (i : Fin n) :
    L.Placed (stride * i) (L.array stride n h) (Prod.mk i) :=
  ⟨fun _ => rfl, fun _ => rfl⟩

/-- A field inside the block is read without leaving it. -/
theorem read_eq {L : Layout F} {W : Layout G} {base : ℕ} {e : F → G} (hp : L.Placed base W e)
    {bytes : List UInt8} (h : W.size ≤ bytes.length) (f : F) :
    L.read base f bytes = some (W.get bytes (e f), bytes) := by
  have hfits := W.fits (e f)
  rw [hp.offset, hp.width] at hfits
  rw [get, hp.offset, hp.width]
  exact if_pos (by omega)

end Layout

/-! ### Loops -/

/-- `for (i = ..; ..; i++)` over the elements of a list. -/
def visit (body : ℕ → β → Access Unit) : ℕ → List β → Access Unit
  | _, [] => pure ()
  | i, b :: l => do
      body i b
      visit body (i + 1) l

/-- A loop of `k` turns with a result for each. -/
def gather (body : ℕ → Access β) : ℕ → ℕ → Access (List β)
  | _, 0 => pure []
  | i, k + 1 => do
      let b ← body i
      let l ← gather body (i + 1) k
      pure (b :: l)

section loops
variable {W : Layout G} {n : ℕ}

/-- A loop over a list keeps an invariant that each turn keeps. -/
theorem Fills.visit {body : ℕ → β → Access Unit} (l : List β) (I : ℕ → (G → ℕ) → Prop)
    (hbody : ∀ i v, (h : i < l.length) → I i v →
      Fills W n (body i (l.get ⟨i, h⟩)) v fun _ => I (i + 1)) :
    ∀ {v}, I 0 v → Fills W n (visit body 0 l) v fun _ => I l.length := by
  suffices h : ∀ (rest done : List β) (v : G → ℕ), done ++ rest = l → I done.length v →
      Fills W n (Block.visit body done.length rest) v fun _ => I l.length from
    fun {v} h0 => h l [] v rfl h0
  intro rest
  induction rest with
  | nil =>
      intro done v hl hI
      rw [List.append_nil] at hl
      exact .pure (hl ▸ hI)
  | cons b rest ih =>
      intro done v hl hI
      have hlt : done.length < l.length := by
        rw [← hl, List.length_append, List.length_cons]
        omega
      have hget : l.get ⟨done.length, hlt⟩ = b := by
        simp only [← hl, List.get_eq_getElem, List.getElem_append_right (Nat.le_refl _),
          Nat.sub_self, List.getElem_cons_zero]
      have hturn := hbody done.length v hlt hI
      rw [hget] at hturn
      refine Fills.bind hturn fun _ v' hv' => ?_
      have hrest := ih (done ++ [b]) v' (by rw [List.append_assoc, List.singleton_append, hl])
        (by rw [List.length_append]; exact hv')
      rwa [List.length_append] at hrest

/-- A loop of reads. -/
theorem gather_eq {body : ℕ → Access β} {bytes : List UInt8} {f : ℕ → β} {i k : ℕ}
    (h : ∀ j, i ≤ j → j < i + k → body j bytes = some (f j, bytes)) :
    gather body i k bytes = some ((List.range' i k).map f, bytes) := by
  induction k generalizing i with
  | zero => rfl
  | succ k ih =>
      have hrest := ih (i := i + 1) fun j hj hlt => h j (by omega) (by omega)
      show (body i bytes).bind (fun p => (gather body (i + 1) k p.2).bind
        fun q => some (p.1 :: q.1, q.2)) = _
      rw [h i (Nat.le_refl i) (by omega), Option.bind_some, hrest]
      rfl

end loops

end Block
