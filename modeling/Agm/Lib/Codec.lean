import Mathlib

/-! # Readers and round trips

A `Reader` takes a value off the front of a list of cells.  `Reads r cells a` says that `r` takes
exactly `cells` off, whatever follows, and yields `a`; readers that run one after the other read
what was written one after the other (`Reads.bind`).

Numbers are written least significant byte first (`leBytes`), and read back by `ofLe`.

`leAt` and `manyAt` read at an offset instead: one number, or entries of one width that follow each
other.  What is read at an offset is what the bytes from there on begin with (`drop_eq_leBytes`,
`drop_eq_flatMap`), and the other way round (`leAt_of_drop`, `manyAt_of_drop`). -/

namespace Codec

/-- Take a value off the front of a list of cells. -/
def Reader (γ α : Type) : Type := List γ → Option (α × List γ)

variable {γ α β : Type}

instance : Monad (Reader γ) where
  pure a := fun l => some (a, l)
  bind r f := fun l =>
    match r l with
    | none => none
    | some (a, l') => f a l'

/-- What is read off a list of cells; the rest is ignored. -/
def Reader.run (r : Reader γ α) (cells : List γ) : Option α := (r cells).map Prod.fst

/-- The reader takes exactly these cells off and yields this value. -/
def Reads (r : Reader γ α) (cells : List γ) (a : α) : Prop :=
  ∀ rest, r (cells ++ rest) = some (a, rest)

theorem Reads.pure (a : α) : Reads (pure a : Reader γ α) [] a := fun _ => rfl

theorem Reads.bind {r : Reader γ α} {f : α → Reader γ β} {l l' : List γ} {a : α} {b : β}
    (hr : Reads r l a) (hf : Reads (f a) l' b) : Reads (r >>= f) (l ++ l') b := by
  intro rest
  show (match r (l ++ l' ++ rest) with | none => none | some (a, l') => f a l') = _
  rw [List.append_assoc, hr (l' ++ rest)]
  exact hf rest

/-- A last reader whose value is only converted. -/
theorem Reads.map {r : Reader γ α} {l : List γ} {a : α} (hr : Reads r l a) (f : α → β) :
    Reads (r >>= fun a => Pure.pure (f a)) l (f a) := by
  have h := hr.bind (f := fun a => Pure.pure (f a)) (Reads.pure (f a))
  rwa [List.append_nil] at h

/-- Cells after the ones a reader takes are ignored. -/
theorem Reads.run {r : Reader γ α} {l : List γ} {a : α} (hr : Reads r l a) (rest : List γ) :
    r.run (l ++ rest) = some a := by
  unfold Reader.run
  rw [hr rest]
  rfl

/-- Nothing is read after a reader that fails. -/
theorem run_bind_none {r : Reader γ α} {f : α → Reader γ β} {l : List γ} (h : r l = none) :
    (r >>= f).run l = none := by
  show Option.map Prod.fst (match r l with
    | none => (none : Option (β × List γ))
    | some (a, l') => f a l') = none
  rw [h]
  rfl

/-! ### Bytes of numbers -/

/-- The `k` low bytes of a number, least significant first. -/
def leBytes : ℕ → ℕ → List UInt8
  | 0, _ => []
  | k + 1, n => UInt8.ofNat (n % 256) :: leBytes k (n / 256)

/-- The number with these bytes. -/
def ofLe : List UInt8 → ℕ
  | [] => 0
  | b :: bs => b.toNat + 256 * ofLe bs

@[simp] theorem length_leBytes (k n : ℕ) : (leBytes k n).length = k := by
  induction k generalizing n with
  | zero => rfl
  | succ k ih => simp only [leBytes, List.length_cons, ih]

theorem ofLe_leBytes (k n : ℕ) (h : n < 256 ^ k) : ofLe (leBytes k n) = n := by
  induction k generalizing n with
  | zero =>
      have : n = 0 := by simpa using h
      rw [this]
      rfl
  | succ k ih =>
      have hdiv : n / 256 < 256 ^ k := by
        rw [Nat.div_lt_iff_lt_mul (by decide), ← Nat.pow_succ]
        exact h
      have hbyte : (UInt8.ofNat (n % 256)).toNat = n % 256 :=
        UInt8.toNat_ofNat_of_lt' (Nat.mod_lt n (by decide))
      rw [leBytes, ofLe, ih _ hdiv, hbyte]
      omega

theorem ofLe_lt (l : List UInt8) : ofLe l < 256 ^ l.length := by
  induction l with
  | nil => exact Nat.one_pos
  | cons b l ih =>
      have hb : b.toNat < 256 := b.toNat_lt
      rw [ofLe, List.length_cons, Nat.pow_succ]
      omega

theorem leBytes_ofLe (l : List UInt8) : leBytes l.length (ofLe l) = l := by
  induction l with
  | nil => rfl
  | cons b l ih =>
      have hb : b.toNat < 256 := b.toNat_lt
      have hlow : (b.toNat + 256 * ofLe l) % 256 = b.toNat := by omega
      have hhigh : (b.toNat + 256 * ofLe l) / 256 = ofLe l := by omega
      rw [ofLe, List.length_cons, leBytes, hlow, hhigh, ih, UInt8.ofNat_toNat]

theorem ofLe_append (l l' : List UInt8) : ofLe (l ++ l') = ofLe l + 256 ^ l.length * ofLe l' := by
  induction l with
  | nil => rw [List.nil_append, ofLe, List.length_nil, Nat.pow_zero, Nat.one_mul, Nat.zero_add]
  | cons b l ih =>
      rw [List.cons_append, ofLe, ofLe, ih, List.length_cons, Nat.pow_succ', Nat.mul_add,
        Nat.mul_assoc, Nat.add_assoc]

/-! ### Reading at an offset -/

/-- The number in the `k` bytes at an offset. -/
def leAt (k : ℕ) (buf : List UInt8) (off : ℕ) : ℕ := ofLe ((buf.drop off).take k)

/-- Entries that follow each other, each `width` bytes after the one before. -/
def manyAt (f : ℕ → α) (width : ℕ) : ℕ → ℕ → List α
  | _, 0 => []
  | off, n + 1 => f off :: manyAt f width (off + width) n

section offsets
variable {k width off n : ℕ} {buf rest : List UInt8}

theorem length_leAt (h : off + k ≤ buf.length) : ((buf.drop off).take k).length = k := by
  rw [List.length_take, List.length_drop]
  omega

theorem leAt_lt (h : off + k ≤ buf.length) : leAt k buf off < 256 ^ k := by
  have hlt := ofLe_lt ((buf.drop off).take k)
  rwa [length_leAt h] at hlt

/-- From an offset on, the bytes begin with those of the number there. -/
theorem drop_eq_leBytes (h : off + k ≤ buf.length) :
    buf.drop off = leBytes k (leAt k buf off) ++ buf.drop (off + k) := by
  have hbytes := leBytes_ofLe ((buf.drop off).take k)
  rw [length_leAt h] at hbytes
  rw [leAt, hbytes, ← List.drop_drop, List.take_append_drop]

/-- A number and the one right behind it, read as one. -/
theorem leAt_add {j : ℕ} (h : off + j ≤ buf.length) :
    leAt (j + k) buf off = leAt j buf off + 256 ^ j * leAt k buf (off + j) := by
  rw [leAt, List.take_add, ofLe_append, length_leAt h, List.drop_drop]
  rfl

theorem leAt_of_drop (h : buf.drop off = leBytes k n ++ rest) (hn : n < 256 ^ k) :
    leAt k buf off = n := by
  have htake : (leBytes k n ++ rest).take k = leBytes k n := by
    have hlen := length_leBytes k n
    rw [List.take_append_of_le_length (Nat.le_of_eq hlen.symm),
      List.take_of_length_le (Nat.le_of_eq hlen)]
  rw [leAt, h, htake, ofLe_leBytes k n hn]

/-- Bytes that follow make no difference. -/
theorem leAt_append (h : off + k ≤ buf.length) : leAt k (buf ++ rest) off = leAt k buf off := by
  have hlen : k ≤ (buf.drop off).length := by
    rw [List.length_drop]
    omega
  rw [leAt, leAt, List.drop_append_of_le_length (by omega), List.take_append_of_le_length hlen]

@[simp] theorem length_manyAt (f : ℕ → α) : (manyAt f width off n).length = n := by
  induction n generalizing off with
  | zero => rfl
  | succ n ih => rw [manyAt, List.length_cons, ih]

theorem forall_mem_manyAt {f : ℕ → α} {P : α → Prop}
    (h : ∀ i, i + width ≤ off + width * n → P (f i)) : ∀ a ∈ manyAt f width off n, P a := by
  induction n generalizing off with
  | zero => nofun
  | succ n ih =>
      rw [manyAt, List.forall_mem_cons]
      refine ⟨h off (by rw [Nat.mul_succ]; omega), ih fun i hi => h i ?_⟩
      rw [Nat.mul_succ]
      omega

theorem manyAt_congr {f g : ℕ → α} (h : ∀ i, off ≤ i → i + width ≤ off + width * n → f i = g i) :
    manyAt f width off n = manyAt g width off n := by
  induction n generalizing off with
  | zero => rfl
  | succ n ih =>
      rw [manyAt, manyAt, h off (Nat.le_refl off) (by rw [Nat.mul_succ]; omega), ih]
      intro i hi hle
      exact h i (by omega) (by rw [Nat.mul_succ]; omega)

/-- From an offset on, the bytes begin with those of the entries there. -/
theorem drop_eq_flatMap {f : ℕ → α} {enc : α → List UInt8}
    (hf : ∀ i, i + width ≤ buf.length → buf.drop i = enc (f i) ++ buf.drop (i + width))
    (h : off + width * n ≤ buf.length) :
    buf.drop off = (manyAt f width off n).flatMap enc ++ buf.drop (off + width * n) := by
  induction n generalizing off with
  | zero => simp [manyAt]
  | succ n ih =>
      rw [Nat.mul_succ] at h
      have hnext : off + width + width * n = off + width * (n + 1) := by
        rw [Nat.mul_succ]
        omega
      rw [hf off (by omega), ih (by omega), manyAt, List.flatMap_cons, List.append_assoc, hnext]

theorem manyAt_of_drop {f : ℕ → α} {enc : α → List UInt8} {l : List α}
    (hf : ∀ a ∈ l, ∀ i rest, buf.drop i = enc a ++ rest → f i = a)
    (hwidth : ∀ a ∈ l, (enc a).length = width) (h : buf.drop off = l.flatMap enc ++ rest) :
    manyAt f width off l.length = l := by
  induction l generalizing off with
  | nil => rfl
  | cons a l ih =>
      obtain ⟨hfa, hfl⟩ := List.forall_mem_cons.mp hf
      obtain ⟨hwa, hwl⟩ := List.forall_mem_cons.mp hwidth
      rw [List.flatMap_cons, List.append_assoc] at h
      have hnext : buf.drop (off + width) = l.flatMap enc ++ rest := by
        rw [← List.drop_drop, h, ← hwa, List.drop_left]
      rw [List.length_cons, manyAt, hfa off _ h, ih hfl hwl hnext]

theorem length_flatMap_enc {enc : α → List UInt8} (l : List α)
    (hwidth : ∀ a ∈ l, (enc a).length = width) : (l.flatMap enc).length = width * l.length := by
  induction l with
  | nil => rfl
  | cons a l ih =>
      obtain ⟨hwa, hwl⟩ := List.forall_mem_cons.mp hwidth
      rw [List.flatMap_cons, List.length_append, hwa, ih hwl, List.length_cons, Nat.mul_succ]
      omega

end offsets

end Codec
