import Mathlib.Data.Nat.Bitwise
import Mathlib.Logic.Function.Basic
import Mathlib.Tactic.Positivity
import Mathlib.Tactic.Ring
import Agm.Lib.Codec

/-! # One block of memory

C code that fills a buffer stores numbers into the fields of structs that lie one after the other
in it.

* An `Access` runs on the bytes of one block and is undefined (`none`) once it reads or writes
  outside of them.
* A `Layout` says where the fields of a struct lie; two structs in a row are again a layout
  (`Layout.append`), and `Placed` says that a struct lies somewhere in a larger one.
* `Fills` is the judgement on code that fills a block: it stays inside, and its postcondition
  speaks of the values of the fields, on which a store acts as `Function.update`. -/

namespace Block

open Codec

variable {α β F G H : Type}

/-! ### Bytes -/

/-- The bytes with those from an offset on replaced. -/
def splice (bytes new : List UInt8) (off : ℕ) : List UInt8 :=
  bytes.take off ++ new ++ bytes.drop (off + new.length)

section splice
variable {bytes new : List UInt8} {off off' k : ℕ}

theorem length_splice (h : off + new.length ≤ bytes.length) :
    (splice bytes new off).length = bytes.length := by
  rw [splice, List.length_append, List.length_append, List.length_take, List.length_drop]
  omega

theorem take_splice (h : off + new.length ≤ bytes.length) :
    (splice bytes new off).take off = bytes.take off := by
  have hlen : (bytes.take off).length = off := by
    rw [List.length_take]
    omega
  rw [splice, List.append_assoc, List.take_append_of_le_length (Nat.le_of_eq hlen.symm),
    List.take_of_length_le (Nat.le_of_eq hlen)]

theorem drop_splice (h : off + new.length ≤ bytes.length) :
    (splice bytes new off).drop off = new ++ bytes.drop (off + new.length) := by
  have hlen : (bytes.take off).length = off := by
    rw [List.length_take]
    omega
  rw [splice, List.append_assoc, List.drop_append, hlen, Nat.sub_self, List.drop_zero,
    List.drop_of_length_le (Nat.le_of_eq hlen), List.nil_append]

theorem splice_nil : splice bytes [] off = bytes := by
  rw [splice, List.append_nil, List.length_nil, Nat.add_zero, List.take_append_drop]

theorem splice_splice {new' : List UInt8} (h : off + new.length ≤ bytes.length) :
    splice (splice bytes new off) new' (off + new.length) = splice bytes (new ++ new') off := by
  have htake : (splice bytes new off).take (off + new.length) = bytes.take off ++ new := by
    rw [splice]
    refine List.take_left' ?_
    rw [List.length_append, List.length_take]
    omega
  have hdrop : (splice bytes new off).drop (off + new.length) = bytes.drop (off + new.length) := by
    rw [splice]
    refine List.drop_left' ?_
    rw [List.length_append, List.length_take]
    omega
  conv_lhs => rw [splice]
  rw [htake, ← List.drop_drop, hdrop, List.drop_drop, splice, List.length_append, Nat.add_assoc]
  simp only [List.append_assoc]

theorem leAt_splice {v : ℕ} (h : off + k ≤ bytes.length) (hv : v < 256 ^ k) :
    leAt k (splice bytes (leBytes k v) off) off = v := by
  apply leAt_of_drop (drop_splice _) hv
  rw [length_leBytes]
  exact h

/-- What lies apart from the bytes replaced stays. -/
theorem leAt_splice_apart (h : off + new.length ≤ bytes.length)
    (hapart : off' + k ≤ off ∨ off + new.length ≤ off') :
    leAt k (splice bytes new off) off' = leAt k bytes off' := by
  unfold leAt
  rcases hapart with hbefore | hafter
  · have htake := congrArg (List.drop off' ∘ List.take (off' + k)) (take_splice h)
    simp only [Function.comp_apply, List.take_take, Nat.min_eq_left hbefore] at htake
    rw [List.drop_take, List.drop_take, Nat.add_sub_cancel_left] at htake
    exact congrArg ofLe htake
  · have hdrop := congrArg (List.drop (off' - off)) (drop_splice h)
    rw [List.drop_drop, Nat.add_sub_cancel' (by omega), List.drop_append,
      List.drop_of_length_le (show new.length ≤ off' - off by omega), List.nil_append,
      List.drop_drop,
      show off + new.length + (off' - off - new.length) = off' by omega] at hdrop
    rw [hdrop]

end splice

/-! ### Accesses -/

/-- Code that accesses one block of memory, given by its bytes; `none` stands for an access that is
not inside the block. -/
abbrev Access (α : Type) : Type := StateT (List UInt8) Option α

/-- Code runs on from what its first part returns. -/
theorem bind_run {m : Access β} {k : β → Access α} {bytes bytes' : List UInt8} {b : β}
    (h : m bytes = some (b, bytes')) : (m >>= k) bytes = k b bytes' := by
  show (m bytes).bind (fun p => k p.1 p.2) = _
  rw [h]
  rfl

/-- The part of a number that fits into so many bytes. -/
def cut (width : ℕ) (x : ℤ) : ℕ := (x % 256 ^ width).toNat

theorem cut_lt (width : ℕ) (x : ℤ) : cut width x < 256 ^ width := by
  have hpos : (0 : ℤ) < 256 ^ width := by positivity
  rw [cut, Int.toNat_lt (Int.emod_nonneg _ (ne_of_gt hpos))]
  exact_mod_cast Int.emod_lt_of_pos x hpos

theorem cut_natCast (width n : ℕ) : cut width n = n % 256 ^ width := by
  rw [cut, ← Int.toNat_natCast (n % 256 ^ width)]
  push_cast
  rfl

/-- A number is stored as its lowest bytes. -/
def store (off width : ℕ) (v : ℤ) : Access Unit := fun bytes =>
  if off + width ≤ bytes.length then some ((), splice bytes (leBytes width (cut width v)) off)
  else none

def load (off width : ℕ) : Access ℕ := fun bytes =>
  if off + width ≤ bytes.length then some (leAt width bytes off, bytes) else none

/-- Bytes stored one after the other. -/
def storeBytes : ℕ → List UInt8 → Access Unit
  | _, [] => pure ()
  | off, byte :: rest => do
      store off 1 byte.toNat
      storeBytes (off + 1) rest

theorem leBytes_byte (byte : UInt8) : leBytes 1 (cut 1 byte.toNat) = [byte] := by
  have hlt : byte.toNat < 256 := byte.toNat_lt
  rw [cut_natCast, Nat.pow_one, Nat.mod_eq_of_lt hlt]
  show [UInt8.ofNat (byte.toNat % 256)] = [byte]
  rw [Nat.mod_eq_of_lt hlt, UInt8.ofNat_toNat]

/-- Storing bytes inside the block replaces those that were there. -/
theorem storeBytes_eq {bytes new : List UInt8} {off : ℕ} (h : off + new.length ≤ bytes.length) :
    storeBytes off new bytes = some ((), splice bytes new off) := by
  induction new generalizing off bytes with
  | nil => rw [splice_nil]; rfl
  | cons byte rest ih =>
      rw [List.length_cons] at h
      have hin : off + 1 ≤ bytes.length := by omega
      show (store off 1 byte.toNat bytes).bind (fun p => storeBytes (off + 1) rest p.2) = _
      rw [store, if_pos hin, leBytes_byte]
      show storeBytes (off + 1) rest (splice bytes [byte] off) = _
      rw [ih (by rw [length_splice hin]; omega)]
      exact congrArg (fun l => some ((), l)) (splice_splice hin)

/-- Any other store of bytes is undefined. -/
theorem storeBytes_eq_none {bytes new : List UInt8} {off : ℕ} (hnew : new ≠ [])
    (h : bytes.length < off + new.length) : storeBytes off new bytes = none := by
  induction new generalizing off bytes with
  | nil => exact absurd rfl hnew
  | cons byte rest ih =>
      rw [List.length_cons] at h
      show (store off 1 byte.toNat bytes).bind (fun p => storeBytes (off + 1) rest p.2) = none
      rw [store]
      split
      case isFalse => rfl
      case isTrue hin =>
        rw [leBytes_byte]
        refine ih ?_ (by rw [length_splice hin]; omega)
        rintro rfl
        rw [List.length_nil] at h
        omega

/-! ### Structs -/

/-- Where the fields of a struct lie. -/
structure Layout (F : Type) where
  size : ℕ
  offset : F → ℕ
  width : F → ℕ
  width_pos : ∀ f, 0 < width f
  fits : ∀ f, offset f + width f ≤ size
  apart : ∀ f g, f ≠ g → offset f + width f ≤ offset g ∨ offset g + width g ≤ offset f

namespace Layout

theorem size_pos (L : Layout F) (f : F) : 0 < L.size :=
  lt_of_lt_of_le (Nat.add_pos_right _ (L.width_pos f)) (L.fits f)

/-- A struct with another one after it. -/
def append (L : Layout F) (M : Layout G) : Layout (F ⊕ G) where
  size := L.size + M.size
  offset := Sum.elim L.offset fun g => L.size + M.offset g
  width := Sum.elim L.width M.width
  width_pos
    | .inl f => L.width_pos f
    | .inr g => M.width_pos g
  fits
    | .inl f => Nat.le_add_right_of_le (L.fits f)
    | .inr g => by
        have hfits := M.fits g
        simp only [Sum.elim_inr]
        omega
  apart
    | .inl f, .inl f', hne => L.apart f f' fun h => hne (congrArg Sum.inl h)
    | .inl f, .inr g, _ => .inl (by
        have hfits := L.fits f
        simp only [Sum.elim_inl, Sum.elim_inr]
        omega)
    | .inr g, .inl f, _ => .inr (by
        have hfits := L.fits f
        simp only [Sum.elim_inl, Sum.elim_inr]
        omega)
    | .inr g, .inr g', hne => by
        have hapart := M.apart g g' fun h => hne (congrArg Sum.inr h)
        simp only [Sum.elim_inr]
        omega

@[simp] theorem size_append (L : Layout F) (M : Layout G) :
    (L.append M).size = L.size + M.size := rfl

/-- The value of a field of the struct at the start of the block. -/
def get (L : Layout F) (bytes : List UInt8) (f : F) : ℕ := leAt (L.width f) bytes (L.offset f)

theorem get_lt (L : Layout F) {bytes : List UInt8} (h : L.size ≤ bytes.length) (f : F) :
    L.get bytes f < 256 ^ L.width f :=
  leAt_lt (Nat.le_trans (L.fits f) h)

/-- `p->f = v`, where `p` points to the struct at `base`. -/
def set (L : Layout F) (base : ℕ) (f : F) (v : ℤ) : Access Unit :=
  store (base + L.offset f) (L.width f) v

/-- The value of `p->f`, where `p` points to the struct at `base`. -/
def read (L : Layout F) (base : ℕ) (f : F) : Access ℕ := load (base + L.offset f) (L.width f)

/-- The struct lies at `base` in a larger one, where its fields have other names. -/
structure Placed (L : Layout F) (base : ℕ) (W : Layout G) (e : F → G) : Prop where
  offset : ∀ f, W.offset (e f) = base + L.offset f
  width : ∀ f, W.width (e f) = L.width f

theorem Placed.left (L : Layout F) (M : Layout G) : Placed L 0 (L.append M) Sum.inl :=
  ⟨fun _ => (Nat.zero_add _).symm, fun _ => rfl⟩

theorem Placed.right (L : Layout F) (M : Layout G) : Placed M L.size (L.append M) Sum.inr :=
  ⟨fun _ => rfl, fun _ => rfl⟩

theorem Placed.append {L : Layout F} {base : ℕ} {W : Layout G} {e : F → G} (h : Placed L base W e)
    (M : Layout H) : Placed L base (W.append M) (Sum.inl ∘ e) :=
  ⟨h.offset, h.width⟩

/-- A store into a field changes the value of that field only. -/
theorem get_splice [DecidableEq F] (L : Layout F) {bytes : List UInt8} (h : L.size ≤ bytes.length)
    (f : F) {v : ℕ} (hv : v < 256 ^ L.width f) :
    L.get (splice bytes (leBytes (L.width f) v) (L.offset f)) =
      Function.update (L.get bytes) f v := by
  have hin : L.offset f + L.width f ≤ bytes.length := Nat.le_trans (L.fits f) h
  funext g
  rcases eq_or_ne g f with rfl | hne
  · rw [Function.update_self]
    exact leAt_splice hin hv
  · have hapart := L.apart g f hne
    rw [Function.update_of_ne hne]
    exact leAt_splice_apart (by rw [length_leBytes]; exact hin) (by rw [length_leBytes]; exact hapart)

end Layout

/-! ### The size of a block -/

/-- The code leaves a block as long as it was. -/
def Steady (m : Access α) : Prop :=
  ∀ bytes a bytes', m bytes = some (a, bytes') → bytes'.length = bytes.length

theorem Steady.pure (a : α) : Steady (pure a) := by
  rintro bytes _ _ ⟨⟩
  rfl

theorem Steady.bind {m : Access β} {k : β → Access α} (hm : Steady m) (hk : ∀ b, Steady (k b)) :
    Steady (m >>= k) := by
  intro bytes a bytes' h
  obtain ⟨⟨b, mid⟩, hrun, hrest⟩ := Option.bind_eq_some_iff.mp h
  rw [hk b _ _ _ hrest, hm _ _ _ hrun]

theorem Steady.set (L : Layout F) (base : ℕ) (f : F) (x : ℤ) : Steady (L.set base f x) := by
  intro bytes a bytes' h
  unfold Layout.set store at h
  split at h
  case isFalse => cases h
  case isTrue hin =>
    cases h
    exact length_splice (by rw [length_leBytes]; exact hin)

/-! ### Filling a block -/

/-- On every block of `n` bytes whose fields have the values `v` the code stays inside the block,
and it leaves fields with values as `Q` says. -/
def Fills (W : Layout G) (n : ℕ) (m : Access α) (v : G → ℕ) (Q : α → (G → ℕ) → Prop) : Prop :=
  ∀ bytes, bytes.length = n → W.get bytes = v →
    ∃ a bytes', m bytes = some (a, bytes') ∧ bytes'.length = n ∧ Q a (W.get bytes')

section Fills
variable {W : Layout G} {n : ℕ} {v : G → ℕ} {Q : α → (G → ℕ) → Prop}

theorem Fills.pure {a : α} (h : Q a v) : Fills W n (pure a) v Q :=
  fun bytes hlen hget => ⟨a, bytes, rfl, hlen, by rwa [hget]⟩

theorem Fills.mono {m : Access α} {Q' : α → (G → ℕ) → Prop} (h : Fills W n m v Q)
    (hQ : ∀ a v', Q a v' → Q' a v') : Fills W n m v Q' := by
  intro bytes hlen hget
  obtain ⟨a, bytes', hrun, hlen', hpost⟩ := h bytes hlen hget
  exact ⟨a, bytes', hrun, hlen', hQ _ _ hpost⟩

theorem Fills.bind {m : Access β} {k : β → Access α} {R : β → (G → ℕ) → Prop}
    (hm : Fills W n m v R) (hk : ∀ b v', R b v' → Fills W n (k b) v' Q) :
    Fills W n (m >>= k) v Q := by
  intro bytes hlen hget
  obtain ⟨b, bytes', hrun, hlen', hmid⟩ := hm bytes hlen hget
  obtain ⟨a, bytes'', hrest, hpost⟩ := hk b _ hmid bytes' hlen' rfl
  refine ⟨a, bytes'', ?_, hpost⟩
  show (m bytes).bind (fun p => k p.1 p.2) = _
  rw [hrun]
  exact hrest

/-- After a store the field has the value stored, cut to the width of the field. -/
theorem Fills.set [DecidableEq G] {L : Layout F} {base : ℕ} {e : F → G} {k : Unit → Access α}
    {f : F} {x : ℤ} (hp : L.Placed base W e) (hn : W.size ≤ n)
    (hk : Fills W n (k ()) (Function.update v (e f) (cut (L.width f) x)) Q) :
    Fills W n (L.set base f x >>= k) v Q := by
  intro bytes hlen hget
  have hin : base + L.offset f + L.width f ≤ bytes.length := by
    have hfits := W.fits (e f)
    rw [hp.offset, hp.width] at hfits
    omega
  have hstore : L.set base f x bytes =
      some ((), splice bytes (leBytes (L.width f) (cut (L.width f) x)) (base + L.offset f)) :=
    if_pos hin
  have hset := W.get_splice (show W.size ≤ bytes.length by omega) (e f)
    (v := cut (L.width f) x) (by rw [hp.width]; exact cut_lt _ x)
  rw [hp.offset, hp.width, hget] at hset
  obtain ⟨a, bytes', hrun, hpost⟩ := hk _ (by
    rw [length_splice (by rw [length_leBytes]; exact hin), hlen]) hset
  refine ⟨a, bytes', ?_, hpost⟩
  show (L.set base f x bytes).bind (fun p => k p.1 p.2) = _
  rw [hstore]
  exact hrun

/-- The last store of a block. -/
theorem Fills.last [DecidableEq G] {L : Layout F} {base : ℕ} {e : F → G} {f : F} {x : ℤ}
    (hp : L.Placed base W e) (hn : W.size ≤ n) :
    Fills W n (L.set base f x) v fun _ v' =>
      v' = Function.update v (e f) (cut (L.width f) x) := by
  rw [← bind_pure (L.set base f x)]
  exact .set hp hn (.pure rfl)

theorem Fills.read {L : Layout F} {base : ℕ} {e : F → G} {k : ℕ → Access α} {f : F}
    (hp : L.Placed base W e) (hn : W.size ≤ n) (hk : Fills W n (k (v (e f))) v Q) :
    Fills W n (L.read base f >>= k) v Q := by
  intro bytes hlen hget
  have hin : base + L.offset f + L.width f ≤ bytes.length := by
    have hfits := W.fits (e f)
    rw [hp.offset, hp.width] at hfits
    omega
  have hload : L.read base f bytes = some (v (e f), bytes) := by
    rw [← hget, Layout.get, hp.offset, hp.width]
    exact if_pos hin
  obtain ⟨a, bytes', hrun, hpost⟩ := hk bytes hlen hget
  refine ⟨a, bytes', ?_, hpost⟩
  show (L.read base f bytes).bind (fun p => k p.1 p.2) = _
  rw [hload]
  exact hrun

/-- Bytes stored behind the struct leave its fields alone. -/
theorem Fills.storeBytes {off : ℕ} {new : List UInt8} (hoff : W.size ≤ off)
    (hn : off + new.length ≤ n) : Fills W n (storeBytes off new) v fun _ v' => v' = v := by
  intro bytes hlen hget
  have hin : off + new.length ≤ bytes.length := by omega
  refine ⟨(), splice bytes new off, storeBytes_eq hin, by rw [length_splice hin, hlen], ?_⟩
  rw [← hget]
  funext g
  have hfits := W.fits g
  exact leAt_splice_apart hin (.inl (by omega))

end Fills

/-! ### Sizes -/

/-- The size of a request that `calloc` can serve is at most `PTRDIFF_MAX`; which of these it
serves is open. -/
structure Heap (sizeBits : ℕ) where
  serves : ℕ → Bool
  refuses : ∀ n, 2 ^ (sizeBits - 1) ≤ n → serves n = false

/-- The heap that serves every request that can be served. -/
def Heap.ample (sizeBits : ℕ) : Heap sizeBits where
  serves n := decide (n < 2 ^ (sizeBits - 1))
  refuses _ h := decide_eq_false (Nat.not_lt.mpr h)

/-- The value of an integer as an unsigned number of so many bits. -/
def unsigned (bits : ℕ) (x : ℤ) : ℕ := (x % 2 ^ bits).toNat

/-- Adding to an unsigned number wraps as adding before the conversion does. -/
theorem unsigned_add (bits : ℕ) (x : ℤ) (k : ℕ) :
    (unsigned bits x + k) % 2 ^ bits = unsigned bits (x + k) := by
  have hpos : (0 : ℤ) < 2 ^ bits := by positivity
  have hcast : ((unsigned bits x : ℕ) : ℤ) = x % 2 ^ bits :=
    Int.toNat_of_nonneg (Int.emod_nonneg _ (ne_of_gt hpos))
  apply Int.ofNat.inj
  show (((unsigned bits x + k) % 2 ^ bits : ℕ) : ℤ) = ((x + k) % 2 ^ bits).toNat
  rw [Int.toNat_of_nonneg (Int.emod_nonneg _ (ne_of_gt hpos))]
  push_cast
  rw [hcast, Int.emod_add_emod]

theorem unsigned_lt (bits : ℕ) (x : ℤ) : unsigned bits x < 2 ^ bits := by
  have hpos : (0 : ℤ) < 2 ^ bits := by positivity
  rw [unsigned, Int.toNat_lt (Int.emod_nonneg _ (ne_of_gt hpos))]
  exact_mod_cast Int.emod_lt_of_pos x hpos

theorem unsigned_natCast (bits n : ℕ) : unsigned bits n = n % 2 ^ bits := by
  rw [unsigned, ← Int.toNat_natCast (n % 2 ^ bits)]
  push_cast
  rfl

/-- A `uint32_t` fits into a field of four bytes. -/
theorem cut_unsigned (x : ℤ) : cut 4 (unsigned 32 x) = unsigned 32 x := by
  rw [cut_natCast]
  exact Nat.mod_eq_of_lt (unsigned_lt 32 x)

theorem unsigned_of_neg {bits k : ℕ} (hpos : 0 < k) (hk : k ≤ 2 ^ bits) :
    unsigned bits (-k) = 2 ^ bits - k := by
  have hmod : (-k : ℤ) % 2 ^ bits = ((2 ^ bits - k : ℕ) : ℤ) := by
    rw [← Int.add_emod_right, Nat.cast_sub hk]
    push_cast
    rw [show (-k + 2 ^ bits : ℤ) = 2 ^ bits - k by ring]
    exact Int.emod_eq_of_lt (by have : (k : ℤ) ≤ 2 ^ bits := by exact_mod_cast hk
                                omega) (by omega)
  rw [unsigned, hmod, Int.toNat_natCast]

/-- The mask that clears the low bits rounds down. -/
theorem and_clear_low {bits k y : ℕ} (hk : k ≤ bits) (hy : y < 2 ^ bits) :
    y &&& (2 ^ bits - 1 - (2 ^ k - 1)) = y / 2 ^ k * 2 ^ k := by
  have hle : 2 ^ k ≤ 2 ^ bits := Nat.pow_le_pow_right (by decide) hk
  have hpos : 0 < 2 ^ k := Nat.pow_pos (by decide)
  have hmask : 2 ^ bits - 1 - (2 ^ k - 1) = 2 ^ bits - (2 ^ k - 1 + 1) := by omega
  rw [hmask, Nat.mul_comm]
  apply Nat.eq_of_testBit_eq
  intro i
  rw [Nat.testBit_and, Nat.testBit_two_pow_sub_succ (by omega), Nat.testBit_two_pow_sub_one,
    Nat.testBit_two_pow_mul, Nat.testBit_div_two_pow]
  rcases Nat.lt_or_ge i k with hlow | hhigh
  · simp [hlow, Nat.not_le.mpr hlow]
  · rw [Nat.sub_add_cancel hhigh]
    rcases Nat.lt_or_ge i bits with hin | hout
    · simp [hhigh, hin, Nat.not_lt.mpr hhigh]
    · have hzero : y.testBit i = false :=
        Nat.testBit_lt_two_pow (lt_of_lt_of_le hy (Nat.pow_le_pow_right (by decide) hout))
      simp [hzero]

end Block
