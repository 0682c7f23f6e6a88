import Agm.Lib.Block

/-! # Fields that are assigned one after the other

The members of a C union lie over each other, so that one `Layout` does not do for them.  Here a
struct is the list of its fields with their places, and code that fills it is a list of fields with
the values they get.  What it does not assign keeps the bytes that were there. -/

namespace Block

open Codec

variable {F : Type}

/-- Where a number lies in a block. -/
structure Place where
  offset : ℕ
  width : ℕ
deriving DecidableEq, Repr

namespace Place

/-- The number that lies there. -/
def get (p : Place) (bytes : List UInt8) : ℕ := leAt p.width bytes p.offset

def Apart (p q : Place) : Prop :=
  p.offset + p.width ≤ q.offset ∨ q.offset + q.width ≤ p.offset

instance (p q : Place) : Decidable (p.Apart q) := inferInstanceAs (Decidable (_ ∨ _))

def Within (p : Place) (n : ℕ) : Prop := p.offset + p.width ≤ n

instance (p : Place) (n : ℕ) : Decidable (p.Within n) := inferInstanceAs (Decidable (_ ≤ _))

section store
variable {p q : Place} {bytes : List UInt8} {x : ℕ}

/-- A number stored inside the block. -/
theorem store_run (hp : p.Within bytes.length) :
    ∃ bytes', store p.offset p.width x bytes = some ((), bytes') ∧
      bytes'.length = bytes.length ∧ p.get bytes' = x % 256 ^ p.width ∧
        ∀ q : Place, q.Apart p → q.get bytes' = q.get bytes := by
  have hlen : p.offset + (leBytes p.width (cut p.width x)).length ≤ bytes.length := by
    rw [length_leBytes]
    exact hp
  refine ⟨_, if_pos hp, length_splice hlen, ?_, fun q hq => ?_⟩
  · rw [← cut_natCast]
    exact leAt_splice hp (cut_lt _ _)
  · refine leAt_splice_apart hlen ?_
    rw [length_leBytes]
    exact hq

/-- The number in a copy of the first bytes, with others behind them. -/
theorem get_take_append {n : ℕ} {rest : List UInt8} (hp : p.Within n) (hn : n ≤ bytes.length) :
    p.get (bytes.take n ++ rest) = p.get bytes := by
  have hlen : (bytes.take n).length = n := List.length_take_of_le hn
  conv_rhs => rw [← List.take_append_drop n bytes]
  unfold get
  rw [leAt_append (hlen.symm ▸ hp), leAt_append (hlen.symm ▸ hp)]

/-- Numbers are as good as the bytes that they are read from. -/
theorem getElem?_eq_of_get_eq {bytes' : List UInt8} (hp : p.Within bytes.length)
    (hp' : p.Within bytes'.length) (hget : p.get bytes = p.get bytes') {i : ℕ}
    (hlow : p.offset ≤ i) (hhigh : i < p.offset + p.width) : bytes[i]? = bytes'[i]? := by
  obtain ⟨j, rfl⟩ := Nat.exists_eq_add_of_le hlow
  have hj : ∀ v, j < (leBytes p.width v).length := by
    intro v
    rw [length_leBytes]
    omega
  unfold get at hget
  rw [← List.getElem?_drop, ← List.getElem?_drop, drop_eq_leBytes hp, drop_eq_leBytes hp',
    List.getElem?_append_left (hj _), List.getElem?_append_left (hj _), hget]

end store

end Place

/-- The fields of a struct; no two have the same name or overlap. -/
structure Fields (F : Type) where
  size : ℕ
  fields : List (F × Place)
  names : (fields.map Prod.fst).Nodup
  fits : ∀ f ∈ fields, f.2.Within size
  apart : fields.Pairwise fun f g => f.2.Apart g.2

namespace Fields

variable [DecidableEq F] {S : Fields F}

/-- `p->f = x` for each of the assignments; a field that the struct has not is undefined. -/
def assign (S : Fields F) : List (F × ℕ) → Access Unit
  | [] => pure ()
  | (f, x) :: rest =>
      match S.fields.lookup f with
      | none => fun _ => none
      | some p => do
          store p.offset p.width x
          S.assign rest

theorem lookup_mem {f : F} {p : Place} (h : (f, p) ∈ S.fields) : S.fields.lookup f = some p := by
  obtain ⟨before, rest, hsplit⟩ := List.append_of_mem h
  refine List.lookup_eq_some_iff.mpr ⟨before, rest, hsplit, fun g hg => ?_⟩
  have hnodup := S.names
  rw [hsplit, List.map_append, List.map_cons, List.nodup_middle, List.nodup_cons] at hnodup
  rw [bne_iff_ne]
  rintro rfl
  exact hnodup.1 (List.mem_append_left _ (List.mem_map.mpr ⟨g, hg, rfl⟩))

omit [DecidableEq F] in
theorem apart_of_ne {f g : F × Place} (hf : f ∈ S.fields) (hg : g ∈ S.fields) (hne : f.1 ≠ g.1) :
    f.2.Apart g.2 := by
  have hsymm : Std.Symm fun f g : F × Place => f.2.Apart g.2 := ⟨fun _ _ h => h.symm⟩
  exact S.apart.forall hf hg fun h => hne (congrArg Prod.fst h)

/-- Afterwards the fields have the values that were assigned, cut to their widths, and the others
those that they had. -/
theorem assign_run {bytes : List UInt8} (hsize : S.size ≤ bytes.length)
    {assigned : List (F × ℕ)} (hnodup : (assigned.map Prod.fst).Nodup)
    (hnames : ∀ f ∈ assigned.map Prod.fst, f ∈ S.fields.map Prod.fst) :
    ∃ bytes', S.assign assigned bytes = some ((), bytes') ∧
      bytes'.length = bytes.length ∧ ∀ f ∈ S.fields,
        f.2.get bytes' =
          ((assigned.lookup f.1).map (· % 256 ^ f.2.width)).getD (f.2.get bytes) := by
  induction assigned generalizing bytes with
  | nil => exact ⟨bytes, rfl, rfl, fun _ _ => rfl⟩
  | cons a rest ih =>
      obtain ⟨f, x⟩ := a
      rw [List.map_cons, List.nodup_cons] at hnodup
      obtain ⟨⟨f', p⟩, hf, hsame⟩ := List.mem_map.mp (hnames f List.mem_cons_self)
      obtain rfl : f' = f := hsame
      obtain ⟨mid, hstore, hlen, hval, hother⟩ := Place.store_run (x := x) ((S.fits _ hf).trans hsize)
      obtain ⟨bytes', hrun, hlen', hget⟩ := @ih mid (hlen ▸ hsize) hnodup.2
        fun g hg => hnames g (List.mem_cons_of_mem _ hg)
      refine ⟨bytes', ?_, hlen'.trans hlen, ?_⟩
      · unfold assign
        rw [lookup_mem hf]
        exact (bind_run hstore).trans hrun
      · rintro ⟨g, q⟩ hg
        rw [hget _ hg, List.lookup_cons]
        by_cases heq : g = f'
        · subst heq
          obtain rfl : p = q := Option.some.inj ((lookup_mem hf).symm.trans (lookup_mem hg))
          have hnone : rest.lookup g = none := by
            rw [List.lookup_eq_none_iff]
            rintro b hb
            rw [bne_iff_ne]
            rintro rfl
            exact hnodup.1 (List.mem_map.mpr ⟨b, hb, rfl⟩)
          rw [hnone, beq_self_eq_true]
          exact hval
        · rw [beq_eq_false_iff_ne.mpr heq, hother q (apart_of_ne hg hf heq)]

/-- Every byte of the struct belongs to a field. -/
def Covered (S : Fields F) : Prop :=
  ∀ i < S.size, ∃ f ∈ S.fields, f.2.offset ≤ i ∧ i < f.2.offset + f.2.width

instance (S : Fields F) : Decidable S.Covered :=
  inferInstanceAs (Decidable (∀ i < S.size, ∃ f ∈ S.fields, _))

omit [DecidableEq F] in
/-- Without padding, what the fields say is all that there is. -/
theorem take_eq_of_get_eq {bytes bytes' : List UInt8} (hcovered : S.Covered)
    (hsize : S.size ≤ bytes.length) (hsize' : S.size ≤ bytes'.length)
    (hget : ∀ f ∈ S.fields, f.2.get bytes = f.2.get bytes') :
    bytes.take S.size = bytes'.take S.size := by
  refine List.ext_getElem? fun i => ?_
  rw [List.getElem?_take, List.getElem?_take]
  split_ifs with hi
  · obtain ⟨f, hf, hlow, hhigh⟩ := hcovered i hi
    have hfits := S.fits f hf
    exact Place.getElem?_eq_of_get_eq (hfits.trans hsize) (hfits.trans hsize') (hget f hf) hlow hhigh
  · rfl

end Fields

end Block
