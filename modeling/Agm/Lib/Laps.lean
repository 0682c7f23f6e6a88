import Mathlib.Data.Nat.ModEq

/-! # Laps around a ring

An unbounded counter `t` is seen only as its place in a ring of `total` cells, rounded down to a
multiple of `period`.  `lap total t` is the part of `t` made of whole turns and `place period
total t` the rounded rest.

* `lap_add_place`: together they are `t` rounded down to a multiple of `period`.
* `place_le_of_same_lap`, `place_lt_of_next_lap`: over an advance of at most `total - period`, a
  turn was completed exactly when the place got smaller.
* `mod_lap_next`: the whole turns modulo a multiple of `total`.
* `mod_gap`: the distance of two counters, seen from their places. -/

namespace Laps

/-- The whole turns of the counter. -/
def lap (total t : ℕ) : ℕ := total * (t / total)

/-- The place in the ring, rounded down to a multiple of `period`. -/
def place (period total t : ℕ) : ℕ := period * (t % total / period)

variable {period total boundary t t' : ℕ}

theorem lap_add_place (h : period ∣ total) (hp : 0 < period) :
    lap total t + place period total t = period * (t / period) := by
  obtain ⟨k, rfl⟩ := h
  have hsplit : t / period = k * (t / (period * k)) + t % (period * k) / period := by
    conv_lhs => rw [← Nat.div_add_mod t (period * k)]
    rw [Nat.mul_assoc, Nat.mul_add_div hp]
  rw [lap, place, hsplit, Nat.mul_add, Nat.mul_assoc]

theorem place_lt (ht : 0 < total) : place period total t < total :=
  lt_of_le_of_lt (Nat.mul_div_le _ _) (Nat.mod_lt t ht)

/-- An advance of less than a turn ends in the same lap or in the next. -/
theorem lap_cases (ht : 0 < total) (hle : t ≤ t') (hlt : t' < t + total) :
    t' / total = t / total ∨ t' / total = t / total + 1 := by
  have h1 : t / total ≤ t' / total := Nat.div_le_div_right hle
  have h2 : t' / total ≤ (t + total) / total := Nat.div_le_div_right hlt.le
  rw [Nat.add_div_right t ht] at h2
  omega

theorem place_le_of_same_lap (hlap : t' / total = t / total) (hle : t ≤ t') :
    place period total t ≤ place period total t' := by
  refine Nat.mul_le_mul_left _ (Nat.div_le_div_right ?_)
  have h := Nat.div_add_mod t total
  have h' := Nat.div_add_mod t' total
  rw [hlap] at h'
  omega

/-- Completing a turn within `total - period` cells leaves the place at least one period
behind. -/
theorem place_lt_of_next_lap (hp : 0 < period) (hpt : period ≤ total)
    (hlap : t' / total = t / total + 1) (hadv : t' ≤ t + (total - period)) :
    place period total t' < place period total t := by
  have h := Nat.div_add_mod t total
  have h' := Nat.div_add_mod t' total
  rw [hlap, Nat.mul_add, Nat.mul_one] at h'
  have hback : t' % total + period ≤ t % total := by omega
  have hdiv : t' % total / period + 1 ≤ t % total / period := by
    rw [← Nat.add_div_right _ hp]
    exact Nat.div_le_div_right hback
  exact Nat.mul_lt_mul_of_pos_left hdiv hp

/-- A place added to whole turns stays below the next turn, also modulo a multiple of `total`. -/
theorem mod_lap_add (hb : total ∣ boundary) (hpos : 0 < boundary) {r : ℕ} (hr : r < total) :
    lap total t % boundary + r = (lap total t + r) % boundary := by
  obtain ⟨k, rfl⟩ := hb
  have hk : 0 < k := Nat.pos_of_mul_pos_left hpos
  have hmod : lap total t % (total * k) = total * (t / total % k) := Nat.mul_mod_mul_left _ _ _
  have hlt : t / total % k + 1 ≤ k := Nat.mod_lt _ hk
  have hbound : total * (t / total % k) + r < total * k := by
    have := Nat.mul_le_mul_left total hlt
    rw [Nat.mul_add, Nat.mul_one] at this
    omega
  rw [Nat.add_mod, Nat.mod_eq_of_lt (a := r) (by omega), hmod, Nat.mod_eq_of_lt hbound]

theorem mod_lap_lt (hb : total ∣ boundary) (hpos : 0 < boundary) :
    lap total t % boundary + total ≤ boundary := by
  obtain ⟨k, rfl⟩ := hb
  have hk : 0 < k := Nat.pos_of_mul_pos_left hpos
  have hmod : lap total t % (total * k) = total * (t / total % k) := Nat.mul_mod_mul_left _ _ _
  have hlt : t / total % k + 1 ≤ k := Nat.mod_lt _ hk
  have := Nat.mul_le_mul_left total hlt
  rw [Nat.mul_add, Nat.mul_one] at this
  omega

/-- One more turn modulo the boundary: the base goes up by `total` and falls back to zero at the
boundary. -/
theorem mod_lap_next (hb : total ∣ boundary) (hpos : 0 < boundary)
    (hlap : t' / total = t / total + 1) :
    lap total t' % boundary =
      if boundary ≤ lap total t % boundary + total then 0 else lap total t % boundary + total := by
  have hle := mod_lap_lt (t := t) hb hpos
  have hnext : lap total t' = lap total t + total := by
    rw [lap, lap, hlap, Nat.mul_add, Nat.mul_one]
  rw [hnext, ← Nat.mod_add_mod]
  split_ifs with h
  · rw [le_antisymm hle h, Nat.mod_self]
  · exact Nat.mod_eq_of_lt (not_le.mp h)

theorem dvd_mod_lap (hb : total ∣ boundary) : total ∣ lap total t % boundary :=
  (Nat.dvd_mod_iff hb).mpr (Nat.dvd_mul_right _ _)

/-- Two counters less than a turn apart: the places differ by as much, or by a turn less. -/
theorem mod_gap (hle : t ≤ t') (hlt : t' < t + boundary) :
    t' % boundary = t % boundary + (t' - t) ∨
      t' % boundary + boundary = t % boundary + (t' - t) := by
  have hpos : 0 < boundary := by omega
  have hsum : t' = t + (t' - t) := by omega
  have hgap : (t' - t) % boundary = t' - t := Nat.mod_eq_of_lt (by omega)
  have hmod : t' % boundary = (t % boundary + (t' - t)) % boundary := by
    conv_lhs => rw [hsum, Nat.add_mod, hgap]
  have hplace : t % boundary < boundary := Nat.mod_lt t hpos
  rcases Nat.lt_or_ge (t % boundary + (t' - t)) boundary with hin | hout
  · left
    rw [hmod, Nat.mod_eq_of_lt hin]
  · right
    rw [hmod, Nat.mod_eq_sub_mod hout, Nat.mod_eq_of_lt (by omega)]
    omega

end Laps
