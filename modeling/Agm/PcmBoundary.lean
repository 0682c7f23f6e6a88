import Agm.PcmAvail

/-! # The loop that computes the boundary (`agm_pcm_hw_params`, `agm_pcm_mmap`)

`agm_pcm_hw_params` takes the geometry from the intervals of the parameters, `agm_pcm_mmap` doubles
the number of frames as long as twice of it leaves room for one more buffer below `0x7fffffff`.
Neither looks at the geometry: the loop relies on `agm_pcm_constrs`, which tinyalsa applies before
it calls `agm_pcm_hw_params`.

`boundary_terminates`: the loop ends exactly if the frames are between 1 and `0x7fffffff`, with the
last doubling that fits; every geometry that `agm_pcm_constrs` admits is such. -/

namespace Agm

/-! ### The parameters -/

/-- The parameters that are intervals, `SNDRV_PCM_HW_PARAM_SAMPLE_BITS` and so on. -/
inductive IntervalParam where
  | sampleBits | frameBits | channels | rate | periodTime | periodSize | periodBytes | periods
  | bufferTime | bufferSize | bufferBytes | tickTime
deriving DecidableEq, Repr

/-- What the plugin reads of `struct snd_interval`. -/
structure SndInterval where
  max : UInt32
  integer : Bool
deriving DecidableEq, Repr

/-- `struct snd_pcm_hw_params`, with the format that its mask selects. -/
structure SndPcmHwParams where
  format : PcmFormat
  intervals : IntervalParam → SndInterval

/-- `param_get_int`, for a parameter that is an interval. -/
def paramGetInt (p : SndPcmHwParams) (n : IntervalParam) : ℕ :=
  let i := p.intervals n
  if i.integer then i.max.toNat else 0

/-- The geometry that `agm_pcm_hw_params` stores. -/
def agmPcmHwParams (params : SndPcmHwParams) : PcmParams where
  channels := paramGetInt params .channels
  format := params.format
  periods := paramGetInt params .periods
  periodSize := paramGetInt params .periodSize

/-! ### The purpose of the loop -/

/-- Another buffer fits behind `total` doubled `k` times. -/
def RoomLeft (total k : ℕ) : Prop := (total * 2 ^ k : ℤ) ≤ 0x7fffffff - total

/-- `k` is the largest exponent that fits, or 0 if none does. -/
def LastDoubling (total k : ℕ) : Prop :=
  IsGreatest {j | RoomLeft total j} k ∨ k = 0 ∧ ∀ j, ¬ RoomLeft total j

/-- The loop of `agm_pcm_mmap` ends, with the last doubling. -/
structure BoundaryRight (total : ℕ) : Prop where
  ends : ∃ result, BoundaryEnds total total result
  result : ∀ result, BoundaryEnds total total result →
    ∃ k, result = total * 2 ^ k ∧ LastDoubling total k

section loop
variable {total : ℕ}

theorem RoomLeft.mono {j k : ℕ} (hjk : j ≤ k) (h : RoomLeft total k) : RoomLeft total j := by
  have hpow : (total * 2 ^ j : ℕ) ≤ total * 2 ^ k :=
    Nat.mul_le_mul_left _ (Nat.pow_le_pow_right (by decide) hjk)
  have hle : (total * 2 ^ j : ℤ) ≤ total * 2 ^ k := by exact_mod_cast hpow
  exact hle.trans h

/-- Without overflow in either word, a turn is taken exactly if the next doubling fits. -/
theorem boundaryStep_doubled (ht : total ≤ 0x7fffffff) {k : ℕ} (hk : total * 2 ^ k ≤ 0x7fffffff) :
    boundaryStep total (total * 2 ^ k) =
      if total * 2 ^ (k + 1) ≤ 0x7fffffff - total then some (total * 2 ^ (k + 1)) else none := by
  have hdiff : ((0x7fffffff : ℤ) - total) % 2 ^ 64 = (0x7fffffff - total : ℕ) := by omega
  have hnext : total * 2 ^ k * 2 % 2 ^ 32 = total * 2 ^ (k + 1) := by
    rw [Nat.mul_assoc, ← Nat.pow_succ]
    refine Nat.mod_eq_of_lt ?_
    rw [Nat.pow_succ, ← Nat.mul_assoc]
    omega
  unfold boundaryStep
  rw [hdiff, hnext]
  simp only [Nat.cast_le]

theorem roomLeft_iff (ht : total ≤ 0x7fffffff) (k : ℕ) :
    RoomLeft total k ↔ total * 2 ^ k ≤ 0x7fffffff - total := by
  unfold RoomLeft
  rw [← Nat.cast_ofNat (R := ℤ) (n := 0x7fffffff), ← Nat.cast_sub ht]
  exact_mod_cast Iff.rfl

/-- Started at a doubling, the loop ends at one that is followed by none that fits, and that fits
itself if a turn was taken. -/
theorem BoundaryEnds.doubled (ht : total ≤ 0x7fffffff) {b result : ℕ}
    (h : BoundaryEnds total b result) :
    ∀ k, b = total * 2 ^ k → b ≤ 0x7fffffff →
      ∃ j, result = total * 2 ^ j ∧ (j = k ∨ RoomLeft total j) ∧ ¬ RoomLeft total (j + 1) := by
  induction h with
  | @done b h =>
      rintro k rfl hk
      rw [boundaryStep_doubled ht hk] at h
      refine ⟨k, rfl, .inl rfl, fun hfit => ?_⟩
      rw [if_pos ((roomLeft_iff ht _).mp hfit)] at h
      cases h
  | @turn b b' result h ends ih =>
      rintro k rfl hk
      rw [boundaryStep_doubled ht hk] at h
      split_ifs at h with hle
      have hb' := (Option.some.inj h).symm
      obtain ⟨j, hj, hfit, hlast⟩ := ih (k + 1) hb' (by omega)
      refine ⟨j, hj, .inr ?_, hlast⟩
      rcases hfit with rfl | hfit
      · exact (roomLeft_iff ht _).mpr hle
      · exact hfit

theorem lastDoubling_of_roomLeft {j : ℕ} (hfit : j = 0 ∨ RoomLeft total j) (hlast : ¬ RoomLeft total (j + 1)) :
    LastDoubling total j := by
  have hupper : j ∈ upperBounds {i | RoomLeft total i} := by
    intro i hi
    by_contra hji
    exact hlast (RoomLeft.mono (by omega) hi)
  by_cases h : RoomLeft total j
  · exact .inl ⟨h, hupper⟩
  · obtain rfl : j = 0 := hfit.resolve_right h
    exact .inr ⟨rfl, fun i hi => h (hi.mono (Nat.zero_le i))⟩

theorem boundaryRight_of_le (hpos : 0 < total) (ht : total ≤ 0x7fffffff) : BoundaryRight total where
  ends := ⟨_, boundaryLoop_turns ht 32 total ht (by omega)⟩
  result := by
    intro result h
    obtain ⟨j, hj, hfit, hlast⟩ := h.doubled ht 0 (by rw [Nat.pow_zero, Nat.mul_one]) ht
    exact ⟨j, hj, lastDoubling_of_roomLeft hfit hlast⟩

/-- Beyond `0x7fffffff` the 64-bit difference is above every 32-bit product: each turn is followed
by another. -/
theorem BoundaryEnds.total_le {b result : ℕ} (h : BoundaryEnds total b result)
    (ht : total < 2 ^ 32) : total ≤ 0x7fffffff := by
  induction h with
  | done h =>
      unfold boundaryStep at h
      split_ifs at h
      omega
  | turn _ _ ih => exact ih

theorem boundaryRight_iff (ht : total < 2 ^ 32) :
    BoundaryRight total ↔ 0 < total ∧ total ≤ 0x7fffffff := by
  refine ⟨fun h => ?_, fun h => boundaryRight_of_le h.1 h.2⟩
  obtain ⟨result, hends⟩ := h.ends
  exact ⟨hends.pos, hends.total_le ht⟩

end loop

/-! ### The geometries of the plugin -/

theorem PcmParams.Constrs.boundaryRight {p : PcmParams} (h : p.Constrs) :
    BoundaryRight p.totalSizeFrames := by
  refine boundaryRight_of_le h.total_pos ?_
  rw [h.total_eq]
  exact h.total_le.trans (by decide)

/-- The loop ends with the last doubling exactly if the frames, as the product of machine words, are
neither zero nor above `0x7fffffff`; `agm_pcm_constrs` makes sure of it. -/
theorem boundary_terminates (params : SndPcmHwParams) :
    let p := agmPcmHwParams params
    (BoundaryRight p.totalSizeFrames ↔ 0 < p.totalSizeFrames ∧ p.totalSizeFrames ≤ 0x7fffffff) ∧
      (p.Constrs → BoundaryRight p.totalSizeFrames) :=
  ⟨boundaryRight_iff (Nat.mod_lt _ (by decide)), PcmParams.Constrs.boundaryRight⟩

/-- Parameters that fix every interval to one value. -/
def SndPcmHwParams.fixed (format : PcmFormat) (value : IntervalParam → UInt32) : SndPcmHwParams where
  format := format
  intervals n := { max := value n, integer := true }

/-- A stereo stream of 65536 periods of 65536 frames: the product is zero. -/
def manyPeriods : SndPcmHwParams :=
  .fixed .s16Le fun n => if n = .channels then 2 else 65536

theorem boundary_loops_forever :
    ¬ ∀ params, BoundaryRight (agmPcmHwParams params).totalSizeFrames := by
  intro h
  have hpos := ((boundaryRight_iff (Nat.mod_lt _ (by decide))).mp (h manyPeriods)).1
  exact absurd hpos (by decide)

end Agm
