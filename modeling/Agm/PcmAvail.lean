import Agm.PcmPlugin

/-! # Available frames (`agm_pcm_get_avail`, `agm_pcm_poll`)

Both pointers of a mapped stream are frame counts modulo `boundary`.  `agm_pcm_get_avail` takes
their difference and adds or subtracts `boundary` once where it left its range; `agm_pcm_poll`
compares the result with a period, after a look at the shared position if there is too little.

* **Macros.**  `PCM_OUT` and `PCM_IN` come from tinyalsa; they are the parameter `StreamModes`.  A
  stream without `PCM_IN` plays back, as in `agm_pcm_hw_params` and `agm_pcm_poll`.
* **Time.**  `agm_pcm_poll` sleeps before it looks; nothing else depends on `timeout`.

`avail_exact_iff`: the frames are those between the two counts exactly if the test of `PCM_OUT`
tells playback from capture. -/

namespace Agm

open Laps

/-! ### The loop of `agm_pcm_mmap` -/

/-- One turn of the loop: the doubled boundary, if the loop goes on.  `boundary` is an `unsigned
int`, the difference an `unsigned long`. -/
def boundaryStep (total boundary : ℕ) : Option ℕ :=
  if ((boundary * 2 % 2 ^ 32 : ℕ) : ℤ) ≤ (0x7fffffff - total) % 2 ^ 64 then
    some (boundary * 2 % 2 ^ 32)
  else none

/-- The loop ends with `result`. -/
inductive BoundaryEnds (total : ℕ) : ℕ → ℕ → Prop where
  | done {b} (h : boundaryStep total b = none) : BoundaryEnds total b b
  | turn {b b' result} (h : boundaryStep total b = some b') (ends : BoundaryEnds total b' result) :
      BoundaryEnds total b result

/-- `agm_pcm_mmap` has computed the boundary. -/
def PcmParams.Mapped (p : PcmParams) : Prop :=
  BoundaryEnds p.totalSizeFrames p.totalSizeFrames p.boundary

theorem BoundaryEnds.pos {total b result : ℕ} (h : BoundaryEnds total b result) : 0 < b := by
  induction h with
  | done h =>
      unfold boundaryStep at h
      split_ifs at h
      omega
  | @turn b b' result h _ ih =>
      unfold boundaryStep at h
      split_ifs at h
      have hb' := Option.some.inj h
      omega

theorem BoundaryEnds.lt {total b result : ℕ} (h : BoundaryEnds total b result) (hb : b < 2 ^ 32) :
    result < 2 ^ 32 := by
  induction h with
  | done => exact hb
  | turn h _ ih =>
      unfold boundaryStep at h
      split_ifs at h
      exact ih (Option.some.inj h ▸ Nat.mod_lt _ (by decide))

/-- Where the total leaves room, the difference does not wrap. -/
theorem boundaryStep_eq {total : ℕ} (ht : total ≤ 0x7fffffff) (b : ℕ) :
    boundaryStep total b =
      if b * 2 % 2 ^ 32 ≤ 0x7fffffff - total then some (b * 2 % 2 ^ 32) else none := by
  have hdiff : ((0x7fffffff : ℤ) - total) % 2 ^ 64 = (0x7fffffff - total : ℕ) := by omega
  unfold boundaryStep
  rw [hdiff]
  simp only [Nat.cast_le]

/-- Enough turns reach the end of the loop. -/
theorem boundaryLoop_turns {total : ℕ} (ht : total ≤ 0x7fffffff) (fuel b : ℕ)
    (hb : b ≤ 0x7fffffff) (hfuel : 2 ^ 31 ≤ b * 2 ^ fuel) :
    BoundaryEnds total b (boundaryLoop total fuel b) := by
  induction fuel generalizing b with
  | zero => omega
  | succ fuel ih =>
      have hmod : b * 2 % 2 ^ 32 = b * 2 := Nat.mod_eq_of_lt (by omega)
      have hstep := boundaryStep_eq ht b
      rw [hmod] at hstep
      unfold boundaryLoop
      rw [hmod]
      split_ifs with hle
      · rw [if_pos hle] at hstep
        refine .turn hstep (ih (b * 2) (by omega) ?_)
        rw [Nat.mul_assoc, ← Nat.pow_succ']
        exact hfuel
      · rw [if_neg hle] at hstep
        exact .done hstep

theorem PcmParams.Constrs.mapped {p : PcmParams} (h : p.Constrs) : p.Mapped := by
  have hle : p.totalSizeFrames ≤ 0x7fffffff := by
    rw [h.total_eq]
    exact h.total_le.trans (by decide)
  have hpos := h.total_pos
  exact boundaryLoop_turns hle 32 _ hle (by omega)

/-! ### The functions -/

/-- The macros of tinyalsa for the mode of a stream. -/
structure StreamModes where
  pcmOut : ℕ
  pcmIn : ℕ

/-- A stream of the plugin with its position buffer. -/
structure PcmStream where
  mode : ℕ
  params : PcmParams
  posBuf : PosBuf := {}
  applPtr : ℕ := 0
deriving DecidableEq, Repr

/-- `agm_pcm_get_avail`; `snd_pcm_sframes_t` is a `long`. -/
def agmPcmGetAvail (M : StreamModes) (x : PcmStream) : ℤ :=
  let boundary : ℤ := x.params.boundary
  if x.mode &&& M.pcmOut ≠ 0 then
    let avail := (x.posBuf.hwPtr + x.params.totalSizeFrames - x.applPtr : ℤ).bmod (2 ^ 64)
    if avail < 0 then (avail + boundary).bmod (2 ^ 64)
    else if avail ≥ boundary then (avail - boundary).bmod (2 ^ 64)
    else avail
  else if x.mode &&& M.pcmIn ≠ 0 then
    let avail := (x.posBuf.hwPtr - x.applPtr : ℤ).bmod (2 ^ 64)
    if avail < 0 then (avail + boundary).bmod (2 ^ 64) else avail
  else 0

def POLLIN : ℕ := 1
def POLLOUT : ℕ := 4

/-- What a poll returns and stores into `revents`, and the stream after it. -/
structure Polled where
  ret : ℕ
  revents : Option ℕ
  stream : PcmStream
deriving DecidableEq, Repr

/-- `agm_pcm_poll`, with the passes over the shared buffer that it makes. -/
def agmPcmPoll (M : StreamModes) (reads : List PosRead) (x : PcmStream) : Polled :=
  let periodSize := x.params.periodSize
  let avail := agmPcmGetAvail M x
  let (avail, x) :=
    if avail < periodSize then
      let (ret, posBuf) := agmPcmPluginUpdateHwPtr x.params reads x.posBuf
      let x := { x with posBuf }
      (if ret = 0 then agmPcmGetAvail M x else avail, x)
    else (avail, x)
  if avail ≥ periodSize then
    if x.mode &&& M.pcmIn ≠ 0 then ⟨POLLIN, some (POLLIN ||| POLLOUT), x⟩
    else ⟨POLLOUT, some POLLOUT, x⟩
  else ⟨0, none, x⟩

/-! ### The frames between the counts -/

/-- The application has transferred `appl` frames in all, the hardware `hw`; the pointers are these
counts modulo the boundary. -/
structure PcmStream.At (x : PcmStream) (appl hw : ℕ) : Prop where
  applPtr : x.applPtr = appl % x.params.boundary
  hwPtr : x.posBuf.hwPtr = hw % x.params.boundary

/-- The counts are at most a buffer apart: playback is ahead of the hardware, capture behind. -/
def PcmStream.Apart (M : StreamModes) (x : PcmStream) (appl hw : ℕ) : Prop :=
  if x.mode &&& M.pcmIn = 0 then hw ≤ appl ∧ appl ≤ hw + x.params.totalSizeFrames
  else appl ≤ hw ∧ hw ≤ appl + x.params.totalSizeFrames

instance (M : StreamModes) (x : PcmStream) (appl hw : ℕ) : Decidable (x.Apart M appl hw) :=
  inferInstanceAs (Decidable (ite _ _ _))

/-- The frames that can be written or read. -/
def PcmStream.available (M : StreamModes) (x : PcmStream) (appl hw : ℕ) : ℤ :=
  if x.mode &&& M.pcmIn = 0 then x.params.totalSizeFrames - (appl - hw) else hw - appl

/-- The functions of the plugin agree with the counts, for a mode and a geometry. -/
structure AvailExact (M : StreamModes) (mode : ℕ) (p : PcmParams) : Prop where
  avail : ∀ x : PcmStream, x.mode = mode → x.params = p → ∀ appl hw, x.At appl hw →
    x.Apart M appl hw → agmPcmGetAvail M x = x.available M appl hw ∧
      0 ≤ agmPcmGetAvail M x ∧ agmPcmGetAvail M x ≤ p.totalSizeFrames
  poll : ∀ x : PcmStream, x.mode = mode → x.params = p → ∀ appl hw hw' reads,
    let refresh := agmPcmPluginUpdateHwPtr p reads x.posBuf
    x.At appl hw → x.Apart M appl hw → (refresh.1 = 0 → refresh.2.hwPtr = hw' % p.boundary ∧
      x.Apart M appl hw') →
    ((agmPcmPoll M reads x).ret ≠ 0 ↔ (p.periodSize : ℤ) ≤
      if x.available M appl hw < p.periodSize ∧ refresh.1 = 0 then x.available M appl hw'
      else x.available M appl hw)

section avail
variable {M : StreamModes} {x : PcmStream} {appl hw : ℕ}

theorem PcmParams.Mapped.bounds {p : PcmParams} (h : p.Mapped) :
    0 < p.totalSizeFrames ∧ p.boundary < 2 ^ 32 :=
  ⟨BoundaryEnds.pos h, BoundaryEnds.lt h (Nat.mod_lt _ (by decide))⟩

theorem bmod_word {a : ℤ} (hlow : -2 ^ 63 ≤ a) (hhigh : a < 2 ^ 63) : a.bmod (2 ^ 64) = a :=
  Int.bmod_eq_of_le (by omega) (by omega)

/-- Where `PCM_OUT` tells playback from capture, one correction by the boundary is enough. -/
theorem agmPcmGetAvail_eq (hmap : x.params.Mapped)
    (hwide : 2 * x.params.totalSizeFrames ≤ x.params.boundary)
    (hmode : x.mode &&& M.pcmOut ≠ 0 ↔ x.mode &&& M.pcmIn = 0) (hat : x.At appl hw)
    (hapart : x.Apart M appl hw) : agmPcmGetAvail M x = x.available M appl hw := by
  obtain ⟨htot, hlt⟩ := hmap.bounds
  have happl : x.applPtr < x.params.boundary := hat.applPtr ▸ Nat.mod_lt _ (by omega)
  have hhw : x.posBuf.hwPtr < x.params.boundary := hat.hwPtr ▸ Nat.mod_lt _ (by omega)
  unfold PcmStream.Apart at hapart
  unfold agmPcmGetAvail PcmStream.available
  by_cases hplay : x.mode &&& M.pcmIn = 0
  · rw [if_pos hplay] at hapart ⊢
    rw [if_pos (hmode.mpr hplay)]
    have hgap := mod_gap hapart.1 (show appl < hw + x.params.boundary by omega)
    rw [← hat.applPtr, ← hat.hwPtr] at hgap
    rw [bmod_word (by omega) (by omega)]
    rcases hgap with hsame | hwrapped
    · -- neither pointer, or both, passed the boundary
      dsimp only
      rw [if_neg (by omega), if_neg (by omega)]
      omega
    · dsimp only
      rw [if_neg (by omega), if_pos (by omega), bmod_word (by omega) (by omega)]
      omega
  · rw [if_neg hplay] at hapart ⊢
    rw [if_neg (mt hmode.mp hplay), if_pos hplay]
    have hgap := mod_gap hapart.1 (show hw < appl + x.params.boundary by omega)
    rw [← hat.applPtr, ← hat.hwPtr] at hgap
    rw [bmod_word (by omega) (by omega)]
    rcases hgap with hsame | hwrapped
    · dsimp only
      rw [if_neg (by omega)]
      omega
    · dsimp only
      rw [if_pos (by omega), bmod_word (by omega) (by omega)]
      omega

theorem PcmStream.Apart.available_bounds (h : x.Apart M appl hw) :
    0 ≤ x.available M appl hw ∧ x.available M appl hw ≤ x.params.totalSizeFrames := by
  unfold PcmStream.Apart at h
  unfold PcmStream.available
  split_ifs at h ⊢ <;> omega

/-- A poll is ready if there is a period to transfer, before or after its look at the shared
position. -/
theorem agmPcmPoll_ready (M : StreamModes) (x : PcmStream) (reads : List PosRead) :
    (agmPcmPoll M reads x).ret ≠ 0 ↔
      (x.params.periodSize : ℤ) ≤
        if agmPcmGetAvail M x < x.params.periodSize ∧
            (agmPcmPluginUpdateHwPtr x.params reads x.posBuf).1 = 0 then
          agmPcmGetAvail M { x with
            posBuf := (agmPcmPluginUpdateHwPtr x.params reads x.posBuf).2 }
        else agmPcmGetAvail M x := by
  have hready : ∀ (avail : ℤ) (y : PcmStream),
      (if avail ≥ x.params.periodSize then
        if y.mode &&& M.pcmIn ≠ 0 then (⟨POLLIN, some (POLLIN ||| POLLOUT), y⟩ : Polled)
        else ⟨POLLOUT, some POLLOUT, y⟩
      else ⟨0, none, y⟩).ret ≠ 0 ↔ (x.params.periodSize : ℤ) ≤ avail := by
    intro avail y
    by_cases h : avail ≥ x.params.periodSize
    · rw [if_pos h]
      refine iff_of_true ?_ h
      split_ifs
      · exact show POLLIN ≠ 0 by decide
      · exact show POLLOUT ≠ 0 by decide
    · rw [if_neg h]
      exact iff_of_false (fun h0 => h0 rfl) h
  unfold agmPcmPoll
  by_cases hlow : agmPcmGetAvail M x < x.params.periodSize
  · simp only [hlow, true_and]
    exact hready _ _
  · simp only [hlow, false_and, if_false]
    exact hready _ _

theorem availExact_of_modes {p : PcmParams} {mode : ℕ} (hmap : p.Mapped)
    (hwide : 2 * p.totalSizeFrames ≤ p.boundary)
    (hmode : mode &&& M.pcmOut ≠ 0 ↔ mode &&& M.pcmIn = 0) : AvailExact M mode p where
  avail := by
    rintro x rfl rfl appl hw hat hapart
    rw [agmPcmGetAvail_eq hmap hwide hmode hat hapart]
    exact ⟨rfl, hapart.available_bounds⟩
  poll := by
    rintro x rfl rfl appl hw hw' reads refresh hat hapart hrefresh
    rw [agmPcmPoll_ready, agmPcmGetAvail_eq hmap hwide hmode hat hapart]
    by_cases hlook : x.available M appl hw < x.params.periodSize ∧ refresh.1 = 0
    · obtain ⟨hptr, hapart'⟩ := hrefresh hlook.2
      have hafter : agmPcmGetAvail M { x with posBuf := refresh.2 } = x.available M appl hw' :=
        agmPcmGetAvail_eq (x := { x with posBuf := refresh.2 }) hmap hwide hmode
          ⟨hat.applPtr, hptr⟩ hapart'
      rw [if_pos hlook, if_pos hlook, hafter]
    · rw [if_neg hlook, if_neg hlook]

/-- The frames are those between the two counts, and a poll compares them with a period, exactly if
`PCM_OUT` is in the mode of playback and not in that of capture. -/
theorem avail_exact_iff (M : StreamModes) (mode : ℕ) {p : PcmParams} (hmap : p.Mapped)
    (hwide : 2 * p.totalSizeFrames ≤ p.boundary) :
    AvailExact M mode p ↔ (mode &&& M.pcmOut ≠ 0 ↔ mode &&& M.pcmIn = 0) := by
  refine ⟨fun h => ?_, availExact_of_modes hmap hwide⟩
  obtain ⟨htot, hlt⟩ := hmap.bounds
  -- both counts at zero: a playback can write the whole buffer, a capture can read nothing
  have hstart := (h.avail { mode, params := p } rfl rfl 0 0
    ⟨(Nat.zero_mod _).symm, (Nat.zero_mod _).symm⟩ (by unfold PcmStream.Apart; split <;> simp)).1
  unfold agmPcmGetAvail PcmStream.available at hstart
  by_cases hout : mode &&& M.pcmOut ≠ 0
  · refine iff_of_true hout ?_
    by_contra hin
    rw [if_pos hout, if_neg hin, bmod_word (by dsimp only; omega) (by dsimp only; omega)] at hstart
    dsimp only at hstart
    rw [if_neg (by omega), if_neg (by omega)] at hstart
    omega
  · refine iff_of_false hout fun hin => ?_
    rw [if_neg hout, if_neg (not_not.mpr hin), if_pos hin] at hstart
    dsimp only at hstart
    omega

end avail

/-- The macros as the headers of tinyalsa have them. -/
def tinyalsaModes : StreamModes := { pcmOut := 0, pcmIn := 0x10000000 }

/-- Four periods of ten milliseconds, in stereo. -/
def tenMilliseconds : PcmParams := ⟨2, .s16Le, 4, 480⟩

theorem avail_exact_iff_capture : AvailExact tinyalsaModes 0x10000000 tenMilliseconds :=
  (avail_exact_iff tinyalsaModes 0x10000000
    (PcmParams.Constrs.mapped ⟨by decide, by decide, by decide, by decide⟩)
    (by decide +kernel)).mpr (by decide)

/-- `PCM_OUT` is 0: for a playback the function does not compute anything. -/
theorem avail_exact_playback : ¬ AvailExact tinyalsaModes 0 tenMilliseconds := by
  intro h
  have hstart := (h.avail { mode := 0, params := tenMilliseconds } rfl rfl 0 0
    ⟨by decide, by decide⟩ (by decide)).1
  exact absurd hstart (by decide)

end Agm
