import Agm.Types
import Agm.Lib.Laps
import Agm.Lib.Run

/-! # The position of a mapped stream (`agm_pcm_plugin.c`)

In push-pull mode the DSP publishes its place in the ring buffer as a byte index that falls back
to zero at the end of every turn.  `agm_pcm_plugin_update_hw_ptr` turns it into a frame count
that falls back only at `boundary`, a multiple of the buffer size: it rounds the place down to a
period, and takes a turn to be completed when the position would otherwise go back.

* **Shared memory.**  A `PosRead` is one pass of `agm_pcm_plugin_get_shared_pos` over the shared
  buffer; it is a good one when the frame counter is the same before and after.
* **Machine words.**  `unsigned int` is 32 bits wide and `snd_pcm_uframes_t` 64.

`hwPtr_follows`: as long as the DSP is in its first turn at the first good read, and then never
advances by more than the buffer less one period between two good reads, the position is the
true frame count, rounded down to a period, modulo the boundary. -/

namespace Agm

open Run Laps

/-! ### Parameters -/

/-- The PCM formats of `enum agm_media_format`. -/
inductive PcmFormat where
  | s8 | s16Le | s24Le | s24In3Le | s32Le
deriving DecidableEq, Repr

/-- `agm_format_to_bits`. -/
def agmFormatToBits : PcmFormat → ℕ
  | .s32Le => 32
  | .s24Le => 32
  | .s24In3Le => 24
  | .s16Le => 16
  | .s8 => 16

/-- What `agm_pcm_hw_params` reads of the parameters. -/
structure PcmParams where
  channels : ℕ
  format : PcmFormat
  periods : ℕ
  periodSize : ℕ
deriving DecidableEq, Repr

/-- `agm_pcm_frames_to_bytes`. -/
def agmPcmFramesToBytes (p : PcmParams) (frames : ℕ) : ℕ :=
  frames * p.channels % 2 ^ 32 * (agmFormatToBits p.format >>> 3) % 2 ^ 32

/-- `agm_pcm_bytes_to_frames`. -/
def agmPcmBytesToFrames (bytes : ℕ) (p : PcmParams) : ℕ :=
  bytes * 8 % 2 ^ 32 / (p.channels * agmFormatToBits p.format % 2 ^ 32)

/-- `total_size_frames`, from `agm_pcm_hw_params`. -/
def PcmParams.totalSizeFrames (p : PcmParams) : ℕ := p.periods * p.periodSize % 2 ^ 32

/-- The size of a frame in bytes. -/
def PcmParams.frameBytes (p : PcmParams) : ℕ := agmPcmFramesToBytes p 1

/-- `agm_pcm_constrs`. -/
structure PcmParams.Constrs (p : PcmParams) : Prop where
  bitWidth : 16 ≤ agmFormatToBits p.format ∧ agmFormatToBits p.format ≤ 32
  channels : 1 ≤ p.channels ∧ p.channels ≤ 8
  periods : 1 ≤ p.periods ∧ p.periods ≤ 8
  periodBytes : 96 ≤ p.periodSize * p.frameBytes ∧ p.periodSize * p.frameBytes ≤ 122880

/-! ### The boundary -/

/-- The loop of `agm_pcm_mmap` that doubles the boundary; 32 turns are enough for it to end. -/
def boundaryLoop (total : ℕ) : ℕ → ℕ → ℕ
  | 0, boundary => boundary
  | fuel + 1, boundary =>
      if boundary * 2 % 2 ^ 32 ≤ 0x7fffffff - total then
        boundaryLoop total fuel (boundary * 2 % 2 ^ 32)
      else boundary

def PcmParams.boundary (p : PcmParams) : ℕ := boundaryLoop p.totalSizeFrames 32 p.totalSizeFrames

/-! ### The shared position -/

/-- One pass over the shared buffer: the frame counter before, the index, the counter after. -/
structure PosRead where
  frameCnt1 : ℕ := 0
  readIndex : ℕ := 0
  frameCnt2 : ℕ := 1
deriving DecidableEq, Repr

def PosRead.Good (r : PosRead) : Prop := r.frameCnt1 = r.frameCnt2

instance (r : PosRead) : Decidable r.Good := inferInstanceAs (Decidable (_ = _))

/-- `AGM_PULL_PUSH_IDX_RETRY_COUNT`. -/
def agmPullPushIdxRetryCount : ℕ := 2

/-- `agm_pcm_plugin_get_shared_pos`: the index of the first good pass, or `none` for `-EAGAIN`,
and the passes left. -/
def getSharedPos : ℕ → List PosRead → Option ℕ × List PosRead
  | 0, reads => (none, reads)
  | i + 1, reads =>
      let r := reads.headD {}
      if r.frameCnt1 ≠ r.frameCnt2 then getSharedPos i reads.tail
      else (some r.readIndex, reads.tail)

/-- The retries of `agm_pcm_plugin_update_hw_ptr`. -/
def readPos : ℕ → List PosRead → Option ℕ
  | 0, _ => none
  | retries + 1, reads =>
      match getSharedPos agmPullPushIdxRetryCount reads with
      | (some i, _) => some i
      | (none, rest) => readPos retries rest

/-- The position fields of `struct pcm_plugin_pos_buf_info`. -/
structure PosBuf where
  hwPtr : ℕ := 0
  hwPtrBase : ℕ := 0
deriving DecidableEq, Repr

/-- `agm_pcm_plugin_update_hw_ptr`, with the passes over the shared buffer that it makes. -/
def agmPcmPluginUpdateHwPtr (p : PcmParams) (reads : List PosRead) (posBuf : PosBuf) :
    ℤ × PosBuf :=
  match readPos 10 reads with
  | none => (-EAGAIN, posBuf)
  | some readIndex =>
      let circBufPos := agmPcmBytesToFrames readIndex p
      let pos := circBufPos / p.periodSize * p.periodSize
      let newHwPtr := (posBuf.hwPtrBase + pos) % 2 ^ 64
      if newHwPtr < posBuf.hwPtr then
        let hwBase := (posBuf.hwPtrBase + p.totalSizeFrames) % 2 ^ 64
        let hwBase := if p.boundary ≤ hwBase then 0 else hwBase
        (0, { hwPtr := (hwBase + pos) % 2 ^ 64, hwPtrBase := hwBase })
      else (0, { posBuf with hwPtr := newHwPtr })

/-! ### What the parameters give -/

section constrs
variable {p : PcmParams} (h : p.Constrs)
include h

/-- A frame has a whole number of bytes. -/
theorem PcmParams.Constrs.frameBits : p.frameBytes * 8 = p.channels * agmFormatToBits p.format := by
  have hch := h.channels
  unfold PcmParams.frameBytes agmPcmFramesToBytes
  cases p.format <;> simp only [agmFormatToBits] <;> omega

theorem PcmParams.Constrs.frameBytes_pos : 0 < p.frameBytes := by
  refine Nat.pos_of_ne_zero fun h0 => ?_
  have := h.periodBytes.1
  rw [h0] at this
  omega

theorem PcmParams.Constrs.periodSize_pos : 0 < p.periodSize := by
  refine Nat.pos_of_ne_zero fun h0 => ?_
  have := h.periodBytes.1
  rw [h0] at this
  omega

/-- The buffer fits in a megabyte. -/
theorem PcmParams.Constrs.total_bytes : p.periods * p.periodSize * p.frameBytes ≤ 983040 := by
  calc p.periods * p.periodSize * p.frameBytes
      = p.periods * (p.periodSize * p.frameBytes) := Nat.mul_assoc _ _ _
    _ ≤ 8 * 122880 := Nat.mul_le_mul h.periods.2 h.periodBytes.2

theorem PcmParams.Constrs.total_le : p.periods * p.periodSize ≤ 983040 :=
  (Nat.le_mul_of_pos_right _ h.frameBytes_pos).trans h.total_bytes

theorem PcmParams.Constrs.total_eq : p.totalSizeFrames = p.periods * p.periodSize := by
  have := h.total_le
  exact Nat.mod_eq_of_lt (by omega)

theorem PcmParams.Constrs.total_pos : 0 < p.totalSizeFrames := by
  rw [h.total_eq]
  exact Nat.mul_pos h.periods.1 h.periodSize_pos

theorem PcmParams.Constrs.period_dvd : p.periodSize ∣ p.totalSizeFrames := by
  rw [h.total_eq]
  exact Nat.dvd_mul_left _ _

/-- The index of a frame of the buffer is read back as that frame. -/
theorem PcmParams.Constrs.bytesToFrames {i : ℕ} (hi : i < p.totalSizeFrames) :
    agmPcmBytesToFrames (i * p.frameBytes) p = i := by
  have hch := h.channels
  have hbits := h.bitWidth
  have hle : i * p.frameBytes ≤ 983040 := by
    rw [h.total_eq] at hi
    exact (Nat.mul_le_mul_right _ hi.le).trans h.total_bytes
  have hfb : p.frameBytes * 8 ≤ 8 * 32 := h.frameBits ▸ Nat.mul_le_mul hch.2 hbits.2
  unfold agmPcmBytesToFrames
  rw [← h.frameBits, Nat.mod_eq_of_lt (by omega), Nat.mod_eq_of_lt (by omega), Nat.mul_assoc]
  exact Nat.mul_div_cancel i (Nat.mul_pos h.frameBytes_pos (by decide))

end constrs

/-- The doubled boundary is a multiple of the first and stays below `2^31`. -/
theorem boundaryLoop_spec {total : ℕ} (ht : total ≤ 0x7fffffff) (fuel b : ℕ)
    (hb : b ≤ 0x7fffffff) :
    b ∣ boundaryLoop total fuel b ∧ b ≤ boundaryLoop total fuel b ∧
      boundaryLoop total fuel b ≤ 0x7fffffff := by
  induction fuel generalizing b with
  | zero => exact ⟨dvd_rfl, le_rfl, hb⟩
  | succ fuel ih =>
      have hmod : b * 2 % 2 ^ 32 = b * 2 := Nat.mod_eq_of_lt (by omega)
      unfold boundaryLoop
      rw [hmod]
      split_ifs with hle
      · obtain ⟨hdvd, hge, hlt⟩ := ih (b * 2) (by omega)
        exact ⟨(Nat.dvd_mul_right b 2).trans hdvd, by omega, hlt⟩
      · exact ⟨dvd_rfl, le_rfl, hb⟩

section constrs
variable {p : PcmParams} (h : p.Constrs)
include h

theorem PcmParams.Constrs.boundary_spec :
    p.totalSizeFrames ∣ p.boundary ∧ 0 < p.boundary ∧ p.boundary ≤ 0x7fffffff := by
  have hle : p.totalSizeFrames ≤ 0x7fffffff := by
    rw [h.total_eq]
    exact h.total_le.trans (by decide)
  obtain ⟨hdvd, hge, hlt⟩ := boundaryLoop_spec hle 32 _ hle
  exact ⟨hdvd, h.total_pos.trans_le hge, hlt⟩

end constrs

/-! ### One call -/

/-- The position that stands for a frame count. -/
def PosBuf.at (p : PcmParams) (frames : ℕ) : PosBuf where
  hwPtr := p.periodSize * (frames / p.periodSize) % p.boundary
  hwPtrBase := lap p.totalSizeFrames frames % p.boundary

theorem getSharedPos_good {i : ℕ} {reads rest : List PosRead} {n : ℕ}
    (h : getSharedPos n reads = (some i, rest)) : ∃ r ∈ reads, r.Good ∧ r.readIndex = i := by
  induction n generalizing reads with
  | zero => cases h
  | succ n ih =>
      cases reads with
      | nil =>
          obtain ⟨r, hr, -⟩ := ih (show getSharedPos n [] = (some i, rest) from h)
          cases hr
      | cons r reads =>
          change (if r.frameCnt1 ≠ r.frameCnt2 then getSharedPos n reads
            else (some r.readIndex, reads)) = (some i, rest) at h
          by_cases hgood : r.frameCnt1 = r.frameCnt2
          · rw [if_neg (not_not.mpr hgood)] at h
            cases h
            exact ⟨r, List.mem_cons_self, hgood, rfl⟩
          · rw [if_pos hgood] at h
            obtain ⟨r', hr', hgood'⟩ := ih h
            exact ⟨r', List.mem_cons_of_mem _ hr', hgood'⟩

theorem getSharedPos_rest {reads rest : List PosRead} {o : Option ℕ} {n : ℕ}
    (h : getSharedPos n reads = (o, rest)) : ∀ r ∈ rest, r ∈ reads := by
  induction n generalizing reads with
  | zero =>
      cases h
      exact fun r hr => hr
  | succ n ih =>
      unfold getSharedPos at h
      simp only at h
      split_ifs at h
      · exact fun r hr => List.mem_of_mem_tail (ih h r hr)
      · cases h
        exact fun r hr => List.mem_of_mem_tail hr

/-- A position that was read comes from a good pass. -/
theorem readPos_good {i : ℕ} {reads : List PosRead} {n : ℕ} (h : readPos n reads = some i) :
    ∃ r ∈ reads, r.Good ∧ r.readIndex = i := by
  induction n generalizing reads with
  | zero => cases h
  | succ n ih =>
      unfold readPos at h
      split at h
      · rename_i j rest hget
        cases h
        exact getSharedPos_good hget
      · rename_i rest hget
        obtain ⟨r, hr, hgood⟩ := ih h
        exact ⟨r, getSharedPos_rest hget r hr, hgood⟩

/-- A good read in the same turn, or in the next one and a period short of the old place, moves
the position to the new frame count. -/
theorem updateHwPtr_at {p : PcmParams} (h : p.Constrs) {t t' : ℕ} {reads : List PosRead}
    (hread : readPos 10 reads = some (t' % p.totalSizeFrames * p.frameBytes)) (hle : t ≤ t')
    (hlap : t' / p.totalSizeFrames = t / p.totalSizeFrames ∨
      t' / p.totalSizeFrames = t / p.totalSizeFrames + 1 ∧
        t' ≤ t + (p.totalSizeFrames - p.periodSize)) :
    agmPcmPluginUpdateHwPtr p reads (.at p t) = (0, .at p t') := by
  obtain ⟨hdvd, hbpos, hblt⟩ := h.boundary_spec
  have htot := h.total_pos
  have hper := h.periodSize_pos
  have hpt : p.periodSize ≤ p.totalSizeFrames := Nat.le_of_dvd htot h.period_dvd
  have hptr : ∀ n, p.periodSize * (n / p.periodSize) % p.boundary =
      lap p.totalSizeFrames n % p.boundary + place p.periodSize p.totalSizeFrames n := by
    intro n
    rw [mod_lap_add hdvd hbpos (place_lt htot), lap_add_place h.period_dvd hper]
  have hpos : agmPcmBytesToFrames (t' % p.totalSizeFrames * p.frameBytes) p / p.periodSize *
      p.periodSize = place p.periodSize p.totalSizeFrames t' := by
    rw [h.bytesToFrames (Nat.mod_lt _ htot), Nat.mul_comm]
    rfl
  have hbase := mod_lap_lt (t := t) hdvd hbpos
  have hbase' := mod_lap_lt (t := t') hdvd hbpos
  have hplace : place p.periodSize p.totalSizeFrames t' < p.totalSizeFrames := place_lt htot
  unfold agmPcmPluginUpdateHwPtr
  rw [hread]
  simp only [hpos, PosBuf.at, hptr]
  have hnew : (lap p.totalSizeFrames t % p.boundary + place p.periodSize p.totalSizeFrames t') %
      2 ^ 64 = lap p.totalSizeFrames t % p.boundary + place p.periodSize p.totalSizeFrames t' :=
    Nat.mod_eq_of_lt (by omega)
  rw [hnew]
  obtain hsame | ⟨hnext, hadv⟩ := hlap
  · have hmono : place p.periodSize p.totalSizeFrames t ≤ place p.periodSize p.totalSizeFrames t' :=
      place_le_of_same_lap hsame hle
    have hlap' : lap p.totalSizeFrames t' = lap p.totalSizeFrames t := by rw [lap, lap, hsame]
    rw [if_neg (by omega), hlap']
  · have hback := place_lt_of_next_lap hper hpt hnext hadv
    have hsum : (lap p.totalSizeFrames t % p.boundary + p.totalSizeFrames) % 2 ^ 64 =
        lap p.totalSizeFrames t % p.boundary + p.totalSizeFrames := Nat.mod_eq_of_lt (by omega)
    rw [if_pos (by omega), hsum, ← mod_lap_next hdvd hbpos hnext, Nat.mod_eq_of_lt (by omega)]

/-! ### Runs -/

/-- The position and the frame count of the DSP at the latest good read. -/
structure PcmRun where
  posBuf : PosBuf := {}
  last : Option ℕ := none
deriving DecidableEq, Repr

/-- One call: the frame count of the DSP when the shared buffer is read, and the passes over
it. -/
structure PosCall where
  frames : ℕ
  reads : List PosRead
deriving DecidableEq, Repr

def PcmRun.step (p : PcmParams) (x : PcmRun) (c : PosCall) : PcmRun :=
  let (ret, posBuf) := agmPcmPluginUpdateHwPtr p c.reads x.posBuf
  { posBuf, last := if ret = 0 then some c.frames else x.last }

/-- A good pass shows the place of the DSP in the buffer. -/
def PosCall.Honest (p : PcmParams) (c : PosCall) : Prop :=
  ∀ r ∈ c.reads, r.Good → r.readIndex = c.frames % p.totalSizeFrames * p.frameBytes

instance (p : PcmParams) (c : PosCall) : Decidable (c.Honest p) :=
  inferInstanceAs (Decidable (∀ r ∈ c.reads, _ → _))

/-- Between two successful calls the DSP advances by at most the buffer less one period. -/
def PcmRun.Paced (p : PcmParams) (x : PcmRun) (c : PosCall) : Prop :=
  (agmPcmPluginUpdateHwPtr p c.reads x.posBuf).1 = 0 → ∀ t ∈ x.last,
    t ≤ c.frames ∧ c.frames ≤ t + (p.totalSizeFrames - p.periodSize)

instance (p : PcmParams) (x : PcmRun) (c : PosCall) : Decidable (x.Paced p c) :=
  inferInstanceAs (Decidable (_ → ∀ t ∈ x.last, _ ∧ _))

/-- The first successful call finds the DSP in its first turn. -/
def PcmRun.FirstTurn (p : PcmParams) (x : PcmRun) (c : PosCall) : Prop :=
  (agmPcmPluginUpdateHwPtr p c.reads x.posBuf).1 = 0 → x.last = none →
    c.frames < p.totalSizeFrames

instance (p : PcmParams) (x : PcmRun) (c : PosCall) : Decidable (x.FirstTurn p c) :=
  inferInstanceAs (Decidable (_ → _ → _))

/-- What a call is to leave: the true position after a success, the old one after a failure. -/
structure PcmRun.Follows (p : PcmParams) (x : PcmRun) (c : PosCall) : Prop where
  success : (agmPcmPluginUpdateHwPtr p c.reads x.posBuf).1 = 0 →
    (x.step p c).posBuf.hwPtr = p.periodSize * (c.frames / p.periodSize) % p.boundary ∧
      p.totalSizeFrames ∣ (x.step p c).posBuf.hwPtrBase ∧
      (x.step p c).posBuf.hwPtrBase < p.boundary ∧ (x.step p c).posBuf.hwPtr < p.boundary
  failure : (agmPcmPluginUpdateHwPtr p c.reads x.posBuf).1 ≠ 0 →
    (agmPcmPluginUpdateHwPtr p c.reads x.posBuf).1 = -EAGAIN ∧ (x.step p c).posBuf = x.posBuf

/-- A call either fails and changes nothing, or finds an honest place and returns 0. -/
theorem PosCall.Honest.cases {p : PcmParams} {c : PosCall} (hc : c.Honest p) (posBuf : PosBuf) :
    agmPcmPluginUpdateHwPtr p c.reads posBuf = (-EAGAIN, posBuf) ∨
      readPos 10 c.reads = some (c.frames % p.totalSizeFrames * p.frameBytes) := by
  cases hread : readPos 10 c.reads with
  | none =>
      left
      unfold agmPcmPluginUpdateHwPtr
      rw [hread]
  | some i =>
      right
      obtain ⟨r, hr, hgood, rfl⟩ := readPos_good hread
      rw [hc r hr hgood]

/-- The position is the one of the latest good read. -/
def PcmRun.Inv (p : PcmParams) (x : PcmRun) : Prop := x.posBuf = .at p (x.last.getD 0)

theorem PcmRun.inv_init (p : PcmParams) : PcmRun.Inv p {} := by
  show ({} : PosBuf) = .at p 0
  simp [PosBuf.at, lap]

theorem PosBuf.at_bounds {p : PcmParams} (h : p.Constrs) (t : ℕ) :
    p.totalSizeFrames ∣ (PosBuf.at p t).hwPtrBase ∧ (PosBuf.at p t).hwPtrBase < p.boundary ∧
      (PosBuf.at p t).hwPtr < p.boundary := by
  obtain ⟨hdvd, hpos, -⟩ := h.boundary_spec
  exact ⟨dvd_mod_lap hdvd, Nat.mod_lt _ hpos, Nat.mod_lt _ hpos⟩

/-- One call from the position of the latest good read. -/
theorem PcmRun.step_spec {p : PcmParams} (h : p.Constrs) {x : PcmRun} {c : PosCall}
    (hx : x.Inv p) (hc : c.Honest p) (hpace : x.Paced p c) (hfirst : x.FirstTurn p c) :
    (x.step p c).Inv p ∧ x.Follows p c := by
  obtain hfail | hread := hc.cases x.posBuf
  · have hstep : x.step p c = x := by
      unfold PcmRun.step
      rw [hfail]
      rfl
    refine ⟨by rw [hstep]; exact hx, fun h0 => ?_, fun _ => ⟨by rw [hfail], by rw [hstep]⟩⟩
    rw [hfail] at h0
    exact absurd h0 (show (- EAGAIN : ℤ) ≠ 0 by decide)
  · have hcall : agmPcmPluginUpdateHwPtr p c.reads x.posBuf = (0, .at p c.frames) := by
      have hret : (agmPcmPluginUpdateHwPtr p c.reads x.posBuf).1 = 0 := by
        unfold agmPcmPluginUpdateHwPtr
        rw [hread]
        simp only
        split_ifs <;> rfl
      have htot := h.total_pos
      have hlt : p.totalSizeFrames - p.periodSize < p.totalSizeFrames :=
        Nat.sub_lt htot h.periodSize_pos
      rw [hx]
      cases hlast : x.last with
      | none =>
          refine updateHwPtr_at h hread (Nat.zero_le _) (.inl ?_)
          rw [Nat.div_eq_of_lt (hfirst hret hlast), Option.getD_none, Nat.zero_div]
      | some t =>
          obtain ⟨hle, hadv⟩ := hpace hret t hlast
          refine updateHwPtr_at h hread hle ?_
          obtain hsame | hnext := lap_cases htot hle (by omega)
          · exact .inl hsame
          · exact .inr ⟨hnext, hadv⟩
    have hstep : x.step p c = ⟨.at p c.frames, some c.frames⟩ := by
      unfold PcmRun.step
      rw [hcall]
      rfl
    refine ⟨by rw [hstep]; rfl, fun _ => ?_, fun hne => ?_⟩
    · rw [hstep]
      exact ⟨rfl, PosBuf.at_bounds h c.frames⟩
    · rw [hcall] at hne
      exact absurd rfl hne

/-- Over every sequence of calls with honest reads in which the DSP is in its first turn at the
first success and then advances by at most the buffer less one period between two successes, each
success leaves the true frame count, rounded down to a period, modulo the boundary, and each
failure leaves the position alone. -/
theorem hwPtr_follows {p : PcmParams} (h : p.Constrs) (calls : List PosCall)
    (hc : Along (PcmRun.step p)
      (fun x c => c.Honest p ∧ x.Paced p c ∧ x.FirstTurn p c) calls {}) :
    Along (PcmRun.step p) (fun x c => x.Follows p c) calls {} :=
  Along.imp (I := PcmRun.Inv p)
    (fun _ _ hx hc => (PcmRun.step_spec h hx hc.1 hc.2.1 hc.2.2).1)
    (fun _ _ hx hc => (PcmRun.step_spec h hx hc.1 hc.2.1 hc.2.2).2) (PcmRun.inv_init p) hc

/-- A stream of two periods of 48 frames whose DSP completes a turn; the second call fails. -/
theorem hwPtr_follows_onceAround :
    Along (PcmRun.step ⟨1, .s16Le, 2, 48⟩) (fun x c => x.Follows ⟨1, .s16Le, 2, 48⟩ c)
      [⟨50, [⟨1, 100, 1⟩]⟩, ⟨60, [⟨1, 0, 2⟩]⟩, ⟨98, [⟨2, 0, 3⟩, ⟨3, 4, 3⟩]⟩] {} :=
  hwPtr_follows ⟨by decide, by decide, by decide, by decide⟩ _ (by decide +kernel)

/-- Without a bound on the first success: the DSP has completed a turn before the first call,
which takes it to be at the start. -/
theorem hwPtr_follows_lateFirstCall :
    ¬ ∀ (p : PcmParams) (calls : List PosCall), p.Constrs →
      Along (PcmRun.step p) (fun x c => c.Honest p ∧ x.Paced p c) calls {} →
        Along (PcmRun.step p) (fun x c => x.Follows p c) calls {} := by
  intro h
  have hall := h ⟨1, .s16Le, 2, 48⟩ [⟨96, [⟨1, 0, 1⟩]⟩] ⟨by decide, by decide, by decide, by decide⟩
    (by decide +kernel)
  have hptr := (hall.1.success (by decide +kernel)).1
  exact absurd hptr (by decide +kernel)

end Agm
