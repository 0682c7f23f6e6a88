import Agm.CompressPlugin

/-! # Byte accounting of a compress capture stream (`agm_compress_plugin.c`)

On a capture stream `bytes_avail` is what can be read: every `AGM_EVENT_READ_DONE` adds a fragment,
and `agm_compress_read` takes off the fragments that it has read.  A read compares its size with
`bytes_avail` without the lock, calls `agm_session_read` and then takes the lock.

* `CaptureStream` is the plugin with the reads that are between their check and their locked part.
* `CaptureStream.Books`: what was received and not consumed is available, and the reads in between
  have been accepted for different bytes of it.

`captured_accounted`: the accounting is exact in every run in which no stop succeeds and no read is
accepted for bytes that another one was accepted for. -/

namespace Agm

open Run

/-- `agm_compress_set_params`, as far as the buffer is concerned. -/
def agmCompressSetParamsOn (dir : Direction) (fragments fragmentSize : ℕ) (priv : CompressPriv) :
    CompressPriv :=
  let total := fragmentSize * fragments % 2 ^ 64
  { priv with
    count := fragments
    size := fragmentSize
    totalBufSize := total
    bytesAvail := if dir = .rx then total else 0 }

/-- On a playback stream that was just opened. -/
theorem agmCompressSetParams_eq (n f : ℕ) :
    agmCompressSetParams n f =
      agmCompressSetParamsOn .rx n f ⟨0, 0, 0, 0, false, 0, 0, 0, false, false, []⟩ := rfl

/-- `agm_compress_read` up to the call of `agm_session_read`; the comparison is made on
`uint64_t`. -/
def agmCompressReadBegin (count : ℕ) (priv : CompressPriv) : ℤ :=
  if priv.bytesAvail % 2 ^ 64 < count then -EINVAL else 0

/-- The locked part of `agm_compress_read`; `buf_cnt` is an `int`. -/
def agmCompressReadEnd (count : ℕ) (priv : CompressPriv) : CompressPriv :=
  let bufCnt := ((priv.fragments count : ℕ) : ℤ).bmod (2 ^ 32)
  { priv with
    bytesAvail := priv.bytesAvail - bufCnt * priv.size
    bytesRead := priv.bytesRead + count }

/-! ### The stream -/

/-- The plugin, the sizes of the reads that were accepted and have not taken the lock yet, and the
fragments that were received and consumed since the last reset. -/
structure CaptureStream where
  priv : CompressPriv
  pending : List ℕ := []
  received : ℕ := 0
  consumed : ℕ := 0
deriving DecidableEq, Repr

inductive CaptureStep where
  | readDone
  /-- A read up to the call of `agm_session_read`. -/
  | readBegin (count : ℕ)
  /-- The rest of the `i`-th read in between, when `agm_session_read` returns `ret` and `got`. -/
  | readEnd (i : ℕ) (ret : ℤ) (got : ℕ)
  | start
  | stop (ret : ℤ)
deriving DecidableEq, Repr

namespace CaptureStream

/-- A start changes nothing in the plugin. -/
def step (x : CaptureStream) : CaptureStep → CaptureStream
  | .readDone => { x with priv := agmCompressEventCb .readDone x.priv, received := x.received + 1 }
  | .readBegin count =>
      if agmCompressReadBegin count x.priv = 0 then { x with pending := x.pending ++ [count] } else x
  | .readEnd i ret got =>
      match x.pending[i]? with
      | none => x
      | some count =>
          if count < got then x
          else if ret < 0 then { x with pending := x.pending.eraseIdx i }
          else
            { x with
              priv := agmCompressReadEnd got x.priv
              pending := x.pending.eraseIdx i
              consumed := x.consumed + x.priv.fragments got }
  | .start => x
  | .stop ret =>
      if ret = 0 then { x with priv := agmCompressStop ret x.priv, received := 0, consumed := 0 }
      else { x with priv := agmCompressStop ret x.priv }

/-- What is available was received and not consumed. -/
structure Accounted (x : CaptureStream) : Prop where
  balance : x.priv.bytesAvail = x.priv.size * x.received - x.priv.size * x.consumed
  nonneg : 0 ≤ x.priv.bytesAvail

/-- What a step is to leave. -/
structure Exact (x : CaptureStream) (a : CaptureStep) : Prop where
  accounted : (x.step a).Accounted
  reset : a = .stop 0 → (x.step a).priv.bytesAvail = 0

/-- The fragments for which the reads in between were accepted. -/
def pendingFragments (x : CaptureStream) : ℕ := (x.pending.map x.priv.fragments).sum

/-- A stop succeeds, although the buffer is not empty or a read is in between. -/
def Stops (x : CaptureStream) (a : CaptureStep) : Prop :=
  a = .stop 0 ∧ (x.priv.totalBufSize ≠ 0 ∨ x.pending ≠ [])

/-- A read is accepted for bytes for which the reads in between were accepted. -/
def Overcommits (x : CaptureStream) : CaptureStep → Prop
  | .readBegin count =>
      agmCompressReadBegin count x.priv = 0 ∧
        x.priv.bytesAvail < x.priv.size * (x.pendingFragments + x.priv.fragments count : ℕ)
  | _ => False

/-- More bytes become available than an `int64_t` counts, or a read asks for more fragments than
an `int` counts. -/
def Overflows (x : CaptureStream) : CaptureStep → Prop
  | .readDone => 2 ^ 63 ≤ x.priv.bytesAvail + x.priv.size
  | .readBegin count => 2 ^ 31 ≤ x.priv.fragments count
  | _ => False

/-- The steps under which the accounting is exact. -/
structure Orderly (x : CaptureStream) (a : CaptureStep) : Prop where
  stop : ¬ x.Stops a
  read : ¬ x.Overcommits a
  range : ¬ x.Overflows a

instance (x : CaptureStream) (a : CaptureStep) : Decidable (x.Stops a) :=
  inferInstanceAs (Decidable (_ ∧ _))

instance (x : CaptureStream) : DecidablePred x.Overcommits
  | .readBegin _ => inferInstanceAs (Decidable (_ ∧ _))
  | .readDone => .isFalse id
  | .readEnd _ _ _ => .isFalse id
  | .start => .isFalse id
  | .stop _ => .isFalse id

instance (x : CaptureStream) : DecidablePred x.Overflows
  | .readDone => inferInstanceAs (Decidable (_ ≤ _))
  | .readBegin _ => inferInstanceAs (Decidable (_ ≤ _))
  | .readEnd _ _ _ => .isFalse id
  | .start => .isFalse id
  | .stop _ => .isFalse id

instance (x : CaptureStream) (a : CaptureStep) : Decidable (x.Orderly a) :=
  decidable_of_iff (¬ x.Stops a ∧ ¬ x.Overcommits a ∧ ¬ x.Overflows a)
    ⟨fun h => ⟨h.1, h.2.1, h.2.2⟩, fun h => ⟨h.stop, h.read, h.range⟩⟩

/-! ### The books -/

/-- What is available was received and not consumed, and it suffices for the reads in between. -/
structure Books (x : CaptureStream) : Prop where
  balance : x.priv.bytesAvail = x.priv.size * x.received - x.priv.size * x.consumed
  covered : (x.priv.size * x.pendingFragments : ℕ) ≤ x.priv.bytesAvail
  few : ∀ count ∈ x.pending, x.priv.fragments count < 2 ^ 31

theorem Books.accounted {x : CaptureStream} (h : x.Books) : x.Accounted :=
  ⟨h.balance, (Int.natCast_nonneg _).trans h.covered⟩

/-- A shorter read has no more fragments. -/
theorem fragments_mono (priv : CompressPriv) {got count : ℕ} (h : got ≤ count) :
    priv.fragments got ≤ priv.fragments count := by
  unfold CompressPriv.fragments
  rcases Nat.eq_zero_or_pos priv.size with h0 | hpos
  · simp only [h0, Nat.div_zero, Nat.mod_zero]
    split_ifs <;> omega
  · have hdiv := Nat.div_le_div_right (c := priv.size) h
    have hgot := Nat.div_add_mod got priv.size
    have hcount := Nat.div_add_mod count priv.size
    rcases Nat.lt_or_eq_of_le hdiv with hlt | heq
    · split_ifs <;> omega
    · rw [heq] at hgot ⊢
      split_ifs <;> omega

section
variable {x : CaptureStream} (h : x.Books)
include h

theorem Books.readDone : (x.step .readDone).Books := by
  have hcov := h.covered
  refine ⟨?_, ?_, h.few⟩
  · show x.priv.bytesAvail + x.priv.size =
      x.priv.size * (x.received + 1 : ℕ) - x.priv.size * x.consumed
    rw [h.balance]
    push_cast
    ring
  · show (x.priv.size * x.pendingFragments : ℕ) ≤ x.priv.bytesAvail + x.priv.size
    omega

theorem Books.readBegin {count : ℕ} (hread : ¬ x.Overcommits (.readBegin count))
    (hrange : ¬ x.Overflows (.readBegin count)) : (x.step (.readBegin count)).Books := by
  unfold step
  dsimp only
  split_ifs with haccept
  · refine ⟨h.balance, ?_, ?_⟩
    · show ((x.priv.size * ((x.pending ++ [count]).map x.priv.fragments).sum : ℕ) : ℤ) ≤
        x.priv.bytesAvail
      rw [List.map_append, List.sum_append, List.map_singleton, List.sum_singleton]
      have hle := not_lt.mp fun hlt => hread ⟨haccept, hlt⟩
      rw [← Nat.cast_mul] at hle
      exact hle
    · intro c hc
      rcases List.mem_append.mp hc with hc | hc
      · exact h.few c hc
      · obtain rfl := List.mem_singleton.mp hc
        exact not_le.mp hrange
  · exact h

theorem Books.readEnd (i : ℕ) (ret : ℤ) (got : ℕ) : (x.step (.readEnd i ret got)).Books := by
  unfold step
  dsimp only
  cases hi : x.pending[i]? with
  | none => exact h
  | some count =>
      have hsum : _ = x.pendingFragments := CompressStream.fragments_eraseIdx x.priv hi
      have hcov := h.covered
      have hrest : ∀ c ∈ x.pending.eraseIdx i, x.priv.fragments c < 2 ^ 31 :=
        fun c hc => h.few c (List.mem_of_mem_eraseIdx hc)
      rw [← hsum, Nat.mul_add] at hcov
      dsimp only
      split_ifs with hlong hret
      · exact h
      · refine ⟨h.balance, ?_, hrest⟩
        show ((x.priv.size * ((x.pending.eraseIdx i).map x.priv.fragments).sum : ℕ) : ℤ) ≤ _
        push_cast at hcov ⊢
        have := Int.natCast_nonneg (x.priv.size * x.priv.fragments count)
        push_cast at this
        linarith
      · -- the fragments that were read are among those that the read was accepted for
        have hmono := fragments_mono x.priv (not_lt.mp hlong)
        have hfew := h.few count (List.mem_of_getElem? hi)
        have hint : ((x.priv.fragments got : ℕ) : ℤ).bmod (2 ^ 32) = x.priv.fragments got :=
          Int.bmod_eq_of_le (by omega) (by omega)
        refine ⟨?_, ?_, hrest⟩
        · show x.priv.bytesAvail - ((x.priv.fragments got : ℕ) : ℤ).bmod (2 ^ 32) * x.priv.size =
            x.priv.size * x.received - x.priv.size * (x.consumed + x.priv.fragments got : ℕ)
          rw [hint, h.balance]
          push_cast
          ring
        · show ((x.priv.size * ((x.pending.eraseIdx i).map x.priv.fragments).sum : ℕ) : ℤ) ≤
            x.priv.bytesAvail - ((x.priv.fragments got : ℕ) : ℤ).bmod (2 ^ 32) * x.priv.size
          rw [hint]
          have hle := Nat.mul_le_mul_left x.priv.size hmono
          zify at hle
          push_cast at hcov ⊢
          linarith

theorem Books.stop {ret : ℤ} (hstop : ¬ x.Stops (.stop ret)) : (x.step (.stop ret)).Books := by
  obtain ⟨hg, havail⟩ := CompressStream.stop_spec ret x.priv
  have hfr : (x.pending.map (agmCompressStop ret x.priv).fragments).sum = x.pendingFragments :=
    congrArg List.sum (List.map_congr_left fun c _ => hg.fragments c)
  have hfew : ∀ c ∈ x.pending, (agmCompressStop ret x.priv).fragments c < 2 ^ 31 := by
    intro c hc
    rw [hg.fragments]
    exact h.few c hc
  unfold step
  dsimp only
  split_ifs with hret
  · obtain ⟨htotal, hpending⟩ : x.priv.totalBufSize = 0 ∧ x.pending = [] := by
      subst hret
      by_contra hne
      exact hstop ⟨rfl, by tauto⟩
    rw [if_pos hret, htotal] at havail
    refine ⟨?_, ?_, hfew⟩
    · show (agmCompressStop ret x.priv).bytesAvail = _ * ((0 : ℕ) : ℤ) - _ * ((0 : ℕ) : ℤ)
      rw [havail]
      simp
    · show ((_ * (x.pending.map (agmCompressStop ret x.priv).fragments).sum : ℕ) : ℤ) ≤
        (agmCompressStop ret x.priv).bytesAvail
      rw [havail, hpending]
      simp
  · rw [if_neg hret] at havail
    refine ⟨?_, ?_, hfew⟩
    · show (agmCompressStop ret x.priv).bytesAvail = _ * (x.received : ℤ) - _ * (x.consumed : ℤ)
      rw [havail, hg.2.1]
      exact h.balance
    · show ((_ * (x.pending.map (agmCompressStop ret x.priv).fragments).sum : ℕ) : ℤ) ≤
        (agmCompressStop ret x.priv).bytesAvail
      rw [havail, hfr, hg.2.1]
      exact h.covered

theorem Books.step {a : CaptureStep} (ha : x.Orderly a) : (x.step a).Books := by
  cases a with
  | readDone => exact h.readDone
  | readBegin count => exact h.readBegin ha.read ha.range
  | readEnd i ret got => exact h.readEnd i ret got
  | start => exact h
  | stop ret => exact h.stop ha.stop

theorem Books.exact {a : CaptureStep} (ha : x.Orderly a) : x.Exact a := by
  refine ⟨(h.step ha).accounted, ?_⟩
  rintro rfl
  obtain ⟨-, havail⟩ := CompressStream.stop_spec 0 x.priv
  have htotal : x.priv.totalBufSize = 0 := by
    by_contra hne
    exact ha.stop ⟨rfl, .inl hne⟩
  show (agmCompressStop 0 x.priv).bytesAvail = 0
  rw [havail, if_pos rfl, htotal]
  rfl

end

end CaptureStream

/-! ### Runs -/

/-- A capture stream right after `agm_compress_set_params`. -/
def CaptureStream.init (fragments fragmentSize : ℕ) (priv : CompressPriv) : CaptureStream :=
  ⟨agmCompressSetParamsOn .tx fragments fragmentSize priv, [], 0, 0⟩

theorem CaptureStream.books_init (n f : ℕ) (priv : CompressPriv) :
    (CaptureStream.init n f priv).Books := by
  refine ⟨?_, ?_, nofun⟩
  · show (0 : ℤ) = _ * ((0 : ℕ) : ℤ) - _ * ((0 : ℕ) : ℤ)
    simp
  · show ((_ * 0 : ℕ) : ℤ) ≤ 0
    simp

/-- From `agm_compress_set_params` on, which makes nothing available, in every run in which no stop
succeeds (unless the buffer is empty and no read is in between), no read is accepted for bytes that a
read in between was accepted for, and no number overflows: after each step what is available is what
was received and not consumed since the last reset, it is not negative, and it is 0 after a
successful stop. -/
theorem captured_accounted (n f : ℕ) (priv : CompressPriv) (steps : List CaptureStep)
    (hs : Along CaptureStream.step CaptureStream.Orderly steps (.init n f priv)) :
    (CaptureStream.init n f priv).priv.bytesAvail = 0 ∧
      Along CaptureStream.step CaptureStream.Exact steps (.init n f priv) :=
  ⟨rfl, Along.imp (I := CaptureStream.Books) (fun _ _ h ha => h.step ha) (fun _ _ h ha => h.exact ha)
    (CaptureStream.books_init n f priv) hs⟩

/-- Two reads of different fragments, the second of which gets less than a fragment, and a stop that
fails. -/
theorem captured_accounted_twoReads :
    (CaptureStream.init 4 8192 (agmCompressSetParams 0 0)).priv.bytesAvail = 0 ∧
      Along CaptureStream.step CaptureStream.Exact
        [.start, .readDone, .readDone, .readBegin 8192, .readBegin 8192, .readEnd 0 0 8192,
          .readEnd 0 0 100, .stop (-EINVAL), .readDone]
        (.init 4 8192 (agmCompressSetParams 0 0)) :=
  captured_accounted 4 8192 (agmCompressSetParams 0 0) _ (by decide +kernel)

/-- A stream is started and stopped: all of its empty buffer is available. -/
theorem captured_accounted_stopped :
    ¬ Along CaptureStream.step CaptureStream.Exact [.start, .stop 0]
      (.init 4 8192 (agmCompressSetParams 0 0)) := by
  intro h
  have hreset := h.2.1.reset rfl
  exact absurd hreset (by decide)

end Agm
