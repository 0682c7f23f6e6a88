import Agm.Types
import Agm.Lib.Run
import Mathlib.Algebra.BigOperators.Group.List.Basic

/-! # Byte accounting of a compress playback stream (`agm_compress_plugin.c`)

`agm_compress_write` hands the data to `agm_session_write`, which queues it in fragments, and
then takes the queued fragments off `bytes_avail` under the lock.  The DSP raises one
`AGM_EVENT_WRITE_DONE` for each queued fragment, and `agm_compress_event_cb` adds the fragment
back.  The callback can come between the two steps of a write.

* `CompressStream` is the plugin with the queue of the DSP and the writes that are between their
  two steps; `CompressStream.step` is one atomic step of a writer, the DSP or `agm_compress_stop`.
* `CompressStream.Books`: what is available and what is queued add up to the buffer, but for the
  fragments of the writes in between.

`bytes_accounted`: the accounting is exact in every run in which the stream is not stopped while
a write is between its steps; and every callback signals `poll_cond` if, besides, none comes
when all queued fragments belong to such writes. -/

namespace Agm

open Run

/-- The condition variables of the plugin. -/
inductive ComprCond where
  | drain | eos | poll
deriving DecidableEq, Repr

/-- `struct agm_compress_priv`; `signals` records the signalled conditions, latest first. -/
structure CompressPriv where
  count : ℕ
  size : ℕ
  totalBufSize : ℕ
  bytesAvail : ℤ
  prepared : Bool := false
  bytesCopied : ℕ := 0
  bytesReceived : ℕ := 0
  bytesRead : ℕ := 0
  startDrain : Bool := false
  eos : Bool := false
  signals : List ComprCond := []
deriving DecidableEq, Repr

/-- `agm_compress_set_params` on a playback stream. -/
def agmCompressSetParams (fragments fragmentSize : ℕ) : CompressPriv where
  count := fragments
  size := fragmentSize
  totalBufSize := fragmentSize * fragments % 2 ^ 64
  bytesAvail := (fragmentSize * fragments % 2 ^ 64 : ℕ)

def CompressPriv.signal (priv : CompressPriv) (c : ComprCond) : CompressPriv :=
  { priv with signals := c :: priv.signals }

/-- The data events, as in `enum agm_event_id`. -/
inductive DataEvent where
  | eosRendered | readDone | writeDone
deriving DecidableEq, Repr

/-- `agm_compress_event_cb`.  The comparison of `bytes_avail` is made on `uint64_t`; where it
fails, the callback returns without signalling `poll_cond`. -/
def agmCompressEventCb (event : DataEvent) (priv : CompressPriv) : CompressPriv :=
  match event with
  | .writeDone =>
      let priv := { priv with bytesAvail := priv.bytesAvail + priv.size }
      if (priv.totalBufSize : ℤ) < priv.bytesAvail % 2 ^ 64 then priv
      else
        let priv := if priv.startDrain ∧ priv.bytesAvail % 2 ^ 64 = priv.totalBufSize then
          priv.signal .drain else priv
        priv.signal .poll
  | .readDone =>
      { priv with
        bytesAvail := priv.bytesAvail + priv.size
        bytesReceived := priv.bytesReceived + priv.size }.signal .poll
  | .eosRendered =>
      let priv := if priv.eos then { priv with eos := false }.signal .eos else priv
      priv.signal .poll

/-- `agm_compress_write` up to the call of `agm_session_write`. -/
def agmCompressWriteBegin (count : ℕ) (prepareRet : ℤ) (priv : CompressPriv) : ℤ × CompressPriv :=
  if priv.totalBufSize < count then (-EINVAL, priv)
  else if !priv.prepared then
    if prepareRet ≠ 0 then (prepareRet, priv) else (0, { priv with prepared := true })
  else (0, priv)

/-- The fragments that hold `size` bytes. -/
def CompressPriv.fragments (priv : CompressPriv) (size : ℕ) : ℕ :=
  size / priv.size + if size % priv.size ≠ 0 then 1 else 0

/-- The locked part of `agm_compress_write`; the result is an `int`. -/
def agmCompressWriteEnd (size : ℕ) (priv : CompressPriv) : ℤ × CompressPriv :=
  let priv := { priv with bytesAvail := priv.bytesAvail - priv.fragments size * priv.size }
  if priv.bytesAvail < 0 then (-EINVAL, priv)
  else ((size : ℤ).bmod (2 ^ 32), { priv with bytesCopied := priv.bytesCopied + size })

/-- `agm_compress_stop` when `agm_session_stop` returns `ret`. -/
def agmCompressStop (ret : ℤ) (priv : CompressPriv) : CompressPriv :=
  let priv := if priv.eos then { priv with eos := false }.signal .eos else priv
  let priv := priv.signal .poll
  if ret ≠ 0 then priv else { priv with bytesAvail := priv.totalBufSize, bytesCopied := 0 }

/-! ### The stream -/

/-- The plugin, the number of fragments queued and not yet done, and the sizes of the writes that
have been queued and not yet taken off `bytes_avail`. -/
structure CompressStream where
  priv : CompressPriv
  queued : ℕ := 0
  pending : List ℕ := []
deriving DecidableEq, Repr

inductive CompressStep where
  /-- A write up to and including `agm_session_write`. -/
  | queue (count : ℕ) (prepareRet : ℤ)
  /-- The locked part of the `i`-th write in between. -/
  | account (i : ℕ)
  /-- A queued fragment is done. -/
  | writeDone
  | stop (ret : ℤ)
deriving DecidableEq, Repr

namespace CompressStream

/-- `agm_session_write` queues the fragments if that many slots are free and fails otherwise;
there is a callback for a queued fragment only, and a stopped session has none. -/
def step (x : CompressStream) : CompressStep → CompressStream
  | .queue count prepareRet =>
      let (ret, priv) := agmCompressWriteBegin count prepareRet x.priv
      if ret = 0 ∧ priv.fragments count ≤ priv.count - x.queued then
        { priv, queued := x.queued + priv.fragments count, pending := x.pending ++ [count] }
      else { x with priv }
  | .account i =>
      match x.pending[i]? with
      | none => x
      | some size =>
          { x with priv := (agmCompressWriteEnd size x.priv).2, pending := x.pending.eraseIdx i }
  | .writeDone =>
      if x.queued = 0 then x
      else { x with priv := agmCompressEventCb .writeDone x.priv, queued := x.queued - 1 }
  | .stop ret =>
      { x with priv := agmCompressStop ret x.priv, queued := if ret = 0 then 0 else x.queued }

/-- The fragments of the writes in between. -/
def pendingFragments (x : CompressStream) : ℕ := (x.pending.map x.priv.fragments).sum

/-- Available bytes and queued fragments make up the buffer. -/
structure Accounted (x : CompressStream) : Prop where
  balance : x.priv.bytesAvail + x.priv.size * x.queued = x.priv.totalBufSize
  nonneg : 0 ≤ x.priv.bytesAvail
  le : x.priv.bytesAvail ≤ x.priv.totalBufSize
  dvd : (x.priv.size : ℤ) ∣ x.priv.bytesAvail

/-- What a step is to leave and to return. -/
structure Exact (x : CompressStream) (a : CompressStep) : Prop where
  accounted : (x.step a).pending = [] → (x.step a).Accounted
  returns : ∀ i size, a = .account i → x.pending[i]? = some size →
    (agmCompressWriteEnd size x.priv).1 = size
  polls : a = .writeDone → 0 < x.queued →
    (x.step a).priv.signals.count .poll = x.priv.signals.count .poll + 1

/-- The stream is stopped while a write is between its steps. -/
def StopsAmidWrite (x : CompressStream) (a : CompressStep) : Prop :=
  a = .stop 0 ∧ x.pending ≠ []

/-- A callback comes when all queued fragments belong to writes in between. -/
def DoneBeforeAccount (x : CompressStream) (a : CompressStep) : Prop :=
  a = .writeDone ∧ 0 < x.queued ∧ x.queued ≤ x.pendingFragments

/-- A write of a size that does not fit an `int`. -/
def LongWrite : CompressStep → Prop
  | .queue count _ => 2 ^ 31 ≤ count
  | _ => False

/-! ### The functions of the plugin -/

/-- The geometry of the buffer, which no step changes. -/
def Geometry (priv priv' : CompressPriv) : Prop :=
  priv'.count = priv.count ∧ priv'.size = priv.size ∧ priv'.totalBufSize = priv.totalBufSize

theorem Geometry.fragments {priv priv' : CompressPriv} (h : Geometry priv priv') (size : ℕ) :
    priv'.fragments size = priv.fragments size := by
  unfold CompressPriv.fragments
  rw [h.2.1]

theorem writeBegin_spec (count : ℕ) (prepareRet : ℤ) (priv : CompressPriv) :
    Geometry priv (agmCompressWriteBegin count prepareRet priv).2 ∧
      (agmCompressWriteBegin count prepareRet priv).2.bytesAvail = priv.bytesAvail := by
  unfold agmCompressWriteBegin
  split_ifs <;> exact ⟨⟨rfl, rfl, rfl⟩, rfl⟩

theorem writeEnd_spec (size : ℕ) (priv : CompressPriv) :
    Geometry priv (agmCompressWriteEnd size priv).2 ∧
      (agmCompressWriteEnd size priv).2.bytesAvail =
        priv.bytesAvail - priv.fragments size * priv.size := by
  unfold agmCompressWriteEnd
  simp only
  split_ifs <;> exact ⟨⟨rfl, rfl, rfl⟩, rfl⟩

theorem writeDone_spec (priv : CompressPriv) :
    Geometry priv (agmCompressEventCb .writeDone priv) ∧
      (agmCompressEventCb .writeDone priv).bytesAvail = priv.bytesAvail + priv.size := by
  unfold agmCompressEventCb
  simp only
  split_ifs <;> exact ⟨⟨rfl, rfl, rfl⟩, rfl⟩

/-- A callback that finds room for its fragment signals `poll_cond`. -/
theorem writeDone_polls {priv : CompressPriv} (h0 : 0 ≤ priv.bytesAvail + priv.size)
    (hle : priv.bytesAvail + priv.size ≤ priv.totalBufSize) (ht : priv.totalBufSize < 2 ^ 63) :
    (agmCompressEventCb .writeDone priv).signals.count .poll = priv.signals.count .poll + 1 := by
  have hmod : (priv.bytesAvail + priv.size) % 2 ^ 64 = priv.bytesAvail + priv.size :=
    Int.emod_eq_of_lt h0 (by omega)
  unfold agmCompressEventCb
  simp only
  rw [if_neg (by rw [hmod]; exact not_lt.mpr hle)]
  split_ifs <;> simp [CompressPriv.signal]

theorem stop_spec (ret : ℤ) (priv : CompressPriv) :
    Geometry priv (agmCompressStop ret priv) ∧
      (agmCompressStop ret priv).bytesAvail =
        if ret = 0 then (priv.totalBufSize : ℤ) else priv.bytesAvail := by
  unfold agmCompressStop
  by_cases hret : ret = 0
  · simp only [hret, if_true, ne_eq, not_true_eq_false, if_false]
    split_ifs <;> exact ⟨⟨rfl, rfl, rfl⟩, rfl⟩
  · simp only [hret, if_false, ne_eq, not_false_eq_true, if_true]
    split_ifs <;> exact ⟨⟨rfl, rfl, rfl⟩, rfl⟩

/-! ### The books -/

/-- Available bytes and queued fragments make up the buffer and the fragments of the writes in
between; the queue is never longer than the buffer. -/
structure Books (x : CompressStream) : Prop where
  sizePos : 0 < x.priv.size
  total : x.priv.totalBufSize = x.priv.size * x.priv.count
  totalLt : x.priv.totalBufSize < 2 ^ 63
  balance : x.priv.bytesAvail + x.priv.size * x.queued =
    x.priv.totalBufSize + x.priv.size * x.pendingFragments
  room : x.queued ≤ x.priv.count
  short : ∀ size ∈ x.pending, size < 2 ^ 31

theorem pendingFragments_eq {x : CompressStream} {priv : CompressPriv}
    (h : Geometry x.priv priv) (queued : ℕ) (pending : List ℕ) :
    pendingFragments ⟨priv, queued, pending⟩ = (pending.map x.priv.fragments).sum := by
  unfold pendingFragments
  exact congrArg List.sum (List.map_congr_left fun size _ => h.fragments size)

/-- The fragments of one size of a list and of the others. -/
theorem fragments_eraseIdx (priv : CompressPriv) {pending : List ℕ} {i size : ℕ}
    (hi : pending[i]? = some size) :
    priv.fragments size + ((pending.eraseIdx i).map priv.fragments).sum =
      (pending.map priv.fragments).sum := by
  obtain ⟨hlt, rfl⟩ := List.getElem?_eq_some_iff.mp hi
  have hlen : i < (pending.map priv.fragments).length := by rwa [List.length_map]
  have hsum := List.add_sum_eraseIdx (l := pending.map priv.fragments) hlen
    fun _ _ => AddCommute.all _ _
  rw [List.getElem_map, List.eraseIdx_map] at hsum
  exact hsum

/-- The fragments of a write in between and of the others. -/
theorem pendingFragments_account {x : CompressStream} {i size : ℕ} (hi : x.pending[i]? = some size) :
    x.priv.fragments size + ((x.pending.eraseIdx i).map x.priv.fragments).sum =
      x.pendingFragments :=
  fragments_eraseIdx x.priv hi

section
variable {x : CompressStream} (h : x.Books)
include h

/-- A new state with the same geometry keeps the books if the balance does. -/
theorem Books.of_geometry {priv : CompressPriv} {queued : ℕ} {pending : List ℕ}
    (hg : Geometry x.priv priv)
    (hb : priv.bytesAvail + x.priv.size * queued =
      x.priv.totalBufSize + x.priv.size * (pending.map x.priv.fragments).sum)
    (hr : queued ≤ x.priv.count) (hs : ∀ size ∈ pending, size < 2 ^ 31) :
    Books ⟨priv, queued, pending⟩ := by
  have hfr := pendingFragments_eq hg queued pending
  obtain ⟨hcount, hsize, htotal⟩ := hg
  refine ⟨?_, ?_, ?_, ?_, ?_, hs⟩
  · show 0 < priv.size
    rw [hsize]
    exact h.sizePos
  · show priv.totalBufSize = priv.size * priv.count
    rw [htotal, hsize, hcount]
    exact h.total
  · show priv.totalBufSize < 2 ^ 63
    rw [htotal]
    exact h.totalLt
  · rw [hfr]
    show priv.bytesAvail + priv.size * queued = priv.totalBufSize + priv.size * _
    rw [hsize, htotal]
    exact hb
  · show queued ≤ priv.count
    rw [hcount]
    exact hr

theorem Books.queue {count : ℕ} (prepareRet : ℤ) (hshort : count < 2 ^ 31) :
    (x.step (.queue count prepareRet)).Books := by
  obtain ⟨hg, havail⟩ := writeBegin_spec count prepareRet x.priv
  unfold step
  simp only
  split_ifs with hc
  · have hfr := hg.fragments count
    have hcount := hg.1
    have hroom := h.room
    have hbal := h.balance
    rw [hfr, hcount] at hc
    refine h.of_geometry hg ?_ ?_ ?_
    · rw [havail, hfr, List.map_append, List.sum_append, List.map_singleton, List.sum_singleton]
      unfold pendingFragments at hbal
      rw [Nat.cast_add, Nat.cast_add, mul_add, mul_add, ← add_assoc, ← add_assoc, hbal]
    · rw [hfr]
      omega
    · intro size hsize
      rcases List.mem_append.mp hsize with hsize | hsize
      · exact h.short size hsize
      · rw [List.mem_singleton.mp hsize]
        exact hshort
  · exact h.of_geometry hg (by rw [havail]; exact h.balance) h.room h.short

theorem Books.account (i : ℕ) : (x.step (.account i)).Books := by
  cases hi : x.pending[i]? with
  | none =>
      rw [show x.step (.account i) = x by simp only [step, hi]]
      exact h
  | some size =>
      obtain ⟨hg, havail⟩ := writeEnd_spec size x.priv
      simp only [step, hi]
      refine h.of_geometry hg ?_ h.room fun size hs => h.short size (List.mem_of_mem_eraseIdx hs)
      have hsum := pendingFragments_account hi
      have hbal := h.balance
      rw [← hsum] at hbal
      rw [havail]
      push_cast at hbal ⊢
      linarith

theorem Books.writeDone : (x.step .writeDone).Books := by
  obtain ⟨hg, havail⟩ := writeDone_spec x.priv
  unfold step
  simp only
  split_ifs with h0
  · exact h
  · have hroom := h.room
    refine h.of_geometry hg ?_ (by omega) h.short
    have hbal := h.balance
    have hq : ((x.queued - 1 : ℕ) : ℤ) = x.queued - 1 := by omega
    unfold pendingFragments at hbal
    rw [havail, hq]
    linarith

theorem Books.stop {ret : ℤ} (hp : ret = 0 → x.pending = []) : (x.step (.stop ret)).Books := by
  obtain ⟨hg, havail⟩ := stop_spec ret x.priv
  unfold step
  simp only
  by_cases hret : ret = 0
  · rw [if_pos hret] at havail ⊢
    refine h.of_geometry hg ?_ (Nat.zero_le _) h.short
    rw [havail, hp hret]
    simp
  · rw [if_neg hret] at havail ⊢
    refine h.of_geometry hg ?_ h.room h.short
    rw [havail]
    exact h.balance

end

/-! ### Runs -/

section
variable {x : CompressStream} (h : x.Books)
include h

/-- Without writes in between the books are the accounts. -/
theorem Books.accounted (hp : x.pending = []) : x.Accounted := by
  have hbal := h.balance
  have hzero : x.pendingFragments = 0 := by
    unfold pendingFragments
    rw [hp]
    rfl
  rw [hzero, Nat.cast_zero, mul_zero, add_zero] at hbal
  have hle : x.priv.size * x.queued ≤ x.priv.totalBufSize := by
    rw [h.total]
    exact Nat.mul_le_mul_left _ h.room
  have havail : x.priv.bytesAvail = x.priv.size * (x.priv.count - x.queued) := by
    have htotal := h.total
    zify at htotal
    rw [mul_sub, ← htotal, ← hbal]
    ring
  zify at hle
  have hq : (0 : ℤ) ≤ x.priv.size * x.queued :=
    mul_nonneg (Int.natCast_nonneg _) (Int.natCast_nonneg _)
  exact ⟨hbal, by linarith, by linarith, havail ▸ dvd_mul_right _ _⟩

/-- What a write in between returns. -/
theorem Books.returns {i size : ℕ} (hi : x.pending[i]? = some size) :
    (agmCompressWriteEnd size x.priv).1 = size := by
  have hsum := pendingFragments_account hi
  have hshort := h.short size (List.mem_of_getElem? hi)
  have hbal := h.balance
  have hroom : x.priv.size * x.queued ≤ x.priv.totalBufSize := by
    rw [h.total]
    exact Nat.mul_le_mul_left _ h.room
  rw [← hsum] at hbal
  zify at hroom
  have hothers : (0 : ℤ) ≤ x.priv.size * ((x.pending.eraseIdx i).map x.priv.fragments).sum :=
    mul_nonneg (Int.natCast_nonneg _) (Int.natCast_nonneg _)
  have hnonneg : 0 ≤ x.priv.bytesAvail - x.priv.fragments size * x.priv.size := by
    rw [Nat.cast_add, mul_add] at hbal
    linarith
  have hint : (size : ℤ).bmod (2 ^ 32) = size := Int.bmod_eq_of_le (by omega) (by omega)
  unfold agmCompressWriteEnd
  simp only
  rw [if_neg (not_lt.mpr hnonneg), hint]

/-- A callback signals `poll_cond` when some queued fragment is already taken off. -/
theorem Books.polls (hq : x.pendingFragments < x.queued) :
    (agmCompressEventCb .writeDone x.priv).signals.count .poll =
      x.priv.signals.count .poll + 1 := by
  have hbal := h.balance
  have hsize : x.priv.size * x.queued ≤ x.priv.totalBufSize := by
    rw [h.total]
    exact Nat.mul_le_mul_left _ h.room
  have hnext : x.priv.size * x.pendingFragments + x.priv.size ≤ x.priv.size * x.queued := by
    rw [← Nat.mul_succ]
    exact Nat.mul_le_mul_left _ hq
  zify at hsize hnext
  have hp : (0 : ℤ) ≤ x.priv.size * x.pendingFragments :=
    mul_nonneg (Int.natCast_nonneg _) (Int.natCast_nonneg _)
  exact writeDone_polls (by linarith) (by linarith) h.totalLt

end

/-- The steps under which the accounting is exact. -/
structure Orderly (x : CompressStream) (a : CompressStep) : Prop where
  stop : ¬ x.StopsAmidWrite a
  done : ¬ x.DoneBeforeAccount a
  write : ¬ LongWrite a

instance (x : CompressStream) (a : CompressStep) : Decidable (x.StopsAmidWrite a) :=
  inferInstanceAs (Decidable (_ ∧ _))

instance (x : CompressStream) (a : CompressStep) : Decidable (x.DoneBeforeAccount a) :=
  inferInstanceAs (Decidable (_ ∧ _))

instance : DecidablePred LongWrite
  | .queue count _ => inferInstanceAs (Decidable (2 ^ 31 ≤ count))
  | .account _ => .isFalse id
  | .writeDone => .isFalse id
  | .stop _ => .isFalse id

instance (x : CompressStream) (a : CompressStep) : Decidable (x.Orderly a) :=
  decidable_of_iff (¬ x.StopsAmidWrite a ∧ ¬ x.DoneBeforeAccount a ∧ ¬ LongWrite a)
    ⟨fun h => ⟨h.1, h.2.1, h.2.2⟩, fun h => ⟨h.stop, h.done, h.write⟩⟩

theorem Books.step {x : CompressStream} (h : x.Books) {a : CompressStep} (ha : x.Orderly a) :
    (x.step a).Books := by
  cases a with
  | queue count prepareRet =>
      exact h.queue prepareRet (not_le.mp ha.write)
  | account i => exact h.account i
  | writeDone => exact h.writeDone
  | stop ret =>
      refine h.stop fun hret => ?_
      by_contra hne
      exact ha.stop ⟨by rw [hret], hne⟩

theorem Books.exact {x : CompressStream} (h : x.Books) {a : CompressStep} (ha : x.Orderly a) :
    x.Exact a := by
  refine ⟨(h.step ha).accounted, ?_, ?_⟩
  · rintro i size rfl hi
    exact h.returns hi
  · rintro rfl hq
    have hlt : x.pendingFragments < x.queued :=
      not_le.mp fun hle => ha.done ⟨rfl, hq, hle⟩
    rw [show x.step .writeDone = _ from if_neg hq.ne']
    exact h.polls hlt

end CompressStream

/-- A playback stream right after `agm_compress_set_params`. -/
def CompressStream.init (fragments fragmentSize : ℕ) : CompressStream :=
  ⟨agmCompressSetParams fragments fragmentSize, 0, []⟩

theorem CompressStream.books_init {n f : ℕ} (hf : 0 < f) (ht : n * f < 2 ^ 63) :
    (CompressStream.init n f).Books := by
  have hmod : f * n % 2 ^ 64 = f * n := Nat.mod_eq_of_lt (by rw [Nat.mul_comm]; omega)
  refine ⟨hf, hmod, ?_, ?_, Nat.zero_le _, fun size hs => (by cases hs)⟩
  · show f * n % 2 ^ 64 < 2 ^ 63
    rw [hmod, Nat.mul_comm]
    exact ht
  · simp [CompressStream.init, agmCompressSetParams, CompressStream.pendingFragments]

/-- In every run in which the stream is not stopped while a write is between its steps, no
callback comes while all queued fragments belong to such writes, and every write is shorter than
`2^31` bytes: whenever no write is in between, the available bytes and the queued fragments make
up the buffer; every queued write returns its size; and every callback signals `poll_cond`. -/
theorem bytes_accounted {n f : ℕ} (hf : 0 < f) (ht : n * f < 2 ^ 63) (steps : List CompressStep)
    (hs : Along CompressStream.step CompressStream.Orderly steps (.init n f)) :
    Along CompressStream.step CompressStream.Exact steps (.init n f) :=
  Along.imp (I := CompressStream.Books) (fun _ _ h ha => h.step ha) (fun _ _ h ha => h.exact ha)
    (CompressStream.books_init hf ht) hs

/-- Two fragments are written, and done one by one; the second is discarded by the stop. -/
theorem bytes_accounted_writeAndStop :
    Along CompressStream.step CompressStream.Exact
      [.queue 10000 0, .account 0, .writeDone, .queue 8192 0, .account 0, .stop 0]
      (.init 4 8192) :=
  bytes_accounted (by decide) (by decide) _ (by decide +kernel)

/-- The first fragment of a stream is done before its write is accounted for: the callback does
not signal `poll_cond`. -/
theorem bytes_accounted_doneAtOnce :
    ¬ Along CompressStream.step CompressStream.Exact [.queue 8192 0, .writeDone]
      (.init 4 8192) := by
  intro h
  have hpolls := h.2.1.polls rfl (by decide)
  exact absurd hpolls (by decide)

end Agm
