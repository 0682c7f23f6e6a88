import Agm.OpenCount

/-! # The start count of a device

The counter `refcnt.start` of a device is meant to be the number of pairs that have it started,
its state to be `DEV_STARTED` while there is one, and `pcm_stop` to be called when the last of
them stops while the pcm stays open.

A pair leaves `AIF_STARTED` by a stop, or because it is closed or disconnected.  The latter two
call `device_close` only, which forgets the start count when nobody else has the device open and
keeps it otherwise.  `StartHonest` asks that a started pair is closed or disconnected only as the
last user of its device; in every run of such calls the start counts are exact
(`start_count_exact`). -/

namespace Agm

open Prog

/-! ### Reading a trace -/

/-- The pairs that are started after the events of a trace. -/
def startedPairs : List DevEvent → ℤ
  | [] => 0
  | .pairStarted :: t => startedPairs t + 1
  | .pairStopped :: t => startedPairs t - 1
  | _ :: t => startedPairs t

/-- `pcm_stop` is called exactly when the last started pair stops while the pcm stays open: right
before that moment, and at no other.  The flag says that the pcm is closed next, so that it does
not stay open. -/
def StopsExact : Bool → List DevEvent → Prop
  | _, [] => True
  | _, .pcmClose :: t => StopsExact true t
  | _, .pcmStop :: _ => False
  | _, .pairStopped :: .pcmStop :: t =>
      startedPairs t = 1 ∧ pcmIsOpen t = true ∧ StopsExact false t
  | closing, .pairStopped :: t =>
      (startedPairs t = 1 → pcmIsOpen t = true → closing = true) ∧ StopsExact false t
  | _, _ :: t => StopsExact false t

/-- A pair stops without `pcm_stop`. -/
theorem stopsExact_pairStopped {b : Bool} {t : List DevEvent} (h : StopsExact false t) :
    StopsExact b (.pairStopped :: t) ↔ (startedPairs t = 1 → pcmIsOpen t = true → b = true) := by
  cases t with
  | nil => simp [StopsExact]
  | cons e t =>
      cases e with
      | pcmStop => exact h.elim
      | _ =>
          unfold StopsExact
          exact and_iff_left h

theorem StopsExact.closing {t : List DevEvent} (h : StopsExact false t) : StopsExact true t := by
  cases t with
  | nil => trivial
  | cons e t =>
      cases e with
      | pairStopped =>
          cases t with
          | nil => trivial
          | cons e t =>
              cases e with
              | pcmStop => exact h
              | _ =>
                  unfold StopsExact at h ⊢
                  exact ⟨fun _ _ => rfl, h.2⟩
      | pcmStop => exact h
      | pcmClose => exact h
      | pcmOpen => exact h
      | pcmPrepare => exact h
      | pairStarted => exact h

/-! ### One device -/

/-- The device has `n` started pairs, and its counters, its state and its pcm agree with that. -/
structure DevOk (n : ℤ) (x : DevCore) : Prop where
  start : x.refcnt.start = n
  replay : startedPairs x.trace = n
  nonneg : 0 ≤ n
  started : x.state = .devStarted ↔ 0 < x.refcnt.start
  prepared : x.refcnt.prepare = 0 ↔ x.state.toNat < DeviceState.devPrepared.toNat
  prepare_nonneg : 0 ≤ x.refcnt.prepare
  idle : x.refcnt.open = 0 → x.refcnt.prepare = 0
  stops : StopsExact false x.trace

namespace DevOk

variable {n : ℤ} {x : DevCore}

theorem opened (h : DevOk n x) (h0 : x.refcnt.open = 0 → n = 0) (hn : 0 ≤ x.refcnt.open) :
    DevOk n x.opened := by
  unfold DevCore.opened
  split_ifs with ho
  · have hst : x.refcnt.start = 0 := h.start.trans (h0 ho)
    refine ⟨h.start, h.replay, h.nonneg, ?_, ?_, h.prepare_nonneg, ?_, h.stops⟩
    · simp [hst]
    · simp [h.idle ho, DeviceState.toNat]
    · simp
  · exact ⟨h.start, h.replay, h.nonneg, h.started, h.prepared, h.prepare_nonneg,
      fun he => by simp at he; omega, h.stops⟩

theorem prepare (h : DevOk n x) (ho : x.refcnt.open ≠ 0) : DevOk n x.prepared := by
  unfold DevCore.prepared
  split_ifs with hp
  · have hlow := h.prepared.mp hp
    have hst : ¬ 0 < x.refcnt.start := by
      rw [← h.started]
      intro e
      rw [e] at hlow
      exact absurd hlow (by decide)
    refine ⟨h.start, h.replay, h.nonneg, ?_, ?_, ?_, fun he => absurd he ho, h.stops⟩
    · simp [hst]
    · simp [DeviceState.toNat]
    · simp
  · refine ⟨h.start, h.replay, h.nonneg, h.started, ?_, ?_, fun he => absurd he ho, h.stops⟩
    · have := h.prepare_nonneg
      have hhigh := mt h.prepared.mpr hp
      simp only [hhigh, iff_false]
      omega
    · have := h.prepare_nonneg
      simp only
      omega

theorem notPrepared (h : DevOk n x) : DevOk n x.notPrepared :=
  ⟨h.start, h.replay, h.nonneg, h.started, h.prepared, h.prepare_nonneg, h.idle, h.stops⟩

/-- A pair starts. -/
theorem start_pair (h : DevOk n x) (hp : DeviceState.devPrepared.toNat ≤ x.state.toNat) :
    DevOk (n + 1) (DevCore.observed [.pairStarted] x.started) := by
  have hpn : x.refcnt.prepare ≠ 0 := fun e => absurd (h.prepared.mp e) (not_lt.mpr hp)
  have h0 := h.nonneg
  unfold DevCore.started DevCore.observed
  split_ifs with hs
  · have hn : n = 0 := h.start.symm.trans hs
    subst hn
    refine ⟨rfl, ?_, by omega, by simp, ?_, h.prepare_nonneg, h.idle, h.stops⟩
    · simp [startedPairs, h.replay]
    · simp [hpn, DeviceState.toNat]
  · have hstart := h.start
    refine ⟨?_, ?_, by omega, ?_, h.prepared, h.prepare_nonneg, h.idle, h.stops⟩
    · simp [hstart]
    · simp [startedPairs, h.replay]
    · simp only [h.started]
      omega

/-- A pair stops. -/
theorem stop_pair (h : DevOk (n + 1) x) (hn : 0 ≤ n) (ho : pcmIsOpen x.trace = true) :
    DevOk n (DevCore.observed [.pairStopped] x.stopped) := by
  have hstart := h.start
  have hpos : x.state = .devStarted := h.started.mpr (by omega)
  have hpn : x.refcnt.prepare ≠ 0 := by
    intro e
    have := h.prepared.mp e
    rw [hpos] at this
    exact absurd this (by decide)
  unfold DevCore.stopped DevCore.observed
  split_ifs with h0 h1
  · omega
  · have hn0 : n = 0 := by omega
    subst hn0
    refine ⟨rfl, ?_, le_rfl, by simp, ?_, h.prepare_nonneg, h.idle, ?_⟩
    · simp [startedPairs, h.replay]
    · simp [hpn, DeviceState.toNat]
    · exact ⟨by simpa using h.replay, ho, h.stops⟩
  · refine ⟨?_, ?_, hn, ?_, h.prepared, h.prepare_nonneg, h.idle, ?_⟩
    · simp only
      omega
    · simp [startedPairs, h.replay]
    · simp only [h.started]
      omega
    · refine (stopsExact_pairStopped h.stops).mpr fun hr => ?_
      have := h.replay
      omega

/-- A user that has not started the device leaves it. -/
theorem close (h : DevOk n x) (hn : x.refcnt.open = 1 → n = 0) : DevOk n x.closed := by
  unfold DevCore.closed
  split_ifs with ho
  · have hn0 := hn ho
    subst hn0
    refine ⟨rfl, ?_, le_rfl, by simp, by simp [DeviceState.toNat], le_rfl, fun _ => rfl, ?_⟩
    · simp [startedPairs, h.replay]
    · exact h.stops.closing
  · refine ⟨h.start, h.replay, h.nonneg, h.started, h.prepared, h.prepare_nonneg, fun he => ?_,
      h.stops⟩
    simp only at he
    omega

/-- The last user leaves the device and then stops being started. -/
theorem close_stop (h : DevOk 1 x) (ho : x.refcnt.open = 1) :
    DevOk 0 (DevCore.observed [.pairStopped] x.closed) := by
  unfold DevCore.closed DevCore.observed
  rw [if_pos ho]
  refine ⟨rfl, ?_, le_rfl, by simp, by simp [DeviceState.toNat], le_rfl, fun _ => rfl, ?_⟩
  · simp [startedPairs, h.replay]
  · refine (stopsExact_pairStopped (t := .pcmClose :: x.trace) h.stops.closing).mpr fun _ hp => ?_
    simp [pcmIsOpen] at hp

/-- The last user stops being started and then leaves the device. -/
theorem stop_close (h : DevOk 1 x) (ho : x.refcnt.open = 1) :
    DevOk 0 (DevCore.observed [.pairStopped] x).closed := by
  unfold DevCore.closed DevCore.observed
  rw [if_pos ho]
  refine ⟨rfl, ?_, le_rfl, by simp, by simp [DeviceState.toNat], le_rfl, fun _ => rfl, ?_⟩
  · simp [startedPairs, h.replay]
  · exact (stopsExact_pairStopped h.stops).mpr fun _ _ => rfl

end DevOk

/-! ### All devices -/

/-- Every device agrees with the pairs that have it started. -/
def DevsOk (c : Core) : Prop := ∀ d, DevOk (c.pairs (Row.starts d)) (c.dev d)

/-- The books of the open counts and of the start counts. -/
structure StartBooks (c : Core) : Prop where
  opens : OpenBooks c
  starts : DevsOk c

/-- What a pair contributes to the start count of its device. -/
def AifState.startInd (st : AifState) : ℤ := if st = .aifStarted then 1 else 0

/-- A started pair is an open one. -/
theorem Core.starts_le_opens (c : Core) (d : ℕ) :
    c.pairs (Row.starts d) ≤ c.pairs (Row.opens d) := by
  unfold pairs pairCount
  refine Finset.sum_le_sum fun s _ => List.countP_mono_left fun r _ hr => ?_
  obtain ⟨hd, hst⟩ := of_decide_eq_true hr
  simp [Row.opens, hd, hst, AifState.isOpened, AifState.toNat]

section
variable {c c' : Core} {s i d : ℕ}

theorem StartBooks.starts_le (h : StartBooks c) (d : ℕ) :
    (c.pairs (Row.starts d) : ℤ) ≤ (c.dev d).refcnt.open := by
  rw [(h.opens.exact d).1]
  exact_mod_cast c.starts_le_opens d

theorem DevsOk.congr (h : DevsOk c) (hd : c'.dev = c.dev) (hp : c'.pool = c.pool)
    (hr : ∀ t, (c'.sess t).rows = (c.sess t).rows) : DevsOk c' := by
  intro d
  rw [hd, Core.pairs_congr hp hr]
  exact h d

theorem DevsOk.inert {named : Option ℕ} (h : DevsOk c) (hi : Inert named c c') : DevsOk c' := by
  intro d
  rw [hi.dev, Core.pairs_inert hi]
  · exact h d
  · intro r hr
    refine decide_eq_false fun e => ?_
    rw [e.2] at hr
    exact absurd hr (by decide)

theorem DevsOk.onDev (h : DevsOk c) {f : DevCore → DevCore}
    (hf : DevOk (c.pairs (Row.starts d)) (c.dev d) →
      DevOk (c.pairs (Row.starts d)) (f (c.dev d))) : DevsOk (c.onDev d f) := by
  intro d'
  have hpairs : (c.onDev d f).pairs (Row.starts d') = c.pairs (Row.starts d') :=
    Core.pairs_congr rfl fun _ => rfl
  rw [hpairs]
  by_cases hd : d' = d
  · subst hd
    rw [Core.dev_onDev_self]
    exact hf (h d')
  · rw [Core.dev_onDev_of_ne _ hd]
    exact h d'

/-- The number of pairs on a device that are started when one of them moves. -/
theorem Core.starts_putRow (hs : s ∈ c.pool) (hi : i < (c.sess s).rows.length) (st : AifState)
    (d : ℕ) : ((c.putRow s i st).pairs (Row.starts d) : ℤ) =
      c.pairs (Row.starts d) +
        (if (c.row s i).dev = some d then st.startInd - (c.row s i).state.startInd else 0) := by
  have hsame : (c.setRow s i st).pairs (Row.starts d) = (c.putRow s i st).pairs (Row.starts d) :=
    Core.pairs_congr (Frame.setRow (s := s) c i st).pool fun t => by rw [Core.sess_setRow]
  have hpairs := Core.pairs_setRow (p := Row.starts d) hs hi st
  rw [hsame] at hpairs
  simp only [Row.starts, AifState.startInd, decide_eq_true_eq] at hpairs ⊢
  by_cases hd : (c.row s i).dev = some d
  · simp only [hd, true_and, if_true] at hpairs ⊢
    split_ifs at hpairs ⊢ <;> omega
  · simp only [hd, false_and, if_false] at hpairs ⊢
    omega

/-- A pair moves together with its device; `k` counts the other started pairs. -/
theorem DevsOk.putRow_onDev (h : DevsOk c) (hs : s ∈ c.pool) (hi : i < (c.sess s).rows.length)
    (hd : (c.row s i).dev = some d) {f : DevCore → DevCore} {st : AifState}
    (hf : ∀ k, 0 ≤ k → DevOk (k + (c.row s i).state.startInd) (c.dev d) →
      DevOk (k + st.startInd) (f (c.dev d))) :
    DevsOk ((c.putRow s i st).onDev d f) := by
  intro d'
  have hset := Core.starts_putRow hs hi st d'
  have hpairs : ((c.putRow s i st).onDev d f).pairs (Row.starts d') =
      (c.putRow s i st).pairs (Row.starts d') := Core.pairs_congr rfl fun _ => rfl
  rw [hpairs, hset, hd]
  by_cases he : d' = d
  · subst he
    rw [if_pos rfl, Core.dev_onDev_self]
    have hold := h d'
    have hk : 0 ≤ (c.pairs (Row.starts d') : ℤ) - (c.row s i).state.startInd := by
      unfold AifState.startInd
      split_ifs with hst
      · have hpos : 0 < c.pairs (Row.starts d') :=
          Core.pairs_pos hs hi (by simp [Row.starts, hd, hst])
        omega
      · omega
    have hnew := hf _ hk (by rw [sub_add_cancel]; exact hold)
    have hsum : (c.pairs (Row.starts d') : ℤ) + (st.startInd - (c.row s i).state.startInd) =
        c.pairs (Row.starts d') - (c.row s i).state.startInd + st.startInd := by ring
    rw [hsum]
    exact hnew
  · have hne : ¬ some d = some d' := fun e => he (Option.some.inj e).symm
    rw [if_neg hne, add_zero, Core.dev_onDev_of_ne _ he]
    exact h d'

/-- The device moves first. -/
theorem Core.onDev_setRow (c : Core) (hd : (c.row s i).dev = some d) (f : DevCore → DevCore)
    (st : AifState) : (c.onDev d f).setRow s i st = (c.putRow s i st).onDev d fun x =>
      DevCore.observed (pairEvents (c.row s i).state st) (f x) := by
  have hrow : (c.onDev d f).row s i = c.row s i := rfl
  rw [Core.setRow, hrow, hd]
  simp [Core.observe, Core.onDev, Core.putRow, Core.setSess]

/-- The pair moves first. -/
theorem Core.setRow_onDev (c : Core) (hd : (c.row s i).dev = some d) (f : DevCore → DevCore)
    (st : AifState) : (c.setRow s i st).onDev d f = (c.putRow s i st).onDev d fun x =>
      f (DevCore.observed (pairEvents (c.row s i).state st) x) := by
  rw [Core.setRow, hd]
  simp [Core.observe, Core.onDev]

/-- A pair without a device moves. -/
theorem DevsOk.setRow_none (h : DevsOk c) (hs : s ∈ c.pool) (hi : i < (c.sess s).rows.length)
    (hd : (c.row s i).dev = none) (st : AifState) : DevsOk (c.setRow s i st) := by
  rw [Core.setRow, hd]
  intro d
  have hset := Core.starts_putRow hs hi st d
  rw [hd, if_neg (by simp), add_zero] at hset
  show DevOk ((c.putRow s i st).pairs (Row.starts d)) (c.dev d)
  rw [hset]
  exact h d

/-- A pair moves between two states of which neither is `AIF_STARTED`. -/
theorem DevsOk.setRow_idle (h : DevsOk c) (hs : s ∈ c.pool) (hi : i < (c.sess s).rows.length)
    (ho : (c.row s i).state ≠ .aifStarted) {st : AifState} (hst : st ≠ .aifStarted) :
    DevsOk (c.setRow s i st) := by
  cases hd : (c.row s i).dev with
  | none => exact h.setRow_none hs hi hd st
  | some d =>
      have hid : c.onDev d id = c := by simp [Core.onDev]
      have hset := c.onDev_setRow hd id st
      rw [hid] at hset
      rw [hset]
      refine h.putRow_onDev hs hi hd fun k _ hk => ?_
      simpa [AifState.startInd, ho, hst, pairEvents, DevCore.observed] using hk

end

/-! ### What the operations do to the books -/

section
variable {c c' : Core} {s i n : ℕ} {r : ℤ}

theorem StartBooks.inert {named : Option ℕ} (h : StartBooks c) (hi : Inert named c c') :
    StartBooks c' := ⟨Books.inert h.opens hi, h.starts.inert hi⟩

theorem StartBooks.setState (h : StartBooks c) (s : ℕ) (st : SessionState) :
    StartBooks (c.setState s st) :=
  ⟨Books.setState h.opens s st, h.starts.congr rfl rfl (c.rows_setState s st)⟩

theorem StartBooks.setGraph (h : StartBooks c) (s : ℕ) (g : Option ℕ) :
    StartBooks (c.setGraph s g) :=
  ⟨Books.setGraph h.opens s g, h.starts.congr rfl rfl (c.rows_setGraph s g)⟩

theorem StartBooks.closeGraph {p : Option ℕ} (h : StartBooks c) (hg : CloseGraph p c r c') :
    StartBooks c' :=
  ⟨Books.closeGraph h.opens hg, h.starts.congr hg.dev hg.pool fun _ => by rw [hg.sess]⟩

theorem DevsOk.joined (h : DevsOk c) (hj : Joined s n c c') : DevsOk c' :=
  h.congr hj.dev hj.pool hj.rows

/-- One more user. -/
theorem StartBooks.openDev (h : StartBooks c) (d : ℕ) : DevsOk (c.openDev d) :=
  h.starts.onDev fun hd => hd.opened (fun h0 => by
    have hle := h.starts_le d
    omega) (h.opens.exact d).2.1

/-- A user that came just now leaves again. -/
theorem StartBooks.openDev_closeDev (h : StartBooks c) {c₁ : Core} {d : ℕ}
    (hdev : c₁.dev = (c.openDev d).dev) (hp : c₁.pool = c.pool)
    (hr : ∀ t, (c₁.sess t).rows = (c.sess t).rows) : DevsOk (c₁.closeDev d) := by
  have h₁ : DevsOk c₁ := (h.openDev d).congr hdev hp hr
  refine h₁.onDev fun hd => hd.close fun h1 => ?_
  have hopen : (c₁.dev d).refcnt.open = (c.dev d).refcnt.open + 1 := by
    rw [hdev, Core.openDev, Core.dev_onDev_self, (h.opens.pcm d).opened.2]
  have hle := h.starts_le d
  rw [Core.pairs_congr hp hr]
  omega

theorem Connect.starts_of_ne {cleans : Prop} (hc : Connect cleans s i n c r c') (hr : r ≠ 0)
    (h : StartBooks c) : StartBooks c' := by
  refine ⟨hc.books_of_ne hr h.opens, ?_⟩
  cases hc with
  | refused hr h' => exact h.starts
  | undone hr h' hd => exact h.openDev_closeDev rfl rfl fun _ => rfl
  | cleaned hr h' hd hn hj hg => exact h.openDev_closeDev hj.dev hj.pool hj.rows
  | connected h' hd hj hg => exact absurd rfl hr

theorem Connect.starts {cleans : Prop} (hc : Connect cleans s i n c 0 c') (h : StartBooks c)
    (hs : s ∈ c.pool) (hi : i < (c.sess s).rows.length)
    (ho : (c.row s i).state.isOpened = false) : StartBooks (c'.setRow s i .aifOpened) := by
  refine ⟨hc.books h.opens hs hi ho, ?_⟩
  have hlen : i < (c'.sess s).rows.length := by
    rw [hc.rows]
    exact hi
  have hrow : c'.row s i = c.row s i := by rw [Core.row, Core.row, hc.rows]
  have hpool : s ∈ c'.pool := hc.pool ▸ hs
  have h' : DevsOk c' := by
    cases hc with
    | refused hr h' => exact absurd rfl hr
    | undone hr h' hd => exact absurd rfl hr
    | cleaned hr h' hd hn hj hg => exact absurd rfl hr
    | connected h' hd hj hg => exact (h.openDev _).joined hj
  refine h'.setRow_idle hpool hlen ?_ (by decide)
  rw [hrow]
  intro e
  rw [e] at ho
  exact absurd ho (by decide)

theorem PrepareTurn.starts (ht : PrepareTurn s i c r c') (hs : s ∈ c.pool) (h : StartBooks c) :
    StartBooks c' := by
  refine ⟨ht.books hs h.opens, ?_⟩
  cases ht with
  | skip h' => exact h.starts
  | fail h' hr =>
      unfold Core.onRowDev
      cases (c.row s i).dev with
      | none => exact h.starts
      | some d => exact h.starts.onDev DevOk.notPrepared
  | @next d h' hd =>
      have hne : (c.row s i).state ≠ .aifClosed := by
        rintro e
        simp [e] at h'
      have ho : (c.row s i).state.isOpened = true := by
        rcases h' with e | e <;> rw [e] <;> rfl
      have hnst : (c.row s i).state ≠ .aifStarted := by
        rintro e
        simp [e] at h'
      have hpos := Books.one_le_open h.opens hs (c.lt_of_row_ne hne) hd ho
      have hprep : DevsOk (c.onDev d DevCore.prepared) :=
        h.starts.onDev fun hx => hx.prepare (by omega)
      exact hprep.setRow_idle (s := s) (i := i) hs (c.lt_of_row_ne hne) hnst (by decide)

theorem StartTurn.starts (ht : StartTurn s i c r c') (hs : s ∈ c.pool) (h : StartBooks c) :
    StartBooks c' := by
  refine ⟨ht.books hs h.opens, ?_⟩
  cases ht with
  | skip h' => exact h.starts
  | fail h' hr => exact h.starts
  | @next d h' hd hp =>
      have hst : (c.row s i).state = .aifOpened ∨ (c.row s i).state = .aifPrepared ∨
          (c.row s i).state = .aifStopped := of_decide_eq_true h'
      have hne : (c.row s i).state ≠ .aifClosed := by
        rintro e
        simp [e] at hst
      have hnst : (c.row s i).state ≠ .aifStarted := by
        rintro e
        simp [e] at hst
      rw [c.onDev_setRow hd]
      refine h.starts.putRow_onDev hs (c.lt_of_row_ne hne) hd fun k _ hk => ?_
      simp only [AifState.startInd, pairEvents, hnst, if_false, if_true, add_zero] at hk ⊢
      exact hk.start_pair hp

theorem StopTurn.starts {st : AifState} (hst : st.isOpened = true) (hne : st ≠ .aifStarted)
    (ht : StopTurn st s i c c') (hs : s ∈ c.pool) (h : StartBooks c) : StartBooks c' := by
  refine ⟨ht.books hst hs h.opens, ?_⟩
  cases ht with
  | skip h' => exact h.starts
  | stop h' =>
      have hi : i < (c.sess s).rows.length := c.lt_of_row_ne (by rw [h']; decide)
      cases hd : (c.row s i).dev with
      | none =>
          rw [Core.onRowDev, hd]
          exact h.starts.setRow_none hs hi hd st
      | some d =>
          simp only [Core.onRowDev, hd]
          rw [c.onDev_setRow hd]
          refine h.starts.putRow_onDev hs hi hd fun k hk0 hk => ?_
          simp only [AifState.startInd, pairEvents, h', hne, if_false, if_true, add_zero] at hk ⊢
          refine hk.stop_pair hk0 ((h.opens.exact d).2.2.mpr ?_)
          exact Core.pairs_pos hs hi (by simp [Row.opens, hd, h', AifState.isOpened, AifState.toNat])

/-- The only user of a device accounts for all its started pairs. -/
theorem StartBooks.starts_of_alone {d : ℕ} (h : StartBooks c) (hs : s ∈ c.pool)
    (hi : i < (c.sess s).rows.length) (hd : (c.row s i).dev = some d)
    (ho : (c.row s i).state.isOpened = true) (h1 : (c.dev d).refcnt.open = 1) :
    (c.pairs (Row.starts d) : ℤ) = (c.row s i).state.startInd := by
  have hopens := (h.opens.exact d).1
  have hset := Core.pairs_setRow (p := Row.opens d) hs hi .aifClosed
  have hsets := Core.pairs_setRow (p := Row.starts d) hs hi .aifClosed
  have hsub := Core.starts_le_opens (c.setRow s i .aifClosed) d
  have hold : (c.row s i).opens d = true := by simp [Row.opens, hd, ho]
  have hnew : ({ c.row s i with state := .aifClosed } : Row).opens d = false := by
    simp [Row.opens, AifState.isOpened, AifState.toNat]
  have hnews : ({ c.row s i with state := .aifClosed } : Row).starts d = false := by
    simp [Row.starts]
  rw [hold, hnew] at hset
  rw [hnews] at hsets
  simp only [if_true, Bool.false_eq_true, if_false] at hset hsets
  have hind : (c.row s i).state.startInd = if (c.row s i).starts d = true then 1 else 0 := by
    simp [AifState.startInd, Row.starts, hd]
  rw [hind]
  split_ifs at hsets ⊢ <;> omega

section
variable {d : ℕ} {st : AifState} (h : StartBooks c) (hs : s ∈ c.pool)
  (hi : i < (c.sess s).rows.length) (hd : (c.row s i).dev = some d)
  (ho : (c.row s i).state.isOpened = true)
  (hlast : (c.row s i).state = .aifStarted → (c.dev d).refcnt.open = 1)
  (hst : st.isOpened = false)
include h hs hi hd ho hlast hst

/-- A pair stops being open together with its device, in any order: a started pair has to be the
last user. -/
theorem StartBooks.leave {f : DevCore → DevCore}
    (hidle : (c.row s i).state ≠ .aifStarted → ∀ x, f x = x.closed)
    (hstop : (c.row s i).state = .aifStarted → ∀ x, DevOk 1 x → x.refcnt.open = 1 →
      DevOk 0 (f x)) :
    DevsOk ((c.putRow s i st).onDev d f) := by
  have hstne : st.startInd = 0 := by
    refine if_neg ?_
    rintro rfl
    exact absurd hst (by decide)
  refine h.starts.putRow_onDev hs hi hd fun k hk0 hk => ?_
  have hcount := hk.start.symm.trans (h.starts d).start
  have halone := h.starts_of_alone hs hi hd ho
  rw [hstne, add_zero]
  by_cases hstart : (c.row s i).state = .aifStarted
  · have h1 := hlast hstart
    have hk1 : k = 0 := by
      have := halone h1
      omega
    rw [hk1, hstart] at hk
    rw [hk1]
    exact hstop hstart _ hk h1
  · have hind : (c.row s i).state.startInd = 0 := if_neg hstart
    rw [hind] at hk hcount halone
    rw [hidle hstart, ← add_zero k]
    refine hk.close fun h1 => ?_
    have := halone h1
    omega

/-- The device is closed first. -/
theorem StartBooks.close_setRow : StartBooks ((c.closeDev d).setRow s i st) := by
  refine ⟨Books.close_dropRow h.opens hs hi hd ho hst, ?_⟩
  have hne : st ≠ .aifStarted := by
    rintro rfl
    exact absurd hst (by decide)
  rw [Core.closeDev, c.onDev_setRow hd]
  refine h.leave hs hi hd ho hlast hst (fun hns x => ?_) fun hstart x hx h1 => ?_
  · simp [pairEvents, hns, hne, DevCore.observed]
  · simp only [pairEvents, hstart, hne, if_true, if_false]
    exact hx.close_stop h1

/-- The pair moves first. -/
theorem StartBooks.setRow_close : StartBooks ((c.setRow s i st).closeDev d) := by
  refine ⟨Books.dropRow_close h.opens hs hi hd ho hst, ?_⟩
  have hne : st ≠ .aifStarted := by
    rintro rfl
    exact absurd hst (by decide)
  rw [Core.closeDev, c.setRow_onDev hd]
  refine h.leave hs hi hd ho hlast hst (fun hns x => ?_) fun hstart x hx h1 => ?_
  · simp [pairEvents, hns, hne, DevCore.observed]
  · simp only [pairEvents, hstart, hne, if_true, if_false]
    exact hx.stop_close h1

end

theorem UnwindTurn.starts (ht : UnwindTurn False s i c c') (hs : s ∈ c.pool)
    (h : StartBooks c) : StartBooks c' := by
  cases ht with
  | skip h' hl => exact h
  | close h' hd =>
      have hi : i < (c.sess s).rows.length := c.lt_of_row_ne (by rw [h']; decide)
      cases hd with
      | lost hlost hr => exact hlost.elim
      | closed hnl hd =>
          refine h.close_setRow hs hi hd (by rw [h']; rfl) (fun e => ?_) rfl
          rw [h'] at e
          exact absurd e (by decide)

theorem keeps_startBooks : Keeps StartBooks where
  inert hi h := h.inert hi
  state s st h := h.setState s st
  graph s hg h := (h.closeGraph hg).setGraph s _
  refused hc hr h := hc.starts_of_ne hr h
  connected hc hs hi ho h := hc.starts h hs hi ho
  waiting hs hi ho hst h := by
    refine ⟨keeps_openBooks.waiting hs hi ho hst h.opens, h.starts.setRow_idle hs hi ?_ ?_⟩
    · intro e
      rw [e] at ho
      exact absurd ho (by decide)
    · rintro rfl
      exact absurd hst (by decide)
  prepare ht hs h := ht.starts hs h
  start ht hs h := ht.starts hs h
  stop ht hst hs h := by
    rcases hst with rfl | rfl
    · exact ht.starts rfl (by decide) hs h
    · exact ht.starts rfl (by decide) hs h
  unwind ht hs h := ht.starts hs h

/-! ### Closing and disconnecting -/

/-- Every started pair of the session is the last user of its device. -/
def LastUsers (s : ℕ) (c : Core) : Prop :=
  ∀ i d, (c.row s i).state = .aifStarted → (c.row s i).dev = some d → (c.dev d).refcnt.open ≤ 1

theorem CloseTurn.starts (ht : CloseTurn s i c c') (hs : s ∈ c.pool)
    (h : StartBooks c ∧ LastUsers s c) : StartBooks c' ∧ LastUsers s c' := by
  obtain ⟨h, hlast⟩ := h
  have hbooks : OpenBooks c' := ht.books hs h.opens
  cases ht with
  | skip h' => exact ⟨h, hlast⟩
  | close h' =>
      have hne : (c.row s i).state ≠ .aifClosed := by
        rintro e
        rw [e] at h'
        exact absurd h' (by decide)
      have hi := c.lt_of_row_ne hne
      have hf := Frame.onRowDev (s := s) c i DevCore.closed
      have hi₁ : i < ((c.onRowDev s i DevCore.closed).sess s).rows.length := hf.length ▸ hi
      refine ⟨?_, fun j d hj hjd => ?_⟩
      · cases hd : (c.row s i).dev with
        | none =>
            rw [Core.onRowDev, hd] at hbooks ⊢
            exact ⟨hbooks, h.starts.setRow_none hs hi hd _⟩
        | some d =>
            rw [Core.onRowDev, hd]
            refine h.close_setRow hs hi hd h' (fun hstart => ?_) rfl
            have hle := hlast i d hstart hd
            have hge := Books.one_le_open h.opens hs hi hd h'
            omega
      -- Other pairs stay as they are, and the open counts only fall.
      · have hji : j ≠ i := by
          rintro rfl
          rw [Core.row_setRow_self _ _ hi₁] at hj
          exact absurd hj (by simp)
        rw [Core.row_setRow_of_ne _ _ (.inr hji), Core.row_onRowDev] at hj hjd
        have hle := hlast j d hj hjd
        have hpairs := Core.pairs_setRow (c := c.onRowDev s i DevCore.closed) (s := s) (i := i)
          (p := Row.opens d) (hf.pool ▸ hs) hi₁ .aifClosed
        have hnew : ({ (c.onRowDev s i DevCore.closed).row s i with state := .aifClosed } :
            Row).opens d = false := by simp [Row.opens, AifState.isOpened, AifState.toNat]
        have hsame : (c.onRowDev s i DevCore.closed).pairs (Row.opens d) =
            c.pairs (Row.opens d) := by
          refine Core.pairs_congr hf.pool fun t => ?_
          unfold Core.onRowDev
          cases (c.row s i).dev <;> rfl
        rw [hnew, hsame] at hpairs
        simp only [Bool.false_eq_true, if_false] at hpairs
        have h1 := (hbooks.exact d).1
        have h2 := (h.opens.exact d).1
        omega

theorem Close.starts (hcl : Close s c r c') (hs : s ∈ c.pool) (h : StartBooks c)
    (hlast : (c.sess s).state ≠ .sessionClosed → LastUsers s c) : StartBooks c' := by
  cases hcl with
  | already hr => exact h
  | @closed _ c₁ c₂ hss hg hc =>
      have hrow : ∀ i, (c₁.setGraph s none).row s i = c.row s i := by
        intro i
        rw [Core.row, Core.row, Core.rows_setGraph, hg.sess]
      have hl₁ : LastUsers s (c₁.setGraph s none) := by
        intro i d hi hd
        rw [hrow] at hi hd
        show (c₁.dev d).refcnt.open ≤ 1
        rw [hg.dev]
        exact hlast hss i d hi hd
      exact (keeps_of_chain (I := fun c => StartBooks c ∧ LastUsers s c)
        (fun _ _ _ => CloseTurn.starts) (fun _ _ _ => CloseTurn.frame)
        hc (hg.pool ▸ hs) ⟨(h.closeGraph hg).setGraph s none, hl₁⟩).2.1.setState s _

theorem AifDisconnect.starts {lost : Prop} (hd : AifDisconnect lost s i c r c')
    (hs : s ∈ c.pool) (hi : i < (c.sess s).rows.length)
    (ho : AifState.aifOpen.toNat ≤ (c.row s i).state.toNat →
      ((c.row s i).state = .aifOpen ↔ (c.sess s).state = .sessionClosed) ∧
      ((c.sess s).state ≠ .sessionClosed → ¬ lost))
    (hlast : ∀ d, (c.row s i).state = .aifStarted → (c.row s i).dev = some d →
      (c.dev d).refcnt.open = 1)
    (h : StartBooks c) : StartBooks c' := by
  refine ⟨hd.books hs hi ho h.opens, ?_⟩
  have hf := Frame.setRow (s := s) c i .aifClose
  have hs₁ : s ∈ (c.setRow s i .aifClose).pool := hf.pool ▸ hs
  have hi₁ : i < ((c.setRow s i .aifClose).sess s).rows.length := hf.length ▸ hi
  have hrow : ((c.setRow s i .aifClose).row s i).state ≠ .aifStarted := by
    rw [c.row_setRow_self .aifClose hi]
    simp
  cases hd with
  | already hr => exact h.starts
  | forgotten hst hi' =>
      have hne : (c.row s i).state ≠ .aifStarted := by
        rw [(ho hi').1.mpr hst]
        decide
      exact (h.starts.setRow_idle hs hi hne (by decide)).setRow_idle hs₁ hi₁ hrow (by decide)
  | disconnected hst hi' hd =>
      have hop : (c.row s i).state.isOpened = true := by
        have hne := mt (ho hi').1.mp hst
        revert hne hi'
        cases (c.row s i).state <;> decide
      cases hd with
      | lost h' hr => exact absurd h' ((ho hi').2 hst)
      | @closed d h' hd =>
          rw [hf.row_dev] at hd
          have h₂ : StartBooks ((c.setRow s i .aifClose).closeDev d) :=
            h.setRow_close hs hi hd hop (fun e => hlast d e hd) rfl
          split_ifs with hr
          · exact h₂.starts.setRow_idle (s := s) (i := i) hs₁ hi₁ hrow (by decide)
          · exact h₂.starts

end

/-! ### Runs -/

/-- The interface is a started user of a device that others use too. -/
def SharedStart (w : World) (a : Aif) : Prop :=
  a.state = .aifStarted ∧ ∃ d ∈ a.devObj, (w.dev d).refcnt.open ≠ 1

instance (w : World) (a : Aif) : Decidable (SharedStart w a) :=
  inferInstanceAs (Decidable (_ ∧ _))

/-- The honest calls that close or disconnect a started pair only as the last user of its
device. -/
def StartHonest (w : World) (call : Call) : Prop :=
  OpenHonest w call ∧
  (∀ s ∈ call.op.closes?, s ∈ w.pool → (w.sess s).state ≠ .sessionClosed →
    ∀ a ∈ (w.sess s).aifPool, ¬ SharedStart w a) ∧
  (∀ p ∈ call.op.disconnects?, p.1 ∈ w.pool →
    ∀ i ∈ aifObjGetFromPool (w.sess p.1) p.2, ¬ SharedStart w (w.aif p.1 i))

instance (w : World) (call : Call) : Decidable (StartHonest w call) :=
  inferInstanceAs (Decidable (_ ∧ _ ∧ _))

theorem SharedStart.not_iff {w : World} {s i d : ℕ} (h : ¬ SharedStart w (w.aif s i))
    (hst : (w.core.row s i).state = .aifStarted) (hd : (w.core.row s i).dev = some d) :
    (w.core.dev d).refcnt.open = 1 := by
  rw [core_row] at hst hd
  by_contra hne
  exact h ⟨hst, d, hd, hne⟩

theorem lastUsers_of_not_shared {w : World} {s : ℕ}
    (h : ∀ a ∈ (w.sess s).aifPool, ¬ SharedStart w a) : LastUsers s w.core := by
  intro i d hst hd
  have hi : i < (w.core.sess s).rows.length := by
    refine w.core.lt_of_row_ne ?_
    rw [hst]
    decide
  have hlen : i < (w.sess s).aifPool.length := by simpa [World.core, SessionObj.core] using hi
  have hmem : w.aif s i ∈ (w.sess s).aifPool := by
    rw [World.aif, List.getD_eq_getElem _ _ hlen]
    exact List.getElem_mem hlen
  exact (SharedStart.not_iff (h _ hmem) hst hd).le

/-- An honest call keeps the books of the start counts. -/
theorem Step.startBooks {w : World} {call : Call} {r : ℤ} {c' : Core}
    (hs : Step { w with ext := call.ext } call.op r c') (hc : StartHonest w call)
    (h : StartBooks w.core) : StartBooks c' := by
  obtain ⟨hopen, hclose, hdisc⟩ := hc
  refine keeps_startBooks.step hs hopen ?_ ?_ h
  · intro s hop hp hcl
    refine hcl.starts hp h fun hst => lastUsers_of_not_shared ?_
    exact hclose s (by rw [hop]; rfl) hp hst
  · intro s aif i c₁ hop hp hi hd
    obtain ⟨hs₁, hlt, hst, hsess⟩ := hi.pair hp
    refine hd.starts hs₁ hlt ?_ ?_ (h.inert hi.inert)
    · rw [hst, hsess]
      exact hopen.2.2 (s, aif) (by rw [hop]; rfl) hp
    · intro d hstart hdev
      have hshared := hdisc (s, aif) (by rw [hop]; rfl) hp
      cases hi with
      | found hf =>
          rw [core_findAif] at hf
          exact SharedStart.not_iff (hshared i hf) hstart hdev
      | noMemory hr => exact absurd rfl hr
      | created hf =>
          rw [hst, Core.pairState, hf] at hstart
          cases hstart

theorem Initial.startBooks {w : World} (hw : Initial w) : StartBooks w.core := by
  refine ⟨hw.openBooks, fun d => ?_⟩
  have hpairs : w.core.pairs (Row.starts d) = 0 := by
    simp [Core.pairs, pairCount, World.core, hw.pool]
  obtain ⟨hcnt, hst, htr⟩ := hw.idle d
  have hdev : w.core.dev d = ⟨{}, .devClosed, []⟩ := by
    simp [World.core, DeviceObj.core, hcnt, hst, htr]
  rw [hpairs, hdev]
  exact ⟨rfl, rfl, le_rfl, by simp, by simp [DeviceState.toNat], le_rfl, fun _ => rfl, trivial⟩

/-- **The start counts are exact.**  In every state reached by honest calls the start count of a
device is the number of pairs that have it started, the device is `DEV_STARTED` while there is
one, and so far `pcm_stop` was called exactly when the last of them stopped with the pcm staying
open. -/
theorem start_count_exact {w w' : World} {calls : List Call} (hw : Initial w)
    (hc : Admits exec StartHonest calls w) (hrun : runAll exec calls w = .ok ((), w')) (d : ℕ) :
    (w'.dev d).refcnt.start = w'.core.pairs (Row.starts d) ∧
      ((w'.dev d).state = .devStarted ↔ 0 < (w'.dev d).refcnt.start) ∧
      startedPairs (w'.dev d).trace = w'.core.pairs (Row.starts d) ∧
      StopsExact false (w'.dev d).trace := by
  have hstep : ∀ w call, StartBooks w.core → StartHonest w call →
      Ensures anyFault (exec call) w fun _ w' => StartBooks w'.core := by
    intro w call h hc
    exact (exec_step call).imp fun r w' hs => hs.startBooks hc h
  have hbooks := (runAll_invariant exec hstep calls w hw.startBooks hc).of_ok hrun
  have hdev := hbooks.starts d
  exact ⟨hdev.start, hdev.started, hdev.replay, hdev.stops⟩

/-- Two sessions use a device in turn; the second one is closed as the last user. -/
def takeTurns : List Call :=
  [⟨.aifConnect 0 1 true, []⟩, ⟨.open 0, []⟩, ⟨.prepare 0, []⟩, ⟨.start 0, []⟩,
    ⟨.aifConnect 3 1 true, []⟩, ⟨.open 3, []⟩, ⟨.prepare 3, []⟩, ⟨.start 3, []⟩,
    ⟨.stop 0, []⟩, ⟨.close 0, []⟩, ⟨.stop 3, []⟩, ⟨.start 3, []⟩, ⟨.close 3, []⟩]

theorem start_count_takeTurns :
    ∃ w', runAll exec takeTurns (startUp 4) = .ok ((), w') ∧
      (w'.dev 1).trace.count .pcmStop = 1 ∧ (w'.dev 1).refcnt.start = 0 := by
  obtain ⟨_, w', hrun, hstop, hpairs⟩ := Ensures.exists_ok (m := runAll exec takeTurns)
    (s := startUp 4) (Q := fun _ w' => (w'.dev 1).trace.count .pcmStop = 1 ∧
      w'.core.pairs (Row.starts 1) = 0) (by decide +kernel)
  have hstart := start_count_exact (initial_startUp 4) (by decide +kernel) hrun 1
  exact ⟨w', hrun, hstop, by rw [hstart.1, hpairs]; rfl⟩

/-- Of two sessions that have a device started, one is closed. -/
def closeShared : List Call :=
  [⟨.aifConnect 0 1 true, []⟩, ⟨.open 0, []⟩, ⟨.prepare 0, []⟩, ⟨.start 0, []⟩,
    ⟨.aifConnect 3 1 true, []⟩, ⟨.open 3, []⟩, ⟨.prepare 3, []⟩, ⟨.start 3, []⟩, ⟨.close 0, []⟩]

theorem start_count_closeShared :
    Ensures noFault (runAll exec closeShared) (startUp 4) fun _ w =>
      (w.dev 1).refcnt.start = 2 ∧ w.core.pairs (Row.starts 1) = 1 := by
  decide +kernel

end Agm
