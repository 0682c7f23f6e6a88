import Agm.Lib.Counting
import Agm.Keeps

/-! # The open count of a device

The counter `refcnt.open` of a device is meant to be the number of session-interface pairs that
have it open, and its pcm is meant to be open while there is one.  `OpenBooks` says so.

Every operation that moves a device and its pair together keeps the books.  Four operations of
the service move only one of the two, and `OpenHonest` excludes exactly these: connecting a pair
that is open already, the label `unwind` of a connection, disconnecting a pair whose device
cannot be closed (or was never opened), and an `unwind` of `session_obj_open` in which a merge
fails.  In every run without them the books are kept (`open_count_exact`). -/

namespace Agm

open Prog

/-! ### Counting pairs -/

/-- The pair has the device `d` open. -/
def Row.opens (d : ℕ) (r : Row) : Bool := decide (r.dev = some d) && r.state.isOpened

/-- The pair has the device `d` started. -/
def Row.starts (d : ℕ) (r : Row) : Bool := decide (r.dev = some d ∧ r.state = .aifStarted)

namespace Core

variable (c : Core)

/-- The number of pairs with `p`. -/
def pairs (p : Row → Bool) : ℕ := pairCount c.pool (fun s => (c.sess s).rows) p

variable {c} {c' : Core} {p : Row → Bool} {s i : ℕ}

theorem pairs_congr (hp : c'.pool = c.pool) (hr : ∀ t, (c'.sess t).rows = (c.sess t).rows) :
    c'.pairs p = c.pairs p := by
  unfold pairs
  rw [hp]
  exact pairCount_congr fun t _ => by rw [hr t]

theorem pairs_setRow (hs : s ∈ c.pool) (hi : i < (c.sess s).rows.length) (st : AifState) :
    (c.setRow s i st).pairs p + (if p (c.row s i) then 1 else 0) =
      c.pairs p + (if p { c.row s i with state := st } then 1 else 0) := by
  have hrow : c.row s i = (c.sess s).rows[i] := List.getD_eq_getElem _ _ hi
  have hrows : (fun t => ((c.setRow s i st).sess t).rows) =
      Function.update (fun t => (c.sess t).rows) s
        ((c.sess s).rows.modify i fun r => { r with state := st }) := by
    funext t
    rw [sess_setRow, putRow]
    by_cases ht : t = s
    · subst ht
      simp
    · rw [sess_setSess_of_ne _ ht, Function.update_of_ne ht]
  have hpool : (c.setRow s i st).pool = c.pool := (Frame.setRow (s := s) c i st).pool
  unfold pairs
  rw [hrows, hpool, hrow]
  exact pairCount_modify hs hi _

theorem pairs_inert {named : Option ℕ} (h : Inert named c c')
    (hp : ∀ r : Row, r.state.isOpened = false → p r = false) : c'.pairs p = c.pairs p := by
  have hgrown : ∀ {rows rows' : List Row}, Grown named c rows rows' →
      rows'.countP p = rows.countP p := by
    intro rows rows' hg
    cases hg with
    | same => rfl
    | added hn hf hst =>
        rw [List.countP_append, List.countP_singleton, hp _ hst]
        rfl
  refine pairCount_grow h.pool (fun t ht => hgrown (h.rows t ht)) fun t ht hn => ?_
  rw [hgrown (h.fresh t ht hn).2.2]
  rfl

theorem pairs_pos (hs : s ∈ c.pool) (hi : i < (c.sess s).rows.length) (h : p (c.row s i) = true) :
    0 < c.pairs p :=
  pairCount_pos hs (c.mem_of_row hi) h

end Core

/-! ### The books -/

/-- A pcm is open when it was opened and not closed since. -/
def pcmIsOpen : List DevEvent → Bool
  | [] => false
  | .pcmOpen :: _ => true
  | .pcmClose :: _ => false
  | _ :: t => pcmIsOpen t

/-- By how much the open count of a device exceeds the pairs that have it open. -/
def Core.openSurplus (c : Core) (d : ℕ) : ℤ := (c.dev d).refcnt.open - c.pairs (Row.opens d)

/-- The pcm is open exactly while the open count is positive. -/
def DevCore.PcmOk (x : DevCore) : Prop := 0 ≤ x.refcnt.open ∧ (pcmIsOpen x.trace ↔ 0 < x.refcnt.open)

/-- The open counts exceed the pairs by `x`, and the pcms follow the counts. -/
structure Books (x : ℕ → ℤ) (c : Core) : Prop where
  surplus : c.openSurplus = x
  pcm : ∀ d, (c.dev d).PcmOk

/-- The open counts are those of the pairs, and the pcms follow them. -/
def OpenBooks (c : Core) : Prop := Books 0 c

namespace DevCore

variable {x : DevCore}

theorem PcmOk.opened (h : x.PcmOk) : x.opened.PcmOk ∧ x.opened.refcnt.open = x.refcnt.open + 1 := by
  unfold DevCore.opened PcmOk at *
  split_ifs with h0
  · simp [pcmIsOpen, h0]
  · simp only [and_true]
    refine ⟨by omega, ?_⟩
    rw [h.2]
    omega

theorem PcmOk.closed (h : x.PcmOk) (h1 : 1 ≤ x.refcnt.open) :
    x.closed.PcmOk ∧ x.closed.refcnt.open = x.refcnt.open - 1 := by
  unfold DevCore.closed PcmOk at *
  split_ifs with h0
  · simp [pcmIsOpen, h0]
  · simp only [and_true]
    refine ⟨by omega, ?_⟩
    rw [h.2]
    omega

theorem pcmIsOpen_observed (old new : AifState) (t : List DevEvent) :
    pcmIsOpen (pairEvents old new ++ t) = pcmIsOpen t := by
  unfold pairEvents
  split_ifs <;> rfl

/-- The operations that neither open nor close. -/
def Neutral (f : DevCore → DevCore) : Prop :=
  ∀ x, (f x).refcnt.open = x.refcnt.open ∧ pcmIsOpen (f x).trace = pcmIsOpen x.trace

theorem neutral_prepared : Neutral prepared := by
  intro x
  unfold prepared
  split_ifs <;> exact ⟨rfl, rfl⟩

theorem neutral_notPrepared : Neutral notPrepared := fun _ => ⟨rfl, rfl⟩

theorem neutral_started : Neutral started := by
  intro x
  unfold started
  split_ifs <;> exact ⟨rfl, rfl⟩

theorem neutral_stopped : Neutral stopped := by
  intro x
  unfold stopped
  split_ifs <;> exact ⟨rfl, rfl⟩

theorem neutral_observed (old new : AifState) : Neutral (observed (pairEvents old new)) := fun x =>
  ⟨rfl, pcmIsOpen_observed old new x.trace⟩

end DevCore

/-- What a pair contributes to the count of each device. -/
def Row.openInd (r : Row) : ℕ → ℤ := fun d => if r.opens d then 1 else 0

theorem Row.openInd_of_opened {r : Row} {d : ℕ} (hd : r.dev = some d)
    (ho : r.state.isOpened = true) : r.openInd = Pi.single d 1 := by
  funext d'
  by_cases h : d' = d
  · subst h
    simp [openInd, opens, hd, ho]
  · have hne : ¬ d = d' := fun e => h e.symm
    simp [openInd, opens, hd, h, hne]

theorem Row.openInd_of_not_opened {r : Row} (ho : r.state.isOpened = false) : r.openInd = 0 := by
  funext d
  simp [openInd, opens, ho]

theorem Row.openInd_of_none {r : Row} (hd : r.dev = none) : r.openInd = 0 := by
  funext d
  simp [openInd, opens, hd]

theorem Row.openInd_congr {r : Row} {st : AifState} (h : st.isOpened = r.state.isOpened) :
    ({ r with state := st } : Row).openInd = r.openInd := by
  funext d
  simp [openInd, opens, h]

namespace Books

variable {x : ℕ → ℤ} {c c' : Core} {s i d : ℕ}

theorem open_eq (h : Books x c) (d : ℕ) : (c.dev d).refcnt.open = c.pairs (Row.opens d) + x d := by
  have hd := congrFun h.surplus d
  unfold Core.openSurplus at hd
  omega

theorem congr (h : Books x c) (hd : c'.dev = c.dev) (hp : c'.pool = c.pool)
    (hr : ∀ t, (c'.sess t).rows = (c.sess t).rows) : Books x c' := by
  refine ⟨?_, fun d => hd ▸ h.pcm d⟩
  rw [← h.surplus]
  funext d
  rw [Core.openSurplus, Core.openSurplus, hd, Core.pairs_congr hp hr]

theorem inert {named : Option ℕ} (h : Books x c) (hi : Inert named c c') : Books x c' := by
  refine ⟨?_, fun d => hi.dev ▸ h.pcm d⟩
  rw [← h.surplus]
  funext d
  rw [Core.openSurplus, Core.openSurplus, hi.dev, Core.pairs_inert hi]
  intro r hr
  simp [Row.opens, hr]

theorem onDev {f : DevCore → DevCore} {k : ℤ} (h : Books x c)
    (hf : (f (c.dev d)).PcmOk ∧ (f (c.dev d)).refcnt.open = (c.dev d).refcnt.open + k) :
    Books (x + Pi.single d k) (c.onDev d f) := by
  refine ⟨?_, fun d' => ?_⟩
  · funext d'
    have hpairs : (c.onDev d f).pairs (Row.opens d') = c.pairs (Row.opens d') :=
      Core.pairs_congr rfl fun _ => rfl
    have hsum := congrFun h.surplus d'
    unfold Core.openSurplus at hsum ⊢
    rw [hpairs]
    by_cases hd : d' = d
    · subst hd
      rw [Core.dev_onDev_self, hf.2, Pi.add_apply, Pi.single_eq_same]
      omega
    · rw [Core.dev_onDev_of_ne _ hd, Pi.add_apply, Pi.single_eq_of_ne hd]
      omega
  · by_cases hd : d' = d
    · subst hd
      rw [Core.dev_onDev_self]
      exact hf.1
    · rw [Core.dev_onDev_of_ne _ hd]
      exact h.pcm d'

theorem openDev (h : Books x c) (d : ℕ) : Books (x + Pi.single d 1) (c.openDev d) :=
  h.onDev (h.pcm d).opened

theorem closeDev (h : Books x c) (h1 : 1 ≤ (c.dev d).refcnt.open) :
    Books (x + Pi.single d (-1)) (c.closeDev d) :=
  h.onDev ((h.pcm d).closed h1)

theorem neutral {f : DevCore → DevCore} (h : Books x c) (hf : DevCore.Neutral f) (d : ℕ) :
    Books x (c.onDev d f) := by
  have hk : (f (c.dev d)).PcmOk ∧ (f (c.dev d)).refcnt.open = (c.dev d).refcnt.open + 0 := by
    have hp := h.pcm d
    unfold DevCore.PcmOk at hp ⊢
    rw [(hf _).1, (hf _).2]
    exact ⟨hp, by omega⟩
  simpa using h.onDev hk

theorem neutral_row {f : DevCore → DevCore} (h : Books x c) (hf : DevCore.Neutral f) (s i : ℕ) :
    Books x (c.onRowDev s i f) := by
  unfold Core.onRowDev
  cases (c.row s i).dev with
  | none => exact h
  | some d => exact h.neutral hf d

theorem setRow (h : Books x c) (hs : s ∈ c.pool) (hi : i < (c.sess s).rows.length)
    (st : AifState) :
    Books (x + (c.row s i).openInd - ({ c.row s i with state := st } : Row).openInd)
      (c.setRow s i st) := by
  have hput : Books (x + (c.row s i).openInd - ({ c.row s i with state := st } : Row).openInd)
      (c.putRow s i st) := by
    refine ⟨?_, h.pcm⟩
    funext d
    have hsame : (c.putRow s i st).pairs (Row.opens d) = (c.setRow s i st).pairs (Row.opens d) :=
      Core.pairs_congr (Frame.setRow (s := s) c i st).pool.symm fun t => by rw [Core.sess_setRow]
    have hpairs := Core.pairs_setRow (p := Row.opens d) hs hi st
    have hsum := congrFun h.surplus d
    unfold Core.openSurplus at hsum ⊢
    rw [hsame]
    have hdev : ((c.putRow s i st).dev d).refcnt.open = (c.dev d).refcnt.open := rfl
    rw [hdev]
    simp only [Pi.add_apply, Pi.sub_apply, Row.openInd]
    split_ifs at hpairs ⊢ <;> omega
  unfold Core.setRow Core.observe
  cases (c.row s i).dev with
  | none => exact hput
  | some d => exact hput.neutral (DevCore.neutral_observed _ _) d

/-- A pair moves between two states that are both open or both not. -/
theorem keepRow (h : Books x c) (hs : s ∈ c.pool) (hi : i < (c.sess s).rows.length)
    {st : AifState} (hst : st.isOpened = (c.row s i).state.isOpened) :
    Books x (c.setRow s i st) := by
  have hset := h.setRow hs hi st
  rwa [Row.openInd_congr hst, add_sub_cancel_right] at hset

/-- A pair becomes open. -/
theorem raiseRow (h : Books x c) (hs : s ∈ c.pool) (hi : i < (c.sess s).rows.length)
    (hd : (c.row s i).dev = some d) (ho : (c.row s i).state.isOpened = false) {st : AifState}
    (hst : st.isOpened = true) : Books (x + Pi.single d (-1)) (c.setRow s i st) := by
  have hset := h.setRow hs hi st
  rw [Row.openInd_of_not_opened ho,
    Row.openInd_of_opened (r := { c.row s i with state := st }) hd hst, add_zero] at hset
  rwa [Pi.single_neg, ← sub_eq_add_neg]

/-- A pair stops being open. -/
theorem dropRow (h : Books x c) (hs : s ∈ c.pool) (hi : i < (c.sess s).rows.length)
    (hd : (c.row s i).dev = some d) (ho : (c.row s i).state.isOpened = true) {st : AifState}
    (hst : st.isOpened = false) : Books (x + Pi.single d 1) (c.setRow s i st) := by
  have hset := h.setRow hs hi st
  rwa [Row.openInd_of_opened hd ho,
    Row.openInd_of_not_opened (r := { c.row s i with state := st }) hst, sub_zero] at hset

theorem single_add_neg (x : ℕ → ℤ) (d : ℕ) :
    x + Pi.single d 1 + Pi.single d (-1) = x ∧ x + Pi.single d (-1) + Pi.single d 1 = x := by
  simp [Pi.single_neg]

/-- An open pair has its device open. -/
theorem one_le_open (h : OpenBooks c) (hs : s ∈ c.pool) (hi : i < (c.sess s).rows.length)
    (hd : (c.row s i).dev = some d) (ho : (c.row s i).state.isOpened = true) :
    1 ≤ (c.dev d).refcnt.open := by
  have hpos : 0 < c.pairs (Row.opens d) := Core.pairs_pos hs hi (by simp [Row.opens, hd, ho])
  have := Books.open_eq h d
  simp only [Pi.zero_apply] at this
  omega

end Books

/-! ### What the operations do to the books -/

section
variable {x : ℕ → ℤ} {c c' : Core} {s i n : ℕ} {r : ℤ}

theorem Books.joined (h : Books x c) (hj : Joined s n c c') : Books x c' :=
  h.congr hj.dev hj.pool hj.rows

/-- Opening a device and closing it again. -/
theorem Books.reclose {d : ℕ} (h : Books (x + Pi.single d 1) c)
    (h1 : 1 ≤ (c.dev d).refcnt.open) : Books x (c.closeDev d) := by
  have hcl := h.closeDev h1
  rwa [(Books.single_add_neg x d).1] at hcl

theorem Books.opened_pos {d : ℕ} (h : Books x c) : 1 ≤ ((c.openDev d).dev d).refcnt.open := by
  have h0 := (h.pcm d).1
  have hopen := (h.pcm d).opened.2
  rw [Core.openDev, Core.dev_onDev_self, hopen]
  omega

/-- A connection that fails leaves the books as they are. -/
theorem Connect.books_of_ne {cleans : Prop} (hc : Connect cleans s i n c r c') (hr : r ≠ 0)
    (h : Books x c) : Books x c' := by
  cases hc with
  | refused hr h' => exact h
  | undone hr h' hd => exact (h.openDev _).reclose h.opened_pos
  | @cleaned _ d g c₁ hr h' hd hn hj hg =>
      have h₁ : Books (x + Pi.single d 1) (c₁.killGraph g) :=
        ((h.openDev d).joined hj).congr rfl rfl fun _ => rfl
      refine h₁.reclose ?_
      show 1 ≤ (c₁.dev d).refcnt.open
      rw [hj.dev]
      exact h.opened_pos
  | connected h' hd hj hg => exact absurd rfl hr

/-- A connection that succeeds adds one user, which the pair then accounts for. -/
theorem Connect.books {cleans : Prop} (hc : Connect cleans s i n c 0 c') (h : Books x c)
    (hs : s ∈ c.pool) (hi : i < (c.sess s).rows.length)
    (ho : (c.row s i).state.isOpened = false) : Books x (c'.setRow s i .aifOpened) := by
  have hlen : i < (c'.sess s).rows.length := by
    rw [hc.rows]
    exact hi
  have hrow : c'.row s i = c.row s i := by rw [Core.row, Core.row, hc.rows]
  have hpool : s ∈ c'.pool := hc.pool ▸ hs
  cases hc with
  | refused hr h' => exact absurd rfl hr
  | undone hr h' hd => exact absurd rfl hr
  | cleaned hr h' hd hn hj hg => exact absurd rfl hr
  | @connected d _ h' hd hj hg =>
      have hset : Books (x + Pi.single d 1 + Pi.single d (-1)) (c'.setRow s i .aifOpened) :=
        ((h.openDev d).joined hj).raiseRow hpool hlen (hrow ▸ hd) (hrow ▸ ho) rfl
      rwa [(Books.single_add_neg x d).1] at hset

/-- A pair that stops being open when its device is closed. -/
theorem Books.close_dropRow {d : ℕ} (h : OpenBooks c) (hs : s ∈ c.pool)
    (hi : i < (c.sess s).rows.length) (hd : (c.row s i).dev = some d)
    (ho : (c.row s i).state.isOpened = true) {st : AifState} (hst : st.isOpened = false) :
    OpenBooks ((c.closeDev d).setRow s i st) := by
  have hcl := Books.closeDev h (Books.one_le_open h hs hi hd ho)
  have hdrop := hcl.dropRow (s := s) (i := i) hs hi hd ho hst
  rwa [(Books.single_add_neg 0 d).2] at hdrop

/-- A pair that stops being open before its device is closed. -/
theorem Books.dropRow_close {d : ℕ} (h : OpenBooks c) (hs : s ∈ c.pool)
    (hi : i < (c.sess s).rows.length) (hd : (c.row s i).dev = some d)
    (ho : (c.row s i).state.isOpened = true) {st : AifState} (hst : st.isOpened = false) :
    OpenBooks ((c.setRow s i st).closeDev d) := by
  have h₁ := Books.dropRow h hs hi hd ho hst
  have hpos : 1 ≤ ((c.setRow s i st).dev d).refcnt.open := by
    rw [h₁.open_eq d]
    simp
  exact h₁.reclose hpos

theorem PrepareTurn.books (ht : PrepareTurn s i c r c') (hs : s ∈ c.pool) (h : Books x c) :
    Books x c' := by
  cases ht with
  | skip h' => exact h
  | fail h' hr => exact h.neutral_row DevCore.neutral_notPrepared s i
  | @next d h' hd =>
      have hne : (c.row s i).state ≠ .aifClosed := by
        rintro e
        simp [e] at h'
      have ho : (c.row s i).state.isOpened = true := by
        rcases h' with e | e <;> rw [e] <;> rfl
      exact (h.neutral DevCore.neutral_prepared d).keepRow (s := s) (i := i) hs (c.lt_of_row_ne hne)
        ho.symm

theorem StartTurn.books (ht : StartTurn s i c r c') (hs : s ∈ c.pool) (h : Books x c) :
    Books x c' := by
  cases ht with
  | skip h' => exact h
  | fail h' hr => exact h
  | @next d h' hd hp =>
      have hst : (c.row s i).state = .aifOpened ∨ (c.row s i).state = .aifPrepared ∨
          (c.row s i).state = .aifStopped := of_decide_eq_true h'
      have hne : (c.row s i).state ≠ .aifClosed := by
        rintro e
        simp [e] at hst
      have ho : (c.row s i).state.isOpened = true := by
        rcases hst with e | e | e <;> rw [e] <;> rfl
      exact (h.neutral DevCore.neutral_started d).keepRow (s := s) (i := i) hs (c.lt_of_row_ne hne)
        ho.symm

theorem StopTurn.books {st : AifState} (hst : st.isOpened = true) (ht : StopTurn st s i c c')
    (hs : s ∈ c.pool) (h : Books x c) : Books x c' := by
  cases ht with
  | skip h' => exact h
  | stop h' =>
      have hf := Frame.onRowDev (s := s) c i DevCore.stopped
      have hi : i < (c.sess s).rows.length := c.lt_of_row_ne (by rw [h']; decide)
      refine (h.neutral_row DevCore.neutral_stopped s i).keepRow (hf.pool ▸ hs) ?_ ?_
      · rw [hf.length]
        exact hi
      · rw [Core.row_onRowDev, h', hst]
        rfl

theorem CloseTurn.books (ht : CloseTurn s i c c') (hs : s ∈ c.pool) (h : OpenBooks c) :
    OpenBooks c' := by
  cases ht with
  | skip h' => exact h
  | close h' =>
      have hne : (c.row s i).state ≠ .aifClosed := by
        rintro e
        rw [e] at h'
        exact absurd h' (by decide)
      have hi := c.lt_of_row_ne hne
      cases hd : (c.row s i).dev with
      | none =>
          -- A pair without a device is not counted anywhere.
          have hset := Books.setRow h hs hi .aifClosed
          rw [Row.openInd_of_none hd,
            Row.openInd_of_none (r := { c.row s i with state := .aifClosed }) hd, add_zero,
            sub_zero] at hset
          rw [Core.onRowDev, hd]
          exact hset
      | some d =>
          rw [Core.onRowDev, hd]
          exact Books.close_dropRow h hs hi hd h' rfl

theorem Books.setState (h : Books x c) (s : ℕ) (st : SessionState) : Books x (c.setState s st) :=
  h.congr rfl rfl (c.rows_setState s st)

theorem Books.setGraph (h : Books x c) (s : ℕ) (g : Option ℕ) : Books x (c.setGraph s g) :=
  h.congr rfl rfl (c.rows_setGraph s g)

theorem Books.closeGraph {p : Option ℕ} (h : Books x c) (hg : CloseGraph p c r c') :
    Books x c' :=
  h.congr hg.dev hg.pool fun _ => by rw [hg.sess]

theorem Close.books (hcl : Close s c r c') (hs : s ∈ c.pool) (h : OpenBooks c) :
    OpenBooks c' := by
  cases hcl with
  | already hr => exact h
  | closed hss hg hc =>
      exact (keeps_of_chain (fun _ _ _ => CloseTurn.books) (fun _ _ _ => CloseTurn.frame)
        hc (hg.pool ▸ hs) ((Books.closeGraph h hg).setGraph s none)).2.setState s _

theorem UnwindTurn.books {lost : Prop} (ht : UnwindTurn lost s i c c') (hl : ¬ lost)
    (hs : s ∈ c.pool) (h : OpenBooks c) : OpenBooks c' := by
  cases ht with
  | skip h' hl => exact h
  | close h' hd =>
      have hi : i < (c.sess s).rows.length := c.lt_of_row_ne (by rw [h']; decide)
      cases hd with
      | lost hlost hr => exact absurd hlost hl
      | closed hnl hd => exact Books.close_dropRow h hs hi hd (by rw [h']; rfl) rfl

/-- A disconnection of a pair that is open exactly when its session is. -/
theorem AifDisconnect.books {lost : Prop} (hd : AifDisconnect lost s i c r c')
    (hs : s ∈ c.pool) (hi : i < (c.sess s).rows.length)
    (ho : AifState.aifOpen.toNat ≤ (c.row s i).state.toNat →
      ((c.row s i).state = .aifOpen ↔ (c.sess s).state = .sessionClosed) ∧
      ((c.sess s).state ≠ .sessionClosed → ¬ lost))
    (h : OpenBooks c) : OpenBooks c' := by
  have hf := Frame.setRow (s := s) c i .aifClose
  have hs₁ : s ∈ (c.setRow s i .aifClose).pool := hf.pool ▸ hs
  have hi₁ : i < ((c.setRow s i .aifClose).sess s).rows.length := by
    rw [hf.length]
    exact hi
  have hrow := c.row_setRow_self .aifClose hi
  cases hd with
  | already hr => exact h
  | forgotten hst hi' =>
      have hcl : (c.row s i).state.isOpened = false := by
        rw [(ho hi').1.mpr hst]
        rfl
      have h₁ : Books 0 (c.setRow s i .aifClose) := Books.keepRow h hs hi hcl.symm
      exact h₁.keepRow hs₁ hi₁ (by rw [hrow]; rfl)
  | @disconnected _ c₁ hst hi' hd =>
      have hop : (c.row s i).state.isOpened = true := by
        have hne := mt (ho hi').1.mp hst
        revert hne hi'
        cases (c.row s i).state <;> decide
      cases hd with
      | lost h' hr => exact absurd h' ((ho hi').2 hst)
      | @closed d h' hd =>
          rw [hf.row_dev] at hd
          have h₂ : OpenBooks ((c.setRow s i .aifClose).closeDev d) :=
            Books.dropRow_close h hs hi hd hop rfl
          have hcl : (((c.setRow s i .aifClose).closeDev d).row s i).state = .aifClose := by
            show ((c.setRow s i .aifClose).row s i).state = _
            rw [hrow]
          split_ifs with hr
          · exact Books.keepRow h₂ hs₁ hi₁ (by rw [hcl]; rfl)
          · exact h₂

end

/-! ### Runs -/

theorem keeps_openBooks : Keeps OpenBooks where
  inert hi h := Books.inert h hi
  state s st h := Books.setState h s st
  graph s hg h := (Books.closeGraph h hg).setGraph s _
  refused hc hr h := hc.books_of_ne hr h
  connected hc hs hi ho h := hc.books h hs hi ho
  waiting hs hi ho hst h := Books.keepRow h hs hi (hst.trans ho.symm)
  prepare ht hs h := ht.books hs h
  start ht hs h := ht.books hs h
  stop ht hst hs h := ht.books (by rcases hst with rfl | rfl <;> rfl) hs h
  unwind ht hs h := ht.books id hs h

/-- An honest call keeps the books. -/
theorem Step.openBooks {w : World} {call : Call} {r : ℤ} {c' : Core}
    (hs : Step { w with ext := call.ext } call.op r c') (hc : OpenHonest w call)
    (h : OpenBooks w.core) : OpenBooks c' := by
  refine keeps_openBooks.step hs hc (fun s _ hp hcl => hcl.books hp h) ?_ h
  intro s aif i c₁ hop hp hi hd
  obtain ⟨hs₁, hlt, hst, hsess⟩ := hi.pair hp
  refine hd.books hs₁ hlt ?_ (Books.inert h hi.inert)
  rw [hst, hsess]
  exact hc.2.2 (s, aif) (by rw [hop]; rfl) hp

theorem Initial.openBooks {w : World} (hw : Initial w) : OpenBooks w.core := by
  have hpairs : ∀ p, w.core.pairs p = 0 := by
    intro p
    simp [Core.pairs, pairCount, World.core, hw.pool]
  refine ⟨?_, fun d => ?_⟩
  · funext d
    rw [Core.openSurplus, hpairs]
    simp [World.core, DeviceObj.core, (hw.idle d).1]
  · simp [DevCore.PcmOk, World.core, DeviceObj.core, (hw.idle d).1, (hw.idle d).2.2, pcmIsOpen]

/-- What the books say of a device. -/
theorem OpenBooks.exact {c : Core} (h : OpenBooks c) (d : ℕ) :
    (c.dev d).refcnt.open = c.pairs (Row.opens d) ∧ 0 ≤ (c.dev d).refcnt.open ∧
      (pcmIsOpen (c.dev d).trace ↔ 0 < c.pairs (Row.opens d)) := by
  have heq : (c.dev d).refcnt.open = c.pairs (Row.opens d) := by
    simpa using Books.open_eq h d
  refine ⟨heq, (h.pcm d).1, ?_⟩
  rw [(h.pcm d).2, heq]
  omega

/-- **The open counts are exact.**  In every state reached by honest calls the open count of a
device is the number of pairs that have it open, and its pcm is open while there is one. -/
theorem open_count_exact {w w' : World} {calls : List Call} (hw : Initial w)
    (hc : Admits exec OpenHonest calls w) (hrun : runAll exec calls w = .ok ((), w')) (d : ℕ) :
    (w'.dev d).refcnt.open = w'.core.pairs (Row.opens d) ∧ 0 ≤ (w'.dev d).refcnt.open ∧
      (pcmIsOpen (w'.dev d).trace ↔ 0 < w'.core.pairs (Row.opens d)) := by
  have hstep : ∀ w call, OpenBooks w.core → OpenHonest w call →
      Ensures anyFault (exec call) w fun _ w' => OpenBooks w'.core := by
    intro w call h hc
    exact (exec_step call).imp fun r w' hs => hs.openBooks hc h
  have hbooks := (runAll_invariant exec hstep calls w hw.openBooks hc).of_ok hrun
  exact hbooks.exact d

/-- Two sessions share a device, and one of them moves to another while it is started. -/
def shareDevice : List Call :=
  [⟨.aifConnect 0 1 true, []⟩, ⟨.open 0, []⟩, ⟨.aifConnect 3 1 true, []⟩, ⟨.open 3, []⟩,
    ⟨.prepare 3, []⟩, ⟨.start 3, []⟩, ⟨.aifConnect 3 2 true, []⟩, ⟨.aifConnect 3 1 false, []⟩]

theorem open_count_shareDevice :
    ∃ w', runAll exec shareDevice (startUp 4) = .ok ((), w') ∧
      w'.core.pairs (Row.opens 1) = 1 ∧ (w'.dev 1).refcnt.open = 1 := by
  obtain ⟨_, w', hrun, hpairs⟩ := Ensures.exists_ok (m := runAll exec shareDevice) (s := startUp 4)
    (Q := fun _ w' => w'.core.pairs (Row.opens 1) = 1) (by decide +kernel)
  have hopen := open_count_exact (initial_startUp 4) (by decide +kernel) hrun 1
  exact ⟨w', hrun, hpairs, by rw [hopen.1, hpairs]; rfl⟩

/-- The same interface is connected again after the session is open. -/
def connectTwice : List Call :=
  [⟨.aifConnect 0 1 true, []⟩, ⟨.open 0, []⟩, ⟨.aifConnect 0 1 true, []⟩]

theorem open_count_connectTwice :
    Ensures noFault (runAll exec connectTwice) (startUp 4) fun _ w =>
      (w.dev 1).refcnt.open = 2 ∧ w.core.pairs (Row.opens 1) = 1 := by
  decide +kernel

end Agm
