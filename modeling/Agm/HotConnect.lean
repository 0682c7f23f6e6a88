import Agm.Agreement

/-! # A connection to an open session that fails

`session_obj_sess_aif_connect` of an interface that is not open yet, in a session that is open.
When `session_connect_aif` fails, everything is as before (`Untouched`), but for the counters of
a device that was started with nobody having it open.  When it succeeds and the preparation or the
start after it fails, `unwind` only disconnects the interface: its pair stays open.
`hot_connect_atomic_iff` is the exact condition. -/

namespace Agm

open Prog

/-! ### What a failed connection has done -/

/-- The exit is one of the labels at which the device is closed again. -/
def ConnectExit.isLabel : ConnectExit → Bool
  | .done _ => false
  | _ => true

/-- `session_connect_aif` opens the device, fails and closes it again. -/
def Undoes (s i n : ℕ) (w : World) : Prop :=
  Ensures noFault (connectSteps s i n) w fun exit _ => exit.isLabel = true

instance (s i n : ℕ) (w : World) : Decidable (Undoes s i n w) :=
  inferInstanceAs (Decidable (Ensures _ _ _ _))

/-- The device of the pair is started although nobody has it open. -/
def StartedUnopened (s i : ℕ) (w : World) : Prop :=
  ∃ d ∈ (w.aif s i).devObj, (w.dev d).refcnt.open = 0 ∧ (w.dev d).refcnt.start ≠ 0

instance (s i : ℕ) (w : World) : Decidable (StartedUnopened s i w) :=
  inferInstanceAs (Decidable (∃ d ∈ (w.aif s i).devObj, _))

/-- The connection opens a device that is started although nobody has it open, and closes it
again. -/
def DropsStarts (s aif : ℕ) (w : World) : Prop :=
  Ensures noFault (aifObjGet s aif) w fun r w₁ =>
    r.1 = 0 ∧ Undoes s r.2 (openedCount (w₁.sess s)) w₁ ∧ StartedUnopened s r.2 w₁

instance (s aif : ℕ) (w : World) : Decidable (DropsStarts s aif w) :=
  inferInstanceAs (Decidable (Ensures _ _ _ _))

/-- What a failed connection has done to the devices. -/
def FailedConnect (s i n : ℕ) (w w' : World) : Prop :=
  (Undoes s i n w ∧ ∃ d, (w.core.row s i).dev = some d ∧
      ∀ d', w'.core.dev d' = ((w.core.openDev d).closeDev d).dev d') ∨
    (¬ Undoes s i n w ∧ w'.core.dev = w.core.dev)

/-- Opening a device and closing it again. -/
theorem dev_openDev_closeDev (c : Core) (d d' : ℕ) :
    (((c.openDev d).closeDev d).dev d').refcnt.open = (c.dev d').refcnt.open ∧
      ((((c.openDev d).closeDev d).dev d').refcnt.start = (c.dev d').refcnt.start ∨
        d' = d ∧ (c.dev d).refcnt.open = 0 ∧
          (((c.openDev d).closeDev d).dev d).refcnt.start = 0) := by
  by_cases hd : d' = d
  · subst hd
    rw [Core.closeDev, Core.dev_onDev_self, Core.openDev, Core.dev_onDev_self]
    unfold DevCore.opened
    by_cases h0 : (c.dev d').refcnt.open = 0
    · rw [if_pos h0, DevCore.closed, if_pos rfl]
      exact ⟨h0.symm, .inr ⟨rfl, h0, rfl⟩⟩
    · have hne : (c.dev d').refcnt.open + 1 ≠ 1 := by omega
      rw [if_neg h0, DevCore.closed, if_neg hne]
      refine ⟨?_, .inl rfl⟩
      show (c.dev d').refcnt.open + 1 - 1 = (c.dev d').refcnt.open
      omega
  · rw [Core.closeDev, Core.dev_onDev_of_ne _ hd, Core.openDev, Core.dev_onDev_of_ne _ hd]
    exact ⟨rfl, .inl rfl⟩

section
variable {s i n : ℕ} {w : World}

/-- Closing the device that was opened. -/
theorem closeDevice_failed {d : ℕ} {w₁ : World} {r : ℤ}
    (h : w₁.core.dev = (w.core.openDev d).dev) :
    Ensures anyFault (do
      let _ ← onDevice (some d) deviceClose
      pure r : AgmM ℤ) w₁ fun r' w' => r' = r ∧
        ∀ d', w'.core.dev d' = ((w.core.openDev d).closeDev d).dev d' := by
  rw [ensures_bind]
  refine (onDevice_close d).imp fun _ w₂ h₂ => ⟨rfl, fun d' => ?_⟩
  rw [h₂]
  show (w₁.core.onDev d DevCore.closed).dev d' = ((w.core.openDev d).onDev d DevCore.closed).dev d'
  by_cases hd : d' = d
  · subst hd
    rw [Core.dev_onDev_self, Core.dev_onDev_self, h]
  · rw [Core.dev_onDev_of_ne _ hd, Core.dev_onDev_of_ne _ hd, h]

theorem Joined.row {c c' : Core} (h : Joined s n c c') (i : ℕ) : c'.row s i = c.row s i := by
  rw [Core.row, h.rows, Core.row]

theorem sessionConnectAif_failed (s i n : ℕ) :
    Ensures anyFault (sessionConnectAif s i n) w fun r w' =>
      (r ≠ 0 → FailedConnect s i n w w') ∧ (r = 0 → ¬ Undoes s i n w) := by
  unfold sessionConnectAif
  rw [ensures_bind]
  have hsteps := connectSteps_ensures (E := anyFault) (w := w) (fun _ => trivial) s i n
    fun _ _ => .inr trivial
  refine hsteps.with_ok.imp ?_
  rintro exit w₁ ⟨⟨d, hd, hexit⟩, hrun⟩
  have hundo : Undoes s i n w ↔ exit.isLabel = true := ensures_iff_of_ok hrun
  have hlabel : ∀ {w' : World}, exit.isLabel = true →
      (∀ d', w'.core.dev d' = ((w.core.openDev d).closeDev d).dev d') → FailedConnect s i n w w' :=
    fun hl h => .inl ⟨hundo.mpr hl, d, hd, h⟩
  have hdev : w₁.core.row s i = w.core.row s i → (w₁.aif s i).devObj = some d := by
    intro hrow
    rw [← hd, ← hrow, core_row]
    rfl
  rw [ensures_bind, ensures_getAif]
  cases exit with
  | done r =>
      have hno : ¬ Undoes s i n w := fun h => nomatch hundo.mp h
      refine ⟨fun hr => .inr ⟨hno, ?_⟩, fun _ => hno⟩
      rcases hexit with ⟨-, hcore⟩ | ⟨h0, -⟩
      · rw [hcore]
      · exact absurd h0 hr
  | closeDevice r =>
      obtain ⟨hr, hcore⟩ := hexit
      have hrow : w₁.core.row s i = w.core.row s i := by rw [hcore]; rfl
      have hopened : w₁.core.dev = (w.core.openDev d).dev := by rw [hcore]
      dsimp only
      rw [hdev hrow]
      refine (closeDevice_failed hopened).imp ?_
      rintro _ w' ⟨rfl, h⟩
      exact ⟨fun _ => hlabel rfl h, fun h0 => absurd h0 hr⟩
  | graphCleanup r md =>
      obtain ⟨hr, hjoin⟩ := hexit
      have hrow : w₁.core.row s i = w.core.row s i := (hjoin.row i).trans rfl
      have hclean : Ensures anyFault (graphCleanup s n md) w₁ fun _ w₂ =>
          w₂.core.dev = w₁.core.dev := by
        unfold graphCleanup
        rw [ensures_bind, ensures_getSess, ensures_ite]
        refine ⟨fun _ => ?_, fun _ => ?_⟩
        · have hclose := graphClose_ensures (E := anyFault) (w := w₁) (fun _ => trivial)
            (p := (w₁.sess s).graph) fun _ _ => .inr trivial
          refine hclose.imp fun _ w₂ h₂ => ?_
          generalize w₂.core = c₂ at h₂
          cases h₂ with
          | null hp hr => rfl
          | closed hp => rfl
        · have hquiet : Ensures anyFault (onGraph (w₁.sess s).graph fun _ => graphRemoveBody md) w₁
              fun r w₂ => w₂.core = w₁.core ∧ (r = 0 → (w₁.sess s).graph ≠ none) :=
            onGraph_quiet (fun _ => trivial) fun _ _ => .inr trivial
          exact hquiet.imp fun _ w₂ h₂ => by rw [h₂.1]
      dsimp only
      rw [hdev hrow, ensures_bind]
      refine hclean.imp fun _ w₂ h₂ => ?_
      refine (closeDevice_failed (h₂.trans hjoin.dev)).imp ?_
      rintro _ w' ⟨rfl, h⟩
      exact ⟨fun _ => hlabel rfl h, fun h0 => absurd h0 hr⟩

/-! ### The call around it -/

/-- How the call ends when `session_connect_aif` leaves `Q` on failure and has `R` on success. -/
def AifConnectExit.Ends (Q : World → Prop) (R : Prop) (w' : World) : AifConnectExit → Prop
  | .done r => (r ≠ 0 → Q w') ∧ (r = 0 → R)
  | .unwind r _ _ => r ≠ 0 ∧ R

theorem aifConnectBody_ends {Q : World → Prop} {R : Prop}
    (hconn : Ensures anyFault (sessionConnectAif s i n) w fun r w' =>
      (r ≠ 0 → Q w') ∧ (r = 0 → R)) (hst : (w.sess s).state ≠ .sessionClosed) :
    Ensures anyFault (aifConnectBody s i n) w fun exit w' => exit.Ends Q R w' := by
  have hhot : Ensures anyFault (hotConnect s i n) w fun r w' => (r ≠ 0 → Q w') ∧ (r = 0 → R) := by
    unfold hotConnect
    rw [ensures_bind]
    refine hconn.imp fun r w₁ h₁ => ?_
    rw [ensures_ite]
    refine ⟨fun _ => h₁, fun hr => ?_⟩
    rw [ensures_bind]
    refine ensures_of_forall (fun _ => trivial) fun _ w₂ => ?_
    exact ⟨fun h => absurd rfl h, fun _ => h₁.2 (not_not.mp hr)⟩
  have hprepare : Ensures anyFault (do
      let ret ← hotConnect s i n
      if ret ≠ 0 then pure (.done ret) else
      let ret ← sessionPrepare s
      if ret ≠ 0 then pure (.unwind ret i (n + 1)) else pure (.done 0) : AgmM AifConnectExit) w
      fun exit w' => exit.Ends Q R w' := by
    rw [ensures_bind]
    refine hhot.imp fun r w₁ h₁ => ?_
    rw [ensures_ite]
    refine ⟨fun _ => h₁, fun hr => ?_⟩
    have hR : R := h₁.2 (not_not.mp hr)
    rw [ensures_bind]
    refine ensures_of_forall (fun _ => trivial) fun r₂ w₂ => ?_
    rw [ensures_ite]
    exact ⟨fun hr₂ => ⟨hr₂, hR⟩, fun _ => ⟨fun h => absurd rfl h, fun _ => hR⟩⟩
  unfold aifConnectBody
  rw [ensures_bind, ensures_getSess]
  cases hstate : (w.sess s).state with
  | sessionClosed => exact absurd hstate hst
  | sessionOpened =>
      dsimp only
      rw [ensures_bind]
      exact hhot.imp fun r w₁ h₁ => h₁
  | sessionPrepared => exact hprepare
  | sessionStopped => exact hprepare
  | sessionStarted =>
      dsimp only
      rw [ensures_bind]
      refine hhot.imp fun r w₁ h₁ => ?_
      rw [ensures_ite]
      refine ⟨fun _ => h₁, fun hr => ?_⟩
      have hR : R := h₁.2 (not_not.mp hr)
      rw [ensures_bind]
      refine ensures_of_forall (fun _ => trivial) fun r₂ w₂ => ?_
      rw [ensures_ite]
      refine ⟨fun hr₂ => ⟨hr₂, hR⟩, fun _ => ?_⟩
      rw [ensures_bind]
      refine ensures_of_forall (fun _ => trivial) fun r₃ w₃ => ?_
      rw [ensures_ite]
      exact ⟨fun hr₃ => ⟨hr₃, hR⟩, fun _ => ⟨fun h => absurd rfl h, fun _ => hR⟩⟩

/-- The counters of all devices that say who has them open and started. -/
def SameCounts (c c' : Core) : Prop :=
  ∀ d, (c'.dev d).refcnt.open = (c.dev d).refcnt.open ∧
    (c'.dev d).refcnt.start = (c.dev d).refcnt.start

theorem GetAif.dev {aif : ℕ} {c c₁ : Core} {r : ℤ × ℕ} (h : GetAif s aif c r c₁) :
    c₁.dev = c.dev := by
  cases h with
  | found h => rfl
  | noMemory hr => rfl
  | created h => rfl

/-- What the failure does to the counters: it drops the start count of a device, or nothing. -/
theorem aifConnectSteps_counts {aif : ℕ} (hs : s ∈ w.pool)
    (hst : (w.sess s).state ≠ .sessionClosed)
    (hnew : (w.core.pairState s aif).toNat < AifState.aifOpened.toNat) :
    Ensures anyFault (aifConnectSteps s aif true) w fun exit w' =>
      exit.Ends (fun w' => (DropsStarts s aif w ∧ ¬ SameCounts w.core w'.core) ∨
        (¬ DropsStarts s aif w ∧ SameCounts w.core w'.core)) (¬ DropsStarts s aif w) w' := by
  unfold aifConnectSteps
  rw [ensures_bind]
  have hget := aifObjGet_ensures (E := anyFault) (w := w) (fun _ => trivial) s aif
  refine hget.with_ok.imp ?_
  rintro ⟨r, i⟩ w₁ ⟨hget, hrun⟩
  have hdrop : DropsStarts s aif w ↔
      r = 0 ∧ Undoes s i (openedCount (w₁.sess s)) w₁ ∧ StartedUnopened s i w₁ :=
    ensures_iff_of_ok hrun
  have hdev : w₁.core.dev = w.core.dev := hget.dev
  rw [ensures_ite]
  refine ⟨fun hr => ?_, fun hr => ?_⟩
  · have hno : ¬ DropsStarts s aif w := fun h => hr (hdrop.mp h).1
    refine ⟨fun _ => .inr ⟨hno, fun d => ?_⟩, fun _ => hno⟩
    rw [hdev]
    exact ⟨rfl, rfl⟩
  obtain rfl : r = 0 := not_not.mp hr
  obtain ⟨-, -, hrow, hstate⟩ := hget.pair hs
  have hpair : (w₁.aif s i).state.toNat < AifState.aifOpened.toNat := by
    have hrow' : (w₁.aif s i).row.state = w.core.pairState s aif := by
      rw [← core_row]
      exact hrow
    rw [← hrow'] at hnew
    exact hnew
  have hst₁ : (w₁.sess s).state ≠ .sessionClosed := by
    have hstate' : (w₁.sess s).state = (w.sess s).state := hstate
    rw [hstate']
    exact hst
  dsimp only
  rw [ensures_bind, ensures_getAif, ensures_ite]
  refine ⟨fun halready => ?_, fun _ => ?_⟩
  · have hlt : AifState.aifOpened.toNat < (w₁.aif s i).state.toNat := of_decide_eq_true halready
    omega
  rw [ensures_bind, ensures_getSess, if_pos rfl]
  refine aifConnectBody_ends ?_ hst₁
  refine (sessionConnectAif_failed s i (openedCount (w₁.sess s))).imp ?_
  rintro r w' ⟨hfail, hok⟩
  refine ⟨fun hr => ?_, fun hr hd => hok hr (hdrop.mp hd).2.1⟩
  rcases hfail hr with ⟨hundo, d, hd, hall⟩ | ⟨hundo, hsame⟩
  · have hdevObj : (w₁.aif s i).devObj = some d := by
      rw [core_row] at hd
      exact hd
    have hcounts := fun d' => dev_openDev_closeDev w₁.core d d'
    by_cases hstarted : (w₁.core.dev d).refcnt.open = 0 ∧ (w₁.core.dev d).refcnt.start ≠ 0
    · refine .inl ⟨hdrop.mpr ⟨rfl, hundo, d, hdevObj, hstarted⟩, fun hsame => ?_⟩
      obtain ⟨-, hstart⟩ := hsame d
      rw [hall d, ← hdev] at hstart
      have hzero : (((w₁.core.openDev d).closeDev d).dev d).refcnt.start = 0 := by
        rw [Core.closeDev, Core.dev_onDev_self, Core.openDev, Core.dev_onDev_self, DevCore.opened,
          if_pos hstarted.1, DevCore.closed, if_pos rfl]
      exact hstarted.2 (hstart.symm.trans hzero)
    · refine .inr ⟨fun h => ?_, fun d' => ?_⟩
      · obtain ⟨d', hd', hopen, hstart⟩ := (hdrop.mp h).2.2
        obtain rfl : d' = d := Option.some.inj ((Option.mem_def.mp hd').symm.trans hdevObj)
        exact hstarted ⟨hopen, hstart⟩
      · rw [hall d', ← hdev]
        obtain ⟨hopen, hstart | ⟨rfl, h0, hzero⟩⟩ := hcounts d'
        · exact ⟨hopen, hstart⟩
        · refine ⟨hopen, hzero.trans (Eq.symm ?_)⟩
          by_contra hne
          exact hstarted ⟨h0, hne⟩
  · refine .inr ⟨fun h => hundo (hdrop.mp h).2.1, fun d => ?_⟩
    rw [hsame, hdev]
    exact ⟨rfl, rfl⟩

/-- The same of the whole call, by whether it goes to `unwind`. -/
theorem sessionObjSessAifConnect_counts {aif : ℕ} (hs : s ∈ w.pool)
    (hst : (w.sess s).state ≠ .sessionClosed)
    (hnew : (w.core.pairState s aif).toNat < AifState.aifOpened.toNat) :
    Ensures anyFault (sessionObjSessAifConnect s aif true) w fun r w' =>
      (AifUnwinds s aif w → r ≠ 0) ∧
      (¬ AifUnwinds s aif w → r ≠ 0 → (DropsStarts s aif w ∧ ¬ SameCounts w.core w'.core) ∨
        (¬ DropsStarts s aif w ∧ SameCounts w.core w'.core)) ∧
      (r = 0 → ¬ DropsStarts s aif w) := by
  unfold sessionObjSessAifConnect
  rw [ensures_bind]
  refine (aifConnectSteps_counts hs hst hnew).with_ok.imp ?_
  rintro exit w₁ ⟨hends, hrun⟩
  have hun : AifUnwinds s aif w ↔ exit.isUnwind = true := ensures_iff_of_ok hrun
  cases exit with
  | done r => exact ⟨fun h => (nomatch hun.mp h), fun _ => hends.1, hends.2⟩
  | unwind r i n =>
      obtain ⟨hr, -⟩ := hends
      dsimp only
      rw [ensures_bind]
      refine ensures_of_forall (fun _ => trivial) fun _ w₂ => ?_
      exact ⟨fun _ => hr, fun h => absurd (hun.mpr rfl) h, fun h0 => absurd h0 hr⟩

end

/-! ### The pairs -/

section
variable {s i j aif : ℕ} {c c' : Core} {r : ℤ}

theorem PrepareTurn.opened (ht : PrepareTurn s j c r c')
    (ho : (c.row s i).state.isOpened = true) : (c'.row s i).state.isOpened = true := by
  cases ht with
  | skip h => exact ho
  | fail h hr =>
      rw [Core.row_onRowDev]
      exact ho
  | @next d h hd =>
      have hj : j < ((c.onDev d DevCore.prepared).sess s).rows.length := by
        refine c.lt_of_row_ne ?_
        rcases h with h | h
        · rw [h]
          decide
        · rw [h]
          decide
      rw [Core.state_setRow _ _ hj]
      split_ifs
      · rfl
      · exact ho

theorem StartTurn.opened (ht : StartTurn s j c r c')
    (ho : (c.row s i).state.isOpened = true) : (c'.row s i).state.isOpened = true := by
  cases ht with
  | skip h => exact ho
  | fail h hr => exact ho
  | @next d h hd hp =>
      have hj : j < ((c.onDev d DevCore.started).sess s).rows.length := by
        refine c.lt_of_row_ne fun e => ?_
        rw [e] at h
        exact absurd h (by decide)
      rw [Core.state_setRow _ _ hj]
      split_ifs
      · rfl
      · exact ho

theorem StopTurn.opened (ht : StopTurn .aifOpened s j c c')
    (ho : (c.row s i).state.isOpened = true) : (c'.row s i).state.isOpened = true := by
  cases ht with
  | skip h => exact ho
  | stop h =>
      rw [Core.state_onRowDev_setRow _ _ _ (by rw [h]; decide)]
      split_ifs
      · rfl
      · exact ho

/-- A preparation closes no pair. -/
theorem Prepare.opened (h : Prepare s c r c') (ho : (c.row s i).state.isOpened = true) :
    (c'.row s i).state.isOpened = true := by
  have hloop : ∀ {c₁ : Core} {r₁ : ℤ}, Until (PrepareTurn s) (c.rowRange s) c r₁ c₁ →
      (c₁.row s i).state.isOpened = true := fun hu =>
    hu.invariant (I := fun c => (c.row s i).state.isOpened = true)
      (fun _ _ _ _ ho ht => ht.opened ho) ho
  cases h with
  | early hr => exact ho
  | late hn hr hu => exact hloop hu
  | prepared hn hu =>
      rw [Core.row, Core.rows_setState]
      exact hloop hu

/-- And neither does a start, whether it succeeds or not. -/
theorem Start.opened {gate : Prop} (h : Start gate s c r c') (hs : s ∈ c.pool)
    (ho : (c.row s i).state.isOpened = true) : (c'.row s i).state.isOpened = true := by
  have hpeek : ∀ {c₁ : Core}, Peek c c₁ → (c₁.row s i).state.isOpened = true := by
    intro c₁ hp
    rw [Core.row, hp.sess hs]
    exact ho
  have hloop : ∀ {c₁ c₂ : Core} {r₁ : ℤ}, Peek c c₁ →
      Until (StartTurn s) (c.rowRange s) c₁ r₁ c₂ → (c₂.row s i).state.isOpened = true :=
    fun hp hu => hu.invariant (I := fun c => (c.row s i).state.isOpened = true)
      (fun _ _ _ _ ho ht => ht.opened ho) (hpeek hp)
  cases h with
  | early h hr hp => exact hpeek hp
  | unwound h hn hr hp hu hc =>
      exact hc.invariant (I := fun c => (c.row s i).state.isOpened = true)
        (fun _ _ _ ho ht => ht.opened ho) (hloop hp hu)
  | started h hn hp hu =>
      rw [Core.row, Core.rows_setState]
      exact hloop hp hu

/-- When the call goes to `unwind` its pair is open. -/
theorem HotConnect.unwind_opened {cleans gate : Prop} (h : HotConnect cleans gate s i c r true c')
    (hs : s ∈ c.pool) (hlt : i < (c.sess s).rows.length) :
    r ≠ 0 ∧ (c.row s i).dev ≠ none ∧ (c'.row s i).state.isOpened = true := by
  have hset : ∀ {c₁ : Core}, Connect cleans s i (c.openedCount s) c 0 c₁ →
      s ∈ (c₁.setRow s i .aifOpened).pool ∧ (c.row s i).dev ≠ none ∧
      ((c₁.setRow s i .aifOpened).row s i).state.isOpened = true := by
    intro c₁ hc
    have hlen : i < (c₁.sess s).rows.length := by
      rw [hc.rows]
      exact hlt
    refine ⟨?_, ?_, ?_⟩
    · rw [(Frame.setRow (s := s) c₁ i .aifOpened).pool, hc.pool]
      exact hs
    · cases hc with
      | refused hr h => exact absurd rfl hr
      | undone hr h hd => exact absurd rfl hr
      | cleaned hr h hd hn hj hg => exact absurd rfl hr
      | connected h hd hj hg =>
          rw [hd]
          exact Option.some_ne_none _
    · rw [Core.row_setRow_self _ _ hlen]
      rfl
  cases h with
  | prepareFailed hst hi hc hr hp =>
      obtain ⟨-, hdev, ho⟩ := hset hc
      exact ⟨hr, hdev, hp.opened ho⟩
  | startFailed hst hi hc hp hr hstart =>
      obtain ⟨hs₁, hdev, ho⟩ := hset hc
      exact ⟨hr, hdev, hstart.opened (hp.facts.1 ▸ hs₁) (hp.opened ho)⟩

/-- The position of an interface depends on the ids alone. -/
theorem findAif_of_keys (h : (c'.sess s).rows.map (fun r => (r.aifId, r.dev)) =
    (c.sess s).rows.map (fun r => (r.aifId, r.dev))) : c'.findAif s aif = c.findAif s aif := by
  have hfind : ∀ c : Core, c.findAif s aif = ((c.sess s).rows.map fun r => (r.aifId, r.dev)).findIdx?
      fun k => decide (k.1 = aif) := by
    intro c
    rw [List.findIdx?_map]
    rfl
  rw [hfind, hfind, h]

/-- The position that `aif_obj_get` returns is the one of the interface, if it has a device. -/
theorem GetAif.findAif {c₁ : Core} (h : GetAif s aif c (0, i) c₁) (hdev : (c₁.row s i).dev ≠ none) :
    c₁.findAif s aif = some i := by
  cases h with
  | found h => exact h
  | noMemory hr => exact absurd rfl hr
  | created h =>
      have hrow : (c.addRow s (c.newRow aif)).row s (c.sess s).rows.length = c.newRow aif := by
        simp [Core.row, Core.addRow]
      rw [hrow] at hdev
      have hid : (c.newRow aif).aifId = aif := by
        unfold Core.newRow at hdev ⊢
        split_ifs with h1 h2
        · rfl
        · rfl
        · rw [if_neg h1, if_neg h2] at hdev
          exact absurd rfl hdev
      unfold Core.findAif at h ⊢
      rw [Core.addRow, Core.sess_setSess_self, List.findIdx?_append, h, Option.none_or,
        List.findIdx?_singleton]
      simp [hid]

/-! ### One call, all or nothing -/

/-- Nothing that the connection of an interface could have changed has changed: its pair, the
users of the devices, the other pairs, the session, and the graph while another pair is open. -/
structure Untouched (s aif : ℕ) (c c' : Core) : Prop where
  target : c'.pairState s aif = c.pairState s aif
  counts : SameCounts c c'
  others : ∀ i < (c.sess s).rows.length, (c'.row s i).state = (c.row s i).state
  state : (c'.sess s).state = (c.sess s).state
  running : c.openedCount s ≠ 0 → (c'.sess s).graph = (c.sess s).graph ∧ c'.live = c.live

theorem Core.pairState_congr (h : (c'.sess s).rows = (c.sess s).rows) :
    c'.pairState s aif = c.pairState s aif := by
  simp only [pairState, findAif, row, h]

/-- Appending a pair for an interface that has none. -/
theorem GetAif.untouched {c₁ : Core} {r : ℤ × ℕ} (h : GetAif s aif c r c₁) :
    Untouched s aif c c₁ ∧ c₁.openedCount s = c.openedCount s := by
  cases h with
  | found h => exact ⟨⟨rfl, fun _ => ⟨rfl, rfl⟩, fun _ _ => rfl, rfl, fun _ => ⟨rfl, rfl⟩⟩, rfl⟩
  | noMemory hr => exact ⟨⟨rfl, fun _ => ⟨rfl, rfl⟩, fun _ _ => rfl, rfl, fun _ => ⟨rfl, rfl⟩⟩, rfl⟩
  | created h =>
      have hrows : ((c.addRow s (c.newRow aif)).sess s).rows = (c.sess s).rows ++ [c.newRow aif] := by
        simp [Core.addRow]
      have hnew := c.newRow_state aif
      refine ⟨⟨?_, fun _ => ⟨rfl, rfl⟩, fun i hi => ?_, ?_, fun _ => ⟨?_, rfl⟩⟩, ?_⟩
      · have hold : c.pairState s aif = .aifClosed := by
          rw [Core.pairState, h]
        rw [hold]
        unfold Core.pairState
        cases hf : (c.addRow s (c.newRow aif)).findAif s aif with
        | none => rfl
        | some k =>
            -- the only pair that can have the id is the new one
            have hk : k = (c.sess s).rows.length := by
              unfold Core.findAif at h hf
              rw [hrows, List.findIdx?_append, h, Option.none_or, List.findIdx?_singleton] at hf
              split_ifs at hf with hid
              · simpa using hf.symm
              · simp at hf
            subst hk
            show (((c.addRow s (c.newRow aif)).sess s).rows.getD _ {}).state = _
            rw [hrows, List.getD_append_right _ _ _ _ le_rfl, Nat.sub_self]
            exact hnew
      · unfold Core.row
        rw [hrows, List.getD_append _ _ _ _ hi]
      · simp [Core.addRow]
      · simp [Core.addRow]
      · rw [Core.openedCount, hrows, List.countP_append, Core.openedCount]
        simp [hnew, AifState.isOpened, AifState.toNat]

theorem Untouched.trans {c₁ : Core} (h : Untouched s aif c c₁)
    (hn : c₁.openedCount s = c.openedCount s)
    (hlen : (c.sess s).rows.length ≤ (c₁.sess s).rows.length) (h' : Untouched s aif c₁ c') :
    Untouched s aif c c' where
  target := h'.target.trans h.target
  counts d := ⟨(h'.counts d).1.trans (h.counts d).1, (h'.counts d).2.trans (h.counts d).2⟩
  others i hi := (h'.others i (hi.trans_le hlen)).trans (h.others i hi)
  state := h'.state.trans h.state
  running ho := by
    obtain ⟨hgraph, hlive⟩ := h.running ho
    obtain ⟨hgraph', hlive'⟩ := h'.running (hn ▸ ho)
    exact ⟨hgraph'.trans hgraph, hlive'.trans hlive⟩

/-- A failed connection to an open session, but for the counters. -/
theorem Connect.untouched {cleans : Prop} (h : Connect cleans s i (c.openedCount s) c r c')
    (hr : r ≠ 0) (hst : (c.sess s).state ≠ .sessionClosed) (hcounts : SameCounts c c') :
    Untouched s aif c c' := by
  have hrows := h.rows s
  have hrow : ∀ j, c'.row s j = c.row s j := by
    intro j
    unfold Core.row
    rw [hrows]
  refine ⟨Core.pairState_congr hrows, hcounts, fun j _ => by rw [hrow], ?_, ?_⟩
  · cases h with
    | refused hr h => rfl
    | undone hr h hd => rfl
    | cleaned hr h hd hn hj hg =>
        cases hj with
        | same => rfl
        | opened hn hs => exact absurd hs hst
    | connected h hd hj hg => exact absurd rfl hr
  · intro ho
    have hf := h.frame ho
    exact ⟨hf.graph, hf.live⟩

/-- A failure that does not go to `unwind`, but for the counters. -/
theorem AifConnect.untouched {cleans gate unwinds : Prop}
    (h : AifConnect cleans gate unwinds s aif c r c') (hu : ¬ unwinds) (hr : r ≠ 0)
    (hs : s ∈ c.pool) (hst : (c.sess s).state ≠ .sessionClosed) (hcounts : SameCounts c c') :
    Untouched s aif c c' := by
  cases h with
  | noMemory hr h => exact ⟨rfl, hcounts, fun _ _ => rfl, rfl, fun _ => ⟨rfl, rfl⟩⟩
  | @done i c₁ _ h hi hc =>
      obtain ⟨hget, hn⟩ := hi.untouched
      obtain ⟨-, -, -, hstate⟩ := hi.pair hs
      have hst₁ : (c₁.sess s).state ≠ .sessionClosed := by
        rw [hstate]
        exact hst
      have hlen : (c.sess s).rows.length ≤ (c₁.sess s).rows.length := by
        cases hi with
        | found h => exact le_rfl
        | noMemory hr => exact le_rfl
        | created h => simp [Core.addRow]
      refine hget.trans hn hlen ?_
      have hcounts₁ : SameCounts c₁ c' := by
        unfold SameCounts
        rw [hi.dev]
        exact hcounts
      cases hc with
      | already hr => exact ⟨rfl, hcounts₁, fun _ _ => rfl, rfl, fun _ => ⟨rfl, rfl⟩⟩
      | waiting hs hi => exact absurd hs hst₁
      | failed hs hi hr hc => exact hc.untouched hr hst₁ hcounts₁
      | opened hs hi hc => exact absurd rfl hr
      | prepared hs hi hc hp => exact absurd rfl hr
      | started hs hi hc hp hst => exact absurd rfl hr
  | unwound h hi hc hd => exact absurd h hu

/-- After `unwind` the pair of the interface is still open. -/
theorem AifConnect.unwind_opened {cleans gate unwinds : Prop}
    (h : AifConnect cleans gate unwinds s aif c r c') (hu : unwinds) (hs : s ∈ c.pool) :
    AifState.aifOpened.toNat ≤ (c'.pairState s aif).toNat := by
  cases h with
  | noMemory hr h => exact absurd hu h
  | done h hi hc => exact absurd hu h
  | @unwound _ i c₁ c₂ _ _ h hi hc hd =>
      obtain ⟨hs₁, hlt, -, -⟩ := hi.pair hs
      obtain ⟨-, hdev, ho⟩ := hc.unwind_opened hs₁ hlt
      have hkeys : (c'.sess s).rows.map (fun r => (r.aifId, r.dev)) =
          (c₁.sess s).rows.map (fun r => (r.aifId, r.dev)) := by
        rw [hd.sess]
        exact (hc.only hs₁).keys
      have ho' : (c'.row s i).state.isOpened = true := by
        rw [Core.row, hd.sess]
        exact ho
      rw [Core.pairState, findAif_of_keys hkeys, hi.findAif hdev]
      exact of_decide_eq_true ho'

end

/-- Connecting an interface that is not open yet to a session that is open: a failure leaves
everything as it was if and only if it does not come from the preparation or the start after the
connection, and no device is opened and closed again that was started with nobody having it
open. -/
theorem hot_connect_atomic_iff {s aif : ℕ} {r : ℤ} {ext : List Answer} {w w' : World}
    (hs : s ∈ w.pool) (hst : (w.sess s).state ≠ .sessionClosed)
    (hnew : (w.core.pairState s aif).toNat < AifState.aifOpened.toNat)
    (hrun : exec ⟨.aifConnect s aif true, ext⟩ w = .ok (r, w')) :
    (r ≠ 0 → Untouched s aif w.core w'.core) ↔
      ¬ AifUnwinds s aif { w with ext := ext } ∧ ¬ DropsStarts s aif { w with ext := ext } := by
  generalize hw : ({ w with ext := ext } : World) = w₀
  have hcore : w₀.core = w.core := by rw [← hw]; rfl
  have hs₀ : s ∈ w₀.pool := by rw [← hw]; exact hs
  have hst₀ : (w₀.sess s).state ≠ .sessionClosed := by rw [← hw]; exact hst
  have hcall : sessionObjSessAifConnect s aif true w₀ = .ok (r, w') := by
    have hensures : Ensures anyFault (exec ⟨.aifConnect s aif true, ext⟩) w
        fun r' w'' => sessionObjSessAifConnect s aif true w₀ = .ok (r', w'') := by
      unfold exec
      rw [ensures_bind, ensures_modify, hw]
      unfold Op.run withId sessionObjGet
      rw [ensures_bind, ensures_bind, ensures_gets, if_pos hs₀, ensures_pure, if_neg (by decide)]
      rw [ensures_anyFault_iff]
      exact fun _ _ h => h
    exact hensures.of_ok hrun
  rw [← hcore] at hnew ⊢
  have hstep := (sessionObjSessAifConnect_true_ensures (E := anyFault) (w := w₀) (fun _ => trivial)
    s aif hs₀ fun _ _ => .inr trivial).of_ok hcall
  obtain ⟨hunwound, hfails, hok⟩ :=
    (sessionObjSessAifConnect_counts hs₀ hst₀ hnew).of_ok hcall
  constructor
  · intro hsame
    have hun : ¬ AifUnwinds s aif w₀ := by
      intro hun
      have hopened := hstep.unwind_opened hun hs₀
      rw [(hsame (hunwound hun)).target] at hopened
      exact absurd hnew (not_lt.mpr hopened)
    refine ⟨hun, fun hd => ?_⟩
    have hr : r ≠ 0 := fun h0 => hok h0 hd
    rcases hfails hun hr with ⟨-, hcounts⟩ | ⟨hno, -⟩
    · exact hcounts (hsame hr).counts
    · exact hno hd
  · rintro ⟨hun, hdrop⟩ hr
    rcases hfails hun hr with ⟨hd, -⟩ | ⟨-, hcounts⟩
    · exact absurd hd hdrop
    · exact hstep.untouched hun hr hs₀ hst₀ hcounts

/-- A playback session that runs on one interface. -/
def playback : List Call :=
  [⟨.aifConnect 0 1 true, []⟩, ⟨.setConfig 0 { dir := .rx } {} {}, []⟩, ⟨.open 0, []⟩,
    ⟨.prepare 0, []⟩, ⟨.start 0, []⟩]

/-- The graph refuses the second interface. -/
theorem hot_connect_atomic_iff_refused :
    ∃ (w w' : World) (r : ℤ), r ≠ 0 ∧ (w.aif 0 0).state = .aifStarted ∧
      Untouched 0 2 w.core w'.core := by
  obtain ⟨_, w, -, ⟨hs, hst⟩, ⟨hnew, hrow⟩, hcond, hcall⟩ := Ensures.exists_ok
    (m := runAll exec playback) (s := startUp 4) (Q := fun _ w =>
      (0 ∈ w.pool ∧ (w.sess 0).state ≠ .sessionClosed) ∧
      ((w.core.pairState 0 2).toNat < AifState.aifOpened.toNat ∧
        (w.aif 0 0).state = .aifStarted) ∧
      (¬ AifUnwinds 0 2 { w with ext := failAfter 6 1 } ∧
        ¬ DropsStarts 0 2 { w with ext := failAfter 6 1 }) ∧
      Ensures noFault (exec ⟨.aifConnect 0 2 true, failAfter 6 1⟩) w fun r _ => r ≠ 0)
    (by decide +kernel)
  obtain ⟨r, w', hrun, hr⟩ := hcall.exists_ok
  exact ⟨w, w', r, hr, hrow, (hot_connect_atomic_iff hs hst hnew hrun).mpr hcond hr⟩

/-- The graph cannot be started again: the running interface has been stopped, the session is only
prepared, and the new pair counts as open on a device that is closed. -/
theorem hot_connect_atomic_iff_startFails :
    Ensures noFault (runAll exec playback) (startUp 4) fun _ w =>
      (w.sess 0).state = .sessionStarted ∧ (w.aif 0 0).state = .aifStarted ∧
      w.core.pairState 0 2 = .aifClosed ∧
      Ensures noFault (exec ⟨.aifConnect 0 2 true, failAfter 13 1⟩) w fun r w' =>
        r ≠ 0 ∧ (w'.sess 0).state = .sessionPrepared ∧ (w'.aif 0 0).state = .aifOpened ∧
        w'.core.pairState 0 2 = .aifOpened ∧ (w'.dev 2).refcnt.open = 0 := by
  decide +kernel

end Agm
