import Agm.Params

/-! # Delivery of cached parameters

A successful `session_connect_aif` has sent what waited at its pair, and at the session while that
was closed.  `Delivers` says so of the functions built on it: the open of a closed session and the
connection of an interface to an open one.

`params_reach` is about runs: a payload that was cached reaches the graph of the next open or
connection of its place that succeeds, exactly once, unless an attempt in between fails after GSL
has accepted it. -/

namespace Agm

open Prog

section
variable {s : ℕ} {o : Origin} {w w' : World}

/-! ### A connection -/

/-- Nothing but what waited at the place was accepted, on the graph that the session has
afterwards; when `sent` holds, nothing waits there any more. -/
structure Delivers (sent : Prop) (o : Origin) (s : ℕ) (w w' : World) : Prop where
  pool : s ∈ w'.pool
  graph : (w'.sess s).graph ≠ none
  carried : Carry o (· = (w'.sess s).graph) w w'
  emptied : sent → o.cache w' = none

/-- What leaves the graph pointer alone delivers on the same graph. -/
theorem Delivers.after {α : Type} {sent : Prop} {m : AgmM α} (h : Delivers sent o s w w')
    (hm : ∀ G, Moves (Follows o s (· = G) fun g _ => g = G) m) :
    Ensures anyFault m w' fun _ w'' => Delivers sent o s w w'' := by
  refine (hm (w'.sess s).graph w').imp fun _ w'' hw => ?_
  obtain ⟨⟨hs, hgraph⟩, hcarry⟩ := hw ⟨h.pool, rfl⟩
  refine ⟨hs, hgraph ▸ h.graph, ?_, fun hsent => hcarry.empty (h.emptied hsent)⟩
  rw [hgraph]
  exact trans_of (Carry o _) h.carried hcarry

theorem Joined.state {n : ℕ} {c c' : Core} (h : Joined s n c c') :
    (c'.sess s).state = (c.sess s).state := by
  cases h with
  | same => rfl
  | opened hn hst => simp [Core.newGraph, Core.setGraph]

/-- A function that keeps the pointer sends to it. -/
theorem sendParams_pointed (ho : o.of s) (i : ℕ) (G : Option ℕ) :
    Moves (Follows o s (· = G) fun g _ => g = G) (sendParams s i) := by
  apply sendParams_follows ho
  · exact fun _ _ hw _ => hw.2
  · exact fun _ _ hw => hw.2

/-- The parameters are sent on the graph that the session has then. -/
theorem sendParams_delivers (ho : o.of s) {i : ℕ} (hs : s ∈ w.pool)
    (hg : (w.sess s).graph ≠ none) :
    Ensures anyFault (sendParams s i) w fun r w' => r = 0 →
      Delivers (o.isSent s i (w.sess s).state) o s w w' := by
  have hstart : Delivers False o s w w := ⟨hs, hg, refl_of (Carry o _) w, False.elim⟩
  have hmoves := hstart.after (sendParams_pointed ho i)
  by_cases hsent : o.isSent s i (w.sess s).state
  · refine (hmoves.and (sendParams_emptied hs hsent)).imp ?_
    rintro r w' ⟨h, hnone⟩ hr
    exact ⟨h.pool, h.graph, h.carried, fun _ => hnone hr⟩
  · refine hmoves.imp fun r w' h _ => ?_
    exact ⟨h.pool, h.graph, h.carried, fun hs => absurd hs hsent⟩

theorem connectSteps_delivers (ho : o.of s) (i n : ℕ) (hs : s ∈ w.pool) :
    Ensures anyFault (connectSteps s i n) w fun exit w' =>
      exit = .done 0 → Delivers (o.isSent s i (w.sess s).state) o s w w' := by
  have hR : Reopening s (Follows o s (fun _ => False) fun _ _ => True) :=
    reopening_follows ho fun _ _ _ _ _ => id
  unfold connectSteps
  rw [ensures_bind]
  have hquiet := mergeAif_quiet (E := anyFault) (w := w) (fun _ => trivial) s i
  refine ((mergeAif_moves hR.toRoutine s i w).and hquiet).imp ?_
  rintro merged w₁ ⟨h₁, hcore₁, -⟩
  cases merged with
  | none => exact fun h => nomatch h
  | some md =>
      dsimp only
      rw [ensures_bind, ensures_getAif, ensures_bind]
      have hopen : Ensures anyFault (onDevice (w₁.aif s i).devObj deviceOpen) w₁ fun _ w' =>
          w'.sess = w₁.sess := (onDevice_beside _ _).imp fun _ _ h => h.sess
      refine ((hR.device _ _ deviceOpen_keepsMetadata).after h₁ |>.and hopen).imp ?_
      rintro ret w₂ ⟨h₂, hsess₂⟩
      rw [ensures_ite]
      refine ⟨fun hr h => absurd (ConnectExit.done.inj h) hr, fun _ => ?_⟩
      rw [ensures_bind]
      have hjoins := connectGraph_ensures (E := anyFault) (w := w₂) (fun _ => trivial) s i n md
        fun _ _ => .inr trivial
      refine ((connectGraph_moves hR.toRoutine hR.opens i n md).after h₂ |>.and hjoins).imp ?_
      rintro exit w₃ ⟨h₃, hexit⟩
      obtain ⟨⟨hs₃, -⟩, hcarry₃⟩ := h₃ ⟨hs, trivial⟩
      cases exit with
      | graphCleanup r md => exact fun h => nomatch h
      | closeDevice r => exact fun h => nomatch h
      | done r =>
          obtain ⟨hjoin, hgraph⟩ := hexit
          have hstate : (w₃.sess s).state = (w.sess s).state := by
            have h1 : (w₁.core.sess s).state = (w.core.sess s).state := by rw [hcore₁]
            have h2 : (w₂.core.sess s).state = (w₁.core.sess s).state :=
              congrArg (fun f : ℕ → SessionObj => (f s).state) hsess₂
            exact (hjoin.state.trans h2).trans h1
          dsimp only
          rw [ensures_bind]
          refine (sendParams_delivers ho hs₃ hgraph).imp fun r₄ w₄ h₄ => ?_
          rw [ensures_ite]
          refine ⟨fun _ h => (nomatch h), fun hr₄ _ => ?_⟩
          have hdel := h₄ (not_not.mp hr₄)
          refine ⟨hdel.pool, hdel.graph, ?_, fun hsent => hdel.emptied (hstate ▸ hsent)⟩
          exact trans_of (Carry o _) (hcarry₃.mono fun _ hf => hf.elim) hdel.carried

theorem sessionConnectAif_delivers (ho : o.of s) (i n : ℕ) (hs : s ∈ w.pool) :
    Ensures anyFault (sessionConnectAif s i n) w fun r w' => r = 0 →
      Delivers (o.isSent s i (w.sess s).state) o s w w' := by
  unfold sessionConnectAif
  rw [ensures_bind]
  have hsteps := connectSteps_ensures (E := anyFault) (w := w) (fun _ => trivial) s i n
    fun _ _ => .inr trivial
  refine ((connectSteps_delivers ho i n hs).and hsteps).imp ?_
  rintro exit w₁ ⟨h₁, d, -, hexit⟩
  rw [ensures_bind, ensures_getAif]
  cases exit with
  | done r =>
      intro hr
      obtain rfl : r = 0 := hr
      exact h₁ rfl
  | graphCleanup r md =>
      dsimp only
      rw [ensures_bind]
      refine ensures_of_forall (fun _ => trivial) fun _ w₂ => ?_
      rw [ensures_bind]
      exact ensures_of_forall (fun _ => trivial) fun _ w₃ hr => absurd hr hexit.1
  | closeDevice r =>
      dsimp only
      rw [ensures_bind]
      exact ensures_of_forall (fun _ => trivial) fun _ w₂ hr => absurd hr hexit.1

/-! ### A successful open -/

/-- A connection leaves the states of the pairs to its caller. -/
theorem sessionConnectAif_rows (i n : ℕ) :
    Ensures anyFault (sessionConnectAif s i n) w fun _ w' =>
      ∀ j, (w'.aif s j).state = (w.aif s j).state := by
  have hconn := sessionConnectAif_ensures (E := anyFault) (w := w) (fun _ => trivial) s i n
    fun _ _ => .inr trivial
  refine hconn.imp fun r w' h j => ?_
  have hrow : w'.core.row s j = w.core.row s j := by rw [Core.row, h.rows, Core.row]
  rw [core_row, core_row] at hrow
  exact congrArg Row.state hrow

theorem setAifState_rows (i : ℕ) (st : AifState) :
    Ensures anyFault (setAifState s i st) w fun _ w' =>
      ∀ j, j ≠ i → (w'.aif s j).state = (w.aif s j).state := by
  refine (setAifState_ensures s i st).imp fun _ w' h j hj => ?_
  have hrow : w'.core.row s j = w.core.row s j := by
    rw [h]
    exact Core.row_setRow_of_ne _ st (.inr hj)
  rw [core_row, core_row] at hrow
  exact congrArg Row.state hrow

/-- A position whose interface waits lies in the pool. -/
theorem lt_of_aifOpen {i : ℕ} (h : (w.aif s i).state = .aifOpen) :
    i < (w.sess s).aifPool.length := by
  by_contra hi
  have hdefault : w.aif s i = {} := List.getD_eq_default _ _ (not_lt.mp hi)
  rw [hdefault] at h
  cases h

/-- An interface that waits when the loop starts has its parameters sent. -/
theorem connectReminders_empties {j : ℕ} (l : List ℕ) :
    ∀ (n : ℕ) (w : World), s ∈ w.pool → (w.aif s j).state = .aifOpen → j ∈ l →
      Ensures anyFault (connectReminders s l n) w fun r w' => r = 0 →
        (Origin.aif s j).cache w' = none := by
  have ho : (Origin.aif s j).of s := rfl
  have hR : Reopening s (Follows (.aif s j) s (fun _ => True) fun _ _ => True) :=
    reopening_follows ho fun _ _ _ _ _ => id
  have hsend : ∀ i, Moves (Follows (.aif s j) s (fun _ => True) fun _ _ => True)
      (sendParams s i) :=
    fun i => sendParams_follows ho (fun _ _ _ _ => trivial) fun _ _ _ => trivial
  induction l with
  | nil =>
      intro n w _ _ hj
      cases hj
  | cons i is ih =>
      intro n w hs hst hj
      unfold connectReminders
      rw [ensures_bind, ensures_getAif, ensures_ite]
      refine ⟨fun _ => ?_, fun hi => ?_⟩
      · rw [ensures_bind]
        have hmoves := hR.sessionConnectAif (hsend i) n w
        refine ((hmoves.and (sessionConnectAif_delivers ho i n hs)).and
          (sessionConnectAif_rows i n)).imp ?_
        rintro r w₁ ⟨⟨h₁, hdel⟩, hrows₁⟩
        obtain ⟨⟨hs₁, -⟩, -⟩ := h₁ ⟨hs, trivial⟩
        rw [ensures_ite]
        refine ⟨fun hr h0 => absurd h0 hr, fun hr => ?_⟩
        rw [ensures_bind]
        refine ((hR.pair i .aifOpened w₁).and (setAifState_rows i .aifOpened)).imp ?_
        rintro _ w₂ ⟨h₂, hrows₂⟩
        obtain ⟨⟨hs₂, -⟩, hcarry₂⟩ := h₂ ⟨hs₁, trivial⟩
        by_cases hji : j = i
        · -- sent in this turn, and empty from then on
          subst hji
          have hnone := hcarry₂.empty ((hdel (not_not.mp hr)).emptied (.inl rfl))
          have hrest := connectReminders_moves hR.toRoutine hsend is (n + 1) (by omega) w₂
          refine hrest.imp fun _ w₃ h₃ _ => ?_
          exact (h₃ ⟨hs₂, trivial⟩).2.empty hnone
        · have hst₂ : (w₂.aif s j).state = .aifOpen := by rw [hrows₂ j hji, hrows₁ j, hst]
          exact ih (n + 1) w₂ hs₂ hst₂ ((List.mem_cons.mp hj).resolve_left hji)
      · have hji : j ≠ i := by
          rintro rfl
          exact hi hst
        exact ih n w hs hst ((List.mem_cons.mp hj).resolve_left hji)

/-- The first connection of an open. -/
theorem sessionOpenWithFirstDevice_delivers (ho : o.of s) (hs : s ∈ w.pool) :
    Ensures anyFault (sessionOpenWithFirstDevice s) w fun r w' => r = 0 → ∃ i,
      Delivers (o.isSent s i (w.sess s).state) o s w w' ∧
        ∀ j, j ≠ i → (w'.aif s j).state = (w.aif s j).state := by
  unfold sessionOpenWithFirstDevice
  rw [ensures_bind, ensures_getSess]
  cases (w.sess s).aifPool.findIdx? fun a => decide (a.state = .aifOpen) with
  | none => exact fun h => absurd h (by decide)
  | some i =>
      dsimp only
      rw [ensures_bind]
      refine ((sessionConnectAif_delivers ho i 0 hs).and (sessionConnectAif_rows i 0)).imp ?_
      rintro r w₁ ⟨hdel, hrows₁⟩
      rw [ensures_ite]
      refine ⟨fun hr h0 => absurd h0 hr, fun hr => ?_⟩
      rw [ensures_bind]
      have hpair := (hdel (not_not.mp hr)).after fun G =>
        setAifState_follows (Γ := (· = G)) (B := fun g _ => g = G) ho s i .aifOpened
      refine (hpair.and (setAifState_rows i .aifOpened)).imp ?_
      rintro _ w₂ ⟨hdel₂, hrows₂⟩ _
      exact ⟨i, hdel₂, fun j hj => (hrows₂ j hj).trans (hrows₁ j)⟩

/-- The functions of the session that leave its graph pointer alone. -/
theorem routine_pointed (ho : o.of s) (G : Option ℕ) :
    Routine s (Follows o s (· = G) fun g _ => g = G) :=
  routine_follows ho fun _ _ _ _ _ => id

theorem openReminders_delivers (ho : o.of s) {sent : Prop} {w₁ : World}
    (h : Delivers sent o s w w₁)
    (hwait : sent ∨ ∃ j, o = .aif s j ∧ (w₁.aif s j).state = .aifOpen) :
    Ensures anyFault (openReminders s) w₁ fun r w₂ => r = 0 → Delivers True o s w w₂ := by
  have hmoves := h.after fun G =>
    openReminders_moves (routine_pointed ho G) fun i => sendParams_pointed ho i G
  rcases hwait with hsent | ⟨j, rfl, hst⟩
  · refine hmoves.imp fun r w₂ h₂ _ => ?_
    exact ⟨h₂.pool, h₂.graph, h₂.carried, fun _ => h₂.emptied hsent⟩
  · have hempty : Ensures anyFault (openReminders s) w₁ fun r w₂ => r = 0 →
        (Origin.aif s j).cache w₂ = none := by
      unfold openReminders
      rw [ensures_bind, ensures_poolRange]
      exact connectReminders_empties _ 1 w₁ h.pool hst (List.mem_range.mpr (lt_of_aifOpen hst))
    refine (hmoves.and hempty).imp ?_
    rintro r w₂ ⟨h₂, hnone⟩ hr
    exact ⟨h₂.pool, h₂.graph, h₂.carried, fun _ => hnone hr⟩

/-- The open that includes a place delivers what waits there, unless its code is the one of
`unwind`. -/
theorem openClosedSession_delivers (ho : o.of s) (hs : s ∈ w.pool)
    (hst : (w.sess s).state = .sessionClosed)
    (hinc : o = .session s ∨ ∃ j, o = .aif s j ∧ (w.aif s j).state = .aifOpen)
    (hsil : ¬ Silent s w) :
    Ensures anyFault (openClosedSession s) w fun r w' => r = 0 → Delivers True o s w w' := by
  unfold openClosedSession sessionConnectReminderDevices
  rw [ensures_bind]
  refine (sessionOpenWithFirstDevice_delivers ho hs).with_ok.imp ?_
  rintro r w₁ ⟨h₁, hrun₁⟩
  rw [ensures_ite]
  refine ⟨fun hr h0 => absurd h0 hr, fun hr => ?_⟩
  obtain rfl := not_not.mp hr
  obtain ⟨i, hdel₁, hrows⟩ := h₁ rfl
  have hwait : o.isSent s i (w.sess s).state ∨
      ∃ j, o = .aif s j ∧ (w₁.aif s j).state = .aifOpen := by
    rcases hinc with rfl | ⟨j, rfl, hj⟩
    · exact .inl (.inr ⟨rfl, hst⟩)
    · by_cases hji : j = i
      · exact .inl (.inl (by rw [hji]))
      · exact .inr ⟨j, rfl, (hrows j hji).trans hj⟩
  rw [ensures_bind, ensures_bind]
  refine (openReminders_delivers ho hdel₁ hwait).with_ok.imp ?_
  rintro r₂ w₂ ⟨h₂, hrun₂⟩
  rw [ensures_ite]
  refine ⟨fun hr₂ => ?_, fun hr₂ => ?_⟩
  · -- an error of the loop and none of `unwind` would be silent
    rw [ensures_anyFault_iff]
    intro r₃ w₃ hrun₃
    rw [ensures_ite]
    refine ⟨fun hr₃ h0 => absurd h0 hr₃, fun hr₃ => ?_⟩
    obtain rfl := not_not.mp hr₃
    refine absurd ?_ hsil
    rw [Silent, ensures_iff_of_ok hrun₁]
    refine ⟨rfl, ?_⟩
    rw [ensures_iff_of_ok hrun₂]
    refine ⟨hr₂, ?_⟩
    rw [ensures_iff_of_ok hrun₃]
  · rw [ensures_pure, if_neg (by decide), ensures_bind]
    have hdel₂ := h₂ (not_not.mp hr₂)
    refine (hdel₂.after fun G => openEdges_moves (routine_pointed ho G)).imp ?_
    intro r₃ w₃ hdel₃
    rw [ensures_ite]
    refine ⟨fun hr₃ h0 => absurd h0 hr₃, fun hr₃ => ?_⟩
    rw [ensures_bind]
    have hstate := hdel₃.after fun G => (routine_pointed ho G).state .sessionOpened (by decide)
    exact hstate.imp fun _ w₄ h₄ _ => h₄

/-! ### A successful connection to an open session -/

theorem hotConnect_delivers {i : ℕ} (n : ℕ) (hs : s ∈ w.pool) :
    Ensures anyFault (hotConnect s i n) w fun r w' => r = 0 →
      Delivers True (.aif s i) s w w' := by
  have ho : (Origin.aif s i).of s := rfl
  unfold hotConnect
  rw [ensures_bind]
  refine (sessionConnectAif_delivers ho i n hs).imp fun r w₁ h₁ => ?_
  rw [ensures_ite]
  refine ⟨fun hr h0 => absurd h0 hr, fun hr => ?_⟩
  rw [ensures_bind]
  have hdel := h₁ (not_not.mp hr)
  have hpair := hdel.after fun G => (routine_pointed ho G).pair i .aifOpened
  refine hpair.imp fun _ w₂ h₂ _ => ?_
  exact ⟨h₂.pool, h₂.graph, h₂.carried, fun _ => h₂.emptied (.inl rfl)⟩

/-- Where a connection ends: what waited is delivered, or an error is returned. -/
def AifConnectExit.Delivered (s i : ℕ) (w w' : World) : AifConnectExit → Prop
  | .done r => r = 0 → Delivers True (.aif s i) s w w'
  | .unwind r _ _ => r ≠ 0

theorem aifConnectBody_delivers {i : ℕ} (n : ℕ) (hs : s ∈ w.pool)
    (hst : (w.sess s).state ≠ .sessionClosed) :
    Ensures anyFault (aifConnectBody s i n) w fun exit w' => exit.Delivered s i w w' := by
  have hhot := hotConnect_delivers (i := i) n hs
  have hR := routine_pointed (o := .aif s i) (s := s) rfl
  unfold aifConnectBody
  rw [ensures_bind, ensures_getSess]
  -- the connection, and after it what keeps the pointer
  have hprepare : Ensures anyFault (do
      let ret ← hotConnect s i n
      if ret ≠ 0 then pure (.done ret) else
      let ret ← sessionPrepare s
      if ret ≠ 0 then pure (.unwind ret i (n + 1)) else pure (.done 0) : AgmM AifConnectExit) w
      fun exit w' => exit.Delivered s i w w' := by
    rw [ensures_bind]
    refine hhot.imp fun r w₁ h₁ => ?_
    rw [ensures_ite]
    refine ⟨fun hr h0 => absurd h0 hr, fun hr => ?_⟩
    rw [ensures_bind]
    refine ((h₁ (not_not.mp hr)).after fun G => sessionPrepare_moves (hR G)).imp fun r₂ w₂ h₂ => ?_
    rw [ensures_ite]
    exact ⟨fun hr₂ => hr₂, fun _ _ => h₂⟩
  cases hstate : (w.sess s).state with
  | sessionClosed => exact absurd hstate hst
  | sessionOpened =>
      dsimp only
      rw [ensures_bind]
      exact hhot.imp fun r w₁ h₁ => h₁
  | sessionPrepared => exact hprepare
  | sessionStopped => exact hprepare
  | sessionStarted =>
      dsimp only
      rw [ensures_bind]
      refine hhot.imp fun r w₁ h₁ => ?_
      rw [ensures_ite]
      refine ⟨fun hr h0 => absurd h0 hr, fun hr => ?_⟩
      rw [ensures_bind]
      refine ((h₁ (not_not.mp hr)).after fun G => sessionPrepare_moves (hR G)).imp ?_
      intro r₂ w₂ h₂
      rw [ensures_ite]
      refine ⟨fun hr₂ => hr₂, fun _ => ?_⟩
      rw [ensures_bind]
      refine (h₂.after fun G => sessionStart_moves (hR G)).imp fun r₃ w₃ h₃ => ?_
      rw [ensures_ite]
      exact ⟨fun hr₃ => hr₃, fun _ _ => h₃⟩

/-- Connecting an interface to a session that is open delivers what waits at its pair. -/
theorem sessionObjSessAifConnect_delivers {aif i : ℕ} (hs : s ∈ w.pool)
    (hst : (w.sess s).state ≠ .sessionClosed)
    (hfind : aifObjGetFromPool (w.sess s) aif = some i) :
    Ensures anyFault (sessionObjSessAifConnect s aif true) w fun r w' => r = 0 →
      Delivers True (.aif s i) s w w' := by
  have hsteps : Ensures anyFault (aifConnectSteps s aif true) w fun exit w' =>
      exit.Delivered s i w w' := by
    unfold aifConnectSteps aifObjGet
    rw [ensures_bind, ensures_bind, ensures_getSess, hfind]
    dsimp only
    rw [ensures_pure, if_neg (not_not.mpr rfl), ensures_bind, ensures_getAif, ensures_ite]
    refine ⟨fun _ h0 => absurd h0 (by decide), fun _ => ?_⟩
    rw [ensures_bind, ensures_getSess, if_pos rfl]
    exact aifConnectBody_delivers _ hs hst
  unfold sessionObjSessAifConnect
  rw [ensures_bind]
  refine hsteps.imp fun exit w₁ h₁ => ?_
  cases exit with
  | done r => exact h₁
  | unwind r j count =>
      dsimp only
      rw [ensures_bind]
      exact ensures_of_forall (fun _ => trivial) fun _ w₂ h0 => absurd h0 h₁

/-! ### Calls that leave a place alone -/

/-- The parameters of other places. -/
theorem sendParams_elsewhere {Γ : Option ℕ → Prop} {B : Option ℕ → SessionState → Prop}
    (ho : o.of s) {t i : ℕ} (hsess : o ≠ .session t) (haif : o ≠ .aif t i) :
    Moves (Follows o s Γ B) (sendParams t i) :=
  sendParams_follows ho (fun h => absurd h hsess) fun h => absurd h haif

/-- `aif_obj_get` comes to another position than one where something waits, unless that is the
position of the interface. -/
theorem aifObjGet_elsewhere {p : Payload} {aif : ℕ} (ho : o.of s) (hp : o.cache w = some p)
    (hfind : ∀ i, aifObjGetFromPool (w.sess s) aif = some i → o ≠ .aif s i) :
    Ensures anyFault (aifObjGet s aif) w fun r _ => r.1 = 0 → o ≠ .aif s r.2 := by
  unfold aifObjGet
  rw [ensures_bind, ensures_getSess]
  cases hpos : aifObjGetFromPool (w.sess s) aif with
  | some i => exact fun _ => hfind i hpos
  | none =>
      dsimp only
      rw [ensures_bind]
      refine ensures_of_forall (fun _ => trivial) fun obj w₁ => ?_
      cases obj with
      | none => exact fun h => absurd h (by decide)
      | some obj =>
          -- a new position has nothing cached
          rintro - rfl
          have hdefault : w.aif s (w.sess s).aifPool.length = {} :=
            List.getD_eq_default _ _ le_rfl
          have hnone : (w.aif s (w.sess s).aifPool.length).params = none := by rw [hdefault]
          exact absurd (hnone.symm.trans hp) nofun

/-- A session that does not hold the place. -/
theorem Origin.of_ne {t : ℕ} (ho : o.of s) (hts : t ≠ s) :
    o ≠ .session t ∧ ∀ i, o ≠ .aif t i := by
  constructor
  · rintro rfl
    exact hts ho
  · rintro i rfl
    exact hts ho

theorem sessionObjSetSessParams_elsewhere {Γ : Option ℕ → Prop}
    {B : Option ℕ → SessionState → Prop} (ho : o.of s) {t : ℕ} (hne : o ≠ .session t)
    (payload : Payload) : Moves (Follows o s Γ B) (sessionObjSetSessParams t payload) := by
  have hput : ∀ q, Moves (Follows o s Γ B) (modifySess t fun x => { x with params := q }) := by
    intro q
    apply modifySess_follows ho
    · rintro rfl x
      cases o with
      | session u =>
          obtain rfl : u = t := ho
          exact absurd rfl hne
      | aif u i => rfl
      | device d => rfl
    · exact fun _ x hx => hx
  have hcalloc : Moves (Follows o s Γ B) (env calloc) :=
    fun w => (env_beside calloc).imp fun _ _ h => h.follows ho
  apply moves_bind hcalloc
  intro block
  apply moves_ite
  · apply moves_bind (hput none)
    intro _
    exact moves_pure _
  · apply moves_bind (hput _)
    intro _
    apply moves_bind (moves_gets _)
    intro sess
    apply moves_ite
    · apply moves_bind (graphSetConfig_follows ho (Ne.symm hne) _ payload)
      intro ret
      apply moves_bind (hput none)
      intro _
      exact moves_pure ret
    · exact moves_pure 0

/-- Storing at a position that is not the place. -/
theorem storeAif_elsewhere {Γ : Option ℕ → Prop} {B : Option ℕ → SessionState → Prop}
    (ho : o.of s) {t i : ℕ} (hne : o ≠ .aif t i) (payload : Payload) :
    Moves (Follows o s Γ B) (do
      let block ← env calloc
      if !block then do
        modifyAif t i fun a => { a with params := none }
        pure (-EINVAL)
      else do
        modifyAif t i fun a => { a with params := some payload }
        let sess ← getSess t
        let obj ← getAif t i
        if sess.state ≠ .sessionClosed ∧ obj.state.isOpened then do
          let ret ← graphSetConfig sess.graph (.aif t i) payload
          modifyAif t i fun a => { a with params := none }
          pure ret
        else pure 0 : AgmM ℤ) := by
  have hput : ∀ f : Aif → Aif, Moves (Follows o s Γ B) (modifyAif t i f) :=
    fun f => modifyAif_follows ho (.inl hne)
  have hcalloc : Moves (Follows o s Γ B) (env calloc) :=
    fun w => (env_beside calloc).imp fun _ _ h => h.follows ho
  apply moves_bind hcalloc
  intro block
  apply moves_ite
  · apply moves_bind (hput _)
    intro _
    exact moves_pure _
  · apply moves_bind (hput _)
    intro _
    apply moves_bind (moves_gets _)
    intro sess
    apply moves_bind (moves_gets _)
    intro obj
    apply moves_ite
    · apply moves_bind (graphSetConfig_follows ho (Ne.symm hne) _ payload)
      intro ret
      apply moves_bind (hput _)
      intro _
      exact moves_pure ret
    · exact moves_pure 0

/-- A connection to a closed session only marks the interface. -/
theorem aifConnectSteps_closed (ho : o.of s) (hs : s ∈ w.pool)
    (hst : (w.sess s).state = .sessionClosed) (aif : ℕ) :
    Ensures anyFault (aifConnectSteps s aif true) w fun _ w' =>
      Follows o s (fun _ => False) (fun _ st => st = .sessionClosed) w w' := by
  unfold aifConnectSteps
  rw [ensures_bind]
  have hget := aifObjGet_follows (Γ := fun _ => False) (B := fun _ st => st = .sessionClosed) ho s aif w
  refine hget.imp fun r w₁ h₁ => ?_
  rw [ensures_ite]
  refine ⟨fun _ => h₁, fun _ => ?_⟩
  dsimp only
  rw [ensures_bind, ensures_getAif, ensures_ite]
  refine ⟨fun _ => h₁, fun _ => ?_⟩
  rw [ensures_bind, ensures_getSess, if_pos rfl]
  have hclosed : (w₁.sess s).state = .sessionClosed := (h₁ ⟨hs, hst⟩).1.2
  unfold aifConnectBody
  rw [ensures_bind, ensures_getSess, hclosed]
  exact moves_bind (setAifState_follows ho s _ _) (fun _ => moves_pure _) |>.after h₁

/-- A connection to an open session that is not one of the place. -/
theorem aifConnectSteps_open {p : Payload} {aif : ℕ} (ho : o.of s)
    (hp : o.cache w = some p)
    (hfind : ∀ i, aifObjGetFromPool (w.sess s) aif = some i → o ≠ .aif s i) :
    Ensures anyFault (aifConnectSteps s aif true) w fun _ w' =>
      Follows o s (fun _ => False) (fun _ st => st ≠ .sessionClosed) w w' := by
  have hR : Routine s (Follows o s (fun _ => False) fun _ st => st ≠ .sessionClosed) :=
    routine_follows ho fun _ _ _ st' hst' _ => hst'
  unfold aifConnectSteps
  rw [ensures_bind]
  have hget : Moves (Follows o s (fun _ => False) fun _ st => st ≠ .sessionClosed) (aifObjGet s aif) :=
    hR.aif aif
  refine ((hget w).and (aifObjGet_elsewhere ho hp hfind)).imp ?_
  rintro r w₁ ⟨h₁, hpos⟩
  rw [ensures_ite]
  refine ⟨fun _ => h₁, fun hr => ?_⟩
  -- the session's parameters are not sent while it is open
  have hsend : Moves (Follows o s (fun _ => False) fun _ st => st ≠ .sessionClosed)
      (sendParams s r.2) := by
    apply sendParams_follows ho
    · exact fun _ w hw hst => absurd hst hw.2
    · exact fun h => absurd h (hpos (not_not.mp hr))
  have hopens := graphOpen_follows (Γ := fun _ => False) (B := fun _ st => st ≠ .sessionClosed) ho
    (t := s) fun _ _ _ _ => id
  have hconn : ∀ n, Moves (Follows o s (fun _ => False) fun _ st => st ≠ .sessionClosed)
      (sessionConnectAif s r.2 n) :=
    fun n => sessionConnectAif_moves hR (connectGraph_moves hR hopens r.2 n) hsend
  dsimp only
  rw [ensures_bind, ensures_getAif, ensures_ite]
  refine ⟨fun _ => h₁, fun _ => ?_⟩
  rw [ensures_bind, ensures_getSess, if_pos rfl]
  exact (aifConnectBody_moves hR (hconn _)).after h₁

/-- A connection or a disconnection that is not one of the place. -/
theorem sessionObjSessAifConnect_elsewhere {p : Payload} {aif : ℕ} {connect : Bool} (ho : o.of s)
    (hs : s ∈ w.pool) (hp : o.cache w = some p)
    (hfind : connect = true → (w.sess s).state ≠ .sessionClosed →
      ∀ i, aifObjGetFromPool (w.sess s) aif = some i → o ≠ .aif s i) :
    Ensures anyFault (sessionObjSessAifConnect s aif connect) w fun _ w' =>
      Follows o s (fun _ => False) (fun _ _ => True) w w' := by
  have hR : Routine s (Follows o s (fun _ => False) fun _ _ => True) :=
    routine_follows ho fun _ _ _ _ _ => id
  cases connect with
  | false =>
      have hmoves : Moves (Follows o s (fun _ => False) fun _ _ => True)
          (sessionObjSessAifConnect s aif false) := sessionObjSessAifConnect_moves hR aif nofun
      exact hmoves w
  | true =>
      have hsteps : Ensures anyFault (aifConnectSteps s aif true) w fun _ w' =>
          Follows o s (fun _ => False) (fun _ _ => True) w w' := by
        by_cases hst : (w.sess s).state = .sessionClosed
        · refine (aifConnectSteps_closed ho hs hst aif).imp fun _ w₁ h₁ _ => ?_
          obtain ⟨⟨hs₁, -⟩, hcarry⟩ := h₁ ⟨hs, hst⟩
          exact ⟨⟨hs₁, trivial⟩, hcarry⟩
        · refine (aifConnectSteps_open ho hp (hfind rfl hst)).imp fun _ w₁ h₁ _ => ?_
          obtain ⟨⟨hs₁, -⟩, hcarry⟩ := h₁ ⟨hs, hst⟩
          exact ⟨⟨hs₁, trivial⟩, hcarry⟩
      unfold sessionObjSessAifConnect
      rw [ensures_bind]
      exact hsteps.imp fun exit w₁ h₁ => (aifConnectExit_moves hR exit).after h₁

/-- The loop passes an interface that does not wait. -/
theorem connectReminders_skips {j : ℕ} (l : List ℕ) :
    ∀ (n : ℕ) (w : World), s ∈ w.pool → (w.aif s j).state ≠ .aifOpen →
      Ensures anyFault (connectReminders s l n) w fun _ w' =>
        Follows (.aif s j) s (fun _ => False) (fun _ _ => True) w w' := by
  have ho : (Origin.aif s j).of s := rfl
  have hR : Reopening s (Follows (.aif s j) s (fun _ => False) fun _ _ => True) :=
    reopening_follows ho fun _ _ _ _ _ => id
  induction l with
  | nil => exact fun n w _ _ => moves_pure 0 w
  | cons i is ih =>
      intro n w hs hst
      unfold connectReminders
      rw [ensures_bind, ensures_getAif, ensures_ite]
      refine ⟨fun hi => ?_, fun _ => ih n w hs hst⟩
      have hij : Origin.aif s j ≠ .aif s i := by
        rintro ⟨⟩
        exact hst hi
      have hsend : Moves (Follows (.aif s j) s (fun _ => False) fun _ _ => True)
          (sendParams s i) := sendParams_elsewhere ho (by rintro ⟨⟩) hij
      rw [ensures_bind]
      refine ((hR.sessionConnectAif hsend n w).and (sessionConnectAif_rows i n)).imp ?_
      rintro r w₁ ⟨h₁, hrows₁⟩
      rw [ensures_ite]
      refine ⟨fun _ => h₁, fun _ => ?_⟩
      rw [ensures_bind]
      refine (((hR.pair i .aifOpened).after h₁).and (setAifState_rows i .aifOpened)).imp ?_
      rintro _ w₂ ⟨h₂, hrows₂⟩
      have hji : j ≠ i := by
        rintro rfl
        exact hij rfl
      have hst₂ : (w₂.aif s j).state ≠ .aifOpen := by
        rw [hrows₂ j hji, hrows₁ j]
        exact hst
      exact (ih (n + 1) w₂ (h₂ ⟨hs, trivial⟩).1.1 hst₂).imp fun _ w₃ h₃ => trans_of _ h₂ h₃

/-- An open that does not include an interface. -/
theorem openClosedSession_skips {j : ℕ} (hs : s ∈ w.pool) (hst : (w.aif s j).state ≠ .aifOpen) :
    Ensures anyFault (openClosedSession s) w fun _ w' =>
      Follows (.aif s j) s (fun _ => False) (fun _ _ => True) w w' := by
  have ho : (Origin.aif s j).of s := rfl
  have hR : Reopening s (Follows (.aif s j) s (fun _ => False) fun _ _ => True) :=
    reopening_follows ho fun _ _ _ _ _ => id
  have hfirst : Ensures anyFault (sessionOpenWithFirstDevice s) w fun _ w' =>
      Follows (.aif s j) s (fun _ => False) (fun _ _ => True) w w' ∧
        (w'.aif s j).state ≠ .aifOpen := by
    unfold sessionOpenWithFirstDevice
    rw [ensures_bind, ensures_getSess]
    cases hi : (w.sess s).aifPool.findIdx? fun a => decide (a.state = .aifOpen) with
    | none => exact ⟨refl_of (Follows (.aif s j) s (fun _ => False) fun _ _ => True) w, hst⟩
    | some i =>
        have hij : j ≠ i := by
          rintro rfl
          obtain ⟨hlt, hopen, -⟩ := List.findIdx?_eq_some_iff_getElem.mp hi
          refine hst ?_
          rw [World.aif, List.getD_eq_getElem _ _ hlt]
          exact of_decide_eq_true hopen
        have hsend : Moves (Follows (.aif s j) s (fun _ => False) fun _ _ => True)
            (sendParams s i) := by
          apply sendParams_elsewhere ho nofun
          rintro ⟨⟩
          exact hij rfl
        dsimp only
        rw [ensures_bind]
        refine ((hR.sessionConnectAif hsend 0 w).and (sessionConnectAif_rows i 0)).imp ?_
        rintro r w₁ ⟨h₁, hrows₁⟩
        have hst₁ : (w₁.aif s j).state ≠ .aifOpen := by
          rw [hrows₁ j]
          exact hst
        rw [ensures_ite]
        refine ⟨fun _ => ⟨h₁, hst₁⟩, fun _ => ?_⟩
        rw [ensures_bind]
        refine (((hR.pair i .aifOpened).after h₁).and (setAifState_rows i .aifOpened)).imp ?_
        rintro _ w₂ ⟨h₂, hrows₂⟩
        exact ⟨h₂, by rw [hrows₂ j hij]; exact hst₁⟩
  unfold openClosedSession sessionConnectReminderDevices openReminders
  rw [ensures_bind]
  refine hfirst.imp ?_
  rintro r w₁ ⟨h₁, hst₁⟩
  rw [ensures_ite]
  refine ⟨fun _ => h₁, fun _ => ?_⟩
  rw [ensures_bind, ensures_bind, ensures_bind, ensures_poolRange]
  refine (connectReminders_skips _ 1 w₁ (h₁ ⟨hs, trivial⟩).1.1 hst₁).imp fun r₂ w₂ h₂ => ?_
  have h₂' := trans_of (Follows (.aif s j) s (fun _ => False) fun _ _ => True) h₁ h₂
  have hunwind : Moves (Follows (.aif s j) s (fun _ => False) fun _ _ => True)
      (if r₂ ≠ 0 then unwindReminders s else pure 0) :=
    moves_ite hR.unwindReminders (moves_pure 0)
  refine (hunwind.after h₂').imp fun r₃ w₃ h₃ => ?_
  rw [ensures_ite]
  refine ⟨fun _ => h₃, fun _ => ?_⟩
  rw [ensures_bind]
  refine ((openEdges_moves hR.toRoutine).after h₃).imp fun r₄ w₄ h₄ => ?_
  rw [ensures_ite]
  refine ⟨fun _ => h₄, fun _ => ?_⟩
  exact moves_bind (hR.state .sessionOpened (by decide)) (fun _ => moves_pure 0) |>.after h₄

/-! ### Runs -/

/-- The calls of a run about cached parameters. -/
def Op.aboutParams : Op → Bool
  | .setSessParams _ _ | .setSessAifParams _ _ _ | .aifConnect _ _ _ | .open _ | .close _ => true
  | _ => false

/-- The place where a call puts its payload. -/
def Op.stores? (op : Op) (w : World) : Option (Origin × Payload) :=
  match op with
  | .setSessParams s payload => some (.session s, payload)
  | .setSessAifParams s aif payload =>
      (aifObjGetFromPool (w.sess s) aif).map fun i => (.aif s i, payload)
  | _ => none

/-- A payload for the place is cached and not sent: the session is closed, or the interface is not
open yet. -/
def Origin.Caches (o : Origin) (w : World) : Prop :=
  match o with
  | .session s => (w.sess s).state = .sessionClosed
  | .aif s i => ¬ ((w.sess s).state ≠ .sessionClosed ∧ (w.aif s i).state.isOpened)
  | .device _ => False

instance (o : Origin) (w : World) : Decidable (o.Caches w) :=
  match o with
  | .session s => inferInstanceAs (Decidable ((w.sess s).state = .sessionClosed))
  | .aif s i => inferInstanceAs (Decidable
      (¬ ((w.sess s).state ≠ .sessionClosed ∧ (w.aif s i).state.isOpened)))
  | .device _ => isFalse id

/-- The call opens the session of the place, with the interface of the place among those it
connects, or it connects that interface to the open session. -/
def Includes (o : Origin) (w : World) (op : Op) : Prop :=
  match o with
  | .session s => op.opens? = some s ∧ (w.sess s).state = .sessionClosed
  | .aif s i =>
      op.opens? = some s ∧ (w.sess s).state = .sessionClosed ∧ (w.aif s i).state = .aifOpen ∨
      (w.sess s).state ≠ .sessionClosed ∧
        ∃ p ∈ op.connects?, p.1 = s ∧ aifObjGetFromPool (w.sess s) p.2 = some i
  | .device _ => False

instance (o : Origin) (w : World) (op : Op) : Decidable (Includes o w op) :=
  match o with
  | .session _ => inferInstanceAs (Decidable (_ ∧ _))
  | .aif _ _ => inferInstanceAs (Decidable (_ ∨ _))
  | .device _ => isFalse id

/-- A call between the one that cached the payload and the open: it stores nothing at the place,
and when it includes the place it fails before GSL has accepted the payload. -/
def Pending (o : Origin) (w : World) (call : Call) : Prop :=
  call.op.aboutParams = true ∧ (∀ q ∈ call.op.stores? w, q.1 ≠ o) ∧
    (Includes o w call.op → Ensures anyFault (exec call) w fun r w' =>
      r ≠ 0 ∧ accepted o w'.configs = accepted o w.configs)

instance (o : Origin) (w : World) (call : Call) : Decidable (Pending o w call) :=
  inferInstanceAs (Decidable (_ ∧ _))

/-- A call with the id of a session that exists. -/
theorem ensures_withId {E : Fault → Prop} {m : AgmM ℤ} {Q : ℤ → World → Prop} (hs : s ∈ w.pool) :
    Ensures E (withId s m) w Q ↔ Ensures E m w Q := by
  unfold withId sessionObjGet
  rw [ensures_bind, ensures_bind, ensures_gets, if_pos hs, ensures_pure, if_neg (by decide)]

theorem Op.eq_open {op : Op} (h : op.opens? = some s) : op = .open s := by
  cases op with
  | «open» t => exact congrArg Op.open (Option.some.inj h)
  | _ => cases h

theorem Op.eq_aifConnect {op : Op} {p : ℕ × ℕ} (h : op.connects? = some p) :
    op = .aifConnect p.1 p.2 true := by
  cases op with
  | aifConnect t aif connect =>
      cases connect with
      | true =>
          cases h
          rfl
      | false => cases h
  | _ => cases h

/-- A call that includes the place is an open or a connection of its session. -/
theorem Includes.op {op : Op} (ho : o.of s) (h : Includes o w op) :
    op = .open s ∨ ∃ aif, op = .aifConnect s aif true := by
  cases o with
  | session t =>
      obtain rfl : t = s := ho
      exact .inl (Op.eq_open h.1)
  | aif t i =>
      obtain rfl : t = s := ho
      rcases h with ⟨hopen, -⟩ | ⟨-, p, hconn, rfl, -⟩
      · exact .inl (Op.eq_open hopen)
      · exact .inr ⟨p.2, Op.eq_aifConnect hconn⟩
  | device d => exact h.elim

/-- An open or a connection carries the cache of every place. -/
theorem Includes.follows {op : Op} (ho : o.of s) (h : Includes o w op) :
    Moves (Follows o s (fun _ => True) fun _ _ => True) op.run := by
  have hR : Reopening s (Follows o s (fun _ => True) fun _ _ => True) :=
    reopening_follows ho fun _ _ _ _ _ => id
  have hsend : ∀ i, Moves (Follows o s (fun _ => True) fun _ _ => True) (sendParams s i) :=
    fun i => sendParams_follows ho (fun _ _ _ _ => trivial) fun _ _ _ => trivial
  rcases h.op ho with rfl | ⟨aif, rfl⟩
  · exact hR.sessionObjOpen hsend
  · apply withId_moves hR.toRoutine
    apply sessionObjSessAifConnect_moves hR.toRoutine
    exact fun _ i n => hR.sessionConnectAif (hsend i) n

/-- A call of another session. -/
theorem run_otherSession {op : Op} {t : ℕ} (ho : o.of s) (hts : t ≠ s)
    (hop : op = .open t ∨ (∃ aif connect, op = .aifConnect t aif connect) ∨
      ∃ aif payload, op = .setSessAifParams t aif payload) :
    Moves (Follows o s (fun _ => False) fun _ _ => True) op.run := by
  obtain ⟨hsess, haif⟩ := Origin.of_ne ho hts
  have hR : Reopening t (Follows o s (fun _ => False) fun _ _ => True) :=
    reopening_follows ho fun _ _ _ _ _ => id
  have hsend : ∀ i, Moves (Follows o s (fun _ => False) fun _ _ => True) (sendParams t i) :=
    fun i => sendParams_elsewhere ho hsess (haif i)
  rcases hop with rfl | ⟨aif, connect, rfl⟩ | ⟨aif, payload, rfl⟩
  · exact hR.sessionObjOpen hsend
  · apply withId_moves hR.toRoutine
    apply sessionObjSessAifConnect_moves hR.toRoutine
    exact fun _ i n => hR.sessionConnectAif (hsend i) n
  · apply withId_moves hR.toRoutine
    apply moves_bind (hR.aif aif)
    intro r
    exact moves_ite (moves_pure _) (storeAif_elsewhere ho (haif r.2) payload)

/-- A call that neither stores at the place nor includes it. -/
theorem run_elsewhere {p : Payload} {op : Op} (ho : o.of s) (hs : s ∈ w.pool)
    (hp : o.cache w = some p) (habout : op.aboutParams = true)
    (hstores : ∀ q ∈ op.stores? w, q.1 ≠ o) (hinc : ¬ Includes o w op) :
    Ensures anyFault op.run w fun _ w' => Follows o s (fun _ => False) (fun _ _ => True) w w' := by
  have hR : ∀ t, Reopening t (Follows o s (fun _ => False) fun _ _ => True) :=
    fun t => reopening_follows ho fun _ _ _ _ _ => id
  cases op with
  | «open» t =>
      by_cases hts : t = s
      · subst hts
        refine (ensures_withId (m := do
          let sess ← getSess t
          if sess.state ≠ .sessionClosed then pure (-EALREADY) else openClosedSession t) hs).mpr ?_
        rw [ensures_bind, ensures_getSess, ensures_ite]
        refine ⟨fun _ => moves_pure (-EALREADY) w, fun hst => ?_⟩
        cases o with
        | session u =>
            obtain rfl : u = t := ho
            exact absurd ⟨rfl, not_not.mp hst⟩ hinc
        | aif u i =>
            obtain rfl : u = t := ho
            exact openClosedSession_skips hs fun hopen =>
              hinc (.inl ⟨rfl, not_not.mp hst, hopen⟩)
        | device d => exact ho.elim
      · exact run_otherSession ho hts (.inl rfl) w
  | close t =>
      have hclose : Moves (Follows o s (fun _ => False) fun _ _ => True)
          (withHandle t (sessionClose t)) := by
        apply moves_bind (moves_gets _)
        intro pool
        exact moves_ite (hR t).sessionClose (moves_pure _)
      exact hclose w
  | aifConnect t aif connect =>
      by_cases hts : t = s
      · subst hts
        refine (ensures_withId hs).mpr (sessionObjSessAifConnect_elsewhere ho hs hp ?_)
        rintro rfl hst i hfind rfl
        exact hinc (.inr ⟨hst, (t, aif), rfl, rfl, hfind⟩)
      · exact run_otherSession ho hts (.inr (.inl ⟨aif, connect, rfl⟩)) w
  | setSessParams t payload =>
      have hne : o ≠ .session t := Ne.symm (hstores _ rfl)
      exact withId_moves (hR t).toRoutine t (sessionObjSetSessParams_elsewhere ho hne payload) w
  | setSessAifParams t aif payload =>
      by_cases hts : t = s
      · subst hts
        refine (ensures_withId hs).mpr ?_
        have hfind : ∀ i, aifObjGetFromPool (w.sess t) aif = some i → o ≠ .aif t i := by
          intro i hi
          refine Ne.symm (hstores (.aif t i, payload) ?_)
          show Option.map _ (aifObjGetFromPool (w.sess t) aif) = _
          rw [hi]
          rfl
        unfold sessionObjSetSessAifParams withAif
        rw [ensures_bind]
        refine (((hR t).aif aif w).and (aifObjGet_elsewhere ho hp hfind)).imp ?_
        rintro r w₁ ⟨h₁, hpos⟩
        rw [ensures_ite]
        refine ⟨fun _ => h₁, fun hr => ?_⟩
        exact (storeAif_elsewhere ho (hpos (not_not.mp hr)) payload).after h₁
      · exact run_otherSession ho hts (.inr (.inr ⟨aif, payload, rfl⟩)) w
  | _ => exact absurd habout Bool.false_ne_true

/-- What a pending call does to the place: nothing. -/
theorem exec_pending {p : Payload} {call : Call} (ho : o.of s) (hs : s ∈ w.pool)
    (hp : o.cache w = some p) (hc : Pending o w call) :
    Ensures anyFault (exec call) w fun _ w' => s ∈ w'.pool ∧ Kept o w w' := by
  obtain ⟨habout, hstores, hfails⟩ := hc
  by_cases hinc : Includes o w call.op
  · have hmoves : Ensures anyFault (exec call) w fun _ w' =>
        Follows o s (fun _ => True) (fun _ _ => True) w w' := by
      unfold exec
      rw [ensures_bind, ensures_modify]
      exact (hinc.follows ho).after (Beside.follows ho ⟨rfl, rfl, rfl⟩)
    refine (hmoves.and (hfails hinc)).imp ?_
    rintro r w' ⟨h, -, hacc⟩
    obtain ⟨⟨hs', -⟩, hcarry⟩ := h ⟨hs, trivial⟩
    exact ⟨hs', hcarry.kept hacc⟩
  · unfold exec
    rw [ensures_bind, ensures_modify]
    have helse := run_elsewhere (w := { w with ext := call.ext }) ho hs hp habout hstores hinc
    refine helse.imp fun _ w' h => ?_
    obtain ⟨⟨hs', -⟩, hcarry⟩ := h ⟨hs, trivial⟩
    rcases hcarry with hkept | ⟨_, _, hf, _⟩
    · exact ⟨hs', hkept.accepted, hkept.cache⟩
    · exact hf.elim

/-! ### The call that caches -/

theorem withId_stores {m : AgmM ℤ} {Q : World → Prop}
    (hm : ∀ w : World, s ∈ w.pool → Ensures anyFault m w fun r w' => r = 0 → s ∈ w'.pool ∧ Q w') :
    Ensures anyFault (withId s m) w fun r w' => r = 0 → s ∈ w'.pool ∧ Q w' := by
  by_cases hs : s ∈ w.pool
  · exact (ensures_withId hs).mpr (hm w hs)
  · unfold withId sessionObjGet
    rw [ensures_bind, ensures_bind, ensures_gets, if_neg hs, ensures_bind]
    refine ensures_of_forall (fun _ => trivial) fun block w₁ => ?_
    rw [ensures_ite]
    refine ⟨fun _ h => absurd h (by decide), fun _ => ?_⟩
    rw [ensures_bind, ensures_modify, ensures_pure, if_neg (by decide)]
    exact hm _ (List.mem_append_right _ (List.mem_singleton_self s))

theorem modifySess_ensures (f : SessionObj → SessionObj) :
    Ensures anyFault (modifySess s f) w fun _ w' => w'.pool = w.pool ∧
      w'.sess s = f (w.sess s) :=
  ⟨rfl, Function.update_self s _ w.sess⟩

theorem sessionObjSetSessParams_stores (payload : Payload) (hs : s ∈ w.pool) :
    Ensures anyFault (sessionObjSetSessParams s payload) w fun r w' => r = 0 → s ∈ w'.pool ∧
      ((w'.sess s).state = .sessionClosed → (w'.sess s).params = some payload) := by
  unfold sessionObjSetSessParams
  rw [ensures_bind]
  refine (env_beside calloc).imp fun block w₁ h₁ => ?_
  rw [ensures_ite]
  refine ⟨fun _ => fun h => absurd h (by decide), fun _ => ?_⟩
  rw [ensures_bind]
  refine (modifySess_ensures _).imp ?_
  rintro _ w₂ ⟨hpool₂, hsess₂⟩
  have hs₂ : s ∈ w₂.pool := by rw [hpool₂, h₁.pool]; exact hs
  rw [ensures_bind, ensures_getSess, ensures_ite]
  refine ⟨fun hst => ?_, fun _ _ => ⟨hs₂, fun _ => by rw [hsess₂]⟩⟩
  -- an open session sends and keeps nothing, and stays open
  rw [ensures_bind]
  refine (graphSetConfig_ensures _ _ payload).imp ?_
  rintro r w₃ ⟨hpool₃, hsess₃, -⟩
  rw [ensures_bind]
  refine (modifySess_ensures _).imp ?_
  rintro _ w₄ ⟨hpool₄, hsess₄⟩ _
  refine ⟨by rw [hpool₄, hpool₃]; exact hs₂, fun hclosed => absurd ?_ hst⟩
  rw [hsess₄, hsess₃] at hclosed
  exact hclosed

/-- `aif_obj_get` returns the position of the interface. -/
theorem aifObjGet_position (aif : ℕ) (hs : s ∈ w.pool) :
    Ensures anyFault (aifObjGet s aif) w fun r w' => r.1 = 0 → s ∈ w'.pool ∧
      r.2 < (w'.sess s).aifPool.length ∧
      ∀ i, aifObjGetFromPool (w'.sess s) aif = some i → i = r.2 := by
  unfold aifObjGet
  rw [ensures_bind, ensures_getSess]
  cases hpos : aifObjGetFromPool (w.sess s) aif with
  | some i =>
      intro _
      refine ⟨hs, (List.findIdx?_eq_some_iff_getElem.mp hpos).1, fun j hj => ?_⟩
      exact Option.some.inj (hj.symm.trans hpos)
  | none =>
      dsimp only
      rw [ensures_bind]
      refine (aifObjCreate_ensures aif).imp ?_
      rintro obj w₁ ⟨h₁, -⟩
      cases obj with
      | none => exact fun h => absurd h (by decide)
      | some obj =>
          intro _
          have hself : Function.update w₁.sess s
              { w₁.sess s with aifPool := (w₁.sess s).aifPool ++ [obj] } s =
              { w₁.sess s with aifPool := (w₁.sess s).aifPool ++ [obj] } :=
            Function.update_self s _ w₁.sess
          refine ⟨h₁.pool ▸ hs, ?_, fun i hi => ?_⟩
          · show (w.sess s).aifPool.length < (Function.update w₁.sess s _ s).aifPool.length
            rw [hself, h₁.sess]
            simp
          · -- nobody had the id before, so it is the last one
            replace hi : aifObjGetFromPool (Function.update w₁.sess s
              { w₁.sess s with aifPool := (w₁.sess s).aifPool ++ [obj] } s) aif = some i := hi
            rw [hself, aifObjGetFromPool, List.findIdx?_append] at hi
            rw [h₁.sess] at hi
            rw [aifObjGetFromPool] at hpos
            rw [hpos, Option.none_or, List.findIdx?_singleton] at hi
            split_ifs at hi with hid
            · simpa using hi.symm
            · simp at hi

/-- A position where something waits lies in the pool. -/
theorem lt_of_params {i : ℕ} {p : Payload} (h : (w.aif s i).params = some p) :
    i < (w.sess s).aifPool.length := by
  by_contra hi
  have hdefault : w.aif s i = {} := List.getD_eq_default _ _ (not_lt.mp hi)
  rw [hdefault] at h
  cases h

/-- Putting a payload at a position. -/
theorem storeParams_ensures {i : ℕ} (q : Option Payload) (hi : i < (w.sess s).aifPool.length) :
    Ensures anyFault (modifyAif s i fun a => { a with params := q }) w fun _ w' =>
      w'.core = w.core ∧ (w'.aif s i).params = q := by
  have hquiet : Ensures anyFault (modifyAif s i fun a => { a with params := q }) w fun _ w' =>
      w'.core = w.core := modifyAif_quiet fun _ => rfl
  refine (hquiet.and (modifySess_ensures _)).imp ?_
  rintro _ w' ⟨hcore, -, hsess⟩
  refine ⟨hcore, ?_⟩
  rw [World.aif, hsess, List.getD_eq_getElem?_getD, List.getElem?_modify_eq,
    List.getElem?_eq_getElem hi]
  rfl

/-- What the abstract service shows of a pair and its session. -/
theorem core_pair {w₁ w₂ : World} (h : w₂.core = w₁.core) (i aif : ℕ) :
    w₂.pool = w₁.pool ∧ ((Origin.aif s i).Caches w₂ ↔ (Origin.aif s i).Caches w₁) ∧
      aifObjGetFromPool (w₂.sess s) aif = aifObjGetFromPool (w₁.sess s) aif := by
  have hpool : w₂.core.pool = w₁.core.pool := by rw [h]
  have hstate : (w₂.core.sess s).state = (w₁.core.sess s).state := by rw [h]
  have hrow : (w₂.core.row s i).state = (w₁.core.row s i).state := by rw [h]
  have hst : (w₂.sess s).state = (w₁.sess s).state := hstate
  rw [core_row, core_row] at hrow
  have hpair : (w₂.aif s i).state = (w₁.aif s i).state := hrow
  refine ⟨hpool, ?_, ?_⟩
  · rw [Origin.Caches, Origin.Caches, hst, hpair]
  · rw [← core_findAif, ← core_findAif, h]

theorem sessionObjSetSessAifParams_stores (aif : ℕ) (payload : Payload) (hs : s ∈ w.pool) :
    Ensures anyFault (sessionObjSetSessAifParams s aif payload) w fun r w' => r = 0 →
      s ∈ w'.pool ∧ ∀ i, aifObjGetFromPool (w'.sess s) aif = some i →
        (Origin.aif s i).Caches w' → (w'.aif s i).params = some payload := by
  unfold sessionObjSetSessAifParams withAif
  rw [ensures_bind]
  refine (aifObjGet_position aif hs).imp fun r w₁ h₁ => ?_
  rw [ensures_ite]
  refine ⟨fun hr h0 => absurd h0 hr, fun hr => ?_⟩
  obtain ⟨hs₁, hlt, hpos⟩ := h₁ (not_not.mp hr)
  dsimp only
  rw [ensures_bind]
  refine (env_beside calloc).imp fun block w₂ h₂ => ?_
  rw [ensures_ite]
  refine ⟨fun _ => fun h => absurd h (by decide), fun _ => ?_⟩
  have hlt₂ : r.2 < (w₂.sess s).aifPool.length := h₂.sess ▸ hlt
  have hs₂ : s ∈ w₂.pool := h₂.pool ▸ hs₁
  have hpos₂ : ∀ i, aifObjGetFromPool (w₂.sess s) aif = some i → i = r.2 := h₂.sess ▸ hpos
  rw [ensures_bind]
  refine (storeParams_ensures (some payload) hlt₂).imp ?_
  rintro _ w₃ ⟨hcore₃, hparams₃⟩
  obtain ⟨hpool₃, hcaches₃, hfind₃⟩ := core_pair (s := s) hcore₃ r.2 aif
  rw [ensures_bind, ensures_getSess, ensures_bind, ensures_getAif, ensures_ite]
  refine ⟨fun hst => ?_, fun _ _ => ⟨hpool₃ ▸ hs₂, fun i hi _ => ?_⟩⟩
  · -- an open interface of an open session is sent the payload and keeps nothing
    rw [ensures_bind]
    refine (graphSetConfig_ensures _ _ payload).imp ?_
    rintro ret w₄ ⟨hpool₄, hsess₄, -⟩
    have hlt₄ : r.2 < (w₄.sess s).aifPool.length := by
      rw [hsess₄]
      exact lt_of_params hparams₃
    rw [ensures_bind]
    refine (storeParams_ensures none hlt₄).imp ?_
    rintro _ w₅ ⟨hcore₅, -⟩ _
    obtain ⟨hpool₅, hcaches₅, hfind₅⟩ := core_pair (s := s) hcore₅ r.2 aif
    refine ⟨by rw [hpool₅, hpool₄, hpool₃]; exact hs₂, fun i hi hcaches => ?_⟩
    have hi₂ : aifObjGetFromPool (w₂.sess s) aif = some i := by
      rw [← hfind₃, ← hsess₄, ← hfind₅]
      exact hi
    obtain rfl := hpos₂ i hi₂
    have hcaches₄ : (Origin.aif s r.2).Caches w₄ := hcaches₅.mp hcaches
    rw [Origin.Caches, World.aif, hsess₄] at hcaches₄
    exact absurd hst hcaches₄
  · obtain rfl := hpos₂ i (hfind₃ ▸ hi)
    exact hparams₃

/-- A payload that a call accepted for a place that caches waits there. -/
theorem exec_stores {p : Payload} {w₀ : World} {call : Call} (ho : o.of s)
    (hcall : exec call w = .ok (0, w₀)) (hstored : call.op.stores? w₀ = some (o, p))
    (hcaches : o.Caches w₀) : s ∈ w₀.pool ∧ o.cache w₀ = some p := by
  obtain ⟨op, ext⟩ := call
  have hrun : op.run { w with ext := ext } = .ok (0, w₀) := hcall
  cases op with
  | setSessParams t payload =>
      obtain ⟨rfl, rfl⟩ := Prod.mk.inj (Option.some.inj hstored)
      obtain rfl : t = s := ho
      have hstores : Ensures anyFault (Op.run (.setSessParams t payload)) { w with ext := ext }
          fun r w' => r = 0 → t ∈ w'.pool ∧
            ((w'.sess t).state = .sessionClosed → (w'.sess t).params = some payload) :=
        withId_stores fun w hs => sessionObjSetSessParams_stores payload hs
      obtain ⟨hs₀, hparams⟩ := hstores.of_ok hrun rfl
      exact ⟨hs₀, hparams hcaches⟩
  | setSessAifParams t aif payload =>
      obtain ⟨i, hi, hpair⟩ := Option.map_eq_some_iff.mp hstored
      obtain ⟨rfl, rfl⟩ := Prod.mk.inj hpair
      obtain rfl : t = s := ho
      have hstores : Ensures anyFault (Op.run (.setSessAifParams t aif payload))
          { w with ext := ext } fun r w' => r = 0 → t ∈ w'.pool ∧
            ∀ i, aifObjGetFromPool (w'.sess t) aif = some i → (Origin.aif t i).Caches w' →
              (w'.aif t i).params = some payload :=
        withId_stores fun w hs => sessionObjSetSessAifParams_stores aif payload hs
      obtain ⟨hs₀, hparams⟩ := hstores.of_ok hrun rfl
      exact ⟨hs₀, hparams i hi hcaches⟩
  | _ => cases hstored

/-! ### The call that delivers -/

theorem run_includes {op : Op} (ho : o.of s) (hs : s ∈ w.pool) (hinc : Includes o w op)
    (hsil : op = .open s → ¬ Silent s w) :
    Ensures anyFault op.run w fun r w' => r = 0 → Delivers True o s w w' := by
  rcases hinc.op ho with rfl | ⟨aif, rfl⟩
  · have hopen : (w.sess s).state = .sessionClosed ∧
        (o = .session s ∨ ∃ j, o = .aif s j ∧ (w.aif s j).state = .aifOpen) := by
      cases o with
      | session t =>
          obtain rfl : t = s := ho
          exact ⟨hinc.2, .inl rfl⟩
      | aif t i =>
          obtain rfl : t = s := ho
          rcases hinc with ⟨-, hst, hj⟩ | ⟨-, p, hp, -⟩
          · exact ⟨hst, .inr ⟨i, rfl, hj⟩⟩
          · cases hp
      | device d => exact ho.elim
    refine (ensures_withId (m := do
      let sess ← getSess s
      if sess.state ≠ .sessionClosed then pure (-EALREADY) else openClosedSession s) hs).mpr ?_
    rw [ensures_bind, ensures_getSess, ensures_ite]
    refine ⟨fun hst => absurd hopen.1 hst, fun _ => ?_⟩
    exact openClosedSession_delivers ho hs hopen.1 hopen.2 (hsil rfl)
  · cases o with
    | session t => cases hinc.1
    | aif t i =>
        obtain rfl : t = s := ho
        rcases hinc with ⟨hopen, -⟩ | ⟨hst, p, hp, -, hfind⟩
        · cases hopen
        · cases hp
          exact (ensures_withId hs).mpr (sessionObjSessAifConnect_delivers hs hst hfind)
    | device d => exact ho.elim

theorem exec_includes {call : Call} (ho : o.of s) (hs : s ∈ w.pool) (hinc : Includes o w call.op)
    (hsil : call.op = .open s → ¬ Silent s { w with ext := call.ext }) :
    Ensures anyFault (exec call) w fun r w' => r = 0 → Delivers True o s w w' := by
  unfold exec
  rw [ensures_bind, ensures_modify]
  have hdel := run_includes (w := { w with ext := call.ext }) ho hs hinc hsil
  refine hdel.imp fun r w' h hr => ⟨(h hr).pool, (h hr).graph, ?_, (h hr).emptied⟩
  have hext : Follows o s (· = (w'.sess s).graph) (fun _ _ => True) w { w with ext := call.ext } :=
    Beside.follows ho ⟨rfl, rfl, rfl⟩
  exact trans_of (Carry o _) (hext ⟨hs, trivial⟩).2 (h hr).carried

end

/-- A payload that was cached reaches the graph of the next open or connection of its place that
succeeds, exactly once, when every attempt in between fails before GSL has accepted it and the
code of the open is not the one of its `unwind`. -/
theorem params_reach {o : Origin} {s : ℕ} {p : Payload} {w w₀ w₁ w₂ : World} {store last : Call}
    {calls : List Call} (ho : o.of s) (hstore : exec store w = .ok (0, w₀))
    (hstored : store.op.stores? w₀ = some (o, p)) (hcaches : o.Caches w₀)
    (hc : Admits exec (Pending o) calls w₀) (hrun : runAll exec calls w₀ = .ok ((), w₁))
    (hinc : Includes o w₁ last.op)
    (hsil : last.op = .open s → ¬ Silent s { w₁ with ext := last.ext })
    (hlast : exec last w₁ = .ok (0, w₂)) :
    ∃ g, (w₂.sess s).graph = some g ∧
      accepted o w₂.configs = (some g, p) :: accepted o w₀.configs := by
  obtain ⟨hs₀, hp₀⟩ := exec_stores ho hstore hstored hcaches
  -- while the calls are pending the payload waits and nothing is accepted
  have hwait : s ∈ w₁.pool ∧ o.cache w₁ = some p ∧
      accepted o w₁.configs = accepted o w₀.configs := by
    have hstep : ∀ (w : World) (call : Call), (s ∈ w.pool ∧ o.cache w = some p ∧
        accepted o w.configs = accepted o w₀.configs) → Pending o w call →
        Ensures anyFault (exec call) w fun _ w' => s ∈ w'.pool ∧ o.cache w' = some p ∧
          accepted o w'.configs = accepted o w₀.configs := by
      rintro w call ⟨hs, hp, hacc⟩ hpending
      refine (exec_pending ho hs hp hpending).imp fun _ w' h => ?_
      exact ⟨h.1, h.2.cache.trans hp, h.2.accepted.trans hacc⟩
    exact (runAll_invariant exec hstep calls w₀ ⟨hs₀, hp₀, rfl⟩ hc).of_ok hrun
  obtain ⟨hs₁, hp₁, hacc₁⟩ := hwait
  have hdel : Delivers True o s w₁ w₂ := (exec_includes ho hs₁ hinc hsil).of_ok hlast rfl
  obtain ⟨_, rfl, hsent⟩ := hdel.carried.sent hp₁ (hdel.emptied trivial)
  obtain ⟨g, hg⟩ := Option.ne_none_iff_exists'.mp hdel.graph
  exact ⟨g, hg, by rw [hsent.accepted, hacc₁, hg]⟩

/-- Two interfaces of a session. -/
def twoAifs : List Call := [⟨.aifConnect 0 1 true, []⟩, ⟨.aifConnect 0 2 true, []⟩]

/-- The first device refuses to open, and something is cached for the second interface. -/
def refusedOpen : List Call := [⟨.open 0, failAfter 4 1⟩, ⟨.setSessAifParams 0 2 [8], []⟩]

set_option synthInstance.maxSize 1000 in
theorem params_reach_refusedOpen :
    ∃ w₀ w₂ : World, ∃ g, (w₂.sess 0).graph = some g ∧
      accepted (.session 0) w₂.configs = (some g, [7]) :: accepted (.session 0) w₀.configs := by
  obtain ⟨_, w, -, hset⟩ := Ensures.exists_ok (m := runAll exec twoAifs) (s := startUp 4)
    (Q := fun _ w => Ensures noFault (exec ⟨.setSessParams 0 [7], []⟩) w fun r w₀ =>
      r = 0 ∧ (Origin.session 0).Caches w₀ ∧ Admits exec (Pending (.session 0)) refusedOpen w₀ ∧
      Ensures noFault (runAll exec refusedOpen) w₀ fun _ w₁ =>
        Includes (.session 0) w₁ (.open 0) ∧ ¬ Silent 0 { w₁ with ext := [] } ∧
        Ensures noFault (exec ⟨.open 0, []⟩) w₁ fun r _ => r = 0) (by decide +kernel)
  obtain ⟨_, w₀, hstore, rfl, hcaches, hc, hrest⟩ := hset.exists_ok
  obtain ⟨_, w₁, hrun, hinc, hsil, hopen⟩ := hrest.exists_ok
  obtain ⟨_, w₂, hlast, rfl⟩ := hopen.exists_ok
  exact ⟨w₀, w₂, params_reach rfl hstore rfl hcaches hc hrun hinc (fun _ => hsil) hlast⟩

set_option synthInstance.maxSize 1000 in
/-- The first device is connected and the second one is not: the payload went to the graph that
the failed open closes, and the next open returns `0` without it. -/
theorem params_reach_secondDevice :
    Ensures noFault (runAll exec twoAifs) (startUp 4) (fun _ w =>
      Ensures noFault (exec ⟨.setSessParams 0 [7], []⟩) w fun r w₀ =>
        r = 0 ∧ (Origin.session 0).Caches w₀) ∧
    Ensures noFault (runAll exec (twoAifs ++ [⟨.setSessParams 0 [7], []⟩])) (startUp 4) (fun _ w₀ =>
      Ensures noFault (exec ⟨.open 0, failAfter 21 3⟩) w₀ fun r w₁ =>
        r ≠ 0 ∧ (w₁.sess 0).graph = none ∧ accepted (.session 0) w₁.configs = [(some 0, [7])]) ∧
    Ensures noFault (runAll exec (twoAifs ++
        [⟨.setSessParams 0 [7], []⟩, ⟨.open 0, failAfter 21 3⟩])) (startUp 4) fun _ w₁ =>
      Ensures noFault (exec ⟨.open 0, []⟩) w₁ fun r w₂ => r = 0 ∧ (w₂.sess 0).graph = some 1 ∧
        accepted (.session 0) w₂.configs = [(some 0, [7])] := by
  decide +kernel

end Agm
