import Agm.Locality

/-! # Session states and pair states

The state of a session and the states of its pairs are assigned separately.  They are meant to
agree: a pair is started only while the session is, and a closed session has no open pair
(`SessCore.Agrees`).

Three ways through the service break this.  An open that fails at an edge leaves its pairs open
in a closed session.  A prepare of a started session assigns `SESSION_PREPARED` and leaves the
started pairs as they are; and so does the restart after a connection when a check of
`session_start` fails.  Without these three the states agree in every state reached
(`states_agree`). -/

namespace Agm

open Prog

/-- A closed session has no open pair. -/
def SessCore.Idle (x : SessCore) : Prop :=
  x.state = .sessionClosed → ∀ r ∈ x.rows, r.state.isOpened = false

/-- A pair is started only in a started session. -/
def SessCore.StartsOk (x : SessCore) : Prop :=
  ∀ r ∈ x.rows, r.state = .aifStarted → x.state = .sessionStarted

/-- The states of a session and of its pairs agree. -/
structure SessCore.Agrees (x : SessCore) : Prop where
  starts : x.StartsOk
  idle : x.Idle

section
variable {s i n : ℕ} {c c' : Core} {r : ℤ}

/-! ### A closed session has no open pair -/

theorem SessCore.Idle.not_closed (h : (c.sess s).Idle) (hn : c.openedCount s ≠ 0) :
    (c.sess s).state ≠ .sessionClosed := by
  intro hst
  refine hn (List.countP_eq_zero.mpr fun r hr => ?_)
  rw [h hst r hr]
  decide

theorem SessCore.Idle.of_state {x : SessCore} (h : x.state ≠ .sessionClosed) : x.Idle :=
  fun he => absurd he h

theorem SessCore.idle_iff :
    (c.sess s).Idle ↔ ((c.sess s).state = .sessionClosed →
      ∀ i, ¬ (c.row s i).state.isOpened = true) := by
  unfold SessCore.Idle
  refine imp_congr_right fun _ => ?_
  simp only [← Bool.not_eq_true]
  exact Core.forall_rows_iff (P := fun st => ¬ st.isOpened = true) (by decide)

theorem Core.state_setState (c : Core) (s : ℕ) (st : SessionState) :
    ((c.setState s st).sess s).state = st := by
  rw [setState, sess_setSess_self]

theorem Prepare.idle (h : Prepare s c r c') (hi : (c.sess s).Idle) : (c'.sess s).Idle := by
  cases h with
  | early hr => exact hi
  | late hn hr hu =>
      refine .of_state ?_
      rw [(frame_of_until (fun _ _ _ _ => PrepareTurn.frame) hu).state]
      exact hi.not_closed hn
  | prepared hn hu =>
      refine .of_state ?_
      rw [Core.state_setState]
      decide

theorem Start.idle {gate : Prop} (h : Start gate s c r c') (hs : s ∈ c.pool)
    (hi : (c.sess s).Idle) : (c'.sess s).Idle := by
  cases h with
  | early h hr hp =>
      rw [hp.sess hs]
      exact hi
  | unwound h hn hr hp hu hc =>
      have hf := (frame_of_until (fun _ _ _ _ => StartTurn.frame) hu).trans
        (frame_of_chain (fun _ _ _ => StopTurn.frame) hc)
      refine .of_state ?_
      rw [hf.state, hp.sess hs]
      exact hi.not_closed hn
  | started h hn hp hu =>
      refine .of_state ?_
      rw [Core.state_setState]
      decide

theorem Stop.idle (h : Stop s c r c') (hi : (c.sess s).Idle) : (c'.sess s).Idle := by
  cases h with
  | early hr => exact hi
  | stopped hst hc =>
      refine .of_state ?_
      rw [Core.state_setState]
      decide

theorem Close.idle (h : Close s c r c') (hi : (c.sess s).Idle) : (c'.sess s).Idle := by
  cases h with
  | already hr => exact hi
  | @closed _ c₁ c₂ hst hg hc =>
      have hrow : ∀ j, (c₁.setGraph s none).row s j = c.row s j := by
        intro j
        rw [Core.row, Core.row, Core.rows_setGraph, hg.sess]
      have hnone := none_of_chain (P := fun st => st.isOpened = true)
        (fun _ _ _ => CloseTurn.ends) hc fun j hj => by
          refine Core.mem_rowRange fun e => ?_
          rw [hrow, e] at hj
          exact absurd hj (by decide)
      intro _ x hx
      rw [Core.rows_setState] at hx
      obtain ⟨j, -, rfl⟩ := c₂.exists_row_of_mem hx
      exact Bool.not_eq_true _ ▸ hnone j

/-- After the first connections the open pairs of the session are those in `AIF_OPENED`. -/
def FreshlyOpened (s : ℕ) (c : Core) : Prop :=
  ∀ i, (c.row s i).state.isOpened = true → (c.row s i).state = .aifOpened

theorem FreshlyOpened.setRow (h : FreshlyOpened s c) (hi : i < (c.sess s).rows.length) :
    FreshlyOpened s (c.setRow s i .aifOpened) := by
  intro j
  rw [c.state_setRow _ hi]
  split_ifs with hj
  · exact fun _ => rfl
  · exact h j

theorem Connect.row {cleans : Prop} (h : Connect cleans s i n c r c') (j : ℕ) :
    c'.row s j = c.row s j := by
  rw [Core.row, Core.row, h.rows]

theorem OpenFirst.freshlyOpened {cleans : Prop} (h : OpenFirst cleans s c 0 c')
    (hf : FreshlyOpened s c) : FreshlyOpened s c' := by
  cases h with
  | noAif hr hi h => exact absurd rfl hr
  | failed hr hi hc => exact absurd rfl hr
  | opened hi hc =>
      refine FreshlyOpened.setRow ?_ ?_
      · intro j
        rw [hc.row]
        exact hf j
      · rw [hc.rows]
        exact (Core.firstOpen_spec hi).1

theorem Reminders.freshlyOpened {l : List ℕ} (h : Reminders s l n c r c') :
    FreshlyOpened s c → FreshlyOpened s c' := by
  have hconn : ∀ {i n : ℕ} {c c' : Core} {r : ℤ}, Connect False s i n c r c' →
      FreshlyOpened s c → FreshlyOpened s c' := by
    intro i n c c' r hc hf j
    rw [hc.row]
    exact hf j
  induction h with
  | nil => exact id
  | skip h hs ih => exact ih
  | fail h hr hc => exact hconn hc
  | next h hc hs ih =>
      intro hf
      refine ih (FreshlyOpened.setRow (hconn hc hf) ?_)
      rw [hc.rows]
      exact Core.lt_of_row_ne _ (by rw [h]; decide)

theorem UnwindTurn.freshlyOpened {lost : Prop} (h : UnwindTurn lost s i c c')
    (hf : FreshlyOpened s c) : FreshlyOpened s c' := by
  intro j hj
  rcases h.ends.2 j with he | he
  · rw [he] at hj ⊢
    exact hf j hj
  · rw [he] at hj
    exact absurd hj (by decide)

/-- The label `unwind` leaves no pair open. -/
theorem Unwind.idle {lost : ℕ → Prop} (h : Unwind lost s c r c') (hf : FreshlyOpened s c) :
    (c'.sess s).Idle := by
  cases h with
  | @intro c₁ c₂ hc hg =>
      have hf₁ : FreshlyOpened s c₁ :=
        hc.invariant (I := FreshlyOpened s) (fun _ _ _ hI ht => ht.freshlyOpened hI) hf
      have hturn : ∀ i c c', UnwindTurn (lost i) s i c c' →
          ¬ (c'.row s i).state = .aifOpened ∧
            ∀ j, j ≠ i → (c'.row s j).state = .aifOpened → (c.row s j).state = .aifOpened := by
        intro i c c' ht
        refine ⟨ht.ends.1, fun j _ hj => ?_⟩
        rcases ht.ends.2 j with he | he
        · exact he ▸ hj
        · rw [he] at hj
          exact absurd hj (by decide)
      have hnone := none_of_chain (P := fun st => st = .aifOpened) hturn hc fun j hj =>
        Core.mem_rowRange (by rw [hj]; decide)
      intro _ x hx
      rw [Core.rows_setGraph, hg.sess] at hx
      obtain ⟨j, -, rfl⟩ := c₁.exists_row_of_mem hx
      by_contra ho
      exact hnone j (hf₁ j (Bool.not_eq_false _ ▸ ho))

/-- In a closed session without an open pair every open pair is freshly opened. -/
theorem SessCore.Idle.freshlyOpened (hi : (c.sess s).Idle)
    (hst : (c.sess s).state = .sessionClosed) : FreshlyOpened s c :=
  fun i ho => absurd ho (SessCore.idle_iff.mp hi hst i)

theorem OpenSteps.idle {b : OpenBranches} (h : OpenSteps b s c r c') (hs : s ∈ c.pool)
    (hst : (c.sess s).state = .sessionClosed) (he : ¬ b.edgesFail) (hi : (c.sess s).Idle) :
    (c'.sess s).Idle := by
  have hloop : ∀ {r₂ : ℤ} {c₁ c₂ : Core}, OpenFirst b.cleans s c 0 c₁ →
      Reminders s (c.rowRange s) 1 c₁ r₂ c₂ → FreshlyOpened s c₂ ∧ s ∈ c₂.pool := by
    intro r₂ c₁ c₂ h₁ h₂
    refine ⟨h₂.freshlyOpened (h₁.freshlyOpened (hi.freshlyOpened hst)), ?_⟩
    rw [(h₂.frame (by decide)).pool, h₁.pool]
    exact hs
  cases h with
  | first hr h₁ hu he =>
      cases h₁ with
      | noAif hr hi' h => exact hi
      | failed hr hi' hc =>
          intro _ x hx
          rw [hc.rows] at hx
          exact hi hst x hx
      | opened hi' hc => exact absurd rfl hr
  | unwound hr h₁ h₂ hr₂ h₃ hu hsil he => exact h₃.idle (hloop h₁ h₂).1
  | @resumed _ _ _ _ c₃ c₄ h₁ h₂ hr₂ h₃ hu hsil he h₄ =>
      obtain ⟨hf₂, hs₂⟩ := hloop h₁ h₂
      have hs₃ : s ∈ c₃.pool := h₃.sess_pool.1 ▸ hs₂
      have h₃' : (c₄.sess s).Idle := by
        rw [h₄.sess hs₃]
        exact h₃.idle hf₂
      split_ifs with hr
      · refine .of_state ?_
        rw [Core.state_setState]
        decide
      · exact h₃'
  | edges hr h₁ h₂ h₃ hu he' => exact absurd he' he
  | opened h₁ h₂ h₃ hu he =>
      refine .of_state ?_
      rw [Core.state_setState]
      decide

theorem Connect.state {cleans : Prop} (h : Connect cleans s i n c r c') :
    (c'.sess s).state = (c.sess s).state := by
  have hjoin : ∀ {c c₁ : Core}, Joined s n c c₁ → (c₁.sess s).state = (c.sess s).state := by
    intro c c₁ hj
    cases hj with
    | same => rfl
    | opened hn hs => simp [Core.newGraph, Core.setGraph]
  cases h with
  | refused hr h => rfl
  | undone hr h hd => rfl
  | cleaned hr h hd hn hj hg => exact (hjoin hj :)
  | connected h hd hj hg => exact (hjoin hj :)

theorem HotConnect.idle {cleans gate u} (h : HotConnect cleans gate s i c r u c')
    (hs : s ∈ c.pool) (hlt : i < (c.sess s).rows.length) (hi : (c.sess s).Idle) :
    (c'.sess s).Idle := by
  have hconn : ∀ {c₁ : Core}, Connect cleans s i (c.openedCount s) c 0 c₁ →
      ((c₁.setRow s i .aifOpened).sess s).state = (c.sess s).state ∧
        s ∈ (c₁.setRow s i .aifOpened).pool := by
    intro c₁ hc
    have hf := Frame.setRow (s := s) c₁ i .aifOpened
    refine ⟨hf.state.trans hc.state, ?_⟩
    rw [hf.pool, hc.pool]
    exact hs
  cases h with
  | already hr => exact hi
  | waiting hst hi' =>
      rw [SessCore.idle_iff]
      intro _ j
      rw [c.state_setRow _ hlt]
      split_ifs with hj
      · decide
      · exact SessCore.idle_iff.mp hi hst j
  | failed hst hi' hr hc => exact .of_state (by rw [hc.state]; exact hst)
  | opened hst hi' hc => exact .of_state (by rw [(hconn hc).1, hst]; decide)
  | prepareFailed hst hi' hc hr hp =>
      exact hp.idle (.of_state (by rw [(hconn hc).1]; exact hst))
  | prepared hst hi' hc hp =>
      refine hp.idle (.of_state ?_)
      rw [(hconn hc).1]
      rcases hst with e | e <;> rw [e] <;> decide
  | startFailed hst hi' hc hp hr hstart =>
      refine hstart.idle (hp.facts.1 ▸ (hconn hc).2) (hp.idle (.of_state ?_))
      rw [(hconn hc).1, hst]
      decide
  | started hst hi' hc hp hstart =>
      refine hstart.idle (hp.facts.1 ▸ (hconn hc).2) (hp.idle (.of_state ?_))
      rw [(hconn hc).1, hst]
      decide

theorem Disconnect.sess {lost : Prop} (h : Disconnect lost s i c r c') : c'.sess = c.sess := by
  cases h with
  | lost h hr => rfl
  | closed h hd => rfl

theorem AifDisconnect.idle {lost : Prop} (h : AifDisconnect lost s i c r c')
    (hlt : i < (c.sess s).rows.length) (hi : (c.sess s).Idle) : (c'.sess s).Idle := by
  have hf := Frame.setRow (s := s) c i .aifClose
  cases h with
  | already hr => exact hi
  | forgotten hst hi' =>
      rw [SessCore.idle_iff]
      intro _ j
      rw [Core.state_setRow _ _ (hf.length ▸ hlt), c.state_setRow _ hlt]
      split_ifs with hj
      · decide
      · exact SessCore.idle_iff.mp hi hst j
  | disconnected hst hi' hd =>
      have hst₁ := hd.frame.state.trans hf.state
      split_ifs with hr
      · exact .of_state (by rw [(Frame.setRow (s := s) _ i _).state, hst₁]; exact hst)
      · exact .of_state (by rw [hst₁]; exact hst)

/-! ### Started pairs -/

/-- The pairs of the session that are started were started before. -/
def StartsFrom (s : ℕ) (c c' : Core) : Prop :=
  ∀ i, (c'.row s i).state = .aifStarted → (c.row s i).state = .aifStarted

theorem SessCore.startsOk_iff :
    (c.sess s).StartsOk ↔
      ∀ i, (c.row s i).state = .aifStarted → (c.sess s).state = .sessionStarted :=
  Core.forall_rows_iff (P := fun st => st = .aifStarted → (c.sess s).state = .sessionStarted)
    (fun h => nomatch h)

theorem SessCore.StartsOk.mono (h : (c.sess s).StartsOk) (hf : StartsFrom s c c')
    (hst : (c'.sess s).state = (c.sess s).state) : (c'.sess s).StartsOk := by
  rw [SessCore.startsOk_iff] at h ⊢
  intro i hi
  rw [hst]
  exact h i (hf i hi)

/-- Without a started pair there is nothing to agree on. -/
theorem SessCore.StartsOk.of_none (h : ∀ i, (c.row s i).state ≠ .aifStarted) :
    (c.sess s).StartsOk :=
  SessCore.startsOk_iff.mpr fun i hi => absurd hi (h i)

theorem PrepareTurn.startsFrom (h : PrepareTurn s i c r c') : StartsFrom s c c' := by
  intro j
  cases h with
  | skip h => exact id
  | fail h hr =>
      rw [Core.row_onRowDev]
      exact id
  | @next d h hd =>
      have hi : i < ((c.onDev d DevCore.prepared).sess s).rows.length := by
        refine c.lt_of_row_ne ?_
        rcases h with e | e <;> rw [e] <;> decide
      rw [Core.state_setRow _ _ hi]
      split_ifs with hj
      · exact fun h => nomatch h
      · exact id

theorem Prepare.startsFrom (h : Prepare s c r c') : StartsFrom s c c' := by
  have hloop : ∀ {l : List ℕ} {r' : ℤ} {c₁ : Core}, Until (PrepareTurn s) l c r' c₁ →
      StartsFrom s c c₁ := by
    intro l r' c₁ hu
    exact hu.invariant (I := StartsFrom s c)
      (fun _ _ _ _ hI ht j hj => hI j (ht.startsFrom j hj)) fun _ h => h
  cases h with
  | early hr => exact fun _ h => h
  | late hn hr hu => exact hloop hu
  | prepared hn hu =>
      intro j
      rw [Core.row, Core.rows_setState]
      exact hloop hu j

/-- A preparation that fails keeps the state of the session. -/
theorem Prepare.state_of_ne (h : Prepare s c r c') (hr : r ≠ 0) :
    (c'.sess s).state = (c.sess s).state := by
  cases h with
  | early hr => rfl
  | late hn hr hu => exact (frame_of_until (fun _ _ _ _ => PrepareTurn.frame) hu).state
  | prepared hn hu => exact absurd rfl hr

/-- A start ends with the session started, with no pair of it started, or, when a check fails,
with nothing done. -/
theorem Start.startsOk {gate : Prop} (h : Start gate s c r c') (hs : s ∈ c.pool)
    (hok : gate → (c.sess s).StartsOk) : (c'.sess s).StartsOk := by
  cases h with
  | early h hr hp =>
      rw [hp.sess hs]
      exact hok h
  | @unwound _ r' c₁ c₂ _ h hn hr hp hu hc =>
      have hf := frame_of_until (fun _ _ _ _ => StartTurn.frame) hu
      refine .of_none (none_of_chain (P := fun st => st = .aifStarted)
        (fun _ _ _ => StopTurn.ends (by decide)) hc fun j hj => ?_)
      have hj' : j ∈ c₂.rowRange s := Core.mem_rowRange (by rw [hj]; decide)
      have hlen : (c₂.sess s).rows.length = (c.sess s).rows.length := by
        rw [hf.length, hp.sess hs]
      rwa [Core.rowRange, hlen] at hj'
  | started h hn hp hu =>
      intro _ _ _
      exact Core.state_setState _ s _

theorem Stop.startsOk (h : Stop s c r c') (hok : (c.sess s).StartsOk) : (c'.sess s).StartsOk := by
  cases h with
  | early hr => exact hok
  | stopped hst hc =>
      refine .of_none fun i => ?_
      rw [Core.row, Core.rows_setState]
      exact none_of_chain (P := fun st => st = .aifStarted) (fun _ _ _ => StopTurn.ends (by decide))
        hc (fun j hj => Core.mem_rowRange (by rw [hj]; decide)) i

/-- A closed session without an open pair has none that is started. -/
theorem SessCore.Idle.startsOk {x : SessCore} (h : x.Idle) (hst : x.state = .sessionClosed) :
    x.StartsOk := by
  intro r hr hr'
  have hcl := h hst r hr
  rw [hr'] at hcl
  exact absurd hcl (by decide)

theorem Close.startsOk (h : Close s c r c') (hok : (c.sess s).Agrees) :
    (c'.sess s).StartsOk := by
  have hidle := h.idle hok.idle
  cases h with
  | already hr => exact hok.starts
  | closed hst hg hc => exact hidle.startsOk (Core.state_setState _ s _)

theorem FreshlyOpened.startsOk (h : FreshlyOpened s c) : (c.sess s).StartsOk := by
  refine .of_none fun i hi => ?_
  have ho := h i (by rw [hi]; rfl)
  rw [hi] at ho
  cases ho

theorem FreshlyOpened.congr (h : FreshlyOpened s c) (hr : (c'.sess s).rows = (c.sess s).rows) :
    FreshlyOpened s c' := by
  intro i
  rw [Core.row, hr]
  exact h i

theorem OpenSteps.freshlyOpened {b : OpenBranches} (h : OpenSteps b s c r c') (hs : s ∈ c.pool)
    (hf : FreshlyOpened s c) : FreshlyOpened s c' := by
  have hloop : ∀ {r₂ : ℤ} {c₁ c₂ : Core}, OpenFirst b.cleans s c 0 c₁ →
      Reminders s (c.rowRange s) 1 c₁ r₂ c₂ → FreshlyOpened s c₂ ∧ s ∈ c₂.pool := by
    intro r₂ c₁ c₂ h₁ h₂
    refine ⟨h₂.freshlyOpened (h₁.freshlyOpened hf), ?_⟩
    rw [(h₂.frame (by decide)).pool, h₁.pool]
    exact hs
  have hunw : ∀ {r₃ : ℤ} {lost} {c₂ c₃ : Core}, Unwind lost s c₂ r₃ c₃ → FreshlyOpened s c₂ →
      FreshlyOpened s c₃ := by
    intro r₃ lost c₂ c₃ h₃ hf₂
    obtain ⟨hc, hg⟩ := h₃
    have hf₃ := hc.invariant (I := FreshlyOpened s) (fun _ _ _ hI ht => ht.freshlyOpened hI) hf₂
    exact hf₃.congr (by rw [Core.rows_setGraph, hg.sess])
  cases h with
  | first hr h₁ hu he =>
      cases h₁ with
      | noAif hr hi h => exact hf
      | failed hr hi hc => exact hf.congr (hc.rows s)
      | opened hi hc => exact absurd rfl hr
  | unwound hr h₁ h₂ hr₂ h₃ hu hsil he => exact hunw h₃ (hloop h₁ h₂).1
  | @resumed _ _ _ _ c₃ c₄ h₁ h₂ hr₂ h₃ hu hsil he h₄ =>
      have hs₃ : s ∈ c₃.pool := h₃.sess_pool.1 ▸ (hloop h₁ h₂).2
      have hf₄ : FreshlyOpened s c₄ :=
        (hunw h₃ (hloop h₁ h₂).1).congr (by rw [h₄.sess hs₃])
      split_ifs with hr
      · exact hf₄.congr (Core.rows_setState _ s _ s)
      · exact hf₄
  | edges hr h₁ h₂ h₃ hu he =>
      obtain ⟨hf₂, hs₂⟩ := hloop h₁ h₂
      exact hf₂.congr (by rw [h₃.sess hs₂])
  | opened h₁ h₂ h₃ hu he =>
      obtain ⟨hf₂, hs₂⟩ := hloop h₁ h₂
      exact hf₂.congr (by rw [Core.rows_setState, h₃.sess hs₂])

theorem HotConnect.startsOk {cleans gate u} (h : HotConnect cleans gate s i c r u c')
    (hs : s ∈ c.pool) (hlt : i < (c.sess s).rows.length) (hok : (c.sess s).StartsOk)
    (hgate : (∃ j, (c.row s j).state = .aifStarted) → ¬ gate) : (c'.sess s).StartsOk := by
  have hset : ∀ {c₁ : Core} (st : AifState), st ≠ .aifStarted →
      (∀ t, (c₁.sess t).rows = (c.sess t).rows) → StartsFrom s c (c₁.setRow s i st) := by
    intro c₁ st hst hrows j
    have hi : i < (c₁.sess s).rows.length := by
      rw [hrows]
      exact hlt
    rw [Core.state_setRow _ _ hi, Core.row, hrows]
    split_ifs with hj
    · exact fun e => absurd e hst
    · exact id
  have hconn : ∀ {c₁ : Core}, Connect cleans s i (c.openedCount s) c 0 c₁ →
      StartsFrom s c (c₁.setRow s i .aifOpened) ∧
        ((c₁.setRow s i .aifOpened).sess s).state = (c.sess s).state ∧
        s ∈ (c₁.setRow s i .aifOpened).pool := by
    intro c₁ hc
    have hf := Frame.setRow (s := s) c₁ i .aifOpened
    refine ⟨hset _ (by decide) hc.rows, hf.state.trans hc.state, ?_⟩
    rw [hf.pool, hc.pool]
    exact hs
  have hrestart : ∀ {c₁ c₂ : Core} {r' : ℤ}, Connect cleans s i (c.openedCount s) c 0 c₁ →
      Prepare s (c₁.setRow s i .aifOpened) 0 c₂ → Start gate s c₂ r' c' →
      (c'.sess s).StartsOk := by
    intro c₁ c₂ r' hc hp hstart
    obtain ⟨hfrom, -, hs₁⟩ := hconn hc
    refine hstart.startsOk (hp.facts.1 ▸ hs₁) fun hg => .of_none fun j hj => ?_
    exact hgate ⟨j, hfrom j (hp.startsFrom j hj)⟩ hg
  cases h with
  | already hr => exact hok
  | waiting hst hi =>
      exact hok.mono (hset _ (by decide) fun _ => rfl) (Frame.setRow (s := s) c i _).state
  | failed hst hi hr hc =>
      refine hok.mono (fun j => ?_) hc.state
      rw [hc.row]
      exact id
  | opened hst hi hc => exact hok.mono (hconn hc).1 (hconn hc).2.1
  | prepareFailed hst hi hc hr hp =>
      obtain ⟨hfrom, hst₁, -⟩ := hconn hc
      exact hok.mono (fun j hj => hfrom j (hp.startsFrom j hj)) ((hp.state_of_ne hr).trans hst₁)
  | prepared hst hi hc hp =>
      refine .of_none fun j hj => ?_
      have hstart := SessCore.startsOk_iff.mp hok j ((hconn hc).1 j (hp.startsFrom j hj))
      rw [hstart] at hst
      simp at hst
  | startFailed hst hi hc hp hr hstart => exact hrestart hc hp hstart
  | started hst hi hc hp hstart => exact hrestart hc hp hstart

theorem AifDisconnect.startsOk {lost : Prop} (h : AifDisconnect lost s i c r c')
    (hlt : i < (c.sess s).rows.length) (hok : (c.sess s).StartsOk) : (c'.sess s).StartsOk := by
  have hset : ∀ {c : Core} (st : AifState), i < (c.sess s).rows.length → st ≠ .aifStarted →
      (c.sess s).StartsOk → ((c.setRow s i st).sess s).StartsOk := by
    intro c st hlt hst hok
    refine hok.mono (fun j => ?_) (Frame.setRow (s := s) c i st).state
    rw [c.state_setRow _ hlt]
    split_ifs with hj
    · exact fun e => absurd e hst
    · exact id
  have hf := Frame.setRow (s := s) c i .aifClose
  have h₁ := hset .aifClose hlt (by decide) hok
  cases h with
  | already hr => exact hok
  | forgotten hst hi => exact hset _ (hf.length ▸ hlt) (by decide) h₁
  | @disconnected _ c₁ hst hi hd =>
      have h₂ : (c₁.sess s).StartsOk := by
        rw [hd.sess]
        exact h₁
      split_ifs with hr
      · refine hset _ ?_ (by decide) h₂
        rw [hd.sess]
        exact hf.length ▸ hlt
      · exact h₂

end

/-! ### Calls -/

section
variable {w : World} {call : Call} {r : ℤ} {c' : Core}

/-- What holds of a session and does not care for a new pair that is not open survives an inert
call. -/
theorem Inert.forall_sess {named : Option ℕ} {c c' : Core} {P : SessCore → Prop}
    (h : Inert named c c') (h0 : P {})
    (hP : ∀ x y : SessCore, y.state = x.state → y.graph = x.graph →
      Grown named c x.rows y.rows → P x → P y)
    (hc : ∀ t ∈ c.pool, P (c.sess t)) : ∀ t ∈ c'.pool, P (c'.sess t) := by
  intro t ht
  by_cases hold : t ∈ c.pool
  · exact hP _ _ (h.state t hold) (h.graph t hold) (h.rows t hold) (hc t hold)
  · obtain ⟨hst, hg, hr⟩ := h.fresh t ht hold
    exact hP {} _ hst hg hr h0

theorem Grown.forall_state {named : Option ℕ} {c : Core} {rows rows' : List Row}
    {P : AifState → Prop} (h : Grown named c rows rows')
    (hP : ∀ st : AifState, st.isOpened = false → P st) (hr : ∀ r ∈ rows, P r.state) :
    ∀ r ∈ rows', P r.state := by
  cases h with
  | same => exact hr
  | added hn hf hst =>
      intro r hm
      rcases List.mem_append.mp hm with hm | hm
      · exact hr r hm
      · rw [List.mem_singleton.mp hm]
        exact hP _ hst

/-- No session is closed with a pair open. -/
def IdleAll (c : Core) : Prop := ∀ t ∈ c.pool, (c.sess t).Idle

theorem SessCore.idle_empty : ({} : SessCore).Idle := by
  intro _ r hr
  cases hr

theorem IdleAll.inert {named : Option ℕ} {c c' : Core} (h : IdleAll c) (hi : Inert named c c') :
    IdleAll c' := by
  refine hi.forall_sess SessCore.idle_empty (fun x y hst _ hg hx hcl => ?_) h
  exact hg.forall_state (fun _ h => h) (hx (hst ▸ hcl))

/-- The opens of a closed session that do not fail at an edge. -/
def EdgeHonest (w : World) (call : Call) : Prop :=
  ∀ s ∈ call.op.opens?, s ∈ w.pool → (w.sess s).state = .sessionClosed →
    ¬ EdgesFail s { w with ext := call.ext }

instance (w : World) (call : Call) : Decidable (EdgeHonest w call) :=
  inferInstanceAs (Decidable (∀ s ∈ _, _ → _ → _))

theorem Step.idleAll (hs : Step { w with ext := call.ext } call.op r c')
    (hc : EdgeHonest w call) (h : IdleAll w.core) : IdleAll c' := by
  obtain ⟨op, ext⟩ := call
  -- A call that touches one session is looked at for that session.
  have honly : ∀ {s : ℕ}, Only s w.core c' → (c'.sess s).Idle → IdleAll c' := by
    intro s ho hi
    exact ho.forall_sess SessCore.idle_empty hi h
  cases hs with
  | inert hi => exact h.inert hi
  | @«open» s _ _ lost hp hst ho hl =>
      have hedge := hc s rfl hp hst
      exact honly (ho.only hp) (ho.idle hp hst hedge (h s hp))
  | close hp hcl => exact honly (hcl.only hp) (hcl.idle (h _ hp))
  | prepare hp hpr => exact honly (hpr.only hp) (hpr.idle (h _ hp))
  | start hp hst => exact honly (hst.only hp) (hst.idle hp (h _ hp))
  | stop hp hst => exact honly (hst.only hp) (hst.idle (h _ hp))
  | @connect s aif _ _ hp ha =>
      cases ha with
      | noMemory hr hu => exact h
      | done hu hi hc =>
          obtain ⟨hs₁, hlt, -, -⟩ := hi.pair hp
          have h₁ := h.inert hi.inert
          exact (hc.only hs₁).forall_sess SessCore.idle_empty (hc.idle hs₁ hlt (h₁ s hs₁)) h₁
      | unwound hu hi hc hd =>
          obtain ⟨hs₁, hlt, -, -⟩ := hi.pair hp
          have h₁ := h.inert hi.inert
          have ho := (hc.only hs₁).trans hs₁ (.of_frame hd.frame)
          refine ho.forall_sess SessCore.idle_empty ?_ h₁
          rw [hd.sess]
          exact hc.idle hs₁ hlt (h₁ s hs₁)
  | @disconnect s aif _ _ _ _ hp hi hd =>
      obtain ⟨hs₁, hlt, -, -⟩ := hi.pair hp
      have h₁ := h.inert hi.inert
      exact hd.only.forall_sess SessCore.idle_empty (hd.idle hlt (h₁ s hs₁)) h₁

/-- The states of all sessions agree with those of their pairs. -/
def AgreeAll (c : Core) : Prop := ∀ t ∈ c.pool, (c.sess t).Agrees

theorem SessCore.agrees_empty : ({} : SessCore).Agrees := by
  refine ⟨fun r hr => ?_, SessCore.idle_empty⟩
  cases hr

theorem AgreeAll.inert {named : Option ℕ} {c c' : Core} (h : AgreeAll c) (hi : Inert named c c') :
    AgreeAll c' := by
  refine hi.forall_sess SessCore.agrees_empty (fun x y hst _ hg hx => ⟨?_, fun hcl => ?_⟩) h
  · refine hg.forall_state (P := fun st => st = .aifStarted → y.state = .sessionStarted) ?_ ?_
    · rintro st ho rfl
      exact absurd ho (by decide)
    · rw [hst]
      exact hx.starts
  · exact hg.forall_state (fun _ h => h) (hx.idle (hst ▸ hcl))

/-- The session has a started pair. -/
def HasStarted (w : World) (s : ℕ) : Prop := ∃ a ∈ (w.sess s).aifPool, a.state = .aifStarted

instance (w : World) (s : ℕ) : Decidable (HasStarted w s) :=
  inferInstanceAs (Decidable (∃ a ∈ _, _))

/-- `session_prepare` comes to its last assignment. -/
def PrepareSucceeds (s : ℕ) (w : World) : Prop :=
  Ensures noFault (sessionPrepare s) w fun r _ => r = 0

instance (s : ℕ) (w : World) : Decidable (PrepareSucceeds s w) :=
  inferInstanceAs (Decidable (Ensures _ _ _ _))

/-- Of a started session the graph is not prepared again, so that only the devices matter. -/
theorem prepareSucceeds_started {s : ℕ} {w : World} (hst : (w.sess s).state = .sessionStarted) :
    PrepareSucceeds s w ↔ openedCount (w.sess s) ≠ 0 ∧
      Ensures noFault (Prog.forEach (prepareAif s) (List.range (w.sess s).aifPool.length)) w
        fun r _ => r = 0 := by
  have hskip : ∀ d : Direction, ¬ ((w.sess s).streamConfig.dir = d ∧
      (w.sess s).state ≠ .sessionStarted) := fun d h => h.2 hst
  unfold PrepareSucceeds sessionPrepare poolRange
  rw [ensures_bind, ensures_getSess]
  by_cases hopen : openedCount (w.sess s) = 0
  · rw [if_pos hopen, ensures_pure]
    exact iff_of_false (by decide) fun h => h.1 hopen
  · rw [if_neg hopen, and_iff_right hopen]
    dsimp only
    rw [if_neg (hskip .tx), if_neg (hskip .rx)]
    rw [ensures_bind, ensures_pure, if_neg (by decide), ensures_bind, ensures_bind,
      ensures_getSess, ensures_pure, ensures_bind]
    refine ensures_congr fun r w' => ?_
    rw [ensures_ite]
    refine ⟨fun h => ?_, fun hr => ⟨fun hne => absurd hr hne, fun _ => ?_⟩⟩
    · by_contra hr
      exact hr (h.1 hr)
    · rw [ensures_bind, ensures_pure, if_neg (by decide), ensures_bind]
      exact rfl

/-- The session that a call prepares. -/
def Op.prepares? : Op → Option ℕ
  | .prepare s => some s
  | _ => none

/-- The calls that leave no started pair behind: no open fails at an edge, no session with a
started pair is prepared, and none with a started pair is restarted in vain after a
connection. -/
def AgreeHonest (w : World) (call : Call) : Prop :=
  EdgeHonest w call ∧
  (∀ s ∈ call.op.prepares?, s ∈ w.pool → HasStarted w s →
    ¬ PrepareSucceeds s { w with ext := call.ext }) ∧
  (∀ p ∈ call.op.connects?, p.1 ∈ w.pool → HasStarted w p.1 →
    ¬ AifRestartFails p.1 p.2 { w with ext := call.ext })

instance (w : World) (call : Call) : Decidable (AgreeHonest w call) :=
  inferInstanceAs (Decidable (_ ∧ _ ∧ _))

theorem hasStarted_iff {w : World} {s : ℕ} :
    HasStarted w s ↔ ∃ i, (w.core.row s i).state = .aifStarted := by
  constructor
  · rintro ⟨a, ha, hst⟩
    obtain ⟨i, hi, rfl⟩ := List.getElem_of_mem ha
    refine ⟨i, ?_⟩
    rw [core_row, World.aif, List.getD_eq_getElem _ _ hi]
    exact hst
  · rintro ⟨i, hi⟩
    have hlt : i < (w.sess s).aifPool.length := by
      have := w.core.lt_of_row_ne (s := s) (i := i) (by rw [hi]; decide)
      simpa [World.core, SessionObj.core] using this
    rw [core_row, World.aif, List.getD_eq_getElem _ _ hlt] at hi
    exact ⟨_, List.getElem_mem hlt, hi⟩

/-- `aif_obj_get` starts nothing. -/
theorem GetAif.started {s aif i j : ℕ} {c c₁ : Core} (h : GetAif s aif c (0, i) c₁)
    (hj : (c₁.row s j).state = .aifStarted) : ∃ k, (c.row s k).state = .aifStarted := by
  cases h with
  | found h => exact ⟨j, hj⟩
  | noMemory hr => exact absurd rfl hr
  | created h =>
      refine ⟨j, ?_⟩
      by_cases hlt : j < (c.sess s).rows.length
      · simpa [Core.row, Core.addRow, List.getD_eq_getElem?_getD, List.getElem?_append_left hlt]
          using hj
      · rcases Nat.lt_or_eq_of_le (not_lt.mp hlt) with hgt | rfl
        · rw [Core.row, List.getD_eq_default] at hj
          · cases hj
          · simp [Core.addRow]
            omega
        · simp [Core.row, Core.addRow, c.newRow_state aif] at hj

theorem Step.agreeAll (hs : Step { w with ext := call.ext } call.op r c')
    (hc : AgreeHonest w call)
    (hprep : ∀ s, call.op = .prepare s → s ∈ w.pool → HasStarted w s → r ≠ 0)
    (h : AgreeAll w.core) : AgreeAll c' := by
  have hidle : IdleAll c' := hs.idleAll hc.1 fun t ht => (h t ht).idle
  obtain ⟨op, ext⟩ := call
  obtain ⟨-, -, hconn⟩ := hc
  -- What is left to show is about the started pairs of one session.
  have honly : ∀ {s : ℕ} {c : Core}, AgreeAll c → s ∈ c.pool → Only s c c' →
      (c'.sess s).StartsOk → AgreeAll c' := by
    intro s c hc hs ho hst
    exact ho.forall_sess SessCore.agrees_empty ⟨hst, hidle s (ho.pool s hs)⟩ hc
  cases hs with
  | inert hi => exact h.inert hi
  | @«open» s _ _ lost hp hst ho hl =>
      have hfresh := (h s hp).idle.freshlyOpened hst
      exact honly h hp (ho.only hp) (ho.freshlyOpened hp hfresh).startsOk
  | close hp hcl => exact honly h hp (hcl.only hp) (hcl.startsOk (h _ hp))
  | @prepare s _ _ hp hpr =>
      refine honly h hp (hpr.only hp) ?_
      by_cases hr : r = 0
      · refine .of_none fun i hi => ?_
        exact hprep s rfl hp (hasStarted_iff.mpr ⟨i, hpr.startsFrom i hi⟩) hr
      · exact (h s hp).starts.mono hpr.startsFrom (hpr.state_of_ne hr)
  | start hp hst => exact honly h hp (hst.only hp) (hst.startsOk hp fun _ => (h _ hp).starts)
  | stop hp hst => exact honly h hp (hst.only hp) (hst.startsOk (h _ hp).starts)
  | @connect s aif _ _ hp ha =>
      have hgate := hconn (s, aif) rfl hp
      cases ha with
      | noMemory hr hu => exact h
      | done hu hi hc =>
          obtain ⟨hs₁, hlt, -, -⟩ := hi.pair hp
          have h₁ := h.inert hi.inert
          refine honly h₁ hs₁ (hc.only hs₁) (hc.startsOk hs₁ hlt (h₁ s hs₁).starts ?_)
          rintro ⟨j, hj⟩
          exact hgate (hasStarted_iff.mpr (hi.started hj))
      | unwound hu hi hc hd =>
          obtain ⟨hs₁, hlt, -, -⟩ := hi.pair hp
          have h₁ := h.inert hi.inert
          refine honly h₁ hs₁ ((hc.only hs₁).trans hs₁ (.of_frame hd.frame)) ?_
          rw [hd.sess]
          refine hc.startsOk hs₁ hlt (h₁ s hs₁).starts ?_
          rintro ⟨j, hj⟩
          exact hgate (hasStarted_iff.mpr (hi.started hj))
  | @disconnect s aif _ _ _ _ hp hi hd =>
      obtain ⟨hs₁, hlt, -, -⟩ := hi.pair hp
      have h₁ := h.inert hi.inert
      exact honly h₁ hs₁ hd.only (hd.startsOk hlt (h₁ s hs₁).starts)

end

/-! ### Runs -/

/-- A started pair makes the session a started one; a stopped session has no started pair, a closed
one no open pair. -/
theorem SessCore.Agrees.states {x : SessCore} (h : x.Agrees) :
    (∀ r ∈ x.rows, r.state = .aifStarted → x.state = .sessionStarted) ∧
      (x.state = .sessionStopped → ∀ r ∈ x.rows, r.state ≠ .aifStarted) ∧
      (x.state = .sessionClosed → ∀ r ∈ x.rows, r.state.isOpened = false) := by
  refine ⟨h.starts, fun hst r hr hr' => ?_, h.idle⟩
  have := h.starts r hr hr'
  rw [hst] at this
  cases this

theorem exec_agreeAll {w : World} (call : Call) (hc : AgreeHonest w call)
    (h : AgreeAll w.core) : Ensures anyFault (exec call) w fun _ w' => AgreeAll w'.core := by
  refine (exec_step call).with_ok.imp fun r w' hr => ?_
  obtain ⟨hs, hrun⟩ := hr
  refine hs.agreeAll hc (fun s hop hp hst hr => ?_) h
  refine hc.2.1 s (by rw [hop]; rfl) hp hst ?_
  have hexec : Ensures noFault (exec call) w (fun r _ => r = 0) := (ensures_iff_of_ok hrun).mpr hr
  have hpool : s ∈ w.pool := hp
  simpa only [exec, hop, Op.run, withHandle, ensures_bind, ensures_modify, ensures_gets,
    hpool, if_true, PrepareSucceeds] using hexec

/-- **The states agree.**  In every state reached by honest calls, and for every session: a
started pair makes the session a started one, a stopped session has no started pair, and a closed
one has no open pair. -/
theorem states_agree {w w' : World} {calls : List Call} (hw : Initial w)
    (hc : Admits exec AgreeHonest calls w) (hrun : runAll exec calls w = .ok ((), w'))
    {s : ℕ} (hs : s ∈ w'.pool) :
    (∀ a ∈ (w'.sess s).aifPool, a.state = .aifStarted → (w'.sess s).state = .sessionStarted) ∧
      ((w'.sess s).state = .sessionStopped → ∀ a ∈ (w'.sess s).aifPool, a.state ≠ .aifStarted) ∧
      ((w'.sess s).state = .sessionClosed →
        ∀ a ∈ (w'.sess s).aifPool, a.state.isOpened = false) := by
  have hinit : AgreeAll w.core := by
    intro t ht
    rw [show w.core.pool = [] from hw.pool] at ht
    cases ht
  have hagree := (runAll_invariant exec (I := fun w => AgreeAll w.core)
    (fun w call h hc => exec_agreeAll call hc h) calls w hinit hc).of_ok hrun
  have hstates := (hagree s hs).states
  have hrow : ∀ a ∈ (w'.sess s).aifPool, a.row ∈ (w'.core.sess s).rows := fun a ha =>
    List.mem_map_of_mem ha
  refine ⟨fun a ha => hstates.1 _ (hrow a ha), fun hst a ha => hstates.2.1 hst _ (hrow a ha),
    fun hst a ha => hstates.2.2 hst _ (hrow a ha)⟩

/-- A session is opened, started, extended by an interface while it runs, stopped and closed. -/
def wholeLife : List Call :=
  [⟨.aifConnect 0 1 true, []⟩, ⟨.open 0, []⟩, ⟨.prepare 0, []⟩, ⟨.start 0, []⟩,
    ⟨.aifConnect 0 2 true, []⟩, ⟨.stop 0, []⟩, ⟨.prepare 0, []⟩, ⟨.start 0, []⟩]

theorem states_agree_wholeLife :
    ∃ w', runAll exec wholeLife (startUp 4) = .ok ((), w') ∧
      (∃ a ∈ (w'.sess 0).aifPool, a.state = .aifStarted) ∧
      (w'.sess 0).state = .sessionStarted := by
  obtain ⟨_, w', hrun, hs, ha⟩ := Ensures.exists_ok (m := runAll exec wholeLife) (s := startUp 4)
    (Q := fun _ w' => 0 ∈ w'.pool ∧ ∃ a ∈ (w'.sess 0).aifPool, a.state = .aifStarted)
    (by decide +kernel)
  have hagree := states_agree (initial_startUp 4) (by decide +kernel) hrun hs
  obtain ⟨a, ha, hst⟩ := ha
  exact ⟨w', hrun, ⟨a, ha, hst⟩, hagree.1 a ha hst⟩

/-- A started session is prepared. -/
def prepareStarted : List Call :=
  [⟨.aifConnect 0 1 true, []⟩, ⟨.open 0, []⟩, ⟨.prepare 0, []⟩, ⟨.start 0, []⟩, ⟨.prepare 0, []⟩]

theorem states_agree_prepareStarted :
    Ensures noFault (runAll exec prepareStarted) (startUp 4) fun _ w =>
      (w.sess 0).state = .sessionPrepared ∧ (w.aif 0 0).state = .aifStarted := by
  decide +kernel

end Agm
