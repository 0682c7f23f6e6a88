import Agm.Keeps

/-! # A call touches one session

Every relation of `Agm.Steps` leaves all sessions but one as they are, creates at most empty
sessions, and keeps the interfaces and the devices of the pairs.  `Only s c c'` says this, so that
an invariant about each session needs to be looked at for the session that is called
(`Only.forall_sess`).

The second half follows the loops: after the loops at `unwind` and in `session_close` no pair
of the session is open, and after those that stop devices none is started. -/

namespace Agm

open Prog

/-- From `c` to `c'` only the session `s` moved, and new sessions are empty. -/
structure Only (s : ℕ) (c c' : Core) : Prop where
  pool : ∀ t ∈ c.pool, t ∈ c'.pool
  others : ∀ t ∈ c.pool, t ≠ s → c'.sess t = c.sess t
  fresh : ∀ t ∈ c'.pool, t ∉ c.pool → c'.sess t = {}
  numAudioIntfs : c'.numAudioIntfs = c.numAudioIntfs
  pastEnd : c'.pastEnd = c.pastEnd
  keys : (c'.sess s).rows.map (fun r => (r.aifId, r.dev)) =
    (c.sess s).rows.map (fun r => (r.aifId, r.dev))

namespace Only

variable {s : ℕ} {c c₁ c₂ : Core}

theorem refl (s : ℕ) (c : Core) : Only s c c :=
  ⟨fun _ h => h, fun _ _ _ => rfl, fun _ h hn => absurd h hn, rfl, rfl, rfl⟩

theorem trans (hs : s ∈ c.pool) (h : Only s c c₁) (h' : Only s c₁ c₂) : Only s c c₂ where
  pool t ht := h'.pool t (h.pool t ht)
  others t ht hne := (h'.others t (h.pool t ht) hne).trans (h.others t ht hne)
  fresh t ht hn := by
    by_cases h₁ : t ∈ c₁.pool
    · have hne : t ≠ s := by
        rintro rfl
        exact hn hs
      rw [h'.others t h₁ hne]
      exact h.fresh t h₁ hn
    · exact h'.fresh t ht h₁
  numAudioIntfs := h'.numAudioIntfs.trans h.numAudioIntfs
  pastEnd := h'.pastEnd.trans h.pastEnd
  keys := h'.keys.trans h.keys

theorem of_frame (h : Frame s c c₁) : Only s c c₁ where
  pool t ht := by
    rw [h.pool]
    exact ht
  others t _ hne := h.others t hne
  fresh t ht hn := absurd (h.pool ▸ ht) hn
  numAudioIntfs := h.numAudioIntfs
  pastEnd := h.pastEnd
  keys := h.keys

/-- The session is replaced by one with the same pairs. -/
theorem setSess {x : SessCore} (hx : x.rows = (c.sess s).rows) : Only s c (c.setSess s x) where
  pool _ ht := ht
  others _ _ hne := c.sess_setSess_of_ne hne x
  fresh _ ht hn := absurd ht hn
  numAudioIntfs := rfl
  pastEnd := rfl
  keys := by rw [Core.sess_setSess_self, hx]

theorem setState (s : ℕ) (c : Core) (st : SessionState) : Only s c (c.setState s st) := setSess rfl

theorem setGraph (s : ℕ) (c : Core) (g : Option ℕ) : Only s c (c.setGraph s g) := setSess rfl

/-- The sessions are the same. -/
theorem of_sess (hp : c₁.pool = c.pool) (hs : c₁.sess = c.sess)
    (hn : c₁.numAudioIntfs = c.numAudioIntfs) (he : c₁.pastEnd = c.pastEnd) : Only s c c₁ where
  pool t ht := by
    rw [hp]
    exact ht
  others t _ _ := by rw [hs]
  fresh t ht hn := absurd (hp ▸ ht) hn
  numAudioIntfs := hn
  pastEnd := he
  keys := by rw [hs]

theorem addSess {t : ℕ} (hs : s ∈ c.pool) (ht : t ∉ c.pool) : Only s c (c.addSess t) where
  pool u hu := List.mem_append_left _ hu
  others u hu _ := by
    refine c.sess_setSess_of_ne ?_ _
    rintro rfl
    exact ht hu
  fresh u hu hn := by
    have he : u = t := by
      rcases List.mem_append.mp hu with h | h
      · exact absurd h hn
      · exact List.mem_singleton.mp h
    subst he
    exact Function.update_self ..
  numAudioIntfs := rfl
  pastEnd := rfl
  keys := by
    have hne : s ≠ t := by
      rintro rfl
      exact ht hs
    rw [show (c.addSess t).sess s = c.sess s from c.sess_setSess_of_ne hne _]

/-- What holds of every session, of an empty one and of the one that moved, holds of every
session. -/
theorem forall_sess {P : SessCore → Prop} (h : Only s c c₁) (h0 : P {}) (hs : P (c₁.sess s))
    (hc : ∀ t ∈ c.pool, P (c.sess t)) : ∀ t ∈ c₁.pool, P (c₁.sess t) := by
  intro t ht
  by_cases hts : t = s
  · subst hts
    exact hs
  by_cases hold : t ∈ c.pool
  · rw [h.others t hold hts]
    exact hc t hold
  · rw [h.fresh t ht hold]
    exact h0

end Only

section
variable {s i n : ℕ} {c c' : Core} {r : ℤ} (hs : s ∈ c.pool)
include hs

/-! ### The relations -/

theorem Peek.only (h : Peek c c') : Only s c c' := by
  cases h with
  | same => exact .refl s c
  | created h => exact .addSess hs h

theorem SetEdge.only {kind : EdgeKind} {id : ℕ} {en : Bool} (h : SetEdge s kind id en c r c') :
    Only s c c' := by
  cases h with
  | early hr hp => exact hp.only hs
  | called hp hg => exact (hp.only hs).trans hs (.of_sess rfl rfl rfl rfl)

theorem OpenEdges.only (h : OpenEdges s c r c') : Only s c c' := by
  have hedge : ∀ {kind setting r} {c c' : Core}, s ∈ c.pool → OpenEdge s kind setting c r c' →
      Only s c c' := by
    intro kind setting r c c' hs h
    cases h with
    | off h => exact .refl s c
    | on h he => exact he.only hs
  cases h with
  | loopback hr hl => exact hedge hs hl
  | ecRef hl he =>
      have h₁ := hedge hs hl
      exact h₁.trans hs (hedge (h₁.pool s hs) he)

omit hs in
theorem CloseGraph.only {p : Option ℕ} (h : CloseGraph p c r c') : Only s c c' := by
  cases h with
  | null hp hr => exact .refl s c
  | closed hp => exact .of_sess rfl rfl rfl rfl

omit hs in
theorem Joined.only (h : Joined s n c c') : Only s c c' := by
  cases h with
  | same => exact .refl s c
  | opened hn hst =>
      have h := Only.setGraph s c (some c.nextGraph)
      exact ⟨h.pool, h.others, h.fresh, h.numAudioIntfs, h.pastEnd, h.keys⟩

theorem Connect.only {cleans : Prop} (h : Connect cleans s i n c r c') : Only s c c' := by
  have hdev : ∀ {c : Core} {d : ℕ} {f : DevCore → DevCore}, Only s c (c.onDev d f) := by
    intro c d f
    exact .of_sess rfl rfl rfl rfl
  cases h with
  | refused hr h => exact .refl s c
  | undone hr h hd => exact hdev.trans hs hdev
  | cleaned hr h hd hn hj hg =>
      refine (hdev.trans hs hj.only).trans hs ?_
      exact .of_sess rfl rfl rfl rfl
  | connected h hd hj hg => exact hdev.trans hs hj.only

theorem Prepare.only (h : Prepare s c r c') : Only s c c' := by
  cases h with
  | early hr => exact .refl s c
  | late hn hr hu => exact .of_frame (frame_of_until (fun _ _ _ _ => PrepareTurn.frame) hu)
  | prepared hn hu =>
      have hf := frame_of_until (fun _ _ _ _ => PrepareTurn.frame) hu
      exact (Only.of_frame hf).trans hs (.setState s _ _)

theorem Start.only {gate : Prop} (h : Start gate s c r c') : Only s c c' := by
  cases h with
  | early h hr hp => exact hp.only hs
  | unwound h hn hr hp hu hc =>
      have hf := (frame_of_until (fun _ _ _ _ => StartTurn.frame) hu).trans
        (frame_of_chain (fun _ _ _ => StopTurn.frame) hc)
      exact (hp.only hs).trans hs (.of_frame hf)
  | started h hn hp hu =>
      have hf := frame_of_until (fun _ _ _ _ => StartTurn.frame) hu
      exact ((hp.only hs).trans hs (.of_frame hf)).trans hs (.setState s _ _)

theorem Stop.only (h : Stop s c r c') : Only s c c' := by
  cases h with
  | early hr => exact .refl s c
  | stopped hst hc =>
      have hf := frame_of_chain (fun _ _ _ => StopTurn.frame) hc
      exact (Only.of_frame hf).trans hs (.setState s _ _)

theorem Close.only (h : Close s c r c') : Only s c c' := by
  cases h with
  | already hr => exact .refl s c
  | closed hst hg hc =>
      have hf := frame_of_chain (fun _ _ _ => CloseTurn.frame) hc
      have h₁ := (CloseGraph.only (s := s) hg).trans hs (.setGraph s _ none)
      exact (h₁.trans hs (.of_frame hf)).trans hs (.setState s _ _)

theorem OpenFirst.only {cleans : Prop} (h : OpenFirst cleans s c r c') : Only s c c' := by
  cases h with
  | noAif hr hi h => exact .refl s c
  | failed hr hi hc => exact hc.only hs
  | opened hi hc => exact (hc.only hs).trans hs (.of_frame (.setRow _ _ _))

theorem Unwind.only {lost : ℕ → Prop} (h : Unwind lost s c r c') : Only s c c' := by
  obtain ⟨hc, hg⟩ := h
  have hf := frame_of_chain (fun _ _ _ h => UnwindTurn.frame h) hc
  exact ((Only.of_frame hf).trans hs (CloseGraph.only hg)).trans hs (.setGraph s _ none)

theorem OpenSteps.only {b : OpenBranches} (h : OpenSteps b s c r c') : Only s c c' := by
  have hloop : ∀ {r₂ : ℤ} {c₁ c₂ : Core}, OpenFirst b.cleans s c 0 c₁ →
      Reminders s (c.rowRange s) 1 c₁ r₂ c₂ → Only s c c₂ ∧ s ∈ c₂.pool := by
    intro r₂ c₁ c₂ h₁ h₂
    have ho := (h₁.only hs).trans hs (.of_frame (h₂.frame (by decide)))
    exact ⟨ho, ho.pool s hs⟩
  cases h with
  | first hr h₁ hu he => exact h₁.only hs
  | unwound hr h₁ h₂ hr₂ h₃ hu hsil he =>
      obtain ⟨ho, hs₂⟩ := hloop h₁ h₂
      exact ho.trans hs (h₃.only hs₂)
  | resumed h₁ h₂ hr₂ h₃ hu hsil he h₄ =>
      obtain ⟨ho, hs₂⟩ := hloop h₁ h₂
      have ho₃ := ho.trans hs (h₃.only hs₂)
      have ho₄ := ho₃.trans hs (h₄.only (ho₃.pool s hs))
      split_ifs with hr
      · exact ho₄.trans hs (.setState s _ _)
      · exact ho₄
  | edges hr h₁ h₂ h₃ hu he =>
      obtain ⟨ho, hs₂⟩ := hloop h₁ h₂
      exact ho.trans hs (h₃.only hs₂)
  | opened h₁ h₂ h₃ hu he =>
      obtain ⟨ho, hs₂⟩ := hloop h₁ h₂
      exact (ho.trans hs (h₃.only hs₂)).trans hs (.setState s _ _)

theorem HotConnect.only {cleans gate u} (h : HotConnect cleans gate s i c r u c') : Only s c c' := by
  have hconn : ∀ {c₁ : Core}, Connect cleans s i (c.openedCount s) c 0 c₁ →
      Only s c (c₁.setRow s i .aifOpened) ∧ s ∈ (c₁.setRow s i .aifOpened).pool := by
    intro c₁ hc
    have ho := (hc.only hs).trans hs (.of_frame (.setRow c₁ i .aifOpened))
    exact ⟨ho, ho.pool s hs⟩
  cases h with
  | already hr => exact .refl s c
  | waiting hst hi => exact .of_frame (.setRow c i _)
  | failed hst hi hr hc => exact hc.only hs
  | opened hst hi hc => exact (hconn hc).1
  | prepareFailed hst hi hc hr hp => exact (hconn hc).1.trans hs (hp.only (hconn hc).2)
  | prepared hst hi hc hp => exact (hconn hc).1.trans hs (hp.only (hconn hc).2)
  | startFailed hst hi hc hp hr hstart =>
      have ho := (hconn hc).1.trans hs (hp.only (hconn hc).2)
      exact ho.trans hs (hstart.only (ho.pool s hs))
  | started hst hi hc hp hstart =>
      have ho := (hconn hc).1.trans hs (hp.only (hconn hc).2)
      exact ho.trans hs (hstart.only (ho.pool s hs))

omit hs in
theorem AifDisconnect.only {lost : Prop} (h : AifDisconnect lost s i c r c') : Only s c c' := by
  cases h with
  | already hr => exact .refl s c
  | forgotten hst hi => exact .of_frame ((Frame.setRow c i _).trans (.setRow _ i _))
  | disconnected hst hi hd =>
      have hf := (Frame.setRow (s := s) c i .aifClose).trans hd.frame
      split_ifs with hr
      · exact .of_frame (hf.trans (.setRow _ i _))
      · exact .of_frame hf

end

/-! ### Pairs after a loop -/

section
variable {s i n : ℕ} {c c' : Core} {r : ℤ}

/-- Pairs and positions: a position without a pair counts as closed. -/
theorem Core.forall_rows_iff {P : AifState → Prop} (h0 : P .aifClosed) :
    (∀ x ∈ (c.sess s).rows, P x.state) ↔ ∀ i, P (c.row s i).state := by
  constructor
  · intro h i
    by_cases hi : i < (c.sess s).rows.length
    · exact h _ (c.mem_of_row hi)
    · rw [Core.row, List.getD_eq_default _ _ (not_lt.mp hi)]
      exact h0
  · intro h x hx
    obtain ⟨i, -, rfl⟩ := c.exists_row_of_mem hx
    exact h i

theorem Core.mem_rowRange (h : (c.row s i).state ≠ .aifClosed) : i ∈ c.rowRange s :=
  List.mem_range.mpr (c.lt_of_row_ne h)

/-- The state of a pair of the session after one was assigned. -/
theorem Core.state_setRow (c : Core) {j : ℕ} (st : AifState) (hi : i < (c.sess s).rows.length) :
    ((c.setRow s i st).row s j).state = if j = i then st else (c.row s j).state := by
  by_cases hj : j = i
  · subst hj
    rw [if_pos rfl, c.row_setRow_self st hi]
  · rw [if_neg hj, c.row_setRow_of_ne st (.inr hj)]

/-- The same after a move of the device of the pair. -/
theorem Core.state_onRowDev_setRow (c : Core) {j : ℕ} (f : DevCore → DevCore) (st : AifState)
    (hi : (c.row s i).state ≠ .aifClosed) :
    (((c.onRowDev s i f).setRow s i st).row s j).state =
      if j = i then st else (c.row s j).state := by
  have hlen : i < ((c.onRowDev s i f).sess s).rows.length := by
    rw [(Frame.onRowDev (s := s) c i f).length]
    exact c.lt_of_row_ne hi
  rw [Core.state_setRow _ st hlen, Core.row_onRowDev]

/-- A loop that ends `P` for every pair it visits ends it for all. -/
theorem none_of_chain {P : AifState → Prop} {T : ℕ → Core → Core → Prop} {l : List ℕ}
    (hT : ∀ i c c', T i c c' → ¬ P (c'.row s i).state ∧
      ∀ j, j ≠ i → P (c'.row s j).state → P (c.row s j).state)
    (h : Chain T l c c') (hl : ∀ j, P (c.row s j).state → j ∈ l) (j : ℕ) :
    ¬ P (c'.row s j).state := by
  have hrest := h.visits (I := fun l c => ∀ j, P (c.row s j).state → j ∈ l) ?_ hl
  · intro hj
    exact List.not_mem_nil (hrest j hj)
  · intro i is c c' hI ht j hj
    have hne : j ≠ i := by
      rintro rfl
      exact (hT j c c' ht).1 hj
    exact (List.mem_cons.mp (hI j ((hT i c c' ht).2 j hne hj))).resolve_left hne

theorem StopTurn.ends {st : AifState} (hst : st ≠ .aifStarted) (ht : StopTurn st s i c c') :
    (c'.row s i).state ≠ .aifStarted ∧
      ∀ j, j ≠ i → (c'.row s j).state = .aifStarted → (c.row s j).state = .aifStarted := by
  cases ht with
  | skip h => exact ⟨h, fun _ _ h => h⟩
  | stop h =>
      have hi : (c.row s i).state ≠ .aifClosed := by
        rw [h]
        decide
      refine ⟨?_, fun j hj => ?_⟩
      · rw [c.state_onRowDev_setRow _ _ hi, if_pos rfl]
        exact hst
      · rw [c.state_onRowDev_setRow _ _ hi, if_neg hj]
        exact id

theorem CloseTurn.ends (ht : CloseTurn s i c c') :
    ¬ (c'.row s i).state.isOpened = true ∧
      ∀ j, j ≠ i → (c'.row s j).state.isOpened = true → (c.row s j).state.isOpened = true := by
  cases ht with
  | skip h => exact ⟨by rw [h]; decide, fun _ _ h => h⟩
  | close h =>
      have hi : (c.row s i).state ≠ .aifClosed := by
        intro e
        rw [e] at h
        exact absurd h (by decide)
      refine ⟨?_, fun j hj => ?_⟩
      · rw [c.state_onRowDev_setRow _ _ hi, if_pos rfl]
        decide
      · rw [c.state_onRowDev_setRow _ _ hi, if_neg hj]
        exact id

theorem UnwindTurn.ends {lost : Prop} (ht : UnwindTurn lost s i c c') :
    (c'.row s i).state ≠ .aifOpened ∧
      ∀ j, (c'.row s j).state = (c.row s j).state ∨ (c'.row s j).state = .aifOpen := by
  cases ht with
  | skip h hl => exact ⟨h, fun _ => .inl rfl⟩
  | close h hd =>
      have hi : i < (c.sess s).rows.length := c.lt_of_row_ne (by rw [h]; decide)
      have hf := hd.frame
      have hrows : ∀ {c₁ : Core} {r₁ : ℤ}, Disconnect lost s i c r₁ c₁ →
          ∀ j, c₁.row s j = c.row s j := by
        intro c₁ r₁ hd j
        cases hd with
        | lost h hr => rfl
        | closed h hd => rfl
      refine ⟨?_, fun j => ?_⟩
      · rw [Core.state_setRow _ _ (hf.length ▸ hi), if_pos rfl]
        decide
      · rw [Core.state_setRow _ _ (hf.length ▸ hi), hrows hd]
        split_ifs with hj
        · exact .inr rfl
        · exact .inl rfl

end

end Agm
