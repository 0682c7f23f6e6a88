import Agm.RefineSession

/-! # The loops over the interface pool refine their relations

`session_prepare`, `session_start`, `session_stop`, `session_close`, the two halves of
`session_connect_reminder_devices` and the edge functions.  A loop is refined by refining one
turn of it (`Prog.ensures_forEach_until`, `Prog.ensures_forAll_chain`,
`Prog.ensures_forAll_labelled`). -/

namespace Agm

open Prog

section
variable {E : Fault → Prop} {w : World}

theorem core_rowRange (w : World) (s : ℕ) :
    List.range (w.sess s).aifPool.length = w.core.rowRange s := by
  simp [Core.rowRange, World.core, SessionObj.core]

/-! ### Device calls made for a pair -/

/-- A device function that always does the same to its device. -/
theorem onDevice_row {s i : ℕ} {m : DevM ℤ} {f : DevCore → DevCore}
    (hm : ∀ d, Ensures E (onDevice (some d) m) w fun _ w' => w'.core = w.core.onDev d f) :
    Ensures E (onDevice (w.aif s i).devObj m) w fun _ w' => w'.core = w.core.onRowDev s i f := by
  simp only [Core.onRowDev, core_row, Aif.row]
  cases (w.aif s i).devObj with
  | none => rfl
  | some d => exact hm d

/-- A device function that succeeds or fails; a pair without a device is refused. -/
theorem onDevice_row_ok {s i : ℕ} {m : DevM ℤ} {f g : DevCore → DevCore} {P : ℕ → Prop}
    (hm : ∀ d, Ensures E (onDevice (some d) m) w fun r w' =>
      (r ≠ 0 ∧ w'.core = w.core.onDev d f) ∨ (r = 0 ∧ P d ∧ w'.core = w.core.onDev d g)) :
    Ensures E (onDevice (w.aif s i).devObj m) w fun r w' =>
      (r ≠ 0 ∧ w'.core = w.core.onRowDev s i f) ∨
      (r = 0 ∧ ∃ d, (w.core.row s i).dev = some d ∧ P d ∧ w'.core = w.core.onDev d g) := by
  simp only [Core.onRowDev, core_row, Aif.row]
  cases hd : (w.aif s i).devObj with
  | none => exact .inl ⟨by decide, rfl⟩
  | some d =>
      refine (hm d).imp fun r w' h => ?_
      rcases h with h | ⟨hr, hP, h⟩
      · exact .inl h
      · exact .inr ⟨hr, d, rfl, hP, h⟩

/-! ### One turn of each loop -/

theorem prepareAif_ensures (s i : ℕ) :
    Ensures E (prepareAif s i) w fun r w' => PrepareTurn s i w.core r w'.core := by
  have hrow : (w.aif s i).state = (w.core.row s i).state := by rw [core_row]; rfl
  simp only [prepareAif, ensures_bind, ensures_getAif, ensures_ite, ensures_pure, hrow]
  refine ⟨fun hst => ?_, fun hst => .skip hst⟩
  refine (onDevice_row_ok (P := fun _ => True) (f := DevCore.notPrepared) (g := DevCore.prepared)
    fun d => (onDevice_prepare d).imp fun r w' h => ?_).imp fun r w₁ h => ?_
  · exact h.imp_right fun h => ⟨h.1, trivial, h.2⟩
  · rcases h with ⟨hr, h⟩ | ⟨rfl, d, hd, -, h⟩
    · refine ⟨fun _ => ?_, fun h0 => absurd hr h0⟩
      rw [h]
      exact .fail hst hr
    · refine ⟨fun h0 => absurd rfl h0, fun _ => ?_⟩
      refine (setAifState_ensures s i _).imp fun _ w₂ h₂ => ?_
      rw [h₂, h]
      exact .next hst hd

theorem onDev_id (c : Core) (d : ℕ) : c.onDev d id = c := by simp [Core.onDev]

theorem onRowDev_id (c : Core) (s i : ℕ) : c.onRowDev s i id = c := by
  unfold Core.onRowDev
  cases (c.row s i).dev with
  | none => rfl
  | some d => exact onDev_id c d

theorem startAif_ensures (s i : ℕ) :
    Ensures E (startAif s i) w fun r w' => StartTurn s i w.core r w'.core := by
  have hrow : (w.aif s i).state = (w.core.row s i).state := by rw [core_row]; rfl
  simp only [startAif, ensures_bind, ensures_getAif, ensures_ite, ensures_pure, hrow]
  refine ⟨fun hst => ?_, fun hst => .skip (by simpa [AifState.isStartable] using hst)⟩
  have hst' : (w.core.row s i).state.isStartable = true := by
    simpa [AifState.isStartable] using hst
  refine (onDevice_row_ok (f := id) (g := DevCore.started)
    (P := fun d => DeviceState.devPrepared.toNat ≤ (w.core.dev d).state.toNat)
    fun d => (onDevice_start d).imp fun r w' h => ?_).imp fun r w₁ h => ?_
  · exact h.imp_left fun h => ⟨h.1, by rw [h.2, onDev_id]⟩
  · rcases h with ⟨hr, h⟩ | ⟨rfl, d, hd, hp, h⟩
    · refine ⟨fun _ => ?_, fun h0 => absurd hr h0⟩
      rw [h, onRowDev_id]
      exact .fail hst' hr
    · refine ⟨fun h0 => absurd rfl h0, fun _ => ?_⟩
      refine (setAifState_ensures s i _).imp fun _ w₂ h₂ => ?_
      rw [h₂, h]
      exact .next hst' hd hp

theorem stopAif_ensures (s : ℕ) (st : AifState) (i : ℕ) (ret : ℤ) :
    Ensures E (stopAif s st i ret) w fun _ w' => StopTurn st s i w.core w'.core := by
  have hrow : (w.aif s i).state = (w.core.row s i).state := by rw [core_row]; rfl
  simp only [stopAif, ensures_bind, ensures_getAif, ensures_ite, ensures_pure, hrow]
  refine ⟨fun hst => ?_, fun hst => .skip hst⟩
  refine (onDevice_row fun d => onDevice_stop d).imp fun r w₁ h => ?_
  refine (setAifState_ensures s i _).imp fun _ w₂ h₂ => ?_
  rw [h₂, h]
  exact .stop hst

theorem closeAif_ensures (s i : ℕ) (ret : ℤ) :
    Ensures E (closeAif s i ret) w fun _ w' => CloseTurn s i w.core w'.core := by
  have hrow : (w.aif s i).state = (w.core.row s i).state := by rw [core_row]; rfl
  simp only [closeAif, ensures_bind, ensures_getAif, ensures_ite, ensures_pure, hrow]
  refine ⟨fun hst => ?_, fun hst => .skip (by simpa using hst)⟩
  refine (onDevice_row fun d => onDevice_close d).imp fun r w₁ h => ?_
  refine (setAifState_ensures s i _).imp fun _ w₂ h₂ => ?_
  rw [h₂, h]
  exact .close hst

/-! ### The loops -/

theorem prepareLoop_ensures (s : ℕ) (l : List ℕ) :
    Ensures E (forEach (prepareAif s) l) w fun r w' =>
      Until (PrepareTurn s) l w.core r w'.core :=
  (ensures_forEach_until World.core (P := fun _ => True)
    (fun i _ _ => (prepareAif_ensures s i).imp fun _ _ h => ⟨h, trivial⟩) l w trivial).imp
    fun _ _ h => h.1

theorem startLoop_ensures (s : ℕ) (l : List ℕ) :
    Ensures E (forEach (startAif s) l) w fun r w' => Until (StartTurn s) l w.core r w'.core :=
  (ensures_forEach_until World.core (P := fun _ => True)
    (fun i _ _ => (startAif_ensures s i).imp fun _ _ h => ⟨h, trivial⟩) l w trivial).imp
    fun _ _ h => h.1

theorem stopLoop_ensures (s : ℕ) (st : AifState) (l : List ℕ) (ret : ℤ) :
    Ensures E (forAll (stopAif s st) l ret) w fun _ w' => Chain (StopTurn st s) l w.core w'.core :=
  (ensures_forAll_chain World.core (P := fun _ => True)
    (fun i b _ _ => (stopAif_ensures s st i b).imp fun _ _ h => ⟨h, trivial⟩) l ret w trivial).imp
    fun _ _ h => h.1

theorem closeLoop_ensures (s : ℕ) (l : List ℕ) (ret : ℤ) :
    Ensures E (forAll (closeAif s) l ret) w fun _ w' => Chain (CloseTurn s) l w.core w'.core :=
  (ensures_forAll_chain World.core (P := fun _ => True)
    (fun i b _ _ => (closeAif_ensures s i b).imp fun _ _ h => ⟨h, trivial⟩) l ret w trivial).imp
    fun _ _ h => h.1

/-! ### Preparing and stopping -/

variable (hE : ∀ c, E (.crash c))
include hE

omit hE in
theorem Usable.frame {s : ℕ} {c c' : Core} {p : Option ℕ} (h : Usable E c p) (hf : Frame s c c') :
    Usable E c' p :=
  h.congr hf.live

omit hE in
theorem modifySess_state {s : ℕ} (st : SessionState) :
    Ensures E (modifySess s fun sess => { sess with state := st }) w fun _ w' =>
      w'.core = w.core.setState s st := by
  simp only [modifySess, ensures_modify, core_update_sess]
  rfl

omit hE in
theorem modifySess_graph {s : ℕ} (g : Option ℕ) :
    Ensures E (modifySess s fun sess => { sess with graph := g }) w fun _ w' =>
      w'.core = w.core.setGraph s g := by
  simp only [modifySess, ensures_modify, core_update_sess]
  rfl

/-- A graph call that is made under a condition. -/
theorem ensures_onGraph_if {c : Prop} [Decidable c] {p : Option ℕ} {m : View → GraphM ℤ} {r₀ : ℤ}
    (hp : Usable E w.core p) :
    Ensures E (if c then onGraph p m else pure r₀) w fun _ w' => w'.core = w.core := by
  rw [ensures_ite]
  exact ⟨fun _ => (onGraph_quiet hE hp).imp fun _ _ h => h.1, fun _ => rfl⟩

theorem sessionPrepare_ensures (s : ℕ) (hg : Usable E w.core (w.core.sess s).graph) :
    Ensures E (sessionPrepare s) w fun r w' => Prepare s w.core r w'.core := by
  simp only [sessionPrepare, ensures_bind, ensures_getSess]
  rw [ensures_ite]
  refine ⟨fun _ => .early (by decide), fun hn => ?_⟩
  rw [← core_openedCount] at hn
  rw [ensures_bind]
  refine (ensures_onGraph_if hE hg).imp fun r w₁ h₁ => ?_
  rw [ensures_ite]
  refine ⟨fun hr => ?_, fun _ => ?_⟩
  · simp only [ensures_pure]
    rw [h₁]
    exact .early hr
  simp only [ensures_bind, ensures_poolRange, core_rowRange, h₁]
  refine (prepareLoop_ensures s _).imp fun r w₂ h₂ => ?_
  rw [h₁] at h₂
  rw [ensures_ite]
  refine ⟨fun hr => .late hn hr h₂, fun hr => ?_⟩
  have h0 : r = 0 := not_not.mp hr
  subst h0
  have hf : Frame s w.core w₂.core := frame_of_until (fun _ _ _ _ => PrepareTurn.frame) h₂
  rw [ensures_bind]
  refine (ensures_onGraph_if hE (hg.frame hf)).imp fun r w₃ h₃ => ?_
  rw [ensures_ite]
  refine ⟨fun hr => ?_, fun _ => ?_⟩
  · simp only [ensures_pure]
    rw [h₃]
    exact .late hn hr h₂
  · rw [ensures_bind]
    refine (modifySess_state _).imp fun _ w₄ h₄ => ?_
    rw [ensures_pure, h₄, h₃]
    exact .prepared hn h₂

theorem sessionStop_ensures (s : ℕ) (hg : Usable E w.core (w.core.sess s).graph) :
    Ensures E (sessionStop s) w fun r w' => Stop s w.core r w'.core := by
  simp only [sessionStop, ensures_bind, ensures_getSess]
  rw [ensures_ite]
  refine ⟨fun _ => .early (by decide), fun hs => ?_⟩
  rw [ensures_bind]
  refine (ensures_onGraph_if hE hg).imp fun r w₁ h₁ => ?_
  rw [ensures_ite]
  refine ⟨fun hr => ?_, fun _ => ?_⟩
  · simp only [ensures_pure]
    rw [h₁]
    exact .early hr
  simp only [ensures_bind, ensures_poolRange, core_rowRange, h₁]
  refine (stopLoop_ensures s _ _ _).imp fun r w₂ h₂ => ?_
  rw [h₁] at h₂
  have hf : Frame s w.core w₂.core := frame_of_chain (fun _ _ _ => StopTurn.frame) h₂
  refine (ensures_onGraph_if hE (hg.frame hf)).imp fun r w₃ h₃ => ?_
  refine (modifySess_state _).imp fun _ w₄ h₄ => ?_
  rw [ensures_pure, h₄, h₃]
  exact .stopped (not_not.mp hs) h₂

theorem sessionClose_ensures (s : ℕ) (hg : Usable E w.core (w.core.sess s).graph) :
    Ensures E (sessionClose s) w fun r w' => Close s w.core r w'.core := by
  simp only [sessionClose, ensures_bind, ensures_getSess]
  rw [ensures_ite]
  refine ⟨fun _ => .already (by decide), fun hs => ?_⟩
  rw [ensures_bind]
  refine (ensures_onGraph_if hE hg).imp fun r w₁ h₁ => ?_
  rw [ensures_bind]
  refine (graphClose_ensures hE (h₁ ▸ hg)).imp fun r w₂ h₂ => ?_
  rw [h₁] at h₂
  rw [ensures_bind]
  refine (modifySess_graph _).imp fun _ w₃ h₃ => ?_
  simp only [ensures_bind, ensures_poolRange, core_rowRange, ensures_pure]
  have hrange : w₃.core.rowRange s = w.core.rowRange s := by
    rw [h₃]
    generalize w₂.core = c₂ at h₂
    cases h₂ <;> simp [Core.rowRange, Core.setGraph, Core.killGraph]
  rw [hrange]
  refine (closeLoop_ensures s _ _).imp fun r w₄ h₄ => ?_
  rw [h₃] at h₄
  refine (modifySess_state _).imp fun _ w₅ h₅ => ?_
  rw [h₅]
  exact .closed hs h₂ h₄

/-! ### Starting -/

/-- The checks before the devices are started fail. -/
def GateFails (s : ℕ) (w : World) : Prop := Ensures noFault (startGate s) w fun r _ => r ≠ 0

omit hE in
instance (s : ℕ) (w : World) : Decidable (GateFails s w) :=
  inferInstanceAs (Decidable (Ensures noFault (startGate s) w fun r _ => r ≠ 0))

omit hE in
theorem Peek.live {c c₁ : Core} (h : Peek c c₁) : c₁.live = c.live := by
  cases h with
  | same => rfl
  | created h => rfl

omit hE in
theorem Peek.sess {c c₁ : Core} (h : Peek c c₁) {s : ℕ} (hs : s ∈ c.pool) :
    c₁.sess s = c.sess s := by
  cases h with
  | same => rfl
  | created h =>
      refine c.sess_setSess_of_ne ?_ _
      rintro rfl
      exact h hs

theorem checkLoopback_ensures (s : ℕ) :
    Ensures E (checkLoopback s) w fun _ w' => Peek w.core w'.core := by
  simp only [checkLoopback, ensures_bind, ensures_getSess, ensures_ite, ensures_pure]
  refine ⟨fun _ => ?_, fun _ => .same⟩
  refine (sessionObjGet_ensures hE _).imp fun r w₁ h => ?_
  have hp : Peek w.core w₁.core := by
    generalize w₁.core = c₁ at h
    cases h with
    | found h => exact .same
    | noMemory hr => exact .same
    | created h => exact .created h
  exact ⟨fun _ => hp, fun _ => hp⟩

theorem checkEcRef_quiet (s : ℕ) :
    Ensures E (checkEcRef s) w fun _ w' => w'.core = w.core := by
  simp only [checkEcRef, deviceGetObj, ensures_bind, ensures_getSess, ensures_ite, ensures_gets,
    ensures_pure]
  refine ⟨fun _ => ⟨fun _ => ⟨fun _ => trivial, fun h => absurd (by decide) h⟩, fun _ => ?_⟩,
    fun _ => trivial⟩
  refine ⟨fun h => absurd rfl h, fun _ => ?_⟩
  cases (if (w.sess s).ecRefAifId < w.numAudioIntfs then some (w.sess s).ecRefAifId
    else w.pastEnd) with
  | none => exact hE _
  | some d => exact rfl

theorem startGate_ensures (s : ℕ) (hs : s ∈ w.core.pool)
    (hg : Usable E w.core (w.core.sess s).graph) :
    Ensures E (startGate s) w fun r w' =>
      Peek w.core w'.core ∧ (r = 0 → w.core.openedCount s ≠ 0) := by
  simp only [startGate, ensures_bind, ensures_getSess, ensures_ite, ensures_pure]
  refine ⟨fun _ => ⟨.same, fun h => absurd h (by decide)⟩, fun hn => ⟨fun _ => ?_, fun _ => ?_⟩⟩
  · rw [← core_openedCount] at hn
    refine (checkLoopback_ensures hE s).imp fun r w₁ h₁ => ⟨fun _ => ⟨h₁, fun _ => hn⟩, fun _ => ?_⟩
    refine (checkEcRef_quiet hE s).imp fun r w₂ h₂ => ⟨fun _ => ?_, fun _ => ?_⟩
    · rw [h₂]
      exact ⟨h₁, fun _ => hn⟩
    · have hg₂ : Usable E w₂.core (w₂.core.sess s).graph := by
        rw [h₂, h₁.sess hs]
        exact hg.congr h₁.live
      refine (onGraph_quiet hE hg₂).imp fun r w₃ h₃ => ?_
      rw [h₃.1, h₂]
      exact ⟨h₁, fun _ => hn⟩
  · rw [← core_openedCount] at hn
    exact ⟨.same, fun _ => hn⟩

theorem sessionStart_ensures (s : ℕ) (hs : s ∈ w.core.pool)
    (hg : Usable E w.core (w.core.sess s).graph) :
    Ensures E (sessionStart s) w fun r w' => Start (GateFails s w) s w.core r w'.core := by
  simp only [sessionStart, ensures_bind]
  refine (startGate_ensures hE s hs hg).with_ok.imp fun r w₁ h => ?_
  obtain ⟨⟨hp, hn⟩, hrun⟩ := h
  have hgate : GateFails s w ↔ r ≠ 0 := ensures_iff_of_ok hrun
  rw [ensures_ite]
  refine ⟨fun hr => .early (hgate.mpr hr) hr hp, fun hr => ?_⟩
  have hgate' : ¬ GateFails s w := fun h => hr (hgate.mp h)
  have hn := hn (not_not.mp hr)
  have hrange : w₁.core.rowRange s = w.core.rowRange s := by
    simp only [Core.rowRange, hp.sess hs]
  have hg₁ : Usable E w₁.core (w₁.core.sess s).graph := by
    rw [hp.sess hs]
    exact hg.congr hp.live
  simp only [startDevices, ensures_bind, ensures_poolRange, core_rowRange, hrange]
  refine (startLoop_ensures s _).imp fun r₂ w₂ h₂ => ?_
  have hf₂ : Frame s w₁.core w₂.core := frame_of_until (fun _ _ _ _ => StartTurn.frame) h₂
  have hg₂ : Usable E w₂.core (w₂.core.sess s).graph := by
    rw [hf₂.graph]
    exact hg₁.frame hf₂
  -- What follows the loop when `r₃` is the code it is left with.
  have hrest : ∀ (r₃ : ℤ) (w₃ : World), w₃.core = w₂.core → (r₃ = 0 → r₂ = 0) →
      Ensures E (if r₃ ≠ 0 then do
          unwindStart s
          pure r₃
        else do
          modifySess s fun sess => { sess with state := .sessionStarted }
          pure 0) w₃ fun r w' => Start (GateFails s w) s w.core r w'.core := by
    intro r₃ w₃ h₃ hr₃
    have hrange₃ : w₃.core.rowRange s = w.core.rowRange s := by
      rw [h₃, Core.rowRange, hf₂.length, ← hrange]
      rfl
    rw [ensures_ite]
    refine ⟨fun hne => ?_, fun he => ?_⟩
    · simp only [unwindStart, ensures_bind, ensures_getSess, ensures_pure, ensures_poolRange,
        core_rowRange]
      have hg₃ : Usable E w₃.core (w₃.core.sess s).graph := by
        rw [h₃]
        exact hg₂
      refine (ensures_onGraph_if hE hg₃).imp fun _ w₄ h₄ => ?_
      rw [h₄, hrange₃]
      refine (stopLoop_ensures s _ _ _).imp fun _ w₅ h₅ => ?_
      rw [h₄, h₃] at h₅
      exact .unwound hgate' hn hne hp h₂ h₅
    · rw [ensures_bind]
      refine (modifySess_state _).imp fun _ w₄ h₄ => ?_
      have h0 : r₂ = 0 := hr₃ (not_not.mp he)
      subst h0
      rw [ensures_pure, h₄, h₃]
      exact .started hgate' hn hp h₂
  rw [ensures_ite]
  refine ⟨fun hne => ?_, fun he => ?_⟩
  · simp only [ensures_pure]
    exact hrest r₂ w₂ rfl fun h => absurd h hne
  · rw [ensures_bind, ensures_getSess, ensures_ite]
    refine ⟨fun _ => ?_, fun _ => ?_⟩
    · refine (onGraph_quiet hE hg₂).imp fun r₃ w₃ h₃ => ?_
      exact hrest r₃ w₃ h₃.1 fun _ => not_not.mp he
    · simp only [ensures_pure]
      exact hrest 0 w₂ rfl fun _ => not_not.mp he

end

end Agm
