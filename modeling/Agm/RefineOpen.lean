import Agm.RefineLoops

/-! # Opening a session refines its relation

`session_obj_open` connects the first waiting interface, then the others with a loop that has
its own `unwind`, and then adds the edges.  The branches it takes are predicates of the state
before the call: `FirstCleansUp`, `Unwinds`, `Silent`, `EdgesFail`, and `UnwindLosesNone` for the
turns of the loop at `unwind`. -/

namespace Agm

open Prog

/-! ### Branches -/

/-- The first connection closes its graph at `graph_cleanup`. -/
def FirstCleansUp (s : ℕ) (w : World) : Prop :=
  match w.core.firstOpen s with
  | some i => CleansUp s i 0 w
  | none => False

instance (s : ℕ) (w : World) : Decidable (FirstCleansUp s w) :=
  match h : w.core.firstOpen s with
  | some i => decidable_of_iff (CleansUp s i 0 w) (by simp [FirstCleansUp, h])
  | none => isFalse (by simp [FirstCleansUp, h])

/-- The loop over the other interfaces goes to `unwind`. -/
def Unwinds (s : ℕ) (w : World) : Prop :=
  Ensures noFault (sessionOpenWithFirstDevice s) w fun r w₁ => r = 0 ∧
    Ensures noFault (openReminders s) w₁ fun r _ => r ≠ 0

instance (s : ℕ) (w : World) : Decidable (Unwinds s w) :=
  inferInstanceAs (Decidable (Ensures _ _ _ _))

/-- The graph is closed at `unwind` without an error, so that the open goes on. -/
def Silent (s : ℕ) (w : World) : Prop :=
  Ensures noFault (sessionOpenWithFirstDevice s) w fun r w₁ => r = 0 ∧
    Ensures noFault (openReminders s) w₁ fun r w₂ => r ≠ 0 ∧
      Ensures noFault (unwindReminders s) w₂ fun r _ => r = 0

instance (s : ℕ) (w : World) : Decidable (Silent s w) :=
  inferInstanceAs (Decidable (Ensures _ _ _ _))

/-- An edge cannot be added to the connected session. -/
def EdgesFail (s : ℕ) (w : World) : Prop :=
  Ensures noFault (sessionOpenWithFirstDevice s) w fun r w₁ => r = 0 ∧
    Ensures noFault (openReminders s) w₁ fun r w₂ => r = 0 ∧
      Ensures noFault (openEdges s) w₂ fun r _ => r ≠ 0

instance (s : ℕ) (w : World) : Decidable (EdgesFail s w) :=
  inferInstanceAs (Decidable (Ensures _ _ _ _))

/-- No edge fails that was not asked for. -/
theorem openEdges_asked {s : ℕ} {w : World}
    (h : Ensures noFault (openEdges s) w fun r _ => r ≠ 0) :
    (w.sess s).loopbackState = true ∨ (w.sess s).ecRefState = true := by
  by_contra hnone
  obtain ⟨hloop, hec⟩ := not_or.mp hnone
  unfold openEdges openLoopback openEcRef at h
  simp only [ensures_bind, ensures_getSess, hloop, hec, Bool.false_eq_true, if_false,
    ensures_pure, ne_eq, not_true_eq_false] at h

/-- A turn of the loop at `unwind` that leaves its device open. -/
def TurnLoses (s i : ℕ) (w : World) : Prop := (w.aif s i).state = .aifOpened ∧ Loses s i 1 w

instance (s i : ℕ) (w : World) : Decidable (TurnLoses s i w) :=
  inferInstanceAs (Decidable (_ ∧ _))

/-- Every turn of the loop at `unwind` closes its device. -/
def UnwindLosesNone (s : ℕ) (w : World) : Prop :=
  Ensures anyFault (sessionOpenWithFirstDevice s) w fun r w₁ => r = 0 →
    Ensures anyFault (openReminders s) w₁ fun r w₂ => r ≠ 0 →
      Turns (unwindReminder s) (fun i w => ¬ TurnLoses s i w)
        (List.range (w₂.sess s).aifPool.length) 0 w₂

instance (s : ℕ) (w : World) : Decidable (UnwindLosesNone s w) :=
  inferInstanceAs (Decidable (Ensures _ _ _ _))

section
variable {E : Fault → Prop} {w : World} (hE : ∀ c, E (.crash c))
include hE

/-! ### Connecting the interfaces -/

omit hE in
theorem core_firstOpen (w : World) (s : ℕ) :
    w.core.firstOpen s = (w.sess s).aifPool.findIdx? fun a => decide (a.state = .aifOpen) := by
  simp only [Core.firstOpen, World.core, SessionObj.core, List.findIdx?_map]
  rfl

theorem sessionOpenWithFirstDevice_ensures (s : ℕ) (hg : Usable E w.core (w.core.sess s).graph) :
    Ensures E (sessionOpenWithFirstDevice s) w fun r w' =>
      OpenFirst (FirstCleansUp s w) s w.core r w'.core := by
  simp only [sessionOpenWithFirstDevice, ensures_bind, ensures_getSess, ← core_firstOpen,
    FirstCleansUp]
  cases hi : w.core.firstOpen s with
  | none => exact .noAif (by decide) hi id
  | some i =>
      simp only [ensures_bind]
      refine (sessionConnectAif_ensures hE s i 0 hg).imp fun r w₁ h => ?_
      rw [ensures_ite]
      refine ⟨fun hr => .failed hr hi h, fun hr => ?_⟩
      have h0 : r = 0 := not_not.mp hr
      subst h0
      rw [ensures_bind]
      refine (setAifState_ensures s i _).imp fun _ w₂ h₂ => ?_
      rw [ensures_pure, h₂]
      exact .opened hi h

omit hE in
/-- Away from the first connection no graph is opened or closed. -/
theorem Connect.of_ne_zero {cleans : Prop} {s i n : ℕ} {c c' : Core} {r : ℤ} (hn : n ≠ 0)
    (h : Connect cleans s i n c r c') : Connect False s i n c r c' := by
  cases h with
  | refused hr h => exact .refused hr id
  | undone hr h hd => exact .undone hr id hd
  | cleaned hr h hd h0 hj hg => exact absurd h0 hn
  | connected h hd hj hg => exact .connected id hd hj hg

omit hE in
theorem Connect.frame {cleans : Prop} {s i n : ℕ} {c c' : Core} {r : ℤ} (hn : n ≠ 0)
    (h : Connect cleans s i n c r c') : Frame s c c' := by
  cases h with
  | refused hr h => exact .refl s c
  | undone hr h hd => exact (Frame.onDev c _ _).trans (.onDev _ _ _)
  | cleaned hr h hd h0 hj hg => exact absurd h0 hn
  | connected h hd hj hg =>
      cases hj with
      | same => exact .onDev c _ _
      | opened h0 hs => exact absurd h0 hn

theorem connectReminders_ensures (s : ℕ) :
    ∀ (l : List ℕ) (n : ℕ) (w : World), n ≠ 0 → Usable E w.core (w.core.sess s).graph →
      Ensures E (connectReminders s l n) w fun r w' => Reminders s l n w.core r w'.core
  | [], n, w, _, _ => .nil
  | i :: is, n, w, hn, hg => by
      have hrow : (w.aif s i).state = (w.core.row s i).state := by rw [core_row]; rfl
      simp only [connectReminders, ensures_bind, ensures_getAif, ensures_ite, ensures_pure, hrow]
      refine ⟨fun hst => ?_, fun hst => ?_⟩
      · refine (sessionConnectAif_ensures hE s i n hg).imp fun r w₁ h => ⟨fun hr => ?_, fun hr => ?_⟩
        · exact .fail hst hr (h.of_ne_zero hn)
        · have h0 : r = 0 := not_not.mp hr
          subst h0
          refine (setAifState_ensures s i _).imp fun _ w₂ h₂ => ?_
          have hf : Frame s w.core w₂.core := by
            rw [h₂]
            exact (h.frame hn).trans (.setRow _ i _)
          have hg₂ : Usable E w₂.core (w₂.core.sess s).graph := by
            rw [hf.graph]
            exact hg.frame hf
          refine (connectReminders_ensures s is (n + 1) w₂ (by omega) hg₂).imp fun r w₃ h₃ => ?_
          rw [h₂] at h₃
          exact .next hst (h.of_ne_zero hn) h₃
      · refine (connectReminders_ensures s is n w hn hg).imp fun r w₁ h => .skip hst h

/-! ### Unwinding -/

theorem unwindReminder_ensures (s i : ℕ) (ret : ℤ) (hg : Usable E w.core (w.core.sess s).graph) :
    Ensures E (unwindReminder s i ret) w fun _ w' =>
      UnwindTurn (TurnLoses s i w) s i w.core w'.core ∧
        Usable E w'.core (w'.core.sess s).graph := by
  have hrow : (w.aif s i).state = (w.core.row s i).state := by rw [core_row]; rfl
  have hturn : Ensures E (unwindReminder s i ret) w fun _ w' =>
      UnwindTurn (TurnLoses s i w) s i w.core w'.core := by
    simp only [unwindReminder, ensures_bind, ensures_getAif, ensures_ite, ensures_pure, hrow]
    refine ⟨fun hst => ?_, fun hst => .skip hst fun h => hst (hrow ▸ h.1)⟩
    refine (sessionDisconnectAif_ensures hE s i 1 hg).imp fun r w₁ h => ?_
    refine (setAifState_ensures s i _).imp fun _ w₂ h₂ => ?_
    have hlost : Loses s i 1 w = TurnLoses s i w := by simp [TurnLoses, hrow, hst]
    rw [hlost] at h
    rw [h₂]
    exact .close hst h
  refine hturn.imp fun _ w' h => ⟨h, ?_⟩
  rw [h.frame.graph]
  exact hg.frame h.frame

theorem unwindReminders_ensures (s : ℕ) (hg : Usable E w.core (w.core.sess s).graph) :
    Ensures E (unwindReminders s) w fun r w' => ∃ lost : ℕ → Prop,
      Unwind lost s w.core r w'.core ∧
      (Turns (unwindReminder s) (fun i w => ¬ TurnLoses s i w)
        (List.range (w.sess s).aifPool.length) 0 w ↔ ∀ i ∈ w.core.rowRange s, ¬ lost i) := by
  simp only [unwindReminders, ensures_bind, ensures_poolRange, ensures_getSess]
  refine (ensures_forAll_labelled World.core (L := TurnLoses s)
    (T := fun lost i => UnwindTurn lost s i) (P := fun w => Usable E w.core (w.core.sess s).graph)
    (fun i b w h => unwindReminder_ensures hE s i b h) _ _ w List.nodup_range hg).imp
    fun _ w₁ h₁ => ?_
  obtain ⟨hg₁, lost, hchain, hlost⟩ := h₁
  refine (graphClose_ensures hE hg₁).imp fun r w₂ h₂ => ?_
  refine (modifySess_graph _).imp fun _ w₃ h₃ => ?_
  rw [ensures_pure, h₃]
  rw [core_rowRange] at hchain
  refine ⟨lost, .intro hchain h₂, ?_⟩
  rw [hlost, core_rowRange]

/-! ### Edges -/

theorem sessionGetMergedMetadata_quiet (s : ℕ) :
    Ensures E (sessionGetMergedMetadata s) w fun _ w' => w'.core = w.core := by
  simp only [sessionGetMergedMetadata, ensures_bind, ensures_poolRange]
  refine ensures_forAll (fun _ _ w' => w'.core = w.core) (fun i is b w₁ h => ?_) _ _ w rfl
  simp only [ensures_bind, ensures_getSess, ensures_getAif]
  refine (devMetadata_quiet hE _).imp fun md w₂ h₂ => ?_
  rw [h₂.1]
  exact (env_quiet hE _).imp fun _ w₃ h₃ => h₃.trans h

theorem sessionGetMergedMetadataWithoutAif_quiet (s : ℕ) :
    Ensures E (sessionGetMergedMetadataWithoutAif s) w fun _ w' => w'.core = w.core := by
  simp only [sessionGetMergedMetadataWithoutAif, ensures_bind, ensures_poolRange]
  refine ensures_forAll (fun _ _ w' => w'.core = w.core) (fun i is b w₁ h => ?_) _ _ w rfl
  simp only [ensures_bind, ensures_getSess, ensures_getAif]
  exact (env_quiet hE _).imp fun _ w₃ h₃ => h₃.trans h

theorem setEdge_ensures (s : ℕ) (kind : EdgeKind) (id : ℕ) (enable : Bool) (md : MetaData)
    (hg : Usable E w.core (w.core.sess s).graph) :
    Ensures E (setEdge s kind id enable md) w fun r w' =>
      w'.core = w.core.addEdge ⟨(w.core.sess s).graph, kind, id, enable, r⟩ ∧
      (r = 0 → (w.core.sess s).graph ≠ none) := by
  simp only [setEdge, ensures_bind, ensures_getSess, ensures_modify, ensures_pure]
  have hcall : Ensures E (if enable = true then graphAdd (w.sess s).graph md none
      else graphRemove (w.sess s).graph md) w fun r w' =>
        w'.core = w.core ∧ (r = 0 → (w.sess s).graph ≠ none) := by
    rw [ensures_ite]
    exact ⟨fun _ => onGraph_quiet hE hg, fun _ => onGraph_quiet hE hg⟩
  refine hcall.imp fun r w₁ h => ⟨?_, h.2⟩
  exact congrArg (Core.addEdge · ⟨(w.core.sess s).graph, kind, id, enable, r⟩) h.1

omit hE in
theorem Lookup.peek {s : ℕ} {c c₁ : Core} {r : ℤ} (h : Lookup s c r c₁) : Peek c c₁ := by
  cases h with
  | found h => exact .same
  | noMemory hr => exact .same
  | created h => exact .created h

theorem sessionSetLoopback_ensures (s pb : ℕ) (enable : Bool) (hs : s ∈ w.core.pool)
    (hg : Usable E w.core (w.core.sess s).graph) :
    Ensures E (sessionSetLoopback s pb enable) w fun r w' =>
      SetEdge s .loopback pb enable w.core r w'.core := by
  simp only [sessionSetLoopback, ensures_bind, ensures_ite, ensures_pure]
  refine (sessionObjGet_ensures hE pb).imp fun r w₁ h₁ => ⟨fun hr => .early hr h₁.peek, fun _ => ?_⟩
  have hp := h₁.peek
  refine (sessionGetMergedMetadata_quiet hE s).imp fun cap w₂ h₂ => ⟨fun _ => ?_, fun _ => ?_⟩
  · rw [h₂]
    exact .early (by decide) hp
  refine (sessionGetMergedMetadata_quiet hE pb).imp fun play w₃ h₃ => ⟨fun _ => ?_, fun _ => ?_⟩
  · rw [h₃, h₂]
    exact .early (by decide) hp
  refine (env_quiet hE _).imp fun md w₄ h₄ => ?_
  have hw : w₄.core = w₁.core := h₄.trans (h₃.trans h₂)
  cases md with
  | none =>
      rw [ensures_pure, hw]
      exact .early (by decide) hp
  | some md =>
      have hg₄ : Usable E w₄.core (w₄.core.sess s).graph := by
        rw [hw, hp.sess hs]
        exact hg.congr hp.live
      refine (setEdge_ensures hE s _ _ _ _ hg₄).imp fun r w₅ h₅ => ?_
      rw [h₅.1, hw, hp.sess hs]
      rw [hw, hp.sess hs] at h₅
      exact .called hp h₅.2

theorem sessionSetEcRef_ensures (s aif : ℕ) (enable : Bool)
    (hg : Usable E w.core (w.core.sess s).graph) :
    Ensures E (sessionSetEcRef s aif enable) w fun r w' =>
      SetEdge s .ecRef aif enable w.core r w'.core := by
  unfold sessionSetEcRef
  rw [ensures_bind, ensures_deviceGetObj, ensures_ite]
  refine ⟨fun hr => .early hr .same, fun _ => ?_⟩
  rw [ensures_bind]
  refine (sessionGetMergedMetadataWithoutAif_quiet hE s).imp fun cap w₂ h₂ => ?_
  rw [ensures_ite]
  refine ⟨fun _ => ?_, fun _ => ?_⟩
  · rw [ensures_pure, h₂]
    exact .early (by decide) .same
  rw [ensures_bind]
  refine (devMetadata_quiet hE _).imp fun md w₃ h₃ => ?_
  rw [ensures_bind, h₃.1]
  refine (env_quiet hE _).imp fun md w₄ h₄ => ?_
  have hw : w₄.core = w.core := h₄.trans h₂
  cases md with
  | none =>
      rw [ensures_pure, hw]
      exact .early (by decide) .same
  | some md =>
      have hg₄ : Usable E w₄.core (w₄.core.sess s).graph := by
        rw [hw]
        exact hg
      refine (setEdge_ensures hE s _ _ _ _ hg₄).imp fun r w₅ h₅ => ?_
      rw [hw] at h₅
      rw [h₅.1]
      exact .called .same h₅.2

theorem openLoopback_ensures (s : ℕ) (hs : s ∈ w.core.pool)
    (hg : Usable E w.core (w.core.sess s).graph) :
    Ensures E (openLoopback s) w fun r w' =>
      OpenEdge s .loopback (w.core.sess s).loopback w.core r w'.core := by
  simp only [openLoopback, ensures_bind, ensures_getSess, ensures_ite, ensures_pure]
  refine ⟨fun h => ?_, fun h => .off (Bool.not_eq_true _ ▸ h)⟩
  rw [h]
  exact (sessionSetLoopback_ensures hE s _ _ hs hg).imp fun r w₁ h₁ => .on h h₁

theorem openEcRef_ensures (s : ℕ) (hg : Usable E w.core (w.core.sess s).graph) :
    Ensures E (openEcRef s) w fun r w' =>
      OpenEdge s .ecRef (w.core.sess s).ecRef w.core r w'.core := by
  simp only [openEcRef, ensures_bind, ensures_getSess, ensures_ite, ensures_pure]
  refine ⟨fun h => ?_, fun h => .off (Bool.not_eq_true _ ▸ h)⟩
  rw [h]
  exact (sessionSetEcRef_ensures hE s _ _ hg).imp fun r w₁ h₁ => .on h h₁

omit hE in
theorem SetEdge.live {s id : ℕ} {kind : EdgeKind} {en : Bool} {c c₁ : Core} {r : ℤ}
    (h : SetEdge s kind id en c r c₁) : c₁.live = c.live := by
  cases h with
  | early hr hp => exact hp.live
  | called hp hg => exact hp.live

omit hE in
theorem SetEdge.sess {s t id : ℕ} {kind : EdgeKind} {en : Bool} {c c₁ : Core} {r : ℤ}
    (h : SetEdge s kind id en c r c₁) (ht : t ∈ c.pool) : c₁.sess t = c.sess t := by
  cases h with
  | early hr hp => exact hp.sess ht
  | called hp hg => exact hp.sess ht

omit hE in
theorem OpenEdge.live {s : ℕ} {kind : EdgeKind} {x : ℕ × Bool} {c c₁ : Core} {r : ℤ}
    (h : OpenEdge s kind x c r c₁) : c₁.live = c.live := by
  cases h with
  | off h => rfl
  | on h he => exact he.live

omit hE in
theorem OpenEdge.sess {s t : ℕ} {kind : EdgeKind} {x : ℕ × Bool} {c c₁ : Core} {r : ℤ}
    (h : OpenEdge s kind x c r c₁) (ht : t ∈ c.pool) : c₁.sess t = c.sess t := by
  cases h with
  | off h => rfl
  | on h he => exact he.sess ht

theorem openEdges_ensures (s : ℕ) (hs : s ∈ w.core.pool)
    (hg : Usable E w.core (w.core.sess s).graph) :
    Ensures E (openEdges s) w fun r w' => OpenEdges s w.core r w'.core := by
  simp only [openEdges, ensures_bind, ensures_ite, ensures_pure]
  refine (openLoopback_ensures hE s hs hg).imp fun r w₁ h₁ => ⟨fun hr => .loopback hr h₁, fun hr => ?_⟩
  have h0 : r = 0 := not_not.mp hr
  subst h0
  have hg₁ : Usable E w₁.core (w₁.core.sess s).graph := by
    rw [h₁.sess hs]
    exact hg.congr h₁.live
  exact (openEcRef_ensures hE s hg₁).imp fun r w₂ h₂ => .ecRef h₁ h₂

/-! ### Opening -/

omit hE in
theorem Joined.pool {s n : ℕ} {c c' : Core} (h : Joined s n c c') : c'.pool = c.pool := by
  cases h with
  | same => rfl
  | opened hn hs => rfl

omit hE in
theorem Joined.dev {s n : ℕ} {c c' : Core} (h : Joined s n c c') : c'.dev = c.dev := by
  cases h with
  | same => rfl
  | opened hn hs => rfl

omit hE in
theorem Joined.rows {s n : ℕ} {c c' : Core} (h : Joined s n c c') (t : ℕ) :
    (c'.sess t).rows = (c.sess t).rows := by
  cases h with
  | same => rfl
  | opened hn hs => exact c.rows_setGraph s _ t

omit hE in
theorem Connect.pool {cleans : Prop} {s i n : ℕ} {c c' : Core} {r : ℤ}
    (h : Connect cleans s i n c r c') : c'.pool = c.pool := by
  cases h with
  | refused hr h => rfl
  | undone hr h hd => rfl
  | cleaned hr h hd hn hj hg => exact (hj.pool :)
  | connected h hd hj hg => exact (hj.pool :)

omit hE in
theorem Connect.rows {cleans : Prop} {s i n : ℕ} {c c' : Core} {r : ℤ}
    (h : Connect cleans s i n c r c') (t : ℕ) : (c'.sess t).rows = (c.sess t).rows := by
  cases h with
  | refused hr h => rfl
  | undone hr h hd => rfl
  | cleaned hr h hd hn hj hg => exact (hj.rows t :)
  | connected h hd hj hg => exact (hj.rows t :)

omit hE in
theorem OpenFirst.pool {cleans : Prop} {s : ℕ} {c c' : Core} {r : ℤ}
    (h : OpenFirst cleans s c r c') : c'.pool = c.pool := by
  cases h with
  | noAif hr hi h => rfl
  | failed hr hi hc => exact hc.pool
  | opened hi hc => exact (Frame.setRow (s := s) _ _ _).pool.trans hc.pool

omit hE in
theorem OpenFirst.length {cleans : Prop} {s : ℕ} {c c' : Core} {r : ℤ}
    (h : OpenFirst cleans s c r c') : (c'.sess s).rows.length = (c.sess s).rows.length := by
  cases h with
  | noAif hr hi h => rfl
  | failed hr hi hc => rw [hc.rows]
  | opened hi hc => rw [(Frame.setRow (s := s) _ _ _).length, hc.rows]

omit hE in
/-- After a connection with a graph the pointer is usable. -/
theorem Connect.usable {cleans : Prop} {s i n : ℕ} {c c' : Core}
    (h : Connect cleans s i n c 0 c') (hg : Usable E c (c.sess s).graph) :
    Usable E c' (c'.sess s).graph := by
  cases h with
  | refused hr h => exact absurd rfl hr
  | undone hr h hd => exact absurd rfl hr
  | cleaned hr h hd hn hj hg' => exact absurd rfl hr
  | connected h hd hj hg' => exact hj.usable hg

omit hE in
theorem OpenFirst.usable {cleans : Prop} {s : ℕ} {c c' : Core} (h : OpenFirst cleans s c 0 c')
    (hg : Usable E c (c.sess s).graph) : Usable E c' (c'.sess s).graph := by
  cases h with
  | noAif hr hi h => exact absurd rfl hr
  | failed hr hi hc => exact absurd rfl hr
  | opened hi hc =>
      have hf := Frame.setRow (s := s) ‹Core› ‹ℕ› .aifOpened
      rw [hf.graph]
      exact (hc.usable hg).frame hf

omit hE in
theorem Reminders.frame {s n : ℕ} {l : List ℕ} {c c' : Core} {r : ℤ}
    (h : Reminders s l n c r c') : n ≠ 0 → Frame s c c' := by
  induction h with
  | nil => exact fun _ => .refl s _
  | skip h hs ih => exact ih
  | fail h hr hc => exact fun hn => hc.frame hn
  | next h hc hs ih => exact fun hn => ((hc.frame hn).trans (.setRow _ _ _)).trans (ih (by omega))

omit hE in
theorem Unwind.sess_pool {lost : ℕ → Prop} {s : ℕ} {c c' : Core} {r : ℤ}
    (h : Unwind lost s c r c') : c'.pool = c.pool ∧ (c'.sess s).graph = none := by
  obtain ⟨hc, hg⟩ := h
  have hf := frame_of_chain (fun _ _ _ h => UnwindTurn.frame h) hc
  refine ⟨?_, by simp [Core.setGraph]⟩
  cases hg with
  | null hp hr => exact hf.pool
  | closed hp => exact hf.pool

/-- `session_obj_open` of a closed session. -/
theorem openClosedSession_ensures (s : ℕ) (hs : s ∈ w.core.pool)
    (hg : Usable E w.core (w.core.sess s).graph) :
    Ensures E (openClosedSession s) w fun r w' => ∃ lost : ℕ → Prop,
      OpenSteps ⟨FirstCleansUp s w, Unwinds s w, lost, Silent s w, EdgesFail s w⟩ s
        w.core r w'.core ∧
      (Unwinds s w → (UnwindLosesNone s w ↔ ∀ i ∈ w.core.rowRange s, ¬ lost i)) := by
  simp only [openClosedSession, sessionConnectReminderDevices, ensures_bind]
  refine (sessionOpenWithFirstDevice_ensures hE s hg).with_ok.imp fun r w₁ h => ?_
  obtain ⟨h₁, hrun₁⟩ := h
  simp only [Unwinds, Silent, EdgesFail, UnwindLosesNone, ensures_iff_of_ok hrun₁]
  rw [ensures_ite]
  refine ⟨fun hr => ?_, fun hr => ?_⟩
  · refine ⟨fun _ => False, .first hr h₁ (fun h => hr h.1) (fun h => hr h.1), fun h => ?_⟩
    exact absurd h.1 hr
  have h0 : r = 0 := not_not.mp hr
  subst h0
  have hs₁ : s ∈ w₁.core.pool := h₁.pool ▸ hs
  have hg₁ : Usable E w₁.core (w₁.core.sess s).graph := h₁.usable hg
  have hrange₁ : w₁.core.rowRange s = w.core.rowRange s := by simp only [Core.rowRange, h₁.length]
  have hloop : Ensures E (openReminders s) w₁ fun r w' =>
      Reminders s (w.core.rowRange s) 1 w₁.core r w'.core := by
    simp only [openReminders, ensures_bind, ensures_poolRange, core_rowRange, hrange₁]
    exact connectReminders_ensures hE s _ 1 w₁ (by decide) hg₁
  simp only [ensures_bind]
  refine hloop.with_ok.imp fun r₂ w₂ h => ?_
  obtain ⟨h₂, hrun₂⟩ := h
  have hf₂ := h₂.frame (by decide)
  have hs₂ : s ∈ w₂.core.pool := hf₂.pool ▸ hs₁
  have hg₂ : Usable E w₂.core (w₂.core.sess s).graph := by
    rw [hf₂.graph]
    exact hg₁.frame hf₂
  have hrange₂ : w₂.core.rowRange s = w.core.rowRange s := by
    simp only [Core.rowRange, hf₂.length, h₁.length]
  simp only [ensures_iff_of_ok hrun₂, true_and, true_implies]
  rw [ensures_ite]
  refine ⟨fun hr₂ => ?_, fun hr₂ => ?_⟩
  · refine (unwindReminders_ensures hE s hg₂).with_ok.imp fun r₃ w₃ h => ?_
    obtain ⟨⟨lost, h₃, hlost⟩, hrun₃⟩ := h
    rw [hrange₂] at hlost
    simp only [ensures_iff_of_ok hrun₃, hr₂, ne_eq, not_false_eq_true, true_and, true_implies,
      false_and]
    rw [ensures_ite]
    refine ⟨fun hr₃ => ⟨lost, ?_, hlost⟩, fun hr₃ => ?_⟩
    · exact .unwound hr₃ h₁ h₂ hr₂ h₃ trivial hr₃ id
    have h0 : r₃ = 0 := not_not.mp hr₃
    subst h0
    have hs₃ : s ∈ w₃.core.pool := h₃.sess_pool.1 ▸ hs₂
    have hg₃ : Usable E w₃.core (w₃.core.sess s).graph := by
      intro g hg
      rw [h₃.sess_pool.2] at hg
      cases hg
    rw [ensures_bind]
    refine (openEdges_ensures hE s hs₃ hg₃).imp fun r₄ w₄ h₄ => ?_
    have hstep := OpenSteps.resumed (b := ⟨FirstCleansUp s w, True, lost, (0 : ℤ) = 0, False⟩)
      h₁ h₂ hr₂ h₃ trivial rfl id h₄
    rw [ensures_ite]
    refine ⟨fun hr₄ => ⟨lost, ?_, hlost⟩, fun hr₄ => ?_⟩
    · rw [if_neg hr₄] at hstep
      exact hstep
    · have h0 : r₄ = 0 := not_not.mp hr₄
      subst h0
      rw [if_pos rfl] at hstep
      rw [ensures_bind]
      refine (modifySess_state _).imp fun _ w₅ h₅ => ⟨lost, ?_, hlost⟩
      rw [h₅]
      exact hstep
  · have h0 : r₂ = 0 := not_not.mp hr₂
    subst h0
    simp only [ne_eq, not_true_eq_false, false_and, true_and, ensures_pure, ensures_ite,
      not_false_eq_true, false_implies, true_implies, ensures_bind]
    refine (openEdges_ensures hE s hs₂ hg₂).with_ok.imp fun r₃ w₃ h => ?_
    obtain ⟨h₃, hrun₃⟩ := h
    simp only [ensures_iff_of_ok hrun₃]
    refine ⟨fun hr₃ => ⟨fun _ => False, .edges hr₃ h₁ h₂ h₃ id hr₃, trivial⟩, fun hr₃ => ?_⟩
    have h0 : r₃ = 0 := not_not.mp hr₃
    subst h0
    refine (modifySess_state _).imp fun _ w₄ h₄ => ⟨fun _ => False, ?_, trivial⟩
    rw [h₄]
    exact .opened h₁ h₂ h₃ id fun h => h rfl

end

end Agm
