import Agm.RefineOpen

/-! # The calls refine their relations

`session_obj_sess_aif_connect` in both directions, and the calls that the abstract service
hardly sees: those leave every session, device and graph as it is and at most create a session
or append an interface (`Inert`). -/

namespace Agm

open Prog

/-! ### Branches of a connection -/

/-- The exit is `unwind`. -/
def AifConnectExit.isUnwind : AifConnectExit → Bool
  | .done _ => false
  | .unwind _ _ _ => true

/-- `session_obj_sess_aif_connect` goes to `unwind`. -/
def AifUnwinds (s aif : ℕ) (w : World) : Prop :=
  Ensures noFault (aifConnectSteps s aif true) w fun exit _ => exit.isUnwind = true

instance (s aif : ℕ) (w : World) : Decidable (AifUnwinds s aif w) :=
  inferInstanceAs (Decidable (Ensures _ _ _ _))

/-- It does when the interface is connected to a session that is neither closed nor just opened, and
then the session cannot be prepared, or not started again if it is started. -/
theorem aifUnwinds_iff (s aif : ℕ) (w : World) :
    AifUnwinds s aif w ↔ Ensures noFault (aifObjGet s aif) w fun r w₁ =>
      r.1 = 0 ∧ (w₁.aif s r.2).state.toNat ≤ AifState.aifOpened.toNat ∧
      (w₁.sess s).state ≠ .sessionClosed ∧ (w₁.sess s).state ≠ .sessionOpened ∧
      Ensures noFault (hotConnect s r.2 (openedCount (w₁.sess s))) w₁ fun ret w₂ => ret = 0 ∧
        Ensures noFault (sessionPrepare s) w₂ fun ret w₃ => ret ≠ 0 ∨
          (w₁.sess s).state = .sessionStarted ∧
            Ensures noFault (sessionStart s) w₃ fun ret _ => ret ≠ 0 := by
  unfold AifUnwinds aifConnectSteps
  rw [ensures_bind]
  refine ensures_congr fun r w₁ => ?_
  by_cases hr : r.1 = 0
  swap
  · rw [if_pos hr, ensures_pure]
    exact iff_of_false Bool.false_ne_true fun h => hr h.1
  rw [if_neg (not_not.mpr hr), ensures_bind, ensures_getAif, and_iff_right hr]
  by_cases hst : (w₁.aif s r.2).state.toNat ≤ AifState.aifOpened.toNat
  swap
  · rw [if_pos (by simpa [aifAlready] using hst), ensures_pure]
    exact iff_of_false Bool.false_ne_true fun h => hst h.1
  rw [if_neg (by simpa [aifAlready] using hst), and_iff_right hst, ensures_bind, ensures_getSess,
    if_pos rfl]
  unfold aifConnectBody
  rw [ensures_bind, ensures_getSess]
  cases h : (w₁.sess s).state with
  | sessionClosed =>
      simp only [ensures_bind, ensures_pure, AifConnectExit.isUnwind]
      refine iff_of_false (fun hm => ?_) fun hm => hm.1 rfl
      obtain ⟨_, _, _, hfalse⟩ := Ensures.exists_ok hm
      exact Bool.false_ne_true hfalse
  | sessionOpened =>
      simp only [ensures_bind, ensures_pure, AifConnectExit.isUnwind]
      refine iff_of_false (fun hm => ?_) fun hm => hm.2.1 rfl
      obtain ⟨_, _, _, hfalse⟩ := Ensures.exists_ok hm
      exact Bool.false_ne_true hfalse
  | sessionPrepared | sessionStopped =>
      simp only [ensures_bind, ensures_ite, ensures_pure, AifConnectExit.isUnwind]
      rw [and_iff_right (by decide), and_iff_right (by decide)]
      refine ensures_congr fun ret w₂ => ?_
      by_cases h0 : ret = 0
      · simp [h0]
      · simp [h0]
  | sessionStarted =>
      simp only [ensures_bind, ensures_ite, ensures_pure, AifConnectExit.isUnwind]
      rw [and_iff_right (by decide), and_iff_right (by decide)]
      refine ensures_congr fun ret w₂ => ?_
      by_cases h0 : ret = 0
      · simp only [h0, ne_eq, not_true_eq_false, Bool.false_eq_true, imp_self, not_false_eq_true,
          implies_true, Decidable.not_not, imp_false, true_and, forall_const]
        refine ensures_congr fun ret w₃ => ?_
        by_cases h1 : ret = 0
        · simp [h1]
        · simp [h1]
      · simp [h0]

/-- The connection of an interface closes the session's graph at `graph_cleanup`. -/
def AifCleansUp (s aif : ℕ) (w : World) : Prop :=
  Ensures noFault (aifObjGet s aif) w fun r w₁ =>
    CleansUp s r.2 (openedCount (w₁.sess s)) w₁

instance (s aif : ℕ) (w : World) : Decidable (AifCleansUp s aif w) :=
  inferInstanceAs (Decidable (Ensures _ _ _ _))

/-- The restart that follows a connection fails in its checks. -/
def RestartFails (s i n : ℕ) (w : World) : Prop :=
  Ensures noFault (hotConnect s i n) w fun r w₁ => r = 0 ∧
    Ensures noFault (sessionPrepare s) w₁ fun r w₂ => r = 0 ∧ GateFails s w₂

instance (s i n : ℕ) (w : World) : Decidable (RestartFails s i n w) :=
  inferInstanceAs (Decidable (Ensures _ _ _ _))

/-- The restart that follows the connection of an interface fails in its checks. -/
def AifRestartFails (s aif : ℕ) (w : World) : Prop :=
  Ensures noFault (aifObjGet s aif) w fun r w₁ =>
    RestartFails s r.2 (openedCount (w₁.sess s)) w₁

instance (s aif : ℕ) (w : World) : Decidable (AifRestartFails s aif w) :=
  inferInstanceAs (Decidable (Ensures _ _ _ _))

/-- The disconnection of an interface leaves its device open. -/
def AifLoses (s aif : ℕ) (w : World) : Prop :=
  Ensures noFault (aifObjGet s aif) w fun r w₁ =>
    Ensures noFault (setAifState s r.2 .aifClose) w₁ fun _ w₂ =>
      Loses s r.2 (openedCount (w₁.sess s)) w₂

instance (s aif : ℕ) (w : World) : Decidable (AifLoses s aif w) :=
  inferInstanceAs (Decidable (Ensures _ _ _ _))

/-- A connection that does not go to `unwind`, or does. -/
inductive AifConnect (cleans gate unwinds : Prop) (s aif : ℕ) (c : Core) : ℤ → Core → Prop
  | noMemory {r : ℤ} (hr : r ≠ 0) (h : ¬ unwinds) : AifConnect cleans gate unwinds s aif c r c
  | done {r : ℤ} {i : ℕ} {c₁ c' : Core} (h : ¬ unwinds) (hi : GetAif s aif c (0, i) c₁)
      (hc : HotConnect cleans gate s i c₁ r false c') :
      AifConnect cleans gate unwinds s aif c r c'
  | unwound {r r' : ℤ} {i : ℕ} {c₁ c₂ c' : Core} {lost : Prop} (h : unwinds)
      (hi : GetAif s aif c (0, i) c₁) (hc : HotConnect cleans gate s i c₁ r true c₂)
      (hd : Disconnect lost s i c₂ r' c') : AifConnect cleans gate unwinds s aif c r c'

section
variable {E : Fault → Prop} {w : World} (hE : ∀ c, E (.crash c))
include hE

/-! ### Connecting -/

omit hE in
theorem core_findAif (w : World) (s aif : ℕ) :
    w.core.findAif s aif = aifObjGetFromPool (w.sess s) aif := by
  simp only [aifObjGetFromPool, Core.findAif, World.core, SessionObj.core, List.findIdx?_map]
  rfl

theorem aifObjGet_ensures (s aif : ℕ) :
    Ensures E (aifObjGet s aif) w fun r w' => GetAif s aif w.core r w'.core := by
  simp only [aifObjGet, ensures_bind, ensures_getSess, ← core_findAif]
  cases hi : w.core.findAif s aif with
  | some i => exact .found hi
  | none =>
      have hcreate : Ensures E (aifObjCreate aif) w fun obj w' =>
          w'.core = w.core ∧ ∀ a, obj = some a → a.row = w.core.newRow aif := by
        simp only [aifObjCreate, deviceGetObj, ensures_bind, ensures_ite, ensures_pure, ensures_gets]
        refine (env_quiet hE _).imp fun block w₁ h₁ =>
          ⟨fun _ => ⟨h₁, fun a h => (by cases h)⟩, fun _ => ?_⟩
        have hnum : w₁.numAudioIntfs = w.core.numAudioIntfs := congrArg Core.numAudioIntfs h₁
        have hpast : w₁.pastEnd = w.core.pastEnd := congrArg Core.pastEnd h₁
        rw [hnum, hpast]
        refine ⟨fun hlt => ⟨fun _ => ⟨h₁, ?_⟩, fun h => absurd (by decide) h⟩, fun hge => ?_⟩
        · rintro a ⟨⟩
          have h1 : ¬ aif < w.core.numAudioIntfs := by omega
          have h2 : ¬ (aif = w.core.numAudioIntfs ∧ w.core.pastEnd ≠ none) := by
            rintro ⟨rfl, -⟩
            omega
          rw [Core.newRow, if_neg h1, if_neg h2]
          rfl
        · by_cases hl : aif < w.core.numAudioIntfs
          · simp only [hl, if_true]
            refine ⟨fun h => absurd h (by simp), fun _ => ⟨h₁, ?_⟩⟩
            rintro a ⟨⟩
            rw [Core.newRow, if_pos hl]
            rfl
          · have he : aif = w.core.numAudioIntfs := by omega
            simp only [hl, if_false]
            refine ⟨fun h => ⟨h₁, ?_⟩, fun h => ⟨h₁, ?_⟩⟩
            · rintro a ⟨⟩
              rw [Core.newRow, if_neg hl, if_neg (by simpa [he] using h)]
              rfl
            · rintro a ⟨⟩
              rw [Core.newRow, if_neg hl, if_pos (by simpa [he] using h)]
              rfl
      rw [ensures_bind]
      refine hcreate.imp fun obj w₁ h => ?_
      obtain ⟨h₁, hrow⟩ := h
      cases obj with
      | none =>
          rw [ensures_pure, h₁]
          exact .noMemory (by decide)
      | some a =>
          have hlen : (w.sess s).aifPool.length = (w.core.sess s).rows.length := by
            simp [World.core, SessionObj.core]
          simp only [modifySess, ensures_bind, ensures_modify, ensures_pure, core_update_sess, hlen]
          have hadd : (SessionObj.core { w₁.sess s with aifPool := (w₁.sess s).aifPool ++ [a] }) =
              { w₁.core.sess s with rows := (w₁.core.sess s).rows ++ [w.core.newRow aif] } := by
            simp [World.core, SessionObj.core, hrow a rfl]
          rw [hadd, h₁]
          exact .created hi

omit hE in
theorem GetAif.facts {s aif : ℕ} {c c₁ : Core} {r : ℤ × ℕ} (h : GetAif s aif c r c₁) :
    c₁.pool = c.pool ∧ c₁.live = c.live ∧ (c₁.sess s).graph = (c.sess s).graph := by
  cases h with
  | found h => exact ⟨rfl, rfl, rfl⟩
  | noMemory hr => exact ⟨rfl, rfl, rfl⟩
  | created h => exact ⟨rfl, rfl, by simp [Core.addRow]⟩

omit hE in
theorem Prepare.facts {s : ℕ} {c c' : Core} {r : ℤ} (h : Prepare s c r c') :
    c'.pool = c.pool ∧ c'.live = c.live ∧ (c'.sess s).graph = (c.sess s).graph := by
  cases h with
  | early hr => exact ⟨rfl, rfl, rfl⟩
  | late hn hr hu =>
      have hf := frame_of_until (fun _ _ _ _ => PrepareTurn.frame) hu
      exact ⟨hf.pool, hf.live, hf.graph⟩
  | prepared hn hu =>
      have hf := frame_of_until (fun _ _ _ _ => PrepareTurn.frame) hu
      exact ⟨hf.pool, hf.live, by simp [Core.setState, hf.graph]⟩

omit hE in
theorem Start.usable {gate : Prop} {s : ℕ} {c c' : Core} {r : ℤ} (h : Start gate s c r c')
    (hs : s ∈ c.pool) (hg : Usable E c (c.sess s).graph) : Usable E c' (c'.sess s).graph := by
  cases h with
  | early h hr hp =>
      rw [hp.sess hs]
      exact hg.congr hp.live
  | unwound h hn hr hp hu hc =>
      have hf := (frame_of_until (fun _ _ _ _ => StartTurn.frame) hu).trans
        (frame_of_chain (fun _ _ _ => StopTurn.frame) hc)
      rw [hf.graph, hp.sess hs]
      exact (hg.congr hp.live).frame hf
  | started h hn hp hu =>
      have hf := frame_of_until (fun _ _ _ _ => StartTurn.frame) hu
      simp only [Core.setState, Core.sess_setSess_self, hf.graph, hp.sess hs]
      exact hg.congr (hf.live.trans hp.live)

theorem hotConnect_ensures (s i n : ℕ) (hg : Usable E w.core (w.core.sess s).graph) :
    Ensures E (hotConnect s i n) w fun r w' =>
      (r ≠ 0 ∧ Connect (CleansUp s i n w) s i n w.core r w'.core) ∨
      (r = 0 ∧ ∃ c₁, Connect (CleansUp s i n w) s i n w.core 0 c₁ ∧
        w'.core = c₁.setRow s i .aifOpened) := by
  simp only [hotConnect, ensures_bind]
  refine (sessionConnectAif_ensures hE s i n hg).imp fun r w₁ h => ?_
  rw [ensures_ite]
  refine ⟨fun hr => .inl ⟨hr, h⟩, fun hr => ?_⟩
  have h0 : r = 0 := not_not.mp hr
  subst h0
  rw [ensures_bind]
  exact (setAifState_ensures s i _).imp fun _ w₂ h₂ => .inr ⟨rfl, w₁.core, h, h₂⟩

/-- How the branch for `aif_state == true` ends. -/
def AifConnectExit.Hot (E : Fault → Prop) (s i : ℕ) (w : World) (exit : AifConnectExit)
    (w' : World) : Prop :=
  match exit with
  | .done r => HotConnect (CleansUp s i (w.core.openedCount s) w)
      (RestartFails s i (w.core.openedCount s) w) s i w.core r false w'.core
  | .unwind r j n => HotConnect (CleansUp s i (w.core.openedCount s) w)
      (RestartFails s i (w.core.openedCount s) w) s i w.core r true w'.core ∧
      j = i ∧ n = w.core.openedCount s + 1 ∧ Usable E w'.core (w'.core.sess s).graph

omit hE in
/-- A preparation keeps the session, and the graph usable. -/
theorem Prepare.usable {s : ℕ} {c c' : Core} {r : ℤ} (h : Prepare s c r c') (hs : s ∈ c.pool)
    (hg : Usable E c (c.sess s).graph) : s ∈ c'.pool ∧ Usable E c' (c'.sess s).graph := by
  obtain ⟨hpool, hlive, hgraph⟩ := h.facts
  refine ⟨hpool ▸ hs, ?_⟩
  rw [hgraph]
  exact hg.congr hlive

/-- After a successful connection the session is prepared. -/
theorem connectedPrepare_ensures {s i n : ℕ} {cleans : Prop} {c₁ : Core} {w₁ : World}
    (hs : s ∈ w.core.pool) (hg : Usable E w.core (w.core.sess s).graph)
    (hc : Connect cleans s i n w.core 0 c₁) (h : w₁.core = c₁.setRow s i .aifOpened) :
    Ensures E (sessionPrepare s) w₁ fun r w₂ => Prepare s (c₁.setRow s i .aifOpened) r w₂.core ∧
      s ∈ w₂.core.pool ∧ Usable E w₂.core (w₂.core.sess s).graph := by
  have hf := Frame.setRow (s := s) c₁ i .aifOpened
  have hs₁ : s ∈ w₁.core.pool := by
    rw [h, hf.pool, hc.pool]
    exact hs
  have hg₁ : Usable E w₁.core (w₁.core.sess s).graph := by
    rw [h, hf.graph]
    exact (hc.usable hg).frame hf
  exact (sessionPrepare_ensures hE s hg₁).imp fun r w₂ hp => ⟨h ▸ hp, hp.usable hs₁ hg₁⟩

section body
variable {s i : ℕ} (hs : s ∈ w.core.pool) (hg : Usable E w.core (w.core.sess s).graph)
  (hi : (w.core.row s i).state.toNat ≤ AifState.aifOpened.toNat)
include hs hg hi

/-- Connected to a session that is prepared or stopped. -/
theorem connectPrepared_ensures (hst : (w.core.sess s).state = .sessionPrepared ∨
    (w.core.sess s).state = .sessionStopped) :
    Ensures E (do
      let ret ← hotConnect s i (w.core.openedCount s)
      if ret ≠ 0 then pure (.done ret) else
      let ret ← sessionPrepare s
      if ret ≠ 0 then pure (.unwind ret i (w.core.openedCount s + 1)) else pure (.done 0) :
        AgmM AifConnectExit) w fun exit w' => exit.Hot E s i w w' := by
  have hne : (w.core.sess s).state ≠ .sessionClosed := by
    rcases hst with h | h <;> rw [h] <;> decide
  rw [ensures_bind]
  refine (hotConnect_ensures hE s i (w.core.openedCount s) hg).imp fun r w₁ h => ?_
  rw [ensures_ite]
  rcases h with ⟨hr, h⟩ | ⟨rfl, c₁, hc, h⟩
  · exact ⟨fun _ => .failed hne hi hr h, fun h0 => absurd hr h0⟩
  refine ⟨fun h0 => absurd rfl h0, fun _ => ?_⟩
  rw [ensures_bind]
  refine (connectedPrepare_ensures hE hs hg hc h).imp ?_
  rintro r w₂ ⟨hp, -, hg₂⟩
  rw [ensures_ite]
  refine ⟨fun hr => ⟨.prepareFailed hne hi hc hr hp, rfl, rfl, hg₂⟩, fun hr => ?_⟩
  obtain rfl := not_not.mp hr
  exact .prepared hst hi hc hp

/-- Connected to a session that is started, which is started again. -/
theorem connectStarted_ensures (hst : (w.core.sess s).state = .sessionStarted) :
    Ensures E (do
      let ret ← hotConnect s i (w.core.openedCount s)
      if ret ≠ 0 then pure (.done ret) else
      let ret ← sessionPrepare s
      if ret ≠ 0 then pure (.unwind ret i (w.core.openedCount s + 1)) else
      let ret ← sessionStart s
      if ret ≠ 0 then pure (.unwind ret i (w.core.openedCount s + 1)) else pure (.done 0) :
        AgmM AifConnectExit) w fun exit w' => exit.Hot E s i w w' := by
  have hne : (w.core.sess s).state ≠ .sessionClosed := by
    rw [hst]
    decide
  rw [ensures_bind]
  refine (hotConnect_ensures hE s i (w.core.openedCount s) hg).with_ok.imp ?_
  rintro r w₁ ⟨h, hrun₁⟩
  rw [ensures_ite]
  rcases h with ⟨hr, h⟩ | ⟨rfl, c₁, hc, h⟩
  · exact ⟨fun _ => .failed hne hi hr h, fun h0 => absurd hr h0⟩
  refine ⟨fun h0 => absurd rfl h0, fun _ => ?_⟩
  rw [ensures_bind]
  refine (connectedPrepare_ensures hE hs hg hc h).with_ok.imp ?_
  rintro r w₂ ⟨⟨hp, hs₂, hg₂⟩, hrun₂⟩
  rw [ensures_ite]
  refine ⟨fun hr => ⟨.prepareFailed hne hi hc hr hp, rfl, rfl, hg₂⟩, fun hr => ?_⟩
  obtain rfl := not_not.mp hr
  -- the restart fails in its checks where the start does
  have hgate : RestartFails s i (w.core.openedCount s) w ↔ GateFails s w₂ := by
    unfold RestartFails
    rw [ensures_iff_of_ok hrun₁, ensures_iff_of_ok hrun₂, and_iff_right rfl, and_iff_right rfl]
  rw [ensures_bind]
  refine (sessionStart_ensures hE s hs₂ hg₂).imp fun r w₃ h₃ => ?_
  have hg₃ : Usable E w₃.core (w₃.core.sess s).graph := h₃.usable hs₂ hg₂
  rw [← hgate] at h₃
  rw [ensures_ite]
  refine ⟨fun hr => ⟨.startFailed hst hi hc hp hr h₃, rfl, rfl, hg₃⟩, fun hr => ?_⟩
  obtain rfl := not_not.mp hr
  exact .started hst hi hc hp h₃

/-- The branch for `aif_state == true`, from an interface that is not past `AIF_OPENED`. -/
theorem aifConnectBody_ensures :
    Ensures E (aifConnectBody s i (w.core.openedCount s)) w fun exit w' =>
      exit.Hot E s i w w' := by
  unfold aifConnectBody
  rw [ensures_bind, ensures_getSess]
  cases hst : (w.sess s).state with
  | sessionClosed =>
      dsimp only
      rw [ensures_bind]
      refine (setAifState_ensures s i _).imp fun _ w₁ h₁ => ?_
      rw [ensures_pure, AifConnectExit.Hot, h₁]
      exact .waiting hst hi
  | sessionOpened =>
      dsimp only
      rw [ensures_bind]
      refine (hotConnect_ensures hE s i (w.core.openedCount s) hg).imp fun r w₁ h => ?_
      rw [ensures_pure]
      rcases h with ⟨hr, h⟩ | ⟨rfl, c₁, hc, h⟩
      · exact .failed (by rw [show (w.core.sess s).state = _ from hst]; decide) hi hr h
      · rw [AifConnectExit.Hot, h]
        exact .opened hst hi hc
  | sessionPrepared => exact connectPrepared_ensures hE hs hg hi (.inl hst)
  | sessionStopped => exact connectPrepared_ensures hE hs hg hi (.inr hst)
  | sessionStarted => exact connectStarted_ensures hE hs hg hi hst

end body

theorem sessionObjSessAifConnect_true_ensures (s aif : ℕ) (hs : s ∈ w.core.pool)
    (hg : Usable E w.core (w.core.sess s).graph) :
    Ensures E (sessionObjSessAifConnect s aif true) w fun r w' =>
      AifConnect (AifCleansUp s aif w) (AifRestartFails s aif w) (AifUnwinds s aif w) s aif
        w.core r w'.core := by
  have hsteps : Ensures E (aifConnectSteps s aif true) w fun exit w' =>
      match exit with
      | .done r => (r ≠ 0 ∧ w'.core = w.core) ∨ ∃ i c₁, GetAif s aif w.core (0, i) c₁ ∧
          HotConnect (AifCleansUp s aif w) (AifRestartFails s aif w) s i c₁ r false w'.core
      | .unwind r i _ => (∃ c₁, GetAif s aif w.core (0, i) c₁ ∧
          HotConnect (AifCleansUp s aif w) (AifRestartFails s aif w) s i c₁ r true w'.core) ∧
          Usable E w'.core (w'.core.sess s).graph := by
    simp only [aifConnectSteps, ensures_bind]
    refine (aifObjGet_ensures hE s aif).with_ok.imp fun r w₁ h => ?_
    obtain ⟨h₁, hrun⟩ := h
    obtain ⟨hpool, hlive, hgraph⟩ := h₁.facts
    simp only [AifCleansUp, AifRestartFails, ensures_iff_of_ok hrun, ← core_openedCount]
    rw [ensures_ite]
    refine ⟨fun hr => .inl ⟨hr, ?_⟩, fun hr => ?_⟩
    · obtain ⟨r, i⟩ := r
      generalize w₁.core = c₁ at h₁
      cases h₁ with
      | found h => exact absurd rfl hr
      | noMemory hr => rfl
      | created h => exact absurd rfl hr
    have hget : GetAif s aif w.core (0, r.2) w₁.core := by
      rw [← not_not.mp hr]
      exact h₁
    simp only [ensures_bind, ensures_getAif, ensures_getSess, ensures_ite, aifAlready, if_true,
      decide_eq_true_eq, ← core_openedCount]
    refine ⟨fun _ => .inr ⟨r.2, _, hget, .already (by decide)⟩, fun hst => ?_⟩
    have hi : (w₁.core.row s r.2).state.toNat ≤ AifState.aifOpened.toNat := by
      rw [core_row]
      exact not_lt.mp hst
    have hg₁ : Usable E w₁.core (w₁.core.sess s).graph := by
      rw [hgraph]
      exact hg.congr hlive
    refine (aifConnectBody_ensures hE (hpool ▸ hs) hg₁ hi).imp fun exit w₂ h₂ => ?_
    cases exit with
    | done r' => exact .inr ⟨r.2, _, hget, h₂⟩
    | unwind r' j n =>
        obtain ⟨h₂, rfl, rfl, hg₂⟩ := h₂
        exact ⟨⟨_, hget, h₂⟩, hg₂⟩
  simp only [sessionObjSessAifConnect, ensures_bind]
  refine hsteps.with_ok.imp fun exit w₁ h => ?_
  obtain ⟨h, hrun⟩ := h
  have hun : AifUnwinds s aif w ↔ exit.isUnwind = true := ensures_iff_of_ok hrun
  cases exit with
  | done r =>
      have hun' : ¬ AifUnwinds s aif w := fun h => Bool.false_ne_true (hun.mp h)
      rw [ensures_pure]
      rcases h with ⟨hr, h⟩ | ⟨i, c₁, hi, hc⟩
      · rw [h]
        exact .noMemory hr hun'
      · exact .done hun' hi hc
  | unwind r i n =>
      obtain ⟨⟨c₁, hi, hc⟩, hg₁⟩ := h
      rw [ensures_bind]
      refine (sessionDisconnectAif_ensures hE s i n hg₁).imp fun _ w₂ h₂ => ?_
      exact .unwound (hun.mpr rfl) hi hc h₂

/-! ### Disconnecting -/

theorem sessionObjSessAifConnect_false_ensures (s aif : ℕ)
    (hg : Usable E w.core (w.core.sess s).graph) :
    Ensures E (sessionObjSessAifConnect s aif false) w fun r w' =>
      (r ≠ 0 ∧ w'.core = w.core) ∨ ∃ i c₁, GetAif s aif w.core (0, i) c₁ ∧
        AifDisconnect (AifLoses s aif w) s i c₁ r w'.core := by
  simp only [sessionObjSessAifConnect, aifConnectSteps, ensures_bind]
  refine (aifObjGet_ensures hE s aif).with_ok.imp fun r w₁ h => ?_
  obtain ⟨h₁, hrun⟩ := h
  obtain ⟨-, hlive, hgraph⟩ := h₁.facts
  simp only [AifLoses, ensures_iff_of_ok hrun, ← core_openedCount]
  rw [ensures_ite]
  refine ⟨fun hr => .inl ⟨hr, ?_⟩, fun hr => ?_⟩
  · obtain ⟨r, i⟩ := r
    generalize w₁.core = c₁ at h₁
    cases h₁ with
    | found h => exact absurd rfl hr
    | noMemory hr => rfl
    | created h => exact absurd rfl hr
  have hget : GetAif s aif w.core (0, r.2) w₁.core := by
    rw [← not_not.mp hr]
    exact h₁
  simp only [ensures_bind, ensures_getAif, ensures_getSess, ensures_ite, ensures_pure, aifAlready,
    Bool.false_eq_true, if_false, decide_eq_true_eq, ← core_openedCount]
  refine ⟨fun _ => .inr ⟨r.2, _, hget, .already (by decide)⟩, fun hst => ?_⟩
  have hi : AifState.aifOpen.toNat ≤ (w₁.core.row s r.2).state.toNat := by
    rw [core_row]
    exact not_lt.mp hst
  simp only [aifDisconnectBody, ensures_bind, ensures_getSess]
  refine (setAifState_ensures s r.2 _).with_ok.imp fun _ w₂ h => ?_
  obtain ⟨h₂, hrun₂⟩ := h
  simp only [ensures_iff_of_ok hrun₂]
  have hf := Frame.setRow (s := s) w₁.core r.2 .aifClose
  have hg₂ : Usable E w₂.core (w₂.core.sess s).graph := by
    rw [h₂, hf.graph, hgraph]
    exact (hg.congr hlive).frame hf
  rw [ensures_ite]
  refine ⟨fun hcl => ?_, fun hop => ?_⟩
  · rw [ensures_pure, ensures_ite]
    refine ⟨fun h => absurd rfl h, fun _ => ?_⟩
    rw [ensures_bind]
    refine (setAifState_ensures s r.2 _).imp fun _ w₃ h₃ => .inr ⟨r.2, _, hget, ?_⟩
    rw [h₃, h₂]
    exact .forgotten hcl hi
  · refine (sessionDisconnectAif_ensures hE s r.2 _ hg₂).imp fun r' w₃ h₃ => ?_
    rw [h₂] at h₃
    have hstep := AifDisconnect.disconnected hop hi h₃
    rw [ensures_ite]
    refine ⟨fun hr' => .inr ⟨r.2, _, hget, ?_⟩, fun hr' => ?_⟩
    · rw [if_neg hr'] at hstep
      exact hstep
    · have h0 : r' = 0 := not_not.mp hr'
      subst h0
      rw [if_pos rfl] at hstep
      rw [ensures_bind]
      refine (setAifState_ensures s r.2 _).imp fun _ w₄ h₄ => .inr ⟨r.2, _, hget, ?_⟩
      rw [h₄]
      exact hstep

end

end Agm
