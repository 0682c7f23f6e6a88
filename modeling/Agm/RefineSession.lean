import Agm.Refine

/-! # The session functions refine their relations

Every function of `Agm.Session` ends in one of the ways its relation in `Agm.Steps` allows.  The
events that the relations are parametrised by are predicates of the state before the call:

* `Loses`: a merge fails inside `session_disconnect_aif`, so that the device stays open;
* `CleansUp`: `session_connect_aif` goes to `graph_cleanup` with a graph to close. -/

namespace Agm

open Prog

/-! ### Events -/

/-- `session_disconnect_aif` gives up before it reaches the device. -/
def Loses (s i n : ℕ) (w : World) : Prop :=
  Ensures noFault (disconnectMetadata s i n) w fun md _ => md = none

instance (s i n : ℕ) (w : World) : Decidable (Loses s i n w) :=
  inferInstanceAs (Decidable (Ensures noFault (disconnectMetadata s i n) w fun md _ => md = none))

/-- The exit is `graph_cleanup`. -/
def ConnectExit.isCleanup : ConnectExit → Bool
  | .graphCleanup _ _ => true
  | _ => false

/-- `session_connect_aif` jumps to `graph_cleanup` with a count of zero and closes a graph. -/
def CleansUp (s i n : ℕ) (w : World) : Prop :=
  Ensures noFault (connectSteps s i n) w fun exit w' =>
    exit.isCleanup = true ∧ n = 0 ∧ (w'.sess s).graph ≠ none

instance (s i n : ℕ) (w : World) : Decidable (CleansUp s i n w) :=
  inferInstanceAs (Decidable (Ensures noFault (connectSteps s i n) w fun exit w' =>
    exit.isCleanup = true ∧ n = 0 ∧ (w'.sess s).graph ≠ none))

/-! ### Merging and looking up -/

section
variable {E : Fault → Prop} {w : World} (hE : ∀ c, E (.crash c))
include hE

theorem devMetadata_quiet (dev : Option ℕ) :
    Ensures E (devMetadata dev) w fun _ w' => w' = w ∧ dev ≠ none := by
  cases dev with
  | none => exact hE _
  | some d => exact ⟨rfl, Option.some_ne_none d⟩

theorem mergeAif_quiet (s i : ℕ) :
    Ensures E (mergeAif s i) w fun _ w' => w'.core = w.core ∧ (w.core.row s i).dev ≠ none := by
  simp only [mergeAif, ensures_bind, ensures_getSess, ensures_getAif]
  refine (devMetadata_quiet hE _).imp fun md w' h => ?_
  obtain ⟨rfl, hd⟩ := h
  refine (env_quiet hE _).imp fun _ w'' h => ⟨h, ?_⟩
  rw [core_row]
  exact hd

theorem disconnectMetadata_quiet (s i n : ℕ) :
    Ensures E (disconnectMetadata s i n) w fun _ w' =>
      w'.core = w.core ∧ (w.core.row s i).dev ≠ none := by
  simp only [disconnectMetadata, ensures_bind]
  refine (mergeAif_quiet hE s i).imp fun md w' h => ?_
  cases md with
  | none => exact h
  | some md =>
      simp only [ensures_ite, ensures_bind, ensures_getAif, ensures_pure]
      refine ⟨fun _ => ?_, fun _ => h⟩
      refine (devMetadata_quiet hE _).imp fun dev w'' hd => ?_
      obtain ⟨rfl, -⟩ := hd
      exact (env_quiet hE _).imp fun _ w''' he => ⟨he.trans h.1, h.2⟩

theorem sessionObjGet_ensures (s : ℕ) :
    Ensures E (sessionObjGet s) w fun r w' => Lookup s w.core r w'.core := by
  simp only [sessionObjGet, ensures_bind, ensures_gets, ensures_ite, ensures_pure, ensures_modify]
  refine ⟨fun h => .found h, fun h => ?_⟩
  refine (env_quiet hE _).imp fun block w' hw => ⟨fun _ => ?_, fun _ => ?_⟩
  · rw [hw]
    exact .noMemory (by decide)
  · have hcreated : { w' with pool := w'.pool ++ [s], sess := Function.update w'.sess s {} }.core =
        w'.core.addSess s := by
      simp only [World.core, Core.addSess, Core.setSess, Core.mk.injEq, true_and, and_true]
      exact Function.comp_update SessionObj.core w'.sess s {}
    rw [hcreated, hw]
    exact .created h

/-! ### Disconnecting -/

omit hE in
theorem Usable.congr {c c' : Core} {p : Option ℕ} (h : Usable E c p) (hl : c'.live = c.live) :
    Usable E c' p := by
  intro g hg
  rw [hl]
  exact h g hg

theorem sessionDisconnectAif_ensures (s i n : ℕ) (hg : Usable E w.core (w.core.sess s).graph) :
    Ensures E (sessionDisconnectAif s i n) w fun r w' =>
      Disconnect (Loses s i n w) s i w.core r w'.core := by
  simp only [sessionDisconnectAif, ensures_bind]
  refine (disconnectMetadata_quiet hE s i n).with_ok.imp fun md w₁ h => ?_
  obtain ⟨⟨hw, hd⟩, hrun⟩ := h
  have hlost : Loses s i n w ↔ md = none := ensures_iff_of_ok hrun
  cases md with
  | none =>
      simp only [ensures_pure]
      rw [hw]
      exact .lost (hlost.mpr rfl) (by decide)
  | some md =>
      simp only [ensures_bind, ensures_getSess, ensures_getAif, ensures_ite]
      obtain ⟨d, hd⟩ := Option.ne_none_iff_exists'.mp hd
      have hdev : (w₁.aif s i).devObj = some d := by
        rw [← hd, ← hw, core_row]
        rfl
      have hg₁ : Usable E w₁.core (w₁.sess s).graph := by
        rw [← hw] at hg
        exact hg
      have hclose : ∀ w₂ : World, w₂.core = w₁.core →
          Ensures E (onDevice (w₁.aif s i).devObj deviceClose) w₂ fun r w' =>
            Disconnect (Loses s i n w) s i w.core r w'.core := by
        intro w₂ h₂
        rw [hdev]
        refine (onDevice_close d).imp fun r w' h => ?_
        rw [h, h₂, hw]
        exact .closed (fun hl => Option.some_ne_none md (hlost.mp hl)) hd
      exact ⟨fun _ => (onGraph_quiet hE hg₁).imp fun _ w₂ h => hclose w₂ h.1,
        fun _ => (onGraph_quiet hE hg₁).imp fun _ w₂ h => hclose w₂ h.1⟩

/-! ### Connecting -/

omit hE in
theorem Joined.usable {s n : ℕ} {c c₁ : Core} (hj : Joined s n c c₁)
    (hg : Usable E c (c.sess s).graph) : Usable E c₁ (c₁.sess s).graph := by
  cases hj with
  | same => exact hg
  | opened hn hs =>
      intro g h
      simp only [Core.newGraph, Core.setGraph, Core.setSess, Function.update_self,
        Option.some.injEq] at h
      subst h
      exact .inl (Function.update_self ..)

/-- The graph step: it joins the session's graph, fails and leaves the core alone, or is left
for `graph_cleanup` because the callback could not be registered. -/
theorem connectGraph_ensures (s i n : ℕ) (md : MetaData)
    (hg : Usable E w.core (w.core.sess s).graph) :
    Ensures E (connectGraph s i n md) w fun exit w' =>
      match exit with
      | .done _ => Joined s n w.core w'.core ∧ (w'.core.sess s).graph ≠ none
      | .closeDevice r => r ≠ 0 ∧ w'.core = w.core
      | .graphCleanup r _ => r ≠ 0 ∧ Joined s n w.core w'.core := by
  have hjoin : ∀ (m : View → GraphM ℤ),
      Ensures E (onGraph (w.sess s).graph m) w fun r w' =>
        (r ≠ 0 → r ≠ 0 ∧ w'.core = w.core) ∧
        (¬ r ≠ 0 → Joined s n w.core w'.core ∧ (w'.core.sess s).graph ≠ none) := by
    intro m
    refine (onGraph_quiet hE (w := w) hg).imp fun r w' h => ⟨fun hr => ⟨hr, h.1⟩, fun hr => ?_⟩
    rw [h.1]
    exact ⟨.same, h.2 (not_not.mp hr)⟩
  simp only [connectGraph, ensures_bind, ensures_getSess, ensures_getAif, ensures_ite,
    ensures_pure, graphChange, graphAdd]
  refine ⟨fun hn => ⟨fun hs => ?_, fun _ => hjoin _⟩, fun _ => hjoin _⟩
  refine (graphOpen_ensures hE _ _ _).imp fun r w₁ h => ⟨fun hr => ?_, fun _ => ?_⟩
  · rcases h with h | ⟨h0, -⟩
    · exact ⟨hr, h⟩
    · exact absurd h0 hr
  · have hj : Joined s n w.core w₁.core := by
      rcases h with h | ⟨-, h⟩
      · rw [h]; exact .same
      · rw [h]; exact .opened hn hs
    refine (onGraph_quiet hE (hj.usable hg)).imp fun r w₂ h₂ => ⟨fun hr => ?_, fun hr => ?_⟩
    · rw [h₂.1]
      exact ⟨hr, hj⟩
    · rw [h₂.1]
      exact ⟨hj, h₂.2 (not_not.mp hr)⟩

theorem sendParams_quiet (s i : ℕ) (hg : Usable E w.core (w.core.sess s).graph) :
    Ensures E (sendParams s i) w fun _ w' => w'.core = w.core := by
  have hsess : ∀ w : World, Usable E w.core (w.core.sess s).graph →
      Ensures E (sendSessionParams s) w fun _ w' => w'.core = w.core := by
    intro w hg
    simp only [sendSessionParams, ensures_bind, ensures_getSess]
    cases (w.sess s).params with
    | none => rfl
    | some payload =>
        simp only [ensures_ite, ensures_bind, ensures_pure]
        refine ⟨fun _ => ?_, fun _ => trivial⟩
        refine (graphSetConfig_quiet hE hg).imp fun r w₁ h => ⟨fun _ => h, fun _ => ?_⟩
        refine Ensures.imp (modifySess_quiet ?_) fun _ w₂ h₂ => h₂.trans h
        exact fun _ => rfl
  have haif : ∀ w : World, Usable E w.core (w.core.sess s).graph →
      Ensures E (sendAifParams s i) w fun _ w' => w'.core = w.core := by
    intro w hg
    simp only [sendAifParams, ensures_bind, ensures_getSess, ensures_getAif]
    cases (w.aif s i).params with
    | none => rfl
    | some payload =>
        simp only [ensures_ite, ensures_bind, ensures_pure]
        refine (graphSetConfig_quiet hE hg).imp fun r w₁ h => ⟨fun _ => h, fun _ => ?_⟩
        refine Ensures.imp (modifyAif_quiet ?_) fun _ w₂ h₂ => h₂.trans h
        exact fun _ => rfl
  have hdev : ∀ w : World, Usable E w.core (w.core.sess s).graph →
      Ensures E (sendDeviceParams s i) w fun _ w' => w'.core = w.core := by
    intro w hg
    simp only [sendDeviceParams, ensures_bind, ensures_getSess, ensures_getAif]
    cases (w.aif s i).devObj with
    | none => exact hE _
    | some d =>
        simp only [ensures_bind, ensures_gets]
        cases (w.dev d).params with
        | none => rfl
        | some payload =>
            simp only [ensures_ite, ensures_bind, ensures_pure, ensures_modify]
            refine ⟨fun _ => ?_, fun _ => trivial⟩
            refine (graphSetConfig_quiet hE hg).imp fun r w₁ h => ⟨fun _ => h, fun _ => ?_⟩
            rw [core_update_dev]
            exact (onDev_self w₁.core d).trans h
  simp only [sendParams, ensures_bind, ensures_ite, ensures_pure]
  refine (hsess w hg).imp fun r w₁ h₁ => ⟨fun _ => h₁, fun _ => ?_⟩
  refine (haif w₁ (h₁ ▸ hg)).imp fun r w₂ h₂ => ⟨fun _ => h₂.trans h₁, fun _ => ?_⟩
  exact (hdev w₂ (by rw [h₂, h₁]; exact hg)).imp fun r w₃ h₃ => h₃.trans (h₂.trans h₁)

/-- Everything before the labels of `session_connect_aif`. -/
theorem connectSteps_ensures (s i n : ℕ) (hg : Usable E w.core (w.core.sess s).graph) :
    Ensures E (connectSteps s i n) w fun exit w' => ∃ d, (w.core.row s i).dev = some d ∧
      match exit with
      | .done r => (r ≠ 0 ∧ w'.core = w.core) ∨
          (r = 0 ∧ Joined s n (w.core.openDev d) w'.core ∧ (w'.core.sess s).graph ≠ none)
      | .closeDevice r => r ≠ 0 ∧ w'.core = w.core.openDev d
      | .graphCleanup r _ => r ≠ 0 ∧ Joined s n (w.core.openDev d) w'.core := by
  simp only [connectSteps, ensures_bind]
  refine (mergeAif_quiet hE s i).imp fun md w₁ h₁ => ?_
  obtain ⟨h₁, hd⟩ := h₁
  obtain ⟨d, hd⟩ := Option.ne_none_iff_exists'.mp hd
  cases md with
  | none => exact ⟨d, hd, .inl ⟨by decide, h₁⟩⟩
  | some md =>
      have hdev : (w₁.aif s i).devObj = some d := by
        rw [← hd, ← h₁, core_row]
        rfl
      simp only [ensures_bind, ensures_getAif, ensures_ite, ensures_pure, hdev]
      refine (onDevice_open d).imp fun r w₂ h₂ => ⟨fun hr => ?_, fun hr => ?_⟩
      · rcases h₂ with ⟨-, h₂⟩ | ⟨h0, -⟩
        · exact ⟨d, hd, .inl ⟨hr, h₂.trans h₁⟩⟩
        · exact absurd h0 hr
      · have h₂ : w₂.core = w.core.openDev d := by
          rcases h₂ with ⟨h0, -⟩ | ⟨-, h₂⟩
          · exact absurd h0 hr
          · rw [h₂, h₁]
        have hg₂ : Usable E w₂.core (w₂.core.sess s).graph := by
          rw [h₂]
          exact hg
        refine (connectGraph_ensures hE s i n md hg₂).imp fun exit w₃ h₃ => ?_
        rw [h₂] at h₃
        cases exit with
        | done r =>
            obtain ⟨hj, hne⟩ := h₃
            simp only [ensures_bind, ensures_ite, ensures_pure]
            have hg₃ : Usable E w₃.core (w₃.core.sess s).graph := hj.usable hg
            refine (sendParams_quiet hE s i hg₃).imp fun r w₄ h₄ => ⟨fun hr => ?_, fun _ => ?_⟩
            · exact ⟨d, hd, hr, h₄ ▸ hj⟩
            · exact ⟨d, hd, .inr ⟨trivial, h₄ ▸ hj, by rw [h₄]; exact hne⟩⟩
        | closeDevice r => exact ⟨d, hd, h₃⟩
        | graphCleanup r md => exact ⟨d, hd, h₃⟩

theorem sessionConnectAif_ensures (s i n : ℕ) (hg : Usable E w.core (w.core.sess s).graph) :
    Ensures E (sessionConnectAif s i n) w fun r w' =>
      Connect (CleansUp s i n w) s i n w.core r w'.core := by
  simp only [sessionConnectAif, ensures_bind]
  refine (connectSteps_ensures hE s i n hg).with_ok.imp fun exit w₁ h => ?_
  obtain ⟨⟨d, hd, h⟩, hrun⟩ := h
  have hcl : CleansUp s i n w ↔ exit.isCleanup = true ∧ n = 0 ∧ (w₁.sess s).graph ≠ none :=
    ensures_iff_of_ok hrun
  have hrow : ∀ c₁, Joined s n (w.core.openDev d) c₁ → c₁.row s i = w.core.row s i := by
    intro c₁ hj
    cases hj with
    | same => rfl
    | opened hn hs =>
        simp [Core.row, Core.newGraph, Core.setGraph, Core.setSess, Core.openDev, Core.onDev]
  simp only [ensures_getAif]
  cases exit with
  | done r =>
      have hncl : ¬ CleansUp s i n w := fun h' => Bool.false_ne_true (hcl.mp h').1
      simp only [ensures_pure]
      rcases h with ⟨hr, h⟩ | ⟨rfl, hj, hne⟩
      · rw [h]; exact .refused hr hncl
      · exact .connected hncl hd hj hne
  | closeDevice r =>
      have hncl : ¬ CleansUp s i n w := fun h' => Bool.false_ne_true (hcl.mp h').1
      obtain ⟨hr, h⟩ := h
      have hdev : (w₁.aif s i).devObj = some d := by
        have : w₁.core.row s i = w.core.row s i := by rw [h]; rfl
        rw [← hd, ← this, core_row]
        rfl
      simp only [ensures_bind, ensures_pure, hdev]
      refine (onDevice_close d).imp fun _ w₂ h₂ => ?_
      rw [h₂, h]
      exact .undone hr hncl hd
  | graphCleanup r md =>
      obtain ⟨hr, hj⟩ := h
      have hdev : (w₁.aif s i).devObj = some d := by
        rw [← hd, ← hrow _ hj, core_row]
        rfl
      have hundo : ∀ w₂ : World, w₂.core = w₁.core → ¬ CleansUp s i n w →
          Joined s n (w.core.openDev d) w₁.core → (n = 0 → (w₁.core.sess s).graph = none) →
          Ensures E (do let _ ← onDevice (some d) deviceClose; pure r) w₂ fun r w' =>
            Connect (CleansUp s i n w) s i n w.core r w'.core := by
        intro w₂ h₂ hncl hj hnone
        simp only [ensures_bind, ensures_pure]
        refine (onDevice_close d).imp fun _ w₃ h₃ => ?_
        have hsame : w₁.core = w.core.openDev d := by
          generalize hc : w₁.core = c₁ at hj hnone
          cases hj with
          | same => rfl
          | opened hn hs =>
              have := hnone hn
              simp [Core.newGraph, Core.setGraph, Core.setSess] at this
        rw [h₃, h₂, hsame]
        exact .undone hr hncl hd
      simp only [ensures_bind, ensures_pure, graphCleanup, ensures_getSess, ensures_ite, hdev]
      simp only [ensures_bind, ensures_pure] at hundo
      refine ⟨fun hn => ?_, fun hn => ?_⟩
      · refine (graphClose_ensures hE (hj.usable hg)).imp fun _ w₂ h₂ => ?_
        generalize hc₂ : w₂.core = c₂ at h₂
        cases h₂ with
        | null hnone => exact hundo w₂ hc₂ (fun h' => (hcl.mp h').2.2 hnone) hj fun _ => hnone
        | closed hsome =>
          refine (onDevice_close d).imp fun _ w₃ h₃ => ?_
          rw [h₃, hc₂]
          exact .cleaned hr (hcl.mpr ⟨rfl, hn, fun h0 => Option.some_ne_none _ (hsome.symm.trans h0)⟩) hd hn hj hsome
      · refine (onGraph_quiet hE (hj.usable hg)).imp fun _ w₂ h₂ => ?_
        exact hundo w₂ h₂.1 (fun h' => hn (hcl.mp h').2.1) hj fun h0 => absurd h0 hn

end

end Agm
