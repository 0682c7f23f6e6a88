import Agm.Agreement

/-! # Who owns a graph

A graph is opened for a session and closed with it.  The service keeps this when, between calls,
the open sessions are those that have a graph, every graph pointer is live, every live graph has
a session, and no two sessions share one (`GraphOk`).

Three branches break it.  The label `graph_cleanup` closes the graph and leaves the pointer, in
the first connection of `session_obj_open` as well as in a later connection to a session without
open interfaces.  A failing edge leaves a closed session with a live graph.  And
`session_connect_reminder_devices` returns the code of closing the graph, so that an open without
edges succeeds with no graph at all.  Without them no call uses a closed graph, and none is leaked
(`graph_ownership`). -/

namespace Agm

open Prog

/-- Pointers are live, live graphs have an owner, and owners are unique. -/
structure Graphs (c : Core) : Prop where
  live : ∀ s ∈ c.pool, ∀ g, (c.sess s).graph = some g → c.live g = true
  owned : ∀ g, c.live g = true → ∃ s ∈ c.pool, (c.sess s).graph = some g
  unique : ∀ s ∈ c.pool, ∀ t ∈ c.pool, ∀ g, (c.sess s).graph = some g →
    (c.sess t).graph = some g → s = t
  fresh : ∀ g, c.live g = true → g < c.nextGraph

/-- The session has a graph exactly while it is open. -/
def SessCore.Held (x : SessCore) : Prop := x.state = .sessionClosed ↔ x.graph = none

/-- The graphs are those of the open sessions. -/
structure GraphOk (c : Core) : Prop where
  graphs : Graphs c
  held : ∀ t ∈ c.pool, (c.sess t).Held
  idle : IdleAll c

/-- From `c` to `c'` no graph was opened or closed, and the session kept its pointer. -/
structure SameGraphs (s : ℕ) (c c' : Core) : Prop where
  live : c'.live = c.live
  nextGraph : c'.nextGraph = c.nextGraph
  graph : (c'.sess s).graph = (c.sess s).graph

section
variable {s i n : ℕ} {c c' c'' : Core} {r : ℤ}

/-! ### Steps that open and close nothing -/

theorem SameGraphs.refl (s : ℕ) (c : Core) : SameGraphs s c c := ⟨rfl, rfl, rfl⟩

theorem SameGraphs.trans (h : SameGraphs s c c') (h' : SameGraphs s c' c'') :
    SameGraphs s c c'' :=
  ⟨h'.live.trans h.live, h'.nextGraph.trans h.nextGraph, h'.graph.trans h.graph⟩

theorem SameGraphs.of_frame (h : Frame s c c') : SameGraphs s c c' := ⟨h.live, h.nextGraph, h.graph⟩

theorem SameGraphs.setState (s : ℕ) (c : Core) (st : SessionState) :
    SameGraphs s c (c.setState s st) := ⟨rfl, rfl, by simp [Core.setState]⟩

theorem SameGraphs.of_inert {named : Option ℕ} (h : Inert named c c') (hs : s ∈ c.pool) :
    SameGraphs s c c' := ⟨h.live, h.nextGraph, h.graph s hs⟩

/-- The graphs stay as they are when every session keeps its pointer and new ones have none. -/
theorem Graphs.congr (h : Graphs c) (hp : ∀ t ∈ c.pool, t ∈ c'.pool)
    (hsame : ∀ t ∈ c.pool, (c'.sess t).graph = (c.sess t).graph)
    (hfresh : ∀ t ∈ c'.pool, t ∉ c.pool → (c'.sess t).graph = none) (hl : c'.live = c.live)
    (hn : c'.nextGraph = c.nextGraph) : Graphs c' := by
  have hold : ∀ t ∈ c'.pool, ∀ g, (c'.sess t).graph = some g →
      t ∈ c.pool ∧ (c.sess t).graph = some g := by
    intro t ht g hgr
    by_cases htc : t ∈ c.pool
    · exact ⟨htc, hsame t htc ▸ hgr⟩
    · rw [hfresh t ht htc] at hgr
      cases hgr
  refine ⟨fun t ht g hgr => ?_, fun g hg => ?_, fun t ht u hu g h₁ h₂ => ?_, fun g hg => ?_⟩
  · obtain ⟨htc, hgr⟩ := hold t ht g hgr
    rw [hl]
    exact h.live t htc g hgr
  · rw [hl] at hg
    obtain ⟨t, ht, hgr⟩ := h.owned g hg
    exact ⟨t, hp t ht, (hsame t ht).trans hgr⟩
  · obtain ⟨htc, h₁⟩ := hold t ht g h₁
    obtain ⟨huc, h₂⟩ := hold u hu g h₂
    exact h.unique t htc u huc g h₁ h₂
  · rw [hl] at hg
    rw [hn]
    exact h.fresh g hg

theorem Graphs.only (h : Graphs c) (ho : Only s c c') (hg : SameGraphs s c c') : Graphs c' := by
  refine h.congr ho.pool (fun t ht => ?_) (fun t ht hn => by rw [ho.fresh t ht hn]) hg.live
    hg.nextGraph
  by_cases hts : t = s
  · subst hts
    exact hg.graph
  · rw [ho.others t ht hts]

theorem Graphs.inert {named : Option ℕ} (h : Graphs c) (hi : Inert named c c') : Graphs c' :=
  h.congr hi.pool hi.graph (fun t ht hn => (hi.fresh t ht hn).2.1) hi.live hi.nextGraph

/-! ### Opening and closing a graph -/

/-- A session without a graph opens one. -/
theorem Graphs.newGraph (h : Graphs c) (hs : s ∈ c.pool) (hg : (c.sess s).graph = none) :
    Graphs (c.newGraph s) := by
  have hself : ((c.newGraph s).sess s).graph = some c.nextGraph := by
    simp [Core.newGraph, Core.setGraph]
  have hne : ∀ t, t ≠ s → (c.newGraph s).sess t = c.sess t := fun t ht =>
    c.sess_setSess_of_ne ht _
  have hlive : ∀ g, (c.newGraph s).live g = true ↔ g = c.nextGraph ∨ c.live g = true := by
    intro g
    by_cases hgn : g = c.nextGraph
    · simp [Core.newGraph, hgn]
    · simp [Core.newGraph, hgn]
  -- The new number belongs to nobody else.
  have hnew : ∀ t ∈ c.pool, (c.sess t).graph ≠ some c.nextGraph := by
    intro t ht hgr
    exact lt_irrefl _ (h.fresh _ (h.live t ht _ hgr))
  refine ⟨fun t ht g hgr => ?_, fun g hl => ?_, fun t ht u hu g h₁ h₂ => ?_, fun g hl => ?_⟩
  · rw [hlive]
    by_cases hts : t = s
    · subst hts
      rw [hself] at hgr
      exact .inl (Option.some.inj hgr).symm
    · rw [hne t hts] at hgr
      exact .inr (h.live t ht g hgr)
  · rcases (hlive g).mp hl with rfl | hl
    · exact ⟨s, hs, hself⟩
    · obtain ⟨t, ht, hgr⟩ := h.owned g hl
      have hts : t ≠ s := by
        rintro rfl
        rw [hg] at hgr
        cases hgr
      exact ⟨t, ht, by rw [hne t hts]; exact hgr⟩
  · by_cases hts : t = s
    · by_cases hus : u = s
      · rw [hts, hus]
      · subst hts
        rw [hself] at h₁
        rw [hne u hus, ← h₁] at h₂
        exact absurd h₂ (hnew u hu)
    · rw [hne t hts] at h₁
      by_cases hus : u = s
      · subst hus
        rw [hself] at h₂
        rw [← h₂] at h₁
        exact absurd h₁ (hnew t ht)
      · rw [hne u hus] at h₂
        exact h.unique t ht u hu g h₁ h₂
  · show g < c.nextGraph + 1
    rcases (hlive g).mp hl with rfl | hl
    · omega
    · have := h.fresh g hl
      omega

/-- A session closes its graph and forgets it. -/
theorem Graphs.close {g : ℕ} (h : Graphs c) (hs : s ∈ c.pool) (hg : (c.sess s).graph = some g) :
    Graphs ((c.killGraph g).setGraph s none) := by
  have hself : (((c.killGraph g).setGraph s none).sess s).graph = none := by
    simp [Core.setGraph]
  have hne : ∀ t, t ≠ s → ((c.killGraph g).setGraph s none).sess t = c.sess t := fun t ht =>
    (c.killGraph g).sess_setSess_of_ne ht _
  have hlive : ∀ k, ((c.killGraph g).setGraph s none).live k = true ↔
      k ≠ g ∧ c.live k = true := by
    intro k
    show Function.update c.live g false k = true ↔ _
    by_cases hk : k = g
    · simp [hk]
    · simp [hk]
  have hold : ∀ t ∈ c.pool, ∀ k, (((c.killGraph g).setGraph s none).sess t).graph = some k →
      t ≠ s ∧ (c.sess t).graph = some k := by
    intro t ht k hk
    have hts : t ≠ s := by
      rintro rfl
      rw [hself] at hk
      cases hk
    exact ⟨hts, by rw [hne t hts] at hk; exact hk⟩
  refine ⟨fun t ht k hk => ?_, fun k hl => ?_, fun t ht u hu k h₁ h₂ => ?_, fun k hl => ?_⟩
  · obtain ⟨hts, hgr⟩ := hold t ht k hk
    refine (hlive k).mpr ⟨?_, h.live t ht k hgr⟩
    rintro rfl
    exact hts (h.unique t ht s hs k hgr hg)
  · obtain ⟨hkg, hl⟩ := (hlive k).mp hl
    obtain ⟨t, ht, hk⟩ := h.owned k hl
    have hts : t ≠ s := by
      rintro rfl
      rw [hg] at hk
      exact hkg (Option.some.inj hk).symm
    exact ⟨t, ht, by rw [hne t hts]; exact hk⟩
  · obtain ⟨-, h₁⟩ := hold t ht k h₁
    obtain ⟨-, h₂⟩ := hold u hu k h₂
    exact h.unique t ht u hu k h₁ h₂
  · exact h.fresh k ((hlive k).mp hl).2

/-! ### The relations -/

theorem Peek.sameGraphs (h : Peek c c') (hs : s ∈ c.pool) : SameGraphs s c c' :=
  .of_inert h.inert hs

theorem Prepare.sameGraphs (h : Prepare s c r c') : SameGraphs s c c' := by
  cases h with
  | early hr => exact .refl s c
  | late hn hr hu => exact .of_frame (frame_of_until (fun _ _ _ _ => PrepareTurn.frame) hu)
  | prepared hn hu =>
      have hf := frame_of_until (fun _ _ _ _ => PrepareTurn.frame) hu
      exact (SameGraphs.of_frame hf).trans (.setState s _ _)

theorem Start.sameGraphs {gate : Prop} (h : Start gate s c r c') (hs : s ∈ c.pool) :
    SameGraphs s c c' := by
  cases h with
  | early h hr hp => exact hp.sameGraphs hs
  | unwound h hn hr hp hu hc =>
      have hf := (frame_of_until (fun _ _ _ _ => StartTurn.frame) hu).trans
        (frame_of_chain (fun _ _ _ => StopTurn.frame) hc)
      exact (hp.sameGraphs hs).trans (.of_frame hf)
  | started h hn hp hu =>
      have hf := frame_of_until (fun _ _ _ _ => StartTurn.frame) hu
      exact ((hp.sameGraphs hs).trans (.of_frame hf)).trans (.setState s _ _)

theorem Stop.sameGraphs (h : Stop s c r c') : SameGraphs s c c' := by
  cases h with
  | early hr => exact .refl s c
  | stopped hst hc =>
      have hf := frame_of_chain (fun _ _ _ => StopTurn.frame) hc
      exact (SameGraphs.of_frame hf).trans (.setState s _ _)

/-- A connection that is not the first one of a closed session, or that fails without closing a
graph, moves a device only. -/
theorem Connect.frame_of_same {cleans : Prop} (h : Connect cleans s i n c r c') (hc : ¬ cleans)
    (hn : r ≠ 0 ∨ (c.sess s).state ≠ .sessionClosed) : Frame s c c' := by
  cases h with
  | refused hr h => exact .refl s c
  | undone hr h hd => exact (Frame.onDev c _ _).trans (.onDev _ _ _)
  | cleaned hr h hd hn hj hg => exact absurd h hc
  | connected h hd hj hg =>
      cases hj with
      | same => exact .onDev c _ _
      | opened h0 hs =>
          have hst : (c.sess s).state ≠ .sessionClosed := hn.resolve_left fun h => h rfl
          exact absurd hs hst

/-- The first connection of a closed session opens a graph. -/
theorem Connect.opens {cleans : Prop} (h : Connect cleans s i n c 0 c')
    (hg : (c.sess s).graph = none) : ∃ d, c' = (c.openDev d).newGraph s := by
  cases h with
  | refused hr h => exact absurd rfl hr
  | undone hr h hd => exact absurd rfl hr
  | cleaned hr h hd hn hj hg => exact absurd rfl hr
  | @connected d _ h hd hj hg' =>
      cases hj with
      | same => exact absurd hg hg'
      | opened h0 hs => exact ⟨d, rfl⟩

theorem HotConnect.sameGraphs {cleans gate u} (h : HotConnect cleans gate s i c r u c')
    (hs : s ∈ c.pool) (hc : (c.sess s).state ≠ .sessionClosed →
      (c.row s i).state.toNat ≤ AifState.aifOpened.toNat → ¬ cleans) : SameGraphs s c c' := by
  have hconn : ∀ {c₁ : Core}, (c.sess s).state ≠ .sessionClosed →
      (c.row s i).state.toNat ≤ AifState.aifOpened.toNat →
      Connect cleans s i (c.openedCount s) c 0 c₁ →
      SameGraphs s c (c₁.setRow s i .aifOpened) ∧ s ∈ (c₁.setRow s i .aifOpened).pool := by
    intro c₁ hst hi h
    have hf := (h.frame_of_same (hc hst hi) (.inr hst)).trans (.setRow c₁ i .aifOpened)
    exact ⟨.of_frame hf, hf.pool ▸ hs⟩
  cases h with
  | already hr => exact .refl s c
  | waiting hst hi => exact .of_frame (.setRow c i _)
  | failed hst hi hr h => exact .of_frame (h.frame_of_same (hc hst hi) (.inl hr))
  | opened hst hi h => exact (hconn (by rw [hst]; decide) hi h).1
  | prepareFailed hst hi h hr hp => exact (hconn hst hi h).1.trans hp.sameGraphs
  | prepared hst hi h hp =>
      have hne : (c.sess s).state ≠ .sessionClosed := by
        rcases hst with e | e <;> rw [e] <;> decide
      exact (hconn hne hi h).1.trans hp.sameGraphs
  | startFailed hst hi h hp hr hstart =>
      obtain ⟨h₁, hs₁⟩ := hconn (by rw [hst]; decide) hi h
      exact (h₁.trans hp.sameGraphs).trans (hstart.sameGraphs (hp.facts.1 ▸ hs₁))
  | started hst hi h hp hstart =>
      obtain ⟨h₁, hs₁⟩ := hconn (by rw [hst]; decide) hi h
      exact (h₁.trans hp.sameGraphs).trans (hstart.sameGraphs (hp.facts.1 ▸ hs₁))

theorem AifDisconnect.sameGraphs {lost : Prop} (h : AifDisconnect lost s i c r c') :
    SameGraphs s c c' := by
  cases h with
  | already hr => exact .refl s c
  | forgotten hst hi => exact .of_frame ((Frame.setRow c i _).trans (.setRow _ i _))
  | disconnected hst hi hd =>
      have hf := (Frame.setRow (s := s) c i .aifClose).trans hd.frame
      split_ifs with hr
      · exact .of_frame (hf.trans (.setRow _ i _))
      · exact .of_frame hf

/-! ### Open sessions stay open -/

theorem Prepare.closed_iff (h : Prepare s c r c') (hi : (c.sess s).Idle) :
    (c'.sess s).state = .sessionClosed ↔ (c.sess s).state = .sessionClosed := by
  cases h with
  | early hr => exact Iff.rfl
  | late hn hr hu => rw [(frame_of_until (fun _ _ _ _ => PrepareTurn.frame) hu).state]
  | prepared hn hu =>
      rw [Core.state_setState]
      exact iff_of_false (by decide) (hi.not_closed hn)

theorem Start.closed_iff {gate : Prop} (h : Start gate s c r c') (hs : s ∈ c.pool)
    (hi : (c.sess s).Idle) :
    (c'.sess s).state = .sessionClosed ↔ (c.sess s).state = .sessionClosed := by
  cases h with
  | early h hr hp => rw [hp.sess hs]
  | unwound h hn hr hp hu hc =>
      have hf := (frame_of_until (fun _ _ _ _ => StartTurn.frame) hu).trans
        (frame_of_chain (fun _ _ _ => StopTurn.frame) hc)
      rw [hf.state, hp.sess hs]
  | started h hn hp hu =>
      rw [Core.state_setState]
      exact iff_of_false (by decide) (hi.not_closed hn)

theorem Stop.closed_iff (h : Stop s c r c') :
    (c'.sess s).state = .sessionClosed ↔ (c.sess s).state = .sessionClosed := by
  cases h with
  | early hr => exact Iff.rfl
  | stopped hst hc =>
      rw [Core.state_setState, hst]
      exact iff_of_false (by decide) (by decide)

theorem HotConnect.closed_iff {cleans gate u} (h : HotConnect cleans gate s i c r u c')
    (hs : s ∈ c.pool) :
    (c'.sess s).state = .sessionClosed ↔ (c.sess s).state = .sessionClosed := by
  have hconn : ∀ {c₁ : Core}, Connect cleans s i (c.openedCount s) c 0 c₁ →
      ((c₁.setRow s i .aifOpened).sess s).state = (c.sess s).state ∧
        s ∈ (c₁.setRow s i .aifOpened).pool := by
    intro c₁ hc
    have hf := Frame.setRow (s := s) c₁ i .aifOpened
    refine ⟨hf.state.trans hc.state, ?_⟩
    rw [hf.pool, hc.pool]
    exact hs
  have hprep : ∀ {c₁ c₂ : Core} {r' : ℤ}, (c.sess s).state ≠ .sessionClosed →
      Connect cleans s i (c.openedCount s) c 0 c₁ → Prepare s (c₁.setRow s i .aifOpened) r' c₂ →
      (c₂.sess s).state ≠ .sessionClosed ∧ s ∈ c₂.pool := by
    intro c₁ c₂ r' hst hc hp
    obtain ⟨hst₁, hs₁⟩ := hconn hc
    have hne : ((c₁.setRow s i .aifOpened).sess s).state ≠ .sessionClosed := hst₁ ▸ hst
    exact ⟨mt (hp.closed_iff (.of_state hne)).mp hne, hp.facts.1 ▸ hs₁⟩
  cases h with
  | already hr => exact Iff.rfl
  | waiting hst hi => rw [(Frame.setRow (s := s) c i _).state]
  | failed hst hi hr hc => rw [hc.state]
  | opened hst hi hc => rw [(hconn hc).1]
  | prepareFailed hst hi hc hr hp =>
      exact iff_of_false (hprep hst hc hp).1 hst
  | prepared hst hi hc hp =>
      have hne : (c.sess s).state ≠ .sessionClosed := by
        rcases hst with e | e <;> rw [e] <;> decide
      exact iff_of_false (hprep hne hc hp).1 hne
  | startFailed hst hi hc hp hr hstart =>
      have hne : (c.sess s).state ≠ .sessionClosed := by
        rw [hst]
        decide
      obtain ⟨h₂, hs₂⟩ := hprep hne hc hp
      exact iff_of_false (mt (hstart.closed_iff hs₂ (.of_state h₂)).mp h₂) hne
  | started hst hi hc hp hstart =>
      have hne : (c.sess s).state ≠ .sessionClosed := by
        rw [hst]
        decide
      obtain ⟨h₂, hs₂⟩ := hprep hne hc hp
      exact iff_of_false (mt (hstart.closed_iff hs₂ (.of_state h₂)).mp h₂) hne

theorem AifDisconnect.state {lost : Prop} (h : AifDisconnect lost s i c r c') :
    (c'.sess s).state = (c.sess s).state := by
  cases h with
  | already hr => rfl
  | forgotten hst hi => exact ((Frame.setRow (s := s) c i _).trans (.setRow _ i _)).state
  | disconnected hst hi hd =>
      have hf := (Frame.setRow (s := s) c i .aifClose).trans hd.frame
      split_ifs with hr
      · exact (hf.trans (.setRow _ i _)).state
      · exact hf.state

theorem SessCore.Held.congr {x y : SessCore} (h : x.Held) (hg : y.graph = x.graph)
    (hst : y.state = .sessionClosed ↔ x.state = .sessionClosed) : y.Held := by
  unfold SessCore.Held
  rw [hst, hg]
  exact h

/-! ### Closing a session -/

theorem Held.exists_graph {x : SessCore} (h : x.Held) (hst : x.state ≠ .sessionClosed) :
    ∃ g, x.graph = some g :=
  Option.ne_none_iff_exists'.mp (mt h.mpr hst)

/-- Closing the graph of a session, if it has one. -/
theorem Graphs.closeGraph (h : Graphs c) (hs : s ∈ c.pool)
    (hg : CloseGraph (c.sess s).graph c r c') : Graphs (c'.setGraph s none) := by
  cases hg with
  | null hp hr =>
      refine h.only (s := s) (.setGraph s c none) ⟨rfl, rfl, ?_⟩
      rw [hp]
      simp [Core.setGraph]
  | closed hp => exact h.close hs hp

theorem Close.graphs (h : Close s c r c') (hs : s ∈ c.pool) (hg : Graphs c)
    (hh : (c.sess s).Held) : Graphs c' ∧ (c'.sess s).Held := by
  cases h with
  | already hr => exact ⟨hg, hh⟩
  | @closed _ c₁ c₂ hst hgr hc =>
      have hf := frame_of_chain (fun _ _ _ => CloseTurn.frame) hc
      have h₁ := hg.closeGraph hs hgr
      have h₂ : Graphs c₂ := h₁.only (.of_frame hf) (.of_frame hf)
      refine ⟨h₂.only (s := s) (.setState s _ _) (.setState s _ _), ?_⟩
      have hnone : (c₂.sess s).graph = none := by
        rw [hf.graph]
        simp [Core.setGraph]
      refine iff_of_true (Core.state_setState _ s _) ?_
      rw [(SameGraphs.setState s c₂ _).graph]
      exact hnone

/-! ### Opening a session -/

/-- The first connection of a closed session without a graph opens one. -/
theorem OpenFirst.graphs {cleans : Prop} (h : OpenFirst cleans s c 0 c') (hs : s ∈ c.pool)
    (hg : Graphs c) (hn : (c.sess s).graph = none) :
    Graphs c' ∧ (c'.sess s).graph = some c.nextGraph ∧
      (c'.sess s).state = (c.sess s).state ∧ (c'.sess s).loopback = (c.sess s).loopback ∧
      (c'.sess s).ecRef = (c.sess s).ecRef := by
  cases h with
  | noAif hr hi h => exact absurd rfl hr
  | failed hr hi hc => exact absurd rfl hr
  | @opened i c₁ hi hc =>
      obtain ⟨d, rfl⟩ := hc.opens hn
      have hdev : Graphs (c.openDev d) :=
        hg.only (s := s) (.of_frame (.onDev c d _)) (.of_frame (.onDev c d _))
      have hnew := hdev.newGraph hs hn
      have hf := Frame.setRow (s := s) ((c.openDev d).newGraph s) i .aifOpened
      refine ⟨hnew.only (.of_frame hf) (.of_frame hf), ?_, ?_, ?_, ?_⟩
      · rw [hf.graph]
        simp [Core.newGraph, Core.setGraph, Core.openDev, Core.onDev]
      · rw [hf.state]
        simp [Core.newGraph, Core.setGraph, Core.openDev, Core.onDev]
      · rw [hf.loopback]
        simp [Core.newGraph, Core.setGraph, Core.openDev, Core.onDev]
      · rw [hf.ecRef]
        simp [Core.newGraph, Core.setGraph, Core.openDev, Core.onDev]

/-- Without a graph no edge can be added. -/
theorem OpenEdges.off_of_none (h : OpenEdges s c 0 c') (hs : s ∈ c.pool)
    (hg : (c.sess s).graph = none) :
    (c.sess s).loopback.2 = false ∧ (c.sess s).ecRef.2 = false := by
  have hedge : ∀ {kind setting} {c c' : Core}, (c.sess s).graph = none →
      OpenEdge s kind setting c 0 c' → setting.2 = false := by
    intro kind setting c c' hg h
    cases h with
    | off h => exact h
    | on h he =>
        cases he with
        | early hr hp => exact absurd rfl hr
        | called hp hg' => exact absurd hg (hg' rfl)
  cases h with
  | loopback hr hl => exact absurd rfl hr
  | ecRef hl he =>
      have hs₁ := hl.sess hs
      rw [hs₁] at he
      exact ⟨hedge hg hl, hedge (by rw [hs₁]; exact hg) he⟩

/-- An open of a closed session leaves it closed without a graph, or open with one. -/
theorem OpenSteps.graphs {b : OpenBranches} (h : OpenSteps b s c r c') (hs : s ∈ c.pool)
    (hst : (c.sess s).state = .sessionClosed) (hc : ¬ b.cleans) (he : ¬ b.edgesFail)
    (hsil : b.silent → (c.sess s).loopback.2 = true ∨ (c.sess s).ecRef.2 = true)
    (hg : Graphs c) (hh : (c.sess s).Held) : Graphs c' ∧ (c'.sess s).Held := by
  have hnone : (c.sess s).graph = none := hh.mp hst
  have hloop : ∀ {r₂ : ℤ} {c₁ c₂ : Core}, OpenFirst b.cleans s c 0 c₁ →
      Reminders s (c.rowRange s) 1 c₁ r₂ c₂ →
      Graphs c₂ ∧ s ∈ c₂.pool ∧ (c₂.sess s).graph ≠ none ∧
        (c₂.sess s).state = .sessionClosed ∧ (c₂.sess s).loopback = (c.sess s).loopback ∧
        (c₂.sess s).ecRef = (c.sess s).ecRef := by
    intro r₂ c₁ c₂ h₁ h₂
    obtain ⟨hg₁, hgr₁, hst₁, hlb₁, hec₁⟩ := h₁.graphs hs hg hnone
    have hf := h₂.frame (by decide)
    refine ⟨hg₁.only (.of_frame hf) (.of_frame hf), ?_, ?_, ?_, hf.loopback.trans hlb₁,
      hf.ecRef.trans hec₁⟩
    · rw [hf.pool, h₁.pool]
      exact hs
    · rw [hf.graph, hgr₁]
      exact fun h => nomatch h
    · rw [hf.state, hst₁, hst]
  have hunw : ∀ {r₃ : ℤ} {lost} {c₂ c₃ : Core}, Unwind lost s c₂ r₃ c₃ → Graphs c₂ →
      s ∈ c₂.pool → (c₂.sess s).state = .sessionClosed →
      Graphs c₃ ∧ s ∈ c₃.pool ∧ (c₃.sess s).graph = none ∧
        (c₃.sess s).state = .sessionClosed ∧ (c₃.sess s).loopback = (c₂.sess s).loopback ∧
        (c₃.sess s).ecRef = (c₂.sess s).ecRef := by
    intro r₃ lost c₂ c₃ h₃ hg₂ hs₂ hst₂
    cases h₃ with
    | @intro c₄ c₅ hch hgr =>
        have hf := frame_of_chain (fun _ _ _ h => UnwindTurn.frame h) hch
        have hg₄ : Graphs c₄ := hg₂.only (.of_frame hf) (.of_frame hf)
        have hs₄ : s ∈ c₄.pool := hf.pool ▸ hs₂
        refine ⟨hg₄.closeGraph hs₄ hgr, ?_, ?_, ?_, ?_, ?_⟩
        · show s ∈ c₅.pool
          rw [hgr.pool]
          exact hs₄
        all_goals simp [Core.setGraph, hgr.sess, hf.state, hst₂, hf.loopback, hf.ecRef]
  cases h with
  | first hr h₁ hu he =>
      have hf : Frame s c c' := by
        cases h₁ with
        | noAif hr hi h => exact .refl s c
        | failed hr hi h => exact h.frame_of_same hc (.inl hr)
        | opened hi h => exact absurd rfl hr
      exact ⟨hg.only (.of_frame hf) (.of_frame hf), hh.congr hf.graph (by rw [hf.state])⟩
  | unwound hr h₁ h₂ hr₂ h₃ hu hs' he =>
      obtain ⟨hg₂, hs₂, -, hst₂, -, -⟩ := hloop h₁ h₂
      obtain ⟨hg₃, -, hn₃, hst₃, -, -⟩ := hunw h₃ hg₂ hs₂ hst₂
      exact ⟨hg₃, iff_of_true hst₃ hn₃⟩
  | @resumed _ _ _ _ c₃ c₄ h₁ h₂ hr₂ h₃ hu hs' he h₄ =>
      obtain ⟨hg₂, hs₂, -, hst₂, hlb₂, hec₂⟩ := hloop h₁ h₂
      obtain ⟨hg₃, hs₃, hn₃, hst₃, hlb₃, hec₃⟩ := hunw h₃ hg₂ hs₂ hst₂
      have hg₄ : Graphs c₄ := hg₃.inert h₄.inert
      have hsess := h₄.sess hs₃
      split_ifs with hr
      · -- Success would mean that no edge was asked for.
        subst hr
        obtain ⟨hlb, hec⟩ := h₄.off_of_none hs₃ hn₃
        rw [hlb₃, hlb₂] at hlb
        rw [hec₃, hec₂] at hec
        rcases hsil hs' with h | h
        · rw [hlb] at h
          cases h
        · rw [hec] at h
          cases h
      · refine ⟨hg₄, iff_of_true ?_ ?_⟩
        · rw [hsess]
          exact hst₃
        · rw [hsess]
          exact hn₃
  | edges hr h₁ h₂ h₃ hu he' => exact absurd he' he
  | @opened c₁ c₂ c₃ h₁ h₂ h₃ hu he =>
      obtain ⟨hg₂, hs₂, hn₂, -, -, -⟩ := hloop h₁ h₂
      have hg₃ : Graphs c₃ := hg₂.inert h₃.inert
      refine ⟨hg₃.only (s := s) (.setState s _ _) (.setState s _ _), iff_of_false ?_ ?_⟩
      · rw [Core.state_setState]
        decide
      · rw [(SameGraphs.setState s c₃ _).graph, h₃.sess hs₂]
        exact hn₂

end

/-! ### Calls -/

/-- The calls that neither leave a closed graph behind nor go on without one: the first
connection of an open does not end at `graph_cleanup`, no edge of it fails, and when its `unwind`
closes the graph without an error an edge is still to be added; and no connection to an open
session ends at `graph_cleanup` with the graph closed. -/
def GraphHonest (w : World) (call : Call) : Prop :=
  (∀ s ∈ call.op.opens?, s ∈ w.pool → (w.sess s).state = .sessionClosed →
    ¬ FirstCleansUp s { w with ext := call.ext } ∧ ¬ EdgesFail s { w with ext := call.ext } ∧
    (Silent s { w with ext := call.ext } →
      (w.sess s).loopbackState = true ∨ (w.sess s).ecRefState = true)) ∧
  (∀ p ∈ call.op.connects?, p.1 ∈ w.pool → (w.sess p.1).state ≠ .sessionClosed →
    (w.core.pairState p.1 p.2).toNat ≤ AifState.aifOpened.toNat →
    ¬ AifCleansUp p.1 p.2 { w with ext := call.ext })

instance (w : World) (call : Call) : Decidable (GraphHonest w call) :=
  inferInstanceAs (Decidable (_ ∧ _))

theorem GraphHonest.edgeHonest {w : World} {call : Call} (h : GraphHonest w call) :
    EdgeHonest w call := fun s ho hp hst => (h.1 s ho hp hst).2.1

theorem SessCore.held_empty : ({} : SessCore).Held := iff_of_true rfl rfl

theorem GraphOk.inert {named : Option ℕ} {c c' : Core} (h : GraphOk c) (hi : Inert named c c') :
    GraphOk c' := by
  refine ⟨h.graphs.inert hi, ?_, h.idle.inert hi⟩
  exact hi.forall_sess SessCore.held_empty (fun x y hst hg _ hx => hx.congr hg (by rw [hst])) h.held

theorem Step.graphOk {w : World} {call : Call} {r : ℤ} {c' : Core}
    (hs : Step { w with ext := call.ext } call.op r c') (hc : GraphHonest w call)
    (h : GraphOk w.core) : GraphOk c' := by
  have hidle : IdleAll c' := hs.idleAll hc.edgeHonest h.idle
  obtain ⟨op, ext⟩ := call
  obtain ⟨hopen, hconn⟩ := hc
  have hmoved : ∀ {s : ℕ} {c : Core}, GraphOk c → Only s c c' → Graphs c' →
      (c'.sess s).Held → GraphOk c' := by
    intro s c hc ho hg hh
    exact ⟨hg, ho.forall_sess SessCore.held_empty hh hc.held, hidle⟩
  -- Calls that keep the graphs only have to keep the session open or closed.
  have hsame : ∀ {s : ℕ} {c : Core}, GraphOk c → s ∈ c.pool → Only s c c' → SameGraphs s c c' →
      ((c'.sess s).state = .sessionClosed ↔ (c.sess s).state = .sessionClosed) → GraphOk c' := by
    intro s c hc hs ho hg hst
    exact hmoved hc ho (hc.graphs.only ho hg) ((hc.held s hs).congr hg.graph hst)
  cases hs with
  | inert hi => exact h.inert hi
  | @«open» s _ _ lost hp hst ho hl =>
      obtain ⟨hcl, hedge, hsil⟩ := hopen s rfl hp hst
      obtain ⟨hg, hh⟩ := ho.graphs hp hst hcl hedge hsil h.graphs (h.held s hp)
      exact hmoved h (ho.only hp) hg hh
  | close hp hcl =>
      obtain ⟨hg, hh⟩ := hcl.graphs hp h.graphs (h.held _ hp)
      exact hmoved h (hcl.only hp) hg hh
  | prepare hp hpr =>
      exact hsame h hp (hpr.only hp) hpr.sameGraphs (hpr.closed_iff (h.idle _ hp))
  | start hp hst =>
      exact hsame h hp (hst.only hp) (hst.sameGraphs hp) (hst.closed_iff hp (h.idle _ hp))
  | stop hp hst => exact hsame h hp (hst.only hp) hst.sameGraphs hst.closed_iff
  | @connect s aif _ _ hp ha =>
      have hclean := hconn (s, aif) rfl hp
      cases ha with
      | noMemory hr hu => exact h
      | done hu hi hc =>
          obtain ⟨hs₁, -, hpair, hst₁⟩ := hi.pair hp
          refine hsame (h.inert hi.inert) hs₁ (hc.only hs₁) (hc.sameGraphs hs₁ ?_)
            (hc.closed_iff hs₁)
          rw [hpair, hst₁]
          exact hclean
      | @unwound _ i c₁ c₂ _ lost hu hi hc hd =>
          obtain ⟨hs₁, -, hpair, hst₁⟩ := hi.pair hp
          have hg₂ : SameGraphs s c₁ c₂ := by
            refine hc.sameGraphs hs₁ ?_
            rw [hpair, hst₁]
            exact hclean
          refine hsame (h.inert hi.inert) hs₁ ((hc.only hs₁).trans hs₁ (.of_frame hd.frame))
            (hg₂.trans (.of_frame hd.frame)) ?_
          rw [hd.frame.state]
          exact hc.closed_iff hs₁
  | @disconnect s aif _ _ _ _ hp hi hd =>
      obtain ⟨hs₁, -, -, -⟩ := hi.pair hp
      exact hsame (h.inert hi.inert) hs₁ hd.only hd.sameGraphs (by rw [hd.state])

/-! ### Runs -/

/-- A fault other than the use of a closed graph. -/
def Fault.IsCrash (f : Fault) : Prop := ∃ c, f = .crash c

theorem exec_graphOk {w : World} (call : Call) (hc : GraphHonest w call) (h : GraphOk w.core) :
    Ensures Fault.IsCrash (exec call) w fun _ w' => GraphOk w'.core := by
  refine (exec_ensures (fun c => ⟨c, rfl⟩) (fun s hs g hg => .inl ?_) call).imp fun r w' hs =>
    hs.graphOk hc h
  exact h.graphs.live s hs g hg

/-- **Graphs are owned by open sessions.**  A run of honest calls never uses a closed graph.  In
every state it reaches the open sessions have live graphs, the closed ones have none, and every
live graph is that of an open session. -/
theorem graph_ownership {w : World} {calls : List Call} (hw : Initial w)
    (hc : Admits exec GraphHonest calls w) :
    (∀ g, runAll exec calls w ≠ .error (.useAfterClose g)) ∧
    ∀ w', runAll exec calls w = .ok ((), w') →
      (∀ s ∈ w'.pool, (w'.sess s).state ≠ .sessionClosed →
        ∃ g, (w'.sess s).graph = some g ∧ (w'.heap g).isSome = true) ∧
      (∀ s ∈ w'.pool, (w'.sess s).state = .sessionClosed → (w'.sess s).graph = none) ∧
      (∀ g, (w'.heap g).isSome = true →
        ∃ s ∈ w'.pool, (w'.sess s).state ≠ .sessionClosed ∧ (w'.sess s).graph = some g) := by
  have hinit : GraphOk w.core := by
    have hpool : ∀ t, t ∉ w.core.pool := by
      intro t ht
      rw [show w.core.pool = [] from hw.pool] at ht
      cases ht
    have hlive : ∀ g, w.core.live g ≠ true := by
      intro g
      simp [World.core, hw.heap g]
    exact ⟨⟨fun t ht => absurd ht (hpool t), fun g hg => absurd hg (hlive g),
      fun t ht => absurd ht (hpool t), fun g hg => absurd hg (hlive g)⟩,
      fun t ht => absurd ht (hpool t), fun t ht => absurd ht (hpool t)⟩
  have hrun := runAll_invariant exec (I := fun w => GraphOk w.core)
    (fun w call h hc => exec_graphOk call hc h) calls w hinit hc
  refine ⟨fun g he => ?_, fun w' hw' => ?_⟩
  · unfold Ensures at hrun
    rw [he] at hrun
    obtain ⟨c, hcrash⟩ := hrun
    cases hcrash
  · have hok : GraphOk w'.core := hrun.of_ok hw'
    refine ⟨fun s hs hst => ?_, fun s hs hst => (hok.held s hs).mp hst, fun g hg => ?_⟩
    · obtain ⟨g, hg⟩ := Held.exists_graph (hok.held s hs) hst
      exact ⟨g, hg, hok.graphs.live s hs g hg⟩
    · obtain ⟨s, hs, hgr⟩ := hok.graphs.owned g hg
      refine ⟨s, hs, fun hst => ?_, hgr⟩
      rw [(hok.held s hs).mp hst] at hgr
      cases hgr

/-- Two sessions; the second device of the first one refuses to be prepared, and an open fails in
its second connection while closing the graph fails too. -/
def failures : List Call :=
  [⟨.aifConnect 0 1 true, []⟩, ⟨.open 0, []⟩, ⟨.aifConnect 0 2 true, []⟩,
    ⟨.prepare 0, failAfter 0 1⟩, ⟨.resume 0, []⟩, ⟨.aifConnect 3 1 true, []⟩,
    ⟨.aifConnect 3 2 true, []⟩, ⟨.open 3, failAfter 19 4⟩,
    ⟨.resume 3, []⟩, ⟨.close 0, []⟩]

theorem graph_ownership_failures :
    ∃ w', runAll exec failures (startUp 4) = .ok ((), w') ∧
      (w'.sess 3).graph = none ∧ ∀ g, (w'.heap g).isSome = false := by
  obtain ⟨_, w', hrun, hpool, h0, h3⟩ := Ensures.exists_ok (m := runAll exec failures)
    (s := startUp 4) (Q := fun _ w' => w'.pool = [0, 3] ∧
      (w'.sess 0).state = .sessionClosed ∧ (w'.sess 3).state = .sessionClosed) (by decide +kernel)
  have hown := (graph_ownership (initial_startUp 4) (by decide +kernel)).2 w' hrun
  refine ⟨w', hrun, hown.2.1 3 (by rw [hpool]; decide) h3, fun g => ?_⟩
  rw [← Bool.not_eq_true]
  intro hg
  obtain ⟨s, hs, hst, -⟩ := hown.2.2 g hg
  rw [hpool] at hs
  rcases List.mem_pair.mp hs with rfl | rfl
  · exact hst h0
  · exact hst h3

/-- The second connection of an open fails, and closing the graph succeeds. -/
def openWithoutGraph : List Call :=
  [⟨.aifConnect 0 1 true, []⟩, ⟨.aifConnect 0 2 true, []⟩,
    ⟨.open 0, failAfter 20 1⟩]

theorem graph_ownership_openWithoutGraph :
    Ensures noFault (runAll exec openWithoutGraph) (startUp 4) fun _ w =>
      (w.sess 0).state = .sessionOpened ∧ (w.sess 0).graph = none := by
  decide +kernel

end Agm
