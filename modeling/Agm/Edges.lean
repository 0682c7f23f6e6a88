import Agm.Agreement

/-! # Loopback and echo reference edges

The edges of a session are kept in three places: the pair of an id and a flag that the session
caches, the early return when a call repeats that pair, and the calls of `graph_add` and
`graph_remove` on the open graph.  The record of those calls (`Core.edges`) tells which edges the
graph has.

* `edgeSet` is the set of edges a graph has after the calls of the record.
* `Setting` says what `session_obj_set_loopback` and `session_obj_set_ec_ref` can do; they are
  one function with two caches.
* `Linked` is the invariant: an open session's graph has the edges the session caches, and a
  session that can still be opened has a graph without edges, or none.
* `edges_linked`: runs keep it as long as a call that names another id than the cached one also
  changes the flag. -/

namespace Agm

open Prog

/-! ### The edges of a graph -/

/-- The edges of one kind that a graph has; the latest call comes first. -/
def edgeSet (kind : EdgeKind) (g : Option ℕ) : List EdgeCall → Finset ℕ
  | [] => ∅
  | e :: es =>
      if e.graph = g ∧ e.kind = kind ∧ e.ret = 0 then
        if e.enable then insert e.id (edgeSet kind g es) else (edgeSet kind g es).erase e.id
      else edgeSet kind g es

/-- An edge was only ever asked to be removed while the graph had it. -/
def RemovesKnown : List EdgeCall → Prop
  | [] => True
  | e :: es => (e.enable = false → e.id ∈ edgeSet e.kind e.graph es) ∧ RemovesKnown es

instance decidableRemovesKnown : ∀ es, Decidable (RemovesKnown es)
  | [] => isTrue trivial
  | _ :: es =>
      have : Decidable (RemovesKnown es) := decidableRemovesKnown es
      inferInstanceAs (Decidable (_ ∧ RemovesKnown es))

/-- The edges that a cached pair stands for. -/
def wanted (setting : ℕ × Bool) : Finset ℕ := if setting.2 then {setting.1} else ∅

section
variable {kind : EdgeKind} {g : Option ℕ} {e : EdgeCall} {es : List EdgeCall}

/-- A graph without a successful call has no edges. -/
theorem edgeSet_eq_empty (h : ∀ e ∈ es, e.ret = 0 → e.graph ≠ g) : edgeSet kind g es = ∅ := by
  induction es with
  | nil => rfl
  | cons e es ih =>
      obtain ⟨he, hes⟩ := List.forall_mem_cons.mp h
      unfold edgeSet
      rw [if_neg fun hcond => he hcond.2.2 hcond.1]
      exact ih hes

/-- A call that fails changes no set. -/
theorem edgeSet_failed (h : e.ret ≠ 0) : edgeSet kind g (e :: es) = edgeSet kind g es := by
  conv_lhs => unfold edgeSet
  rw [if_neg fun hcond => h hcond.2.2]

theorem edgeSet_otherKind (h : e.kind ≠ kind) : edgeSet kind g (e :: es) = edgeSet kind g es := by
  conv_lhs => unfold edgeSet
  rw [if_neg fun hcond => h hcond.2.1]

theorem edgeSet_done (id : ℕ) (en : Bool) :
    edgeSet kind g (⟨g, kind, id, en, 0⟩ :: es) =
      if en then insert id (edgeSet kind g es) else (edgeSet kind g es).erase id := by
  conv_lhs => unfold edgeSet
  rw [if_pos ⟨rfl, rfl, rfl⟩]

end

/-! ### Settings -/

/-- The cached pair of an edge. -/
def SessCore.setting (x : SessCore) : EdgeKind → ℕ × Bool
  | .loopback => x.loopback
  | .ecRef => x.ecRef

/-- Assign the cached pair of an edge. -/
def SessCore.putSetting (x : SessCore) (kind : EdgeKind) (p : ℕ × Bool) : SessCore :=
  match kind with
  | .loopback => { x with loopback := p }
  | .ecRef => { x with ecRef := p }

/-- `session_obj_set_loopback` and `session_obj_set_ec_ref`. -/
inductive Setting (s : ℕ) (kind : EdgeKind) (id : ℕ) (on : Bool) (c : Core) : ℤ → Core → Prop
  | already {r : ℤ} (hr : r ≠ 0) : Setting s kind id on c r c
  | cached (hst : (c.sess s).state = .sessionClosed) :
      Setting s kind id on c 0 (c.setSess s ((c.sess s).putSetting kind (id, on)))
  | failed {r : ℤ} {c₁ : Core} (hst : (c.sess s).state ≠ .sessionClosed)
      (hne : (c.sess s).setting kind ≠ (id, on)) (hr : r ≠ 0)
      (he : SetEdge s kind (if on then id else ((c.sess s).setting kind).1) on c r c₁) :
      Setting s kind id on c r c₁
  | moved {c₁ : Core} (hst : (c.sess s).state ≠ .sessionClosed)
      (hne : (c.sess s).setting kind ≠ (id, on))
      (he : SetEdge s kind (if on then id else ((c.sess s).setting kind).1) on c 0 c₁) :
      Setting s kind id on c 0 (c₁.setSess s ((c₁.sess s).putSetting kind (id, on)))

section
variable {s : ℕ} {w : World}

theorem sessionObjSetLoopback_ensures (hs : s ∈ w.pool) (pb : ℕ) (state : Bool) :
    Ensures anyFault (sessionObjSetLoopback s pb state) w fun r w' =>
      Setting s .loopback pb state w.core r w'.core := by
  unfold sessionObjSetLoopback
  rw [ensures_bind, ensures_getSess, ensures_ite]
  refine ⟨fun _ => .already (by decide), fun hne => ?_⟩
  have hne' : (w.core.sess s).setting .loopback ≠ (pb, state) := by
    intro he
    obtain ⟨hid, hon⟩ := Prod.mk.inj he
    exact hne ⟨hid.symm, hon.symm⟩
  rw [ensures_bind, ensures_ite]
  refine ⟨fun hst => ?_, fun hst => ?_⟩
  · rw [ensures_pure, if_neg (by decide), modifySess, ensures_bind, ensures_modify, ensures_pure,
      core_update_sess]
    exact .cached hst
  · refine (sessionSetLoopback_ensures (fun _ => trivial) s _ state hs fun _ _ =>
      .inr trivial).imp fun r w₁ h₁ => ?_
    rw [ensures_ite]
    refine ⟨fun hr => .failed hst hne' hr h₁, fun hr => ?_⟩
    obtain rfl := not_not.mp hr
    rw [modifySess, ensures_bind, ensures_modify, ensures_pure, core_update_sess]
    exact .moved hst hne' h₁

theorem sessionObjSetEcRef_ensures (aif : ℕ) (state : Bool) :
    Ensures anyFault (sessionObjSetEcRef s aif state) w fun r w' =>
      Setting s .ecRef aif state w.core r w'.core := by
  unfold sessionObjSetEcRef
  rw [ensures_bind, ensures_getSess, ensures_ite]
  refine ⟨fun _ => .already (by decide), fun hne => ?_⟩
  have hne' : (w.core.sess s).setting .ecRef ≠ (aif, state) := by
    intro he
    obtain ⟨hid, hon⟩ := Prod.mk.inj he
    exact hne ⟨hid.symm, hon.symm⟩
  rw [ensures_bind, ensures_ite]
  refine ⟨fun hst => ?_, fun hst => ?_⟩
  · rw [ensures_pure, if_neg (by decide), modifySess, ensures_bind, ensures_modify, ensures_pure,
      core_update_sess]
    exact .cached hst
  · refine (sessionSetEcRef_ensures (fun _ => trivial) s _ state fun _ _ =>
      .inr trivial).imp fun r w₁ h₁ => ?_
    rw [ensures_ite]
    refine ⟨fun hr => .failed hst hne' hr h₁, fun hr => ?_⟩
    obtain rfl := not_not.mp hr
    rw [modifySess, ensures_bind, ensures_modify, ensures_pure, core_update_sess]
    exact .moved hst hne' h₁

end

/-! ### The record of the calls -/

/-- The record so far: removals were of known edges, and what succeeded was on a graph that had
been opened. -/
structure Recorded (c : Core) : Prop where
  known : RemovesKnown c.edges
  opened : ∀ e ∈ c.edges, e.ret = 0 → ∃ g < c.nextGraph, e.graph = some g

section
variable {s id : ℕ} {kind : EdgeKind} {on : Bool} {c c' : Core} {r : ℤ}

theorem Recorded.edgeSet_none (h : Recorded c) (kind : EdgeKind) :
    edgeSet kind none c.edges = ∅ := by
  refine edgeSet_eq_empty fun e he hr hg => ?_
  obtain ⟨g, -, hg'⟩ := h.opened e he hr
  rw [hg] at hg'
  cases hg'

theorem Recorded.edgeSet_next (h : Recorded c) (kind : EdgeKind) :
    edgeSet kind (some c.nextGraph) c.edges = ∅ := by
  refine edgeSet_eq_empty fun e he hr hg => ?_
  obtain ⟨g, hlt, hg'⟩ := h.opened e he hr
  obtain rfl := Option.some.inj (hg.symm.trans hg')
  exact lt_irrefl _ hlt

theorem Recorded.congr (h : Recorded c) (he : c'.edges = c.edges) (hn : c.nextGraph ≤ c'.nextGraph) :
    Recorded c' := by
  refine ⟨by rw [he]; exact h.known, fun e hmem hr => ?_⟩
  rw [he] at hmem
  obtain ⟨g, hlt, hg⟩ := h.opened e hmem hr
  exact ⟨g, hlt.trans_le hn, hg⟩

theorem Peek.edges (h : Peek c c') : c'.edges = c.edges ∧ c'.nextGraph = c.nextGraph := by
  cases h with
  | same => exact ⟨rfl, rfl⟩
  | created h => exact ⟨rfl, rfl⟩

/-- The session names only graphs that have been opened. -/
def Owned (s : ℕ) (c : Core) : Prop := ∀ g, (c.sess s).graph = some g → g < c.nextGraph

/-- The record after a call for an edge. -/
theorem SetEdge.recorded (h : SetEdge s kind id on c r c') (hrec : Recorded c) (how : Owned s c)
    (hrem : on = false → id ∈ edgeSet kind (c.sess s).graph c.edges) :
    Recorded c' ∧ c'.nextGraph = c.nextGraph := by
  cases h with
  | early hr hp => exact ⟨hrec.congr hp.edges.1 hp.edges.2.ge, hp.edges.2⟩
  | @called c₁ hp hg =>
      obtain ⟨hedges, hnext⟩ := hp.edges
      have hrec₁ : Recorded c₁ := hrec.congr hedges hnext.ge
      refine ⟨⟨⟨?_, hrec₁.known⟩, fun e he hr => ?_⟩, hnext⟩
      · intro hon
        rw [hedges]
        exact hrem hon
      · rcases List.mem_cons.mp he with rfl | he
        · obtain ⟨g, hgraph⟩ := Option.ne_none_iff_exists'.mp (hg hr)
          have hlt := how g hgraph
          rw [← hnext] at hlt
          exact ⟨g, hlt, hgraph⟩
        · exact hrec₁.opened e he hr

/-- The edges of the session's graph after a call that fails. -/
theorem SetEdge.edgeSet_failed (h : SetEdge s kind id on c r c') (hr : r ≠ 0) (k : EdgeKind)
    (g : Option ℕ) : edgeSet k g c'.edges = edgeSet k g c.edges := by
  cases h with
  | early hr' hp => rw [hp.edges.1]
  | called hp hg =>
      rw [← hp.edges.1]
      exact Agm.edgeSet_failed hr

/-- The edges of the session's graph after a call that succeeds. -/
theorem SetEdge.edgeSet_done (h : SetEdge s kind id on c 0 c') :
    (edgeSet kind (c.sess s).graph c'.edges =
      if on then insert id (edgeSet kind (c.sess s).graph c.edges)
      else (edgeSet kind (c.sess s).graph c.edges).erase id) ∧
    ∀ k ≠ kind, edgeSet k (c.sess s).graph c'.edges = edgeSet k (c.sess s).graph c.edges := by
  cases h with
  | early hr hp => exact absurd rfl hr
  | called hp hg =>
      rw [← hp.edges.1]
      exact ⟨Agm.edgeSet_done id on, fun k hk => edgeSet_otherKind (Ne.symm hk)⟩

/-! ### A graph without edges -/

/-- The session is closed, and its graph, if it has one, has no edges. -/
structure Bare (s : ℕ) (c : Core) : Prop where
  pool : s ∈ c.pool
  closed : (c.sess s).state = .sessionClosed
  record : Recorded c
  owned : Owned s c
  bare : ∀ kind, edgeSet kind (c.sess s).graph c.edges = ∅

theorem Bare.congr (h : Bare s c) (hp : c'.pool = c.pool) (he : c'.edges = c.edges)
    (hn : c'.nextGraph = c.nextGraph) (hg : (c'.sess s).graph = (c.sess s).graph)
    (hst : (c'.sess s).state = (c.sess s).state) : Bare s c' where
  pool := hp ▸ h.pool
  closed := hst.trans h.closed
  record := h.record.congr he hn.ge
  owned g hg' := by
    rw [hn]
    exact h.owned g (hg ▸ hg')
  bare kind := by
    rw [hg, he]
    exact h.bare kind

theorem Bare.frame (h : Bare s c) (hf : Frame s c c') : Bare s c' :=
  h.congr hf.pool hf.edges hf.nextGraph hf.graph hf.state

theorem Bare.newGraph (h : Bare s c) : Bare s (c.newGraph s) := by
  have hgraph : ((c.newGraph s).sess s).graph = some c.nextGraph := by
    simp [Core.newGraph, Core.setGraph]
  have hstate : ((c.newGraph s).sess s).state = (c.sess s).state := by
    simp [Core.newGraph, Core.setGraph]
  have hnext : (c.newGraph s).nextGraph = c.nextGraph + 1 := rfl
  refine ⟨h.pool, hstate.trans h.closed, h.record.congr rfl (by omega), fun g hg => ?_,
    fun kind => ?_⟩
  · obtain rfl := Option.some.inj (hgraph.symm.trans hg)
    omega
  · rw [hgraph]
    exact h.record.edgeSet_next kind

theorem Bare.joined {n : ℕ} (h : Bare s c) (hj : Joined s n c c') : Bare s c' := by
  cases hj with
  | same => exact h
  | opened hn hst => exact h.newGraph

theorem Connect.bare {cleans : Prop} {i n : ℕ} (h : Connect cleans s i n c r c') (hb : Bare s c) :
    Bare s c' := by
  cases h with
  | refused hr h => exact hb
  | undone hr h hd => exact hb.frame ((Frame.onDev c _ _).trans (.onDev _ _ _))
  | cleaned hr h hd hn hj hg =>
      exact ((hb.frame (.onDev c _ _)).joined hj).congr rfl rfl rfl rfl rfl
  | connected h hd hj hg => exact (hb.frame (.onDev c _ _)).joined hj

theorem OpenFirst.bare {cleans : Prop} (h : OpenFirst cleans s c r c') (hb : Bare s c) :
    Bare s c' := by
  cases h with
  | noAif hr hi h => exact hb
  | failed hr hi hc => exact hc.bare hb
  | opened hi hc => exact (hc.bare hb).frame (.setRow _ _ _)

theorem Unwind.bare {lost : ℕ → Prop} (h : Unwind lost s c r c') (hb : Bare s c) : Bare s c' := by
  cases h with
  | @intro c₁ c₂ hc hg =>
      have hb₁ := hb.frame (frame_of_chain (fun _ _ _ h => UnwindTurn.frame h) hc)
      have hedges : c₂.edges = c₁.edges ∧ c₂.nextGraph = c₁.nextGraph := by
        cases hg with
        | null hp hr => exact ⟨rfl, rfl⟩
        | closed hp => exact ⟨rfl, rfl⟩
      have hnone : ((c₂.setGraph s none).sess s).graph = none := by simp [Core.setGraph]
      have hrec : Recorded (c₂.setGraph s none) := hb₁.record.congr hedges.1 hedges.2.ge
      refine ⟨?_, ?_, hrec, fun g hg' => ?_, fun kind => ?_⟩
      · show s ∈ c₂.pool
        rw [hg.pool]
        exact hb₁.pool
      · simp only [Core.setGraph, Core.sess_setSess_self, hg.sess]
        exact hb₁.closed
      · rw [hnone] at hg'
        cases hg'
      · rw [hnone]
        exact hrec.edgeSet_none kind

/-! ### Opening -/

/-- An edge step of an open, on a graph that has no edge of the kind. -/
theorem OpenEdge.linked {setting : ℕ × Bool} (h : OpenEdge s kind setting c r c')
    (hrec : Recorded c) (how : Owned s c) (hbare : edgeSet kind (c.sess s).graph c.edges = ∅) :
    Recorded c' ∧ c'.nextGraph = c.nextGraph ∧
      (r = 0 → edgeSet kind (c.sess s).graph c'.edges = wanted setting) ∧
      ∀ k ≠ kind, edgeSet k (c.sess s).graph c'.edges = edgeSet k (c.sess s).graph c.edges := by
  cases h with
  | off hoff =>
      refine ⟨hrec, rfl, fun _ => ?_, fun _ _ => rfl⟩
      unfold wanted
      rw [hoff, hbare]
      rfl
  | on hon he =>
      obtain ⟨hrec', hnext⟩ := he.recorded hrec how fun h => nomatch h
      refine ⟨hrec', hnext, ?_, ?_⟩
      · rintro rfl
        rw [he.edgeSet_done.1, hbare, wanted, hon]
        rfl
      · intro k hk
        by_cases hr : r = 0
        · subst hr
          exact he.edgeSet_done.2 k hk
        · exact he.edgeSet_failed hr k _

theorem OpenEdges.linked (h : OpenEdges s c r c') (hb : Bare s c) :
    Recorded c' ∧ c'.nextGraph = c.nextGraph ∧
      (r = 0 → ∀ kind, edgeSet kind (c.sess s).graph c'.edges = wanted ((c.sess s).setting kind)) := by
  cases h with
  | loopback hr hl =>
      obtain ⟨hrec, hnext, -, -⟩ := hl.linked hb.record hb.owned (hb.bare _)
      exact ⟨hrec, hnext, fun h0 => absurd h0 hr⟩
  | @ecRef c₁ _ hl he =>
      obtain ⟨hrec₁, hnext₁, hset₁, hother₁⟩ := hl.linked hb.record hb.owned (hb.bare _)
      have hsess : c₁.sess s = c.sess s := hl.sess hb.pool
      have how₁ : Owned s c₁ := fun g hg => by
        rw [hnext₁]
        exact hb.owned g (hsess ▸ hg)
      have hbare₁ : edgeSet .ecRef (c₁.sess s).graph c₁.edges = ∅ := by
        rw [hsess, hother₁ .ecRef (by decide)]
        exact hb.bare .ecRef
      obtain ⟨hrec₂, hnext₂, hset₂, hother₂⟩ := he.linked hrec₁ how₁ hbare₁
      refine ⟨hrec₂, hnext₂.trans hnext₁, fun hr kind => ?_⟩
      rw [hsess] at hset₂ hother₂
      cases kind with
      | loopback =>
          rw [hother₂ .loopback (by decide)]
          exact hset₁ rfl
      | ecRef => exact hset₂ hr

/-- A connection leaves the pairs alone, so a loop of them leaves no pair waiting. -/
theorem Reminders.waiting {l : List ℕ} {n : ℕ} (h : Reminders s l n c r c') :
    (∀ j, (c.row s j).state ≠ .aifOpen → (c'.row s j).state ≠ .aifOpen) ∧
      (r = 0 → ∀ j ∈ l, (c'.row s j).state ≠ .aifOpen) := by
  induction h with
  | nil => exact ⟨fun _ h => h, fun _ j hj => nomatch hj⟩
  | @skip i is n c r c' h hs ih =>
      refine ⟨ih.1, fun hr j hj => ?_⟩
      rcases List.mem_cons.mp hj with rfl | hj
      · exact ih.1 j h
      · exact ih.2 hr j hj
  | fail h hr hc => exact ⟨fun j hj => by rw [hc.row]; exact hj, fun h0 => absurd h0 hr⟩
  | @next i is n c c₁ r c' h hc hs ih =>
      have hi : i < (c₁.sess s).rows.length := by
        rw [hc.rows]
        exact c.lt_of_row_ne (by rw [h]; decide)
      have hopened : ((c₁.setRow s i .aifOpened).row s i).state ≠ .aifOpen := by
        rw [c₁.row_setRow_self .aifOpened hi]
        exact fun h => nomatch h
      refine ⟨fun j hj => ih.1 j ?_, fun hr j hj => ?_⟩
      · by_cases hji : j = i
        · subst hji
          exact hopened
        · rw [c₁.row_setRow_of_ne _ (.inr hji), hc.row]
          exact hj
      · rcases List.mem_cons.mp hj with rfl | hj
        · exact ih.1 j hopened
        · exact ih.2 hr j hj

theorem Core.firstOpen_eq_none (h : ∀ j ∈ c.rowRange s, (c.row s j).state ≠ .aifOpen) :
    c.firstOpen s = none := by
  unfold Core.firstOpen
  rw [List.findIdx?_eq_none_iff]
  intro row hrow
  obtain ⟨j, hj, rfl⟩ := c.exists_row_of_mem hrow
  exact decide_eq_false (h j (List.mem_range.mpr hj))

/-! ### The invariant -/

/-- An open session's graph has the edges that the session caches, and a session that can still
be opened has a graph without edges, or none. -/
structure Linked (s : ℕ) (c : Core) : Prop where
  pool : s ∈ c.pool
  record : Recorded c
  owned : Owned s c
  shown : (c.sess s).state ≠ .sessionClosed →
    ∀ kind, edgeSet kind (c.sess s).graph c.edges = wanted ((c.sess s).setting kind)
  waits : (c.sess s).state = .sessionClosed → c.firstOpen s ≠ none →
    ∀ kind, edgeSet kind (c.sess s).graph c.edges = ∅

theorem Bare.linked (h : Bare s c) : Linked s c where
  pool := h.pool
  record := h.record
  owned := h.owned
  shown hopen := absurd h.closed hopen
  waits _ _ := h.bare

/-- The edge steps of an open that fail: no pair waits any more, or the session has no graph. -/
theorem OpenEdges.linked_failed (h : OpenEdges s c r c') (hb : Bare s c)
    (hwait : c.firstOpen s = none ∨ (c.sess s).graph = none) : Linked s c' := by
  obtain ⟨hrec, hnext, -⟩ := h.linked hb
  have hsess : c'.sess s = c.sess s := h.sess hb.pool
  have hclosed : (c'.sess s).state = .sessionClosed := by
    rw [hsess]
    exact hb.closed
  refine ⟨h.inert.pool s hb.pool, hrec, fun g hg => ?_, fun hopen => absurd hclosed hopen, ?_⟩
  · rw [hnext]
    exact hb.owned g (hsess ▸ hg)
  · intro _ hfirst kind
    rcases hwait with hnone | hnone
    · refine absurd ?_ hfirst
      unfold Core.firstOpen at hnone ⊢
      rw [hsess]
      exact hnone
    · rw [hsess, hnone]
      exact hrec.edgeSet_none kind

/-- The edge steps of an open that succeed. -/
theorem OpenEdges.linked_opened (h : OpenEdges s c 0 c') (hb : Bare s c) :
    Linked s (c'.setState s .sessionOpened) := by
  obtain ⟨hrec, hnext, hset⟩ := h.linked hb
  have hsess : c'.sess s = c.sess s := h.sess hb.pool
  have hgraph : ((c'.setState s .sessionOpened).sess s).graph = (c.sess s).graph := by
    simp [Core.setState, hsess]
  have hsetting : ∀ kind, ((c'.setState s .sessionOpened).sess s).setting kind =
      (c.sess s).setting kind := by
    intro kind
    cases kind <;> simp [Core.setState, hsess, SessCore.setting]
  have hopened : ((c'.setState s .sessionOpened).sess s).state = .sessionOpened := by
    simp [Core.setState]
  refine ⟨h.inert.pool s hb.pool, hrec.congr rfl le_rfl, fun g hg => ?_, fun _ kind => ?_, ?_⟩
  · show g < c'.nextGraph
    rw [hnext]
    exact hb.owned g (hgraph ▸ hg)
  · rw [hgraph, hsetting]
    exact hset rfl kind
  · intro hclosed
    rw [hopened] at hclosed
    cases hclosed

theorem OpenSteps.linked {b : OpenBranches} (h : OpenSteps b s c r c') (hl : Linked s c)
    (hst : (c.sess s).state = .sessionClosed) : Linked s c' := by
  by_cases hfirst : c.firstOpen s = none
  · rw [h.eq_of_firstOpen_none hfirst]
    exact hl
  have hb : Bare s c := ⟨hl.pool, hst, hl.record, hl.owned, hl.waits hst hfirst⟩
  have hloop : ∀ {r₂ : ℤ} {c₁ c₂ : Core}, OpenFirst b.cleans s c 0 c₁ →
      Reminders s (c.rowRange s) 1 c₁ r₂ c₂ → Bare s c₂ := by
    intro r₂ c₁ c₂ h₁ h₂
    exact (h₁.bare hb).frame (h₂.frame (by decide))
  cases h with
  | first hr h₁ hu he => exact (h₁.bare hb).linked
  | unwound hr h₁ h₂ hr₂ h₃ hu hs he => exact (h₃.bare (hloop h₁ h₂)).linked
  | @resumed _ _ _ _ c₃ c₄ h₁ h₂ hr₂ h₃ hu hs he h₄ =>
      have hb₃ := h₃.bare (hloop h₁ h₂)
      split_ifs with hr
      · subst hr
        exact h₄.linked_opened hb₃
      · exact h₄.linked_failed hb₃ (.inr h₃.sess_pool.2)
  | @edges _ _ c₂ _ hr h₁ h₂ h₃ hu he =>
      refine h₃.linked_failed (hloop h₁ h₂) (.inl (Core.firstOpen_eq_none fun j hj => ?_))
      refine h₂.waiting.2 rfl j ?_
      rw [Core.rowRange, (h₂.frame (by decide)).length, h₁.length] at hj
      exact hj
  | opened h₁ h₂ h₃ hu he => exact h₃.linked_opened (hloop h₁ h₂)

/-! ### Closing and setting -/

theorem Close.linked (h : Close s c r c') (hl : Linked s c) : Linked s c' := by
  cases h with
  | already hr => exact hl
  | @closed _ c₁ c₂ hst hg hc =>
      have hedges : c₁.edges = c.edges ∧ c₁.nextGraph = c.nextGraph := by
        cases hg with
        | null hp hr => exact ⟨rfl, rfl⟩
        | closed hp => exact ⟨rfl, rfl⟩
      have hf := frame_of_chain (fun _ _ _ => CloseTurn.frame) hc
      have hnone : ((c₂.setState s .sessionClosed).sess s).graph = none := by
        simp [Core.setState, hf.graph, Core.setGraph]
      have hrec : Recorded (c₂.setState s .sessionClosed) :=
        hl.record.congr (hf.edges.trans hedges.1) (hf.nextGraph.trans hedges.2).ge
      have hb : Bare s (c₂.setState s .sessionClosed) := by
        refine ⟨?_, by simp [Core.setState], hrec, fun g hg' => ?_, fun kind => ?_⟩
        · show s ∈ c₂.pool
          rw [hf.pool]
          show s ∈ c₁.pool
          rw [hg.pool]
          exact hl.pool
        · rw [hnone] at hg'
          cases hg'
        · rw [hnone]
          exact hrec.edgeSet_none kind
      exact hb.linked

theorem SessCore.putSetting_facts (x : SessCore) (kind : EdgeKind) (p : ℕ × Bool) :
    (x.putSetting kind p).state = x.state ∧ (x.putSetting kind p).graph = x.graph ∧
      (x.putSetting kind p).rows = x.rows ∧ (x.putSetting kind p).setting kind = p ∧
      ∀ k ≠ kind, (x.putSetting kind p).setting k = x.setting k := by
  cases kind with
  | loopback =>
      refine ⟨rfl, rfl, rfl, rfl, fun k hk => ?_⟩
      cases k with
      | loopback => exact absurd rfl hk
      | ecRef => rfl
  | ecRef =>
      refine ⟨rfl, rfl, rfl, rfl, fun k hk => ?_⟩
      cases k with
      | loopback => rfl
      | ecRef => exact absurd rfl hk

/-- The cached pair of a session whose graph has the edges after the assignment. -/
theorem Linked.putSetting (hp : s ∈ c.pool) (hrec : Recorded c) (how : Owned s c)
    (hopen : (c.sess s).state ≠ .sessionClosed)
    (hset : edgeSet kind (c.sess s).graph c.edges = wanted (id, on))
    (hother : ∀ k ≠ kind, edgeSet k (c.sess s).graph c.edges = wanted ((c.sess s).setting k)) :
    Linked s (c.setSess s ((c.sess s).putSetting kind (id, on))) := by
  obtain ⟨hst, hg, -, hsame, hdiff⟩ := (c.sess s).putSetting_facts kind (id, on)
  constructor
  case pool => exact hp
  case record => exact hrec.congr rfl le_rfl
  case owned =>
    intro g hg'
    rw [Core.sess_setSess_self, hg] at hg'
    exact how g hg'
  case shown =>
    intro _ k
    rw [Core.sess_setSess_self, hg]
    show edgeSet k (c.sess s).graph c.edges = _
    by_cases hk : k = kind
    · subst hk
      rw [hsame]
      exact hset
    · rw [hdiff k hk]
      exact hother k hk
  case waits =>
    intro hclosed
    rw [Core.sess_setSess_self, hst] at hclosed
    exact absurd hclosed hopen

/-- A call that changes the cached pair of an open session changes the flag. -/
theorem flag_of_ne {x : ℕ × Bool} (hne : x ≠ (id, on)) (htog : id ≠ x.1 → on ≠ x.2) :
    x.2 = !on := by
  obtain ⟨id₀, on₀⟩ := x
  by_cases hid : id = id₀
  · subst hid
    have hon : on₀ ≠ on := fun h => hne (by rw [h])
    cases on <;> cases on₀ <;> simp_all
  · have hon := htog hid
    cases on <;> cases on₀ <;> simp_all

theorem Setting.linked (h : Setting s kind id on c r c') (hl : Linked s c)
    (htog : (c.sess s).state ≠ .sessionClosed → id ≠ ((c.sess s).setting kind).1 →
      on ≠ ((c.sess s).setting kind).2) : Linked s c' := by
  -- an edge is removed only when the cached flag says that the graph has it
  have hrem : (c.sess s).state ≠ .sessionClosed → (c.sess s).setting kind ≠ (id, on) →
      on = false → (if on then id else ((c.sess s).setting kind).1) ∈
        edgeSet kind (c.sess s).graph c.edges := by
    rintro hst hne rfl
    have hflag := flag_of_ne hne (htog hst)
    rw [hl.shown hst kind, wanted, hflag]
    exact Finset.mem_singleton_self _
  cases h with
  | already hr => exact hl
  | cached hst =>
      obtain ⟨hst', hg, hrows, -, -⟩ := (c.sess s).putSetting_facts kind (id, on)
      constructor
      case pool => exact hl.pool
      case record => exact hl.record.congr rfl le_rfl
      case owned =>
        intro g hg'
        rw [Core.sess_setSess_self, hg] at hg'
        exact hl.owned g hg'
      case shown =>
        intro hopen
        rw [Core.sess_setSess_self, hst'] at hopen
        exact absurd hst hopen
      case waits =>
        intro _ hfirst k
        rw [Core.sess_setSess_self, hg]
        refine hl.waits hst ?_ k
        rw [Core.firstOpen, Core.sess_setSess_self, hrows] at hfirst
        exact hfirst
  | failed hst hne hr he =>
      obtain ⟨hrec, hnext⟩ := he.recorded hl.record hl.owned (hrem hst hne)
      have hsess : c'.sess s = c.sess s := he.sess hl.pool
      refine ⟨he.inert.pool s hl.pool, hrec, fun g hg => ?_, fun _ k => ?_, fun hclosed => ?_⟩
      · rw [hnext]
        exact hl.owned g (hsess ▸ hg)
      · rw [hsess, he.edgeSet_failed hr]
        exact hl.shown hst k
      · rw [hsess] at hclosed
        exact absurd hclosed hst
  | @moved c₁ hst hne he =>
      obtain ⟨hrec, hnext⟩ := he.recorded hl.record hl.owned (hrem hst hne)
      have hsess : c₁.sess s = c.sess s := he.sess hl.pool
      obtain ⟨hdone, hother⟩ := he.edgeSet_done
      have hflag := flag_of_ne hne (htog hst)
      have hold := hl.shown hst kind
      refine Linked.putSetting (he.inert.pool s hl.pool) hrec (fun g hg => ?_) ?_ ?_ fun k hk => ?_
      · rw [hnext]
        exact hl.owned g (hsess ▸ hg)
      · rw [hsess]
        exact hst
      · rw [hsess, hdone, hold, wanted, hflag]
        cases on with
        | true => rfl
        | false => exact Finset.erase_singleton _
      · rw [hsess, hother k hk]
        exact hl.shown hst k

end

/-! ### Runs -/

/-- The calls that the edges of a session depend on. -/
def Op.edgesOf (s : ℕ) : Op → Bool
  | .open t => decide (t = s)
  | .close t => decide (t = s)
  | .setLoopback t _ _ => decide (t = s)
  | .setEcRef t _ _ => decide (t = s)
  | _ => false

/-- The edge that a call sets: its kind, id and flag. -/
def Op.setting? : Op → Option (EdgeKind × ℕ × Bool)
  | .setLoopback _ pb state => some (.loopback, pb, state)
  | .setEcRef _ aif state => some (.ecRef, aif, state)
  | _ => none

/-- A call on the session; while the session is open, a call that names another id than the
cached one changes the flag. -/
def Toggles (s : ℕ) (w : World) (call : Call) : Prop :=
  call.op.edgesOf s = true ∧ ∀ x ∈ call.op.setting?, (w.sess s).state ≠ .sessionClosed →
    x.2.1 ≠ ((w.core.sess s).setting x.1).1 → x.2.2 ≠ ((w.core.sess s).setting x.1).2

instance (s : ℕ) (w : World) (call : Call) : Decidable (Toggles s w call) :=
  inferInstanceAs (Decidable (_ ∧ _))

section
variable {s : ℕ} {w : World}

/-- A call with the id of a session that exists. -/
theorem withId_linked {m : AgmM ℤ} (hs : s ∈ w.pool)
    (hm : Ensures anyFault m w fun _ w' => Linked s w'.core) :
    Ensures anyFault (withId s m) w fun _ w' => Linked s w'.core := by
  unfold withId sessionObjGet
  rw [ensures_bind, ensures_bind, ensures_gets, if_pos hs, ensures_pure, if_neg (by decide)]
  exact hm

theorem sessionObjOpen_linked (h : Linked s w.core) :
    Ensures anyFault (sessionObjOpen s) w fun _ w' => Linked s w'.core := by
  refine withId_linked (m := do
    let sess ← getSess s
    if sess.state ≠ .sessionClosed then pure (-EALREADY) else openClosedSession s) h.pool ?_
  rw [ensures_bind, ensures_getSess, ensures_ite]
  refine ⟨fun _ => h, fun hst => ?_⟩
  refine (openClosedSession_ensures (fun _ => trivial) s h.pool fun _ _ => .inr trivial).imp ?_
  rintro r w' ⟨lost, hsteps, -⟩
  exact hsteps.linked h (not_not.mp hst)

theorem exec_linked {call : Call} (h : Linked s w.core) (hc : Toggles s w call) :
    Ensures anyFault (exec call) w fun _ w' => Linked s w'.core := by
  obtain ⟨op, ext⟩ := call
  obtain ⟨hon, htog⟩ := hc
  have h₁ : Linked s { w with ext := ext }.core := h
  unfold exec
  rw [ensures_bind, ensures_modify]
  cases op with
  | «open» t =>
      obtain rfl : t = s := of_decide_eq_true hon
      exact sessionObjOpen_linked h₁
  | close t =>
      obtain rfl : t = s := of_decide_eq_true hon
      show Ensures anyFault (withHandle t (sessionClose t)) _ _
      unfold withHandle
      rw [ensures_bind, ensures_gets, ensures_ite]
      refine ⟨fun _ => ?_, fun _ => h₁⟩
      exact (sessionClose_ensures (fun _ => trivial) t fun _ _ => .inr trivial).imp
        fun r w' hcl => hcl.linked h₁
  | setLoopback t pb state =>
      obtain rfl : t = s := of_decide_eq_true hon
      have hset := sessionObjSetLoopback_ensures (w := { w with ext := ext }) h₁.pool pb state
      exact withId_linked h₁.pool (hset.imp fun r w' hset =>
        hset.linked h₁ (htog (.loopback, pb, state) rfl))
  | setEcRef t aif state =>
      obtain rfl : t = s := of_decide_eq_true hon
      have hset := sessionObjSetEcRef_ensures (s := t) (w := { w with ext := ext }) aif state
      exact withId_linked h₁.pool (hset.imp fun r w' hset =>
        hset.linked h₁ (htog (.ecRef, aif, state) rfl))
  | _ => exact absurd hon Bool.false_ne_true

end

/-- In a run on a session in which a call that names another id changes the flag, an open
session's graph has exactly the edges that the session caches, and an edge is removed only while
the graph has it. -/
theorem edges_linked {s : ℕ} {w w' : World} {calls : List Call} (hs : s ∈ w.pool)
    (hst : (w.sess s).state = .sessionClosed) (hg : (w.sess s).graph = none)
    (hrec : Recorded w.core) (hc : Admits exec (Toggles s) calls w)
    (hrun : runAll exec calls w = .ok ((), w')) :
    ((w'.sess s).state ≠ .sessionClosed →
      edgeSet .loopback (w'.sess s).graph w'.edges =
        wanted ((w'.sess s).loopbackSessId, (w'.sess s).loopbackState) ∧
      edgeSet .ecRef (w'.sess s).graph w'.edges =
        wanted ((w'.sess s).ecRefAifId, (w'.sess s).ecRefState)) ∧
    RemovesKnown w'.edges := by
  have hgraph : (w.core.sess s).graph = none := hg
  have hbare : Bare s w.core := by
    refine ⟨hs, hst, hrec, fun g hg' => ?_, fun kind => ?_⟩
    · rw [hgraph] at hg'
      cases hg'
    · rw [hgraph]
      exact hrec.edgeSet_none kind
  have hl : Linked s w'.core := (runAll_invariant exec (I := fun w => Linked s w.core)
    (fun _ _ h hc => exec_linked h hc) calls w hbare.linked hc).of_ok hrun
  exact ⟨fun hopen => ⟨hl.shown hopen .loopback, hl.shown hopen .ecRef⟩, hl.record.known⟩

/-- Three sessions with an interface each. -/
def threeSessions : List Call :=
  [⟨.aifConnect 0 1 true, []⟩, ⟨.aifConnect 5 2 true, []⟩, ⟨.aifConnect 6 3 true, []⟩]

theorem edges_linked_threeSessions :
    ∃ w' : World, edgeSet .loopback (w'.sess 0).graph w'.edges = {6} ∧
      edgeSet .ecRef (w'.sess 0).graph w'.edges = ∅ ∧ RemovesKnown w'.edges := by
  obtain ⟨_, w, -, ⟨hs, hst⟩, ⟨hg, he⟩, hc, hcalls⟩ := Ensures.exists_ok
    (m := runAll exec threeSessions) (s := startUp 4) (Q := fun _ w =>
      (0 ∈ w.pool ∧ (w.sess 0).state = .sessionClosed) ∧
      ((w.sess 0).graph = none ∧ w.edges = []) ∧
      Admits exec (Toggles 0) [⟨.setLoopback 0 5 true, []⟩, ⟨.open 0, []⟩,
        ⟨.setEcRef 0 2 true, []⟩, ⟨.setLoopback 0 6 false, []⟩, ⟨.setLoopback 0 6 true, []⟩,
        ⟨.setEcRef 0 2 false, []⟩] w ∧
      Ensures noFault (runAll exec [⟨.setLoopback 0 5 true, []⟩, ⟨.open 0, []⟩,
        ⟨.setEcRef 0 2 true, []⟩, ⟨.setLoopback 0 6 false, []⟩, ⟨.setLoopback 0 6 true, []⟩,
        ⟨.setEcRef 0 2 false, []⟩]) w fun _ w' =>
          (w'.sess 0).state = .sessionOpened ∧
          ((w'.sess 0).loopbackSessId = 6 ∧ (w'.sess 0).loopbackState = true) ∧
          (w'.sess 0).ecRefState = false) (by decide +kernel)
  obtain ⟨_, w', hrun, hopen, ⟨hid, hon⟩, hoff⟩ := hcalls.exists_ok
  have hrec : Recorded w.core := by
    have hnil : w.core.edges = [] := he
    refine ⟨by rw [hnil]; trivial, fun e hmem => ?_⟩
    rw [hnil] at hmem
    cases hmem
  obtain ⟨hshown, hknown⟩ := edges_linked hs hst hg hrec hc hrun
  obtain ⟨hloop, hec⟩ := hshown (by rw [hopen]; decide)
  rw [hid, hon] at hloop
  rw [hoff] at hec
  exact ⟨w', hloop, hec, hknown⟩

/-- The id of a loopback is switched while it is on: both edges stay.  And an echo reference that
was never on is switched off: this asks for the removal of an edge that the graph does not
have. -/
theorem edges_linked_switched :
    Ensures noFault (runAll exec (threeSessions ++ [⟨.open 0, []⟩, ⟨.setLoopback 0 5 true, []⟩,
        ⟨.setLoopback 0 6 true, []⟩])) (startUp 4) (fun _ w =>
      (w.sess 0).state = .sessionOpened ∧ (w.sess 0).loopbackSessId = 6 ∧
      (w.sess 0).loopbackState = true ∧
      edgeSet .loopback (w.sess 0).graph w.edges = {5, 6}) ∧
    Ensures noFault (runAll exec (threeSessions ++ [⟨.open 0, []⟩, ⟨.setEcRef 0 2 false, []⟩]))
      (startUp 4) fun _ w => ¬ RemovesKnown w.edges := by
  decide +kernel

end Agm
