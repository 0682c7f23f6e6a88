import Agm.RefineApi

/-! # Every call of the service is a step of the abstract service

`Step` collects what a call can do.  The calls that open, close, prepare, start, stop, connect
and disconnect have their own relations; all others are `Inert`.  The main result is
`run_ensures`: whatever call is made and whatever the external calls answer, the service makes
a `Step`, and it uses no closed graph unless a session's graph pointer was left dangling. -/

namespace Agm

open Prog

/-! ### Calls that change nothing of importance -/

/-- The pool of a session, possibly with a new pair for the interface that the call names. -/
inductive Grown (named : Option ℕ) (c : Core) (rows : List Row) : List Row → Prop
  | same : Grown named c rows rows
  | added {aif : ℕ} {st : AifState} (hn : named = some aif) (hf : ∀ r ∈ rows, r.aifId ≠ aif)
      (hst : st.isOpened = false) :
      Grown named c rows (rows ++ [{ c.newRow aif with state := st }])

theorem Grown.eq_of_none {c : Core} {rows rows' : List Row} (h : Grown none c rows rows') :
    rows' = rows := by
  cases h with
  | same => rfl
  | added hn hf hst => cases hn

theorem Grown.congr {named : Option ℕ} {c c₁ : Core} {rows rows' : List Row}
    (hc : ∀ aif, c₁.newRow aif = c.newRow aif) (h : Grown named c₁ rows rows') :
    Grown named c rows rows' := by
  cases h with
  | same => exact .same
  | added hn hf hst =>
      rw [hc]
      exact .added hn hf hst

/-- Sessions, devices and graphs stay as they are; there may be new sessions and a new pair. -/
structure Inert (named : Option ℕ) (c c' : Core) : Prop where
  dev : c'.dev = c.dev
  live : c'.live = c.live
  nextGraph : c'.nextGraph = c.nextGraph
  numAudioIntfs : c'.numAudioIntfs = c.numAudioIntfs
  pastEnd : c'.pastEnd = c.pastEnd
  pool : ∀ t ∈ c.pool, t ∈ c'.pool
  state : ∀ t ∈ c.pool, (c'.sess t).state = (c.sess t).state
  graph : ∀ t ∈ c.pool, (c'.sess t).graph = (c.sess t).graph
  rows : ∀ t ∈ c.pool, Grown named c (c.sess t).rows (c'.sess t).rows
  fresh : ∀ t ∈ c'.pool, t ∉ c.pool → (c'.sess t).state = .sessionClosed ∧
    (c'.sess t).graph = none ∧ Grown named c [] (c'.sess t).rows

namespace Inert

variable {named : Option ℕ} {c c₁ c₂ : Core}

theorem refl (named : Option ℕ) (c : Core) : Inert named c c :=
  ⟨rfl, rfl, rfl, rfl, rfl, fun _ h => h, fun _ _ => rfl, fun _ _ => rfl, fun _ _ => .same,
    fun _ h hn => absurd h hn⟩

theorem newRow_eq (h : Inert named c c₁) (aif : ℕ) : c₁.newRow aif = c.newRow aif := by
  simp only [Core.newRow, h.numAudioIntfs, h.pastEnd]

theorem rows_eq (h : Inert none c c₁) {t : ℕ} (ht : t ∈ c.pool) :
    (c₁.sess t).rows = (c.sess t).rows := (h.rows t ht).eq_of_none

/-- New sessions first, then a new pair. -/
theorem after (h : Inert none c c₁) (h' : Inert named c₁ c₂) : Inert named c c₂ where
  dev := h'.dev.trans h.dev
  live := h'.live.trans h.live
  nextGraph := h'.nextGraph.trans h.nextGraph
  numAudioIntfs := h'.numAudioIntfs.trans h.numAudioIntfs
  pastEnd := h'.pastEnd.trans h.pastEnd
  pool t ht := h'.pool t (h.pool t ht)
  state t ht := (h'.state t (h.pool t ht)).trans (h.state t ht)
  graph t ht := (h'.graph t (h.pool t ht)).trans (h.graph t ht)
  rows t ht := h.rows_eq ht ▸ (h'.rows t (h.pool t ht)).congr h.newRow_eq
  fresh t ht hn := by
    by_cases h₁ : t ∈ c₁.pool
    · obtain ⟨hst, hgr, hg⟩ := h.fresh t h₁ hn
      refine ⟨(h'.state t h₁).trans hst, (h'.graph t h₁).trans hgr, ?_⟩
      exact hg.eq_of_none ▸ (h'.rows t h₁).congr h.newRow_eq
    · obtain ⟨hst, hgr, hg⟩ := h'.fresh t ht h₁
      exact ⟨hst, hgr, hg.congr h.newRow_eq⟩

/-- A session is replaced by one that differs in its edges only. -/
theorem setSess {s : ℕ} {x : SessCore} (hst : x.state = (c.sess s).state)
    (hg : x.graph = (c.sess s).graph) (hr : x.rows = (c.sess s).rows) :
    Inert none c (c.setSess s x) := by
  have hsess : ∀ t, ((c.setSess s x).sess t).state = (c.sess t).state ∧
      ((c.setSess s x).sess t).graph = (c.sess t).graph ∧
      ((c.setSess s x).sess t).rows = (c.sess t).rows := by
    intro t
    by_cases ht : t = s
    · subst ht
      rw [Core.sess_setSess_self]
      exact ⟨hst, hg, hr⟩
    · rw [Core.sess_setSess_of_ne _ ht]
      exact ⟨rfl, rfl, rfl⟩
  exact ⟨rfl, rfl, rfl, rfl, rfl, fun _ h => h, fun t _ => (hsess t).1, fun t _ => (hsess t).2.1,
    fun t _ => (hsess t).2.2 ▸ .same, fun _ h hn => absurd h hn⟩

theorem addSess {s : ℕ} (hs : s ∉ c.pool) : Inert none c (c.addSess s) := by
  have hsess : ∀ t ∈ c.pool, (c.addSess s).sess t = c.sess t := by
    intro t ht
    refine c.sess_setSess_of_ne ?_ _
    rintro rfl
    exact hs ht
  refine ⟨rfl, rfl, rfl, rfl, rfl, fun t ht => List.mem_append_left _ ht,
    fun t ht => by rw [hsess t ht], fun t ht => by rw [hsess t ht],
    fun t ht => by rw [hsess t ht]; exact .same, fun t ht hn => ?_⟩
  have he : t = s := by
    rcases List.mem_append.mp ht with h | h
    · exact absurd h hn
    · exact List.mem_singleton.mp h
  subst he
  have hnew : (c.addSess t).sess t = {} := Function.update_self ..
  rw [hnew]
  exact ⟨rfl, rfl, .same⟩

/-- A pair that is not open is appended to a session that has none for the interface. -/
theorem addRow {s aif : ℕ} {st : AifState} (hf : ∀ r ∈ (c.sess s).rows, r.aifId ≠ aif)
    (hst : st.isOpened = false) :
    Inert (some aif) c (c.addRow s { c.newRow aif with state := st }) := by
  have hkeep : ∀ t, ((c.addRow s { c.newRow aif with state := st }).sess t).state =
        (c.sess t).state ∧
      ((c.addRow s { c.newRow aif with state := st }).sess t).graph = (c.sess t).graph ∧
      Grown (some aif) c (c.sess t).rows
        ((c.addRow s { c.newRow aif with state := st }).sess t).rows := by
    intro t
    by_cases ht : t = s
    · subst ht
      simp only [Core.addRow, Core.sess_setSess_self, true_and]
      exact .added rfl hf hst
    · simp only [Core.addRow, Core.sess_setSess_of_ne _ ht, true_and]
      exact .same
  exact ⟨rfl, rfl, rfl, rfl, rfl, fun _ h => h, fun t _ => (hkeep t).1, fun t _ => (hkeep t).2.1,
    fun t _ => (hkeep t).2.2, fun _ h hn => absurd h hn⟩

theorem addEdge (e : EdgeCall) : Inert none c (c.addEdge e) :=
  ⟨rfl, rfl, rfl, rfl, rfl, fun _ h => h, fun _ _ => rfl, fun _ _ => rfl, fun _ _ => .same,
    fun _ h hn => absurd h hn⟩

end Inert

theorem Peek.inert {c c₁ : Core} (h : Peek c c₁) : Inert none c c₁ := by
  cases h with
  | same => exact .refl none c
  | created h => exact .addSess h

theorem SetEdge.inert {s id : ℕ} {kind : EdgeKind} {en : Bool} {c c₁ : Core} {r : ℤ}
    (h : SetEdge s kind id en c r c₁) : Inert none c c₁ := by
  cases h with
  | early hr hp => exact hp.inert
  | called hp hg => exact hp.inert.after (.addEdge _)

theorem Core.newRow_state (c : Core) (aif : ℕ) : (c.newRow aif).state = .aifClosed := by
  unfold Core.newRow
  split_ifs <;> rfl

theorem not_mem_of_findAif {c : Core} {s aif : ℕ} (h : c.findAif s aif = none) :
    ∀ r ∈ (c.sess s).rows, r.aifId ≠ aif := by
  intro r hr he
  have := List.findIdx?_eq_none_iff.mp h r hr
  simp [he] at this

theorem GetAif.inert {s aif : ℕ} {c c₁ : Core} {r : ℤ × ℕ} (h : GetAif s aif c r c₁) :
    Inert (some aif) c c₁ := by
  cases h with
  | found h => exact .refl _ c
  | noMemory hr => exact .refl _ c
  | created h =>
      have hrow : c.newRow aif = { c.newRow aif with state := .aifClosed } := by
        rw [← c.newRow_state aif]
      rw [hrow]
      exact .addRow (not_mem_of_findAif h) rfl

/-! ### The step relation -/

/-- The interface that a call names. -/
def Op.aif? : Op → Option ℕ
  | .aifConnect _ aif _ | .setSessAifParams _ aif _ | .setSessAifParamsWithTag _ aif _ _
  | .setSessAifCal _ aif _ | .setSessAifMetadata _ aif _ | .getTagWithModuleInfo _ aif => some aif
  | _ => none

/-- The session that a call opens. -/
def Op.opens? : Op → Option ℕ
  | .open s => some s
  | _ => none

/-- The session that a call closes. -/
def Op.closes? : Op → Option ℕ
  | .close s => some s
  | _ => none

/-- The session and the interface that a call connects. -/
def Op.connects? : Op → Option (ℕ × ℕ)
  | .aifConnect s aif true => some (s, aif)
  | _ => none

/-- The session and the interface that a call disconnects. -/
def Op.disconnects? : Op → Option (ℕ × ℕ)
  | .aifConnect s aif false => some (s, aif)
  | _ => none

/-- The state of a session's pair for an interface; one that does not exist yet is closed. -/
def Core.pairState (c : Core) (s aif : ℕ) : AifState :=
  match c.findAif s aif with
  | some i => (c.row s i).state
  | none => .aifClosed

/-- The pair that `aif_obj_get` finds or creates. -/
theorem GetAif.pair {s aif i : ℕ} {c c₁ : Core} (h : GetAif s aif c (0, i) c₁) (hs : s ∈ c.pool) :
    s ∈ c₁.pool ∧ i < (c₁.sess s).rows.length ∧ (c₁.row s i).state = c.pairState s aif ∧
      (c₁.sess s).state = (c.sess s).state := by
  refine ⟨h.inert.pool s hs, ?_, ?_, h.inert.state s hs⟩
  all_goals cases h with
    | found h => ?_
    | noMemory hr => exact absurd rfl hr
    | created h => ?_
  · exact (List.findIdx?_eq_some_iff_getElem.mp h).1
  · simp [Core.addRow]
  · simp only [Core.pairState, h]
  · simp [Core.pairState, h, Core.row, Core.addRow, c.newRow_state aif]

/-- What a call made in the state `w` does to the abstract service. -/
inductive Step (w : World) : Op → ℤ → Core → Prop
  | inert {op : Op} {r : ℤ} {c' : Core} (h : Inert op.aif? w.core c') : Step w op r c'
  | open {s : ℕ} {r : ℤ} {c' : Core} {lost : ℕ → Prop} (hs : s ∈ w.pool)
      (hst : (w.sess s).state = .sessionClosed)
      (h : OpenSteps ⟨FirstCleansUp s w, Unwinds s w, lost, Silent s w, EdgesFail s w⟩ s
        w.core r c')
      (hl : Unwinds s w → (UnwindLosesNone s w ↔ ∀ i ∈ w.core.rowRange s, ¬ lost i)) :
      Step w (.open s) r c'
  | close {s : ℕ} {r : ℤ} {c' : Core} (hs : s ∈ w.pool) (h : Close s w.core r c') :
      Step w (.close s) r c'
  | prepare {s : ℕ} {r : ℤ} {c' : Core} (hs : s ∈ w.pool) (h : Prepare s w.core r c') :
      Step w (.prepare s) r c'
  | start {s : ℕ} {r : ℤ} {c' : Core} (hs : s ∈ w.pool) (h : Start (GateFails s w) s w.core r c') :
      Step w (.start s) r c'
  | stop {s : ℕ} {r : ℤ} {c' : Core} (hs : s ∈ w.pool) (h : Stop s w.core r c') :
      Step w (.stop s) r c'
  | connect {s aif : ℕ} {r : ℤ} {c' : Core} (hs : s ∈ w.pool)
      (h : AifConnect (AifCleansUp s aif w) (AifRestartFails s aif w) (AifUnwinds s aif w) s aif
        w.core r c') : Step w (.aifConnect s aif true) r c'
  | disconnect {s aif i : ℕ} {r : ℤ} {c₁ c' : Core} (hs : s ∈ w.pool)
      (hi : GetAif s aif w.core (0, i) c₁) (h : AifDisconnect (AifLoses s aif w) s i c₁ r c') :
      Step w (.aifConnect s aif false) r c'

section
variable {E : Fault → Prop} {w : World} (hE : ∀ c, E (.crash c))
  (hG : ∀ s ∈ w.core.pool, Usable E w.core (w.core.sess s).graph)
include hE hG

/-! ### Handles and ids -/

omit hE in
/-- An inert call made through a handle. -/
theorem withHandle_inert {s : ℕ} {m : AgmM ℤ} {named : Option ℕ}
    (hm : s ∈ w.core.pool → Usable E w.core (w.core.sess s).graph →
      Ensures E m w fun _ w' => Inert named w.core w'.core) :
    Ensures E (withHandle s m) w fun _ w' => Inert named w.core w'.core := by
  simp only [withHandle, ensures_bind, ensures_gets, ensures_ite, ensures_pure]
  exact ⟨fun hs => hm hs (hG s hs), fun _ => .refl named _⟩

/-- Looking up a session leaves it usable. -/
theorem sessionObjGet_usable (s : ℕ) :
    Ensures E (sessionObjGet s) w fun r w₁ => Lookup s w.core r w₁.core ∧
      (r = 0 → s ∈ w₁.core.pool ∧ Usable E w₁.core (w₁.core.sess s).graph) ∧
      (r = 0 → s ∈ w.pool → w₁ = w) := by
  have hfound : Ensures E (sessionObjGet s) w fun r w₁ => r = 0 → s ∈ w.pool → w₁ = w := by
    simp only [sessionObjGet, ensures_bind, ensures_gets, ensures_ite, ensures_pure]
    refine ⟨fun _ _ _ => trivial, fun hs => ?_⟩
    refine (env_quiet hE _).imp fun block w₁ _ => ⟨fun _ _ h => absurd h hs, fun _ => ?_⟩
    simp only [ensures_modify]
    exact fun _ h => absurd h hs
  refine ((sessionObjGet_ensures hE s).and hfound).imp fun r w₁ h => ⟨h.1, fun hr => ?_, h.2⟩
  obtain ⟨h, -⟩ := h
  generalize w₁.core = c₁ at h
  cases h with
  | found hs => exact ⟨hs, hG s hs⟩
  | noMemory hr' => exact absurd hr hr'
  | created hs =>
      refine ⟨List.mem_append_right _ (List.mem_singleton.mpr rfl), ?_⟩
      intro g hg
      have hnew : (w.core.addSess s).sess s = {} := Function.update_self ..
      rw [hnew] at hg
      cases hg

/-- An inert call made with an id. -/
theorem withId_inert {s : ℕ} {m : AgmM ℤ} {named : Option ℕ}
    (hm : ∀ w₁ : World, s ∈ w₁.core.pool → Usable E w₁.core (w₁.core.sess s).graph →
      Ensures E m w₁ fun _ w' => Inert named w₁.core w'.core) :
    Ensures E (withId s m) w fun _ w' => Inert named w.core w'.core := by
  simp only [withId, ensures_bind, ensures_ite, ensures_pure]
  refine (sessionObjGet_usable hE hG s).imp fun r w₁ h => ?_
  obtain ⟨hl, hu, -⟩ := h
  refine ⟨fun _ => hl.peek.inert.after (.refl named _), fun hr => ?_⟩
  obtain ⟨hs₁, hg₁⟩ := hu (not_not.mp hr)
  exact (hm w₁ hs₁ hg₁).imp fun _ w₂ h₂ => hl.peek.inert.after h₂

omit hE hG in
/-- A call on the device of an interface that the abstract service does not see. -/
theorem withDevice_inert {aif : ℕ} {m : DevM ℤ}
    (hm : ∀ t, Ensures (fun e => E (.crash e)) m t fun _ t' => t'.obj.core = t.obj.core) :
    Ensures E (withDevice aif m) w fun _ w' => Inert none w.core w'.core := by
  have hdev : ∀ dev, Ensures E (onDevice dev m) w fun _ w' => Inert none w.core w'.core := by
    intro dev
    cases dev with
    | none => exact .refl none _
    | some d =>
        refine (onDevice_ensures (fun _ x => x = w.core.dev d) ((hm _).imp fun _ _ h => h)).imp
          fun _ w' h => ?_
        obtain ⟨x, rfl, h⟩ := h
        rw [h, onDev_self]
        exact .refl none _
  simp only [withDevice, deviceGetObj, ensures_bind, ensures_gets, ensures_ite, ensures_pure]
  exact ⟨fun _ => ⟨fun _ => .refl none _, fun _ => hdev _⟩,
    fun _ => ⟨fun _ => .refl none _, fun _ => hdev _⟩⟩

/-! ### Calls passed on to the graph -/

omit hG

omit hE in
theorem inert_of_eq {named : Option ℕ} {c c' : Core} (h : c' = c) : Inert named c c' :=
  h ▸ .refl named c

theorem onGraph_inert {p : Option ℕ} {m : View → GraphM ℤ} (hp : Usable E w.core p)
    (named : Option ℕ) : Ensures E (onGraph p m) w fun _ w' => Inert named w.core w'.core :=
  (onGraph_quiet hE hp).imp fun _ _ h => inert_of_eq h.1

omit hE in
theorem sessionObjGraphCall_inert {s : ℕ} {call : Option ℕ → AgmM ℤ}
    (hc : Ensures E (call (w.sess s).graph) w fun _ w' => Inert none w.core w'.core) :
    Ensures E (sessionObjGraphCall s call) w fun _ w' => Inert none w.core w'.core := by
  simp only [sessionObjGraphCall, ensures_bind, ensures_getSess, ensures_ite, ensures_pure]
  exact ⟨fun _ => .refl none _, fun _ => hc⟩

omit hE in
theorem sessionObjStartedCall_inert {s : ℕ} {call : Option ℕ → AgmM ℤ}
    (hc : Ensures E (call (w.sess s).graph) w fun _ w' => Inert none w.core w'.core) :
    Ensures E (sessionObjStartedCall s call) w fun _ w' => Inert none w.core w'.core := by
  simp only [sessionObjStartedCall, ensures_bind, ensures_getSess, ensures_ite, ensures_pure]
  exact ⟨fun _ => .refl none _, fun _ => hc⟩

theorem graphGetBufInfo_inert {p : Option ℕ} {a b : Bool} (hp : Usable E w.core p) :
    Ensures E (graphGetBufInfo p a b) w fun _ w' => Inert none w.core w'.core := by
  cases p with
  | none => exact hE _
  | some g => exact onGraph_inert hE (p := some g) hp none

/-! ### Parameters, metadata and edges of a session -/

variable {s : ℕ}

section
variable (hg : Usable E w.core (w.core.sess s).graph)
include hg

theorem sessionObjSetSessParams_inert (payload : Payload) :
    Ensures E (sessionObjSetSessParams s payload) w fun _ w' => Inert none w.core w'.core := by
  simp only [sessionObjSetSessParams, ensures_bind, ensures_ite, ensures_pure, ensures_getSess]
  refine (env_quiet hE _).imp fun block w₁ h₁ => ⟨fun _ => ?_, fun _ => ?_⟩
  · refine Ensures.imp (modifySess_quiet ?_) fun _ w₂ h₂ => inert_of_eq (h₂.trans h₁)
    exact fun _ => rfl
  · refine Ensures.imp (modifySess_quiet (fun _ => rfl)) fun _ w₂ h₂ => ?_
    have hw : w₂.core = w.core := h₂.trans h₁
    refine ⟨fun _ => ?_, fun _ => inert_of_eq hw⟩
    have hg₂ : Usable E w₂.core (w₂.core.sess s).graph := by
      rw [hw]
      exact hg
    refine (graphSetConfig_quiet hE hg₂).imp fun r w₃ h₃ => ?_
    refine Ensures.imp (modifySess_quiet ?_) fun _ w₄ h₄ => inert_of_eq (h₄.trans (h₃.trans hw))
    exact fun _ => rfl

omit hg in
theorem sessionObjSetSessMetadata_inert (buf : Payload) :
    Ensures E (sessionObjSetSessMetadata s buf) w fun _ w' => Inert none w.core w'.core := by
  simp only [sessionObjSetSessMetadata, ensures_bind, ensures_pure]
  refine (env_quiet hE _).imp fun r w₁ h₁ => ?_
  exact Ensures.imp (modifySess_quiet (fun _ => rfl)) fun _ w₂ h₂ => inert_of_eq (h₂.trans h₁)

theorem sessionObjGetSessParams_inert (size : ℕ) :
    Ensures E (sessionObjGetSessParams s size) w fun _ w' => Inert none w.core w'.core := by
  simp only [sessionObjGetSessParams, ensures_bind, ensures_getSess, ensures_ite, ensures_pure]
  exact ⟨fun _ => onGraph_inert hE hg none, fun _ => .refl none _⟩

omit hg in
theorem sessionObjRegisterCb_inert (cb : Option ℕ) (evt : EventType) (client : ℕ) :
    Ensures E (sessionObjRegisterCb s cb evt client) w fun _ w' => Inert none w.core w'.core := by
  simp only [sessionObjRegisterCb, ensures_bind, ensures_ite, ensures_pure]
  refine (env_quiet hE _).imp fun block w₁ h₁ => ⟨fun _ => inert_of_eq h₁, fun _ => ?_⟩
  cases cb with
  | none =>
      rw [ensures_bind]
      exact Ensures.imp (modifySess_quiet (fun _ => rfl)) fun _ w₂ h₂ => inert_of_eq (h₂.trans h₁)
  | some cb =>
      rw [ensures_bind]
      exact Ensures.imp (modifySess_quiet (fun _ => rfl)) fun _ w₂ h₂ => inert_of_eq (h₂.trans h₁)

omit hE hg in
theorem sessionObjSetConfig_inert (stream : SessionConfig) (media : MediaConfig)
    (buf : BufferConfig) :
    Ensures E (sessionObjSetConfig s stream media buf) w fun _ w' =>
      Inert none w.core w'.core := by
  simp only [sessionObjSetConfig, ensures_bind, ensures_pure]
  exact Ensures.imp (modifySess_quiet (fun _ => rfl)) fun _ w₂ h₂ => inert_of_eq h₂

theorem sessionObjSetLoopback_inert (pb : ℕ) (state : Bool) (hs : s ∈ w.core.pool) :
    Ensures E (sessionObjSetLoopback s pb state) w fun _ w' => Inert none w.core w'.core := by
  simp only [sessionObjSetLoopback, ensures_bind, ensures_getSess]
  rw [ensures_ite]
  refine ⟨fun _ => .refl none _, fun _ => ?_⟩
  have hedge : Ensures E (if (w.sess s).state = .sessionClosed then pure 0
      else sessionSetLoopback s (if state = true then pb else (w.sess s).loopbackSessId) state) w
      fun _ w' => Inert none w.core w'.core := by
    rw [ensures_ite]
    exact ⟨fun _ => .refl none _,
      fun _ => (sessionSetLoopback_ensures hE s _ _ hs hg).imp fun _ _ h => h.inert⟩
  rw [ensures_bind]
  refine hedge.imp fun r w₁ h₁ => ?_
  rw [ensures_ite]
  refine ⟨fun _ => h₁, fun _ => ?_⟩
  simp only [modifySess, ensures_bind, ensures_modify, ensures_pure, core_update_sess]
  exact h₁.after (.setSess rfl rfl rfl)

theorem sessionObjSetEcRef_inert (aif : ℕ) (state : Bool) :
    Ensures E (sessionObjSetEcRef s aif state) w fun _ w' => Inert none w.core w'.core := by
  simp only [sessionObjSetEcRef, ensures_bind, ensures_getSess]
  rw [ensures_ite]
  refine ⟨fun _ => .refl none _, fun _ => ?_⟩
  have hedge : Ensures E (if (w.sess s).state = .sessionClosed then pure 0
      else sessionSetEcRef s (if state = true then aif else (w.sess s).ecRefAifId) state) w
      fun _ w' => Inert none w.core w'.core := by
    rw [ensures_ite]
    exact ⟨fun _ => .refl none _,
      fun _ => (sessionSetEcRef_ensures hE s _ _ hg).imp fun _ _ h => h.inert⟩
  rw [ensures_bind]
  refine hedge.imp fun r w₁ h₁ => ?_
  rw [ensures_ite]
  refine ⟨fun _ => h₁, fun _ => ?_⟩
  simp only [modifySess, ensures_bind, ensures_modify, ensures_pure, core_update_sess]
  exact h₁.after (.setSess rfl rfl rfl)

/-! ### Parameters and metadata of an interface -/

/-- The calls that look an interface up and go on with something the abstract service does not
see. -/
theorem withAif_inert {aif : ℕ} {m : ℕ → AgmM ℤ}
    (hm : ∀ (i : ℕ) (w₁ : World), Usable E w₁.core (w₁.core.sess s).graph →
      Ensures E (m i) w₁ fun _ w' => w'.core = w₁.core) :
    Ensures E (withAif s aif m) w fun _ w' => Inert (some aif) w.core w'.core := by
  simp only [withAif, ensures_bind]
  refine (aifObjGet_ensures hE s aif).imp fun r w₁ h => ?_
  obtain ⟨-, hlive, hgraph⟩ := h.facts
  have hg₁ : Usable E w₁.core (w₁.core.sess s).graph := by
    rw [hgraph]
    exact hg.congr hlive
  rw [ensures_ite]
  refine ⟨fun _ => h.inert, fun _ => (hm r.2 w₁ hg₁).imp fun _ w₂ h₂ => ?_⟩
  rw [h₂]
  exact h.inert

theorem sessionObjSetSessAifParams_inert (aif : ℕ) (payload : Payload) :
    Ensures E (sessionObjSetSessAifParams s aif payload) w fun _ w' =>
      Inert (some aif) w.core w'.core := by
  refine withAif_inert hE hg fun i w hg => ?_
  simp only [ensures_bind, ensures_ite, ensures_pure, ensures_getSess, ensures_getAif]
  refine (env_quiet hE _).imp fun block w₁ h₁ => ⟨fun _ => ?_, fun _ => ?_⟩
  · refine Ensures.imp (modifyAif_quiet ?_) fun _ w₂ h₂ => h₂.trans h₁
    exact fun _ => rfl
  · refine Ensures.imp (modifyAif_quiet (fun _ => rfl)) fun _ w₂ h₂ => ?_
    have hw : w₂.core = w.core := h₂.trans h₁
    refine ⟨fun _ => ?_, fun _ => hw⟩
    have hg₂ : Usable E w₂.core (w₂.core.sess s).graph := by
      rw [hw]
      exact hg
    refine (graphSetConfig_quiet hE hg₂).imp fun r w₃ h₃ => ?_
    refine Ensures.imp (modifyAif_quiet ?_) fun _ w₄ h₄ => h₄.trans (h₃.trans hw)
    exact fun _ => rfl

theorem sessionObjSetSessAifParamsWithTag_inert (aif tag : ℕ) (tkv : List KeyValue) :
    Ensures E (sessionObjSetSessAifParamsWithTag s aif tag tkv) w fun _ w' =>
      Inert (some aif) w.core w'.core := by
  refine withAif_inert hE hg fun i w hg => ?_
  simp only [ensures_bind, ensures_ite, ensures_pure, ensures_getSess, ensures_getAif]
  refine ⟨fun _ => trivial, fun _ => ?_⟩
  refine (mergeAif_quiet hE s i).imp fun md w₁ h₁ => ?_
  cases md with
  | none => exact h₁.1
  | some md =>
      exact (onGraph_quiet hE (w := w₁) (h₁.1 ▸ hg)).imp fun _ w₂ h₂ => h₂.1.trans h₁.1

theorem sessionObjSetSessAifCal_inert (aif : ℕ) (ckv : List KeyValue) :
    Ensures E (sessionObjSetSessAifCal s aif ckv) w fun _ w' =>
      Inert (some aif) w.core w'.core := by
  refine withAif_inert hE hg fun i w hg => ?_
  simp only [ensures_bind, ensures_ite, ensures_pure, ensures_getSess, ensures_getAif]
  refine ⟨fun _ => trivial, fun _ => ?_⟩
  refine (env_quiet hE _).imp fun sm w₁ h₁ => ?_
  refine Ensures.imp (modifySess_quiet (fun _ => rfl)) fun _ w₂ h₂ => ?_
  refine (env_quiet hE _).imp fun am w₃ h₃ => ?_
  refine Ensures.imp (modifyAif_quiet (fun _ => rfl)) fun _ w₄ h₄ => ?_
  have hw : w₄.core = w.core := h₄.trans (h₃.trans (h₂.trans h₁))
  cases (w.aif s i).devObj with
  | none => exact hE _
  | some d =>
      simp only [ensures_bind, ensures_gets, ensures_modify]
      refine (env_quiet hE _).imp fun dm w₅ h₅ => ?_
      have hw₆ : { w₅ with dev := Function.update w₅.dev d { w₅.dev d with metadata := dm } }.core =
          w.core := by
        rw [core_update_dev]
        exact (onDev_self w₅.core d).trans (h₅.trans hw)
      refine (mergeAif_quiet hE s i).imp fun md w₇ h₇ => ?_
      have hw₇ : w₇.core = w.core := h₇.1.trans hw₆
      cases md with
      | none => exact hw₇
      | some md =>
          exact (onGraph_quiet hE (w := w₇) (hw₇ ▸ hg)).imp fun _ w₈ h₈ => h₈.1.trans hw₇

theorem sessionObjSetSessAifMetadata_inert (aif : ℕ) (buf : Payload) :
    Ensures E (sessionObjSetSessAifMetadata s aif buf) w fun _ w' =>
      Inert (some aif) w.core w'.core := by
  refine withAif_inert hE hg fun i w hg => ?_
  simp only [ensures_bind, ensures_pure]
  refine (env_quiet hE _).imp fun md w₁ h₁ => ?_
  exact Ensures.imp (modifyAif_quiet (fun _ => rfl)) fun _ w₂ h₂ => h₂.trans h₁

theorem sessionObjGetTagWithModuleInfo_inert (aif : ℕ) :
    Ensures E (sessionObjGetTagWithModuleInfo s aif) w fun _ w' =>
      Inert (some aif) w.core w'.core := by
  refine withAif_inert hE hg fun i w hg => ?_
  simp only [ensures_bind]
  refine (mergeAif_quiet hE s i).imp fun md w₁ h₁ => ?_
  cases md with
  | none => exact h₁.1
  | some md =>
      simp only [graphGetTagsWithModuleInfo, ensures_bind, ensures_pure]
      exact (onMem_quiet hE _).imp fun _ w₂ h₂ => h₂.trans h₁.1

end

/-! ### Calls on a session that was just created -/

omit hE

theorem observed_nil : DevCore.observed [] = id := rfl

theorem OpenSteps.eq_of_firstOpen_none {b : OpenBranches} {c c' : Core} {r : ℤ}
    (h : OpenSteps b s c r c') (hn : c.firstOpen s = none) : c' = c := by
  have hfirst : ∀ {r : ℤ} {c₁ : Core}, OpenFirst b.cleans s c r c₁ → r ≠ 0 ∧ c₁ = c := by
    intro r c₁ h₁
    cases h₁ with
    | noAif hr hi h => exact ⟨hr, rfl⟩
    | failed hr hi hc => rw [hn] at hi; cases hi
    | opened hi hc => rw [hn] at hi; cases hi
  cases h with
  | first hr h₁ hu he => exact (hfirst h₁).2
  | unwound hr h₁ h₂ hr₂ h₃ hu hs he => exact absurd rfl (hfirst h₁).1
  | resumed h₁ h₂ hr₂ h₃ hu hs he h₄ => exact absurd rfl (hfirst h₁).1
  | edges hr h₁ h₂ h₃ hu he => exact absurd rfl (hfirst h₁).1
  | opened h₁ h₂ h₃ hu he => exact absurd rfl (hfirst h₁).1

/-- The only pair of a session that had none. -/
theorem GetAif.of_fresh {aif j : ℕ} {c c₁ : Core} (h : GetAif s aif c (0, j) c₁)
    (hf : c.sess s = {}) : c₁ = c.addRow s (c.newRow aif) ∧ j = 0 := by
  have hnone : c.findAif s aif = none := by simp [Core.findAif, hf]
  generalize hp : ((0 : ℤ), j) = p at h
  cases h with
  | found h => rw [hnone] at h; cases h
  | noMemory hr => exact absurd (by rw [← hp]) hr
  | created h =>
      cases hp
      exact ⟨rfl, by simp [hf]⟩

theorem AifConnect.inert_of_fresh {cleans gate unwinds : Prop} {aif : ℕ} {c c' : Core} {r : ℤ}
    (h : AifConnect cleans gate unwinds s aif c r c') (hf : c.sess s = {}) :
    Inert (some aif) c c' := by
  -- A closed session only notes that the interface is to be opened.
  have hclosed : ∀ {i : ℕ} {b : Bool} {c₁ c' : Core}, GetAif s aif c (0, i) c₁ →
      HotConnect cleans gate s i c₁ r b c' → Inert (some aif) c c' := by
    intro i b c₁ c' hi hc
    have hget := hi.inert
    obtain ⟨rfl, rfl⟩ := hi.of_fresh hf
    have hself : ((c.addRow s (c.newRow aif)).sess s) = { rows := [c.newRow aif] } := by
      simp [Core.addRow, hf]
    have hst : ((c.addRow s (c.newRow aif)).sess s).state = .sessionClosed := by rw [hself]
    cases hc with
    | already hr => exact hget
    | failed hs hi hr hc => exact absurd hst hs
    | opened hs hi hc => rw [hst] at hs; cases hs
    | prepareFailed hs hi hc hr hp => exact absurd hst hs
    | prepared hs hi hc hp => rw [hst] at hs; rcases hs with hs | hs <;> cases hs
    | startFailed hs hi hc hp hr hst' => rw [hst] at hs; cases hs
    | started hs hi hc hp hst' => rw [hst] at hs; cases hs
    | waiting hs hi =>
        have hset : (c.addRow s (c.newRow aif)).setRow s 0 .aifOpen =
            c.addRow s { c.newRow aif with state := .aifOpen } := by
          have hev : pairEvents ((c.addRow s (c.newRow aif)).row s 0).state .aifOpen = [] := by
            simp [Core.row, hself, c.newRow_state, pairEvents]
          have hobs : ∀ (x : Core) (d : Option ℕ), x.observe d [] = x := by
            intro x d
            cases d with
            | none => rfl
            | some d => simp [Core.observe, observed_nil, onDev_id]
          rw [Core.setRow, hev, hobs]
          simp [Core.putRow, Core.addRow, Core.setSess, hf]
        rw [hset]
        exact .addRow (by simp [hf]) rfl
  cases h with
  | noMemory hr h => exact .refl _ c
  | done h hi hc => exact hclosed hi hc
  | unwound h hi hc hd =>
      obtain ⟨rfl, rfl⟩ := hi.of_fresh hf
      have hst : ((c.addRow s (c.newRow aif)).sess s).state = .sessionClosed := by
        simp [Core.addRow, hf]
      cases hc with
      | prepareFailed hs hi hc hr hp => exact absurd hst hs
      | startFailed hs hi hc hp hr hst' => rw [hst] at hs; cases hs

theorem AifDisconnect.inert_of_fresh {lost : Prop} {aif i : ℕ} {c c₁ c' : Core} {r : ℤ}
    (hi : GetAif s aif c (0, i) c₁) (h : AifDisconnect lost s i c₁ r c') (hf : c.sess s = {}) :
    Inert (some aif) c c' := by
  have hget := hi.inert
  obtain ⟨rfl, rfl⟩ := hi.of_fresh hf
  have hrow : ((c.addRow s (c.newRow aif)).row s 0).state = .aifClosed := by
    simp only [Core.row, Core.addRow, Core.sess_setSess_self, hf, List.nil_append,
      List.getD_cons_zero, c.newRow_state]
  cases h with
  | already hr => exact hget
  | forgotten hs hi => rw [hrow] at hi; exact absurd hi (by decide)
  | disconnected hs hi hd => rw [hrow] at hi; exact absurd hi (by decide)

/-! ### Every call is a step -/

include hE hG

theorem run_open (s : ℕ) :
    Ensures E (sessionObjOpen s) w fun r w' => Step w (.open s) r w'.core := by
  simp only [sessionObjOpen, ensures_bind]
  refine (sessionObjGet_usable hE hG s).imp fun r w₁ h => ?_
  obtain ⟨hl, hu, hsame⟩ := h
  rw [ensures_ite]
  refine ⟨fun _ => .inert hl.peek.inert, fun hr => ?_⟩
  have hr := not_not.mp hr
  obtain ⟨hs₁, hg₁⟩ := hu hr
  rw [ensures_bind, ensures_getSess, ensures_ite]
  refine ⟨fun _ => .inert hl.peek.inert, fun hst => ?_⟩
  refine (openClosedSession_ensures hE s hs₁ hg₁).imp fun r' w₂ h₂ => ?_
  obtain ⟨lost, h₂, hlost⟩ := h₂
  by_cases hs : s ∈ w.pool
  · obtain rfl := hsame hr hs
    exact .open hs (not_not.mp hst) h₂ hlost
  · have hfresh : w₁.core = w.core.addSess s := by
      generalize w₁.core = c₁ at hl
      cases hl with
      | found h => exact absurd h hs
      | noMemory hr' => exact absurd hr hr'
      | created h => rfl
    have hnone : w₁.core.firstOpen s = none := by
      rw [hfresh]
      simp [Core.firstOpen, Core.addSess, Core.setSess]
    rw [h₂.eq_of_firstOpen_none hnone]
    exact .inert hl.peek.inert

theorem run_aifConnect (s aif : ℕ) (connect : Bool) :
    Ensures E (withId s (sessionObjSessAifConnect s aif connect)) w fun r w' =>
      Step w (.aifConnect s aif connect) r w'.core := by
  simp only [withId, ensures_bind]
  refine (sessionObjGet_usable hE hG s).imp fun r w₁ h => ?_
  obtain ⟨hl, hu, hsame⟩ := h
  rw [ensures_ite]
  refine ⟨fun _ => .inert (hl.peek.inert.after (.refl _ _)), fun hr => ?_⟩
  have hr := not_not.mp hr
  obtain ⟨hs₁, hg₁⟩ := hu hr
  have hfresh : s ∉ w.pool → w₁.core.sess s = {} := by
    intro hs
    generalize w₁.core = c₁ at hl
    cases hl with
    | found h => exact absurd h hs
    | noMemory hr' => exact absurd hr hr'
    | created h => exact Function.update_self ..
  cases connect with
  | true =>
      refine (sessionObjSessAifConnect_true_ensures hE s aif hs₁ hg₁).imp fun r' w₂ h₂ => ?_
      by_cases hs : s ∈ w.pool
      · obtain rfl := hsame hr hs
        exact .connect hs h₂
      · exact .inert (hl.peek.inert.after (h₂.inert_of_fresh (hfresh hs)))
  | false =>
      refine (sessionObjSessAifConnect_false_ensures hE s aif hg₁).imp fun r' w₂ h₂ => ?_
      rcases h₂ with ⟨-, h₂⟩ | ⟨i, c₁, hi, h₂⟩
      · rw [h₂]
        exact .inert (hl.peek.inert.after (.refl _ _))
      · by_cases hs : s ∈ w.pool
        · obtain rfl := hsame hr hs
          exact .disconnect hs hi h₂
        · exact .inert (hl.peek.inert.after (h₂.inert_of_fresh hi (hfresh hs)))

omit hE in
theorem run_withHandle {s : ℕ} {m : AgmM ℤ} {op : Op}
    (hm : s ∈ w.core.pool → Usable E w.core (w.core.sess s).graph →
      Ensures E m w fun r w' => Step w op r w'.core) :
    Ensures E (withHandle s m) w fun r w' => Step w op r w'.core := by
  simp only [withHandle, ensures_bind, ensures_gets, ensures_ite, ensures_pure]
  exact ⟨fun hs => hm hs (hG s hs), fun _ => .inert (.refl _ _)⟩

/-- **Every call is a step of the abstract service.** -/
theorem run_ensures (op : Op) : Ensures E op.run w fun r w' => Step w op r w'.core := by
  have hinert : ∀ {m : AgmM ℤ}, (Ensures E m w fun _ w' => Inert op.aif? w.core w'.core) →
      Ensures E m w fun r w' => Step w op r w'.core := fun h => h.imp fun _ _ h => .inert h
  cases op with
  | «open» s => exact run_open hE hG s
  | close s =>
      exact run_withHandle hG fun hs hg =>
        (sessionClose_ensures hE s hg).imp fun _ _ h => .close hs h
  | prepare s =>
      exact run_withHandle hG fun hs hg =>
        (sessionPrepare_ensures hE s hg).imp fun _ _ h => .prepare hs h
  | start s =>
      exact run_withHandle hG fun hs hg =>
        (sessionStart_ensures hE s hs hg).imp fun _ _ h => .start hs h
  | stop s =>
      exact run_withHandle hG fun hs hg =>
        (sessionStop_ensures hE s hg).imp fun _ _ h => .stop hs h
  | aifConnect s aif connect => exact run_aifConnect hE hG s aif connect
  | setLoopback s pb state =>
      exact hinert (withId_inert hE hG fun w₁ hs hg =>
        sessionObjSetLoopback_inert hE hg pb state hs)
  | setEcRef s aif state =>
      exact hinert (withId_inert hE hG fun w₁ _ hg => sessionObjSetEcRef_inert hE hg aif state)
  | setSessParams s payload =>
      exact hinert (withId_inert hE hG fun w₁ _ hg => sessionObjSetSessParams_inert hE hg payload)
  | setSessAifParams s aif payload =>
      exact hinert (withId_inert hE hG fun w₁ _ hg =>
        sessionObjSetSessAifParams_inert hE hg aif payload)
  | setSessAifParamsWithTag s aif tag tkv =>
      exact hinert (withId_inert hE hG fun w₁ _ hg =>
        sessionObjSetSessAifParamsWithTag_inert hE hg aif tag tkv)
  | setSessAifCal s aif ckv =>
      exact hinert (withId_inert hE hG fun w₁ _ hg => sessionObjSetSessAifCal_inert hE hg aif ckv)
  | setSessAifMetadata s aif buf =>
      exact hinert (withId_inert hE hG fun w₁ _ hg =>
        sessionObjSetSessAifMetadata_inert hE hg aif buf)
  | getTagWithModuleInfo s aif =>
      exact hinert (withId_inert hE hG fun w₁ _ hg =>
        sessionObjGetTagWithModuleInfo_inert hE hg aif)
  | setSessMetadata s buf =>
      exact hinert (withId_inert hE hG fun w₁ _ _ => sessionObjSetSessMetadata_inert hE buf)
  | getSessParams s size =>
      exact hinert (withId_inert hE hG fun w₁ _ hg => sessionObjGetSessParams_inert hE hg size)
  | registerCb s cb evt client =>
      exact hinert (withId_inert hE hG fun w₁ _ _ => sessionObjRegisterCb_inert hE cb evt client)
  | setConfig s stream media buf =>
      exact hinert (withHandle_inert hG fun _ _ => sessionObjSetConfig_inert stream media buf)
  | pause s =>
      exact hinert (withHandle_inert hG fun _ hg =>
        sessionObjStartedCall_inert (onGraph_inert hE hg none))
  | resume s => exact hinert (withHandle_inert hG fun _ hg => onGraph_inert hE hg none)
  | read s size =>
      exact hinert (withHandle_inert hG fun _ hg =>
        sessionObjGraphCall_inert (onGraph_inert hE hg none))
  | write s size =>
      exact hinert (withHandle_inert hG fun _ hg =>
        sessionObjGraphCall_inert (onGraph_inert hE hg none))
  | eos s =>
      exact hinert (withHandle_inert hG fun _ hg =>
        sessionObjGraphCall_inert (onGraph_inert hE hg none))
  | hwProcessedBuffCnt s =>
      exact hinert (withHandle_inert hG fun _ _ => sessionObjGraphCall_inert (.refl none w.core))
  | getTimestamp s =>
      exact hinert (withHandle_inert hG fun _ hg =>
        sessionObjGraphCall_inert (onGraph_inert hE hg none))
  | bufferTimestamp s =>
      exact hinert (withId_inert hE hG fun w₁ _ hg =>
        sessionObjStartedCall_inert (onGraph_inert hE hg none))
  | getSessBufInfo s a b =>
      exact hinert (withId_inert hE hG fun w₁ _ hg =>
        sessionObjGraphCall_inert (graphGetBufInfo_inert hE hg))
  | aifSetMetadata aif buf =>
      refine hinert (withDevice_inert fun t => ?_)
      simp only [deviceSetMetadata, ensures_bind, ensures_zoom]
      exact ensures_of_forall (fun e => hE e) fun _ _ => rfl
  | aifSetMediaConfig aif cfg => exact hinert (withDevice_inert fun t => rfl)
  | aifSetParams aif payload =>
      refine hinert (withDevice_inert fun t => ?_)
      simp only [deviceSetParams, ensures_bind, ensures_zoom, ensures_obj]
      refine ensures_of_forall (fun e => hE e) fun block _ => ?_
      rw [ensures_ite]
      exact ⟨fun _ => rfl, fun _ => rfl⟩

/-- A call with its own external results. -/
theorem exec_ensures (call : Call) :
    Ensures E (exec call) w fun r w' => Step { w with ext := call.ext } call.op r w'.core := by
  simp only [exec, ensures_bind, ensures_modify]
  exact run_ensures hE (w := { w with ext := call.ext }) hG call.op

end

/-- Whatever call returns has made a step. -/
theorem exec_step {w : World} (call : Call) :
    Ensures anyFault (exec call) w fun r w' =>
      Step { w with ext := call.ext } call.op r w'.core :=
  exec_ensures (fun _ => trivial) (fun _ _ _ _ => .inr trivial) call

end Agm
