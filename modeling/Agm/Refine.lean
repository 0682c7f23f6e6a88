import Agm.Steps

/-! # The service refines the abstract service

One specification for each function of `Agm.Session`, read through `World.core`.

Throughout, `E` says which faults are allowed.  Crashes always are (`hE`); a use of a closed
graph is allowed or not as the application wants, and a function that takes a graph pointer
asks for it to be `Usable`.  With `E` always true the specifications are about the calls that
return; with `E` the crashes only, they also show that no closed graph is used. -/

namespace Agm

open Prog

/-- Using the pointer is no fault that `E` excludes. -/
def Usable (E : Fault → Prop) (c : Core) (p : Option ℕ) : Prop :=
  ∀ g, p = some g → c.live g = true ∨ E (.useAfterClose g)

section
variable {E : Fault → Prop} {w : World}

/-! ### Assignments -/

@[simp] theorem ensures_getSess (s : ℕ) (Q : SessionObj → World → Prop) :
    Ensures E (getSess s) w Q ↔ Q (w.sess s) w := Iff.rfl

@[simp] theorem ensures_getAif (s i : ℕ) (Q : Aif → World → Prop) :
    Ensures E (getAif s i) w Q ↔ Q (w.aif s i) w := Iff.rfl

@[simp] theorem ensures_poolRange (s : ℕ) (Q : List ℕ → World → Prop) :
    Ensures E (poolRange s) w Q ↔ Q (List.range (w.sess s).aifPool.length) w := Iff.rfl

/-- What `device_get_obj` returns. -/
def World.deviceOf (w : World) (idx : ℕ) : ℤ × Option ℕ :=
  if w.numAudioIntfs < idx then (-EINVAL, none)
  else (0, if idx < w.numAudioIntfs then some idx else w.pastEnd)

theorem ensures_deviceGetObj (idx : ℕ) (Q : ℤ × Option ℕ → World → Prop) :
    Ensures E (deviceGetObj idx) w Q ↔ Q (w.deviceOf idx) w := by
  unfold deviceGetObj World.deviceOf
  rw [ensures_bind, ensures_gets, ensures_bind, ensures_gets]
  split_ifs <;> exact Iff.rfl

theorem core_row (w : World) (s i : ℕ) : w.core.row s i = (w.aif s i).row :=
  List.getD_map (w.sess s).aifPool ({} : Aif) Aif.row

theorem core_openedCount (w : World) (s : ℕ) :
    w.core.openedCount s = openedCount (w.sess s) := by
  simp only [Core.openedCount, World.core, SessionObj.core, List.countP_map, openedCount]
  rfl

theorem core_update_sess (w : World) (s : ℕ) (x : SessionObj) :
    { w with sess := Function.update w.sess s x }.core = w.core.setSess s x.core := by
  simp only [World.core, Core.setSess, Core.mk.injEq, true_and, and_true]
  exact Function.comp_update SessionObj.core w.sess s x

theorem core_update_dev (w : World) (d : ℕ) (x : DeviceObj) :
    { w with dev := Function.update w.dev d x }.core =
      { w.core with dev := Function.update w.core.dev d x.core } := by
  simp only [World.core, Core.mk.injEq, true_and, and_true]
  exact Function.comp_update DeviceObj.core w.dev d x

theorem setSess_self (c : Core) (s : ℕ) : c.setSess s (c.sess s) = c := by
  simp [Core.setSess]

/-- An assignment to fields of a session that the abstract service does not see. -/
theorem modifySess_quiet {s : ℕ} {f : SessionObj → SessionObj} (hf : ∀ x, (f x).core = x.core) :
    Ensures E (modifySess s f) w fun _ w' => w'.core = w.core := by
  simp only [modifySess, ensures_modify, core_update_sess, hf]
  exact setSess_self w.core s

theorem core_aifPool_modify (l : List Aif) (i : ℕ) {f : Aif → Aif} {g : Row → Row}
    (hf : ∀ a, (f a).row = g a.row) : (l.modify i f).map Aif.row = (l.map Aif.row).modify i g := by
  induction l generalizing i with
  | nil => simp
  | cons a l ih =>
      cases i with
      | zero => simp [hf]
      | succ i => simp [ih]

/-- An assignment to fields of an interface that the abstract service does not see. -/
theorem modifyAif_quiet {s i : ℕ} {f : Aif → Aif} (hf : ∀ a, (f a).row = a.row) :
    Ensures E (modifyAif s i f) w fun _ w' => w'.core = w.core := by
  refine modifySess_quiet fun x => ?_
  simp only [SessionObj.core, core_aifPool_modify x.aifPool i (g := id) hf, List.modify_id]

theorem core_observe (w : World) (d : Option ℕ) (evs : List DevEvent) :
    (observe d evs w).core = w.core.observe d evs := by
  cases d with
  | none => rfl
  | some d => exact core_update_dev w d _

theorem setAifState_ensures (s i : ℕ) (st : AifState) :
    Ensures E (setAifState s i st) w fun _ w' => w'.core = w.core.setRow s i st := by
  simp only [setAifState, modifyAif, modifySess, ensures_bind, ensures_getAif, ensures_modify,
    core_observe, core_update_sess, Core.setRow, core_row, Core.putRow, SessionObj.core]
  rw [core_aifPool_modify _ i (g := fun r => { r with state := st }) fun a => rfl]
  rfl

/-! ### Calls that the abstract service does not see -/

variable (hE : ∀ c, E (.crash c))
include hE

theorem env_quiet {α : Type} (m : EnvM α) :
    Ensures E (env m) w fun _ w' => w'.core = w.core := by
  rw [env, ensures_zoom]
  exact ensures_of_forall (fun e => hE e) fun _ _ => rfl

theorem onMem_quiet {α : Type} (m : MemM α) :
    Ensures E (onMem m) w fun _ w' => w'.core = w.core := by
  rw [onMem, ensures_zoom]
  exact ensures_of_forall (fun e => hE e) fun _ _ => rfl

omit hE in
/-- A function run on an open graph. -/
theorem ensures_onLiveGraph {g : ℕ} {obj : GraphObj} (hg : w.heap g = some obj)
    {m : View → GraphM ℤ} {Q : ℤ → World → Prop}
    (hm : Ensures (fun e => E (.crash e)) (m ⟨w.sess, w.dev⟩) ⟨obj, w.mem, w.ext⟩ fun r t =>
      Q r { w with heap := Function.update w.heap g (some t.obj), mem := t.mem, ext := t.ext }) :
    Ensures E (onLiveGraph g m) w Q := by
  unfold Ensures at *
  simp only [onLiveGraph, hg]
  cases h : m ⟨w.sess, w.dev⟩ ⟨obj, w.mem, w.ext⟩ with
  | error e => rw [h] at hm; exact hm
  | ok p => rw [h] at hm; exact hm

omit hE in
/-- A function run on a closed graph. -/
theorem ensures_onLiveGraph_dead {g : ℕ} (hg : w.heap g = none) {m : View → GraphM ℤ}
    {Q : ℤ → World → Prop} : Ensures E (onLiveGraph g m) w Q ↔ E (.useAfterClose g) := by
  simp only [Ensures, onLiveGraph, hg]

/-- A function of the graph layer leaves every graph open or closed as it was, and refuses a
`NULL` graph. -/
theorem onGraph_quiet {p : Option ℕ} {m : View → GraphM ℤ} (hp : Usable E w.core p) :
    Ensures E (onGraph p m) w fun r w' => w'.core = w.core ∧ (r = 0 → p ≠ none) := by
  cases p with
  | none =>
      simp only [onGraph, ensures_pure]
      exact ⟨trivial, fun h => absurd h (by decide)⟩
  | some g =>
      simp only [onGraph]
      cases hg : w.heap g with
      | none =>
          rw [ensures_onLiveGraph_dead hg]
          rcases hp g rfl with h | h
          · simp [World.core, hg] at h
          · exact h
      | some obj =>
          refine ensures_onLiveGraph hg (ensures_of_forall (fun e => hE e) fun r t => ?_)
          refine ⟨?_, fun _ => Option.some_ne_none g⟩
          simp only [World.core, Core.mk.injEq, true_and, and_true]
          funext g'
          by_cases h : g' = g
          · subst h; simp [hg]
          · simp [h]

theorem graphSetConfig_quiet {p : Option ℕ} {o : Origin} {payload : Payload}
    (hp : Usable E w.core p) :
    Ensures E (graphSetConfig p o payload) w fun _ w' => w'.core = w.core := by
  simp only [graphSetConfig, ensures_bind, ensures_modify, ensures_pure]
  exact (onGraph_quiet hE hp).imp fun r w' h => h.1

/-! ### Opening and closing graphs -/

omit hE in
/-- `graph_open` stores a graph only when it succeeds; it may succeed without storing one. -/
theorem graphOpenBody_ensures (md : MetaData) (s : ℕ) (dev : Option ℕ) (t : MemState) :
    Ensures anyFault (graphOpenBody md s dev) t fun r _ => r.2 ≠ none → r.1 = 0 := by
  have hGsl : ∀ mods t, Ensures anyFault (openGsl md s mods) t fun r _ => r.2 ≠ none → r.1 = 0 := by
    intro mods t
    simp only [openGsl, ensures_bind, ensures_gets]
    refine ensures_of_forall (fun _ => trivial) fun _ t => ?_
    refine ensures_of_forall (fun _ => trivial) fun a t => ?_
    rw [ensures_ite]
    refine ⟨fun _ => by simp, fun _ => ?_⟩
    rw [ensures_bind]
    refine ensures_of_forall (fun _ => trivial) fun a t => ?_
    rw [ensures_ite]
    refine ⟨fun _ => ?_, fun _ => by simp⟩
    rw [ensures_bind]
    exact ensures_of_forall (fun _ => trivial) fun _ _ => by simp
  simp only [graphOpenBody, ensures_bind, ensures_ite, ensures_gets, ensures_pure]
  refine ensures_of_forall (fun _ => trivial) fun block t => ⟨fun _ => by simp, fun _ => ?_⟩
  refine ensures_of_forall (fun _ => trivial) fun info t => ⟨fun _ => by simp, fun _ => ?_⟩
  refine ensures_of_forall (fun _ => trivial) fun ret t => ⟨fun _ => by simp, fun _ => ?_⟩
  refine ensures_of_forall (fun _ => trivial) fun ret t => ⟨fun _ => by simp, fun _ => ?_⟩
  cases info.2 with
  | none => trivial
  | some tags =>
      rw [ensures_bind]
      refine ensures_of_forall (fun _ => trivial) fun exit t => ?_
      cases exit with
      | free ret => simp
      | found mods => exact hGsl mods t

theorem graphOpen_ensures (md : MetaData) (s : ℕ) (dev : Option ℕ) :
    Ensures E (graphOpen md s dev) w fun r w' =>
      w'.core = w.core ∨ r = 0 ∧ w'.core = w.core.newGraph s := by
  simp only [graphOpen, ensures_bind]
  have hbody : Ensures anyFault (onMem (graphOpenBody md s dev)) w
      fun r _ => r.2 ≠ none → r.1 = 0 := by
    rw [onMem, ensures_zoom]
    exact graphOpenBody_ensures md s dev _
  refine ((onMem_quiet hE _).and hbody).imp fun r w' h => ?_
  obtain ⟨hq, hr⟩ := h
  cases hobj : r.2 with
  | none =>
      simp only [ensures_pure]
      exact .inl hq
  | some obj =>
      simp only [ensures_bind, ensures_modify, ensures_pure]
      refine .inr ⟨hr (by simp [hobj]), ?_⟩
      have hcore : w'.core.newGraph s = w.core.newGraph s := by rw [hq]
      rw [← hcore]
      simp only [World.core, Core.newGraph, Core.setGraph, Core.setSess, Core.mk.injEq, true_and,
        and_true]
      refine ⟨Function.comp_update SessionObj.core w'.sess s _, ?_⟩
      exact Function.comp_update Option.isSome w'.heap w'.nextGraph (some obj)

/-- Closing `NULL` is refused and changes nothing; anything else is closed. -/
theorem graphClose_ensures {p : Option ℕ} (hp : Usable E w.core p) :
    Ensures E (graphClose p) w fun r w' => CloseGraph p w.core r w'.core := by
  simp only [graphClose, ensures_bind]
  refine (onGraph_quiet hE hp).imp fun r w' h => ?_
  cases p with
  | none =>
      simp only [ensures_pure]
      rw [h.1]
      exact .null rfl fun h0 => h.2 h0 rfl
  | some g =>
      simp only [ensures_bind, ensures_modify, ensures_pure]
      have hkill : { w' with heap := Function.update w'.heap g none }.core = w'.core.killGraph g := by
        simp only [World.core, Core.killGraph, Core.mk.injEq, true_and, and_true]
        exact Function.comp_update Option.isSome w'.heap g none
      rw [hkill, h.1]
      exact .closed rfl

/-! ### Devices -/

omit hE

/-- A device function seen through the core of its device. -/
theorem onDevice_ensures {d : ℕ} {m : DevM ℤ} (R : ℤ → DevCore → Prop)
    (hm : Ensures (fun e => E (.crash e)) m ⟨w.dev d, w.ext⟩ fun r t => R r t.obj.core) :
    Ensures E (onDevice (some d) m) w fun r w' =>
      ∃ x, R r x ∧ w'.core = w.core.onDev d fun _ => x := by
  simp only [onDevice, ensures_zoom]
  exact hm.imp fun r t h => ⟨t.obj.core, h, core_update_dev { w with ext := t.ext } d t.obj⟩

theorem onDev_self (c : Core) (d : ℕ) : (c.onDev d fun _ => c.dev d) = c := by
  simp [Core.onDev]

theorem onDevice_open (d : ℕ) :
    Ensures E (onDevice (some d) deviceOpen) w fun r w' =>
      (r ≠ 0 ∧ w'.core = w.core) ∨ (r = 0 ∧ w'.core = w.core.openDev d) := by
  refine (onDevice_ensures (fun r x => (r ≠ 0 ∧ x = w.core.dev d) ∨
    (r = 0 ∧ x = (w.core.dev d).opened)) ((deviceOpen_ensures _).imp fun r t h => ?_)).imp
    fun r w' h => ?_
  · rcases h with ⟨hr, -, h⟩ | ⟨hr, h0, h⟩ | ⟨hr, h0, h⟩
    · exact .inl ⟨hr, by rw [h]; rfl⟩
    · have h0' : (w.core.dev d).refcnt.open ≠ 0 := h0
      exact .inr ⟨hr, by rw [h, DevCore.opened, if_neg h0']; rfl⟩
    · have h0' : (w.core.dev d).refcnt.open = 0 := h0
      exact .inr ⟨hr, by rw [h, DevCore.opened, if_pos h0']; rfl⟩
  · obtain ⟨x, ⟨hr, rfl⟩ | ⟨hr, rfl⟩, hw⟩ := h
    · exact .inl ⟨hr, by rw [hw, onDev_self]⟩
    · exact .inr ⟨hr, hw⟩

theorem onDevice_close (d : ℕ) :
    Ensures E (onDevice (some d) deviceClose) w fun _ w' => w'.core = w.core.closeDev d := by
  refine (onDevice_ensures (fun _ x => x = (w.core.dev d).closed)
    ((deviceClose_ensures _).imp fun r t h => ?_)).imp fun r w' h => ?_
  · rcases h with ⟨h1, h⟩ | ⟨h1, h⟩
    · have h1' : (w.core.dev d).refcnt.open = 1 := h1
      rw [h, DevCore.closed, if_pos h1']
      rfl
    · have h1' : (w.core.dev d).refcnt.open ≠ 1 := h1
      rw [h, DevCore.closed, if_neg h1']
      rfl
  · obtain ⟨x, rfl, hw⟩ := h
    exact hw

theorem onDevice_prepare (d : ℕ) :
    Ensures E (onDevice (some d) devicePrepare) w fun r w' =>
      (r ≠ 0 ∧ w'.core = w.core.onDev d DevCore.notPrepared) ∨
      (r = 0 ∧ w'.core = w.core.onDev d DevCore.prepared) := by
  refine (onDevice_ensures (fun r x => (r ≠ 0 ∧ x = (w.core.dev d).notPrepared) ∨
    (r = 0 ∧ x = (w.core.dev d).prepared)) ((devicePrepare_ensures _).imp fun r t h => ?_)).imp
    fun r w' h => ?_
  · rcases h with ⟨hr, h0, h⟩ | ⟨hr, -, h⟩ | ⟨hr, h0, h⟩
    · have h0' : (w.core.dev d).refcnt.prepare ≠ 0 := h0
      exact .inr ⟨hr, by rw [h, DevCore.prepared, if_neg h0']; rfl⟩
    · exact .inl ⟨hr, by rw [h]; rfl⟩
    · have h0' : (w.core.dev d).refcnt.prepare = 0 := h0
      exact .inr ⟨hr, by rw [h, DevCore.prepared, if_pos h0']; rfl⟩
  · obtain ⟨x, ⟨hr, rfl⟩ | ⟨hr, rfl⟩, hw⟩ := h
    · exact .inl ⟨hr, hw⟩
    · exact .inr ⟨hr, hw⟩

theorem onDevice_start (d : ℕ) :
    Ensures E (onDevice (some d) deviceStart) w fun r w' =>
      (r ≠ 0 ∧ w'.core = w.core) ∨
      (r = 0 ∧ DeviceState.devPrepared.toNat ≤ (w.core.dev d).state.toNat ∧
        w'.core = w.core.onDev d DevCore.started) := by
  refine (onDevice_ensures (fun r x => (r ≠ 0 ∧ x = w.core.dev d) ∨
    (r = 0 ∧ DeviceState.devPrepared.toNat ≤ (w.core.dev d).state.toNat ∧
      x = (w.core.dev d).started)) ((deviceStart_ensures _).imp fun r t h => ?_)).imp
    fun r w' h => ?_
  · rcases h with ⟨hr, -, h⟩ | ⟨hr, hp, h0, h⟩ | ⟨hr, hp, h0, h⟩
    · exact .inl ⟨hr, by rw [h]; rfl⟩
    · have h0' : (w.core.dev d).refcnt.start ≠ 0 := h0
      exact .inr ⟨hr, hp, by rw [h, DevCore.started, if_neg h0']; rfl⟩
    · have h0' : (w.core.dev d).refcnt.start = 0 := h0
      exact .inr ⟨hr, hp, by rw [h, DevCore.started, if_pos h0']; rfl⟩
  · obtain ⟨x, ⟨hr, rfl⟩ | ⟨hr, hp, rfl⟩, hw⟩ := h
    · exact .inl ⟨hr, by rw [hw, onDev_self]⟩
    · exact .inr ⟨hr, hp, hw⟩

theorem onDevice_stop (d : ℕ) :
    Ensures E (onDevice (some d) deviceStop) w fun _ w' =>
      w'.core = w.core.onDev d DevCore.stopped := by
  refine (onDevice_ensures (fun _ x => x = (w.core.dev d).stopped)
    ((deviceStop_ensures _).imp fun r t h => ?_)).imp fun r w' h => ?_
  · rcases h with ⟨h0, h⟩ | ⟨h1, h⟩ | ⟨h0, h1, h⟩
    · have h0' : (w.core.dev d).refcnt.start = 0 := h0
      rw [h, DevCore.stopped, if_pos h0']
      rfl
    · have h0' : (w.core.dev d).refcnt.start ≠ 0 := by
        rw [show (w.core.dev d).refcnt.start = 1 from h1]; decide
      have h1' : (w.core.dev d).refcnt.start = 1 := h1
      rw [h, DevCore.stopped, if_neg h0', if_pos h1']
      rfl
    · have h0' : (w.core.dev d).refcnt.start ≠ 0 := h0
      have h1' : (w.core.dev d).refcnt.start ≠ 1 := h1
      rw [h, DevCore.stopped, if_neg h0', if_neg h1']
      rfl
  · obtain ⟨x, rfl, hw⟩ := h
    exact hw

end

end Agm
