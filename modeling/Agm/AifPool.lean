import Agm.GraphOwner

/-! # The pool of a session

Every pair of a session is meant to belong to an interface of the card: its id is below
`num_audio_intfs`, its device is the one of that id, and no id occurs twice.  The pool is filled
by `aif_obj_get`, whose `aif_obj_create` returns the zeroed object when `device_get_obj` refuses
the id, and by `device_get_obj` itself, which lets the id `num_audio_intfs` pass.  So the pool is
in order in every run in which an id beyond the card is named only when there is no memory for
the new entry (`aif_pool_represents`). -/

namespace Agm

open Prog

/-- The pairs have distinct ids, and each the device of its id. -/
structure PoolOk (num : ℕ) (keys : List (ℕ × Option ℕ)) : Prop where
  entry : ∀ k ∈ keys, k.1 < num ∧ k.2 = some k.1
  nodup : (keys.map Prod.fst).Nodup

def Row.key (r : Row) : ℕ × Option ℕ := (r.aifId, r.dev)

/-- The pools of all sessions are in order. -/
def PoolsOk (c : Core) : Prop :=
  ∀ t ∈ c.pool, PoolOk c.numAudioIntfs ((c.sess t).rows.map Row.key)

theorem PoolOk.nil (num : ℕ) : PoolOk num [] := by
  refine ⟨fun k hk => ?_, List.nodup_nil⟩
  cases hk

section
variable {c c' : Core} {s : ℕ}

theorem PoolsOk.only (h : PoolsOk c) (hs : s ∈ c.pool) (ho : Only s c c') : PoolsOk c' := by
  unfold PoolsOk
  rw [ho.numAudioIntfs]
  refine ho.forall_sess (P := fun x => PoolOk c.numAudioIntfs (x.rows.map Row.key))
    (PoolOk.nil _) ?_ h
  rw [show (c'.sess s).rows.map Row.key = (c.sess s).rows.map Row.key from ho.keys]
  exact h s hs

/-- A new pair for an interface of the card. -/
theorem PoolOk.grown {named : Option ℕ} {rows rows' : List Row}
    (h : PoolOk c.numAudioIntfs (rows.map Row.key)) (hg : Grown named c rows rows')
    (hn : ∀ aif ∈ named, aif < c.numAudioIntfs) :
    PoolOk c.numAudioIntfs (rows'.map Row.key) := by
  cases hg with
  | same => exact h
  | @added aif st hnamed hf hst =>
      have hlt := hn aif hnamed
      have hkey : Row.key { c.newRow aif with state := st } = (aif, some aif) := by
        rw [Core.newRow, if_pos hlt]
        rfl
      rw [List.map_append, List.map_singleton, hkey]
      refine ⟨fun k hk => ?_, ?_⟩
      · rcases List.mem_append.mp hk with hk | hk
        · exact h.entry k hk
        · rw [List.mem_singleton.mp hk]
          exact ⟨hlt, rfl⟩
      · rw [List.map_append, List.nodup_append]
        refine ⟨h.nodup, List.nodup_singleton _, ?_⟩
        rintro a ha b hb rfl
        rw [List.map_singleton, List.mem_singleton] at hb
        subst hb
        simp only [List.mem_map] at ha
        obtain ⟨k, ⟨r, hr, rfl⟩, hk⟩ := ha
        exact hf r hr hk

theorem PoolsOk.inert {named : Option ℕ} (h : PoolsOk c) (hi : Inert named c c')
    (hn : ∀ aif ∈ named, aif < c.numAudioIntfs) : PoolsOk c' := by
  unfold PoolsOk
  rw [hi.numAudioIntfs]
  exact hi.forall_sess (P := fun x => PoolOk c.numAudioIntfs (x.rows.map Row.key)) (PoolOk.nil _)
    (fun x y _ _ hg hx => hx.grown hg hn) h

end

/-- A call that names no interface, or one of the card. -/
theorem Step.poolsOk {w : World} {op : Op} {r : ℤ} {c' : Core} (hs : Step w op r c')
    (hn : ∀ aif ∈ op.aif?, aif < w.numAudioIntfs) (h : PoolsOk w.core) : PoolsOk c' := by
  cases hs with
  | inert hi => exact h.inert hi hn
  | «open» hp hst ho hl => exact h.only hp (ho.only hp)
  | close hp hcl => exact h.only hp (hcl.only hp)
  | prepare hp hpr => exact h.only hp (hpr.only hp)
  | start hp hst => exact h.only hp (hst.only hp)
  | stop hp hst => exact h.only hp (hst.only hp)
  | connect hp ha =>
      cases ha with
      | noMemory hr hu => exact h
      | done hu hi hc =>
          have hs₁ := (hi.pair hp).1
          exact (h.inert hi.inert hn).only hs₁ (hc.only hs₁)
      | unwound hu hi hc hd =>
          have hs₁ := (hi.pair hp).1
          exact (h.inert hi.inert hn).only hs₁ ((hc.only hs₁).trans hs₁ (.of_frame hd.frame))
  | disconnect hp hi hd =>
      exact (h.inert hi.inert hn).only (hi.pair hp).1 hd.only

/-! ### Refused ids -/

/-- The session and the interface that a call names. -/
def Op.named? : Op → Option (ℕ × ℕ)
  | .aifConnect s aif _ | .setSessAifParams s aif _ | .setSessAifParamsWithTag s aif _ _
  | .setSessAifCal s aif _ | .setSessAifMetadata s aif _ | .getTagWithModuleInfo s aif =>
      some (s, aif)
  | _ => none

theorem Op.aif?_eq (op : Op) : op.aif? = op.named?.map Prod.snd := by
  cases op <;> rfl

/-- The code of `aif_obj_get`. -/
def aifCode (s aif : ℕ) : AgmM ℤ := do
  let r ← aifObjGet s aif
  pure r.1

/-- There is no memory for the session or for its new entry. -/
def NoMemoryFor (s aif : ℕ) (w : World) : Prop :=
  Ensures anyFault (withId s (aifCode s aif)) w fun r _ => r ≠ 0

instance (s aif : ℕ) (w : World) : Decidable (NoMemoryFor s aif w) :=
  inferInstanceAs (Decidable (Ensures _ _ _ _))

/-- What a call names is an interface of the card, or there is no memory for it. -/
def AifHonest (w : World) (call : Call) : Prop :=
  ∀ p ∈ call.op.named?, p.2 < w.numAudioIntfs ∨ NoMemoryFor p.1 p.2 { w with ext := call.ext }

instance (w : World) (call : Call) : Decidable (AifHonest w call) :=
  inferInstanceAs (Decidable (∀ p ∈ _, _))

/-- What is left when an entry cannot be had: a failure, and no session changed. -/
def Refused (w : World) (r : ℤ) (w' : World) : Prop :=
  r ≠ 0 ∧ Inert none w.core w'.core ∧ ∀ t ∈ w.pool, w'.sess t = w.sess t

section
variable {w : World} {s aif : ℕ}

theorem aifObjCreate_frame (aif : ℕ) :
    Ensures anyFault (aifObjCreate aif) w fun _ w' => w'.core = w.core ∧ w'.sess = w.sess := by
  have henv : Ensures anyFault (env calloc) w fun _ w' => w'.core = w.core ∧ w'.sess = w.sess := by
    simp only [env, ensures_zoom]
    exact ensures_of_forall (fun _ => trivial) fun _ _ => ⟨rfl, trivial⟩
  simp only [aifObjCreate, deviceGetObj, ensures_bind, ensures_ite, ensures_pure, ensures_gets]
  refine henv.imp fun block w₁ h₁ => ⟨fun _ => h₁, fun _ => ?_⟩
  exact ⟨fun _ => ⟨fun _ => h₁, fun _ => h₁⟩, fun _ => ⟨fun _ => h₁, fun _ => h₁⟩⟩

/-- `aif_obj_get` fails before it changes anything. -/
theorem aifObjGet_failed (s aif : ℕ) : Ensures anyFault (aifObjGet s aif) w fun r w' =>
    r.1 ≠ 0 → w'.core = w.core ∧ w'.sess = w.sess := by
  simp only [aifObjGet, ensures_bind, ensures_getSess]
  cases aifObjGetFromPool (w.sess s) aif with
  | some i => exact fun h => absurd rfl h
  | none =>
      rw [ensures_bind]
      refine (aifObjCreate_frame aif).imp fun obj w₁ h₁ => ?_
      cases obj with
      | none => exact fun _ => h₁
      | some a => exact fun h => absurd rfl h

/-- Without memory for the entry the rest of a call is not reached. -/
theorem afterGet_refused {m : ℕ → AgmM ℤ} : Ensures anyFault (withAif s aif m) w fun r w' =>
    Ensures anyFault (aifCode s aif) w (fun r _ => r ≠ 0) →
      r ≠ 0 ∧ w'.core = w.core ∧ w'.sess = w.sess := by
  simp only [withAif, ensures_bind]
  refine (aifObjGet_failed s aif).with_ok.imp fun r w₁ h => ?_
  obtain ⟨h, hrun⟩ := h
  have hcode : Ensures anyFault (aifCode s aif) w (fun r _ => r ≠ 0) ↔ r.1 ≠ 0 := by
    rw [aifCode, ensures_bind, ensures_iff_of_ok hrun]
    rfl
  rw [ensures_ite, hcode]
  refine ⟨fun hr _ => ⟨hr, h hr⟩, fun hr => ?_⟩
  exact ensures_of_forall (fun _ => trivial) fun _ _ hr' => absurd hr' hr

theorem withId_refused {m : AgmM ℤ}
    (hm : ∀ w₁ : World, Ensures anyFault m w₁ fun r w' =>
      Ensures anyFault (aifCode s aif) w₁ (fun r _ => r ≠ 0) →
        r ≠ 0 ∧ w'.core = w₁.core ∧ w'.sess = w₁.sess) :
    Ensures anyFault (withId s m) w fun r w' => NoMemoryFor s aif w → Refused w r w' := by
  have hget : Ensures anyFault (sessionObjGet s) w fun r w₁ =>
      Inert none w.core w₁.core ∧ ∀ t ∈ w.pool, w₁.sess t = w.sess t := by
    have hsess : Ensures anyFault (sessionObjGet s) w fun _ w₁ =>
        ∀ t ∈ w.pool, w₁.sess t = w.sess t := by
      simp only [sessionObjGet, ensures_bind, ensures_gets, ensures_ite, ensures_pure, env,
        ensures_zoom, ensures_modify]
      refine ⟨fun _ _ _ => trivial, fun hs => ?_⟩
      refine ensures_of_forall (fun _ => trivial) fun _ _ => ⟨fun _ _ _ => trivial, fun _ t ht => ?_⟩
      refine Function.update_of_ne ?_ _ _
      rintro rfl
      exact hs ht
    exact ((sessionObjGet_ensures (fun _ => trivial) s).and hsess).imp fun r w₁ h =>
      ⟨h.1.peek.inert, h.2⟩
  simp only [withId, ensures_bind]
  refine hget.with_ok.imp fun r w₁ h => ?_
  obtain ⟨⟨hi, hsess⟩, hrun⟩ := h
  have hno : NoMemoryFor s aif w ↔ Ensures anyFault
      (if r ≠ 0 then pure r else aifCode s aif) w₁ fun r _ => r ≠ 0 := by
    rw [NoMemoryFor, withId, ensures_bind, ensures_iff_of_ok hrun]
  rw [ensures_ite]
  refine ⟨fun hr _ => ⟨hr, hi, hsess⟩, fun hr => ?_⟩
  rw [if_neg hr] at hno
  refine (hm w₁).imp fun r' w' h hn => ?_
  obtain ⟨hr', hcore, hs'⟩ := h (hno.mp hn)
  exact ⟨hr', by rw [hcore]; exact hi, fun t ht => by rw [hs']; exact hsess t ht⟩

/-- Connecting begins like the other calls that name an interface. -/
theorem aifConnect_refused (connect : Bool) :
    Ensures anyFault (sessionObjSessAifConnect s aif connect) w fun r w' =>
      Ensures anyFault (aifCode s aif) w (fun r _ => r ≠ 0) →
        r ≠ 0 ∧ w'.core = w.core ∧ w'.sess = w.sess := by
  simp only [sessionObjSessAifConnect, aifConnectSteps, ensures_bind]
  refine (aifObjGet_failed s aif).with_ok.imp fun r w₁ h => ?_
  obtain ⟨h, hrun⟩ := h
  have hcode : Ensures anyFault (aifCode s aif) w (fun r _ => r ≠ 0) ↔ r.1 ≠ 0 := by
    rw [aifCode, ensures_bind, ensures_iff_of_ok hrun]
    rfl
  rw [ensures_ite, hcode]
  refine ⟨fun hr _ => ⟨hr, h hr⟩, fun hr => ?_⟩
  refine ensures_of_forall (fun _ => trivial) fun _ _ => ?_
  exact ensures_of_forall (fun _ => trivial) fun _ _ hr' => absurd hr' hr

end

/-- A call on an interface that there is no memory for fails and changes no session. -/
theorem run_refused {w : World} {op : Op} {p : ℕ × ℕ} (hp : p ∈ op.named?) :
    Ensures anyFault op.run w fun r w' => NoMemoryFor p.1 p.2 w → Refused w r w' := by
  cases op with
  | aifConnect s aif connect =>
      cases hp
      exact withId_refused fun w₁ => aifConnect_refused connect
  | setSessAifParams s aif payload =>
      cases hp
      exact withId_refused fun w₁ => afterGet_refused
  | setSessAifParamsWithTag s aif tag tkv =>
      cases hp
      exact withId_refused fun w₁ => afterGet_refused
  | setSessAifCal s aif ckv =>
      cases hp
      exact withId_refused fun w₁ => afterGet_refused
  | setSessAifMetadata s aif buf =>
      cases hp
      exact withId_refused fun w₁ => afterGet_refused
  | getTagWithModuleInfo s aif =>
      cases hp
      exact withId_refused fun w₁ => afterGet_refused
  | _ => cases hp

theorem exec_refused {w : World} {call : Call} {p : ℕ × ℕ} (hp : p ∈ call.op.named?) :
    Ensures anyFault (exec call) w fun r w' =>
      NoMemoryFor p.1 p.2 { w with ext := call.ext } → Refused w r w' := by
  simp only [exec, ensures_bind, ensures_modify]
  exact run_refused hp

/-! ### Runs -/

theorem exec_poolsOk {w : World} (call : Call) (hc : AifHonest w call) (h : PoolsOk w.core) :
    Ensures anyFault (exec call) w fun _ w' => PoolsOk w'.core := by
  by_cases hn : ∀ aif ∈ call.op.aif?, aif < w.numAudioIntfs
  · exact (exec_step call).imp fun r w' hs => hs.poolsOk hn h
  · simp only [not_forall] at hn
    obtain ⟨aif, ha, hge⟩ := hn
    rw [Op.aif?_eq, Option.mem_map] at ha
    obtain ⟨p, hp, rfl⟩ := ha
    have hno := (hc p hp).resolve_left hge
    exact (exec_refused hp).imp fun r w' hr => h.inert (hr hno).2.1 fun _ h => nomatch h

/-- The pool of every session is in order: ids of the card, their own devices, and no id twice. -/
def World.PoolsInOrder (w : World) : Prop :=
  ∀ s ∈ w.pool, (∀ a ∈ (w.sess s).aifPool, a.aifId < w.numAudioIntfs ∧ a.devObj = some a.aifId) ∧
    ((w.sess s).aifPool.map Aif.aifId).Nodup

theorem PoolsOk.inOrder {w : World} (h : PoolsOk w.core) : w.PoolsInOrder := by
  intro s hs
  have hp := h s hs
  have hmap : (w.core.sess s).rows.map Row.key =
      (w.sess s).aifPool.map fun a => (a.aifId, a.devObj) := by
    simp [World.core, SessionObj.core, Function.comp_def, Aif.row, Row.key]
  rw [hmap] at hp
  refine ⟨fun a ha => hp.entry (a.aifId, a.devObj) (List.mem_map_of_mem ha), ?_⟩
  have hnd := hp.nodup
  rwa [List.map_map] at hnd

/-- **The pools represent interfaces of the card.**  In every state reached by calls that name
interfaces of the card, or for which there is no memory, every pool is in order; and such a call
with an id beyond the card fails and leaves every session as it is. -/
theorem aif_pool_represents {w w' : World} {calls : List Call} (hw : Initial w)
    (hc : Admits exec AifHonest calls w) (hrun : runAll exec calls w = .ok ((), w')) :
    w'.PoolsInOrder ∧
    ∀ call, AifHonest w' call → ∀ p ∈ call.op.named?, w'.numAudioIntfs ≤ p.2 →
      ∀ r w'', exec call w' = .ok (r, w'') → r ≠ 0 ∧ ∀ s ∈ w'.pool, w''.sess s = w'.sess s := by
  have hinit : PoolsOk w.core := by
    intro t ht
    rw [show w.core.pool = [] from hw.pool] at ht
    cases ht
  have hpools := (runAll_invariant exec (I := fun w => PoolsOk w.core)
    (fun w call h hc => exec_poolsOk call hc h) calls w hinit hc).of_ok hrun
  refine ⟨PoolsOk.inOrder hpools, fun call hcall p hp hge r w'' he => ?_⟩
  have hno := (hcall p hp).resolve_left (not_lt.mpr hge)
  have hr := (exec_refused hp).of_ok he hno
  exact ⟨hr.1, hr.2.2⟩

/-- Interfaces of the card, and one beyond it without memory for its entry. -/
def namesOfTheCard : List Call :=
  [⟨.aifConnect 0 1 true, []⟩, ⟨.setSessAifParams 0 3 [7], []⟩, ⟨.aifConnect 0 9 true, failAfter 0 1⟩]

theorem aif_pool_represents_namesOfTheCard :
    ∃ w', runAll exec namesOfTheCard (startUp 4) = .ok ((), w') ∧
      (w'.sess 0).aifPool.map Aif.aifId = [1, 3] ∧ w'.PoolsInOrder := by
  obtain ⟨_, w', hrun, hids⟩ := Ensures.exists_ok (m := runAll exec namesOfTheCard)
    (s := startUp 4) (Q := fun _ w' => (w'.sess 0).aifPool.map Aif.aifId = [1, 3])
    (by decide +kernel)
  have hpool := aif_pool_represents (initial_startUp 4) (by decide +kernel) hrun
  exact ⟨w', hrun, hids, hpool.1⟩

/-- An id beyond the card is connected to a closed session. -/
def nameBeyondTheCard : List Call := [⟨.aifConnect 0 9 true, []⟩]

theorem aif_pool_represents_nameBeyondTheCard :
    Ensures noFault (runAll exec nameBeyondTheCard) (startUp 4) (fun _ w =>
      ((w.sess 0).aifPool.map fun a => (a.aifId, a.devObj)) = [(0, none)]) ∧
    Ensures noFault (exec ⟨.aifConnect 0 9 true, []⟩) (startUp 4) fun r _ => r = 0 := by
  decide +kernel

end Agm
