import Agm.Moves
import Agm.RefineCalls

/-! # Cached parameters

A payload that arrives before its graph is cached in the session or in the pair of a session and
an interface, and `session_connect_aif` sends it with `graph_set_config` and frees it as soon as
GSL has accepted it.

* `accepted` reads off the record of those calls what GSL has accepted, and on which graph.
* `Carry` is what every function does to one cache: nothing, or its payload is accepted once and
  the cache is empty.
* `routine_follows` and `reopening_follows` carry this through the functions of a session, and
  `sendParams_follows` through the one that sends. -/

namespace Agm

open Prog

/-! ### Caches and what was accepted -/

/-- The payload that waits at a place. -/
def Origin.cache (o : Origin) (w : World) : Option Payload :=
  match o with
  | .session s => (w.sess s).params
  | .aif s i => (w.aif s i).params
  | .device d => (w.dev d).params

/-- The place is the session or one of its pairs. -/
def Origin.of (o : Origin) (s : ℕ) : Prop :=
  match o with
  | .session t => t = s
  | .aif t _ => t = s
  | .device _ => False

/-- The payload that waits at a place of the session. -/
def SessionObj.cached (x : SessionObj) : Origin → Option Payload
  | .session _ => x.params
  | .aif _ i => (x.aifPool.getD i {}).params
  | .device _ => none

theorem Origin.cache_eq {o : Origin} {s : ℕ} (ho : o.of s) (w : World) :
    o.cache w = (w.sess s).cached o := by
  cases o with
  | session t =>
      obtain rfl : t = s := ho
      rfl
  | aif t i =>
      obtain rfl : t = s := ho
      rfl
  | device d => exact ho.elim

/-- The payloads from a place that GSL has accepted, each with its graph, latest first. -/
def accepted (o : Origin) (configs : List ConfigCall) : List (Option ℕ × Payload) :=
  configs.filterMap fun c =>
    if c.origin = o ∧ c.ret = 0 then some (c.graph, c.payload) else none

section
variable {o : Origin} {Γ : Option ℕ → Prop} {w w' w'' : World} {g : Option ℕ} {p : Payload}

theorem accepted_cons (c : ConfigCall) (configs : List ConfigCall) :
    accepted o (c :: configs) = if c.origin = o ∧ c.ret = 0 then
      (c.graph, c.payload) :: accepted o configs else accepted o configs := by
  unfold accepted
  rw [List.filterMap_cons]
  split_ifs
  · rfl
  · rfl

/-- Nothing from the place was accepted, and what waits there still waits. -/
structure Kept (o : Origin) (w w' : World) : Prop where
  accepted : accepted o w'.configs = Agm.accepted o w.configs
  cache : o.cache w' = o.cache w

/-- The payload that waited at the place was accepted once, on the graph. -/
structure Sent (o : Origin) (g : Option ℕ) (p : Payload) (w w' : World) : Prop where
  waited : o.cache w = some p
  accepted : accepted o w'.configs = (g, p) :: Agm.accepted o w.configs
  freed : o.cache w' = none

/-- The cache of a place is left alone, or sent to one of the graphs. -/
def Carry (o : Origin) (Γ : Option ℕ → Prop) (w w' : World) : Prop :=
  Kept o w w' ∨ ∃ g p, Γ g ∧ Sent o g p w w'

theorem Kept.trans (h : Kept o w w') (h' : Kept o w' w'') : Kept o w w'' :=
  ⟨h'.accepted.trans h.accepted, h'.cache.trans h.cache⟩

theorem Kept.sent (h : Kept o w w') (h' : Sent o g p w' w'') : Sent o g p w w'' := by
  refine ⟨h.cache ▸ h'.waited, ?_, h'.freed⟩
  rw [h'.accepted, h.accepted]

theorem Sent.kept (h : Sent o g p w w') (h' : Kept o w' w'') : Sent o g p w w'' := by
  refine ⟨h.waited, ?_, h'.cache.trans h.freed⟩
  rw [h'.accepted, h.accepted]

/-- A cache that has been sent is empty, so it is not sent again. -/
instance : IsPreorder World (Carry o Γ) where
  refl w := .inl ⟨rfl, rfl⟩
  trans w₁ w₂ w₃ h h' := by
    rcases h with h | ⟨g, p, hg, h⟩
    · rcases h' with h' | ⟨g', p', hg', h'⟩
      · exact .inl (h.trans h')
      · exact .inr ⟨g', p', hg', h.sent h'⟩
    · rcases h' with h' | ⟨g', p', hg', h'⟩
      · exact .inr ⟨g, p, hg, h.kept h'⟩
      · have hnone := h.freed
        rw [h'.waited] at hnone
        cases hnone

theorem Carry.mono {Δ : Option ℕ → Prop} (h : Carry o Γ w w') (hΔ : ∀ g, Γ g → Δ g) :
    Carry o Δ w w' := by
  rcases h with h | ⟨g, p, hg, h⟩
  · exact .inl h
  · exact .inr ⟨g, p, hΔ g hg, h⟩

/-- Nothing accepted means nothing sent. -/
theorem Carry.kept (h : Carry o Γ w w')
    (hacc : Agm.accepted o w'.configs = Agm.accepted o w.configs) : Kept o w w' := by
  rcases h with h | ⟨g, p, -, h⟩
  · exact h
  · have hcons := h.accepted.symm.trans hacc
    exact absurd hcons (List.cons_ne_self _ _)

/-- A payload that waited and waits no more has been sent. -/
theorem Carry.sent (h : Carry o Γ w w') (hp : o.cache w = some p) (hfree : o.cache w' = none) :
    ∃ g, Γ g ∧ Sent o g p w w' := by
  rcases h with h | ⟨g, p', hg, h⟩
  · have hsome := h.cache
    rw [hfree, hp] at hsome
    cases hsome
  · obtain rfl := Option.some.inj (hp.symm.trans h.waited)
    exact ⟨g, hg, h⟩

/-- An empty cache stays empty. -/
theorem Carry.empty (h : Carry o Γ w w') (hfree : o.cache w = none) : o.cache w' = none := by
  rcases h with h | ⟨g, p, hg, h⟩
  · exact h.cache.trans hfree
  · exact h.freed

end

/-! ### The primitive steps -/

/-- The session exists, with a condition on its graph pointer and its state. -/
def Standing (s : ℕ) (B : Option ℕ → SessionState → Prop) (w : World) : Prop :=
  s ∈ w.pool ∧ B (w.sess s).graph (w.sess s).state

section
variable {s : ℕ} {o : Origin} {Γ : Option ℕ → Prop} {B : Option ℕ → SessionState → Prop}
  {w w' : World}

/-- While the condition holds it keeps holding, and the cache of the place is carried to one of
the graphs. -/
def Follows (o : Origin) (s : ℕ) (Γ : Option ℕ → Prop) (B : Option ℕ → SessionState → Prop) :
    World → World → Prop := Under (Standing s B) (Carry o Γ)

instance : IsPreorder World (Follows o s Γ B) :=
  inferInstanceAs (IsPreorder World (Under (Standing s B) (Carry o Γ)))

/-- A step that leaves the cache alone and accepts nothing from the place. -/
theorem follows_of_kept (ho : o.of s) (hpool : s ∈ w.pool → s ∈ w'.pool)
    (hacc : accepted o w'.configs = accepted o w.configs)
    (hcache : s ∈ w.pool → (w'.sess s).cached o = (w.sess s).cached o)
    (hB : s ∈ w.pool → B (w.sess s).graph (w.sess s).state →
      B (w'.sess s).graph (w'.sess s).state) : Follows o s Γ B w w' := by
  rintro ⟨hs, hw⟩
  refine ⟨⟨hpool hs, hB hs hw⟩, .inl ⟨hacc, ?_⟩⟩
  rw [Origin.cache_eq ho, Origin.cache_eq ho]
  exact hcache hs

/-- An assignment to a session: when it is the session of the place, the cache and the condition
have to survive it. -/
theorem modifySess_follows (ho : o.of s) {t : ℕ} {f : SessionObj → SessionObj}
    (hc : t = s → ∀ x, (f x).cached o = x.cached o)
    (hB : t = s → ∀ x, B x.graph x.state → B (f x).graph (f x).state) :
    Moves (Follows o s Γ B) (modifySess t f) := by
  intro w
  by_cases hts : t = s
  · subst hts
    have hself : Function.update w.sess t (f (w.sess t)) t = f (w.sess t) :=
      Function.update_self t _ w.sess
    refine follows_of_kept ho id rfl (fun _ => ?_) fun _ hw => ?_
    · show (Function.update w.sess t _ t).cached o = _
      rw [hself]
      exact hc rfl _
    · show B (Function.update w.sess t _ t).graph (Function.update w.sess t _ t).state
      rw [hself]
      exact hB rfl _ hw
  · have hother : Function.update w.sess t (f (w.sess t)) s = w.sess s :=
      Function.update_of_ne (Ne.symm hts) _ _
    refine follows_of_kept ho id rfl (fun _ => ?_) fun _ hw => ?_
    · show (Function.update w.sess t _ s).cached o = _
      rw [hother]
    · show B (Function.update w.sess t _ s).graph (Function.update w.sess t _ s).state
      rw [hother]
      exact hw

/-- A step beside the sessions and the record. -/
structure Beside (w w' : World) : Prop where
  pool : w'.pool = w.pool
  sess : w'.sess = w.sess
  configs : w'.configs = w.configs

theorem onGraph_beside (p : Option ℕ) (m : View → GraphM ℤ) :
    Ensures anyFault (onGraph p m) w fun _ w' => Beside w w' := by
  cases p with
  | none => exact ⟨rfl, rfl, rfl⟩
  | some g =>
      show Ensures anyFault (onLiveGraph g m) w _
      cases hobj : w.heap g with
      | none =>
          rw [ensures_onLiveGraph_dead hobj]
          trivial
      | some obj =>
          refine ensures_onLiveGraph hobj ?_
          exact ensures_of_forall (fun _ => trivial) fun _ _ => ⟨rfl, rfl, rfl⟩

theorem graphClose_beside (p : Option ℕ) :
    Ensures anyFault (graphClose p) w fun _ w' => Beside w w' := by
  unfold graphClose
  rw [ensures_bind]
  refine (onGraph_beside p _).imp fun ret w₁ h₁ => ?_
  cases p with
  | none => exact h₁
  | some g => exact ⟨h₁.pool, h₁.sess, h₁.configs⟩

theorem onDevice_beside (d : Option ℕ) (m : DevM ℤ) :
    Ensures anyFault (onDevice d m) w fun _ w' => Beside w w' := by
  cases d with
  | none => exact ⟨rfl, rfl, rfl⟩
  | some d =>
      unfold onDevice
      rw [ensures_zoom]
      exact ensures_of_forall (fun _ => trivial) fun _ _ => ⟨rfl, rfl, rfl⟩

theorem env_beside {α : Type} (m : EnvM α) :
    Ensures anyFault (env m) w fun _ w' => Beside w w' := by
  unfold env
  rw [ensures_zoom]
  exact ensures_of_forall (fun _ => trivial) fun _ _ => ⟨rfl, rfl, rfl⟩

theorem Beside.follows (ho : o.of s) (h : Beside w w') : Follows o s Γ B w w' := by
  refine follows_of_kept ho (fun hs => h.pool ▸ hs) (by rw [h.configs]) (fun _ => ?_) fun _ hw => ?_
  · rw [h.sess]
  · rw [h.sess]
    exact hw

theorem sessionObjGet_follows (ho : o.of s) (t : ℕ) :
    Moves (Follows o s Γ B) (sessionObjGet t) := by
  intro w
  unfold sessionObjGet
  rw [ensures_bind, ensures_gets, ensures_ite]
  refine ⟨fun _ => moves_pure 0 w, fun ht => ?_⟩
  rw [ensures_bind]
  refine (env_beside calloc).imp fun block w₁ h₁ => ?_
  have hcalloc : Follows o s Γ B w w₁ := h₁.follows ho
  rw [ensures_ite]
  refine ⟨fun _ => hcalloc, fun _ => ?_⟩
  rw [ensures_bind, ensures_modify]
  -- the created session is another one
  have hkeep : s ∈ w₁.pool → Function.update w₁.sess t {} s = w₁.sess s := by
    intro hs
    refine Function.update_of_ne ?_ _ _
    rintro rfl
    exact ht (h₁.pool ▸ hs)
  refine trans_of (Follows o s Γ B) hcalloc ?_
  refine follows_of_kept ho (fun hs => List.mem_append_left _ hs) rfl (fun hs => ?_) fun hs hw => ?_
  · show (Function.update w₁.sess t {} s).cached o = _
    rw [hkeep hs]
  · show B (Function.update w₁.sess t {} s).graph (Function.update w₁.sess t {} s).state
    rw [hkeep hs]
    exact hw

/-- The caches of a pool after an assignment to one of its interfaces. -/
theorem cached_modify {i : ℕ} {f : Aif → Aif} (x : SessionObj)
    (hf : ∀ a, (f a).params = a.params) :
    SessionObj.cached { x with aifPool := x.aifPool.modify i f } o = x.cached o := by
  cases o with
  | session t => rfl
  | aif t j =>
      show ((x.aifPool.modify i f).getD j {}).params = (x.aifPool.getD j {}).params
      rw [List.getD_eq_getElem?_getD, List.getD_eq_getElem?_getD, List.getElem?_modify]
      cases x.aifPool[j]? with
      | none => rfl
      | some a =>
          show (if i = j then f a else a).params = a.params
          split_ifs
          · exact hf a
          · rfl
  | device d => rfl

/-- A new interface has nothing cached. -/
theorem cached_append {a : Aif} (x : SessionObj) (ha : a.params = none) :
    SessionObj.cached { x with aifPool := x.aifPool ++ [a] } o = x.cached o := by
  cases o with
  | session t => rfl
  | aif t j =>
      show ((x.aifPool ++ [a]).getD j {}).params = (x.aifPool.getD j {}).params
      by_cases hj : j < x.aifPool.length
      · rw [List.getD_append _ _ _ _ hj]
      · rw [List.getD_append_right _ _ _ _ (not_lt.mp hj),
          List.getD_eq_default _ _ (not_lt.mp hj)]
        cases j - x.aifPool.length with
        | zero => exact ha
        | succ k => rfl
  | device d => rfl

/-- The cached payload of one interface of a pool, after an assignment to another. -/
theorem cached_modify_ne {i : ℕ} {f : Aif → Aif} (x : SessionObj) (hne : o ≠ .aif s i)
    (ho : o.of s) : SessionObj.cached { x with aifPool := x.aifPool.modify i f } o = x.cached o := by
  cases o with
  | session t => rfl
  | aif t j =>
      obtain rfl : t = s := ho
      have hij : i ≠ j := by
        rintro rfl
        exact hne rfl
      show ((x.aifPool.modify i f).getD j {}).params = (x.aifPool.getD j {}).params
      rw [List.getD_eq_getElem?_getD, List.getElem?_modify_ne _ _ hij, List.getD_eq_getElem?_getD]
  | device d => rfl

/-- An assignment to an interface, of another place or not to its cache. -/
theorem modifyAif_follows (ho : o.of s) {t i : ℕ} {f : Aif → Aif}
    (hf : o ≠ .aif t i ∨ ∀ a, (f a).params = a.params) :
    Moves (Follows o s Γ B) (modifyAif t i f) := by
  apply modifySess_follows ho
  · rintro rfl x
    rcases hf with hne | hf
    · exact cached_modify_ne x hne ho
    · exact cached_modify x hf
  · intro _ x hx
    exact hx

theorem setAifState_follows (ho : o.of s) (t i : ℕ) (st : AifState) :
    Moves (Follows o s Γ B) (setAifState t i st) := by
  have hput : Moves (Follows o s Γ B) (modifyAif t i fun a => { a with state := st }) :=
    modifyAif_follows ho (.inr fun a => rfl)
  apply moves_bind (moves_gets _)
  intro aif
  apply moves_bind hput
  intro _
  apply moves_modify
  intro w
  apply Beside.follows ho
  unfold observe
  cases aif.devObj with
  | none => exact ⟨rfl, rfl, rfl⟩
  | some d => exact ⟨rfl, rfl, rfl⟩

theorem aifObjCreate_ensures (aif : ℕ) :
    Ensures anyFault (aifObjCreate aif) w fun obj w' =>
      Beside w w' ∧ ∀ a ∈ obj, a.params = none := by
  unfold aifObjCreate
  rw [ensures_bind]
  refine (env_beside calloc).imp fun block w₁ h₁ => ?_
  rw [ensures_ite]
  refine ⟨fun _ => ⟨h₁, fun a ha => nomatch ha⟩, fun _ => ?_⟩
  rw [ensures_bind, ensures_deviceGetObj, ensures_ite]
  refine ⟨fun _ => ⟨h₁, ?_⟩, fun _ => ⟨h₁, ?_⟩⟩
  · rintro a ⟨⟩
    rfl
  · rintro a ⟨⟩
    rfl

theorem aifObjGet_follows (ho : o.of s) (t aif : ℕ) :
    Moves (Follows o s Γ B) (aifObjGet t aif) := by
  intro w
  unfold aifObjGet
  rw [ensures_bind, ensures_getSess]
  cases aifObjGetFromPool (w.sess t) aif with
  | some i => exact moves_pure _ w
  | none =>
      dsimp only
      rw [ensures_bind]
      refine (aifObjCreate_ensures aif).imp ?_
      rintro obj w₁ ⟨h₁, hobj⟩
      have hcreate : Follows o s Γ B w w₁ := h₁.follows ho
      cases obj with
      | none => exact hcreate
      | some a =>
          dsimp only
          rw [ensures_bind]
          have happend : Moves (Follows o s Γ B)
              (modifySess t fun x => { x with aifPool := x.aifPool ++ [a] }) := by
            apply modifySess_follows ho
            · intro _ x
              exact cached_append x (hobj a rfl)
            · intro _ x hx
              exact hx
          exact happend.after hcreate

theorem graphOpen_beside (md : MetaData) (t : ℕ) (dev : Option ℕ) :
    Ensures anyFault (graphOpen md t dev) w fun _ w' => w'.pool = w.pool ∧ w'.configs = w.configs ∧
      ∃ g, w'.sess = Function.update w.sess t { w.sess t with graph := g } := by
  unfold graphOpen onMem
  rw [ensures_bind, ensures_zoom]
  refine ensures_of_forall (fun _ => trivial) fun r u => ?_
  cases r.2 with
  | none =>
      refine ⟨rfl, rfl, (w.sess t).graph, ?_⟩
      exact (Function.update_eq_self t w.sess).symm
  | some obj => exact ⟨rfl, rfl, some w.nextGraph, rfl⟩

/-- The graph of another session, or a condition that is not about the pointer. -/
theorem graphOpen_follows (ho : o.of s) {t : ℕ} (hB : t = s → ∀ g g' st, B g st → B g' st)
    (md : MetaData) (dev : Option ℕ) : Moves (Follows o s Γ B) (graphOpen md t dev) := by
  intro w
  refine (graphOpen_beside md t dev).imp ?_
  rintro _ w' ⟨hpool, hconfigs, g, hsess⟩
  have hassign := modifySess_follows (Γ := Γ) (B := B) ho (t := t)
    (f := fun x => { x with graph := g }) (fun _ x => by cases o <;> rfl)
    (fun ht x hx => hB ht _ g _ hx) w
  intro hw
  obtain ⟨⟨hs, hB'⟩, hcarry⟩ := hassign hw
  refine ⟨⟨hpool ▸ hs, ?_⟩, ?_⟩
  · rw [hsess]
    exact hB'
  · rcases hcarry with ⟨hacc, hcache⟩ | ⟨_, _, _, hsent⟩
    · refine .inl ⟨by rw [hconfigs], ?_⟩
      rw [Origin.cache_eq ho] at hcache ⊢
      rw [hsess]
      exact hcache
    · exact absurd hsent.accepted.symm (List.cons_ne_self _ _)

/-! ### The functions of a session -/

/-- The condition survives when the session stays open. -/
theorem routine_follows (ho : o.of s) {t : ℕ}
    (hB : t = s → ∀ g st st', st' ≠ .sessionClosed → B g st → B g st') :
    Routine t (Follows o s Γ B) where
  preorder := inferInstance
  external m w := (env_beside m).imp fun _ _ h => h.follows ho
  device d m _ w := (onDevice_beside d m).imp fun _ _ h => h.follows ho
  graph p m w := (onGraph_beside p m).imp fun _ _ h => h.follows ho
  close p w := (graphClose_beside p).imp fun _ _ h => h.follows ho
  lookup u := sessionObjGet_follows ho u
  edge w e := Beside.follows ho ⟨rfl, rfl, rfl⟩
  pair i st := setAifState_follows ho t i st
  aif aif := aifObjGet_follows ho t aif
  state st hst := by
    apply modifySess_follows ho
    · intro _ x
      cases o <;> rfl
    · intro ht x hx
      exact hB ht _ _ _ hst hx

theorem reopening_follows (ho : o.of s) {t : ℕ}
    (hB : t = s → ∀ g g' st st', B g st → B g' st') : Reopening t (Follows o s Γ B) where
  toRoutine := routine_follows ho fun ht g st st' _ => hB ht g g st st'
  opens md dev := graphOpen_follows ho (fun ht g g' st => hB ht g g' st st) md dev
  forget := by
    apply modifySess_follows ho
    · intro _ x
      cases o <;> rfl
    · intro ht x hx
      exact hB ht _ _ _ _ hx
  closed := by
    apply modifySess_follows ho
    · intro _ x
      cases o <;> rfl
    · intro ht x hx
      exact hB ht _ _ _ _ hx

/-! ### Sending -/

theorem graphSetConfig_ensures (g : Option ℕ) (origin : Origin) (payload : Payload) :
    Ensures anyFault (graphSetConfig g origin payload) w fun r w' => w'.pool = w.pool ∧
      w'.sess = w.sess ∧ w'.configs = ⟨g, origin, payload, r⟩ :: w.configs := by
  unfold graphSetConfig
  rw [ensures_bind]
  refine (onGraph_beside g _).imp fun r w₁ h₁ => ?_
  rw [ensures_bind, ensures_modify, ensures_pure]
  refine ⟨h₁.pool, h₁.sess, ?_⟩
  show _ :: w₁.configs = _ :: w.configs
  rw [h₁.configs]

/-- A payload from another place, or one that was refused, is not accepted. -/
theorem follows_of_refused (ho : o.of s) {r : ℤ} {g : Option ℕ} {origin : Origin}
    {payload : Payload} (h : origin = o → r ≠ 0) (hp : w'.pool = w.pool) (hs : w'.sess = w.sess)
    (hc : w'.configs = ⟨g, origin, payload, r⟩ :: w.configs) : Follows o s Γ B w w' := by
  refine follows_of_kept ho (fun hs => hp ▸ hs) ?_ (fun _ => by rw [hs]) fun _ hw => by rwa [hs]
  rw [hc, accepted_cons, if_neg]
  rintro ⟨he, hr⟩
  exact h he hr

theorem graphSetConfig_follows (ho : o.of s) {origin : Origin} (h : origin ≠ o) (g : Option ℕ)
    (payload : Payload) : Moves (Follows o s Γ B) (graphSetConfig g origin payload) := by
  intro w
  refine (graphSetConfig_ensures g origin payload).imp ?_
  rintro r w₁ ⟨hpool, hsess, hconfigs⟩
  exact follows_of_refused ho (fun he => absurd he h) hpool hsess hconfigs

/-- Send the cached payload of the place and free the cache when it was accepted: `clear` empties
it. -/
theorem send_follows (ho : o.of s) {payload : Payload} {clear : SessionObj → SessionObj}
    (hwait : (w.sess s).cached o = some payload) (hΓ : Standing s B w → Γ (w.sess s).graph)
    (hfree : ∀ x, (clear x).cached o = none)
    (hkeep : ∀ x, (clear x).graph = x.graph ∧ (clear x).state = x.state) :
    Ensures anyFault (do
      let ret ← graphSetConfig (w.sess s).graph o payload
      if ret ≠ 0 then pure ret
      else do
        modifySess s clear
        pure 0 : AgmM ℤ) w fun _ w' => Follows o s Γ B w w' := by
  rw [ensures_bind]
  refine (graphSetConfig_ensures _ _ payload).imp ?_
  rintro r w₁ ⟨hpool, hsess, hconfigs⟩
  rw [ensures_ite]
  refine ⟨fun hr => follows_of_refused ho (fun _ => hr) hpool hsess hconfigs, fun hr => ?_⟩
  obtain rfl := not_not.mp hr
  rw [ensures_bind, modifySess, ensures_modify, ensures_pure]
  have hself : Function.update w₁.sess s (clear (w₁.sess s)) s = clear (w₁.sess s) :=
    Function.update_self s _ w₁.sess
  rintro ⟨hs, hw⟩
  refine ⟨⟨hpool ▸ hs, ?_⟩, .inr ⟨_, payload, hΓ ⟨hs, hw⟩, ?_, ?_, ?_⟩⟩
  · show B (Function.update w₁.sess s _ s).graph (Function.update w₁.sess s _ s).state
    rw [hself, (hkeep _).1, (hkeep _).2, hsess]
    exact hw
  · rw [Origin.cache_eq ho]
    exact hwait
  · show accepted o w₁.configs = _
    rw [hconfigs, accepted_cons, if_pos ⟨rfl, rfl⟩]
  · rw [Origin.cache_eq ho]
    exact (congrArg (fun x : SessionObj => x.cached o) hself).trans (hfree _)

/-- The stream parameters of a session: those of the place go to the graph that the session has
while it is closed. -/
theorem sendSessionParams_follows (ho : o.of s) {t : ℕ}
    (hΓ : o = .session t → ∀ w : World, Standing s B w → (w.sess s).state = .sessionClosed →
      Γ (w.sess s).graph) : Moves (Follows o s Γ B) (sendSessionParams t) := by
  intro w
  unfold sendSessionParams
  rw [ensures_bind, ensures_getSess]
  cases hparams : (w.sess t).params with
  | none => exact moves_pure 0 w
  | some payload =>
      dsimp only
      rw [ensures_ite]
      refine ⟨fun hst => ?_, fun _ => moves_pure 0 w⟩
      by_cases hot : o = .session t
      · subst hot
        have hts : t = s := ho
        subst hts
        refine send_follows ho hparams (fun hw => hΓ rfl w hw hst) (fun x => rfl) fun x => ?_
        exact ⟨rfl, rfl⟩
      · have hsend := graphSetConfig_follows (Γ := Γ) (B := B) ho (Ne.symm hot) (w.sess t).graph
          payload
        refine moves_bind hsend (fun ret => moves_ite (moves_pure ret) ?_) w
        refine moves_bind (modifySess_follows ho ?_ fun _ x hx => hx) fun _ => moves_pure 0
        rintro rfl x
        cases o with
        | session u =>
            obtain rfl : u = t := ho
            exact absurd rfl hot
        | aif u i => rfl
        | device d => rfl

theorem sendAifParams_follows (ho : o.of s) {t i : ℕ}
    (hΓ : o = .aif t i → ∀ w : World, Standing s B w → Γ (w.sess s).graph) :
    Moves (Follows o s Γ B) (sendAifParams t i) := by
  intro w
  unfold sendAifParams
  rw [ensures_bind, ensures_getSess, ensures_bind, ensures_getAif]
  cases hparams : (w.aif t i).params with
  | none => exact moves_pure 0 w
  | some payload =>
      dsimp only
      by_cases hot : o = .aif t i
      · subst hot
        have hts : t = s := ho
        subst hts
        refine send_follows ho hparams (hΓ rfl w) (fun x => ?_) fun x => ⟨rfl, rfl⟩
        show ((x.aifPool.modify i _).getD i {}).params = none
        rw [List.getD_eq_getElem?_getD, List.getElem?_modify_eq]
        cases x.aifPool[i]? with
        | none => rfl
        | some a => rfl
      · have hsend := graphSetConfig_follows (Γ := Γ) (B := B) ho (Ne.symm hot) (w.sess t).graph
          payload
        refine moves_bind hsend (fun ret => moves_ite (moves_pure ret) ?_) w
        exact moves_bind (modifyAif_follows ho (.inl hot)) fun _ => moves_pure 0

theorem sendDeviceParams_follows (ho : o.of s) (t i : ℕ) :
    Moves (Follows o s Γ B) (sendDeviceParams t i) := by
  have hdevice : ∀ d, Origin.device d ≠ o := by
    rintro d rfl
    exact ho
  have hfree : ∀ d, Moves (Follows o s Γ B) (Prog.modify fun w =>
      { w with dev := Function.update w.dev d { w.dev d with params := none } } : AgmM Unit) := by
    intro d
    apply moves_modify
    intro w
    exact Beside.follows ho ⟨rfl, rfl, rfl⟩
  apply moves_bind (moves_gets _)
  intro sess
  apply moves_bind (moves_gets _)
  intro aif
  cases aif.devObj with
  | none => exact moves_fault _
  | some d =>
      apply moves_bind (moves_gets _)
      intro dev
      dsimp only
      cases dev.params with
      | none => exact moves_pure 0
      | some payload =>
          apply moves_ite
          · apply moves_bind (graphSetConfig_follows ho (hdevice d) _ payload)
            intro ret
            apply moves_ite (moves_pure ret)
            apply moves_bind (hfree d)
            intro _
            exact moves_pure 0
          · exact moves_pure 0

theorem sendParams_follows (ho : o.of s) {t i : ℕ}
    (hΓs : o = .session t → ∀ w : World, Standing s B w → (w.sess s).state = .sessionClosed →
      Γ (w.sess s).graph)
    (hΓa : o = .aif t i → ∀ w : World, Standing s B w → Γ (w.sess s).graph) :
    Moves (Follows o s Γ B) (sendParams t i) := by
  apply moves_bind (sendSessionParams_follows ho hΓs)
  intro ret
  apply moves_ite (moves_pure ret)
  apply moves_bind (sendAifParams_follows ho hΓa)
  intro ret
  apply moves_ite (moves_pure ret)
  exact sendDeviceParams_follows ho t i

/-! ### What a successful send leaves -/

theorem sendSessionParams_emptied :
    Ensures anyFault (sendSessionParams s) w fun r w' => r = 0 →
      (w.sess s).state = .sessionClosed → (w'.sess s).params = none := by
  unfold sendSessionParams
  rw [ensures_bind, ensures_getSess]
  cases hparams : (w.sess s).params with
  | none => exact fun _ _ => hparams
  | some payload =>
      dsimp only
      rw [ensures_ite]
      refine ⟨fun _ => ?_, fun hst _ hclosed => absurd hclosed hst⟩
      rw [ensures_bind]
      refine ensures_of_forall (fun _ => trivial) fun r w₁ => ?_
      rw [ensures_ite]
      refine ⟨fun hr h0 => absurd h0 hr, fun _ _ _ => ?_⟩
      exact congrArg SessionObj.params (Function.update_self s _ w₁.sess)

theorem sendAifParams_emptied (i : ℕ) :
    Ensures anyFault (sendAifParams s i) w fun r w' => r = 0 → (w'.aif s i).params = none := by
  unfold sendAifParams
  rw [ensures_bind, ensures_getSess, ensures_bind, ensures_getAif]
  cases hparams : (w.aif s i).params with
  | none => exact fun _ => hparams
  | some payload =>
      dsimp only
      rw [ensures_bind]
      refine ensures_of_forall (fun _ => trivial) fun r w₁ => ?_
      rw [ensures_ite]
      refine ⟨fun hr h0 => absurd h0 hr, fun _ => ?_⟩
      rw [ensures_bind, modifyAif, modifySess, ensures_modify, ensures_pure]
      intro _
      show (((Function.update w₁.sess s _) s).aifPool.getD i {}).params = none
      rw [Function.update_self]
      show (((w₁.sess s).aifPool.modify i _).getD i {}).params = none
      rw [List.getD_eq_getElem?_getD, List.getElem?_modify_eq]
      cases (w₁.sess s).aifPool[i]? with
      | none => rfl
      | some a => rfl

/-- The places that a connection of an interface sends: its own, and the session's while the
session is closed. -/
def Origin.isSent (o : Origin) (s i : ℕ) (st : SessionState) : Prop :=
  o = .aif s i ∨ o = .session s ∧ st = .sessionClosed

theorem sendParams_emptied {i : ℕ} (hs : s ∈ w.pool) (hsent : o.isSent s i (w.sess s).state) :
    Ensures anyFault (sendParams s i) w fun r w' => r = 0 → o.cache w' = none := by
  have ho : o.of s := by
    rcases hsent with rfl | ⟨rfl, -⟩
    · rfl
    · rfl
  -- what is empty stays empty, whatever is sent after it
  have hstays : ∀ {m : AgmM ℤ} {w₁ : World}, s ∈ w₁.pool →
      Moves (Follows o s (fun _ => True) fun _ _ => True) m → o.cache w₁ = none →
      Ensures anyFault m w₁ fun _ w' => o.cache w' = none := by
    intro m w₁ hs₁ hm hnone
    exact (hm w₁).imp fun _ w' h => (h ⟨hs₁, trivial⟩).2.empty hnone
  have hdevice := sendDeviceParams_follows (Γ := fun _ => True) (B := fun _ _ => True) ho s i
  have haif := sendAifParams_follows (Γ := fun _ => True) (B := fun _ _ => True) ho (t := s)
    (i := i) fun _ _ _ => trivial
  have hsess := sendSessionParams_follows (Γ := fun _ => True) (B := fun _ _ => True) ho (t := s)
    fun _ _ _ _ => trivial
  unfold sendParams
  rw [ensures_bind]
  refine ((hsess w).and sendSessionParams_emptied).imp ?_
  rintro r w₁ ⟨h₁, hempty⟩
  obtain ⟨⟨hs₁, -⟩, -⟩ := h₁ ⟨hs, trivial⟩
  rw [ensures_ite]
  refine ⟨fun hr h0 => absurd h0 hr, fun hr => ?_⟩
  rw [ensures_bind]
  refine ((haif w₁).and (sendAifParams_emptied i)).imp ?_
  rintro r₂ w₂ ⟨h₂, hempty₂⟩
  obtain ⟨⟨hs₂, -⟩, hcarry₂⟩ := h₂ ⟨hs₁, trivial⟩
  rw [ensures_ite]
  refine ⟨fun hr₂ h0 => absurd h0 hr₂, fun hr₂ => ?_⟩
  have hnone : o.cache w₂ = none := by
    rcases hsent with rfl | ⟨rfl, hst⟩
    · exact hempty₂ (not_not.mp hr₂)
    · exact hcarry₂.empty (hempty (not_not.mp hr) hst)
  exact (hstays hs₂ hdevice hnone).imp fun _ _ h _ => h

end

end Agm
