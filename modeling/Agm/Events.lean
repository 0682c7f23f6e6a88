import Agm.SessionApi
import Agm.Lib.Registry

/-! # Callbacks and events

`session_obj_register_cb` keeps the callbacks of a session in `cb_pool`, and `graph_event_cb`
hands an event of the session's graph to those whose type fits.

* `EventParams.eventType?` is the class of an event, the type of callback it is meant for.
* The pool of a session is a registry keyed by type and `client_data`
  (`sessionObjRegisterCb_ensures`), so after any history of registrations an event reaches
  exactly the surviving registrations of its class, once each and in order
  (`graphEventCb_surviving`). -/

namespace Agm

open Prog

/-! ### Events -/

def gslEventSrcModuleIdGsl : ℕ := 0x2001
def agmEventEosRendered : ℕ := 0x0
def agmEventReadDone : ℕ := 0x1
def agmEventWriteDone : ℕ := 0x2

/-- `struct agm_event_cb_params`. -/
structure EventParams where
  sourceModuleId : ℕ
  eventId : ℕ
  payload : Payload
deriving DecidableEq, Repr

/-- One call of a registered callback. -/
structure CbCall where
  cb : ℕ
  sessId : ℕ
  params : EventParams
  clientData : ℕ
deriving DecidableEq, Repr

/-- The loop of `graph_event_cb` over the callbacks of a session. -/
def deliverAll (s : ℕ) (ev : EventParams) : List SessionCb → List CbCall
  | [] => []
  | c :: cs =>
      if c.evtType = .dataPath ∧ ev.sourceModuleId = gslEventSrcModuleIdGsl ∧
          (ev.eventId = agmEventEosRendered ∨ ev.eventId = agmEventReadDone ∨
            ev.eventId = agmEventWriteDone) then
        ⟨c.cb, s, ev, c.clientData⟩ :: deliverAll s ev cs
      else if c.evtType = .module ∧ ev.sourceModuleId ≠ gslEventSrcModuleIdGsl then
        ⟨c.cb, s, ev, c.clientData⟩ :: deliverAll s ev cs
      else deliverAll s ev cs

/-- `session_obj_retrieve_from_pool`. -/
def sessionObjRetrieveFromPool (sessionId : ℕ) (w : World) : Option ℕ :=
  w.pool.find? fun s => s = sessionId

/-- `graph_event_cb`: the callbacks it calls.  The session is named by `client_data`, cut down to
32 bits. -/
def graphEventCb (params : Option EventParams) (clientData : ℕ) (w : World) : List CbCall :=
  match params with
  | none => []
  | some ev =>
      match sessionObjRetrieveFromPool (clientData % 2 ^ 32) w with
      | none => []
      | some s => deliverAll s ev (w.sess s).cbPool

/-! ### The class of an event -/

/-- The type of callback the event is meant for. -/
def EventParams.eventType? (ev : EventParams) : Option EventType :=
  if ev.sourceModuleId = gslEventSrcModuleIdGsl then
    if ev.eventId ∈ [agmEventEosRendered, agmEventReadDone, agmEventWriteDone] then some .dataPath
    else none
  else some .module

/-- The call of a callback for an event. -/
def SessionCb.called (s : ℕ) (ev : EventParams) (c : SessionCb) : CbCall :=
  ⟨c.cb, s, ev, c.clientData⟩

/-- The loop calls the callbacks of the event's class, in the order of the pool. -/
theorem deliverAll_eq (s : ℕ) (ev : EventParams) (cs : List SessionCb) :
    deliverAll s ev cs =
      (cs.filter fun c => ev.eventType? = some c.evtType).map (SessionCb.called s ev) := by
  induction cs with
  | nil => rfl
  | cons c cs ih =>
      have hclass : (ev.eventType? = some c.evtType) ↔
          (c.evtType = .dataPath ∧ ev.sourceModuleId = gslEventSrcModuleIdGsl ∧
            (ev.eventId = agmEventEosRendered ∨ ev.eventId = agmEventReadDone ∨
              ev.eventId = agmEventWriteDone)) ∨
          (c.evtType = .module ∧ ev.sourceModuleId ≠ gslEventSrcModuleIdGsl) := by
        unfold EventParams.eventType?
        by_cases hsrc : ev.sourceModuleId = gslEventSrcModuleIdGsl
        · simp [hsrc, eq_comm, and_comm]
        · simp [hsrc, eq_comm]
      rw [deliverAll, ih, List.filter_cons]
      by_cases h1 : c.evtType = .dataPath ∧ ev.sourceModuleId = gslEventSrcModuleIdGsl ∧
          (ev.eventId = agmEventEosRendered ∨ ev.eventId = agmEventReadDone ∨
            ev.eventId = agmEventWriteDone)
      · rw [if_pos h1, if_pos (decide_eq_true (hclass.mpr (.inl h1)))]
        rfl
      · rw [if_neg h1]
        by_cases h2 : c.evtType = .module ∧ ev.sourceModuleId ≠ gslEventSrcModuleIdGsl
        · rw [if_pos h2, if_pos (decide_eq_true (hclass.mpr (.inr h2)))]
          rfl
        · rw [if_neg h2, if_neg]
          rw [decide_eq_true_iff, hclass]
          exact fun h => h.elim h1 h2

/-! ### The registry of a session -/

/-- The arguments of `session_obj_register_cb`. -/
structure CbRequest where
  cb : Option ℕ
  evtType : EventType
  clientData : ℕ
deriving DecidableEq, Repr

/-- What a removal names. -/
def SessionCb.key (c : SessionCb) : EventType × ℕ := (c.evtType, c.clientData)

/-- A callback is a new entry, `NULL` drops a key. -/
def CbRequest.toReq (r : CbRequest) : Registry.Req SessionCb (EventType × ℕ) :=
  match r.cb with
  | some cb => .add ⟨cb, r.evtType, r.clientData⟩
  | none => .drop (r.evtType, r.clientData)

/-- The pool of a session after a registration. -/
def cbPoolAfter (pool : List SessionCb) (r : CbRequest) : List SessionCb :=
  Registry.after SessionCb.key pool r.toReq

/-- The registrations that a history of requests leaves. -/
def survivingCbs (rs : List CbRequest) : List SessionCb :=
  Registry.surviving SessionCb.key (rs.map CbRequest.toReq)

theorem foldl_cbPoolAfter (rs : List CbRequest) :
    rs.foldl cbPoolAfter [] = survivingCbs rs := by
  unfold survivingCbs
  rw [← Registry.foldl_after_nil, List.foldl_map]
  rfl

/-- `session_obj_register_cb` on a session, with the arguments of the request. -/
def CbRequest.exec (s : ℕ) (r : CbRequest) : AgmM ℤ :=
  sessionObjRegisterCb s r.cb r.evtType r.clientData

/-- With memory at hand a registration updates the registry of its session. -/
theorem sessionObjRegisterCb_ensures (s : ℕ) (r : CbRequest) {w : World}
    (hext : ∀ a ∈ w.ext, a.code = 0) :
    Ensures noFault (r.exec s) w fun ret w' =>
      ret = 0 ∧ w'.pool = w.pool ∧ (∀ a ∈ w'.ext, a.code = 0) ∧
        (w'.sess s).cbPool = cbPoolAfter (w.sess s).cbPool r := by
  have hhead : (w.ext.headD {}).code = 0 := by
    cases hw : w.ext with
    | nil => rfl
    | cons a l => exact hext a (by rw [hw]; exact List.mem_cons_self)
  have htail : ∀ a ∈ w.ext.tail, a.code = 0 := fun a ha => hext a (List.mem_of_mem_tail ha)
  have hcalloc : Ensures noFault (env calloc) w fun block w' =>
      block = true ∧ w' = { w with ext := w.ext.tail } := ⟨decide_eq_true hhead, rfl⟩
  unfold CbRequest.exec sessionObjRegisterCb
  rw [ensures_bind]
  refine hcalloc.imp ?_
  rintro block w' ⟨rfl, rfl⟩
  cases hcb : r.cb with
  | some cb =>
      refine ⟨rfl, rfl, htail, ?_⟩
      rw [cbPoolAfter, CbRequest.toReq, hcb]
      exact congrArg SessionObj.cbPool (Function.update_self s _ w.sess)
  | none =>
      refine ⟨rfl, rfl, htail, ?_⟩
      rw [cbPoolAfter, CbRequest.toReq, hcb]
      refine (congrArg SessionObj.cbPool (Function.update_self s _ w.sess)).trans ?_
      refine List.filter_congr fun c _ => ?_
      simp [SessionCb.key]

theorem runAll_cbPool (s : ℕ) (rs : List CbRequest) {w : World}
    (hext : ∀ a ∈ w.ext, a.code = 0) :
    Ensures noFault (runAll (CbRequest.exec s) rs) w fun _ w' =>
      w'.pool = w.pool ∧ (w'.sess s).cbPool = rs.foldl cbPoolAfter (w.sess s).cbPool := by
  induction rs generalizing w with
  | nil => exact ⟨rfl, rfl⟩
  | cons r rs ih =>
      unfold runAll
      rw [ensures_bind]
      refine (sessionObjRegisterCb_ensures s r hext).imp ?_
      rintro ret w₁ ⟨-, hpool, hext₁, hcb⟩
      refine (ih hext₁).imp ?_
      rintro _ w' ⟨hpool', hcb'⟩
      exact ⟨hpool'.trans hpool, by rw [hcb', hcb, List.foldl_cons]⟩

/-- After any history of registrations on a session, its pool holds the surviving ones, an event
of the session calls exactly those of its class, once each and in the order of registration, and
a removal takes out the entries of its type and `client_data` and leaves the others in order. -/
theorem graphEventCb_surviving {s : ℕ} {w : World} (hs : s ∈ w.pool) (hlt : s < 2 ^ 32)
    (hnew : (w.sess s).cbPool = []) (hext : ∀ a ∈ w.ext, a.code = 0) (rs : List CbRequest) :
    ∃ w', runAll (CbRequest.exec s) rs w = .ok ((), w') ∧
      (w'.sess s).cbPool = survivingCbs rs ∧
      (∀ ev, graphEventCb (some ev) s w' =
        ((survivingCbs rs).filter fun c => ev.eventType? = some c.evtType).map
          (SessionCb.called s ev)) ∧
      ∀ evt client, survivingCbs (rs ++ [⟨none, evt, client⟩]) =
        (survivingCbs rs).filter fun c => ¬ (c.evtType = evt ∧ c.clientData = client) := by
  obtain ⟨_, w', hrun, hpool, hcb⟩ := (runAll_cbPool s rs hext).exists_ok
  rw [hnew, foldl_cbPoolAfter] at hcb
  refine ⟨w', hrun, hcb, fun ev => ?_, fun evt client => ?_⟩
  · have hfind : sessionObjRetrieveFromPool (s % 2 ^ 32) w' = some s := by
      unfold sessionObjRetrieveFromPool
      rw [Nat.mod_eq_of_lt hlt, hpool]
      have hsome : (w.pool.find? fun t => t = s).isSome = true :=
        List.find?_isSome.mpr ⟨s, hs, decide_eq_true rfl⟩
      obtain ⟨t, ht⟩ := Option.isSome_iff_exists.mp hsome
      have hts := List.find?_some ht
      rw [ht, of_decide_eq_true hts]
    unfold graphEventCb
    simp only [hfind]
    rw [hcb, deliverAll_eq]
  · unfold survivingCbs
    rw [List.map_append, List.map_singleton]
    refine (Registry.surviving_concat_drop _ _ _).trans (List.filter_congr fun c _ => ?_)
    simp [SessionCb.key]

/-- A session with three callbacks, one of which is removed again. -/
theorem graphEventCb_surviving_threeCallbacks :
    ∃ w', runAll (CbRequest.exec 3) [⟨some 10, .dataPath, 7⟩, ⟨some 11, .module, 7⟩,
        ⟨some 12, .dataPath, 8⟩, ⟨none, .dataPath, 7⟩] { startUp 4 with pool := [3] } =
        .ok ((), w') ∧
      graphEventCb (some ⟨0x2001, 1, []⟩) 3 w' = [⟨12, 3, ⟨0x2001, 1, []⟩, 8⟩] := by
  obtain ⟨w', hrun, -, hev, -⟩ := graphEventCb_surviving (s := 3)
    (w := { startUp 4 with pool := [3] }) (by decide) (by decide) rfl (by decide)
    [⟨some 10, .dataPath, 7⟩, ⟨some 11, .module, 7⟩, ⟨some 12, .dataPath, 8⟩, ⟨none, .dataPath, 7⟩]
  exact ⟨w', hrun, (hev _).trans (by decide)⟩

end Agm
