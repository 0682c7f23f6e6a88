import Agm.Events

/-! # Callbacks over the SwBinder interface (`ipc_proxy_server.cpp`)

The server keeps a registry of its own, `clbk_data_list`, with the callback and the binder of the
client, and registers its forwarder `ipc_cb` with the session; `ipc_cb` looks the client up by
session and `client_data`.

* **The list only grows.**  A `NULL` callback is recorded and forwarded like any other, so a
  removal is one more registration of `ipc_cb`.
* **The lookup takes the first match**, also when it was made by another process or for another
  event type.

* **Memory** for the entry and for the session's is there; a registration without it fails, and is
  not looked at.

Meant is the direct interface, in which every process has its own registrations
(`ownPool`).  `ipcCb_refines_iff` says for which histories the two agree on every
event. -/

namespace Agm

/-- `agm_session_register_cb` made by a client process. -/
structure SwRequest (P : Type) where
  proc : P
  sessionId : ℕ
  cb : Option ℕ
  evtType : EventType
  clientData : ℕ
deriving DecidableEq, Repr

/-- `clbk_data`; the binder stands for the process that created it. -/
structure ClbkData (P : Type) where
  sessionId : ℕ
  cbBinder : P
  cbFunc : Option ℕ
  clientData : ℕ
deriving DecidableEq, Repr

/-- `clbk_data_list` and the callback pools of the sessions. -/
structure SwServer (P : Type) where
  clbkDataList : List (ClbkData P) := []
  pool : ℕ → List SessionCb := fun _ => []

/-- One call of a client's callback. -/
structure Delivery (P : Type) where
  proc : P
  cb : Option ℕ
  clientData : ℕ
deriving DecidableEq, Repr

/-- The address of `ipc_cb`. -/
def ipcCbAddr : ℕ := 1

section
variable {P : Type}

/-- The transaction `REG_CB`: the session is given `&ipc_cb`, whatever the client passed. -/
def SwServer.regCb (x : SwServer P) (r : SwRequest P) : SwServer P where
  clbkDataList := x.clbkDataList ++ [⟨r.sessionId, r.proc, r.cb, r.clientData⟩]
  pool := Function.update x.pool r.sessionId
    (cbPoolAfter (x.pool r.sessionId) ⟨some ipcCbAddr, r.evtType, r.clientData⟩)

/-- The entry `ipc_cb` ends its search at: the first match, or the last entry if there is
none. -/
def ipcCbHandle (list : List (ClbkData P)) (sessionId clientData : ℕ) : Option (ClbkData P) :=
  match list.find? fun h => h.sessionId = sessionId ∧ h.clientData = clientData with
  | some h => some h
  | none => list.getLast?

/-- `ipc_cb`: the call it makes in a client. -/
def ipcCb (list : List (ClbkData P)) (sessionId clientData : ℕ) : Option (Delivery P) :=
  (ipcCbHandle list sessionId clientData).map fun h => ⟨h.cbBinder, h.cbFunc, h.clientData⟩

/-- What an event of a session delivers: every registration with the session that hears it calls
`ipc_cb`. -/
def SwServer.deliveries (x : SwServer P) (s : ℕ) (ev : EventParams) : List (Delivery P) :=
  (deliverAll s ev (x.pool s)).filterMap fun call =>
    ipcCb x.clbkDataList call.sessId call.clientData

/-! ### The direct interface -/

variable [DecidableEq P]

/-- What a process gets of its own registrations with a session. -/
def ownPool (rs : List (SwRequest P)) (p : P) (s : ℕ) : List SessionCb :=
  ((rs.filter fun r => r.proc = p ∧ r.sessionId = s).map fun r =>
    (⟨r.cb, r.evtType, r.clientData⟩ : CbRequest)).foldl cbPoolAfter []

/-- An event reaches a callback of a process through that process' own registrations. -/
def Meant (rs : List (SwRequest P)) (s : ℕ) (ev : EventParams) (d : Delivery P) : Prop :=
  ∃ c ∈ ownPool rs d.proc s, ev.eventType? = some c.evtType ∧ d.cb = some c.cb ∧
    d.clientData = c.clientData

/-- The process has the callback registered under the key. -/
def Live (rs : List (SwRequest P)) (p : P) (cb : Option ℕ) (s : ℕ) (evt : EventType)
    (client : ℕ) : Prop :=
  ∃ c, cb = some c ∧ ⟨c, evt, client⟩ ∈ ownPool rs p s

/-- The first request that names the session and the `client_data`. -/
def firstFor (rs : List (SwRequest P)) (s client : ℕ) : Option (SwRequest P) :=
  rs.find? fun r => r.sessionId = s ∧ r.clientData = client

/-- For every key that is named, the live registrations of all processes are the process and
callback of the first request with that session and `client_data`. -/
def FirstOnly (rs : List (SwRequest P)) : Prop :=
  ∀ r ∈ rs, r.evtType = .dataPath ∨ r.evtType = .module → ∀ p cb,
    Live rs p cb r.sessionId r.evtType r.clientData ↔
      ∃ r₀ ∈ firstFor rs r.sessionId r.clientData, p = r₀.proc ∧ cb = r₀.cb

end

/-! ### What the server holds -/

section
variable {P : Type} (rs : List (SwRequest P))

/-- The server after a history of requests. -/
def SwServer.after : SwServer P := rs.foldl SwServer.regCb {}

theorem regCb_foldl (rs : List (SwRequest P)) (x : SwServer P) :
    (rs.foldl SwServer.regCb x).clbkDataList =
        x.clbkDataList ++ rs.map (fun r => ⟨r.sessionId, r.proc, r.cb, r.clientData⟩) ∧
      ∀ s, (rs.foldl SwServer.regCb x).pool s =
        x.pool s ++ (rs.filter fun r => r.sessionId = s).map fun r =>
          ⟨ipcCbAddr, r.evtType, r.clientData⟩ := by
  induction rs generalizing x with
  | nil => simp
  | cons r rs ih =>
      obtain ⟨hlist, hpool⟩ := ih (x.regCb r)
      refine ⟨?_, fun s => ?_⟩
      · rw [List.foldl_cons, hlist, SwServer.regCb, List.append_assoc]
        rfl
      · rw [List.foldl_cons, hpool]
        by_cases hs : r.sessionId = s
        · subst hs
          have hupd : (x.regCb r).pool r.sessionId =
              x.pool r.sessionId ++ [⟨ipcCbAddr, r.evtType, r.clientData⟩] :=
            Function.update_self r.sessionId _ x.pool
          rw [hupd, List.append_assoc, List.filter_cons_of_pos (by simp)]
          rfl
        · have hupd : (x.regCb r).pool s = x.pool s :=
            Function.update_of_ne (Ne.symm hs) _ x.pool
          rw [hupd, List.filter_cons_of_neg (by simp [hs])]

theorem after_list : (SwServer.after rs).clbkDataList =
    rs.map fun r => ⟨r.sessionId, r.proc, r.cb, r.clientData⟩ := by
  have h := (regCb_foldl rs {}).1
  rwa [List.nil_append] at h

theorem after_pool (s : ℕ) : (SwServer.after rs).pool s =
    (rs.filter fun r => r.sessionId = s).map fun r =>
      ⟨ipcCbAddr, r.evtType, r.clientData⟩ := by
  have h := (regCb_foldl rs {}).2 s
  rwa [List.nil_append] at h

/-- The forwarder finds the first request of the session and `client_data`. -/
theorem ipcCb_after {s client : ℕ} {r₀ : SwRequest P} (h : firstFor rs s client = some r₀) :
    ipcCb (SwServer.after rs).clbkDataList s client = some ⟨r₀.proc, r₀.cb, client⟩ := by
  have hkey := List.find?_some h
  have hclient : r₀.clientData = client := (of_decide_eq_true hkey).2
  have hfind : (SwServer.after rs).clbkDataList.find?
      (fun d => d.sessionId = s ∧ d.clientData = client) =
      some ⟨r₀.sessionId, r₀.proc, r₀.cb, r₀.clientData⟩ := by
    rw [after_list, List.find?_map]
    exact congrArg _ h
  unfold ipcCb ipcCbHandle
  rw [hfind, ← hclient]
  rfl

theorem exists_firstFor {r : SwRequest P} (h : r ∈ rs) :
    ∃ r₀, firstFor rs r.sessionId r.clientData = some r₀ :=
  Option.isSome_iff_exists.mp
    (List.find?_isSome.mpr ⟨r, h, decide_eq_true ⟨rfl, rfl⟩⟩)

/-- Every request of the event's class, removals included, calls the client of the first request
with its session and `client_data`. -/
theorem mem_deliveries_after {s : ℕ} {ev : EventParams} {d : Delivery P} :
    d ∈ (SwServer.after rs).deliveries s ev ↔
      ∃ r ∈ rs, r.sessionId = s ∧ ev.eventType? = some r.evtType ∧
        ∃ r₀, firstFor rs s r.clientData = some r₀ ∧ d = ⟨r₀.proc, r₀.cb, r.clientData⟩ := by
  unfold SwServer.deliveries
  rw [List.mem_filterMap, after_pool, deliverAll_eq]
  constructor
  · rintro ⟨call, hcall, hd⟩
    obtain ⟨c, hc, rfl⟩ := List.mem_map.mp hcall
    obtain ⟨hc, hev⟩ := List.mem_filter.mp hc
    obtain ⟨r, hmem, rfl⟩ := List.mem_map.mp hc
    have hr : r ∈ rs := (List.mem_filter.mp hmem).1
    have hs := (List.mem_filter.mp hmem).2
    obtain rfl := of_decide_eq_true hs
    obtain ⟨r₀, hfirst⟩ := exists_firstFor rs hr
    refine ⟨r, hr, rfl, of_decide_eq_true hev, r₀, hfirst, ?_⟩
    exact (Option.some.inj ((ipcCb_after rs hfirst).symm.trans hd)).symm
  · rintro ⟨r, hr, rfl, hev, r₀, hfirst, rfl⟩
    refine ⟨SessionCb.called r.sessionId ev ⟨ipcCbAddr, r.evtType, r.clientData⟩, ?_,
      ipcCb_after rs hfirst⟩
    apply List.mem_map_of_mem
    refine List.mem_filter.mpr ⟨?_, decide_eq_true hev⟩
    exact List.mem_map_of_mem (List.mem_filter.mpr ⟨hr, decide_eq_true rfl⟩)

end

/-! ### Agreement -/

section
variable {P : Type} [DecidableEq P] (rs : List (SwRequest P))

theorem meant_iff {s : ℕ} {ev : EventParams} {d : Delivery P} :
    Meant rs s ev d ↔
      ∃ evt, ev.eventType? = some evt ∧ Live rs d.proc d.cb s evt d.clientData := by
  constructor
  · rintro ⟨⟨c, evt, client⟩, hc, hev, hcb, hclient⟩
    exact ⟨evt, hev, c, hcb, by rw [hclient]; exact hc⟩
  · rintro ⟨evt, hev, c, hcb, hc⟩
    exact ⟨⟨c, evt, d.clientData⟩, hc, hev, hcb, rfl⟩

/-- A live registration was made by a request. -/
theorem Live.exists_request {p : P} {cb : Option ℕ} {s : ℕ} {evt : EventType} {client : ℕ}
    (h : Live rs p cb s evt client) :
    ∃ r ∈ rs, r.sessionId = s ∧ r.evtType = evt ∧ r.clientData = client := by
  obtain ⟨c, rfl, hc⟩ := h
  unfold ownPool at hc
  rw [foldl_cbPoolAfter] at hc
  obtain ⟨q, hq, hadd⟩ := List.mem_map.mp (Registry.add_mem_of_mem_surviving _ hc)
  obtain ⟨r, hr, rfl⟩ := List.mem_map.mp hq
  obtain ⟨hr, hkey⟩ := List.mem_filter.mp hr
  refine ⟨r, hr, (of_decide_eq_true hkey).2, ?_⟩
  unfold CbRequest.toReq at hadd
  dsimp only at hadd
  split at hadd
  · cases hadd
    exact ⟨rfl, rfl⟩
  · cases hadd

/-- An event of a given class. -/
theorem exists_event {evt : EventType} (h : evt = .dataPath ∨ evt = .module) :
    ∃ ev : EventParams, ev.eventType? = some evt := by
  obtain rfl | rfl := h
  · exact ⟨⟨gslEventSrcModuleIdGsl, agmEventReadDone, []⟩, by decide⟩
  · exact ⟨⟨0, 0, []⟩, by decide⟩

theorem eventType?_cases {ev : EventParams} {evt : EventType} (h : ev.eventType? = some evt) :
    evt = .dataPath ∨ evt = .module := by
  unfold EventParams.eventType? at h
  split_ifs at h
  · exact .inl (Option.some.inj h).symm
  · exact .inr (Option.some.inj h).symm

/-- Over a history of registrations the forwarder makes, for every session and event, the calls
of the direct interface if and only if for every key that is named the live registrations are
those of the first request with its session and `client_data`. -/
theorem ipcCb_refines_iff :
    (∀ s ev d, d ∈ (SwServer.after rs).deliveries s ev ↔ Meant rs s ev d) ↔ FirstOnly rs := by
  constructor
  · intro h r hr hevt p cb
    obtain ⟨ev, hev⟩ := exists_event hevt
    obtain ⟨r₀, hfirst⟩ := exists_firstFor rs hr
    have key := h r.sessionId ev ⟨p, cb, r.clientData⟩
    rw [mem_deliveries_after, meant_iff] at key
    constructor
    · intro hlive
      obtain ⟨r', hr', -, -, r₁, hfirst₁, hd⟩ := key.mpr ⟨r.evtType, hev, hlive⟩
      injection hd with hp hcb hclient
      rw [← hclient] at hfirst₁
      exact ⟨r₁, hfirst₁, hp, hcb⟩
    · rintro ⟨r₁, hfirst₁, rfl, rfl⟩
      obtain ⟨evt, hev', hlive⟩ := key.mp ⟨r, hr, rfl, hev, r₁, hfirst₁, rfl⟩
      obtain rfl := Option.some.inj (hev.symm.trans hev')
      exact hlive
  · intro h s ev d
    rw [mem_deliveries_after, meant_iff]
    constructor
    · rintro ⟨r, hr, rfl, hev, r₀, hfirst, rfl⟩
      exact ⟨r.evtType, hev, (h r hr (eventType?_cases hev) _ _).mpr ⟨r₀, hfirst, rfl, rfl⟩⟩
    · rintro ⟨evt, hev, hlive⟩
      obtain ⟨r, hr, rfl, rfl, hclient⟩ := hlive.exists_request
      rw [← hclient] at hlive
      obtain ⟨r₀, hfirst, hp, hcb⟩ := (h r hr (eventType?_cases hev) _ _).mp hlive
      refine ⟨r, hr, rfl, hev, r₀, hfirst, ?_⟩
      rw [← hp, ← hcb, hclient]

end

/-- A process that registers a callback and removes it again is still called. -/
theorem ipcCb_refines_afterRemoval :
    let rs : List (SwRequest ℕ) := [⟨0, 3, some 10, .dataPath, 7⟩, ⟨0, 3, none, .dataPath, 7⟩]
    ¬ ∀ s ev d, d ∈ (SwServer.after rs).deliveries s ev ↔ Meant rs s ev d := by
  intro rs h
  have hcalled : ⟨0, some 10, 7⟩ ∈
      (SwServer.after rs).deliveries 3 ⟨gslEventSrcModuleIdGsl, agmEventReadDone, []⟩ := by
    decide
  obtain ⟨c, hc, -⟩ := (h _ _ _).mp hcalled
  have hnone : ownPool rs 0 3 = [] := by decide
  rw [hnone] at hc
  cases hc

end Agm
