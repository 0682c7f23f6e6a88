import Agm.Events
import Agm.Handles
import Agm.Lib.Run

/-! # The HwBinder service (`agm_server_wrapper.cpp`)

The HIDL service keeps two lists: `clbk_data_list`, with the callbacks it has registered on
behalf of its clients, and `client_list`, with the sessions each client has opened.

* **Callbacks.**  Every registration makes a `SrvrClbk` and registers `ipc_callback` with the
  session, with the address of the `SrvrClbk` as `client_data`.  A removal looks for it by
  session, type and `clnt_data`, over the callbacks of all clients, and takes the last one; the
  pointer is not initialised before the search, and nothing is taken out of the list.
* **Deaths.**  A process is linked to `serviceDied` when it registers a callback.  A process that
  only opens sessions is not; and a session stays open when there is no memory for its handle.

`deregister_exact_iff` says in which runs every removal forgets what it names and nothing else;
`serviceDied_cleans_up` in which runs every death is cleaned up. -/

namespace Agm.HwBinder

open Run

/-- `SrvrClbk`, with its address; the binder stands for the process. -/
structure SrvrClbk (P : Type) where
  addr : ℕ
  sessionId : ℕ
  event : EventType
  clntData : ℕ
  pid : P
deriving DecidableEq, Repr

/-- `clbk_data`. -/
structure ClbkData (P : Type) where
  clbkCltData : ℕ
  srvCltData : SrvrClbk P
deriving DecidableEq, Repr

/-- `client_info`. -/
structure ClientInfo (P : Type) where
  pid : P
  agmClientHndlList : List ℕ
deriving DecidableEq, Repr

/-- The two lists, the `SrvrClbk`s that have been made, the processes linked to `serviceDied`, and
the callback pools of the sessions. -/
structure HwService (P : Type) extends Sessions P where
  clbkDataListInit : Bool := false
  clbkDataList : List (ClbkData P) := []
  srvrClbks : List (SrvrClbk P) := []
  linked : P → Bool := fun _ => false
  clientListInit : Bool := false
  clientList : List (ClientInfo P) := []
  cbPool : ℕ → List SessionCb := fun _ => []

/-- A call of `ipc_agm_session_register_callback`, with what it finds: the value of
`sr_clbk_data` before it is assigned, and whether there is memory for the entry of the list and
in the session. -/
structure RegisterCall (P : Type) where
  pid : P
  sessionId : ℕ
  cb : Bool
  evtType : EventType
  ipcClientData : ℕ
  clntData : ℕ
  uninit : ℕ := 0
  entryMem : Bool := true
  sessionMem : Bool := true
deriving DecidableEq, Repr

/-- What reaches the service.  For an open `clientMem` and `hndlMem` are whether there is memory for a
`client_info` and for the handle, for a death `mem` whether there is for the removals. -/
inductive HwEvent (P : Type) where
  | open (p : P) (session : ℕ) (answer : OpenAnswer) (clientMem hndlMem : Bool)
  | close (handle : ℕ)
  | registerCallback (r : RegisterCall P)
  | died (p : P) (mem : List Bool)
deriving DecidableEq, Repr

/-- The address of `ipc_callback`. -/
def ipcCallbackAddr : ℕ := 1

section
variable {P : Type}

/-! ### Callbacks -/

/-- `agm_session_register_cb`. -/
def HwService.agmSessionRegisterCb (x : HwService P) (mem : Bool) (s : ℕ) (req : CbRequest) :
    ℤ × HwService P :=
  if mem then (0, { x with cbPool := Function.update x.cbPool s (cbPoolAfter (x.cbPool s) req) })
  else (-ENOMEM, x)

/-- The entry has the session, type and `clnt_data` of the call. -/
def ClbkData.Named (e : ClbkData P) (r : RegisterCall P) : Prop :=
  e.srvCltData.sessionId = r.sessionId ∧ e.srvCltData.event = r.evtType ∧
    e.clbkCltData = r.clntData

instance (e : ClbkData P) (r : RegisterCall P) : Decidable (e.Named r) :=
  inferInstanceAs (Decidable (_ ∧ _))

/-- The loop of a removal over `clbk_data_list`. -/
def srClbkData (r : RegisterCall P) (list : List (ClbkData P)) : ℕ :=
  list.foldl (fun sr e => if e.Named r then e.srvCltData.addr else sr) r.uninit

variable [DecidableEq P]

/-- The new `SrvrClbk` of a registration. -/
def RegisterCall.srvrClbk (r : RegisterCall P) (x : HwService P) : SrvrClbk P :=
  ⟨x.srvrClbks.length + 1, r.sessionId, r.evtType, r.ipcClientData, r.pid⟩

/-- A registration links the process and makes a `SrvrClbk`. -/
def HwService.makeSrvrClbk (x : HwService P) (r : RegisterCall P) : HwService P :=
  { x with
    linked := Function.update x.linked r.pid true
    srvrClbks := x.srvrClbks ++ [r.srvrClbk x]
    clbkDataListInit := true }

/-- The `SrvrClbk` is put on record. -/
def HwService.addClbkData (x : HwService P) (r : RegisterCall P) : HwService P :=
  { x.makeSrvrClbk r with clbkDataList := x.clbkDataList ++ [⟨r.clntData, r.srvrClbk x⟩] }

/-- `ipc_agm_session_register_callback`.  A removal before the first registration goes through a
list whose links are `NULL`. -/
def ipcAgmSessionRegisterCallback (r : RegisterCall P) (x : HwService P) :
    Option (ℤ × HwService P) :=
  if r.cb then
    if r.entryMem then
      some ((x.addClbkData r).agmSessionRegisterCb r.sessionMem r.sessionId
        ⟨some ipcCallbackAddr, r.evtType, (r.srvrClbk x).addr⟩)
    else some (-ENOMEM, x.makeSrvrClbk r)
  else if x.clbkDataListInit then
    let sr := srClbkData r x.clbkDataList
    if sr = 0 then some (-ENOMEM, x)
    else some (x.agmSessionRegisterCb r.sessionMem r.sessionId ⟨none, r.evtType, sr⟩)
  else none

/-! ### Sessions -/

/-- The loop of `add_handle_to_list` over the clients, and the new entry behind them. -/
def fileHandle (p : P) (h : ℕ) (hndlMem : Bool) : List (ClientInfo P) → List (ClientInfo P)
  | [] => [⟨p, if hndlMem then [h] else []⟩]
  | c :: cs =>
      if c.pid = p then
        if hndlMem then { c with agmClientHndlList := c.agmClientHndlList ++ [h] } :: cs
        else c :: cs
      else c :: fileHandle p h hndlMem cs

/-- `add_handle_to_list`: a `client_info` is allocated also for a process that has one. -/
def addHandleToList (p : P) (h : ℕ) (clientMem hndlMem : Bool) (x : HwService P) : HwService P :=
  let x := { x with clientListInit := true }
  if clientMem then { x with clientList := fileHandle p h hndlMem x.clientList } else x

variable (A : SessAddr)

/-- `ipc_agm_session_open`. -/
def ipcAgmSessionOpen (p : P) (s : ℕ) (answer : OpenAnswer) (clientMem hndlMem : Bool)
    (x : HwService P) : HwService P :=
  match agmSessionOpen A p s answer x.toSessions with
  | (none, y) => { x with toSessions := y }
  | (some h, y) => addHandleToList p h clientMem hndlMem { x with toSessions := y }

/-- The handle is taken out of the list of every client; a client without handles goes. -/
def removeHandle (h : ℕ) (l : List (ClientInfo P)) : List (ClientInfo P) :=
  (l.map fun c => { c with agmClientHndlList := c.agmClientHndlList.filter fun k => k ≠ h }).filter
    fun c => c.agmClientHndlList ≠ []

/-- `ipc_agm_session_close`; the list is gone through also when it is not initialised. -/
def ipcAgmSessionClose (h : ℕ) (x : HwService P) : Option (HwService P) :=
  if x.clientListInit then
    (agmSessionClose A h x.toSessions).map fun y =>
      { x with toSessions := y, clientList := removeHandle h x.clientList }
  else none

/-! ### Deaths -/

/-- The loop of `serviceDied` over the callbacks: those of the process are taken out of their
sessions, if there is memory for it. -/
def dropCallbacks (p : P) : List (ClbkData P) → List Bool → HwService P → HwService P
  | [], _, x => x
  | e :: es, mem, x =>
      if e.srvCltData.pid = p then
        dropCallbacks p es mem.tail
          (x.agmSessionRegisterCb (mem.headD true) e.srvCltData.sessionId
            ⟨none, e.srvCltData.event, e.srvCltData.addr⟩).2
      else dropCallbacks p es mem x

/-- The handles that `serviceDied` closes. -/
def diedCloses (p : P) (l : List (ClientInfo P)) : List ℕ :=
  ((l.filter fun c => c.pid = p).flatMap ClientInfo.agmClientHndlList).filter fun h => h ≠ 0

/-- `serviceDied`. -/
def serviceDied (p : P) (mem : List Bool) (x : HwService P) : Option (HwService P) :=
  let x : HwService P := { dropCallbacks p x.clbkDataList mem x with
    clbkDataList := x.clbkDataList.filter fun e => e.srvCltData.pid ≠ p }
  (closeHandles A (diedCloses p x.clientList) x.toSessions).map fun y =>
    { x with toSessions := y, clientList := x.clientList.filter fun c => c.pid ≠ p }

/-- One call or death.  The links of a process go with it; a service that has crashed stays so. -/
def HwService.step (x : Option (HwService P)) (e : HwEvent P) : Option (HwService P) :=
  x.bind fun x =>
    match e with
    | .open p s answer clientMem hndlMem => some (ipcAgmSessionOpen A p s answer clientMem hndlMem x)
    | .close h => ipcAgmSessionClose A h x
    | .registerCallback r => (ipcAgmSessionRegisterCallback r x).map Prod.snd
    | .died p mem =>
        if x.linked p then
          (serviceDied A p mem x).map fun x' =>
            { x' with linked := Function.update x'.linked p false }
        else some x

/-! ### What is asked of a removal -/

/-- The registration was made by the process of the call, with its session, type and
`clnt_data`. -/
def ClbkData.MadeBy (e : ClbkData P) (r : RegisterCall P) : Prop :=
  e.Named r ∧ e.srvCltData.pid = r.pid

instance (e : ClbkData P) (r : RegisterCall P) : Decidable (e.MadeBy r) :=
  inferInstanceAs (Decidable (_ ∧ _))

/-- A removal forgets the registrations that its process made with its session, type and
`clnt_data`, in the list and in the session, and no others; if there are none it is refused. -/
def DeregisterExact (x : Option (HwService P)) (e : HwEvent P) : Prop :=
  match x, e with
  | some x, .registerCallback r => r.cb = false →
      ∃ ret x', ipcAgmSessionRegisterCallback r x = some (ret, x') ∧
        x'.clbkDataList = x.clbkDataList.filter (fun d => ¬ d.MadeBy r) ∧
        (∀ t, x'.cbPool t = (x.cbPool t).filter fun c =>
          ¬ (t = r.sessionId ∧ c.evtType = r.evtType ∧
            ∃ d ∈ x.clbkDataList, d.MadeBy r ∧ d.srvCltData.addr = c.clientData)) ∧
        ((∀ d ∈ x.clbkDataList, ¬ d.MadeBy r) → ret ≠ 0 ∧ x' = x)
  | _, _ => True

/-- Some callback has been registered before a removal, there is no registration that the removal
should forget, and either the session has no memory for it, or no client has a registration with
the session, type and `clnt_data` and the uninitialised pointer is `NULL`. -/
def DeregisterIdle (x : Option (HwService P)) (e : HwEvent P) : Prop :=
  match x, e with
  | some x, .registerCallback r => r.cb = false →
      x.clbkDataListInit = true ∧ (∀ d ∈ x.clbkDataList, ¬ d.MadeBy r) ∧
        (r.sessionMem = false ∨ (∀ d ∈ x.clbkDataList, ¬ d.Named r) ∧ r.uninit = 0)
  | _, _ => True

omit [DecidableEq P] in
theorem srClbkData_of_forall_not {r : RegisterCall P} {list : List (ClbkData P)}
    (h : ∀ d ∈ list, ¬ d.Named r) : srClbkData r list = r.uninit := by
  unfold srClbkData
  generalize r.uninit = v
  induction list generalizing v with
  | nil => rfl
  | cons e es ih =>
      rw [List.foldl_cons, if_neg (h e List.mem_cons_self)]
      exact ih (fun d hd => h d (List.mem_cons_of_mem _ hd)) v

omit [DecidableEq P] in
/-- The search ends with the pointer it started with, or at an entry that is named. -/
theorem srClbkData_cases (r : RegisterCall P) (list : List (ClbkData P)) :
    ((∀ d ∈ list, ¬ d.Named r) ∧ srClbkData r list = r.uninit) ∨
      ∃ d ∈ list, d.Named r ∧ srClbkData r list = d.srvCltData.addr := by
  by_cases h : ∀ d ∈ list, ¬ d.Named r
  · exact .inl ⟨h, srClbkData_of_forall_not h⟩
  · refine .inr ?_
    unfold srClbkData
    generalize r.uninit = v
    induction list using List.reverseRecOn generalizing v with
    | nil => exact absurd nofun h
    | append_singleton es e ih =>
        rw [List.foldl_append]
        by_cases he : e.Named r
        · exact ⟨e, List.mem_append_right _ (List.mem_singleton.mpr rfl), he, if_pos he⟩
        · have hes : ¬ ∀ d ∈ es, ¬ d.Named r := by
            intro hall
            refine h fun d hd => ?_
            obtain hd | hd := List.mem_append.mp hd
            · exact hall d hd
            · rwa [List.mem_singleton.mp hd]
          obtain ⟨d, hd, hnamed, heq⟩ := ih hes v
          exact ⟨d, List.mem_append_left _ hd, hnamed, (if_neg he).trans heq⟩

/-! ### The callbacks on record -/

/-- Every callback on record has a `SrvrClbk`, the `SrvrClbk`s have different addresses, none of
them `NULL`, and the processes on record are linked. -/
structure CallbacksRight (x : HwService P) : Prop where
  made : ∀ d ∈ x.clbkDataList, d.srvCltData ∈ x.srvrClbks
  pos : ∀ o ∈ x.srvrClbks, 0 < o.addr ∧ o.addr ≤ x.srvrClbks.length
  inj : ∀ o ∈ x.srvrClbks, ∀ o' ∈ x.srvrClbks, o.addr = o'.addr → o = o'
  linked : ∀ d ∈ x.clbkDataList, x.linked d.srvCltData.pid = true

omit [DecidableEq P] in
/-- The session layer changes the callback pools. -/
theorem agmSessionRegisterCb_eq (x : HwService P) (mem : Bool) (s : ℕ) (req : CbRequest) :
    ∃ ret pool, x.agmSessionRegisterCb mem s req = (ret, { x with cbPool := pool }) := by
  unfold HwService.agmSessionRegisterCb
  split
  · exact ⟨_, _, rfl⟩
  · exact ⟨_, _, rfl⟩

omit [DecidableEq P] in
theorem CallbacksRight.setPool {x : HwService P} (h : CallbacksRight x)
    (pool : ℕ → List SessionCb) : CallbacksRight { x with cbPool := pool } :=
  ⟨h.made, h.pos, h.inj, h.linked⟩

omit [DecidableEq P] in
theorem CallbacksRight.agmSessionRegisterCb {x : HwService P} (h : CallbacksRight x) (mem : Bool)
    (s : ℕ) (req : CbRequest) : CallbacksRight (x.agmSessionRegisterCb mem s req).2 := by
  obtain ⟨ret, pool, heq⟩ := agmSessionRegisterCb_eq x mem s req
  rw [heq]
  exact h.setPool pool

theorem CallbacksRight.makeSrvrClbk {x : HwService P} (h : CallbacksRight x)
    (r : RegisterCall P) : CallbacksRight (x.makeSrvrClbk r) := by
  have hlt : ∀ o ∈ x.srvrClbks, o.addr ≠ x.srvrClbks.length + 1 := by
    intro o ho
    have := (h.pos o ho).2
    omega
  constructor
  case made => exact fun d hd => List.mem_append_left _ (h.made d hd)
  case pos =>
    intro o ho
    show _ ∧ _ ≤ (x.srvrClbks ++ [r.srvrClbk x]).length
    rw [List.length_append, List.length_singleton]
    obtain ho | ho := List.mem_append.mp ho
    · have := h.pos o ho
      omega
    · rw [List.mem_singleton.mp ho]
      exact ⟨Nat.succ_pos _, le_rfl⟩
  case inj =>
    intro o ho o' ho' heq
    obtain ho | ho := List.mem_append.mp ho <;> obtain ho' | ho' := List.mem_append.mp ho'
    · exact h.inj o ho o' ho' heq
    · rw [List.mem_singleton.mp ho'] at heq
      exact absurd heq (hlt o ho)
    · rw [List.mem_singleton.mp ho] at heq
      exact absurd heq.symm (hlt o' ho')
    · rw [List.mem_singleton.mp ho, List.mem_singleton.mp ho']
  case linked =>
    intro d hd
    show Function.update x.linked r.pid true _ = true
    by_cases hp : d.srvCltData.pid = r.pid
    · rw [hp, Function.update_self]
    · rw [Function.update_of_ne hp]
      exact h.linked d hd

theorem CallbacksRight.addClbkData {x : HwService P} (h : CallbacksRight x)
    (r : RegisterCall P) : CallbacksRight (x.addClbkData r) := by
  have hmake := h.makeSrvrClbk r
  refine ⟨fun d hd => ?_, hmake.pos, hmake.inj, fun d hd => ?_⟩
  · obtain hd | hd := List.mem_append.mp hd
    · exact hmake.made d hd
    · rw [List.mem_singleton.mp hd]
      exact List.mem_append_right _ (List.mem_singleton.mpr rfl)
  · obtain hd | hd := List.mem_append.mp hd
    · exact hmake.linked d hd
    · rw [List.mem_singleton.mp hd]
      exact Function.update_self r.pid true x.linked

theorem CallbacksRight.registerCallback {x x' : HwService P} {r : RegisterCall P} {ret : ℤ}
    (h : CallbacksRight x) (heq : ipcAgmSessionRegisterCallback r x = some (ret, x')) :
    CallbacksRight x' := by
  unfold ipcAgmSessionRegisterCallback at heq
  dsimp only at heq
  split_ifs at heq with hcb hmem hinit hsr
  · obtain rfl := (Prod.mk.inj (Option.some.inj heq)).2
    exact (h.addClbkData r).agmSessionRegisterCb _ _ _
  · obtain rfl := (Prod.mk.inj (Option.some.inj heq)).2
    exact h.makeSrvrClbk r
  · obtain rfl := (Prod.mk.inj (Option.some.inj heq)).2
    exact h
  · obtain rfl := (Prod.mk.inj (Option.some.inj heq)).2
    exact h.agmSessionRegisterCb _ _ _

/-- The loop over the callbacks changes the pools. -/
theorem dropCallbacks_eq (p : P) (es : List (ClbkData P)) (mem : List Bool) (x : HwService P) :
    ∃ pool, dropCallbacks p es mem x = { x with cbPool := pool } := by
  induction es generalizing mem x with
  | nil => exact ⟨_, rfl⟩
  | cons e es ih =>
      unfold dropCallbacks
      split_ifs
      · obtain ⟨ret, pool, heq⟩ := agmSessionRegisterCb_eq x (mem.headD true) e.srvCltData.sessionId
          ⟨none, e.srvCltData.event, e.srvCltData.addr⟩
        rw [heq]
        exact ih _ _
      · exact ih _ _

/-- What `serviceDied` does: it drops the callbacks of the process, closes its sessions and takes
it off both lists. -/
theorem serviceDied_eq (p : P) (mem : List Bool) (x : HwService P) :
    serviceDied A p mem x = (closeHandles A (diedCloses p x.clientList) x.toSessions).map fun y =>
      { x with
        toSessions := y
        cbPool := (dropCallbacks p x.clbkDataList mem x).cbPool
        clbkDataList := x.clbkDataList.filter fun e => e.srvCltData.pid ≠ p
        clientList := x.clientList.filter fun c => c.pid ≠ p } := by
  obtain ⟨pool, heq⟩ := dropCallbacks_eq p x.clbkDataList mem x
  unfold serviceDied
  rw [heq]

/-- An open changes the sessions and the list of clients. -/
theorem ipcAgmSessionOpen_eq (p : P) (s : ℕ) (answer : OpenAnswer) (clientMem hndlMem : Bool)
    (x : HwService P) : ∃ y init list, ipcAgmSessionOpen A p s answer clientMem hndlMem x =
      { x with toSessions := y, clientListInit := init, clientList := list } := by
  unfold ipcAgmSessionOpen addHandleToList
  split
  · exact ⟨_, _, _, rfl⟩
  · split
    · exact ⟨_, _, _, rfl⟩
    · exact ⟨_, _, _, rfl⟩

theorem CallbacksRight.step {x x' : HwService P} (h : CallbacksRight x) {e : HwEvent P}
    (hstep : HwService.step A (some x) e = some x') : CallbacksRight x' := by
  cases e with
  | «open» p s answer clientMem hndlMem =>
      obtain rfl := Option.some.inj hstep
      obtain ⟨y, init, list, heq⟩ := ipcAgmSessionOpen_eq A p s answer clientMem hndlMem x
      rw [heq]
      exact ⟨h.made, h.pos, h.inj, h.linked⟩
  | close k =>
      replace hstep : ipcAgmSessionClose A k x = some x' := hstep
      unfold ipcAgmSessionClose at hstep
      split_ifs at hstep
      obtain ⟨y, -, rfl⟩ := Option.map_eq_some_iff.mp hstep
      exact ⟨h.made, h.pos, h.inj, h.linked⟩
  | registerCallback r =>
      obtain ⟨⟨ret, y⟩, heq, rfl⟩ := Option.map_eq_some_iff.mp hstep
      exact h.registerCallback heq
  | died p mem =>
      replace hstep : (if x.linked p then (serviceDied A p mem x).map fun x' =>
        { x' with linked := Function.update x'.linked p false } else some x) = some x' := hstep
      split_ifs at hstep
      · rw [serviceDied_eq] at hstep
        obtain ⟨z, hz, rfl⟩ := Option.map_eq_some_iff.mp hstep
        obtain ⟨y, -, rfl⟩ := Option.map_eq_some_iff.mp hz
        refine ⟨fun d hd => h.made d (List.mem_filter.mp hd).1, h.pos, h.inj, fun d hd => ?_⟩
        obtain ⟨hd, hp⟩ := List.mem_filter.mp hd
        rw [← h.linked d hd]
        exact Function.update_of_ne (of_decide_eq_true hp) _ _
      · obtain rfl := Option.some.inj hstep
        exact h

omit [DecidableEq P] in
theorem callbacksRight_start : CallbacksRight ({} : HwService P) :=
  ⟨nofun, nofun, nofun, nofun⟩

/-! ### Removals -/

/-- A removal once a callback has been registered. -/
theorem deregister_eq {r : RegisterCall P} {x : HwService P} (hcb : r.cb = false)
    (hinit : x.clbkDataListInit = true) :
    ipcAgmSessionRegisterCallback r x =
      if srClbkData r x.clbkDataList = 0 then some (-ENOMEM, x)
      else some (x.agmSessionRegisterCb r.sessionMem r.sessionId
        ⟨none, r.evtType, srClbkData r x.clbkDataList⟩) := by
  unfold ipcAgmSessionRegisterCallback
  rw [if_neg (by rw [hcb]; nofun), if_pos hinit]

theorem deregister_list {r : RegisterCall P} {x x' : HwService P} {ret : ℤ} (hcb : r.cb = false)
    (h : ipcAgmSessionRegisterCallback r x = some (ret, x')) :
    x.clbkDataListInit = true ∧ x'.clbkDataList = x.clbkDataList := by
  by_cases hinit : x.clbkDataListInit = true
  · refine ⟨hinit, ?_⟩
    rw [deregister_eq hcb hinit] at h
    split_ifs at h
    · rw [← (Prod.mk.inj (Option.some.inj h)).2]
    · obtain ⟨ret, pool, heq⟩ := agmSessionRegisterCb_eq x r.sessionMem r.sessionId
        ⟨none, r.evtType, srClbkData r x.clbkDataList⟩
      rw [heq] at h
      rw [← (Prod.mk.inj (Option.some.inj h)).2]
  · unfold ipcAgmSessionRegisterCallback at h
    rw [if_neg (by rw [hcb]; nofun), if_neg hinit] at h
    cases h

theorem CallbacksRight.deregisterExact_iff {x : HwService P} (h : CallbacksRight x)
    (e : HwEvent P) : DeregisterExact (some x) e ↔ DeregisterIdle (some x) e := by
  cases e with
  | «open» p s answer clientMem hndlMem => exact Iff.rfl
  | close k => exact Iff.rfl
  | died p mem => exact Iff.rfl
  | registerCallback r =>
      refine forall_congr' fun hcb => ?_
      constructor
      · rintro ⟨ret, x', heq, hlist, -, hrefused⟩
        obtain ⟨hinit, hsame⟩ := deregister_list hcb heq
        -- the list is not touched, so there was nothing to forget
        have hnone : ∀ d ∈ x.clbkDataList, ¬ d.MadeBy r := by
          intro d hd
          have hfilter := List.filter_eq_self.mp (hlist.symm.trans hsame) d hd
          exact of_decide_eq_true hfilter
        obtain ⟨hret, rfl⟩ := hrefused hnone
        refine ⟨hinit, hnone, ?_⟩
        cases hmem : r.sessionMem with
        | false => exact .inl rfl
        | true =>
            refine .inr ?_
            have hzero : srClbkData r x'.clbkDataList = 0 := by
              by_contra hne
              rw [deregister_eq hcb hinit, if_neg hne, hmem] at heq
              exact hret (Prod.mk.inj (Option.some.inj heq)).1.symm
            obtain ⟨hnamed, huninit⟩ | ⟨d, hd, -, haddr⟩ := srClbkData_cases r x'.clbkDataList
            · exact ⟨hnamed, huninit.symm.trans hzero⟩
            · have hpos := (h.pos _ (h.made d hd)).1
              rw [← haddr, hzero] at hpos
              exact absurd hpos (lt_irrefl 0)
      · rintro ⟨hinit, hnone, hidle⟩
        have hrefused : ipcAgmSessionRegisterCallback r x = some (-ENOMEM, x) := by
          rw [deregister_eq hcb hinit]
          obtain hmem | ⟨hnamed, huninit⟩ := hidle
          · rw [hmem]
            split_ifs
            · rfl
            · rfl
          · rw [if_pos ((srClbkData_of_forall_not hnamed).trans huninit)]
        refine ⟨-ENOMEM, x, hrefused, ?_, fun t => ?_, fun _ => ⟨by decide, rfl⟩⟩
        · exact (List.filter_eq_self.mpr fun d hd => decide_eq_true (hnone d hd)).symm
        · refine (List.filter_eq_self.mpr fun c _ => decide_eq_true ?_).symm
          rintro ⟨-, -, d, hd, hmade, -⟩
          exact hnone d hd hmade

end

/-- In a run of the service every removal forgets exactly the registrations that it names, if and
only if every removal comes when a callback has been registered before, its process has nothing
to forget, and either the session has no memory for it, or no client has a registration with its
session, type and `clnt_data` and the uninitialised pointer is `NULL`. -/
theorem deregister_exact_iff {P : Type} [DecidableEq P] (A : SessAddr) (es : List (HwEvent P)) :
    Along (HwService.step A) DeregisterExact es (some {}) ↔
      Along (HwService.step A) DeregisterIdle es (some {}) := by
  refine along_congr (I := fun o => ∀ x, o = some x → CallbacksRight x) ?_ ?_ es ?_
  · intro o e ho x' hx'
    cases o with
    | none => cases hx'
    | some x => exact (ho x rfl).step A hx'
  · intro o e ho
    cases o with
    | none => exact Iff.rfl
    | some x => exact (ho x rfl).deregisterExact_iff e
  · rintro x hx
    obtain rfl := Option.some.inj hx
    exact callbacksRight_start

/-- A process registers a callback and removes it again. -/
theorem deregister_exact_ownCallback :
    ¬ Along (HwService.step .successive) DeregisterExact
      [.registerCallback ⟨0, 3, true, .dataPath, 20, 7, 0, true, true⟩,
        .registerCallback ⟨0, 3, false, .dataPath, 20, 7, 0, true, true⟩]
      (some ({} : HwService ℕ)) := by
  rintro ⟨-, hexact, -⟩
  obtain ⟨ret, x', heq, hlist, -⟩ := hexact rfl
  have hkept := (deregister_list rfl heq).2
  rw [hlist] at hkept
  exact absurd hkept (by decide)

/-! ### What is asked of a death -/

section
variable {P : Type} [DecidableEq P] (A : SessAddr)

/-- After a death the sessions of the process are closed and its callbacks forgotten, and the
other processes have open what they had open. -/
def DeathCleaned (x : Option (HwService P)) (e : HwEvent P) : Prop :=
  match x, e with
  | none, _ => False
  | some x, .died p mem =>
      ∃ x', HwService.step A (some x) (.died p mem) = some x' ∧
        (∀ s, x'.openedBy s ≠ some p) ∧
        (∀ d ∈ x'.clbkDataList, d.srvCltData.pid ≠ p) ∧
        (∀ t, ∀ c ∈ x'.cbPool t, ∀ o ∈ x'.srvrClbks, o.addr = c.clientData → o.pid ≠ p) ∧
        ∀ q ≠ p, ∀ s, x'.openedBy s = some q ↔ x.openedBy s = some q
  | some _, _ => True

/-- A process that dies is linked, and there is memory to forget its callbacks, or it has no session
open.  There is memory to file the handle of a session that is opened.  A session has been opened
before one is closed, with zero or the handle of a session, and a callback registered before one is
removed. -/
def Tended (x : Option (HwService P)) (e : HwEvent P) : Prop :=
  match x, e with
  | none, _ => True
  | some x, .open _ s answer clientMem hndlMem =>
      x.openedBy s = none → answer = .opens → clientMem = true ∧ hndlMem = true
  | some x, .close h =>
      x.clientListInit = true ∧ (h ≠ 0 → ∃ s ∈ x.sessionPool, A.addr s = h)
  | some x, .registerCallback r => r.cb = false → x.clbkDataListInit = true
  | some x, .died p mem =>
      (x.linked p = true ∧ ∀ b ∈ mem, b = true) ∨
        (x.linked p = false ∧ ∀ s, x.openedBy s ≠ some p)

/-- The handle is on the list of the process. -/
def Holds (l : List (ClientInfo P)) (p : P) (h : ℕ) : Prop :=
  ∃ c ∈ l, c.pid = p ∧ h ∈ c.agmClientHndlList

/-- The handles on the list of a process are those of the sessions that it has open. -/
structure ClientsRight (x : HwService P) : Prop where
  held : ∀ p s, Holds x.clientList p (A.addr s) ↔ x.openedBy s = some p
  object : ∀ p h, Holds x.clientList p h → ∃ s ∈ x.sessionPool, A.addr s = h

/-- Every callback that a session has is on record. -/
def PoolRight (x : HwService P) : Prop :=
  ∀ t, ∀ c ∈ x.cbPool t, ∃ d ∈ x.clbkDataList, d.srvCltData.addr = c.clientData ∧
    d.srvCltData.sessionId = t ∧ d.srvCltData.event = c.evtType

/-! ### The list of clients -/

variable {A} {x x' : HwService P}

theorem holds_fileHandle {p q : P} {h k : ℕ} {l : List (ClientInfo P)} :
    Holds (fileHandle p h true l) q k ↔ Holds l q k ∨ (q = p ∧ k = h) := by
  unfold Holds
  induction l with
  | nil => simp [fileHandle, eq_comm]
  | cons c cs ih =>
      unfold fileHandle
      rw [if_pos rfl]
      split_ifs with hc
      · subst hc
        simp only [List.exists_mem_cons_iff, List.mem_append, List.mem_singleton]
        constructor
        · rintro (⟨rfl, hk | rfl⟩ | h)
          · exact .inl (.inl ⟨rfl, hk⟩)
          · exact .inr ⟨rfl, rfl⟩
          · exact .inl (.inr h)
        · rintro ((⟨hq, hk⟩ | h) | ⟨rfl, rfl⟩)
          · exact .inl ⟨hq, .inl hk⟩
          · exact .inr h
          · exact .inl ⟨rfl, .inr rfl⟩
      · rw [List.exists_mem_cons_iff, ih, List.exists_mem_cons_iff, or_assoc]

omit [DecidableEq P] in
theorem holds_removeHandle {q : P} {h k : ℕ} {l : List (ClientInfo P)} :
    Holds (removeHandle h l) q k ↔ Holds l q k ∧ k ≠ h := by
  unfold Holds removeHandle
  constructor
  · rintro ⟨c, hc, rfl, hk⟩
    obtain ⟨d, hd, rfl⟩ := List.mem_map.mp (List.mem_filter.mp hc).1
    obtain ⟨hk, hne⟩ := List.mem_filter.mp hk
    exact ⟨⟨d, hd, rfl, hk⟩, of_decide_eq_true hne⟩
  · rintro ⟨⟨d, hd, rfl, hk⟩, hne⟩
    have hmem : k ∈ d.agmClientHndlList.filter fun k => k ≠ h :=
      List.mem_filter.mpr ⟨hk, decide_eq_true hne⟩
    refine ⟨_, List.mem_filter.mpr ⟨List.mem_map_of_mem hd, ?_⟩, rfl, hmem⟩
    exact decide_eq_true (List.ne_nil_of_mem hmem)

theorem holds_filter {p q : P} {k : ℕ} {l : List (ClientInfo P)} :
    Holds (l.filter fun c => c.pid ≠ p) q k ↔ Holds l q k ∧ q ≠ p := by
  unfold Holds
  constructor
  · rintro ⟨c, hc, rfl, hk⟩
    obtain ⟨hc, hne⟩ := List.mem_filter.mp hc
    exact ⟨⟨c, hc, rfl, hk⟩, of_decide_eq_true hne⟩
  · rintro ⟨⟨c, hc, rfl, hk⟩, hne⟩
    exact ⟨c, List.mem_filter.mpr ⟨hc, decide_eq_true hne⟩, rfl, hk⟩

theorem mem_diedCloses {p : P} {k : ℕ} {l : List (ClientInfo P)} :
    k ∈ diedCloses p l ↔ Holds l p k ∧ k ≠ 0 := by
  simp [diedCloses, Holds, and_assoc]

/-- An open with memory to file the handle, if it succeeds. -/
theorem ClientsRight.open (h : ClientsRight A x) (p : P) (s : ℕ) {answer : OpenAnswer}
    {clientMem hndlMem : Bool} (hmem : x.openedBy s = none → answer = .opens →
      clientMem = true ∧ hndlMem = true) :
    ClientsRight A (ipcAgmSessionOpen A p s answer clientMem hndlMem x) := by
  unfold ipcAgmSessionOpen agmSessionOpen
  cases hs : x.openedBy s with
  | some r => exact h
  | none =>
      cases answer with
      | noObject => exact h
      | fails =>
          refine ⟨h.held, fun q k hk => ?_⟩
          obtain ⟨t, ht, heq⟩ := h.object q k hk
          exact ⟨t, List.mem_cons_of_mem _ ht, heq⟩
      | opens =>
          obtain ⟨rfl, rfl⟩ := hmem hs rfl
          refine ⟨fun q t => ?_, fun q k hk => ?_⟩
          · show Holds (fileHandle p (A.addr s) true x.clientList) q (A.addr t) ↔
              Function.update x.openedBy s (some p) t = some q
            rw [holds_fileHandle, h.held, A.addr_inj.eq_iff]
            by_cases hts : t = s
            · subst hts
              rw [Function.update_self, hs]
              simp [eq_comm]
            · rw [Function.update_of_ne hts]
              simp [hts]
          · obtain hk | ⟨-, rfl⟩ := holds_fileHandle.mp hk
            · obtain ⟨t, ht, heq⟩ := h.object q k hk
              exact ⟨t, List.mem_cons_of_mem _ ht, heq⟩
            · exact ⟨s, List.mem_cons_self, rfl⟩

omit [DecidableEq P] in
theorem ClientsRight.close (h : ClientsRight A x) {k : ℕ} (hinit : x.clientListInit = true)
    (hobj : k ≠ 0 → ∃ s ∈ x.sessionPool, A.addr s = k) :
    ∃ y, ipcAgmSessionClose A k x =
        some { x with toSessions := y, clientList := removeHandle k x.clientList } ∧
      ClientsRight A { x with toSessions := y, clientList := removeHandle k x.clientList } := by
  unfold ipcAgmSessionClose
  rw [if_pos hinit]
  by_cases hk : k = 0
  · subst hk
    refine ⟨x.toSessions, rfl, fun q t => ?_,
      fun q l hl => h.object q l (holds_removeHandle.mp hl).1⟩
    exact holds_removeHandle.trans ((and_iff_left (A.addr_ne_zero t)).trans (h.held q t))
  · obtain ⟨s, hs, rfl⟩ := hobj hk
    rw [agmSessionClose_eq hs]
    refine ⟨_, rfl, fun q t => ?_, fun q l hl => h.object q l (holds_removeHandle.mp hl).1⟩
    show Holds (removeHandle (A.addr s) x.clientList) q (A.addr t) ↔
      Function.update x.openedBy s none t = some q
    rw [holds_removeHandle, h.held, A.addr_inj.ne_iff]
    by_cases hts : t = s
    · subst hts
      simp
    · rw [Function.update_of_ne hts]
      exact and_iff_left hts

theorem ClientsRight.died (h : ClientsRight A x) (p : P) :
    ∃ y, closeHandles A (diedCloses p x.clientList) x.toSessions = some y ∧
      y.sessionPool = x.sessionPool ∧
      (∀ q s, y.openedBy s = some q ↔ x.openedBy s = some q ∧ q ≠ p) := by
  have hobj : ∀ k ∈ diedCloses p x.clientList, ∃ s ∈ x.sessionPool, A.addr s = k :=
    fun k hk => h.object p k (mem_diedCloses.mp hk).1
  refine ⟨_, closeHandles_eq hobj, rfl, fun q s => ?_⟩
  have hmem : A.addr s ∈ diedCloses p x.clientList ↔ x.openedBy s = some p := by
    rw [mem_diedCloses, h.held]
    exact and_iff_left (A.addr_ne_zero s)
  show (if A.addr s ∈ diedCloses p x.clientList then none else x.openedBy s) = some q ↔ _
  split_ifs with hs
  · rw [hmem.mp hs]
    simp [eq_comm]
  · refine ⟨fun hq => ⟨hq, ?_⟩, And.left⟩
    rintro rfl
    exact hs (hmem.mpr hq)

/-! ### The callbacks of the sessions -/

omit [DecidableEq P] in
/-- What a removal leaves in a session. -/
theorem mem_cbPool_remove {mem : Bool} {s t : ℕ} {evt : EventType} {client : ℕ} {c : SessionCb}
    (h : c ∈ (x.agmSessionRegisterCb mem s ⟨none, evt, client⟩).2.cbPool t) :
    c ∈ x.cbPool t ∧ (mem = true → t = s → c.evtType = evt → c.clientData ≠ client) := by
  unfold HwService.agmSessionRegisterCb at h
  cases mem with
  | false => exact ⟨h, nofun⟩
  | true =>
      replace h : c ∈ Function.update x.cbPool s
        (cbPoolAfter (x.cbPool s) ⟨none, evt, client⟩) t := h
      by_cases hts : t = s
      · subst hts
        rw [Function.update_self] at h
        obtain ⟨hc, hkey⟩ := List.mem_filter.mp h
        refine ⟨hc, fun _ _ hevt hclient => of_decide_eq_true hkey ?_⟩
        exact Prod.ext hevt hclient
      · rw [Function.update_of_ne hts] at h
        exact ⟨h, fun _ heq => absurd heq hts⟩

/-- With memory for the removals, no session keeps a callback of the process. -/
theorem mem_cbPool_dropCallbacks {p : P} {es : List (ClbkData P)} {mem : List Bool} {t : ℕ}
    {c : SessionCb} (hmem : ∀ b ∈ mem, b = true)
    (h : c ∈ (dropCallbacks p es mem x).cbPool t) :
    c ∈ x.cbPool t ∧ ∀ e ∈ es, e.srvCltData.pid = p → t = e.srvCltData.sessionId →
      c.evtType = e.srvCltData.event → c.clientData ≠ e.srvCltData.addr := by
  induction es generalizing mem x with
  | nil => exact ⟨h, nofun⟩
  | cons e es ih =>
      unfold dropCallbacks at h
      split_ifs at h with hp
      · have hhead : mem.headD true = true := by
          cases mem with
          | nil => rfl
          | cons b bs => exact hmem b List.mem_cons_self
        obtain ⟨hc, hes⟩ := ih (fun b hb => hmem b (List.mem_of_mem_tail hb)) h
        obtain ⟨hc, he⟩ := mem_cbPool_remove hc
        refine ⟨hc, fun d hd => ?_⟩
        obtain rfl | hd := List.mem_cons.mp hd
        · exact fun _ => he hhead
        · exact hes d hd
      · obtain ⟨hc, hes⟩ := ih hmem h
        refine ⟨hc, fun d hd => ?_⟩
        obtain rfl | hd := List.mem_cons.mp hd
        · exact fun hdp => absurd hdp hp
        · exact hes d hd

theorem PoolRight.registerCallback (h : PoolRight x) {r : RegisterCall P} {ret : ℤ}
    (heq : ipcAgmSessionRegisterCallback r x = some (ret, x')) : PoolRight x' := by
  unfold ipcAgmSessionRegisterCallback at heq
  dsimp only at heq
  split_ifs at heq with hcb hmem hinit hsr
  · have hx' := congrArg Prod.snd (Option.some.inj heq)
    dsimp only at hx'
    subst hx'
    intro t c hc
    have hnew : ⟨r.clntData, r.srvrClbk x⟩ ∈ (x.addClbkData r).clbkDataList :=
      List.mem_append_right _ (List.mem_singleton.mpr rfl)
    have hold : c ∈ x.cbPool t → ∃ d ∈ (x.addClbkData r).clbkDataList,
        d.srvCltData.addr = c.clientData ∧ d.srvCltData.sessionId = t ∧
          d.srvCltData.event = c.evtType := by
      intro hc
      obtain ⟨d, hd, heq⟩ := h t c hc
      exact ⟨d, List.mem_append_left _ hd, heq⟩
    unfold HwService.agmSessionRegisterCb at hc ⊢
    split_ifs at hc ⊢
    · replace hc : c ∈ Function.update x.cbPool r.sessionId (cbPoolAfter (x.cbPool r.sessionId)
        ⟨some ipcCallbackAddr, r.evtType, (r.srvrClbk x).addr⟩) t := hc
      by_cases hts : t = r.sessionId
      · subst hts
        rw [Function.update_self] at hc
        obtain hc | hc := List.mem_append.mp hc
        · exact hold hc
        · rw [List.mem_singleton.mp hc]
          exact ⟨_, hnew, rfl, rfl, rfl⟩
      · rw [Function.update_of_ne hts] at hc
        exact hold hc
    · exact hold hc
  · obtain rfl := (Prod.mk.inj (Option.some.inj heq)).2
    exact h
  · obtain rfl := (Prod.mk.inj (Option.some.inj heq)).2
    exact h
  · have hx' := congrArg Prod.snd (Option.some.inj heq)
    dsimp only at hx'
    subst hx'
    obtain ⟨ret, pool, hpool⟩ := agmSessionRegisterCb_eq x r.sessionMem r.sessionId
      ⟨none, r.evtType, srClbkData r x.clbkDataList⟩
    intro t c hc
    obtain ⟨d, hd, hkey⟩ := h t c (mem_cbPool_remove hc).1
    refine ⟨d, ?_, hkey⟩
    rw [hpool]
    exact hd

theorem PoolRight.died (h : PoolRight x) {p : P} {mem : List Bool} (hmem : ∀ b ∈ mem, b = true)
    {t : ℕ} {c : SessionCb} (hc : c ∈ (dropCallbacks p x.clbkDataList mem x).cbPool t) :
    ∃ d ∈ x.clbkDataList, d.srvCltData.pid ≠ p ∧ d.srvCltData.addr = c.clientData ∧
      d.srvCltData.sessionId = t ∧ d.srvCltData.event = c.evtType := by
  obtain ⟨hc, hkept⟩ := mem_cbPool_dropCallbacks hmem hc
  obtain ⟨d, hd, haddr, hsession, hevent⟩ := h t c hc
  refine ⟨d, hd, fun hp => ?_, haddr, hsession, hevent⟩
  exact hkept d hd hp hsession.symm hevent.symm haddr.symm

/-! ### Every step keeps the books -/

/-- A callback is registered or removed without a crash, and the sessions are not touched. -/
theorem ipcAgmSessionRegisterCallback_sessions {r : RegisterCall P}
    (hinit : r.cb = false → x.clbkDataListInit = true) :
    ∃ ret x', ipcAgmSessionRegisterCallback r x = some (ret, x') ∧
      x'.toSessions = x.toSessions ∧ x'.clientList = x.clientList := by
  cases hcb : r.cb with
  | false =>
      rw [deregister_eq hcb (hinit hcb)]
      split_ifs
      · exact ⟨_, x, rfl, rfl, rfl⟩
      · obtain ⟨ret, pool, hpool⟩ := agmSessionRegisterCb_eq x r.sessionMem r.sessionId
          ⟨none, r.evtType, srClbkData r x.clbkDataList⟩
        rw [hpool]
        exact ⟨_, _, rfl, rfl, rfl⟩
  | true =>
      unfold ipcAgmSessionRegisterCallback
      rw [if_pos hcb]
      split_ifs
      · obtain ⟨ret, pool, hpool⟩ := agmSessionRegisterCb_eq (x.addClbkData r) r.sessionMem r.sessionId
          ⟨some ipcCallbackAddr, r.evtType, (r.srvrClbk x).addr⟩
        rw [hpool]
        exact ⟨_, _, rfl, rfl, rfl⟩
      · exact ⟨_, _, rfl, rfl, rfl⟩

variable (A) in
structure BooksRight (x : HwService P) : Prop where
  callbacks : CallbacksRight x
  clients : ClientsRight A x
  pool : PoolRight x

/-- The service after the death of a linked process. -/
theorem BooksRight.died_eq (h : BooksRight A x) {p : P} (mem : List Bool)
    (hlinked : x.linked p = true) :
    ∃ y : Sessions P, HwService.step A (some x) (.died p mem) = some { x with
        toSessions := y
        cbPool := (dropCallbacks p x.clbkDataList mem x).cbPool
        clbkDataList := x.clbkDataList.filter fun e => e.srvCltData.pid ≠ p
        clientList := x.clientList.filter fun c => c.pid ≠ p
        linked := Function.update x.linked p false } ∧
      y.sessionPool = x.sessionPool ∧
      ∀ q s, y.openedBy s = some q ↔ x.openedBy s = some q ∧ q ≠ p := by
  obtain ⟨y, hclose, hpool, hopened⟩ := h.clients.died p
  refine ⟨y, ?_, hpool, hopened⟩
  show (if x.linked p then (serviceDied A p mem x).map fun x' =>
    { x' with linked := Function.update x'.linked p false } else some x) = _
  rw [if_pos hlinked, serviceDied_eq, hclose]
  rfl

theorem BooksRight.step (h : BooksRight A x) {e : HwEvent P} (ht : Tended A (some x) e) :
    ∃ x', HwService.step A (some x) e = some x' ∧ BooksRight A x' := by
  cases e with
  | «open» p s answer clientMem hndlMem =>
      refine ⟨_, rfl, h.callbacks.step A (e := .open p s answer clientMem hndlMem) rfl,
        h.clients.open p s ht, ?_⟩
      obtain ⟨y, init, list, heq⟩ := ipcAgmSessionOpen_eq A p s answer clientMem hndlMem x
      rw [heq]
      exact h.pool
  | close k =>
      obtain ⟨y, heq, hclients⟩ := h.clients.close ht.1 ht.2
      exact ⟨_, heq, h.callbacks.step A (e := .close k) heq, hclients, h.pool⟩
  | registerCallback r =>
      obtain ⟨ret, x', heq, hsessions, hlist⟩ := ipcAgmSessionRegisterCallback_sessions ht
      refine ⟨x', congrArg (Option.map Prod.snd) heq, h.callbacks.registerCallback heq, ?_,
        h.pool.registerCallback heq⟩
      refine ⟨fun p s => ?_, fun p k => ?_⟩
      · rw [hsessions, hlist]
        exact h.clients.held p s
      · rw [hsessions, hlist]
        exact h.clients.object p k
  | died p mem =>
      obtain ⟨hlinked, hmem⟩ | ⟨hlinked, -⟩ := ht
      · obtain ⟨y, heq, hpool, hopened⟩ := h.died_eq mem hlinked
        refine ⟨_, heq, h.callbacks.step A heq, ⟨fun q s => ?_, fun q k hk => ?_⟩, ?_⟩
        · exact holds_filter.trans ((and_congr_left' (h.clients.held q s)).trans (hopened q s).symm)
        · obtain ⟨s, hs, hk⟩ := h.clients.object q k (holds_filter.mp hk).1
          exact ⟨s, by rw [hpool]; exact hs, hk⟩
        · intro t c hc
          obtain ⟨d, hd, hp, hkey⟩ := h.pool.died hmem hc
          exact ⟨d, List.mem_filter.mpr ⟨hd, decide_eq_true hp⟩, hkey⟩
      · refine ⟨x, if_neg ?_, h⟩
        rw [hlinked]
        nofun

theorem BooksRight.deathCleaned (h : BooksRight A x) {e : HwEvent P}
    (ht : Tended A (some x) e) : DeathCleaned A (some x) e := by
  cases e with
  | «open» p s answer clientMem hndlMem => trivial
  | close k => trivial
  | registerCallback r => trivial
  | died p mem =>
      obtain ⟨hlinked, hmem⟩ | ⟨hlinked, hnone⟩ := ht
      · obtain ⟨y, heq, -, hopened⟩ := h.died_eq mem hlinked
        refine ⟨_, heq, fun s hs => ((hopened p s).mp hs).2 rfl,
          fun d hd => of_decide_eq_true (List.mem_filter.mp hd).2, fun t c hc o ho haddr => ?_,
          fun q hq s => (hopened q s).trans (and_iff_left hq)⟩
        obtain ⟨d, hd, hp, hdaddr, -⟩ := h.pool.died hmem hc
        rw [h.callbacks.inj o ho _ (h.callbacks.made d hd) (haddr.trans hdaddr.symm)]
        exact hp
      · -- a process that is not linked has no callback on record
        have hother : ∀ d ∈ x.clbkDataList, d.srvCltData.pid ≠ p := by
          rintro d hd rfl
          rw [h.callbacks.linked d hd] at hlinked
          cases hlinked
        refine ⟨x, if_neg (by rw [hlinked]; nofun), hnone, hother, fun t c hc o ho haddr => ?_,
          fun q _ s => Iff.rfl⟩
        obtain ⟨d, hd, hdaddr, -⟩ := h.pool t c hc
        rw [h.callbacks.inj o ho _ (h.callbacks.made d hd) (haddr.trans hdaddr.symm)]
        exact hother d hd

end

/-- In every run from the start of the service in which a process that dies with sessions open has
registered a callback, and there is memory for the lists, every death is cleaned up: the sessions of
the process are closed, its callbacks are forgotten, and nothing of another process is closed. -/
theorem serviceDied_cleans_up {P : Type} [DecidableEq P] (A : SessAddr) (es : List (HwEvent P))
    (h : Along (HwService.step A) (Tended A) es (some {})) :
    Along (HwService.step A) (DeathCleaned A) es (some {}) := by
  have hstart : BooksRight A ({} : HwService P) :=
    ⟨callbacksRight_start, ⟨fun _ _ => iff_of_false nofun nofun, nofun⟩, nofun⟩
  refine h.imp (I := fun o => ∃ x, o = some x ∧ BooksRight A x) ?_ ?_ ⟨_, rfl, hstart⟩
  · rintro _ e ⟨x, rfl, hx⟩ ht
    obtain ⟨x', hx', hbooks⟩ := hx.step ht
    exact ⟨x', hx', hbooks⟩
  · rintro _ e ⟨x, rfl, hx⟩ ht
    exact hx.deathCleaned ht

/-- Two clients with a session each; the one that has registered a callback dies. -/
theorem serviceDied_cleans_up_linked :
    Along (HwService.step .successive) (DeathCleaned .successive)
      [.open 0 7 .opens true true, .open 1 3 .opens true true, .close 4,
        .open 1 3 .opens true true, .registerCallback ⟨0, 7, true, .dataPath, 20, 5, 0, true, true⟩,
        .died 0 []]
      (some ({} : HwService ℕ)) :=
  have hmem : ∀ {P Q : Prop}, P → Q → true = true ∧ true = true := fun _ _ => ⟨rfl, rfl⟩
  serviceDied_cleans_up _ _ ⟨hmem, hmem, ⟨rfl, fun _ => ⟨3, by decide, rfl⟩⟩, hmem, nofun,
    .inl ⟨rfl, nofun⟩, trivial⟩

/-- The sessions of a client that has registered no callback stay open when it dies, and so does,
also with a callback, a session for whose handle there was no memory. -/
theorem serviceDied_cleans_up_unlinked :
    ¬ Along (HwService.step .successive) (DeathCleaned .successive)
      [.open 0 7 .opens true true, .died 0 []] (some ({} : HwService ℕ)) ∧
    ¬ Along (HwService.step .successive) (DeathCleaned .successive)
      [.open 0 7 .opens true false,
        .registerCallback ⟨0, 7, true, .dataPath, 20, 5, 0, true, true⟩, .died 0 []]
      (some ({} : HwService ℕ)) := by
  constructor
  · rintro ⟨-, ⟨x', hstep, hclosed, -⟩, -⟩
    have hopen : x'.openedBy 7 = some 0 := by
      rw [← Option.some.inj hstep]
      decide
    exact hclosed 7 hopen
  · rintro ⟨-, -, ⟨x', hstep, hclosed, -⟩, -⟩
    have hopen : x'.openedBy 7 = some 0 := by
      rw [← Option.some.inj hstep]
      decide
    exact hclosed 7 hopen

end Agm.HwBinder
