import Agm.Types
import Agm.Lib.Prog

/-! # The sessions of the DBus service (`agm_server_wrapper_dbus.cpp`)

The service keeps a record for each session id, in the table `mdata->sessions`, and registers an
object path for it at which the calls of the session arrive.  A request for an id finds the record
or makes it; when the request fails it calls `agm_free_session`.

* **Undefined behaviour** ends a run with `Undefined`.  `agm_free_session` initialises `data` with
  itself and never looks at its argument: the value it finds there is part of each request
  (`uninit`).  `agm_dbus_remove_interface` takes the truth value of `g_hash_table_remove` for a
  pointer.
* **Memory and replies.**  Addresses are numbers, 0 is `NULL`; there is always memory.  What is put
  into a reply is left out.

`sessionTable_iff`: the table stays sound in exactly those runs in which nothing has to be
released. -/

namespace Agm.Dbus

open Prog

/-! ### The service -/

inductive Undefined where
  | badPointer | noFilter
deriving DecidableEq, Repr

/-- `agm_callback_data` of the service. -/
structure CallbackData where
  sessionId : UInt32
  eventType : UInt32
  clientData : UInt64
deriving DecidableEq, Repr

/-- `agm_session_data`; a new record has no handle yet. -/
structure SessionData where
  sessionId : UInt32
  handle : Option UInt64 := none
  dbusObjPath : List Char
  callbacks : List CallbackData := []
deriving DecidableEq, Repr

/-- The service: the records in memory, `mdata->sessions`, for each object path the user data of its
session interface, the paths that libdbus knows, the filters for a lost connection, and, as a
record of the past, which records have been released. -/
structure Server where
  records : ℕ → Option SessionData := fun _ => none
  nextAddr : ℕ := 1
  sessions : UInt32 → Option ℕ := fun _ => none
  objects : List Char → Option ℕ := fun _ => none
  paths : List Char → Bool := fun _ => false
  filters : List ℕ := []
  released : List ℕ := []

abbrev ServerM := Prog Server Undefined

/-- `*p`, for a pointer to a record. -/
def readRecord (p : ℕ) : ServerM SessionData := fun x =>
  match x.records p with
  | some r => .ok (r, x)
  | none => .error .badPointer

def writeRecord (p : ℕ) (r : SessionData) : ServerM Unit :=
  modify fun x => { x with records := Function.update x.records p (some r) }

/-- The service with one more record. -/
def Server.withAlloc (x : Server) (r : SessionData) : Server :=
  { x with records := Function.update x.records x.nextAddr (some r), nextAddr := x.nextAddr + 1 }

def newRecord (r : SessionData) : ServerM ℕ := fun x => .ok (x.nextAddr, x.withAlloc r)

def freeRecord (p : ℕ) : ServerM Unit :=
  modify fun x => { x with
    records := Function.update x.records p none, released := x.released ++ [p] }

def AGM_OBJECT_PATH : List Char := "/org/qti/agm".toList

/-- The path of a session: the id is printed signed, into room for its unsigned digits. -/
def sessionPath (sessionId : UInt32) : List Char :=
  let base := AGM_OBJECT_PATH ++ "/session_".toList
  let objLength := base.length + (toString sessionId.toNat).length + 1
  (base ++ (toString sessionId.toInt32.toInt).toList).take (objLength - 1)

/-- `agm_dbus_add_interface` for the interface of a session; `registers` is the result of
`dbus_connection_register_object_path`.  A path that has the interface keeps its user data. -/
def agmDbusAddInterface (path : List Char) (userdata : ℕ) (registers : Bool) : ServerM ℤ := do
  let object ← gets fun x => x.objects path
  match object with
  | some _ => pure 0
  | none => do
      modify fun x => { x with objects := Function.update x.objects path (some userdata) }
      if registers then do
        modify fun x => { x with paths := Function.update x.paths path true }
        pure 0
      else pure (-EINVAL)

/-- `agm_dbus_remove_interface`: when the interface has been removed its methods are looked for at
the address `TRUE`. -/
def agmDbusRemoveInterface (path : List Char) : ServerM ℤ := do
  let object ← gets fun x => x.objects path
  match object with
  | some _ => fault .badPointer
  | none => pure (-1)

/-- `agm_free_session`, which does not use its argument; `data` is what it starts with. -/
def agmFreeSession (_cData data : ℕ) : ServerM Unit := do
  if data = 0 then pure ()
  else do
    let r ← readRecord data
    let _ ← agmDbusRemoveInterface r.dbusObjPath
    freeRecord data

/-- `get_session_data`. -/
def getSessionData (sessionId : UInt32) (registers : Bool) : ServerM ℕ := do
  let entry ← gets fun x => x.sessions sessionId
  match entry with
  | some ses => pure ses
  | none => do
      let path := sessionPath sessionId
      let ses ← newRecord { sessionId, dbusObjPath := path }
      let ret ← agmDbusAddInterface path ses registers
      if ret ≠ 0 then do
        freeRecord ses
        pure 0
      else do
        modify fun x => { x with sessions := Function.update x.sessions sessionId (some ses) }
        pure ses

/-! ### The requests -/

/-- What the call of the session that a request makes returns, and what else is not up to the
service: the value in `agm_free_session` and whether a new path can be registered. -/
structure Outcome where
  ret : ℤ
  uninit : ℕ := 0
  registers : Bool := true
deriving DecidableEq, Repr

/-- The requests for a session id have one shape: get the record, make the call, and release the
record if it fails.  The answer tells whether the request succeeded. -/
def withSession (sessionId : UInt32) (o : Outcome) (done : ℕ → ServerM Unit) : ServerM Bool := do
  let ses ← getSessionData sessionId o.registers
  if o.ret ≠ 0 then do
    agmFreeSession ses o.uninit
    pure false
  else do
    done ses
    pure true

/-- `ipc_agm_session_open`; `agm_session_open` writes the handle. -/
def ipcAgmSessionOpen (sessionId : UInt32) (handle : UInt64) (o : Outcome) : ServerM Bool :=
  withSession sessionId o fun ses => do
    let r ← readRecord ses
    writeRecord ses { r with handle := some handle }
    modify fun x => { x with filters := ses :: x.filters }

/-- `ipc_agm_session_register_cb`. -/
def ipcAgmSessionRegisterCb (sessionId eventType : UInt32) (clientData : UInt64) (o : Outcome) :
    ServerM Bool :=
  withSession sessionId o fun ses => do
    let r ← readRecord ses
    writeRecord ses { r with callbacks := ⟨sessionId, eventType, clientData⟩ :: r.callbacks }

/-- `ipc_agm_session_deregister_cb`; it looks for a node that it has just allocated, which the list
cannot have. -/
def ipcAgmSessionDeregisterCb (sessionId : UInt32) (o : Outcome) : ServerM Bool :=
  withSession sessionId o fun ses => do
    let r ← readRecord ses
    writeRecord ses { r with callbacks := r.callbacks }

/-- `dbus_connection_remove_filter`, which has to be called with a filter that was added. -/
def removeFilter (p : ℕ) : ServerM Unit := fun x =>
  if p ∈ x.filters then .ok ((), { x with filters := x.filters.erase p }) else .error .noFilter

/-- `g_hash_table_remove` from `mdata->sessions`. -/
def removeSession (sessionId : UInt32) (uninit : ℕ) : ServerM Unit := do
  let entry ← gets fun x => x.sessions sessionId
  match entry with
  | none => pure ()
  | some ses => do
      modify fun x => { x with sessions := Function.update x.sessions sessionId none }
      agmFreeSession ses uninit

/-- The user data of a call that arrives at a path. -/
def Server.dispatch (x : Server) (path : List Char) : Option ℕ :=
  if x.paths path then x.objects path else none

/-- `ipc_agm_session_close`, called at a path. -/
def ipcAgmSessionClose (path : List Char) (o : Outcome) : ServerM Bool := do
  let userdata ← gets fun x => x.dispatch path
  match userdata with
  | none => pure false
  | some ses => do
      removeFilter ses
      let r ← readRecord ses
      if o.ret ≠ 0 then pure false
      else do
        let ret ← agmDbusRemoveInterface r.dbusObjPath
        if ret ≠ 0 then pure false
        else do
          removeSession r.sessionId o.uninit
          pure true

inductive SessionRequest where
  | «open» (sessionId : UInt32) (handle : UInt64) (o : Outcome)
  | close (path : List Char) (o : Outcome)
  | registerCb (sessionId eventType : UInt32) (clientData : UInt64) (o : Outcome)
  | deregisterCb (sessionId : UInt32) (o : Outcome)
deriving DecidableEq, Repr

def SessionRequest.run : SessionRequest → ServerM Bool
  | «open» sessionId handle o => ipcAgmSessionOpen sessionId handle o
  | close path o => ipcAgmSessionClose path o
  | registerCb sessionId eventType clientData o =>
      ipcAgmSessionRegisterCb sessionId eventType clientData o
  | deregisterCb sessionId o => ipcAgmSessionDeregisterCb sessionId o

/-! ### Sound tables -/

/-- Every entry is the record of its session, with its path registered. -/
def Server.TableSound (x : Server) : Prop :=
  ∀ id p, x.sessions id = some p →
    ∃ r, x.records p = some r ∧ r.sessionId = id ∧ x.paths r.dbusObjPath = true

/-- What the service has of the open sessions stays. -/
def Server.KeepsOpen (x x' : Server) : Prop :=
  ∀ id p r, x.sessions id = some p → x.records p = some r → r.handle ≠ none →
    x'.sessions id = some p ∧ x'.records p = some r ∧
      x'.paths r.dbusObjPath = x.paths r.dbusObjPath

/-- The records released are those whose entry leaves the table, each once. -/
def Server.ReleasesLeaving (x x' : Server) : Prop :=
  ∃ l, x'.released = x.released ++ l ∧ l.Nodup ∧
    ∀ p, p ∈ l ↔ ∃ id, x.sessions id = some p ∧ x'.sessions id ≠ some p

/-- What is expected of a request that succeeds (`ok`) or fails. -/
structure Server.Expected (x : Server) (ok : Bool) (x' : Server) : Prop where
  table : x'.TableSound
  keeps : ok = false → x.KeepsOpen x'
  releases : x.ReleasesLeaving x'

def SessionRequest.Right (x : Server) (c : SessionRequest) : Prop :=
  Ensures noFault c.run x x.Expected

/-- Nothing has to be released: if the call fails, `agm_free_session` finds `NULL`, and the path of
a new record is registered. -/
def Outcome.Harmless (x : Server) (sessionId : UInt32) (o : Outcome) : Prop :=
  (o.ret ≠ 0 → o.uninit = 0) ∧
    (x.sessions sessionId = none → x.objects (sessionPath sessionId) = none → o.registers = true)

instance (x : Server) (sessionId : UInt32) (o : Outcome) : Decidable (o.Harmless x sessionId) :=
  inferInstanceAs (Decidable (_ ∧ _))

/-- The requests for a session id are harmless; a close does not reach a session, or it fails there
and has a filter to remove. -/
def SessionRequest.Sound (x : Server) : SessionRequest → Prop
  | «open» sessionId _ o => o.Harmless x sessionId
  | registerCb sessionId _ _ o => o.Harmless x sessionId
  | deregisterCb sessionId o => o.Harmless x sessionId
  | close path o => ∀ p ∈ x.dispatch path, o.ret ≠ 0 ∧ p ∈ x.filters

/-- The records, the table and the object paths belong together. -/
structure Server.Tidy (x : Server) : Prop where
  entry : ∀ {id p}, x.sessions id = some p → ∃ r, x.records p = some r ∧ r.sessionId = id
  path : ∀ {p r}, x.records p = some r →
    x.objects r.dbusObjPath ≠ none ∧ x.paths r.dbusObjPath = true
  owner : ∀ {path p}, x.objects path = some p → ∃ r, x.records p = some r ∧ r.dbusObjPath = path
  addr : ∀ {p r}, x.records p = some r → 0 < p ∧ p < x.nextAddr
  next : 0 < x.nextAddr

/-! ### What the functions do -/

section effects
variable {x : Server} {id : UInt32} {p : ℕ} {r : SessionData} {o : Outcome}

theorem readRecord_ok (h : x.records p = some r) : readRecord p x = .ok (r, x) := by
  unfold readRecord
  rw [h]

theorem readRecord_error (h : x.records p = none) : readRecord p x = .error .badPointer := by
  unfold readRecord
  rw [h]

/-- The record of a session that had none. -/
def freshRecord (id : UInt32) : SessionData := { sessionId := id, dbusObjPath := sessionPath id }

namespace Server

/-- The service with another value of a record. -/
def withRecord (x : Server) (p : ℕ) (r : SessionData) (filters : List ℕ) : Server :=
  { x with records := Function.update x.records p (some r), filters := filters }

/-- The service with a record for a session that had none. -/
def withNew (x : Server) (id : UInt32) : Server where
  records := Function.update x.records x.nextAddr (some (freshRecord id))
  nextAddr := x.nextAddr + 1
  sessions := Function.update x.sessions id (some x.nextAddr)
  objects :=
    if x.objects (sessionPath id) = none then
      Function.update x.objects (sessionPath id) (some x.nextAddr)
    else x.objects
  paths :=
    if x.objects (sessionPath id) = none then Function.update x.paths (sessionPath id) true
    else x.paths
  filters := x.filters
  released := x.released

/-- The service after the path of a new record could not be registered. -/
def withLost (x : Server) (id : UInt32) : Server :=
  { x with
    nextAddr := x.nextAddr + 1
    objects := Function.update x.objects (sessionPath id) (some x.nextAddr)
    released := x.released ++ [x.nextAddr] }

end Server

theorem agmDbusAddInterface_known {path : List Char} (h : x.objects path ≠ none) (p : ℕ)
    (registers : Bool) : agmDbusAddInterface path p registers x = .ok (0, x) := by
  obtain ⟨q, hq⟩ := Option.ne_none_iff_exists'.mp h
  unfold agmDbusAddInterface
  rw [bind_gets, hq]
  rfl

theorem agmDbusAddInterface_new {path : List Char} (h : x.objects path = none) (p : ℕ) :
    agmDbusAddInterface path p true x = .ok (0, { x with
      objects := Function.update x.objects path (some p)
      paths := Function.update x.paths path true }) := by
  unfold agmDbusAddInterface
  rw [bind_gets, h]
  rfl

theorem agmDbusAddInterface_lost {path : List Char} (h : x.objects path = none) (p : ℕ) :
    agmDbusAddInterface path p false x = .ok (-EINVAL, { x with
      objects := Function.update x.objects path (some p) }) := by
  unfold agmDbusAddInterface
  rw [bind_gets, h]
  rfl

theorem getSessionData_old (h : x.sessions id = some p) (registers : Bool) :
    getSessionData id registers x = .ok (p, x) := by
  unfold getSessionData
  rw [bind_gets, h]
  rfl

theorem getSessionData_new (h : x.sessions id = none) {registers : Bool}
    (hreg : x.objects (sessionPath id) = none → registers = true) :
    getSessionData id registers x = .ok (x.nextAddr, x.withNew id) := by
  have hnew : newRecord (freshRecord id) x = .ok (x.nextAddr, x.withAlloc (freshRecord id)) := rfl
  unfold getSessionData Server.withNew
  rw [bind_gets, h]
  by_cases hobj : x.objects (sessionPath id) = none
  · rw [hreg hobj, if_pos hobj, if_pos hobj]
    refine (bind_of_ok hnew).trans ((bind_of_ok
      (agmDbusAddInterface_new (x := x.withAlloc (freshRecord id)) hobj _)).trans ?_)
    rfl
  · rw [if_neg hobj, if_neg hobj]
    refine (bind_of_ok hnew).trans ((bind_of_ok
      (agmDbusAddInterface_known (x := x.withAlloc (freshRecord id)) hobj _ _)).trans ?_)
    rfl

theorem getSessionData_lost (hx : x.Tidy) (h : x.sessions id = none)
    (hobj : x.objects (sessionPath id) = none) :
    getSessionData id false x = .ok (0, x.withLost id) := by
  have hfree : x.records x.nextAddr = none := by
    cases hr : x.records x.nextAddr with
    | none => rfl
    | some r => exact absurd (hx.addr hr).2 (lt_irrefl _)
  have hsame : Function.update (Function.update x.records x.nextAddr (some (freshRecord id)))
      x.nextAddr none = x.records := by
    rw [Function.update_idem, ← hfree, Function.update_eq_self]
  have hnew : newRecord (freshRecord id) x = .ok (x.nextAddr, x.withAlloc (freshRecord id)) := rfl
  unfold getSessionData
  rw [bind_gets, h]
  refine (bind_of_ok hnew).trans ((bind_of_ok
    (agmDbusAddInterface_lost (x := x.withAlloc (freshRecord id)) hobj _)).trans ?_)
  rw [if_pos (by decide)]
  exact congrArg (fun m => (.ok (0, { x.withLost id with records := m }) :
    Except Undefined (ℕ × Server))) hsame

/-- As long as every record has its interface, nothing can be released. -/
theorem agmFreeSession_cases (hx : ∀ {p r}, x.records p = some r → x.objects r.dbusObjPath ≠ none)
    (ses uninit : ℕ) :
    uninit = 0 ∧ agmFreeSession ses uninit x = .ok ((), x) ∨
      uninit ≠ 0 ∧ agmFreeSession ses uninit x = .error .badPointer := by
  unfold agmFreeSession
  by_cases hnull : uninit = 0
  · rw [if_pos hnull]
    exact .inl ⟨hnull, rfl⟩
  · rw [if_neg hnull]
    refine .inr ⟨hnull, ?_⟩
    cases hr : x.records uninit with
    | none => exact bind_of_error (readRecord_error hr)
    | some r =>
        obtain ⟨q, hq⟩ := Option.ne_none_iff_exists'.mp (hx hr)
        refine (bind_of_ok (readRecord_ok hr)).trans (bind_of_error ?_)
        unfold agmDbusRemoveInterface
        rw [bind_gets, hq]
        rfl

end effects

/-! ### The invariant -/

namespace Server
variable {x y : Server} {id : UInt32} {p : ℕ} {r r' : SessionData}

theorem Tidy.tableSound (hx : x.Tidy) : x.TableSound := by
  intro id p hp
  obtain ⟨r, hr, hid⟩ := hx.entry hp
  exact ⟨r, hr, hid, (hx.path hr).2⟩

theorem Tidy.ne_nextAddr (hx : x.Tidy) (hr : x.records p = some r) : p ≠ x.nextAddr :=
  ne_of_lt (hx.addr hr).2

theorem Tidy.records_zero (hx : x.Tidy) : x.records 0 = none := by
  cases hr : x.records 0 with
  | none => rfl
  | some r => exact absurd (hx.addr hr).1 (lt_irrefl 0)

/-- The records after an update are those before, up to handle and callbacks. -/
theorem records_withRecord (hr : x.records p = some r) (hid : r'.sessionId = r.sessionId)
    (hpath : r'.dbusObjPath = r.dbusObjPath) (filters : List ℕ) (q : ℕ) :
    ((x.withRecord p r' filters).records q).map (fun s => (s.sessionId, s.dbusObjPath)) =
      (x.records q).map fun s => (s.sessionId, s.dbusObjPath) := by
  show (Function.update x.records p (some r') q).map _ = _
  rcases eq_or_ne q p with rfl | hne
  · rw [Function.update_self, hr, Option.map_some, Option.map_some, hid, hpath]
  · rw [Function.update_of_ne hne]

theorem exists_of_map {o o' : Option SessionData} {s : SessionData}
    (h : o'.map (fun s => (s.sessionId, s.dbusObjPath)) =
      o.map fun s => (s.sessionId, s.dbusObjPath)) (hs : o' = some s) :
    ∃ t, o = some t ∧ t.sessionId = s.sessionId ∧ t.dbusObjPath = s.dbusObjPath := by
  rw [hs, Option.map_some] at h
  obtain ⟨t, ht, heq⟩ := Option.map_eq_some_iff.mp h.symm
  exact ⟨t, ht, congrArg Prod.fst heq, congrArg Prod.snd heq⟩

theorem Tidy.withRecord (hx : x.Tidy) (hr : x.records p = some r)
    (hid : r'.sessionId = r.sessionId) (hpath : r'.dbusObjPath = r.dbusObjPath)
    (filters : List ℕ) : (x.withRecord p r' filters).Tidy := by
  have hmap := records_withRecord hr hid hpath filters
  constructor
  · intro i q hq
    obtain ⟨s, hs, hi⟩ := hx.entry hq
    obtain ⟨t, ht, hid', -⟩ := exists_of_map (hmap q).symm hs
    exact ⟨t, ht, hid'.trans hi⟩
  · intro q s hs
    obtain ⟨t, ht, -, hpath'⟩ := exists_of_map (hmap q) hs
    rw [← hpath']
    exact hx.path ht
  · intro path q hq
    obtain ⟨s, hs, hp⟩ := hx.owner hq
    obtain ⟨t, ht, -, hpath'⟩ := exists_of_map (hmap q).symm hs
    exact ⟨t, ht, hpath'.trans hp⟩
  · intro q s hs
    obtain ⟨t, ht, -, -⟩ := exists_of_map (hmap q) hs
    exact hx.addr ht
  · exact hx.next

theorem withNew_records_old (hx : x.Tidy) (hr : x.records p = some r) :
    (x.withNew id).records p = some r := by
  show Function.update x.records x.nextAddr _ p = _
  rw [Function.update_of_ne (hx.ne_nextAddr hr), hr]

theorem withNew_records_new : (x.withNew id).records x.nextAddr = some (freshRecord id) :=
  Function.update_self ..

theorem withNew_paths {path : List Char} (h : x.paths path = true) :
    (x.withNew id).paths path = true := by
  unfold withNew
  dsimp only
  split_ifs
  · rw [Function.update_apply, h, ite_self]
  · exact h

theorem withNew_objects {path : List Char} (h : x.objects path ≠ none) :
    (x.withNew id).objects path ≠ none := by
  unfold withNew
  dsimp only
  split_ifs
  · rw [Function.update_apply]
    split_ifs
    · exact Option.some_ne_none _
    · exact h
  · exact h

theorem Tidy.withNew (hx : x.Tidy) (id : UInt32) : (x.withNew id).Tidy := by
  constructor
  · intro i q hq
    have hq' : Function.update x.sessions id (some x.nextAddr) i = some q := hq
    rcases eq_or_ne i id with rfl | hne
    · rw [Function.update_self] at hq'
      exact ⟨_, Option.some.inj hq' ▸ withNew_records_new, rfl⟩
    · rw [Function.update_of_ne hne] at hq'
      obtain ⟨s, hs, hi⟩ := hx.entry hq'
      exact ⟨s, withNew_records_old hx hs, hi⟩
  · intro q s hs
    rcases eq_or_ne q x.nextAddr with rfl | hne
    · obtain rfl := Option.some.inj (withNew_records_new.symm.trans hs)
      show (x.withNew id).objects (sessionPath id) ≠ none ∧ (x.withNew id).paths (sessionPath id) = true
      by_cases hobj : x.objects (sessionPath id) = none
      · unfold Server.withNew
        rw [if_pos hobj, if_pos hobj]
        dsimp only
        rw [Function.update_self, Function.update_self]
        exact ⟨Option.some_ne_none _, rfl⟩
      · obtain ⟨q, hq⟩ := Option.ne_none_iff_exists'.mp hobj
        obtain ⟨s, hs, hp⟩ := hx.owner hq
        exact ⟨withNew_objects hobj, withNew_paths (hp ▸ (hx.path hs).2)⟩
    · have hs' : Function.update x.records x.nextAddr (some (freshRecord id)) q = some s := hs
      rw [Function.update_of_ne hne] at hs'
      exact ⟨withNew_objects (hx.path hs').1, withNew_paths (hx.path hs').2⟩
  · intro path q hq
    by_cases hnew : x.objects (sessionPath id) = none ∧ path = sessionPath id
    · obtain ⟨hobj, rfl⟩ := hnew
      unfold Server.withNew at hq
      dsimp only at hq
      rw [if_pos hobj, Function.update_self] at hq
      exact ⟨_, Option.some.inj hq ▸ withNew_records_new, rfl⟩
    · have hq' : x.objects path = some q := by
        unfold Server.withNew at hq
        dsimp only at hq
        split_ifs at hq with hobj
        · rwa [Function.update_of_ne fun h => hnew ⟨hobj, h⟩] at hq
        · exact hq
      obtain ⟨s, hs, hp⟩ := hx.owner hq'
      exact ⟨s, withNew_records_old hx hs, hp⟩
  · intro q s hs
    rcases eq_or_ne q x.nextAddr with rfl | hne
    · exact ⟨hx.next, Nat.lt_succ_self _⟩
    · have hs' : Function.update x.records x.nextAddr (some (freshRecord id)) q = some s := hs
      rw [Function.update_of_ne hne] at hs'
      exact ⟨(hx.addr hs').1, Nat.lt_succ_of_lt (hx.addr hs').2⟩
  · exact Nat.succ_pos _

/-- Nothing leaves the table, and nothing is released. -/
theorem Expected.of_tidy {ok : Bool} (hy : y.Tidy) (hreleased : y.released = x.released)
    (hsessions : ∀ i p, x.sessions i = some p → y.sessions i = some p)
    (hkeeps : ok = false → x.KeepsOpen y) : x.Expected ok y where
  table := hy.tableSound
  keeps := hkeeps
  releases := by
    refine ⟨[], by rw [hreleased, List.append_nil], List.nodup_nil, fun p => ?_⟩
    refine iff_of_false List.not_mem_nil ?_
    rintro ⟨i, hi, hleft⟩
    exact hleft (hsessions i p hi)

theorem KeepsOpen.refl (x : Server) : x.KeepsOpen x := fun _ _ _ hp hr _ => ⟨hp, hr, rfl⟩

theorem withNew_sessions (h : x.sessions id = none) {i : UInt32} (hp : x.sessions i = some p) :
    (x.withNew id).sessions i = some p := by
  show Function.update x.sessions id _ i = _
  rw [Function.update_of_ne, hp]
  rintro rfl
  exact absurd (h.symm.trans hp) (Option.some_ne_none p).symm

theorem keepsOpen_withNew (hx : x.Tidy) (h : x.sessions id = none) : x.KeepsOpen (x.withNew id) := by
  intro i p r hp hr _
  have hpath := (hx.path hr).2
  exact ⟨withNew_sessions h hp, withNew_records_old hx hr, (withNew_paths hpath).trans hpath.symm⟩

/-- The record that was lost had no entry. -/
theorem not_expected_withLost (hx : x.Tidy) {ok : Bool} : ¬ x.Expected ok (x.withLost id) := by
  intro h
  obtain ⟨l, hl, -, hleaving⟩ := h.releases
  obtain rfl : [x.nextAddr] = l := List.append_cancel_left hl
  obtain ⟨i, hi, -⟩ := (hleaving x.nextAddr).mp (List.mem_singleton_self _)
  obtain ⟨r, hr, -⟩ := hx.entry hi
  exact hx.ne_nextAddr hr rfl

end Server

/-! ### The requests -/

/-- What a handler does with its record once the call of the session has succeeded: it changes the
handle or the callbacks of a record, and needs one. -/
structure Updates (done : ℕ → ServerM Unit) : Prop where
  missing : ∀ {x p}, x.records p = none → done p x = .error .badPointer
  found : ∀ {x p r}, x.records p = some r → ∃ r' filters,
    done p x = .ok ((), x.withRecord p r' filters) ∧
      r'.sessionId = r.sessionId ∧ r'.dbusObjPath = r.dbusObjPath

theorem not_ensures_of_error {m : ServerM Bool} {x : Server} {Q : Bool → Server → Prop}
    {e : Undefined} (h : m x = .error e) : ¬ Ensures noFault m x Q := by
  intro hm
  unfold Ensures at hm
  rw [h] at hm
  exact hm

section requests
variable {x y : Server} {id : UInt32} {ses : ℕ} {o : Outcome} {done : ℕ → ServerM Unit}

theorem updates_writeRecord (f : SessionData → SessionData)
    (hid : ∀ r, (f r).sessionId = r.sessionId) (hpath : ∀ r, (f r).dbusObjPath = r.dbusObjPath)
    (filters : ℕ → List ℕ → List ℕ) :
    Updates fun ses => do
      let r ← readRecord ses
      writeRecord ses (f r)
      modify fun x => { x with filters := filters ses x.filters } where
  missing h := bind_of_error (readRecord_error h)
  found {x p r} h := by
    refine ⟨f r, filters p x.filters, ?_, hid r, hpath r⟩
    rw [bind_of_ok (readRecord_ok h)]
    rfl

theorem updates_writeRecord_only (f : SessionData → SessionData)
    (hid : ∀ r, (f r).sessionId = r.sessionId) (hpath : ∀ r, (f r).dbusObjPath = r.dbusObjPath) :
    Updates fun ses => do
      let r ← readRecord ses
      writeRecord ses (f r) where
  missing h := bind_of_error (readRecord_error h)
  found {x p r} h := by
    refine ⟨f r, x.filters, ?_, hid r, hpath r⟩
    rw [bind_of_ok (readRecord_ok h)]
    rfl

/-- With the record at hand, a request is as expected unless something has to be released. -/
theorem withSession_found (hget : getSessionData id o.registers x = .ok (ses, y)) (hy : y.Tidy)
    (hses : y.sessions id = some ses) (hdone : Updates done) (hreleased : y.released = x.released)
    (hsessions : ∀ i p, x.sessions i = some p → y.sessions i = some p) (hkeeps : x.KeepsOpen y) :
    (o.ret ≠ 0 → o.uninit = 0) ∧ (∃ ok x', withSession id o done x = .ok (ok, x') ∧ x'.Tidy ∧
        x.Expected ok x') ∨
      ¬ (o.ret ≠ 0 → o.uninit = 0) ∧ ∃ e, withSession id o done x = .error e := by
  unfold withSession
  rw [bind_of_ok hget]
  by_cases hret : o.ret ≠ 0
  · rw [if_pos hret]
    rcases agmFreeSession_cases (fun h => (hy.path h).1) ses o.uninit with
      ⟨hnull, hrun⟩ | ⟨hwild, hrun⟩
    · refine .inl ⟨fun _ => hnull, false, y, (bind_of_ok hrun).trans rfl, hy, ?_⟩
      exact .of_tidy hy hreleased hsessions fun _ => hkeeps
    · exact .inr ⟨fun h => hwild (h hret), _, bind_of_error hrun⟩
  · rw [if_neg hret]
    obtain ⟨r, hr, -⟩ := hy.entry hses
    obtain ⟨r', filters, hrun, hid, hpath⟩ := hdone.found hr
    have htidy := hy.withRecord hr hid hpath filters
    refine .inl ⟨fun h => absurd h hret, true, _, (bind_of_ok hrun).trans rfl, htidy, ?_⟩
    exact .of_tidy htidy hreleased hsessions fun h => absurd h (by decide)

/-- A request for a session id runs to an expected end if its outcome is harmless, and to none
otherwise. -/
theorem withSession_cases (hx : x.Tidy) (hdone : Updates done) :
    o.Harmless x id ∧ (∃ ok x', withSession id o done x = .ok (ok, x') ∧ x'.Tidy ∧
        x.Expected ok x') ∨
      ¬ o.Harmless x id ∧ ¬ Ensures noFault (withSession id o done) x x.Expected := by
  have hfault : ∀ {e}, withSession id o done x = .error e →
      ¬ Ensures noFault (withSession id o done) x x.Expected := not_ensures_of_error
  cases hentry : x.sessions id with
  | some p =>
      rcases withSession_found (getSessionData_old hentry o.registers) hx hentry hdone rfl
        (fun _ _ h => h) (.refl x) with ⟨hnull, hrun⟩ | ⟨hwild, e, hrun⟩
      · exact .inl ⟨⟨hnull, fun h => absurd (hentry.symm.trans h) (Option.some_ne_none p)⟩, hrun⟩
      · exact .inr ⟨fun h => hwild h.1, hfault hrun⟩
  | none =>
      by_cases hreg : x.objects (sessionPath id) = none → o.registers = true
      · rcases withSession_found (getSessionData_new hentry hreg) (hx.withNew id)
          (Function.update_self ..) hdone rfl (fun _ _ => Server.withNew_sessions hentry)
          (Server.keepsOpen_withNew hx hentry) with ⟨hnull, hrun⟩ | ⟨hwild, e, hrun⟩
        · exact .inl ⟨⟨hnull, fun _ => hreg⟩, hrun⟩
        · exact .inr ⟨fun h => hwild h.1, hfault hrun⟩
      · refine .inr ⟨fun h => hreg (h.2 hentry), ?_⟩
        obtain ⟨hobj, hfails⟩ := Classical.not_imp.mp hreg
        have hget := getSessionData_lost hx hentry hobj
        rw [← Bool.eq_false_of_not_eq_true hfails] at hget
        have hobjects : ∀ {p r}, (x.withLost id).records p = some r →
            (x.withLost id).objects r.dbusObjPath ≠ none := by
          intro p r hr
          show Function.update x.objects _ _ _ ≠ none
          rw [Function.update_apply]
          split_ifs
          · exact Option.some_ne_none _
          · exact (hx.path hr).1
        by_cases hret : o.ret ≠ 0
        · rcases agmFreeSession_cases hobjects 0 o.uninit with ⟨-, hrun⟩ | ⟨-, hrun⟩
          · have hend : withSession id o done x = .ok (false, x.withLost id) := by
              unfold withSession
              rw [bind_of_ok hget, if_pos hret, bind_of_ok hrun]
              rfl
            rw [ensures_iff_of_ok hend]
            exact Server.not_expected_withLost hx
          · refine hfault (e := .badPointer) ?_
            unfold withSession
            rw [bind_of_ok hget, if_pos hret, bind_of_error hrun]
        · refine hfault (e := .badPointer) ?_
          unfold withSession
          rw [bind_of_ok hget, if_neg hret,
            bind_of_error (hdone.missing (x := x.withLost id) hx.records_zero)]

/-- A close that reaches a session does not come back if the session is closed by it. -/
theorem close_cases (hx : x.Tidy) (path : List Char) :
    (∀ p ∈ x.dispatch path, o.ret ≠ 0 ∧ p ∈ x.filters) ∧
        (∃ ok x', ipcAgmSessionClose path o x = .ok (ok, x') ∧ x'.Tidy ∧ x.Expected ok x') ∨
      ¬ (∀ p ∈ x.dispatch path, o.ret ≠ 0 ∧ p ∈ x.filters) ∧
        ¬ Ensures noFault (ipcAgmSessionClose path o) x x.Expected := by
  unfold ipcAgmSessionClose
  cases hdispatch : x.dispatch path with
  | none =>
      refine .inl ⟨fun p hp => absurd hp (Option.not_mem_none p), false, x, ?_, hx, ?_⟩
      · rw [bind_gets, hdispatch]
        rfl
      · exact .of_tidy hx rfl (fun _ _ h => h) fun _ => .refl x
  | some p =>
      have hobj : x.objects path = some p := by
        unfold Server.dispatch at hdispatch
        split_ifs at hdispatch
        exact hdispatch
      obtain ⟨r, hr, -⟩ := hx.owner hobj
      by_cases hfilter : p ∈ x.filters
      · have hremove : removeFilter p x = .ok ((), { x with filters := x.filters.erase p }) :=
          if_pos hfilter
        have hread : readRecord p { x with filters := x.filters.erase p } =
            .ok (r, { x with filters := x.filters.erase p }) := readRecord_ok hr
        by_cases hret : o.ret ≠ 0
        · refine .inl ⟨?_, false, { x with filters := x.filters.erase p }, ?_, ?_, ?_⟩
          · rintro q ⟨⟩
            exact ⟨hret, hfilter⟩
          · rw [bind_gets, hdispatch]
            refine (bind_of_ok hremove).trans ((bind_of_ok hread).trans ?_)
            rw [if_pos hret]
            rfl
          · exact ⟨hx.entry, hx.path, hx.owner, hx.addr, hx.next⟩
          · exact .of_tidy ⟨hx.entry, hx.path, hx.owner, hx.addr, hx.next⟩ rfl (fun _ _ h => h)
              fun _ => .refl x
        · refine .inr ⟨fun h => hret (h p rfl).1, not_ensures_of_error (e := .badPointer) ?_⟩
          obtain ⟨q, hq⟩ := Option.ne_none_iff_exists'.mp (hx.path hr).1
          have hcrash : agmDbusRemoveInterface r.dbusObjPath
              { x with filters := x.filters.erase p } = .error .badPointer := by
            unfold agmDbusRemoveInterface
            rw [bind_gets]
            dsimp only
            rw [hq]
            rfl
          rw [bind_gets, hdispatch]
          refine (bind_of_ok hremove).trans ((bind_of_ok hread).trans ?_)
          rw [if_neg hret]
          exact bind_of_error hcrash
      · refine .inr ⟨fun h => hfilter (h p rfl).2, not_ensures_of_error (e := .noFilter) ?_⟩
        have hremove : removeFilter p x = .error .noFilter := if_neg hfilter
        rw [bind_gets, hdispatch]
        exact bind_of_error hremove

/-- A request runs to an expected end if it is sound, and to none otherwise. -/
theorem SessionRequest.run_cases (hx : x.Tidy) (c : SessionRequest) :
    c.Sound x ∧ (∃ ok x', c.run x = .ok (ok, x') ∧ x'.Tidy ∧ x.Expected ok x') ∨
      ¬ c.Sound x ∧ ¬ c.Right x := by
  cases c with
  | «open» id handle o =>
      exact withSession_cases hx (updates_writeRecord (fun r => { r with handle := some handle })
        (fun _ => rfl) (fun _ => rfl) fun ses l => ses :: l)
  | registerCb id evt client o =>
      exact withSession_cases hx (updates_writeRecord_only
        (fun r => { r with callbacks := ⟨id, evt, client⟩ :: r.callbacks }) (fun _ => rfl)
        fun _ => rfl)
  | deregisterCb id o =>
      exact withSession_cases hx (updates_writeRecord_only
        (fun r => { r with callbacks := r.callbacks }) (fun _ => rfl) fun _ => rfl)
  | close path o => exact close_cases hx path

theorem SessionRequest.right_iff (hx : x.Tidy) (c : SessionRequest) : c.Right x ↔ c.Sound x := by
  rcases c.run_cases hx with ⟨hs, ok, x', hrun, -, hexpected⟩ | ⟨hs, hr⟩
  · refine iff_of_true ?_ hs
    unfold SessionRequest.Right
    rw [ensures_iff_of_ok hrun]
    exact hexpected
  · exact iff_of_false hr hs

theorem SessionRequest.run_tidy (hx : x.Tidy) {c : SessionRequest} (hs : c.Sound x) :
    Ensures anyFault c.run x fun _ x' => x'.Tidy := by
  rcases c.run_cases hx with ⟨-, ok, x', hrun, htidy, -⟩ | ⟨hn, -⟩
  · rw [ensures_iff_of_ok hrun]
    exact htidy
  · exact absurd hs hn

end requests

theorem tidy_start : ({} : Server).Tidy where
  entry h := nomatch h
  path h := nomatch h
  owner h := nomatch h
  addr h := nomatch h
  next := Nat.one_pos

/-- All requests of a run have an expected end exactly if all of them are sound. -/
theorem sessionTable_iff (requests : List SessionRequest) :
    Admits SessionRequest.run (fun x c => c.Right x) requests {} ↔
      Admits SessionRequest.run (fun x c => c.Sound x) requests {} :=
  admits_congr (I := Server.Tidy) SessionRequest.run (fun _ c hx => c.right_iff hx)
    (fun _ c hx hr => SessionRequest.run_tidy hx ((c.right_iff hx).mp hr)) requests {} tidy_start

/-- A session is opened twice; the second time fails, and `agm_free_session` happens to find the
address of the record, as it should. -/
theorem sessionTable_fails : ¬ Admits SessionRequest.run (fun x c => c.Right x)
    [.open 5 4096 { ret := 0 }, .open 5 4096 { ret := -EALREADY, uninit := 1 }] {} := by
  rintro ⟨-, hsecond⟩
  rcases SessionRequest.run_cases tidy_start (.open 5 4096 { ret := 0 }) with
    ⟨-, ok, x', hrun, htidy, -⟩ | ⟨hn, -⟩
  · rw [hrun] at hsecond
    have hsound := (SessionRequest.right_iff htidy _).mp hsecond.1
    exact absurd (hsound.1 (by decide)) (by decide)
  · exact hn ⟨fun h => absurd rfl h, fun _ _ => rfl⟩

end Agm.Dbus
