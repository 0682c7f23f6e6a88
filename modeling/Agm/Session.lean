import Agm.Graph

/-! # Sessions (`session_obj.c`, internal functions)

A session owns a pool of interfaces (`aif`), each bound to one device, and at most one graph.
This module holds the functions that the session calls are made of: connecting an interface to
the session's graph, disconnecting it, and the loops that open, prepare, start, stop and close
the pool.

The labels of the source are kept visible.  A function that jumps to one of several labels is
cut there, and the part before the labels returns the label it jumps to, with the code it jumps
with (`ConnectExit`, `startDevices`, `connectReminders`); what stands at the label follows. -/

namespace Agm

/-! ### Access to a session and its interfaces -/

def getSess (s : ℕ) : AgmM SessionObj := Prog.gets fun w => w.sess s

/-- Assign to fields of a session. -/
def modifySess (s : ℕ) (f : SessionObj → SessionObj) : AgmM Unit :=
  Prog.modify fun w => { w with sess := Function.update w.sess s (f (w.sess s)) }

/-- The interface at a position of the session's pool. -/
def World.aif (w : World) (s i : ℕ) : Aif := (w.sess s).aifPool.getD i {}

def getAif (s i : ℕ) : AgmM Aif := Prog.gets fun w => w.aif s i

/-- Assign to fields of an interface other than its state. -/
def modifyAif (s i : ℕ) (f : Aif → Aif) : AgmM Unit :=
  modifySess s fun sess => { sess with aifPool := sess.aifPool.modify i f }

/-- The observation made when a pair moves from one state to another. -/
def pairEvents (old new : AifState) : List DevEvent :=
  if old = .aifStarted then if new = .aifStarted then [] else [.pairStopped]
  else if new = .aifStarted then [.pairStarted] else []

/-- Record observations on a device. -/
def observe (d : Option ℕ) (evs : List DevEvent) (w : World) : World :=
  match d with
  | none => w
  | some d =>
      { w with dev := Function.update w.dev d { w.dev d with trace := evs ++ (w.dev d).trace } }

/-- `aif_obj->state = st`. -/
def setAifState (s i : ℕ) (st : AifState) : AgmM Unit := do
  let aif ← getAif s i
  modifyAif s i fun a => { a with state := st }
  Prog.modify (observe aif.devObj (pairEvents aif.state st))

/-- The positions of the session's pool, in the order of the list. -/
def poolRange (s : ℕ) : AgmM (List ℕ) := do
  let sess ← getSess s
  pure (List.range sess.aifPool.length)

/-! ### The pools -/

/-- `session_obj_get`: find the session of an id, or create it. -/
def sessionObjGet (s : ℕ) : AgmM ℤ := do
  let pool ← Prog.gets World.pool
  if s ∈ pool then pure 0
  else
    let block ← env calloc
    if !block then pure (-ENOMEM)
    else do
      Prog.modify fun w =>
        { w with pool := w.pool ++ [s], sess := Function.update w.sess s {} }
      pure 0

/-- `aif_obj_get_from_pool`. -/
def aifObjGetFromPool (sess : SessionObj) (aif : ℕ) : Option ℕ :=
  sess.aifPool.findIdx? fun a => decide (a.aifId = aif)

/-- `aif_obj_create`: without a device the zeroed object is returned all the same. -/
def aifObjCreate (aif : ℕ) : AgmM (Option Aif) := do
  let block ← env calloc
  if !block then pure none
  else
    let r ← deviceGetObj aif
    if r.1 ≠ 0 ∨ r.2 = none then pure (some {})
    else pure (some { aifId := aif, devObj := r.2 })

/-- `aif_obj_get`: the position of the interface, found or appended. -/
def aifObjGet (s aif : ℕ) : AgmM (ℤ × ℕ) := do
  let sess ← getSess s
  match aifObjGetFromPool sess aif with
  | some i => pure (0, i)
  | none =>
      let obj ← aifObjCreate aif
      match obj with
      | none => pure (-ENOMEM, 0)
      | some obj => do
          modifySess s fun sess => { sess with aifPool := sess.aifPool ++ [obj] }
          pure (0, sess.aifPool.length)

/-- `aif_obj_get_count_with_state(.., AIF_OPENED, false)`. -/
def openedCount (sess : SessionObj) : ℕ := sess.aifPool.countP fun a => a.state.isOpened

/-! ### Merged metadata -/

/-- `&aif_obj->dev_obj->metadata`. -/
def devMetadata (dev : Option ℕ) : AgmM MetaData :=
  match dev with
  | none => Prog.fault (.crash .nullDeref)
  | some d => Prog.gets fun w => (w.dev d).metadata

/-- The metadata of a session, one of its interfaces and the device of that. -/
def mergeAif (s i : ℕ) : AgmM (Option MetaData) := do
  let sess ← getSess s
  let aif ← getAif s i
  let dev ← devMetadata aif.devObj
  env (metadataMerge [some sess.sessMeta, some aif.sessAifMeta, some dev])

/-- `session_get_merged_metadata`; a failed merge in between is forgotten. -/
def sessionGetMergedMetadata (s : ℕ) : AgmM (Option MetaData) := do
  let is ← poolRange s
  Prog.forAll (fun i temp => do
    let sess ← getSess s
    let aif ← getAif s i
    let dev ← devMetadata aif.devObj
    env (metadataMerge [temp, some sess.sessMeta, some aif.sessAifMeta, some dev])) is none

/-- `session_get_merged_metadata_without_aif`. -/
def sessionGetMergedMetadataWithoutAif (s : ℕ) : AgmM (Option MetaData) := do
  let is ← poolRange s
  Prog.forAll (fun i temp => do
    let sess ← getSess s
    let aif ← getAif s i
    env (metadataMerge [temp, some sess.sessMeta, some aif.sessAifMeta])) is none

/-! ### Edges -/

/-- The call that both edge functions end in, recorded. -/
def setEdge (s : ℕ) (kind : EdgeKind) (id : ℕ) (enable : Bool) (md : MetaData) : AgmM ℤ := do
  let sess ← getSess s
  let ret ← (if enable then graphAdd sess.graph md none else graphRemove sess.graph md)
  Prog.modify fun w => { w with edges := ⟨sess.graph, kind, id, enable, ret⟩ :: w.edges }
  pure ret

/-- `session_set_loopback`. -/
def sessionSetLoopback (s pb : ℕ) (enable : Bool) : AgmM ℤ := do
  let ret ← sessionObjGet pb
  if ret ≠ 0 then pure ret else
  let capture ← sessionGetMergedMetadata s
  if capture = none then pure (-ENOMEM) else
  let playback ← sessionGetMergedMetadata pb
  if playback = none then pure (-ENOMEM) else
  let merged ← env (metadataMerge [capture, playback])
  match merged with
  | none => pure (-ENOMEM)
  | some md => setEdge s .loopback pb enable md

/-- `session_set_ec_ref`. -/
def sessionSetEcRef (s aif : ℕ) (enable : Bool) : AgmM ℤ := do
  let dev ← deviceGetObj aif
  if dev.1 ≠ 0 then pure dev.1 else
  let capture ← sessionGetMergedMetadataWithoutAif s
  if capture = none then pure (-ENOMEM) else
  let devMd ← devMetadata dev.2
  let merged ← env (metadataMerge [capture, some devMd])
  match merged with
  | none => pure (-ENOMEM)
  | some md => setEdge s .ecRef aif enable md

/-! ### Disconnecting -/

/-- The metadata `session_disconnect_aif` stops or removes: for the only open interface the
properties are those of the interface alone.  `none` when a merge fails. -/
def disconnectMetadata (s i openedCount : ℕ) : AgmM (Option MetaData) := do
  let merged ← mergeAif s i
  match merged with
  | none => pure none
  | some md =>
      if openedCount = 1 then
        let aif ← getAif s i
        let dev ← devMetadata aif.devObj
        let aifMd ← env (metadataMerge [some aif.sessAifMeta, some dev])
        pure (aifMd.map fun a => { gkv := md.gkv, ckv := md.ckv, sgProps := a.sgProps })
      else pure (some md)

/-- `session_disconnect_aif`. -/
def sessionDisconnectAif (s i openedCount : ℕ) : AgmM ℤ := do
  let merged ← disconnectMetadata s i openedCount
  match merged with
  | none => pure (-ENOMEM)
  | some md =>
      let sess ← getSess s
      let aif ← getAif s i
      let _ ← (if openedCount = 1 then graphStop sess.graph (some md)
        else graphRemove sess.graph md)
      onDevice aif.devObj deviceClose

/-! ### Connecting -/

/-- Where `session_connect_aif` goes: to `done`, or to a label with its code. -/
inductive ConnectExit where
  | done (ret : ℤ)
  | graphCleanup (ret : ℤ) (md : MetaData)
  | closeDevice (ret : ℤ)
deriving DecidableEq, Repr

/-- Step 2.b: bring the interface into the session's graph. -/
def connectGraph (s i openedCount : ℕ) (md : MetaData) : AgmM ConnectExit := do
  let sess ← getSess s
  let aif ← getAif s i
  if openedCount = 0 then
    if sess.state = .sessionClosed then do
      let ret ← graphOpen md s aif.devObj
      if ret ≠ 0 then pure (.closeDevice ret) else
      let sess ← getSess s
      let ret ← graphRegisterCb sess.graph s
      if ret ≠ 0 then pure (.graphCleanup ret md) else pure (.done 0)
    else do
      let ret ← graphChange sess.graph md aif.devObj
      if ret ≠ 0 then pure (.closeDevice ret) else pure (.done 0)
  else do
    let ret ← graphAdd sess.graph md aif.devObj
    if ret ≠ 0 then pure (.closeDevice ret) else pure (.done 0)

/-- Step 2.c for the stream: only a session that is still closed sends its parameters. -/
def sendSessionParams (s : ℕ) : AgmM ℤ := do
  let sess ← getSess s
  match sess.params with
  | none => pure 0
  | some payload =>
      if sess.state = .sessionClosed then do
        let ret ← graphSetConfig sess.graph (.session s) payload
        if ret ≠ 0 then pure ret
        else do
          modifySess s fun sess => { sess with params := none }
          pure 0
      else pure 0

/-- Step 2.c for the interface. -/
def sendAifParams (s i : ℕ) : AgmM ℤ := do
  let sess ← getSess s
  let aif ← getAif s i
  match aif.params with
  | none => pure 0
  | some payload => do
      let ret ← graphSetConfig sess.graph (.aif s i) payload
      if ret ≠ 0 then pure ret
      else do
        modifyAif s i fun a => { a with params := none }
        pure 0

/-- Step 2.c for the device, when nobody has prepared it yet. -/
def sendDeviceParams (s i : ℕ) : AgmM ℤ := do
  let sess ← getSess s
  let aif ← getAif s i
  match aif.devObj with
  | none => Prog.fault (.crash .nullDeref)
  | some d =>
      let dev ← Prog.gets fun w => w.dev d
      match dev.params with
      | none => pure 0
      | some payload =>
          if dev.state = .devOpened then do
            let ret ← graphSetConfig sess.graph (.device d) payload
            if ret ≠ 0 then pure ret
            else do
              Prog.modify fun w =>
                { w with dev := Function.update w.dev d { w.dev d with params := none } }
              pure 0
          else pure 0

/-- Step 2.c: the cached parameters of the session, the interface and the device. -/
def sendParams (s i : ℕ) : AgmM ℤ := do
  let ret ← sendSessionParams s
  if ret ≠ 0 then pure ret else
  let ret ← sendAifParams s i
  if ret ≠ 0 then pure ret else
  sendDeviceParams s i

/-- Steps 2.a to 2.c: everything before the labels. -/
def connectSteps (s i openedCount : ℕ) : AgmM ConnectExit := do
  let merged ← mergeAif s i
  match merged with
  | none => pure (.done (-ENOMEM))
  | some md =>
      let aif ← getAif s i
      let ret ← onDevice aif.devObj deviceOpen
      if ret ≠ 0 then pure (.done ret) else
      let exit ← connectGraph s i openedCount md
      match exit with
      | .done _ => do
          let ret ← sendParams s i
          if ret ≠ 0 then pure (.graphCleanup ret md) else pure (.done 0)
      | _ => pure exit

/-- The label `graph_cleanup`.  The session's graph pointer keeps its value. -/
def graphCleanup (s openedCount : ℕ) (md : MetaData) : AgmM ℤ := do
  let sess ← getSess s
  if openedCount = 0 then graphClose sess.graph else graphRemove sess.graph md

/-- `session_connect_aif`. -/
def sessionConnectAif (s i openedCount : ℕ) : AgmM ℤ := do
  let exit ← connectSteps s i openedCount
  let aif ← getAif s i
  match exit with
  | .done ret => pure ret
  | .graphCleanup ret md => do
      let _ ← graphCleanup s openedCount md
      let _ ← onDevice aif.devObj deviceClose
      pure ret
  | .closeDevice ret => do
      let _ ← onDevice aif.devObj deviceClose
      pure ret

/-! ### Opening -/

/-- `session_open_with_first_device`. -/
def sessionOpenWithFirstDevice (s : ℕ) : AgmM ℤ := do
  let sess ← getSess s
  match sess.aifPool.findIdx? fun a => decide (a.state = .aifOpen) with
  | none => pure (-EPIPE)
  | some i =>
      let ret ← sessionConnectAif s i 0
      if ret ≠ 0 then pure ret
      else do
        setAifState s i .aifOpened
        pure 0

/-- Connect the interfaces that wait, counting the open ones; a non-zero code goes to `unwind`. -/
def connectReminders (s : ℕ) : List ℕ → ℕ → AgmM ℤ
  | [], _ => pure 0
  | i :: is, openedCount => do
      let aif ← getAif s i
      if aif.state = .aifOpen then do
        let ret ← sessionConnectAif s i openedCount
        if ret ≠ 0 then pure ret
        else do
          setAifState s i .aifOpened
          connectReminders s is (openedCount + 1)
      else connectReminders s is openedCount

/-- The first loop of `session_connect_reminder_devices` over the whole pool. -/
def openReminders (s : ℕ) : AgmM ℤ := do
  let is ← poolRange s
  connectReminders s is 1

/-- One turn of the loop at `unwind`. -/
def unwindReminder (s i : ℕ) (ret : ℤ) : AgmM ℤ := do
  let aif ← getAif s i
  if aif.state = .aifOpened then do
    let ret ← sessionDisconnectAif s i 1
    setAifState s i .aifOpen
    pure ret
  else pure ret

/-- The label `unwind` of `session_connect_reminder_devices`.  What is returned is the code of
closing the graph, not the one that led here. -/
def unwindReminders (s : ℕ) : AgmM ℤ := do
  let is ← poolRange s
  let _ ← Prog.forAll (unwindReminder s) is 0
  let sess ← getSess s
  let ret ← graphClose sess.graph
  modifySess s fun sess => { sess with graph := none }
  pure ret

/-- `session_connect_reminder_devices`; one interface is connected already. -/
def sessionConnectReminderDevices (s : ℕ) : AgmM ℤ := do
  let ret ← openReminders s
  if ret ≠ 0 then unwindReminders s else pure 0

/-! ### Preparing -/

/-- One turn of the loop of `session_prepare`. -/
def prepareAif (s i : ℕ) : AgmM ℤ := do
  let aif ← getAif s i
  if aif.state = .aifOpened ∨ aif.state = .aifStopped then
    let ret ← onDevice aif.devObj devicePrepare
    if ret ≠ 0 then pure ret
    else do
      setAifState s i .aifPrepared
      pure 0
  else pure 0

/-- `session_prepare`. -/
def sessionPrepare (s : ℕ) : AgmM ℤ := do
  let sess ← getSess s
  if openedCount sess = 0 then pure (-1) else
  let dir := sess.streamConfig.dir
  let ret ← (if dir = .tx ∧ sess.state ≠ .sessionStarted then graphPrepare sess.graph else pure 0)
  if ret ≠ 0 then pure ret else
  let is ← poolRange s
  let ret ← Prog.forEach (prepareAif s) is
  if ret ≠ 0 then pure ret else
  let ret ← (if dir = .rx ∧ sess.state ≠ .sessionStarted then graphPrepare sess.graph else pure 0)
  if ret ≠ 0 then pure ret
  else do
    modifySess s fun sess => { sess with state := .sessionPrepared }
    pure 0

/-! ### Starting -/

/-- A capture session with a loopback starts only when the playback session has. -/
def checkLoopback (s : ℕ) : AgmM ℤ := do
  let sess ← getSess s
  if sess.loopbackState then
    let ret ← sessionObjGet sess.loopbackSessId
    if ret ≠ 0 then pure ret else
    let pb ← getSess sess.loopbackSessId
    pure (if pb.state ≠ .sessionStarted then -EINVAL else 0)
  else pure 0

/-- A capture session with an echo reference starts only when the reference device has. -/
def checkEcRef (s : ℕ) : AgmM ℤ := do
  let sess ← getSess s
  if sess.ecRefState then
    let dev ← deviceGetObj sess.ecRefAifId
    if dev.1 ≠ 0 then pure dev.1 else
    match dev.2 with
    | none => Prog.fault (.crash .nullDeref)
    | some d =>
        let dev ← Prog.gets fun w => w.dev d
        pure (if dev.state ≠ .devStarted then -EINVAL else 0)
  else pure 0

/-- The part of `session_start` whose failures go to `done`. -/
def startGate (s : ℕ) : AgmM ℤ := do
  let sess ← getSess s
  if openedCount sess = 0 then pure (-EINVAL)
  else if sess.streamConfig.dir = .tx then
    let ret ← checkLoopback s
    if ret ≠ 0 then pure ret else
    let ret ← checkEcRef s
    if ret ≠ 0 then pure ret else
    let sess ← getSess s
    graphStart sess.graph
  else pure 0

/-- One turn of the loop of `session_start`. -/
def startAif (s i : ℕ) : AgmM ℤ := do
  let aif ← getAif s i
  if aif.state = .aifOpened ∨ aif.state = .aifPrepared ∨ aif.state = .aifStopped then
    let ret ← onDevice aif.devObj deviceStart
    if ret ≠ 0 then pure ret
    else do
      setAifState s i .aifStarted
      pure 0
  else pure 0

/-- The part of `session_start` whose failures go to `unwind`. -/
def startDevices (s : ℕ) : AgmM ℤ := do
  let is ← poolRange s
  let ret ← Prog.forEach (startAif s) is
  if ret ≠ 0 then pure ret else
  let sess ← getSess s
  if sess.streamConfig.dir = .rx then graphStart sess.graph else pure 0

/-- One turn of a loop that stops what is started; `st` is the state it leaves. -/
def stopAif (s : ℕ) (st : AifState) (i : ℕ) (ret : ℤ) : AgmM ℤ := do
  let aif ← getAif s i
  if aif.state = .aifStarted then do
    let ret ← onDevice aif.devObj deviceStop
    setAifState s i st
    pure ret
  else pure ret

/-- The label `unwind` of `session_start`. -/
def unwindStart (s : ℕ) : AgmM Unit := do
  let sess ← getSess s
  let _ ← (if sess.streamConfig.dir = .tx then graphStop sess.graph none else pure 0)
  let is ← poolRange s
  let _ ← Prog.forAll (stopAif s .aifOpened) is 0
  pure ()

/-- `session_start`. -/
def sessionStart (s : ℕ) : AgmM ℤ := do
  let ret ← startGate s
  if ret ≠ 0 then pure ret else
  let ret ← startDevices s
  if ret ≠ 0 then do
    unwindStart s
    pure ret
  else do
    modifySess s fun sess => { sess with state := .sessionStarted }
    pure 0

/-! ### Stopping and closing -/

/-- `session_stop`. -/
def sessionStop (s : ℕ) : AgmM ℤ := do
  let sess ← getSess s
  if sess.state ≠ .sessionStarted then pure (-EINVAL) else
  let dir := sess.streamConfig.dir
  let ret ← (if dir = .rx then graphStop sess.graph none else pure 0)
  if ret ≠ 0 then pure ret else
  let is ← poolRange s
  let ret ← Prog.forAll (stopAif s .aifStopped) is 0
  let ret ← (if dir = .tx then graphStop sess.graph none else pure ret)
  modifySess s fun sess => { sess with state := .sessionStopped }
  pure ret

/-- One turn of the loop of `session_close`. -/
def closeAif (s i : ℕ) (ret : ℤ) : AgmM ℤ := do
  let aif ← getAif s i
  if aif.state.isOpened then do
    let ret ← onDevice aif.devObj deviceClose
    setAifState s i .aifClosed
    pure ret
  else pure ret

/-- `session_close`. -/
def sessionClose (s : ℕ) : AgmM ℤ := do
  let sess ← getSess s
  if sess.state = .sessionClosed then pure (-EALREADY) else
  let _ ← (if sess.state = .sessionStarted then graphStop sess.graph none else pure 0)
  let ret ← graphClose sess.graph
  modifySess s fun sess => { sess with graph := none }
  let is ← poolRange s
  let ret ← Prog.forAll (closeAif s) is ret
  modifySess s fun sess => { sess with state := .sessionClosed }
  pure ret

end Agm
