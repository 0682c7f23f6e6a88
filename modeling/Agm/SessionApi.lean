import Agm.Session

/-! # The calls of the service (`session_obj.c`, `agm.c`)

The functions a client reaches, the type `Op` that enumerates them, and `exec`, which runs one
call.  A call brings the results of the external calls made during it, so a run of the service
is a list of calls (`Prog.runAll exec`).

`session_obj_sess_aif_connect` is cut at its label `unwind` in the way of `Agm.Session`. -/

namespace Agm

/-! ### Connecting and disconnecting an interface -/

/-- Where `session_obj_sess_aif_connect` goes: to `done`, or to `unwind` with its code, the
position of the interface and the count of open interfaces. -/
inductive AifConnectExit where
  | done (ret : ℤ)
  | unwind (ret : ℤ) (i openedCount : ℕ)
deriving DecidableEq, Repr

/-- The common first step of a connection made while the session is open. -/
def hotConnect (s i openedCount : ℕ) : AgmM ℤ := do
  let ret ← sessionConnectAif s i openedCount
  if ret ≠ 0 then pure ret
  else do
    setAifState s i .aifOpened
    pure 0

/-- The branch of `session_obj_sess_aif_connect` for `aif_state == true`. -/
def aifConnectBody (s i openedCount : ℕ) : AgmM AifConnectExit := do
  let sess ← getSess s
  match sess.state with
  | .sessionOpened => do
      let ret ← hotConnect s i openedCount
      pure (.done ret)
  | .sessionPrepared | .sessionStopped => do
      let ret ← hotConnect s i openedCount
      if ret ≠ 0 then pure (.done ret) else
      let ret ← sessionPrepare s
      if ret ≠ 0 then pure (.unwind ret i (openedCount + 1)) else pure (.done 0)
  | .sessionStarted => do
      let ret ← hotConnect s i openedCount
      if ret ≠ 0 then pure (.done ret) else
      let ret ← sessionPrepare s
      if ret ≠ 0 then pure (.unwind ret i (openedCount + 1)) else
      let ret ← sessionStart s
      if ret ≠ 0 then pure (.unwind ret i (openedCount + 1)) else pure (.done 0)
  | .sessionClosed => do
      setAifState s i .aifOpen
      pure (.done 0)

/-- The branch of `session_obj_sess_aif_connect` for `aif_state == false`. -/
def aifDisconnectBody (s i openedCount : ℕ) : AgmM ℤ := do
  let sess ← getSess s
  setAifState s i .aifClose
  let ret ← (if sess.state = .sessionClosed then pure 0
    else sessionDisconnectAif s i openedCount)
  if ret ≠ 0 then pure ret
  else do
    setAifState s i .aifClosed
    pure 0

/-- The requests refused with `-EALREADY`. -/
def aifAlready (st : AifState) (connect : Bool) : Bool :=
  if connect then decide (AifState.aifOpened.toNat < st.toNat)
  else decide (st.toNat < AifState.aifOpen.toNat)

/-- Everything before the labels. -/
def aifConnectSteps (s aif : ℕ) (connect : Bool) : AgmM AifConnectExit := do
  let r ← aifObjGet s aif
  if r.1 ≠ 0 then pure (.done r.1) else
  let i := r.2
  let obj ← getAif s i
  if aifAlready obj.state connect then pure (.done (-EALREADY)) else
  let sess ← getSess s
  if connect then aifConnectBody s i (openedCount sess)
  else do
    let ret ← aifDisconnectBody s i (openedCount sess)
    pure (.done ret)

/-- `session_obj_sess_aif_connect`. -/
def sessionObjSessAifConnect (s aif : ℕ) (connect : Bool) : AgmM ℤ := do
  let exit ← aifConnectSteps s aif connect
  match exit with
  | .done ret => pure ret
  | .unwind ret i count => do
      let _ ← sessionDisconnectAif s i count
      pure ret

/-! ### Opening -/

/-- The loopback step of `session_obj_open`. -/
def openLoopback (s : ℕ) : AgmM ℤ := do
  let sess ← getSess s
  if sess.loopbackState then sessionSetLoopback s sess.loopbackSessId sess.loopbackState
  else pure 0

/-- The echo reference step of `session_obj_open`. -/
def openEcRef (s : ℕ) : AgmM ℤ := do
  let sess ← getSess s
  if sess.ecRefState then sessionSetEcRef s sess.ecRefAifId sess.ecRefState
  else pure 0

/-- The two edge steps of `session_obj_open`. -/
def openEdges (s : ℕ) : AgmM ℤ := do
  let ret ← openLoopback s
  if ret ≠ 0 then pure ret else openEcRef s

/-- `session_obj_open` of a session that is closed. -/
def openClosedSession (s : ℕ) : AgmM ℤ := do
  let ret ← sessionOpenWithFirstDevice s
  if ret ≠ 0 then pure ret else
  let ret ← sessionConnectReminderDevices s
  if ret ≠ 0 then pure ret else
  let ret ← openEdges s
  if ret ≠ 0 then pure ret
  else do
    modifySess s fun sess => { sess with state := .sessionOpened }
    pure 0

/-- `session_obj_open`. -/
def sessionObjOpen (s : ℕ) : AgmM ℤ := do
  let ret ← sessionObjGet s
  if ret ≠ 0 then pure ret else
  let sess ← getSess s
  if sess.state ≠ .sessionClosed then pure (-EALREADY) else openClosedSession s

/-! ### Edges -/

/-- `session_obj_set_loopback`. -/
def sessionObjSetLoopback (s pb : ℕ) (state : Bool) : AgmM ℤ := do
  let sess ← getSess s
  if pb = sess.loopbackSessId ∧ state = sess.loopbackState then pure (-EALREADY) else
  let ret ← (if sess.state = .sessionClosed then pure 0
    else sessionSetLoopback s (if state then pb else sess.loopbackSessId) state)
  if ret ≠ 0 then pure ret
  else do
    modifySess s fun sess => { sess with loopbackSessId := pb, loopbackState := state }
    pure 0

/-- `session_obj_set_ec_ref`. -/
def sessionObjSetEcRef (s aif : ℕ) (state : Bool) : AgmM ℤ := do
  let sess ← getSess s
  if aif = sess.ecRefAifId ∧ state = sess.ecRefState then pure (-EALREADY) else
  let ret ← (if sess.state = .sessionClosed then pure 0
    else sessionSetEcRef s (if state then aif else sess.ecRefAifId) state)
  if ret ≠ 0 then pure ret
  else do
    modifySess s fun sess => { sess with ecRefAifId := aif, ecRefState := state }
    pure 0

/-! ### Parameters and metadata -/

/-- The common start of the calls that name an interface. -/
def withAif (s aif : ℕ) (m : ℕ → AgmM ℤ) : AgmM ℤ := do
  let r ← aifObjGet s aif
  if r.1 ≠ 0 then pure r.1 else m r.2

/-- `session_obj_set_sess_metadata`: the old value is freed before the new one is decoded. -/
def sessionObjSetSessMetadata (s : ℕ) (buf : Payload) : AgmM ℤ := do
  let r ← env (metadataCopy {} buf)
  modifySess s fun sess => { sess with sessMeta := r.2 }
  pure r.1

/-- `session_obj_set_sess_params`: an open session sends the payload and keeps nothing. -/
def sessionObjSetSessParams (s : ℕ) (payload : Payload) : AgmM ℤ := do
  let block ← env calloc
  if !block then do
    modifySess s fun sess => { sess with params := none }
    pure (-EINVAL)
  else do
    modifySess s fun sess => { sess with params := some payload }
    let sess ← getSess s
    if sess.state ≠ .sessionClosed then do
      let ret ← graphSetConfig sess.graph (.session s) payload
      modifySess s fun sess => { sess with params := none }
      pure ret
    else pure 0

/-- `session_obj_set_sess_aif_params`: an open interface of an open session is sent the payload
and keeps nothing. -/
def sessionObjSetSessAifParams (s aif : ℕ) (payload : Payload) : AgmM ℤ := withAif s aif fun i => do
  let block ← env calloc
  if !block then do
    modifyAif s i fun a => { a with params := none }
    pure (-EINVAL)
  else do
    modifyAif s i fun a => { a with params := some payload }
    let sess ← getSess s
    let obj ← getAif s i
    if sess.state ≠ .sessionClosed ∧ obj.state.isOpened then do
      let ret ← graphSetConfig sess.graph (.aif s i) payload
      modifyAif s i fun a => { a with params := none }
      pure ret
    else pure 0

/-- `session_obj_set_sess_aif_params_with_tag`.  Both conditions have to hold for the request to
be refused. -/
def sessionObjSetSessAifParamsWithTag (s aif tag : ℕ) (tkv : List KeyValue) : AgmM ℤ :=
    withAif s aif fun i => do
  let sess ← getSess s
  let obj ← getAif s i
  if sess.state = .sessionClosed ∧ !obj.state.isOpened then pure (-EINVAL) else
  let merged ← mergeAif s i
  match merged with
  | none => pure (-ENOMEM)
  | some md => graphSetConfigWithTag sess.graph md.gkv tag tkv

/-- `session_obj_set_sess_aif_cal`. -/
def sessionObjSetSessAifCal (s aif : ℕ) (ckv : List KeyValue) : AgmM ℤ := withAif s aif fun i => do
  let sess ← getSess s
  let obj ← getAif s i
  if sess.state = .sessionClosed ∨ !obj.state.isOpened then pure (-EINVAL) else
  let sessMeta ← env (metadataUpdateCal sess.sessMeta ckv)
  modifySess s fun sess => { sess with sessMeta := sessMeta }
  let aifMeta ← env (metadataUpdateCal obj.sessAifMeta ckv)
  modifyAif s i fun a => { a with sessAifMeta := aifMeta }
  match obj.devObj with
  | none => Prog.fault (.crash .nullDeref)
  | some d =>
      let dev ← Prog.gets fun w => w.dev d
      let devMeta ← env (metadataUpdateCal dev.metadata ckv)
      Prog.modify fun w =>
        { w with dev := Function.update w.dev d { w.dev d with metadata := devMeta } }
      let merged ← mergeAif s i
      match merged with
      | none => pure (-ENOMEM)
      | some md => graphSetCal sess.graph md

/-- `session_obj_set_sess_aif_metadata`. -/
def sessionObjSetSessAifMetadata (s aif : ℕ) (buf : Payload) : AgmM ℤ := withAif s aif fun i => do
  let md ← env (metadataCopy {} buf)
  modifyAif s i fun a => { a with sessAifMeta := md.2 }
  pure md.1

/-- `session_obj_get_sess_params`. -/
def sessionObjGetSessParams (s size : ℕ) : AgmM ℤ := do
  let sess ← getSess s
  if sess.state ≠ .sessionClosed then graphGetConfig sess.graph size else pure 0

/-- `session_obj_get_tag_with_module_info`. -/
def sessionObjGetTagWithModuleInfo (s aif : ℕ) : AgmM ℤ := withAif s aif fun i => do
  let merged ← mergeAif s i
  match merged with
  | none => pure (-ENOMEM)
  | some md => graphGetTagsWithModuleInfo md.gkv

/-- `session_obj_register_cb`; without a callback the matching registrations are removed. -/
def sessionObjRegisterCb (s : ℕ) (cb : Option ℕ) (evt : EventType) (client : ℕ) : AgmM ℤ := do
  let block ← env calloc
  if !block then pure (-ENOMEM)
  else do
    match cb with
    | some cb =>
        modifySess s fun sess => { sess with cbPool := sess.cbPool ++ [⟨cb, evt, client⟩] }
    | none =>
        modifySess s fun sess =>
          { sess with cbPool :=
              sess.cbPool.filter fun c => !decide (c.evtType = evt ∧ c.clientData = client) }
    pure 0

/-- `session_obj_set_config`. -/
def sessionObjSetConfig (s : ℕ) (stream : SessionConfig) (media : MediaConfig)
    (buf : BufferConfig) : AgmM ℤ := do
  modifySess s fun sess =>
    { sess with streamConfig := stream, mediaConfig := media, bufferConfig := buf }
  pure 0

/-! ### Calls passed on to the graph -/

/-- The session calls that refuse a closed session and otherwise end in one call on the graph. -/
def sessionObjGraphCall (s : ℕ) (call : Option ℕ → AgmM ℤ) : AgmM ℤ := do
  let sess ← getSess s
  if sess.state = .sessionClosed then pure (-EINVAL) else call sess.graph

/-- The session calls that want a started session and otherwise end in one call on the graph. -/
def sessionObjStartedCall (s : ℕ) (call : Option ℕ → AgmM ℤ) : AgmM ℤ := do
  let sess ← getSess s
  if sess.state ≠ .sessionStarted then pure (-EINVAL) else call sess.graph

def sessionObjRead (s size : ℕ) : AgmM ℤ := sessionObjGraphCall s fun g => graphRead g size
def sessionObjWrite (s size : ℕ) : AgmM ℤ := sessionObjGraphCall s fun g => graphWrite g size
def sessionObjEos (s : ℕ) : AgmM ℤ := sessionObjGraphCall s graphEos
def sessionObjGetTimestamp (s : ℕ) : AgmM ℤ := sessionObjGraphCall s graphGetSessionTime
def sessionObjGetSessBufInfo (s : ℕ) (dataBuf posBuf : Bool) : AgmM ℤ :=
  sessionObjGraphCall s fun g => graphGetBufInfo g dataBuf posBuf
def sessionObjPause (s : ℕ) : AgmM ℤ := sessionObjStartedCall s graphPause
def sessionObjBufferTimestamp (s : ℕ) : AgmM ℤ := sessionObjStartedCall s graphGetBufferTimestamp

/-- `session_obj_resume` looks at no state. -/
def sessionObjResume (s : ℕ) : AgmM ℤ := do
  let sess ← getSess s
  graphResume sess.graph

/-- `session_obj_hw_processed_buff_cnt`; the graph layer answers with a constant. -/
def sessionObjHwProcessedBuffCnt (s : ℕ) : AgmM ℤ :=
  sessionObjGraphCall s fun g => pure (if g = none then 0 else 2)

/-! ### The calls -/

/-- The calls of the service: those of a session and the setters of an interface's device. -/
inductive Op where
  | open (s : ℕ)
  | close (s : ℕ)
  | prepare (s : ℕ)
  | start (s : ℕ)
  | stop (s : ℕ)
  | aifConnect (s aif : ℕ) (connect : Bool)
  | setLoopback (s pb : ℕ) (state : Bool)
  | setEcRef (s aif : ℕ) (state : Bool)
  | setSessParams (s : ℕ) (payload : Payload)
  | setSessAifParams (s aif : ℕ) (payload : Payload)
  | setSessAifParamsWithTag (s aif tag : ℕ) (tkv : List KeyValue)
  | setSessAifCal (s aif : ℕ) (ckv : List KeyValue)
  | setSessAifMetadata (s aif : ℕ) (buf : Payload)
  | getTagWithModuleInfo (s aif : ℕ)
  | setSessMetadata (s : ℕ) (buf : Payload)
  | getSessParams (s size : ℕ)
  | registerCb (s : ℕ) (cb : Option ℕ) (evt : EventType) (client : ℕ)
  | setConfig (s : ℕ) (stream : SessionConfig) (media : MediaConfig) (buf : BufferConfig)
  | pause (s : ℕ)
  | resume (s : ℕ)
  | read (s size : ℕ)
  | write (s size : ℕ)
  | eos (s : ℕ)
  | hwProcessedBuffCnt (s : ℕ)
  | getTimestamp (s : ℕ)
  | bufferTimestamp (s : ℕ)
  | getSessBufInfo (s : ℕ) (dataBuf posBuf : Bool)
  | aifSetMetadata (aif : ℕ) (buf : Payload)
  | aifSetMediaConfig (aif : ℕ) (cfg : MediaConfig)
  | aifSetParams (aif : ℕ) (payload : Payload)

/-- A call made through a session handle: without a session the handle is refused. -/
def withHandle (s : ℕ) (m : AgmM ℤ) : AgmM ℤ := do
  let pool ← Prog.gets World.pool
  if s ∈ pool then m else pure (-EINVAL)

/-- A call made with a session id: the session is created when it does not exist. -/
def withId (s : ℕ) (m : AgmM ℤ) : AgmM ℤ := do
  let ret ← sessionObjGet s
  if ret ≠ 0 then pure ret else m

/-- A call made on the device of an interface. -/
def withDevice (aif : ℕ) (m : DevM ℤ) : AgmM ℤ := do
  let dev ← deviceGetObj aif
  if dev.1 ≠ 0 then pure dev.1 else onDevice dev.2 m

/-- What a call does. -/
def Op.run : Op → AgmM ℤ
  | .open s => sessionObjOpen s
  | .close s => withHandle s (sessionClose s)
  | .prepare s => withHandle s (sessionPrepare s)
  | .start s => withHandle s (sessionStart s)
  | .stop s => withHandle s (sessionStop s)
  | .aifConnect s aif connect => withId s (sessionObjSessAifConnect s aif connect)
  | .setLoopback s pb state => withId s (sessionObjSetLoopback s pb state)
  | .setEcRef s aif state => withId s (sessionObjSetEcRef s aif state)
  | .setSessParams s payload => withId s (sessionObjSetSessParams s payload)
  | .setSessAifParams s aif payload => withId s (sessionObjSetSessAifParams s aif payload)
  | .setSessAifParamsWithTag s aif tag tkv =>
      withId s (sessionObjSetSessAifParamsWithTag s aif tag tkv)
  | .setSessAifCal s aif ckv => withId s (sessionObjSetSessAifCal s aif ckv)
  | .setSessAifMetadata s aif buf => withId s (sessionObjSetSessAifMetadata s aif buf)
  | .getTagWithModuleInfo s aif => withId s (sessionObjGetTagWithModuleInfo s aif)
  | .setSessMetadata s buf => withId s (sessionObjSetSessMetadata s buf)
  | .getSessParams s size => withId s (sessionObjGetSessParams s size)
  | .registerCb s cb evt client => withId s (sessionObjRegisterCb s cb evt client)
  | .setConfig s stream media buf => withHandle s (sessionObjSetConfig s stream media buf)
  | .pause s => withHandle s (sessionObjPause s)
  | .resume s => withHandle s (sessionObjResume s)
  | .read s size => withHandle s (sessionObjRead s size)
  | .write s size => withHandle s (sessionObjWrite s size)
  | .eos s => withHandle s (sessionObjEos s)
  | .hwProcessedBuffCnt s => withHandle s (sessionObjHwProcessedBuffCnt s)
  | .getTimestamp s => withHandle s (sessionObjGetTimestamp s)
  | .bufferTimestamp s => withId s (sessionObjBufferTimestamp s)
  | .getSessBufInfo s dataBuf posBuf => withId s (sessionObjGetSessBufInfo s dataBuf posBuf)
  | .aifSetMetadata aif buf => withDevice aif (deviceSetMetadata buf)
  | .aifSetMediaConfig aif cfg => withDevice aif (deviceSetMediaConfig cfg)
  | .aifSetParams aif payload => withDevice aif (deviceSetParams payload)

/-- A call with the results of the external calls made during it. -/
structure Call where
  op : Op
  ext : List Answer

/-- Run a call. -/
def exec (c : Call) : AgmM ℤ := do
  Prog.modify fun w => { w with ext := c.ext }
  c.op.run

/-- The service right after its initialisation: no session, and devices nobody has used. -/
structure Initial (w : World) : Prop where
  pool : w.pool = []
  idle : ∀ d, (w.dev d).refcnt = {} ∧ (w.dev d).state = .devClosed ∧ (w.dev d).trace = []
  heap : ∀ g, w.heap g = none
  configs : w.configs = []
  edges : w.edges = []

/-- The static array `stream_module_list`. -/
def streamModuleList : List ModuleInfo :=
  [{ tag := .streamPcmEncoder, configure := some .outputMediaFormat },
    { tag := .streamPcmDecoder, configure := some .outputMediaFormat },
    { tag := .streamPlaceholderDecoder, configure := some .placeholderDec },
    { tag := .streamPcmConverter, configure := some .outputMediaFormat },
    { tag := .streamInputMediaFormat, configure := some .sharedMemEp },
    { tag := .pause },
    { tag := .streamSpr, configure := some .spr }]

/-- The static array `hw_ep_module`. -/
def hwEpModule : List ModuleInfo :=
  [{ tag := .deviceHwEndpointRx, configure := some .hwEp },
    { tag := .deviceHwEndpointTx, configure := some .hwEp }]

/-- A service that was just started on a card with `num` interfaces. -/
def startUp (num : ℕ) : World where
  pool := []
  sess := fun _ => {}
  dev := fun _ => {}
  numAudioIntfs := num
  pastEnd := none
  heap := fun _ => none
  nextGraph := 0
  mem := { streamModuleList := streamModuleList, hwEpModule := hwEpModule }
  ext := []
  configs := []
  edges := []

/-- External calls that succeed `n` times and then fail `m` times. -/
def failAfter (n m : ℕ) : List Answer :=
  List.replicate n ({} : Answer) ++ List.replicate m ({ code := 1 } : Answer)

theorem initial_startUp (num : ℕ) : Initial (startUp num) :=
  ⟨rfl, fun _ => ⟨rfl, rfl, rfl⟩, fun _ => rfl, rfl, rfl⟩

end Agm
