import Agm.Device
import Agm.Formats

/-! # Graphs (`graph.c`)

A graph object wraps a GSL graph handle, the list of modules that the service configures
itself, and a state.  The functions of `graph.c` read the session and the devices they were
given but write only the graph object, the static module arrays and GSL; so they run on a
`GraphSt` and take the rest as a read-only `View`.

`onGraph` runs such a function on a graph of the service.  It performs the two checks common to
all of them: a `NULL` graph is refused with `-EINVAL`, and a graph that was already closed is a
fault.  Since the function works on the object alone, a graph stays open or closed whatever the
function does (`onGraph_quiet`); only `graphOpen` and `graphClose` change that. -/

namespace Agm

/-! ### States of the graph layer -/

/-- The graph layer without a graph object. -/
structure MemState where
  mem : GraphMem
  ext : List Answer

abbrev MemM := Prog MemState Crash

/-- One graph object with the rest of the graph layer. -/
structure GraphSt where
  obj : GraphObj
  mem : GraphMem
  ext : List Answer

abbrev GraphM := Prog GraphSt Crash

/-- What the graph layer reads of sessions and devices. -/
structure View where
  sess : ℕ → SessionObj
  dev : ℕ → DeviceObj

namespace MemM

def call {α : Type} (m : EnvM α) : MemM α :=
  Prog.zoom MemState.ext (fun e t => { t with ext := e }) id m

def modifyMem (f : GraphMem → GraphMem) : MemM Unit :=
  Prog.modify fun t => { t with mem := f t.mem }

end MemM

namespace GraphM

def ofMem {α : Type} (m : MemM α) : GraphM α :=
  Prog.zoom (fun t => ⟨t.mem, t.ext⟩) (fun u t => { t with mem := u.mem, ext := u.ext }) id m

def obj : GraphM GraphObj := Prog.gets GraphSt.obj

def modifyObj (f : GraphObj → GraphObj) : GraphM Unit :=
  Prog.modify fun t => { t with obj := f t.obj }

end GraphM

/-- A request to GSL. -/
def gsl (handle : Option ℕ) (cmd : GslCmd) : MemM Answer := do
  let a ← MemM.call answer
  MemM.modifyMem fun m => { m with calls := ⟨handle, cmd, a.code⟩ :: m.calls }
  pure a

/-- A request to GSL on the graph's handle. -/
def ioctl (cmd : GslCmd) : GraphM Answer := do
  let g ← GraphM.obj
  GraphM.ofMem (gsl (some g.handle) cmd)

/-! ### Opening -/

/-- `get_tags_with_module_info`.  The allocation in between is not checked, so the second
component can be `NULL` with a zero code; the code is converted twice. -/
def getTagsWithModuleInfo (gkv : KeyVector) : MemM (ℤ × Option (List TagEntry)) := do
  let size ← gsl none (.getTags gkv)
  if size.code ≠ 0 then pure (arErrGetLnxErrCode (arErrGetLnxErrCode size.code), none)
  else
    let block ← MemM.call calloc
    let info ← gsl none (.getTags gkv)
    if info.code ≠ 0 then pure (arErrGetLnxErrCode (arErrGetLnxErrCode info.code), none)
    else pure (0, if block then some info.tags else none)

/-- `add_to_list`: one list node for each of `n` modules. -/
def addToList : ℕ → MemM ℤ
  | 0 => pure 0
  | n + 1 => do
      let block ← MemM.call calloc
      if !block then pure (-ENOMEM) else addToList n

/-- `ADD_MODULE`: append a copy of a module, unless there is no memory for it. -/
def addModule (mod : ModuleInfo) (dev : Option ℕ) (mods : List ModuleInfo) :
    MemM (List ModuleInfo) := do
  let block ← MemM.call calloc
  let copy := match dev with
    | none => mod
    | some d => { mod with devObj := some d }
  pure (if block then mods ++ [copy] else mods)

/-- A private copy of a key vector: two allocations. -/
def copyGkv (gkv : KeyVector) : MemM (Option GkvCopy) := do
  let block ← MemM.call calloc
  if !block then pure none else
  let kvBlock ← MemM.call calloc
  if !kvBlock then pure none else
  let mem ← Prog.gets MemState.mem
  MemM.modifyMem fun m => { m with nextGkv := m.nextGkv + 1 }
  pure (some ⟨mem.nextGkv, gkv⟩)

/-- The zeroed module read outside a static array. -/
def noModule : ModuleInfo := { tag := .other 0 }

/-- Search a list of positions of a static array for a tag. -/
def findTag (mods : List ModuleInfo) (nodes : List ℕ) (tag : Tag) : Option ℕ :=
  nodes.find? fun k => decide ((mods.getD k noModule).tag = tag)

/-- How the loop over the tags ends: with the modules found, or at `free_graph_obj` with a
code. -/
inductive TagsExit where
  | found (mods : List ModuleInfo)
  | free (ret : ℤ)

/-- The loop of `graph_open` over the tags.  `sessNodes` and `hwNodes` are the modules not met
so far.  A tag with more than one module leaves at `free_graph_obj` with the code still `0`; that
there is one is not tested. -/
def openTags (md : MetaData) (dev : Option ℕ) :
    List TagEntry → List ℕ → List ℕ → List ModuleInfo → MemM TagsExit
  | [], _, _, mods => pure (.found mods)
  | e :: es, sessNodes, hwNodes, mods => do
      let mem ← Prog.gets MemState.mem
      match findTag mem.streamModuleList sessNodes e.tag with
      | some k =>
          if 1 < e.numModules then pure (.free 0) else
          match e.moduleEntry es with
          | none => Prog.fault .outOfBounds
          | some ids =>
              let mod := { mem.streamModuleList.getD k noModule with
                miid := ids.moduleIid, mid := ids.moduleId }
              MemM.modifyMem fun m => { m with streamModuleList := m.streamModuleList.set k mod }
              let mods ← addModule mod none mods
              openTags md dev es (sessNodes.erase k) hwNodes mods
      | none =>
          match dev, findTag mem.hwEpModule hwNodes e.tag with
          | some d, some k =>
              if 1 < e.numModules then pure (.free 0) else
              match e.moduleEntry es with
              | none => Prog.fault .outOfBounds
              | some ids =>
                  let mod := { mem.hwEpModule.getD k noModule with
                    miid := ids.moduleIid, mid := ids.moduleId }
                  MemM.modifyMem fun m => { m with hwEpModule := m.hwEpModule.set k mod }
                  let gkv ← copyGkv md.gkv
                  match gkv with
                  | none => pure (.free (-ENOMEM))
                  | some copy =>
                      let mod := { mod with gkv := some copy }
                      MemM.modifyMem fun m => { m with hwEpModule := m.hwEpModule.set k mod }
                      let mods ← addModule mod (some d) mods
                      openTags md dev es sessNodes (hwNodes.erase k) mods
          | _, _ => openTags md dev es sessNodes hwNodes mods

/-- The part of `graph_open` after the module list: open the GSL graph and register for its
events. -/
def openGsl (md : MetaData) (s : ℕ) (mods : List ModuleInfo) : MemM (ℤ × Option GraphObj) := do
  let mem ← Prog.gets MemState.mem
  let handle := mem.nextHandle
  MemM.modifyMem fun m => { m with nextHandle := m.nextHandle + 1 }
  let opened ← gsl (some handle) (.graphOpen md.gkv md.ckv)
  if opened.code ≠ 0 then pure (arErrGetLnxErrCode opened.code, none) else
  let registered ← gsl (some handle) .registerEventCb
  if registered.code ≠ 0 then do
    let _ ← gsl (some handle) .graphClose
    pure (arErrGetLnxErrCode registered.code, none)
  else
    pure (0, some
      { state := .opened, handle := handle, taggedModList := mods, sessObj := some s })

/-- `graph_open`: the code and the graph object stored in `*gph_obj`, if one was stored. -/
def graphOpenBody (md : MetaData) (s : ℕ) (dev : Option ℕ) : MemM (ℤ × Option GraphObj) := do
  let block ← MemM.call calloc
  if !block then pure (-ENOMEM, none) else
  let info ← getTagsWithModuleInfo md.gkv
  if info.1 ≠ 0 then pure (info.1, none) else
  let mem ← Prog.gets MemState.mem
  let ret ← addToList mem.streamModuleList.length
  if ret ≠ 0 then pure (ret, none) else
  let ret ← addToList mem.hwEpModule.length
  if ret ≠ 0 then pure (ret, none) else
  match info.2 with
  | none => Prog.fault .nullDeref
  | some tags =>
      let exit ← openTags md dev tags (List.range mem.streamModuleList.length)
        (List.range mem.hwEpModule.length) []
      match exit with
      | .free ret => pure (ret, none)
      | .found mods => openGsl md s mods

/-! ### Configuring -/

/-- `configure_spr`: name every RX endpoint of the graph to the SPR module.  The code is that of
the last one. -/
def configureSpr (spr : ModuleInfo) : GraphM ℤ := do
  GraphM.modifyObj fun g => { g with sprMiid := spr.miid }
  let block ← GraphM.ofMem (MemM.call calloc)
  if !block then pure (-ENOMEM) else
  let g ← GraphM.obj
  Prog.forAll (fun (mod : ModuleInfo) (ret : ℤ) =>
    if mod.tag = .deviceHwEndpointRx then do
      let a ← ioctl (.sprDelayPathEnd spr.miid mod.miid)
      pure (arErrGetLnxErrCode a.code)
    else pure ret) g.taggedModList 0

/-- A parameter of a module goes to GSL. -/
def sendParam (mod : ModuleInfo) (param : ModuleParam) : GraphM ℤ := do
  let a ← ioctl (.configureModule mod param)
  pure (arErrGetLnxErrCode a.code)

/-- `configure_output_media_format`. -/
def sendOutputFormat (mod : ModuleInfo) (sess : SessionObj) : GraphM ℤ := do
  let payload ← GraphM.ofMem (MemM.call calloc)
  if !payload then pure (-ENOMEM) else
  match outputFormat sess with
  | none => pure (-EINVAL)
  | some fmt => sendParam mod (.outputFormat fmt)

/-- `configure_pcm_shared_mem_ep`. -/
def sendPcmFormat (mod : ModuleInfo) (sess : SessionObj) : GraphM ℤ := do
  let payload ← GraphM.ofMem (MemM.call calloc)
  if !payload then pure (-ENOMEM) else
  sendParam mod (.pcmFormat (pcmFormat sess))

/-- `configure_compress_shared_mem_ep`: nothing is sent for a format that is bypassed or unknown.  The
payload is written without a look at its address. -/
def sendCodecFormat (mod : ModuleInfo) (sess : SessionObj) : GraphM ℤ :=
  match sharedFmt sess.mediaConfig.format with
  | none => pure 0
  | some fmt => do
      let payload ← GraphM.ofMem (MemM.call calloc)
      if !payload then Prog.fault .nullDeref else
      sendParam mod (.codecFormat fmt (fmt.struct sess.streamConfig.codec))

/-- `configure_shared_mem_ep`. -/
def sendMediaFormat (mod : ModuleInfo) (sess : SessionObj) : GraphM ℤ :=
  if isFormatPcm sess.mediaConfig.format then sendPcmFormat mod sess else sendCodecFormat mod sess

/-- `configure_placeholder_dec`: nothing is sent for an unknown format.  The tag key vector is written
without a look at its address. -/
def sendRealId (mod : ModuleInfo) (sess : SessionObj) : GraphM ℤ :=
  match realFmtId sess.mediaConfig.format with
  | none => pure 0
  | some id => do
      let kvp ← GraphM.ofMem (MemM.call calloc)
      if !kvp then Prog.fault .nullDeref else
      let ret ← sendParam mod (.realId id)
      if ret ≠ 0 then pure ret else sendOutputFormat mod sess

/-- `mod->configure(mod, graph_obj)`. -/
def configureModule (v : View) (mod : ModuleInfo) (conf : Configure) : GraphM ℤ := do
  let g ← GraphM.obj
  let sess := v.sess (g.sessObj.getD 0)
  match conf with
  | .outputMediaFormat => sendOutputFormat mod sess
  | .placeholderDec => sendRealId mod sess
  | .sharedMemEp => sendMediaFormat mod sess
  | .spr => configureSpr mod
  | .hwEp => sendParam mod .endpoint

/-- `configure_buffer_params`. -/
def configureBufferParams (sess : SessionObj) : GraphM ℤ := do
  let g ← GraphM.obj
  if g.isConfigBufParamsDone then pure 0 else
  let mode := sess.streamConfig.dataMode
  let buf := sess.bufferConfig
  let params : BufParams :=
    { buffSize := if mode = .pushPull then buf.count * buf.size % 2 ^ 32 else buf.size % 2 ^ 32
      numBuffs := if mode = .pushPull then 1 else buf.count
      startThreshold := sess.streamConfig.startThreshold
      stopThreshold := sess.streamConfig.stopThreshold
      attributes := match mode with
        | .nonBlocking => .nonBlocking
        | .pushPull => .pushPull
        | _ => .blocking }
  let a ← ioctl (.configureBufs sess.streamConfig.dir params)
  if a.code ≠ 0 then pure (arErrGetLnxErrCode a.code)
  else do
    GraphM.modifyObj fun g => { g with bufConfig := params, isConfigBufParamsDone := true }
    pure 0

/-- Mark a module of the list as configured or not. -/
def setConfigured (k : ℕ) (b : Bool) : GraphM Unit :=
  GraphM.modifyObj fun g =>
    { g with taggedModList := g.taggedModList.modify k fun m => { m with isConfigured := b } }

/-- A hardware endpoint whose device is already started is left alone. -/
def endpointStarted (v : View) (mod : ModuleInfo) : Bool :=
  match mod.devObj with
  | none => false
  | some d =>
      decide (mod.tag = .deviceHwEndpointRx ∨ mod.tag = .deviceHwEndpointTx) &&
        decide (0 < (v.dev d).refcnt.start)

/-- The body of the loop of `graph_prepare` for the module at position `k`. -/
def prepareModule (v : View) (stream : SessionConfig) (k : ℕ) : GraphM ℤ := do
  let g ← GraphM.obj
  let mod := g.taggedModList.getD k noModule
  if mod.isConfigured then pure 0
  else if mod.tag = .streamInputMediaFormat ∧ stream.isHostless then pure (-EINVAL)
  else if (mod.tag = .streamPcmDecoder ∧ stream.dir = .tx) ∨
      (mod.tag = .streamPcmEncoder ∧ stream.dir = .rx) then pure (-EINVAL)
  else
    match mod.configure with
    | none => pure 0
    | some conf =>
        if endpointStarted v mod then do
          setConfigured k true
          pure 0
        else
          let ret ← configureModule v mod conf
          if ret ≠ 0 then pure ret
          else do
            setConfigured k true
            pure 0

/-- `graph_prepare`. -/
def graphPrepareBody (v : View) : GraphM ℤ := do
  let g ← GraphM.obj
  match g.sessObj with
  | none => pure (-EINVAL)
  | some s =>
      let sess := v.sess s
      if g.state = .prepared then pure 0 else
      let ret ← Prog.forEach (prepareModule v sess.streamConfig) (List.range g.taggedModList.length)
      if ret ≠ 0 then pure ret else
      let ret ← (if sess.streamConfig.isHostless then pure 0 else configureBufferParams sess)
      if ret ≠ 0 then pure ret else
      let a ← ioctl .prepare
      if a.code ≠ 0 then pure (arErrGetLnxErrCode a.code)
      else do
        GraphM.modifyObj fun g => { g with state := .prepared }
        pure 0

/-! ### Running -/

/-- `graph_start`. -/
def graphStartBody : GraphM ℤ := do
  let a ← ioctl .start
  if a.code ≠ 0 then pure (arErrGetLnxErrCode a.code)
  else do
    GraphM.modifyObj fun g => { g with state := .started }
    pure 0

/-- `graph_stop`: with metadata only the named subgraphs are stopped and the state stays. -/
def graphStopBody (md : Option MetaData) : GraphM ℤ := do
  let g ← GraphM.obj
  if g.state = .stopped then pure 0
  else if g.state ≠ .started then pure (-EINVAL)
  else
    match md with
    | some md => do
        let a ← ioctl (.stop (some (md.gkv, md.sgProps)))
        pure (arErrGetLnxErrCode a.code)
    | none => do
        let a ← ioctl (.stop none)
        GraphM.modifyObj fun g => { g with state := .stopped }
        pure (arErrGetLnxErrCode a.code)

/-- `graph_pause_resume`: the first pause module of the graph, if there is one. -/
def graphPauseResumeBody (pause : Bool) : GraphM ℤ := do
  let g ← GraphM.obj
  match g.taggedModList.find? fun m => decide (m.tag = .pause) with
  | none => pure 0
  | some mod =>
      let block ← GraphM.ofMem (MemM.call calloc)
      if !block then pure (-ENOMEM) else
      let a ← ioctl (.softPause mod.miid pause)
      pure (arErrGetLnxErrCode a.code)

/-- `graph_write`. -/
def graphWriteBody (size : ℕ) : GraphM ℤ := do
  let a ← ioctl (.write size)
  pure (arErrGetLnxErrCode a.code)

/-- `graph_read`. -/
def graphReadBody (size : ℕ) : GraphM ℤ := do
  let g ← GraphM.obj
  if g.state ≠ .started then pure (-EINVAL) else
  let a ← ioctl (.read size)
  GraphM.modifyObj fun g => { g with timestamp := a.time }
  pure (if a.code ≠ 0 ∨ a.size = 0 then arErrGetLnxErrCode a.code else a.code)

/-- `graph_eos`. -/
def graphEosBody : GraphM ℤ := do
  let a ← ioctl .eos
  pure (arErrGetLnxErrCode a.code)

/-! ### Parameters and queries -/

/-- `graph_set_config`. -/
def graphSetConfigBody (payload : Payload) : GraphM ℤ := do
  let a ← ioctl (.setCustomConfig payload)
  pure (arErrGetLnxErrCode a.code)

/-- `graph_get_config`. -/
def graphGetConfigBody (size : ℕ) : GraphM ℤ := do
  let a ← ioctl (.getCustomConfig size)
  pure (arErrGetLnxErrCode a.code)

/-- `graph_set_config_with_tag`. -/
def graphSetConfigWithTagBody (gkv : KeyVector) (tag : ℕ) (tkv : List KeyValue) : GraphM ℤ := do
  let a ← ioctl (.setConfig gkv tag tkv)
  pure (arErrGetLnxErrCode a.code)

/-- `graph_set_cal`. -/
def graphSetCalBody (md : MetaData) : GraphM ℤ := do
  let a ← ioctl (.setCal md.gkv md.ckv)
  pure (arErrGetLnxErrCode a.code)

/-- `graph_register_cb`. -/
def graphRegisterCbBody (clientData : ℕ) : GraphM ℤ := do
  GraphM.modifyObj fun g => { g with client := some clientData }
  pure 0

/-- `graph_get_session_time`: without an SPR module, or memory, the call succeeds and asks
nothing. -/
def graphGetSessionTimeBody : GraphM ℤ := do
  let g ← GraphM.obj
  if g.state ≠ .started then pure (-EINVAL)
  else if g.sprMiid = 0 then pure 0
  else
    let block ← GraphM.ofMem (MemM.call calloc)
    if !block then pure 0 else
    let a ← ioctl (.getSessionTime g.sprMiid)
    pure (arErrGetLnxErrCode a.code)

/-- `graph_get_buffer_timestamp`. -/
def graphGetBufferTimestampBody : GraphM ℤ := do
  let g ← GraphM.obj
  pure (if g.state ≠ .started then -EINVAL else 0)

/-- `graph_fill_buf_info`; the code of GSL is returned as it is. -/
def graphFillBufInfo (dir : Direction) (pos : Bool) : GraphM ℤ := do
  let info ← GraphM.ofMem (MemM.call calloc)
  if !info then pure (-ENOMEM) else
  let buffs ← GraphM.ofMem (MemM.call calloc)
  if !buffs then pure (-ENOMEM) else
  let a ← ioctl (.getBuffInfo dir pos)
  pure a.code

/-- `graph_get_buf_info` with the two bits of its flag. -/
def graphGetBufInfoBody (v : View) (dataBuf posBuf : Bool) : GraphM ℤ := do
  let g ← GraphM.obj
  match g.sessObj with
  | none => pure (-EINVAL)
  | some s =>
      let sess := v.sess s
      if sess.bufferConfig.count = 0 ∨ sess.bufferConfig.size = 0 then pure (-EINVAL) else
      let _ ← configureBufferParams sess
      let ret ← (if dataBuf then graphFillBufInfo sess.streamConfig.dir false else pure (-EINVAL))
      if posBuf then graphFillBufInfo sess.streamConfig.dir true else pure ret

/-! ### Changing the graph -/

/-- The static endpoint module for the direction of a device. -/
def endpointIndex (v : View) (d : ℕ) : ℕ :=
  match (v.dev d).hwEpDir with
  | .audioOutput => 0
  | .audioInput => 1

/-- The body of the configuration loop of `graph_add`; the SPR module is configured again for
the new device. -/
def addConfigureModule (v : View) (k : ℕ) : GraphM ℤ := do
  let g ← GraphM.obj
  let mod := g.taggedModList.getD k noModule
  if mod.isConfigured ∧ mod.tag ≠ .streamSpr then pure 0
  else if endpointStarted v mod then do
    setConfigured k true
    pure 0
  else
    match mod.configure with
    | none => pure 0
    | some conf =>
        let ret ← configureModule v mod conf
        if ret ≠ 0 then pure ret
        else do
          setConfigured k true
          pure 0

/-- The part of `graph_add` that enters the endpoint of a new device into the module list. -/
def addEndpoint (v : View) (md : MetaData) (d : ℕ) : GraphM ℤ := do
  let t ← Prog.gets GraphSt.mem
  let k := endpointIndex v d
  let mod := t.hwEpModule.getD k noModule
  let info ← GraphM.ofMem (gsl none (.getTaggedModuleInfo md.gkv mod.tag))
  if info.code ≠ 0 then pure (arErrGetLnxErrCode info.code) else
  let mod := { mod with miid := info.moduleIid, mid := info.moduleId }
  GraphM.ofMem (MemM.modifyMem fun m => { m with hwEpModule := m.hwEpModule.set k mod })
  let g ← GraphM.obj
  match g.taggedModList.findIdx? fun m => decide (m.miid = mod.miid) with
  | some k => do
      setConfigured k false
      pure 0
  | none =>
      let gkv ← GraphM.ofMem (copyGkv md.gkv)
      match gkv with
      | none => pure (-ENOMEM)
      | some copy => do
          let mod := { mod with gkv := some copy }
          GraphM.ofMem (MemM.modifyMem fun m => { m with hwEpModule := m.hwEpModule.set k mod })
          let mods ← GraphM.ofMem (addModule mod (some d) g.taggedModList)
          GraphM.modifyObj fun g => { g with taggedModList := mods }
          pure 0

/-- `graph_add`; without a device only the new path is added. -/
def graphAddBody (v : View) (md : MetaData) (dev : Option ℕ) : GraphM ℤ := do
  let g ← GraphM.obj
  if g.state = .closed then pure (-EINVAL) else
  let a ← ioctl (.addGraph md.gkv md.ckv)
  if a.code ≠ 0 then pure (arErrGetLnxErrCode a.code) else
  let ret ← (match dev with
    | none => pure 0
    | some d => addEndpoint v md d)
  if ret ≠ 0 then pure ret else
  let g ← GraphM.obj
  if g.state = .started ∨ g.state = .prepared then
    Prog.forEach (addConfigureModule v) (List.range g.taggedModList.length)
  else pure 0

/-- The body of the configuration loop of `graph_change`. -/
def changeConfigureModule (v : View) (k : ℕ) : GraphM ℤ := do
  let g ← GraphM.obj
  let mod := g.taggedModList.getD k noModule
  match mod.configure, mod.devObj with
  | some conf, some d =>
      if !mod.isConfigured ∧ (v.dev d).refcnt.start = 0 then do
        let ret ← configureModule v mod conf
        if ret ≠ 0 then pure ret
        else do
          setConfigured k true
          pure 0
      else pure 0
  | _, _ => pure 0

/-- The part of `graph_change` that replaces the endpoints of the module list by that of the new
device.  The copied module keeps the static entry's key vector until its own copy is made. -/
def changeEndpoint (v : View) (md : MetaData) (d : ℕ) : GraphM ℤ := do
  let t ← Prog.gets GraphSt.mem
  let mod := t.hwEpModule.getD (endpointIndex v d) noModule
  let info ← GraphM.ofMem (gsl none (.getTaggedModuleInfo md.gkv mod.tag))
  if info.code ≠ 0 then pure (arErrGetLnxErrCode info.code) else
  let g ← GraphM.obj
  match g.taggedModList.findIdx? fun m => decide (m.miid = info.moduleIid) with
  | some k => do
      setConfigured k false
      pure 0
  | none => do
      let kept := g.taggedModList.filter fun m =>
        !decide (m.tag = .deviceHwEndpointTx ∨ m.tag = .deviceHwEndpointRx)
      GraphM.modifyObj fun g => { g with taggedModList := kept }
      let block ← GraphM.ofMem (MemM.call calloc)
      if !block then pure (-ENOMEM) else
      let added := { mod with devObj := some d, miid := info.moduleIid, mid := info.moduleId }
      GraphM.modifyObj fun g => { g with taggedModList := kept ++ [added] }
      let gkv ← GraphM.ofMem (copyGkv md.gkv)
      match gkv with
      | none => pure (-ENOMEM)
      | some copy => do
          GraphM.modifyObj fun g =>
            { g with taggedModList := kept ++ [{ added with gkv := some copy }] }
          pure 0

/-- `graph_change`. -/
def graphChangeBody (v : View) (md : MetaData) (dev : Option ℕ) : GraphM ℤ := do
  let ret ← (match dev with
    | none => pure 0
    | some d => changeEndpoint v md d)
  if ret ≠ 0 then pure ret else
  let a ← ioctl (.changeGraph md.gkv md.ckv)
  if a.code ≠ 0 then pure (arErrGetLnxErrCode a.code) else
  let g ← GraphM.obj
  Prog.forEach (changeConfigureModule v) (List.range g.taggedModList.length)

/-- `graph_remove`. -/
def graphRemoveBody (md : MetaData) : GraphM ℤ := do
  let a ← ioctl (.removeGraph md.gkv)
  pure (arErrGetLnxErrCode a.code)

/-! ### Graphs of the service -/

/-- Run a function on the graph `g`, which must still be open. -/
def onLiveGraph (g : ℕ) (m : View → GraphM ℤ) : AgmM ℤ := fun w =>
  match w.heap g with
  | none => .error (.useAfterClose g)
  | some obj =>
      match m ⟨w.sess, w.dev⟩ ⟨obj, w.mem, w.ext⟩ with
      | .ok (ret, t) =>
          .ok (ret, { w with
            heap := Function.update w.heap g (some t.obj), mem := t.mem, ext := t.ext })
      | .error c => .error (.crash c)

/-- Run a function on a graph pointer. -/
def onGraph (g : Option ℕ) (m : View → GraphM ℤ) : AgmM ℤ :=
  match g with
  | none => pure (-EINVAL)
  | some g => onLiveGraph g m

/-- Run a function of the graph layer that has no graph object. -/
def onMem {α : Type} (m : MemM α) : AgmM α :=
  Prog.zoom (fun w => ⟨w.mem, w.ext⟩) (fun t w => { w with mem := t.mem, ext := t.ext })
    Fault.crash m

/-- `graph_open` for the graph pointer of session `s`. -/
def graphOpen (md : MetaData) (s : ℕ) (dev : Option ℕ) : AgmM ℤ := do
  let r ← onMem (graphOpenBody md s dev)
  match r.2 with
  | none => pure r.1
  | some obj => do
      Prog.modify fun w =>
        { w with
          heap := Function.update w.heap w.nextGraph (some obj)
          nextGraph := w.nextGraph + 1
          sess := Function.update w.sess s { w.sess s with graph := some w.nextGraph } }
      pure r.1

/-- `graph_close`: the object is freed whatever GSL says. -/
def graphClose (g : Option ℕ) : AgmM ℤ := do
  let ret ← onGraph g fun _ => do
    let a ← ioctl .graphClose
    pure (arErrGetLnxErrCode a.code)
  match g with
  | none => pure ret
  | some g => do
      Prog.modify fun w => { w with heap := Function.update w.heap g none }
      pure ret

def graphPrepare (g : Option ℕ) : AgmM ℤ := onGraph g graphPrepareBody
def graphStart (g : Option ℕ) : AgmM ℤ := onGraph g fun _ => graphStartBody
def graphStop (g : Option ℕ) (md : Option MetaData) : AgmM ℤ := onGraph g fun _ => graphStopBody md
def graphPause (g : Option ℕ) : AgmM ℤ := onGraph g fun _ => graphPauseResumeBody true
def graphResume (g : Option ℕ) : AgmM ℤ := onGraph g fun _ => graphPauseResumeBody false
def graphWrite (g : Option ℕ) (size : ℕ) : AgmM ℤ := onGraph g fun _ => graphWriteBody size
def graphRead (g : Option ℕ) (size : ℕ) : AgmM ℤ := onGraph g fun _ => graphReadBody size
def graphEos (g : Option ℕ) : AgmM ℤ := onGraph g fun _ => graphEosBody
def graphGetConfig (g : Option ℕ) (size : ℕ) : AgmM ℤ := onGraph g fun _ => graphGetConfigBody size
def graphGetSessionTime (g : Option ℕ) : AgmM ℤ := onGraph g fun _ => graphGetSessionTimeBody
def graphGetBufferTimestamp (g : Option ℕ) : AgmM ℤ :=
  onGraph g fun _ => graphGetBufferTimestampBody
def graphSetCal (g : Option ℕ) (md : MetaData) : AgmM ℤ := onGraph g fun _ => graphSetCalBody md
def graphSetConfigWithTag (g : Option ℕ) (gkv : KeyVector) (tag : ℕ) (tkv : List KeyValue) :
    AgmM ℤ := onGraph g fun _ => graphSetConfigWithTagBody gkv tag tkv
def graphRegisterCb (g : Option ℕ) (clientData : ℕ) : AgmM ℤ :=
  onGraph g fun _ => graphRegisterCbBody clientData
def graphAdd (g : Option ℕ) (md : MetaData) (dev : Option ℕ) : AgmM ℤ :=
  onGraph g fun v => graphAddBody v md dev
def graphChange (g : Option ℕ) (md : MetaData) (dev : Option ℕ) : AgmM ℤ :=
  onGraph g fun v => graphChangeBody v md dev
def graphRemove (g : Option ℕ) (md : MetaData) : AgmM ℤ := onGraph g fun _ => graphRemoveBody md

/-- `graph_get_buf_info` does not check its graph pointer. -/
def graphGetBufInfo (g : Option ℕ) (dataBuf posBuf : Bool) : AgmM ℤ :=
  match g with
  | none => Prog.fault (.crash .nullDeref)
  | some g => onLiveGraph g fun v => graphGetBufInfoBody v dataBuf posBuf

/-- `graph_set_config`, recorded with the place its payload was cached in. -/
def graphSetConfig (g : Option ℕ) (origin : Origin) (payload : Payload) : AgmM ℤ := do
  let ret ← onGraph g fun _ => graphSetConfigBody payload
  Prog.modify fun w => { w with configs := ⟨g, origin, payload, ret⟩ :: w.configs }
  pure ret

/-- `graph_get_tags_with_module_info`. -/
def graphGetTagsWithModuleInfo (gkv : KeyVector) : AgmM ℤ := do
  let a ← onMem (gsl none (.getTags gkv))
  pure (arErrGetLnxErrCode a.code)

end Agm
