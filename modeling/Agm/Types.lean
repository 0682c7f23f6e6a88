import Agm.Lib.Prog

/-! # The data model of the service

The structures of `session_obj.h`, `device.h`, `graph.h`, `graph_module.h` and `agm_priv.h`,
and the state `World` on which the service functions run.

* **Pointers.**  A `session_obj` is named by its session id (the pool holds one object per
  id), a `device_obj` by its index in `device_list`, a `graph_obj` by the number of the
  `graph_open` that stored it; `none` is `NULL`.  A freed graph is absent from `World.heap`, so
  that a later use of its number is visible as a fault.  An `aif` is named by its position in
  the session's pool, since entries are only ever appended.
* **External calls.**  `pcm_*`, `gsl_*` and `calloc` are not part of the service.  Every such
  call takes the next `Answer` of the list `ext`: a code (`0` is success) and the data GSL
  hands back.  A statement about every `ext` is a statement about arbitrary results.
* **Observations.**  `DeviceObj.trace`, `GraphMem.calls`, `World.configs` and `World.edges`
  record the calls made; no function of the service reads them. -/

namespace Agm

/-! ### Error codes -/

def EPERM : ℤ := 1
def EIO : ℤ := 5
def EAGAIN : ℤ := 11
def ENOMEM : ℤ := 12
def EBUSY : ℤ := 16
def ENODEV : ℤ := 19
def EINVAL : ℤ := 22
def ENOSPC : ℤ := 28
def EPIPE : ℤ := 32
def EBADR : ℤ := 53
def ENODATA : ℤ := 61
def EADV : ℤ := 68
def ENOPROTOOPT : ℤ := 92
def EOPNOTSUPP : ℤ := 95
def ETIMEDOUT : ℤ := 110
def EALREADY : ℤ := 114
def EINPROGRESS : ℤ := 115
def ECANCELED : ℤ := 125
def ENOTRECOVERABLE : ℤ := 131

/-- `ar_err_code_info`: the Linux code of each GSL code, from `AR_EOK` to `AR_ERR_MAX`. -/
def arErrCodeInfo : List ℤ :=
  [0, -ENOTRECOVERABLE, -EINVAL, -EOPNOTSUPP, -ENOPROTOOPT, -ENOTRECOVERABLE, -ENOTRECOVERABLE,
    -ENOSPC, -EBADR, -EALREADY, -EPERM, -EINPROGRESS, -EBUSY, -ECANCELED, -EAGAIN, -EAGAIN,
    -EAGAIN, -ENODATA, -ENOMEM, -ENODEV, -ENODEV, -ETIMEDOUT, -EADV]

/-- The argument is a `uint32_t`: a negative code reads as one beyond the table. -/
def arErrGetLnxErrCode (error : ℤ) : ℤ :=
  if error < 0 then -EADV else arErrCodeInfo.getD error.toNat (-EADV)

theorem arErrCodeInfo_ne_zero : ∀ c ∈ arErrCodeInfo.tail, c ≠ 0 := by decide

/-- Only success is reported as success. -/
theorem arErrGetLnxErrCode_eq_zero {error : ℤ} : arErrGetLnxErrCode error = 0 ↔ error = 0 := by
  constructor
  · intro h
    unfold arErrGetLnxErrCode at h
    split_ifs at h with hneg
    · exact absurd h (by decide)
    · by_contra hne
      obtain ⟨n, hn⟩ : ∃ n, error.toNat = n + 1 := ⟨error.toNat - 1, by omega⟩
      rw [hn] at h
      have htail : arErrCodeInfo.getD (n + 1) (-EADV) = arErrCodeInfo.tail.getD n (-EADV) := by
        simp [arErrCodeInfo]
      rw [htail] at h
      rcases Nat.lt_or_ge n arErrCodeInfo.tail.length with hlt | hge
      · rw [List.getD_eq_getElem _ _ hlt] at h
        exact arErrCodeInfo_ne_zero _ (List.getElem_mem hlt) h
      · rw [List.getD_eq_default _ _ hge] at h
        exact absurd h (by decide)
  · rintro rfl
    rfl

/-! ### Enumerations -/

/-- `enum aif_state`, in the order of the source. -/
inductive AifState where
  | aifClosed | aifClose | aifOpen | aifOpened | aifStopped | aifPrepared | aifStarted
deriving DecidableEq, Repr

/-- `enum session_state`. -/
inductive SessionState where
  | sessionClosed | sessionOpened | sessionPrepared | sessionStarted | sessionStopped
deriving DecidableEq, Repr

/-- `enum device_state`, in the order of the source. -/
inductive DeviceState where
  | devClosed | devOpened | devPrepared | devStarted | devStopped
deriving DecidableEq, Repr

/-- `graph_state_t`: one flag at a time, so that a test `state & F` is `state = F`. -/
inductive GraphState where
  | closed | opened | prepared | started | stopped
deriving DecidableEq, Repr

/-- `enum direction`; a session that was never configured holds neither value. -/
inductive Direction where
  | unset | rx | tx
deriving DecidableEq, Repr

/-- `enum agm_data_mode`. -/
inductive DataMode where
  | invalid | blocking | nonBlocking | pushPull | max
deriving DecidableEq, Repr

/-- `enum event_type`; a client can pass a number that is none of its enumerators. -/
inductive EventType where
  | dataPath | module
  | other (id : ℕ)
deriving DecidableEq, Repr

namespace AifState

/-- The value of the C enumerator. -/
def toNat : AifState → ℕ
  | aifClosed => 0
  | aifClose => 1
  | aifOpen => 2
  | aifOpened => 3
  | aifStopped => 4
  | aifPrepared => 5
  | aifStarted => 6

/-- `state >= AIF_OPENED`. -/
def isOpened (st : AifState) : Bool := decide (aifOpened.toNat ≤ st.toNat)

end AifState

/-- The value of the C enumerator. -/
def DeviceState.toNat : DeviceState → ℕ
  | devClosed => 0
  | devOpened => 1
  | devPrepared => 2
  | devStarted => 3
  | devStopped => 4

/-! ### Metadata -/

structure KeyValue where
  key : ℕ
  value : ℕ
deriving DecidableEq, Repr

/-- `struct agm_key_vector_gsl`: a count and a pointer to the pairs. -/
structure KeyVector where
  numKvs : ℕ := 0
  kv : Option (List KeyValue) := none
deriving DecidableEq, Repr

/-- `struct sg_prop`. -/
structure SgProp where
  propId : ℕ := 0
  numValues : ℕ := 0
  values : Option (List ℕ) := none
deriving DecidableEq, Repr

/-- `struct agm_meta_data_gsl`; the default value is the zeroed structure. -/
structure MetaData where
  gkv : KeyVector := {}
  ckv : KeyVector := {}
  sgProps : SgProp := {}
deriving DecidableEq, Repr

/-! ### Configuration -/

/-- A client's parameter blob with its size. -/
abbrev Payload := List UInt8

structure MediaConfig where
  rate : ℕ := 0
  channels : ℕ := 0
  format : ℕ := 0
  dataFormat : ℕ := 0
deriving DecidableEq, Repr

structure SessionConfig where
  dir : Direction := .unset
  isHostless : Bool := false
  startThreshold : ℕ := 0
  stopThreshold : ℕ := 0
  codec : Payload := []
  dataMode : DataMode := .invalid
deriving DecidableEq, Repr

structure BufferConfig where
  count : ℕ := 0
  size : ℕ := 0
deriving DecidableEq, Repr

/-! ### Sessions -/

/-- `struct aif`: one session-interface pair; the default value is the zeroed structure. -/
structure Aif where
  aifId : ℕ := 0
  devObj : Option ℕ := none
  state : AifState := .aifClosed
  sessAifMeta : MetaData := {}
  params : Option Payload := none

/-- `struct session_cb`. -/
structure SessionCb where
  cb : ℕ
  evtType : EventType
  clientData : ℕ
deriving DecidableEq, Repr

/-- `struct session_obj`; the default value is the zeroed structure. -/
structure SessionObj where
  state : SessionState := .sessionClosed
  sessMeta : MetaData := {}
  aifPool : List Aif := []
  cbPool : List SessionCb := []
  graph : Option ℕ := none
  streamConfig : SessionConfig := {}
  mediaConfig : MediaConfig := {}
  bufferConfig : BufferConfig := {}
  params : Option Payload := none
  loopbackSessId : ℕ := 0
  loopbackState : Bool := false
  ecRefAifId : ℕ := 0
  ecRefState : Bool := false

/-! ### Devices -/

/-- What happens to a device: the calls made on its pcm, and the moments at which one of its
session-interface pairs enters or leaves `AIF_STARTED`. -/
inductive DevEvent where
  | pcmOpen | pcmPrepare | pcmStop | pcmClose
  | pairStarted | pairStopped
deriving DecidableEq, Repr

/-- `struct refcount`. -/
structure Refcount where
  «open» : ℤ := 0
  prepare : ℤ := 0
  start : ℤ := 0
deriving DecidableEq, Repr

/-- Direction of a hardware endpoint (`hw_ep_info.dir`). -/
inductive HwEpDir where
  | audioOutput | audioInput
deriving DecidableEq, Repr

/-- `struct device_obj`; `trace` is the record of what happened to it, latest first. -/
structure DeviceObj where
  hwEpDir : HwEpDir := .audioOutput
  mediaConfig : MediaConfig := {}
  metadata : MetaData := {}
  refcnt : Refcount := {}
  state : DeviceState := .devClosed
  params : Option Payload := none
  trace : List DevEvent := []

/-! ### Graphs -/

/-- The tags that `graph.c` and `graph_module.c` name, and all others. -/
inductive Tag where
  | streamPcmEncoder | streamPcmDecoder | streamPlaceholderDecoder | streamPcmConverter
  | streamInputMediaFormat | pause | streamSpr
  | deviceHwEndpointRx | deviceHwEndpointTx
  | other (id : ℕ)
deriving DecidableEq, Repr

/-- The codecs of the DSP. -/
inductive MediaFmt where
  | mp3 | aac | flac | alac | ape | wmastd | wmapro | vorbis
deriving DecidableEq, Repr

/-- The configuration function of a module (`module_info.configure`). -/
inductive Configure where
  | outputMediaFormat | placeholderDec | sharedMemEp | spr | hwEp
deriving DecidableEq, Repr

/-- A key vector copied to its own allocation. -/
structure GkvCopy where
  block : ℕ
  gkv : KeyVector
deriving DecidableEq, Repr

/-- `struct module_info`. -/
structure ModuleInfo where
  tag : Tag
  configure : Option Configure := none
  mid : ℕ := 0
  miid : ℕ := 0
  isConfigured : Bool := false
  devObj : Option ℕ := none
  gkv : Option GkvCopy := none
deriving DecidableEq, Repr

/-- `struct gsl_module_id_info_entry`. -/
structure ModuleIdInfo where
  moduleId : ℕ := 0
  moduleIid : ℕ := 0
deriving DecidableEq, Repr

/-- `struct gsl_tag_module_info_entry`: the tag, the number `tag_id` that stands for it, and the
modules. -/
structure TagEntry where
  tag : Tag
  tagId : ℕ := 0
  modules : List ModuleIdInfo
deriving DecidableEq, Repr

def TagEntry.numModules (e : TagEntry) : ℕ := e.modules.length

/-- `module_entry[0]`, where the entries `es` follow: behind an entry without modules there is the
head of the next entry, and behind the last one the end of the block. -/
def TagEntry.moduleEntry (e : TagEntry) (es : List TagEntry) : Option ModuleIdInfo :=
  match e.modules, es with
  | m :: _, _ => some m
  | [], e' :: _ => some { moduleId := e'.tagId, moduleIid := e'.numModules }
  | [], [] => none

/-- `struct gsl_cmd_configure_read_write_params`. -/
structure BufParams where
  buffSize : ℕ := 0
  numBuffs : ℕ := 0
  startThreshold : ℕ := 0
  stopThreshold : ℕ := 0
  attributes : DataMode := .invalid
deriving DecidableEq, Repr

/-- `struct graph_obj`; `client` is the registered callback's `client_data`. -/
structure GraphObj where
  state : GraphState := .closed
  handle : ℕ := 0
  taggedModList : List ModuleInfo := []
  bufConfig : BufParams := {}
  client : Option ℕ := none
  sessObj : Option ℕ := none
  sprMiid : ℕ := 0
  timestamp : ℕ := 0
  isConfigBufParamsDone : Bool := false

/-- `struct agm_event_reg_cfg`. -/
structure EventRegCfg where
  moduleInstanceId : ℕ
  eventId : ℕ
  isRegister : ℕ
  payload : Payload
deriving DecidableEq, Repr

/-- What `struct payload_pcm_output_format_cfg_t` is filled with from the session; `interleaved` is
`PCM_DEINTERLEAVED_UNPACKED` or not. -/
structure PcmOutputFormat where
  bitWidth : ℕ
  numChannels : ℕ
  bitsPerSample : ℤ
  qFactor : ℤ
  deinterleaved : Bool
deriving DecidableEq, Repr

/-- What `struct payload_media_fmt_pcm_t` is filled with from the session. -/
structure PcmMediaFormat where
  bitWidth : ℕ
  sampleRate : ℕ
  numChannels : ℕ
  bitsPerSample : ℤ
  qFactor : ℤ
deriving DecidableEq, Repr

/-- A parameter of a module, with what its payload is made from: the codec that a placeholder decoder
has to be (`none` for PCM), `PARAM_ID_PCM_OUTPUT_FORMAT_CFG`, and `PARAM_ID_MEDIA_FORMAT` with a PCM
format or with a codec and its struct in `union agm_session_codec`.  What `configure_hw_ep` requests
for its device is one parameter. -/
inductive ModuleParam where
  | realId (fmt : Option MediaFmt)
  | outputFormat (fmt : PcmOutputFormat)
  | pcmFormat (fmt : PcmMediaFormat)
  | codecFormat (fmt : MediaFmt) (codec : Payload)
  | endpoint
deriving DecidableEq, Repr

/-- The requests made to GSL. -/
inductive GslCmd where
  | getTags (gkv : KeyVector)
  | graphOpen (gkv ckv : KeyVector)
  | registerEventCb
  | graphClose
  | prepare | start | eos
  | stop (props : Option (KeyVector × SgProp))
  | addGraph (gkv ckv : KeyVector)
  | changeGraph (gkv ckv : KeyVector)
  | removeGraph (gkv : KeyVector)
  | getTaggedModuleInfo (gkv : KeyVector) (tag : Tag)
  | configureBufs (dir : Direction) (params : BufParams)
  | configureModule (mod : ModuleInfo) (param : ModuleParam)
  | sprDelayPathEnd (spr hwEp : ℕ)
  | softPause (miid : ℕ) (pause : Bool)
  | setCustomConfig (payload : Payload)
  | getCustomConfig (size : ℕ)
  | getSessionTime (miid : ℕ)
  | setConfig (gkv : KeyVector) (tag : ℕ) (tkv : List KeyValue)
  | setCal (gkv ckv : KeyVector)
  | write (size : ℕ)
  | read (size : ℕ)
  | registerCustomEvent (cfg : EventRegCfg)
  | getBuffInfo (dir : Direction) (pos : Bool)
deriving DecidableEq, Repr

/-- A request with its result and the graph handle it was made on, if it was made on one. -/
structure GslCall where
  handle : Option ℕ
  cmd : GslCmd
  code : ℤ
deriving DecidableEq, Repr

/-! ### External answers and faults -/

/-- The result of one external call: its code and the data GSL fills in. -/
structure Answer where
  code : ℤ := 0
  tags : List TagEntry := []
  moduleId : ℕ := 0
  moduleIid : ℕ := 0
  size : ℕ := 0
  time : ℕ := 0
deriving DecidableEq, Repr

/-- Undefined behaviour inside one object: a `NULL` pointer or an address outside a block. -/
inductive Crash where
  | nullDeref | outOfBounds
deriving DecidableEq, Repr

/-- Why a call of the service does not return. -/
inductive Fault where
  | crash (c : Crash)
  | useAfterClose (g : ℕ)
deriving DecidableEq, Repr

/-! ### The state of the service -/

/-- The static arrays of `graph_module.c`, the allocation counters of the graph layer and the
calls it made on GSL, latest first. -/
structure GraphMem where
  streamModuleList : List ModuleInfo
  hwEpModule : List ModuleInfo
  nextGkv : ℕ := 0
  nextHandle : ℕ := 0
  calls : List GslCall := []

/-- Where a payload passed to `graph_set_config` was cached. -/
inductive Origin where
  | session (s : ℕ)
  | aif (s i : ℕ)
  | device (d : ℕ)
deriving DecidableEq, Repr

/-- A call of `graph_set_config` with its result. -/
structure ConfigCall where
  graph : Option ℕ
  origin : Origin
  payload : Payload
  ret : ℤ
deriving DecidableEq, Repr

/-- The two kinds of edge a capture session can add to its graph. -/
inductive EdgeKind where
  | loopback | ecRef
deriving DecidableEq, Repr

/-- A call of `graph_add` (`enable`) or `graph_remove` made for an edge, with its result. -/
structure EdgeCall where
  graph : Option ℕ
  kind : EdgeKind
  id : ℕ
  enable : Bool
  ret : ℤ
deriving DecidableEq, Repr

/-- The state of the service. -/
structure World where
  /-- The ids of the session pool, in order of creation. -/
  pool : List ℕ
  sess : ℕ → SessionObj
  dev : ℕ → DeviceObj
  numAudioIntfs : ℕ
  /-- What `device_list[num_audio_intfs]` reads as. -/
  pastEnd : Option ℕ
  heap : ℕ → Option GraphObj
  nextGraph : ℕ
  mem : GraphMem
  ext : List Answer
  configs : List ConfigCall
  edges : List EdgeCall

/-- Programs that only make external calls. -/
abbrev EnvM := Prog (List Answer) Crash

/-- Programs of the service. -/
abbrev AgmM := Prog World Fault

/-- The next external result. -/
def answer : EnvM Answer := fun l => .ok (l.headD {}, l.tail)

/-- `calloc`: whether the block was allocated. -/
def calloc : EnvM Bool := do
  let a ← answer
  pure (decide (a.code = 0))

/-- Run an external call inside the service. -/
def env {α : Type} (m : EnvM α) : AgmM α :=
  Prog.zoom World.ext (fun e w => { w with ext := e }) Fault.crash m

end Agm
