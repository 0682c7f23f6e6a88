import Agm.PluginWorld
import Agm.PcmBoundary
import Agm.CompressCodec

/-! # The calls of the pcm plugin (`agm_pcm_plugin.c`)

`PcmPlugin` is the plugin with its private data, and with the addresses of the blocks it is made of.
Each call is made for a plugin and returns the plugin after it; `agm_pcm_close` returns none.

Every call that goes to the session, to the card definition or to the heap does so through the
ledger of the process.  What a plugin holds is `PcmPlugin.holds`: a call swaps it for what the
plugin holds afterwards, and closing gives all of it back but what `agm_pcm_mmap` has taken
(`PcmPlugin.mapped`).

A client that takes no interrupts maps the position of the DSP and asks for it: `agm_pcm_sync_ptr`
hands back the hardware position and exchanges two registers of the client, `agm_pcm_poll` waits for
a period.  Neither looks whether the position can be read (`PcmPlugin.Readable`).  Where it can, and
the geometry was not changed since, the plugin polls as `agmPcmPoll` does for a stream
(`swaps_pcmPoll`).

* **The environment** of a call is what the allocations, the kernel, the session and the DSP answer.
* **Macros.**  The modes of tinyalsa are a parameter (`PcmMacros`). -/

namespace Agm

open Prog

/-- The macros of tinyalsa for the mode of a stream. -/
structure PcmMacros extends StreamModes where
  pcmMmap : ℕ
  pcmNoirq : ℕ

/-- `struct agm_buf_info`. -/
structure AgmBufInfo where
  dataBufFd : ℤ := 0
  dataBufSize : ℤ := 0
  posBufFd : ℤ := 0
  posBufSize : ℤ := 0
deriving DecidableEq, Repr

/-- `struct pcm_plugin_pos_buf_info`, with its address. -/
structure PosBufInfo where
  block : ℕ
  /-- `none` is `MAP_FAILED`, which is not looked at. -/
  posBufAddr : Option ℕ
  boundary : ℕ := 0
  pos : PosBuf := {}
  tstamp : ℕ := 0
  applPtr : ℕ := 0
  availMin : ℕ := 0
deriving DecidableEq, Repr

/-- `struct snd_pcm_sync_ptr`, with its three flags. -/
structure SyncPtr where
  hwsync : Bool := false
  appl : Bool := false
  availMin : Bool := false
  controlApplPtr : ℕ := 0
  controlAvailMin : ℕ := 0
  statusHwPtr : ℕ := 0
  statusTstamp : ℕ := 0
deriving DecidableEq, Repr

/-- `struct pcm_plugin` and `struct agm_pcm_priv`. -/
structure PcmPlugin where
  plugin : ℕ
  priv : ℕ
  mediaBlock : ℕ
  bufferBlock : ℕ
  sessionBlock : ℕ
  card : ℕ
  node : DevPtr
  mode : ℕ
  mediaConfig : MediaConfig := {}
  bufferConfig : BufferConfig := {}
  sessionConfig : SessionConfig := zeroedSessionConfig
  bufInfo : Option (ℕ × AgmBufInfo) := none
  posBuf : Option PosBufInfo := none
  handle : ℕ
  /-- The pointer, and what the definition behind it says. -/
  cardNode : ℕ × SndDevDefCard
  sessionId : ℕ
  periodSize : ℕ := 0
  totalSizeFrames : ℕ := 0
deriving DecidableEq, Repr

/-- The numbers of `enum agm_media_format`. -/
def PcmFormat.code : PcmFormat → ℕ
  | .s8 => 1
  | .s16Le => 2
  | .s24Le => 3
  | .s24In3Le => 4
  | .s32Le => 5

/-- `agm_format_to_bits` for any number. -/
def agmFormatBits (format : ℕ) : ℕ :=
  if format = PcmFormat.s32Le.code ∨ format = PcmFormat.s24Le.code then 32
  else if format = PcmFormat.s24In3Le.code then 24
  else 16

theorem agmFormatBits_code (f : PcmFormat) : agmFormatBits f.code = agmFormatToBits f := by
  cases f <;> rfl

/-! ### Opening -/

/-- What `agm_pcm_plugin_open` meets. -/
structure PcmOpenEnv where
  plugin : Bool := true
  priv : Bool := true
  mediaConfig : Bool := true
  bufferConfig : Bool := true
  sessionConfig : Bool := true
  cards : CardEnv := {}
  /-- The code of `agm_session_open`, and the handle. -/
  session : ℤ × ℕ := (0, 1)

/-- The tail of `agm_pcm_plugin_open`, from `snd_card_def_get_node`. -/
def pcmOpenSession (card device mode : ℕ) (answer : ℤ × ℕ)
    (plugin priv mediaBlock bufferBlock sessionBlock : ℕ) (cardNode : ℕ × SndDevDefCard) :
    ClientM (Except ℤ PcmPlugin) := do
  let pcmNode ← onCache .inCards (sndCardDefGetNode (some cardNode.1) device SND_NODE_TYPE_PCM)
  match pcmNode with
  | none => pure (.error (-EINVAL))
  | some node => do
      let r ← clientSessionOpen answer
      match r with
      | .error ret => pure (.error ret)
      | .ok handle =>
          pure (.ok
            { plugin, priv, mediaBlock, bufferBlock, sessionBlock, card, node, mode, handle, cardNode
              sessionId := device })

/-- `agm_pcm_plugin_open`; the code at the labels is made negative by the caller. -/
def agmPcmPluginOpen (card device mode : ℕ) (e : PcmOpenEnv) : ClientM (Except ℤ PcmPlugin) :=
  unwinding (clientCalloc e.plugin) clientFree fun plugin =>
  unwinding (clientCalloc e.priv) clientFree fun priv =>
  unwinding (clientCalloc e.mediaConfig) clientFree fun mediaBlock =>
  unwinding (clientCalloc e.bufferConfig) clientFree fun bufferBlock =>
  unwinding (clientCalloc e.sessionConfig) clientFree fun sessionBlock =>
  unwinding (clientGetCard card e.cards) clientPutCard fun cardNode =>
    pcmOpenSession card device mode e.session plugin priv mediaBlock bufferBlock sessionBlock
      cardNode

namespace PcmPlugin

/-! ### Parameters and the session -/

/-- `agm_pcm_hw_params`; `ret` is the code of `agm_session_set_config`. -/
def agmPcmHwParams (M : PcmMacros) (params : SndPcmHwParams) (ret : ℤ) (p : PcmPlugin) :
    ClientM (ℤ × PcmPlugin) :=
  if p.handle = 0 then pure (-EINVAL, p)
  else do
    let geometry := Agm.agmPcmHwParams params
    let isHostless ← onCache .inCards (sndCardDefGetInt (some p.node) "hostless".toList)
    let dataMode :=
      if p.mode &&& M.pcmMmap ≠ 0 ∧ p.mode &&& M.pcmNoirq ≠ 0 then DataMode.pushPull
      else p.sessionConfig.dataMode
    let r ← clientSessionCall p.handle ret
    pure (r, { p with
      mediaConfig := { p.mediaConfig with
        rate := paramGetInt params .rate
        channels := geometry.channels
        format := geometry.format.code }
      bufferConfig :=
        { count := geometry.periods, size := agmPcmFramesToBytes geometry geometry.periodSize }
      sessionConfig := { p.sessionConfig with
        dir := if p.mode &&& M.pcmIn ≠ 0 then .tx else .rx
        isHostless := isHostless.2.getD 0 ≠ 0
        dataMode }
      periodSize := geometry.periodSize
      totalSizeFrames := geometry.totalSizeFrames })

/-- `agm_pcm_sw_params`. -/
def agmPcmSwParams (startThreshold stopThreshold : ℕ) (ret : ℤ) (p : PcmPlugin) :
    ClientM (ℤ × PcmPlugin) :=
  if p.handle = 0 then pure (-EINVAL, p)
  else do
    let r ← clientSessionCall p.handle ret
    pure (r, { p with
      sessionConfig := { p.sessionConfig with
        startThreshold := startThreshold % 2 ^ 32
        stopThreshold := stopThreshold % 2 ^ 32 } })

/-- The calls that are handed to the session: `agm_pcm_prepare`, `agm_pcm_start` and `agm_pcm_drop`. -/
def toSession (ret : ℤ) (p : PcmPlugin) : ClientM ℤ :=
  if p.handle = 0 then pure (-EINVAL) else clientSessionCall p.handle ret

def agmPcmPrepare (ret : ℤ) (p : PcmPlugin) : ClientM ℤ := p.toSession ret

def agmPcmStart (ret : ℤ) (p : PcmPlugin) : ClientM ℤ := p.toSession ret

def agmPcmDrop (ret : ℤ) (p : PcmPlugin) : ClientM ℤ := p.toSession ret

/-- The size that `agm_pcm_writei_frames` and `agm_pcm_readi_frames` ask for. -/
def framesSize (frames : ℕ) (p : PcmPlugin) : ℕ :=
  frames * (p.mediaConfig.channels * agmFormatBits p.mediaConfig.format % 2 ^ 32 / 8) % 2 ^ 64

/-- `agm_pcm_writei_frames`, with the size that it hands on. -/
def agmPcmWriteiFrames (frames : ℕ) (ret : ℤ) (p : PcmPlugin) : ClientM (ℤ × ℕ) := do
  let r ← p.toSession ret
  pure (r, p.framesSize frames)

/-- `agm_pcm_readi_frames`. -/
def agmPcmReadiFrames (frames : ℕ) (ret : ℤ) (p : PcmPlugin) : ClientM (ℤ × ℕ) := do
  let r ← p.toSession ret
  pure (r, p.framesSize frames)

/-- `agm_pcm_ttstamp`, which calls nothing yet. -/
def agmPcmTtstamp (p : PcmPlugin) : ℤ := if p.handle = 0 then -EINVAL else 0

/-! ### The position -/

/-- `priv->pos_buf`, where it is dereferenced. -/
def posOf (p : PcmPlugin) : ClientM PosBufInfo :=
  match p.posBuf with
  | none => Prog.fault (.crash .nullDeref)
  | some pos => pure pos

/-- The bits by which `agm_pcm_bytes_to_frames` divides. -/
def frameBits (p : PcmPlugin) : ℕ :=
  p.mediaConfig.channels * agmFormatBits p.mediaConfig.format % 2 ^ 32

/-- The position after the passes over the shared buffer. -/
def updatePos (reads : List PosRead) (now : ℕ) (p : PcmPlugin) (pos : PosBufInfo) :
    ℤ × PosBufInfo :=
  match readPos 10 reads with
  | none => (-EAGAIN, pos)
  | some readIndex =>
      let circBufPos := readIndex * 8 % 2 ^ 32 / p.frameBits
      let place := circBufPos / p.periodSize * p.periodSize
      let newHwPtr := (pos.pos.hwPtrBase + place) % 2 ^ 64
      if newHwPtr < pos.pos.hwPtr then
        let hwBase := (pos.pos.hwPtrBase + p.totalSizeFrames) % 2 ^ 64
        let hwBase := if pos.boundary ≤ hwBase then 0 else hwBase
        (0, { pos with
          pos := { hwPtr := (hwBase + place) % 2 ^ 64, hwPtrBase := hwBase }
          tstamp := now })
      else (0, { pos with pos := { pos.pos with hwPtr := newHwPtr }, tstamp := now })

/-- `agm_pcm_plugin_update_hw_ptr`, with the passes that it makes and the time. -/
def agmPcmPluginUpdateHwPtr (reads : List PosRead) (now : ℕ) (p : PcmPlugin) :
    ClientM (ℤ × PcmPlugin) := do
  let pos ← p.posOf
  clientReadMapping pos.posBufAddr
  if readPos 10 reads ≠ none ∧ (p.frameBits = 0 ∨ p.periodSize = 0) then Prog.fault .divByZero
  else
    let r := p.updatePos reads now pos
    pure (r.1, { p with posBuf := some r.2 })

/-- The registers that `agm_pcm_sync_ptr` exchanges, and the status. -/
def syncRegisters (s : SyncPtr) (pos : PosBufInfo) : SyncPtr × PosBufInfo :=
  ({ s with
      controlApplPtr := if s.appl then pos.applPtr else s.controlApplPtr
      controlAvailMin := if s.availMin then pos.availMin else s.controlAvailMin
      statusHwPtr := pos.pos.hwPtr
      statusTstamp := pos.tstamp },
    { pos with
      applPtr := if s.appl then pos.applPtr else s.controlApplPtr
      availMin := if s.availMin then pos.availMin else s.controlAvailMin })

/-- `agm_pcm_sync_ptr`. -/
def agmPcmSyncPtr (M : PcmMacros) (reads : List PosRead) (now : ℕ) (s : SyncPtr) (p : PcmPlugin) :
    ClientM ((ℤ × SyncPtr) × PcmPlugin) :=
  if p.mode &&& M.pcmNoirq = 0 then pure ((-EOPNOTSUPP, s), p)
  else if p.handle = 0 then pure ((-EINVAL, s), p)
  else if p.bufInfo = none then pure ((-EINVAL, s), p)
  else do
    let r ← (if s.hwsync then p.agmPcmPluginUpdateHwPtr reads now else pure (0, p))
    if r.1 < 0 then pure ((r.1, s), r.2)
    else do
      let pos ← r.2.posOf
      let x := syncRegisters s pos
      pure ((r.1, x.1), { r.2 with posBuf := some x.2 })

/-- The frames between the pointers; `snd_pcm_sframes_t` is a `long`. -/
def availAt (M : PcmMacros) (p : PcmPlugin) (pos : PosBufInfo) : ℤ :=
  let boundary : ℤ := pos.boundary
  if p.mode &&& M.pcmOut ≠ 0 then
    let avail := (pos.pos.hwPtr + p.totalSizeFrames - pos.applPtr : ℤ).bmod (2 ^ 64)
    if avail < 0 then (avail + boundary).bmod (2 ^ 64)
    else if avail ≥ boundary then (avail - boundary).bmod (2 ^ 64)
    else avail
  else if p.mode &&& M.pcmIn ≠ 0 then
    let avail := (pos.pos.hwPtr - pos.applPtr : ℤ).bmod (2 ^ 64)
    if avail < 0 then (avail + boundary).bmod (2 ^ 64) else avail
  else 0

/-- `agm_pcm_get_avail`, which reads no position for a stream without a direction. -/
def agmPcmGetAvail (M : PcmMacros) (p : PcmPlugin) : ClientM ℤ :=
  if p.mode &&& M.pcmOut = 0 ∧ p.mode &&& M.pcmIn = 0 then pure 0
  else do
    let pos ← p.posOf
    pure (p.availAt M pos)

/-- What `agm_pcm_poll` does when there is less than a period. -/
def pollUpdate (M : PcmMacros) (reads : List PosRead) (now : ℕ) (avail : ℤ) (p : PcmPlugin) :
    ClientM (ℤ × PcmPlugin) := do
  let r ← p.agmPcmPluginUpdateHwPtr reads now
  if r.1 = 0 then do
    let avail ← r.2.agmPcmGetAvail M
    pure (avail, r.2)
  else pure (avail, r.2)

/-- What `agm_pcm_poll` returns, and what it stores into `revents`. -/
def pollAnswer (M : PcmMacros) (avail : ℤ) (p : PcmPlugin) : ℕ × Option ℕ :=
  if avail ≥ p.periodSize then
    if p.mode &&& M.pcmIn ≠ 0 then (POLLIN, some (POLLIN ||| POLLOUT)) else (POLLOUT, some POLLOUT)
  else (0, none)

/-- `agm_pcm_poll`. -/
def agmPcmPoll (M : PcmMacros) (reads : List PosRead) (now : ℕ) (p : PcmPlugin) :
    ClientM ((ℕ × Option ℕ) × PcmPlugin) := do
  let avail ← p.agmPcmGetAvail M
  let r ← (if avail < p.periodSize then p.pollUpdate M reads now avail else pure (avail, p))
  pure (p.pollAnswer M r.1, r.2)

/-! ### Mapping -/

/-- What `agm_pcm_mmap` meets. -/
structure MmapEnv where
  bufBlock : Bool := true
  bufInfo : ℤ × AgmBufInfo := (0, {})
  posBlock : Bool := true
  posMapped : Bool := true
  dataMapped : Bool := true
deriving DecidableEq, Repr

/-- The loop of `agm_pcm_mmap`; one that takes more turns than the word has bits does not end. -/
def boundaryFrom (total : ℕ) : ℕ → ℕ → Option ℕ
  | 0, _ => none
  | fuel + 1, boundary =>
      match boundaryStep total boundary with
      | none => some boundary
      | some boundary' => boundaryFrom total fuel boundary'

/-- `agm_session_get_buf_info` at the first call; `none` is `MAP_FAILED`. -/
def mapBufInfo (e : MmapEnv) (p : PcmPlugin) : ClientM (Option PcmPlugin) :=
  match p.bufInfo with
  | some _ => pure (some p)
  | none => do
      let b ← clientCalloc e.bufBlock
      match b with
      | .error _ => pure none
      | .ok block =>
          if e.bufInfo.1 ≠ 0 then do
            clientFree block
            pure none
          else pure (some { p with bufInfo := some (block, e.bufInfo.2) })

/-- The position buffer at the first call of a stream without interrupts. -/
def mapPosBuf (M : PcmMacros) (e : MmapEnv) (p : PcmPlugin) : ClientM (Bool × PcmPlugin) :=
  if p.mode &&& M.pcmNoirq = 0 then pure (true, p)
  else
    match p.posBuf with
    | some _ => pure (true, p)
    | none => do
        let b ← clientCalloc e.posBlock
        match b with
        | .error _ => pure (false, p)
        | .ok block => do
            let posBufAddr ← clientMmap e.posMapped
            match boundaryFrom p.totalSizeFrames 33 (p.totalSizeFrames % 2 ^ 32) with
            | none => Prog.fault .hang
            | some boundary =>
                pure (true, { p with posBuf := some { block, posBufAddr, boundary } })

/-- `agm_pcm_mmap`; `false` is `MAP_FAILED`. -/
def agmPcmMmap (M : PcmMacros) (length offset : ℕ) (e : MmapEnv) (p : PcmPlugin) :
    ClientM (Bool × PcmPlugin) :=
  if offset ≠ 0 ∨ p.handle = 0 then pure (false, p)
  else do
    let r ← p.mapBufInfo e
    match r with
    | none => pure (false, p)
    | some p => do
        let r ← p.mapPosBuf M e
        let dataBufSize := r.2.bufInfo.elim 0 fun b => b.2.dataBufSize % 2 ^ 64
        pure (r.1 && decide ((length : ℤ) ≤ dataBufSize) && e.dataMapped, r.2)

/-- `agm_pcm_munmap`; `ret` is the code of `munmap` for the data. -/
def agmPcmMunmap (M : PcmMacros) (ret : ℤ) (p : PcmPlugin) : ClientM (ℤ × PcmPlugin) :=
  if p.mode &&& M.pcmNoirq = 0 then pure (ret, p)
  else
    match p.posBuf with
    | none => pure (ret, p)
    | some pos => do
        if p.bufInfo.isNone then Prog.fault (.crash .nullDeref)
        else do
          clientMunmap pos.posBufAddr
          clientFree pos.block
          pure (ret, { p with posBuf := none })

/-! ### Closing -/

/-- `agm_pcm_close`: a plugin without a handle stays; `ret` is the code of `agm_session_close`. -/
def agmPcmClose (ret : ℤ) (p : PcmPlugin) : ClientM (ℤ × Option PcmPlugin) :=
  if p.handle = 0 then pure (-EINVAL, some p)
  else do
    clientSessionClose p.handle
    clientPutCard p.cardNode
    clientFree p.bufferBlock
    clientFree p.mediaBlock
    clientFree p.sessionBlock
    clientFree p.priv
    clientFree p.plugin
    pure (ret, none)

/-! ### What a plugin holds -/

/-- What `agm_pcm_mmap` has taken. -/
def mapped (p : PcmPlugin) : Multiset Holding :=
  (p.bufInfo.elim 0 fun b => {.block b.1}) +
    p.posBuf.elim 0 fun pos => {.block pos.block} + mappingOf pos.posBufAddr

/-- What the plugin holds from the start, in the order in which closing gives it back. -/
def core (p : PcmPlugin) : Multiset Holding :=
  {.session p.handle} + ({.card p.cardNode.1 p.cardNode.2} + ({.block p.bufferBlock} +
    ({.block p.mediaBlock} + ({.block p.sessionBlock} + ({.block p.priv} + {.block p.plugin})))))

def holds (p : PcmPlugin) : Multiset Holding := p.core + p.mapped

/-- The node is a device of the card, and a position buffer comes with the other one. -/
structure Valid (p : PcmPlugin) : Prop where
  node : p.node.card = p.cardNode.1
  device : ∃ dev, (p.cardNode.2.devs p.node.nodeType)[p.node.index]? = some dev ∧
    dev.device = p.sessionId
  posBuf : p.posBuf ≠ none → p.bufInfo ≠ none

/-- The geometry is `G`, and the boundary was computed from it. -/
structure Of (G : PcmParams) (p : PcmPlugin) : Prop where
  channels : p.mediaConfig.channels = G.channels
  format : p.mediaConfig.format = G.format.code
  periodSize : p.periodSize = G.periodSize
  totalSizeFrames : p.totalSizeFrames = G.totalSizeFrames
  boundary : ∀ pos ∈ p.posBuf, pos.boundary = G.boundary

end PcmPlugin

/-! ### What the calls do to it -/

section specs
variable {p : PcmPlugin}

/-- The node of a card that is held. -/
theorem swaps_getNode (r : ℕ × SndDevDefCard) (id type : ℕ) :
    clientLedger.Swaps {.card r.1 r.2} (onCache .inCards (sndCardDefGetNode (some r.1) id type))
      (fun y => y = r.2.findNode r.1 id type) fun _ => {.card r.1 r.2} := by
  refine swaps_read fun g d hfree hd hc => ?_
  have hnode := getNode_answers hfree hd id type
  rw [← hc]
  exact hnode

/-- A property of a device of a card that is held. -/
theorem swaps_getInt {r : ℕ × SndDevDefCard} {node : DevPtr} {dev : SndDevDef}
    (hcard : node.card = r.1) (hdev : (r.2.devs node.nodeType)[node.index]? = some dev)
    (prop : CStr) :
    clientLedger.Swaps {.card r.1 r.2} (onCache .inCards (sndCardDefGetInt (some node) prop))
      (fun y => y = dev.getInt prop) fun _ => {.card r.1 r.2} := by
  refine swaps_read fun g d hfree hd hc => ?_
  rw [← hcard] at hd
  rw [← hc] at hdev
  exact getInt_answers hfree hd hdev prop

theorem opens_pcmSession (card device mode : ℕ) (answer : ℤ × ℕ)
    (plugin priv mediaBlock bufferBlock sessionBlock : ℕ) (cardNode : ℕ × SndDevDefCard) :
    clientLedger.Opens ({.card cardNode.1 cardNode.2} + ({.block sessionBlock} +
        ({.block bufferBlock} + ({.block mediaBlock} + ({.block priv} + ({.block plugin} + 0))))))
      (pcmOpenSession card device mode answer plugin priv mediaBlock bufferBlock sessionBlock
        cardNode) PcmPlugin.Valid PcmPlugin.holds := by
  refine opens_after ((swaps_getNode cardNode device SND_NODE_TYPE_PCM).within
    (Multiset.le_add_right _ _)) ?_
  rintro node hnode
  cases node with
  | none => exact opens_error
  | some node =>
      obtain ⟨hcard, dev, hdev, hfirst⟩ := SndDevDefCard.findNode_dev hnode.symm
      have hid : dev.device = device := by simpa using List.find?_some hfirst
      refine swaps_bind ((opens_session answer).beside _) fun r _ => ?_
      cases r with
      | error e => exact swaps_pure (by rintro _ ⟨⟩) (zero_add _)
      | ok handle =>
          refine swaps_pure ?_ ?_
          · rintro _ ⟨rfl⟩
            exact ⟨hcard, ⟨dev, hdev, hid⟩, fun h => absurd rfl h⟩
          · simp only [Except.toOption, Option.elim, PcmPlugin.holds, PcmPlugin.core,
              PcmPlugin.mapped, add_zero]
            abel

theorem opens_pcm (card device mode : ℕ) {e : PcmOpenEnv} (he : e.cards.parsed = true) :
    clientLedger.Opens 0 (agmPcmPluginOpen card device mode e) PcmPlugin.Valid
      PcmPlugin.holds := by
  refine opens_unwinding (opens_calloc _) (fun plugin _ => ?_) fun id _ => swaps_free id
  refine opens_unwinding (opens_calloc _) (fun priv _ => ?_) fun id _ => swaps_free id
  refine opens_unwinding (opens_calloc _) (fun mediaBlock _ => ?_) fun id _ => swaps_free id
  refine opens_unwinding (opens_calloc _) (fun bufferBlock _ => ?_) fun id _ => swaps_free id
  refine opens_unwinding (opens_calloc _) (fun sessionBlock _ => ?_) fun id _ => swaps_free id
  refine opens_unwinding (opens_getCard card he) (fun cardNode _ => ?_) fun r _ => swaps_putCard r
  exact opens_pcmSession card device mode e.session plugin priv mediaBlock bufferBlock sessionBlock
    cardNode

theorem PcmPlugin.session_le (p : PcmPlugin) : {.session p.handle} ≤ p.holds := by
  unfold PcmPlugin.holds PcmPlugin.core
  rw [add_assoc]
  exact Multiset.le_add_right _ _

theorem PcmPlugin.card_le (p : PcmPlugin) : {.card p.cardNode.1 p.cardNode.2} ≤ p.holds := by
  unfold PcmPlugin.holds PcmPlugin.core
  rw [add_left_comm, add_assoc]
  exact Multiset.le_add_right _ _

/-- A call that is handed to the session. -/
theorem swaps_toSession (ret : ℤ) (p : PcmPlugin) :
    clientLedger.Swaps p.holds (p.toSession ret) (fun _ => True) fun _ => p.holds := by
  refine swaps_ite (fun _ => swaps_pure trivial rfl) fun _ => ?_
  exact ((swaps_sessionCall p.handle ret).within p.session_le).imp fun _ _ => ⟨trivial, rfl⟩

/-- A plugin that was not mapped has the geometry that is set. -/
theorem swaps_hwParams (M : PcmMacros) (params : SndPcmHwParams) (ret : ℤ) (hp : p.Valid) :
    clientLedger.Swaps p.holds (p.agmPcmHwParams M params ret)
      (fun r => r.2.Valid ∧
        (p.handle ≠ 0 → p.posBuf = none → r.2.Of (Agm.agmPcmHwParams params)))
      fun r => r.2.holds := by
  obtain ⟨dev, hdev, -⟩ := hp.device
  refine swaps_ite (fun h => swaps_pure ⟨hp, fun hne => absurd h hne⟩ rfl) fun _ => ?_
  refine swaps_bind ((swaps_getInt hp.node hdev _).within p.card_le) fun isHostless _ => ?_
  refine swaps_bind ((swaps_sessionCall p.handle ret).within p.session_le) fun r _ => ?_
  refine swaps_pure ⟨⟨hp.node, hp.device, hp.posBuf⟩, fun _ hpos => ?_⟩ rfl
  exact ⟨rfl, rfl, rfl, rfl, fun pos h => absurd (hpos.symm.trans h) (Option.some_ne_none pos).symm⟩

theorem swaps_swParams (startThreshold stopThreshold : ℕ) (ret : ℤ) (hp : p.Valid) :
    clientLedger.Swaps p.holds (p.agmPcmSwParams startThreshold stopThreshold ret)
      (fun r => r.2.Valid) fun r => r.2.holds := by
  refine swaps_ite (fun _ => swaps_pure hp rfl) fun _ => ?_
  refine swaps_bind ((swaps_sessionCall p.handle ret).within p.session_le) fun r _ => ?_
  exact swaps_pure ⟨hp.node, hp.device, hp.posBuf⟩ rfl

/-- The first block of the buffers. -/
theorem swaps_mapBufInfo (e : PcmPlugin.MmapEnv) (hp : p.Valid) :
    clientLedger.Swaps p.holds (p.mapBufInfo e)
      (fun r => ∀ q ∈ r, q.Valid ∧ ∃ b, q = { p with bufInfo := some b }) fun r =>
        r.elim p.holds PcmPlugin.holds := by
  unfold PcmPlugin.mapBufInfo
  cases hbuf : p.bufInfo with
  | some b =>
      refine swaps_pure ?_ rfl
      rintro _ ⟨rfl⟩
      exact ⟨hp, b, hbuf ▸ rfl⟩
  | none =>
      have hpos : p.posBuf = none := by
        by_contra h
        exact hp.posBuf h hbuf
      refine swaps_bind ((opens_calloc e.bufBlock).beside _) fun b _ => ?_
      cases b with
      | error _ => exact swaps_pure (by rintro _ ⟨⟩) (zero_add _)
      | ok block =>
          refine swaps_ite (fun _ => ?_) fun _ => ?_
          · exact swaps_drop_bind (swaps_free block) fun _ _ => swaps_pure (by rintro _ ⟨⟩) rfl
          · refine swaps_pure ?_ ?_
            · rintro _ ⟨rfl⟩
              exact ⟨⟨hp.node, hp.device, fun _ => Option.some_ne_none _⟩, _, rfl⟩
            · simp only [Except.toOption, Option.elim, PcmPlugin.holds, PcmPlugin.core,
                PcmPlugin.mapped, hbuf, hpos]
              abel

/-- Where the geometry leaves room, the loop ends. -/
theorem boundaryFrom_some {total : ℕ} (ht : total ≤ 0x7fffffff) (fuel b : ℕ)
    (hb : b ≤ 0x7fffffff) (hfuel : 2 ^ 31 ≤ b * 2 ^ fuel) :
    ∃ r, PcmPlugin.boundaryFrom total fuel b = some r := by
  induction fuel generalizing b with
  | zero => omega
  | succ fuel ih =>
      have hmod : b * 2 % 2 ^ 32 = b * 2 := Nat.mod_eq_of_lt (by omega)
      unfold PcmPlugin.boundaryFrom
      rw [boundaryStep_eq ht, hmod]
      split_ifs with hle
      · refine ih (b * 2) (by omega) ?_
        rw [Nat.mul_assoc, ← Nat.pow_succ']
        exact hfuel
      · exact ⟨b, rfl⟩

/-- The boundary that the loop ends with is that of the parameters. -/
theorem boundaryFrom_eq {total : ℕ} (ht : total ≤ 0x7fffffff) {fuel b r : ℕ}
    (h : PcmPlugin.boundaryFrom total (fuel + 1) b = some r) : boundaryLoop total fuel b = r := by
  induction fuel generalizing b with
  | zero =>
      unfold PcmPlugin.boundaryFrom at h
      split at h
      · exact Option.some.inj h
      · cases h
  | succ fuel ih =>
      unfold PcmPlugin.boundaryFrom at h
      rw [boundaryStep_eq ht] at h
      unfold boundaryLoop
      split_ifs at h ⊢ with hle
      · exact ih h
      · exact Option.some.inj h

/-- The geometry is one for which the boundary can be computed. -/
def PcmPlugin.Sized (p : PcmPlugin) : Prop :=
  0 < p.totalSizeFrames ∧ p.totalSizeFrames ≤ 0x7fffffff

instance (p : PcmPlugin) : Decidable p.Sized := inferInstanceAs (Decidable (_ ∧ _))

theorem swaps_mapPosBuf (M : PcmMacros) (e : PcmPlugin.MmapEnv) (hp : p.Valid)
    (hbuf : p.bufInfo ≠ none)
    (hsized : p.mode &&& M.pcmNoirq ≠ 0 → p.posBuf = none → p.Sized) :
    clientLedger.Swaps p.holds (p.mapPosBuf M e)
      (fun r => r.2.Valid ∧ ∀ G, p.Of G → r.2.Of G) fun r => r.2.holds := by
  refine swaps_ite (fun _ => swaps_pure ⟨hp, fun _ h => h⟩ rfl) fun hmode => ?_
  cases hpos : p.posBuf with
  | some pos => exact swaps_pure ⟨hp, fun _ h => h⟩ rfl
  | none =>
      refine swaps_bind ((opens_calloc e.posBlock).beside _) fun b _ => ?_
      cases b with
      | error _ => exact swaps_pure ⟨hp, fun _ h => h⟩ (zero_add _)
      | ok block =>
          refine swaps_bind ((swaps_mmap e.posMapped).beside _) fun posBufAddr _ => ?_
          obtain ⟨hlow, hhigh⟩ := hsized hmode hpos
          have hmod : p.totalSizeFrames % 2 ^ 32 = p.totalSizeFrames :=
            Nat.mod_eq_of_lt (by omega)
          obtain ⟨boundary, hends⟩ := boundaryFrom_some hhigh 33 _ hhigh (by omega)
          rw [hmod, hends]
          refine swaps_pure ⟨⟨hp.node, hp.device, fun _ => hbuf⟩, fun G h => ?_⟩ ?_
          · refine ⟨h.channels, h.format, h.periodSize, h.totalSizeFrames, ?_⟩
            rintro _ ⟨rfl⟩
            have hboundary := boundaryFrom_eq hhigh hends
            rw [h.totalSizeFrames] at hboundary
            exact hboundary.symm
          · simp only [Except.toOption, Option.elim, PcmPlugin.holds, PcmPlugin.core,
              PcmPlugin.mapped, hpos]
            abel

/-- Mapping keeps the geometry. -/
theorem swaps_pcmMmap (M : PcmMacros) (length offset : ℕ) (e : PcmPlugin.MmapEnv) (hp : p.Valid)
    (hsized : p.mode &&& M.pcmNoirq ≠ 0 → p.posBuf = none → p.Sized) :
    clientLedger.Swaps p.holds (p.agmPcmMmap M length offset e)
      (fun r => r.2.Valid ∧ ∀ G, p.Of G → r.2.Of G) fun r => r.2.holds := by
  refine swaps_ite (fun _ => swaps_pure ⟨hp, fun _ h => h⟩ rfl) fun _ => ?_
  refine swaps_bind (swaps_mapBufInfo e hp) fun r hr => ?_
  cases r with
  | none => exact swaps_pure ⟨hp, fun _ h => h⟩ rfl
  | some q =>
      obtain ⟨hq, b, rfl⟩ := hr q rfl
      refine swaps_bind (swaps_mapPosBuf M e hq (Option.some_ne_none b) hsized) fun r hr => ?_
      refine swaps_pure ⟨hr.1, fun G h => hr.2 G ?_⟩ rfl
      exact ⟨h.channels, h.format, h.periodSize, h.totalSizeFrames, h.boundary⟩

theorem swaps_pcmMunmap (M : PcmMacros) (ret : ℤ) (hp : p.Valid) :
    clientLedger.Swaps p.holds (p.agmPcmMunmap M ret) (fun r => r.2.Valid) fun r => r.2.holds := by
  refine swaps_ite (fun _ => swaps_pure hp rfl) fun _ => ?_
  cases hpos : p.posBuf with
  | none => exact swaps_pure hp rfl
  | some pos =>
      have hbuf : p.bufInfo.isNone = false := by
        obtain ⟨b, hb⟩ := Option.ne_none_iff_exists'.mp (hp.posBuf (hpos ▸ Option.some_ne_none pos))
        rw [hb]
        rfl
      have hholds : p.holds = mappingOf pos.posBufAddr + ({.block pos.block} +
          PcmPlugin.holds { p with posBuf := none }) := by
        simp only [PcmPlugin.holds, PcmPlugin.core, PcmPlugin.mapped, hpos, Option.elim]
        abel
      dsimp only
      rw [hbuf, if_neg Bool.false_ne_true, hholds]
      refine swaps_drop_bind (swaps_munmap pos.posBufAddr) fun _ _ => ?_
      refine swaps_drop_bind (swaps_free pos.block) fun _ _ => ?_
      exact swaps_pure ⟨hp.node, hp.device, fun h => absurd rfl h⟩ rfl

/-! ### The position of a stream -/

/-- The position of the DSP can be read, and counted in periods. -/
def PcmPlugin.Readable (p : PcmPlugin) : Prop :=
  (p.posBuf.any fun pos => pos.posBufAddr.isSome) = true ∧ p.frameBits ≠ 0 ∧ p.periodSize ≠ 0

instance PcmPlugin.decidableReadable (p : PcmPlugin) : Decidable p.Readable :=
  inferInstanceAs (Decidable (_ ∧ _))

theorem PcmPlugin.Readable.mapping (h : p.Readable) :
    ∃ pos id, p.posBuf = some pos ∧ pos.posBufAddr = some id := by
  have hany := h.1
  cases hpos : p.posBuf with
  | none =>
      rw [hpos] at hany
      cases hany
  | some pos =>
      rw [hpos] at hany
      obtain ⟨id, hid⟩ := Option.isSome_iff_exists.mp hany
      exact ⟨pos, id, rfl, hid⟩

theorem PcmPlugin.mapping_le {pos : PosBufInfo} {id : ℕ} (hpos : p.posBuf = some pos)
    (hid : pos.posBufAddr = some id) : {.mapping id} ≤ p.holds := by
  have hholds : p.holds = {.mapping id} + (p.core + ((p.bufInfo.elim 0 fun b => {.block b.1}) +
      {.block pos.block})) := by
    simp only [PcmPlugin.holds, PcmPlugin.mapped, hpos, hid, mappingOf, Option.elim]
    abel
  rw [hholds]
  exact Multiset.le_add_right _ _

/-- Another position at the same place. -/
structure PosBufInfo.SamePlace (pos pos' : PosBufInfo) : Prop where
  block : pos'.block = pos.block
  posBufAddr : pos'.posBufAddr = pos.posBufAddr

theorem PcmPlugin.holds_samePlace {pos pos' : PosBufInfo} (hpos : p.posBuf = some pos)
    (h : pos.SamePlace pos') : PcmPlugin.holds { p with posBuf := some pos' } = p.holds := by
  simp only [PcmPlugin.holds, PcmPlugin.core, PcmPlugin.mapped, hpos, Option.elim, h.block,
    h.posBufAddr]

theorem PcmPlugin.Valid.samePlace {pos : PosBufInfo} (hp : p.Valid) (hpos : p.posBuf = some pos)
    (pos' : PosBufInfo) : PcmPlugin.Valid { p with posBuf := some pos' } where
  node := hp.node
  device := hp.device
  posBuf _ := hp.posBuf (hpos ▸ Option.some_ne_none pos)

/-- A look changes the position and the time. -/
theorem updatePos_eq (reads : List PosRead) (now : ℕ) (p : PcmPlugin) (pos : PosBufInfo) :
    ∃ posBuf tstamp, (p.updatePos reads now pos).2 = { pos with pos := posBuf, tstamp } := by
  unfold PcmPlugin.updatePos
  cases readPos 10 reads with
  | none => exact ⟨pos.pos, pos.tstamp, rfl⟩
  | some readIndex =>
      dsimp only
      split_ifs
      all_goals exact ⟨_, now, rfl⟩

theorem updatePos_samePlace (reads : List PosRead) (now : ℕ) (p : PcmPlugin) (pos : PosBufInfo) :
    pos.SamePlace (p.updatePos reads now pos).2 := by
  obtain ⟨posBuf, tstamp, heq⟩ := updatePos_eq reads now p pos
  rw [heq]
  exact ⟨rfl, rfl⟩

theorem swaps_posOf {pos : PosBufInfo} (hpos : p.posBuf = some pos) (P : Multiset Holding) :
    clientLedger.Swaps P p.posOf (fun y => y = pos) fun _ => P := by
  unfold PcmPlugin.posOf
  rw [hpos]
  exact swaps_pure rfl rfl

/-- The position is looked at, where it can be read. -/
theorem swaps_updateHwPtr (reads : List PosRead) (now : ℕ) (hread : p.Readable)
    {pos : PosBufInfo} (hpos : p.posBuf = some pos) :
    clientLedger.Swaps p.holds (p.agmPcmPluginUpdateHwPtr reads now)
      (fun r => r = ((p.updatePos reads now pos).1,
        { p with posBuf := some (p.updatePos reads now pos).2 })) fun _ => p.holds := by
  obtain ⟨pos', id, hpos', hid⟩ := hread.mapping
  obtain rfl := Option.some.inj (hpos.symm.trans hpos')
  refine swaps_bind (swaps_posOf hpos _) ?_
  rintro _ rfl
  rw [hid]
  refine swaps_bind ((swaps_readMapping id).within (PcmPlugin.mapping_le hpos hid)) fun _ _ => ?_
  rw [if_neg fun h => h.2.elim hread.2.1 hread.2.2]
  exact swaps_pure rfl rfl

theorem swaps_getAvail (M : PcmMacros) {pos : PosBufInfo} (hpos : p.posBuf = some pos)
    (P : Multiset Holding) :
    clientLedger.Swaps P (p.agmPcmGetAvail M) (fun avail => avail = p.availAt M pos) fun _ =>
      P := by
  refine swaps_ite (fun h => ?_) fun _ => ?_
  · refine swaps_pure ?_ rfl
    unfold PcmPlugin.availAt
    rw [if_neg (not_not.mpr h.1), if_neg (not_not.mpr h.2)]
  · refine swaps_bind (swaps_posOf hpos P) ?_
    rintro _ rfl
    exact swaps_pure rfl rfl

/-- The position and the registers of `agm_pcm_sync_ptr`. -/
theorem swaps_pcmSyncPtr (M : PcmMacros) (reads : List PosRead) (now : ℕ) (s : SyncPtr)
    (hp : p.Valid)
    (hpos : p.mode &&& M.pcmNoirq ≠ 0 → p.handle ≠ 0 → p.bufInfo ≠ none →
      p.posBuf ≠ none ∧ (s.hwsync = true → p.Readable)) :
    clientLedger.Swaps p.holds (p.agmPcmSyncPtr M reads now s) (fun r => r.2.Valid) fun r =>
      r.2.holds := by
  refine swaps_ite (fun _ => swaps_pure hp rfl) fun hmode => ?_
  refine swaps_ite (fun _ => swaps_pure hp rfl) fun hhandle => ?_
  refine swaps_ite (fun _ => swaps_pure hp rfl) fun hbuf => ?_
  obtain ⟨hsome, hread⟩ := hpos hmode hhandle hbuf
  obtain ⟨pos, hpos⟩ := Option.ne_none_iff_exists'.mp hsome
  have hlook : clientLedger.Swaps p.holds
      (if s.hwsync then p.agmPcmPluginUpdateHwPtr reads now else pure (0, p))
      (fun r => ∃ pos', pos.SamePlace pos' ∧ r.2 = { p with posBuf := some pos' }) fun _ =>
        p.holds := by
    refine swaps_ite (fun h => ?_) fun _ => swaps_pure ⟨pos, ⟨rfl, rfl⟩, hpos ▸ rfl⟩ rfl
    refine (swaps_updateHwPtr reads now (hread h) hpos).imp ?_
    rintro _ rfl
    exact ⟨⟨_, updatePos_samePlace reads now p pos, rfl⟩, rfl⟩
  refine swaps_bind hlook ?_
  rintro ⟨ret, q⟩ ⟨pos', hplace, rfl⟩
  have hvalid := hp.samePlace hpos
  have hholds := PcmPlugin.holds_samePlace hpos hplace
  refine swaps_ite (fun _ => swaps_pure (hvalid pos') hholds.symm) fun _ => ?_
  refine swaps_bind (swaps_posOf rfl _) ?_
  rintro _ rfl
  exact swaps_pure (hvalid _) (PcmPlugin.holds_samePlace hpos ⟨hplace.block, hplace.posBufAddr⟩).symm

/-- The plugin as a stream with this geometry. -/
def PcmPlugin.stream (G : PcmParams) (p : PcmPlugin) (pos : PosBufInfo) : PcmStream :=
  { mode := p.mode, params := G, posBuf := pos.pos, applPtr := pos.applPtr }

section geometry
variable {G : PcmParams} {pos : PosBufInfo}

theorem PcmPlugin.Of.updatePos (h : p.Of G) (hpos : p.posBuf = some pos) (reads : List PosRead)
    (now : ℕ) :
    ((p.updatePos reads now pos).1, (p.updatePos reads now pos).2.pos) =
      Agm.agmPcmPluginUpdateHwPtr G reads pos.pos := by
  have hboundary := h.boundary pos hpos
  unfold PcmPlugin.updatePos Agm.agmPcmPluginUpdateHwPtr agmPcmBytesToFrames
  cases readPos 10 reads with
  | none => rfl
  | some readIndex =>
      have hbits : p.frameBits = G.channels * agmFormatToBits G.format % 2 ^ 32 := by
        unfold PcmPlugin.frameBits
        rw [h.channels, h.format, agmFormatBits_code]
      dsimp only
      rw [hbits, h.periodSize, h.totalSizeFrames, hboundary]
      split_ifs <;> rfl

theorem PcmPlugin.Of.availAt (h : p.Of G) (hboundary : pos.boundary = G.boundary) (M : PcmMacros) :
    p.availAt M pos = Agm.agmPcmGetAvail M.toStreamModes (p.stream G pos) := by
  unfold PcmPlugin.availAt Agm.agmPcmGetAvail PcmPlugin.stream
  dsimp only
  rw [hboundary, h.totalSizeFrames]

/-- A poll with less than a period looks at the position, ... -/
theorem swaps_pollUpdate (M : PcmMacros) (reads : List PosRead) (now : ℕ) (avail : ℤ)
    (hread : p.Readable) (hpos : p.posBuf = some pos) :
    clientLedger.Swaps p.holds (p.pollUpdate M reads now avail)
      (fun r => r = (if (p.updatePos reads now pos).1 = 0 then
            p.availAt M (p.updatePos reads now pos).2
          else avail,
        { p with posBuf := some (p.updatePos reads now pos).2 })) fun _ => p.holds := by
  refine swaps_bind (swaps_updateHwPtr reads now hread hpos) ?_
  rintro _ rfl
  refine swaps_ite (fun h => ?_) fun h => ?_
  · refine swaps_bind (swaps_getAvail M rfl _) ?_
    rintro _ rfl
    exact swaps_pure (congrArg₂ Prod.mk (if_pos h).symm rfl) rfl
  · exact swaps_pure (congrArg₂ Prod.mk (if_neg h).symm rfl) rfl

theorem PcmPlugin.Of.poll_enough (h : p.Of G) (hpos : p.posBuf = some pos) (M : PcmMacros)
    (reads : List PosRead) (henough : ¬ p.availAt M pos < p.periodSize) :
    Agm.agmPcmPoll M.toStreamModes reads (p.stream G pos) =
      ⟨(p.pollAnswer M (p.availAt M pos)).1, (p.pollAnswer M (p.availAt M pos)).2,
        p.stream G pos⟩ := by
  have havail := h.availAt (h.boundary pos hpos) M
  have hperiod : (p.stream G pos).params.periodSize = p.periodSize := h.periodSize.symm
  unfold Agm.agmPcmPoll PcmPlugin.pollAnswer
  dsimp only
  rw [← havail, hperiod, if_neg henough]
  change (if p.availAt M pos ≥ _ then if p.mode &&& M.pcmIn ≠ 0 then _ else _ else _) = _
  split_ifs <;> rfl

theorem PcmPlugin.Of.poll_low (h : p.Of G) (hpos : p.posBuf = some pos) (M : PcmMacros)
    (reads : List PosRead) (now : ℕ) (hlow : p.availAt M pos < p.periodSize) :
    let pos' := (p.updatePos reads now pos).2
    let avail := if (p.updatePos reads now pos).1 = 0 then p.availAt M pos' else p.availAt M pos
    Agm.agmPcmPoll M.toStreamModes reads (p.stream G pos) =
      ⟨(p.pollAnswer M avail).1, (p.pollAnswer M avail).2, p.stream G pos'⟩ := by
  have hupdate := h.updatePos hpos reads now
  have havail := h.availAt (h.boundary pos hpos) M
  have hperiod : (p.stream G pos).params.periodSize = p.periodSize := h.periodSize.symm
  have hstream : PcmStream.mk (p.stream G pos).mode G (p.updatePos reads now pos).2.pos
      (p.stream G pos).applPtr = p.stream G (p.updatePos reads now pos).2 := by
    obtain ⟨posBuf, tstamp, heq⟩ := updatePos_eq reads now p pos
    rw [heq]
    rfl
  have havail' : p.availAt M (p.updatePos reads now pos).2 =
      Agm.agmPcmGetAvail M.toStreamModes (p.stream G (p.updatePos reads now pos).2) := by
    refine h.availAt ?_ M
    obtain ⟨posBuf, tstamp, heq⟩ := updatePos_eq reads now p pos
    rw [heq]
    exact h.boundary pos hpos
  dsimp only
  unfold Agm.agmPcmPoll PcmPlugin.pollAnswer
  dsimp only
  rw [← havail, hperiod, if_pos hlow, show (p.stream G pos).params = G from rfl,
    show (p.stream G pos).posBuf = pos.pos from rfl, ← hupdate]
  dsimp only
  simp only [hstream, ← havail']
  change (if _ ≥ _ then if p.mode &&& M.pcmIn ≠ 0 then _ else _ else _) = _
  generalize (if (p.updatePos reads now pos).1 = 0 then
    p.availAt M (p.updatePos reads now pos).2 else p.availAt M pos) = avail
  split_ifs <;> rfl

/-- ... and a poll answers what it answers for the stream. -/
theorem swaps_pcmPoll (M : PcmMacros) (reads : List PosRead) (now : ℕ) (hread : p.Readable)
    (hpos : p.posBuf = some pos) :
    clientLedger.Swaps p.holds (p.agmPcmPoll M reads now)
      (fun r => ∃ pos', pos.SamePlace pos' ∧ r.2 = { p with posBuf := some pos' } ∧
        ∀ G, p.Of G → Agm.agmPcmPoll M.toStreamModes reads (p.stream G pos) =
          ⟨r.1.1, r.1.2, p.stream G pos'⟩) fun _ => p.holds := by
  refine swaps_bind (swaps_getAvail M hpos _) ?_
  rintro _ rfl
  by_cases hlow : p.availAt M pos < p.periodSize
  · rw [if_pos hlow]
    refine swaps_bind (swaps_pollUpdate M reads now _ hread hpos) ?_
    rintro _ rfl
    exact swaps_pure ⟨_, updatePos_samePlace reads now p pos, rfl, fun G hG =>
      hG.poll_low hpos M reads now hlow⟩ rfl
  · rw [if_neg hlow]
    exact swaps_pure ⟨pos, ⟨rfl, rfl⟩, hpos ▸ rfl, fun G hG =>
      hG.poll_enough hpos M reads hlow⟩ rfl

end geometry

/-- Closing leaves what `agm_pcm_mmap` has taken. -/
theorem swaps_pcmClose (ret : ℤ) (p : PcmPlugin) :
    clientLedger.Swaps p.holds (p.agmPcmClose ret) (fun r => ∀ q ∈ r.2, q = p) fun r =>
      r.2.elim p.mapped PcmPlugin.holds := by
  refine swaps_ite (fun _ => swaps_pure (by rintro _ ⟨rfl⟩; rfl) rfl) fun _ => ?_
  unfold PcmPlugin.holds PcmPlugin.core
  simp only [add_assoc]
  refine swaps_drop_bind (swaps_closeSession p.handle) fun _ _ => ?_
  refine swaps_drop_bind (swaps_putCard p.cardNode) fun _ _ => ?_
  refine swaps_drop_bind (swaps_free p.bufferBlock) fun _ _ => ?_
  refine swaps_drop_bind (swaps_free p.mediaBlock) fun _ _ => ?_
  refine swaps_drop_bind (swaps_free p.sessionBlock) fun _ _ => ?_
  refine swaps_drop_bind (swaps_free p.priv) fun _ _ => ?_
  refine swaps_drop_bind (swaps_free p.plugin) fun _ _ => ?_
  exact swaps_pure (by rintro _ ⟨⟩) rfl

end specs

end Agm
