import Agm.CompressCodec
import Agm.PcmCalls

/-! # The calls of the compress plugin (`agm_compress_plugin.c`)

`ComprPlugin` is the plugin with its private data.  As for the pcm plugin, what a plugin holds is a
part of the ledger of the process (`ComprPlugin.holds`): besides its blocks, its card and its
session it holds the callback that was registered with the plugin as `client_data`.

`agm_compress_close` does not look at the code of `agm_session_register_cb`: a callback that was not
removed is left behind (`ComprPlugin.orphan`). -/

namespace Agm

open Prog

/-- `struct snd_compr_caps`. -/
structure SndComprCaps where
  direction : Direction := .unset
  minFragmentSize : ℕ := 0
  maxFragmentSize : ℕ := 0
  minFragments : ℕ := 0
  maxFragments : ℕ := 0
  codecs : List SndAudioCodec := []
deriving DecidableEq, Repr

/-- `struct snd_compr_tstamp`. -/
structure SndComprTstamp where
  samplingRate : ℕ := 0
  copiedTotal : ℕ := 0
  pcmIoFrames : ℕ := 0
deriving DecidableEq, Repr

/-- `struct compress_plugin` and `struct agm_compress_priv`; `books` is the part of the latter that
accounts for the bytes. -/
structure ComprPlugin where
  plugin : ℕ
  privBlock : ℕ
  card : ℕ
  node : DevPtr
  handle : ℕ
  cardNode : ℕ × SndDevDefCard
  sessionId : ℕ
  mediaConfig : MediaConfig := {}
  sessionConfig : SessionConfig := zeroedSessionConfig
  comprCap : SndComprCaps := {}
  books : CompressPriv := ⟨0, 0, 0, 0, false, 0, 0, 0, false, false, []⟩
deriving DecidableEq, Repr

/-- `agm_populate_codec_caps`. -/
def agmPopulateCodecCaps : SndComprCaps where
  direction := .rx
  minFragmentSize := 8 * 1024
  maxFragmentSize := 128 * 1024
  minFragments := 4
  maxFragments := 16
  codecs := [.mp3, .aac, .wma, .flac, .vorbis, .alac, .ape]

/-- The plugin has a format for every codec that it announces. -/
theorem agmFormat_caps : ∀ id ∈ agmPopulateCodecCaps.codecs, id.agmFormat ≠ none := by decide

/-! ### Callbacks -/

/-- `agm_session_register_cb` with `AGM_EVENT_DATA_PATH` and the plugin as `client_data`. -/
def clientRegisterCb (sessionId plugin : ℕ) (ret : ℤ) : ClientM (Except ℤ Unit) :=
  if ret ≠ 0 then pure (.error ret)
  else do
    takeHolding (.callback sessionId plugin)
    pure (.ok ())

/-- `agm_session_register_cb` without a function, which removes it. -/
def clientRemoveCb (sessionId plugin : ℕ) (ret : ℤ) : ClientM Unit :=
  if ret ≠ 0 then pure () else giveHolding (.callback sessionId plugin)

/-! ### Opening -/

/-- What `agm_compress_plugin_open` meets. -/
structure ComprOpenEnv where
  plugin : Bool := true
  priv : Bool := true
  cards : CardEnv := {}
  /-- The code of `agm_session_open`, and the handle. -/
  session : ℤ × ℕ := (0, 1)
  /-- The code of `agm_session_register_cb`. -/
  registerCb : ℤ := 0

/-- The end of `agm_compress_plugin_open`: the session and its callback. -/
def comprOpenSession (dir : Direction) (card device : ℕ) (e : ComprOpenEnv) (plugin privBlock : ℕ)
    (cardNode : ℕ × SndDevDefCard) (node : DevPtr) (isHostless : ℤ) :
    ClientM (Except ℤ ComprPlugin) :=
  unwinding (clientSessionOpen e.session) clientSessionClose fun handle => do
    let r ← clientRegisterCb device plugin e.registerCb
    match r with
    | .error ret => pure (.error ret)
    | .ok () =>
        pure (.ok
          { plugin, privBlock, card, node, handle, cardNode
            sessionId := device
            sessionConfig := { zeroedSessionConfig with dir, isHostless := isHostless ≠ 0 }
            comprCap := agmPopulateCodecCaps })

/-- `agm_compress_plugin_open` from `snd_card_def_get_node` on; a direction that the device does not
support ends at the label with `ret` still 0. -/
def comprOpenNode (compressIn card device flags : ℕ) (e : ComprOpenEnv) (plugin privBlock : ℕ)
    (cardNode : ℕ × SndDevDefCard) : ClientM (Except ℤ ComprPlugin) := do
  let comprNode ←
    onCache .inCards (sndCardDefGetNode (some cardNode.1) device SND_NODE_TYPE_COMPR)
  match comprNode with
  | none => pure (.error (-EINVAL))
  | some node => do
      let isPlayback ← onCache .inCards (sndCardDefGetInt (some node) "playback".toList)
      if isPlayback.1 ≠ 0 then pure (.error isPlayback.1)
      else do
        let isCapture ← onCache .inCards (sndCardDefGetInt (some node) "capture".toList)
        if isCapture.1 ≠ 0 then pure (.error isCapture.1)
        else do
          let isHostless ← onCache .inCards (sndCardDefGetInt (some node) "hostless".toList)
          if isHostless.1 ≠ 0 then pure (.error isHostless.1)
          else do
            let dir := if flags &&& compressIn ≠ 0 then Direction.rx else .tx
            if dir = .rx ∧ isPlayback.2.getD 0 = 0 then pure (.error 0)
            else if dir = .tx ∧ isCapture.2.getD 0 = 0 then pure (.error 0)
            else
              comprOpenSession dir card device e plugin privBlock cardNode node
                (isHostless.2.getD 0)

/-- `agm_compress_plugin_open` (`COMPRESS_PLUGIN_OPEN_FN`); the code at the labels is made negative
by the caller, and `compressIn` is `COMPRESS_IN`. -/
def agmCompressPluginOpen (compressIn card device flags : ℕ) (e : ComprOpenEnv) :
    ClientM (Except ℤ ComprPlugin) :=
  unwinding (clientCalloc e.plugin) clientFree fun plugin =>
  unwinding (clientCalloc e.priv) clientFree fun privBlock =>
  unwinding (clientGetCard card e.cards) clientPutCard fun cardNode =>
    comprOpenNode compressIn card device flags e plugin privBlock cardNode

namespace ComprPlugin

/-! ### The calls -/

/-- The calls that are handed to the session: `agm_compress_start`, `agm_compress_pause` and
`agm_compress_resume`. -/
def toSession (ret : ℤ) (p : ComprPlugin) : ClientM ℤ :=
  if p.handle = 0 then pure (-EINVAL) else clientSessionCall p.handle ret

def agmCompressStart (ret : ℤ) (p : ComprPlugin) : ClientM ℤ := p.toSession ret

def agmCompressPause (ret : ℤ) (p : ComprPlugin) : ClientM ℤ := p.toSession ret

def agmCompressResume (ret : ℤ) (p : ComprPlugin) : ClientM ℤ := p.toSession ret

/-- `agm_compress_get_caps`; `caps` says whether there is a place for them. -/
def agmCompressGetCaps (caps : Bool) (p : ComprPlugin) : ℤ × Option SndComprCaps :=
  if p.handle = 0 then (-EINVAL, none)
  else if caps then (0, some p.comprCap)
  else (-EINVAL, none)

/-- `agm_compress_set_params`; `ret` is the code of `agm_session_set_config`. -/
def agmCompressSetParams (H : ComprHeaders) (fragments fragmentSize : ℕ) (codec : SndCodec)
    (ret : ℤ) (p : ComprPlugin) : ClientM (ℤ × ComprPlugin) :=
  if p.handle = 0 then pure (-EINVAL, p)
  else
    match agmSessionUpdateCodecConfig H codec p.mediaConfig p.sessionConfig.codec with
    | none => Prog.fault (.crash .outOfBounds)
    | some (mediaConfig, codec) => do
        let r ← clientSessionCall p.handle ret
        pure (r, { p with
          mediaConfig
          sessionConfig := { p.sessionConfig with
            codec
            startThreshold := 0
            stopThreshold := 0
            dataMode := .nonBlocking }
          books := agmCompressSetParamsOn p.sessionConfig.dir fragments fragmentSize p.books })

/-- `agm_compress_tstamp`, on a record; `time` is what `agm_get_session_time` answers. -/
def agmCompressTstamp (time : ℤ × ℕ) (tstamp : SndComprTstamp) (p : ComprPlugin) :
    ClientM (ℤ × SndComprTstamp) :=
  if p.handle = 0 then pure (-EINVAL, tstamp)
  else do
    let tstamp := { tstamp with
      samplingRate := p.mediaConfig.rate
      copiedTotal := p.books.bytesCopied % 2 ^ 32 }
    let r ← clientSessionCall p.handle time.1
    if r ≠ 0 then pure (r, tstamp)
    else pure (0, { tstamp with
      pcmIoFrames := time.2 * tstamp.samplingRate % 2 ^ 64 / 1000000 % 2 ^ 32 })

/-- `agm_compress_avail`, which does not look at the code of `agm_compress_tstamp`. -/
def agmCompressAvail (time : ℤ × ℕ) (tstamp : SndComprTstamp) (p : ComprPlugin) :
    ClientM (ℤ × Option (SndComprTstamp × ℤ)) :=
  if p.handle = 0 then pure (-EINVAL, none)
  else do
    let r ← p.agmCompressTstamp time tstamp
    pure (0, some (r.2, p.books.bytesAvail % 2 ^ 64))

/-- `agm_compress_write`; `prepare` and `write` are the codes of the session, and `size` is what it
took. -/
def agmCompressWrite (count : ℕ) (prepare write : ℤ) (size : ℕ) (p : ComprPlugin) :
    ClientM (ℤ × ComprPlugin) :=
  if p.handle = 0 then pure (-EINVAL, p)
  else do
    let begun := agmCompressWriteBegin count prepare p.books
    if begun.1 ≠ 0 then pure (begun.1, p)
    else do
      let p := { p with books := begun.2 }
      let r ← clientSessionCall p.handle write
      if r ≠ 0 then pure (r, p)
      else if p.books.size = 0 then Prog.fault .divByZero
      else
        let ended := agmCompressWriteEnd size p.books
        pure (ended.1, { p with books := ended.2 })

/-- `agm_compress_read`. -/
def agmCompressRead (count : ℕ) (read : ℤ) (size : ℕ) (p : ComprPlugin) :
    ClientM (ℤ × ComprPlugin) :=
  if p.handle = 0 then pure (-EINVAL, p)
  else if agmCompressReadBegin count p.books ≠ 0 then pure (-EINVAL, p)
  else do
    let r ← clientSessionCall p.handle read
    if r < 0 then pure (r, p)
    else if p.books.size = 0 then Prog.fault .divByZero
    else pure (0, { p with books := agmCompressReadEnd size p.books })

/-- `agm_compress_stop`; the waiters are woken before the session is called. -/
def agmCompressStop (ret : ℤ) (p : ComprPlugin) : ClientM (ℤ × ComprPlugin) :=
  if p.handle = 0 then pure (-EINVAL, p)
  else do
    let r ← clientSessionCall p.handle ret
    pure (r, { p with books := Agm.agmCompressStop r p.books })

/-- `agm_compress_drain` up to where it waits. -/
def agmCompressDrain (ret : ℤ) (p : ComprPlugin) : ClientM (ℤ × ComprPlugin) :=
  if p.handle = 0 then pure (-EINVAL, p)
  else do
    let r ← clientSessionCall p.handle ret
    pure (r, { p with books := { p.books with eos := true } })

/-- The calls without gapless playback: `agm_compress_partial_drain` and `agm_compress_next_track`
only look at the handle. -/
def withoutGapless (p : ComprPlugin) : ℤ := if p.handle = 0 then -EINVAL else 0

def agmCompressPartialDrain (p : ComprPlugin) : ℤ := p.withoutGapless

def agmCompressNextTrack (p : ComprPlugin) : ℤ := p.withoutGapless

/-- `agm_compress_poll`, with `revents`; `waited` is the code of the wait. -/
def agmCompressPoll (waited : ℤ) (revents : ℕ) (p : ComprPlugin) : ℤ × ℕ :=
  if p.handle = 0 then (-EINVAL, revents)
  else if waited = ETIMEDOUT then (0, revents)
  else (POLLOUT, revents ||| POLLOUT)

/-- `agm_compress_event_cb` with the plugin as `client_data`. -/
def agmCompressEventCb (event : DataEvent) (p : ComprPlugin) : ComprPlugin :=
  { p with books := Agm.agmCompressEventCb event p.books }

/-- `agm_compress_close`, which keeps a plugin without a handle; `removeCb` is the code of
`agm_session_register_cb`. -/
def agmCompressClose (removeCb : ℤ) (p : ComprPlugin) : ClientM (Option ComprPlugin) :=
  if p.handle = 0 then pure (some p)
  else do
    clientRemoveCb p.sessionId p.plugin removeCb
    clientSessionClose p.handle
    clientPutCard p.cardNode
    clientFree p.privBlock
    clientFree p.plugin
    pure none

/-! ### What a plugin holds -/

/-- What the plugin holds, in the order in which closing gives it back. -/
def holds (p : ComprPlugin) : Multiset Holding :=
  {.callback p.sessionId p.plugin} + ({.session p.handle} +
    ({.card p.cardNode.1 p.cardNode.2} + ({.block p.privBlock} + {.block p.plugin})))

/-- The callback that is left when its removal has failed. -/
def orphan (removeCb : ℤ) (p : ComprPlugin) : Multiset Holding :=
  if removeCb ≠ 0 then {.callback p.sessionId p.plugin} else 0

/-- The node is a device of the card, and the codec has the bytes of the union. -/
structure Valid (p : ComprPlugin) : Prop where
  node : p.node.card = p.cardNode.1
  device : ∃ dev, (p.cardNode.2.devs p.node.nodeType)[p.node.index]? = some dev ∧
    dev.device = p.sessionId
  codec : p.sessionConfig.codec.length = codecSize

end ComprPlugin

/-! ### What the calls do to it -/

section specs
variable {p : ComprPlugin}

theorem opens_registerCb (sessionId plugin : ℕ) (ret : ℤ) :
    clientLedger.Opens 0 (clientRegisterCb sessionId plugin ret) (fun _ => True) fun _ =>
      {.callback sessionId plugin} := by
  refine opens_ite (fun _ => opens_error) fun _ => ?_
  exact swaps_bind (swaps_take (by rintro a c ⟨⟩) rfl) fun _ _ =>
    swaps_pure (fun _ _ => trivial) rfl

/-- Removing a callback, and going on. -/
theorem swaps_removeCb (sessionId plugin : ℕ) (ret : ℤ) :
    clientLedger.Swaps {.callback sessionId plugin} (clientRemoveCb sessionId plugin ret)
      (fun _ => True) fun _ => if ret ≠ 0 then {.callback sessionId plugin} else 0 := by
  refine swaps_ite (fun h => swaps_pure trivial (if_pos h).symm) fun h => ?_
  rw [if_neg h]
  exact swaps_give (by rintro a c ⟨⟩)

theorem opens_comprSession (dir : Direction) (card device : ℕ) (e : ComprOpenEnv)
    (plugin privBlock : ℕ) (cardNode : ℕ × SndDevDefCard) {node : DevPtr} (isHostless : ℤ)
    (hcard : node.card = cardNode.1) {dev : SndDevDef}
    (hdev : (cardNode.2.devs node.nodeType)[node.index]? = some dev) (hid : dev.device = device) :
    clientLedger.Opens ({.card cardNode.1 cardNode.2} + ({.block privBlock} +
        ({.block plugin} + 0)))
      (comprOpenSession dir card device e plugin privBlock cardNode node isHostless)
      ComprPlugin.Valid ComprPlugin.holds := by
  refine opens_unwinding (opens_session e.session) (fun handle _ => ?_) fun h _ =>
    swaps_closeSession h
  refine swaps_bind ((opens_registerCb device plugin e.registerCb).beside _) fun r _ => ?_
  cases r with
  | error e => exact swaps_pure (by rintro _ ⟨⟩) (zero_add _)
  | ok u =>
      refine swaps_pure ?_ ?_
      · rintro _ ⟨rfl⟩
        exact ⟨hcard, ⟨dev, hdev, hid⟩, rfl⟩
      · simp only [Except.toOption, Option.elim, ComprPlugin.holds, add_zero]

theorem opens_comprNode (compressIn card device flags : ℕ) (e : ComprOpenEnv)
    (plugin privBlock : ℕ) (cardNode : ℕ × SndDevDefCard) :
    clientLedger.Opens ({.card cardNode.1 cardNode.2} + ({.block privBlock} +
        ({.block plugin} + 0)))
      (comprOpenNode compressIn card device flags e plugin privBlock cardNode)
      ComprPlugin.Valid ComprPlugin.holds := by
  have hle := Multiset.le_add_right {Holding.card cardNode.1 cardNode.2}
    ({.block privBlock} + ({.block plugin} + 0))
  refine opens_after ((swaps_getNode cardNode device SND_NODE_TYPE_COMPR).within hle) ?_
  rintro node hnode
  cases node with
  | none => exact opens_error
  | some node =>
      obtain ⟨hcard, dev, hdev, hfirst⟩ := SndDevDefCard.findNode_dev hnode.symm
      have hid : dev.device = device := by simpa using List.find?_some hfirst
      refine opens_after ((swaps_getInt hcard hdev _).within hle) fun isPlayback _ => ?_
      refine opens_ite (fun _ => opens_error) fun _ => ?_
      refine opens_after ((swaps_getInt hcard hdev _).within hle) fun isCapture _ => ?_
      refine opens_ite (fun _ => opens_error) fun _ => ?_
      refine opens_after ((swaps_getInt hcard hdev _).within hle) fun isHostless _ => ?_
      refine opens_ite (fun _ => opens_error) fun _ => ?_
      refine opens_ite (fun _ => opens_error) fun _ => ?_
      refine opens_ite (fun _ => opens_error) fun _ => ?_
      exact opens_comprSession _ card device e plugin privBlock cardNode _ hcard hdev hid

theorem opens_compr (compressIn card device flags : ℕ) {e : ComprOpenEnv}
    (he : e.cards.parsed = true) :
    clientLedger.Opens 0 (agmCompressPluginOpen compressIn card device flags e) ComprPlugin.Valid
      ComprPlugin.holds := by
  refine opens_unwinding (opens_calloc _) (fun plugin _ => ?_) fun id _ => swaps_free id
  refine opens_unwinding (opens_calloc _) (fun privBlock _ => ?_) fun id _ => swaps_free id
  refine opens_unwinding (opens_getCard card he) (fun cardNode _ => ?_) fun r _ => swaps_putCard r
  exact opens_comprNode compressIn card device flags e plugin privBlock cardNode

theorem ComprPlugin.session_le (p : ComprPlugin) : {.session p.handle} ≤ p.holds := by
  unfold ComprPlugin.holds
  rw [add_left_comm]
  exact Multiset.le_add_right _ _

/-- A call on the session of a plugin. -/
theorem swaps_comprCall (ret : ℤ) (p : ComprPlugin) :
    clientLedger.Swaps p.holds (clientSessionCall p.handle ret) (fun r => r = ret) fun _ =>
      p.holds :=
  (swaps_sessionCall p.handle ret).within p.session_le

theorem swaps_comprToSession (ret : ℤ) (p : ComprPlugin) :
    clientLedger.Swaps p.holds (p.toSession ret) (fun _ => True) fun _ => p.holds := by
  refine swaps_ite (fun _ => swaps_pure trivial rfl) fun _ => ?_
  exact (swaps_comprCall ret p).imp fun _ _ => ⟨trivial, rfl⟩

theorem swaps_comprSetParams (H : ComprHeaders) (fragments fragmentSize : ℕ) (codec : SndCodec)
    (ret : ℤ) (hp : p.Valid) :
    clientLedger.Swaps p.holds (p.agmCompressSetParams H fragments fragmentSize codec ret)
      (fun r => r.2.Valid) fun r => r.2.holds := by
  refine swaps_ite (fun _ => swaps_pure hp rfl) fun _ => ?_
  obtain ⟨codec', hrun, hlen, -⟩ := updateCodecConfig_run H codec p.mediaConfig hp.codec
  rw [hrun]
  refine swaps_bind (swaps_comprCall ret p) fun r _ => ?_
  exact swaps_pure ⟨hp.node, hp.device, hlen⟩ rfl

theorem swaps_comprTstamp (time : ℤ × ℕ) (tstamp : SndComprTstamp) (p : ComprPlugin) :
    clientLedger.Swaps p.holds (p.agmCompressTstamp time tstamp) (fun _ => True) fun _ =>
      p.holds := by
  refine swaps_ite (fun _ => swaps_pure trivial rfl) fun _ => ?_
  refine swaps_bind (swaps_comprCall time.1 p) fun r _ => ?_
  exact swaps_ite (fun _ => swaps_pure trivial rfl) fun _ => swaps_pure trivial rfl

theorem swaps_comprAvail (time : ℤ × ℕ) (tstamp : SndComprTstamp) (p : ComprPlugin) :
    clientLedger.Swaps p.holds (p.agmCompressAvail time tstamp) (fun _ => True) fun _ =>
      p.holds := by
  refine swaps_ite (fun _ => swaps_pure trivial rfl) fun _ => ?_
  exact swaps_bind (swaps_comprTstamp time tstamp p) fun _ _ => swaps_pure trivial rfl

theorem writeBegin_size (count : ℕ) (prepare : ℤ) (priv : CompressPriv) :
    (agmCompressWriteBegin count prepare priv).2.size = priv.size := by
  unfold agmCompressWriteBegin
  split_ifs <;> rfl

theorem swaps_comprWrite (count : ℕ) (prepare write : ℤ) (size : ℕ) (hp : p.Valid)
    (hsize : p.books.size ≠ 0) :
    clientLedger.Swaps p.holds (p.agmCompressWrite count prepare write size) (fun r => r.2.Valid)
      fun r => r.2.holds := by
  refine swaps_ite (fun _ => swaps_pure hp rfl) fun _ => ?_
  refine swaps_ite (fun _ => swaps_pure hp rfl) fun _ => ?_
  refine swaps_bind (swaps_comprCall write p) fun r _ => ?_
  refine swaps_ite (fun _ => swaps_pure ⟨hp.node, hp.device, hp.codec⟩ rfl) fun _ => ?_
  rw [if_neg ((writeBegin_size count prepare p.books).symm ▸ hsize)]
  exact swaps_pure ⟨hp.node, hp.device, hp.codec⟩ rfl

theorem swaps_comprRead (count : ℕ) (read : ℤ) (size : ℕ) (hp : p.Valid)
    (hsize : p.books.size ≠ 0) :
    clientLedger.Swaps p.holds (p.agmCompressRead count read size) (fun r => r.2.Valid) fun r =>
      r.2.holds := by
  refine swaps_ite (fun _ => swaps_pure hp rfl) fun _ => ?_
  refine swaps_ite (fun _ => swaps_pure hp rfl) fun _ => ?_
  refine swaps_bind (swaps_comprCall read p) fun r _ => ?_
  refine swaps_ite (fun _ => swaps_pure hp rfl) fun _ => ?_
  rw [if_neg hsize]
  exact swaps_pure ⟨hp.node, hp.device, hp.codec⟩ rfl

theorem swaps_comprStop (ret : ℤ) (hp : p.Valid) :
    clientLedger.Swaps p.holds (p.agmCompressStop ret) (fun r => r.2.Valid) fun r =>
      r.2.holds := by
  refine swaps_ite (fun _ => swaps_pure hp rfl) fun _ => ?_
  refine swaps_bind (swaps_comprCall ret p) fun r _ => ?_
  exact swaps_pure ⟨hp.node, hp.device, hp.codec⟩ rfl

theorem swaps_comprDrain (ret : ℤ) (hp : p.Valid) :
    clientLedger.Swaps p.holds (p.agmCompressDrain ret) (fun r => r.2.Valid) fun r =>
      r.2.holds := by
  refine swaps_ite (fun _ => swaps_pure hp rfl) fun _ => ?_
  refine swaps_bind (swaps_comprCall ret p) fun r _ => ?_
  exact swaps_pure ⟨hp.node, hp.device, hp.codec⟩ rfl

/-- Closing leaves a callback that could not be removed. -/
theorem swaps_comprClose (removeCb : ℤ) (p : ComprPlugin) :
    clientLedger.Swaps p.holds (p.agmCompressClose removeCb) (fun r => ∀ q ∈ r, q = p) fun r =>
      r.elim (p.orphan removeCb) ComprPlugin.holds := by
  refine swaps_ite (fun _ => swaps_pure (by rintro _ ⟨rfl⟩; rfl) rfl) fun _ => ?_
  unfold ComprPlugin.holds
  refine swaps_bind ((swaps_removeCb p.sessionId p.plugin removeCb).frame _) fun _ _ => ?_
  rw [add_comm]
  simp only [add_assoc]
  refine swaps_drop_bind (swaps_closeSession p.handle) fun _ _ => ?_
  refine swaps_drop_bind (swaps_putCard p.cardNode) fun _ _ => ?_
  refine swaps_drop_bind (swaps_free p.privBlock) fun _ _ => ?_
  refine swaps_drop_bind (swaps_free p.plugin) fun _ _ => ?_
  exact swaps_pure (by rintro _ ⟨⟩) rfl

end specs

end Agm
