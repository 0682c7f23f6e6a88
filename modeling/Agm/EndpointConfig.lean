import Agm.CompressedFormat
import Agm.EndpointName

/-! # What the DSP is told of an endpoint

The kernel names the PCM of an interface, `device_init` takes the name apart, and when a graph is
prepared `configure_hw_ep` sends the interface of the device to its endpoint module: first the media
format of the device, then a struct that ACDB fills in for the number of channels and in which the
service replaces what only the name tells.

* **The structs of the DSP** (`EndpointHeaders`) come from its headers; only the fields that the
  service writes are named.
* **`EndpointEnv`** is what the memory and GSL answer.
* **`messagesOf`** is what the endpoint has to be told, one constructor a payload.

`interface_told`: of every interface that `device_init` has found nothing else is sent, in this
order, with the values that its name spells; and exactly one kind of interface can be left without
its struct though the configuration succeeds. -/

namespace Agm

open Block

/-! ### The headers of the DSP -/

/-- The fields of `struct param_id_hw_ep_mf_t`. -/
inductive HwEpMfField where
  | sampleRate | bitWidth | numChannels | dataFormat
deriving DecidableEq, Repr

/-- The fields that are written in the structs of CODEC_DMA, I2S, TDM and AUXPCM. -/
inductive IntfField where
  | lpaifType | intfIdx
deriving DecidableEq, Repr

/-- The field that is written in `struct param_id_slimbus_cfg_t`. -/
inductive SlimbusField where
  | slimbusDevId
deriving DecidableEq, Repr

/-- What the headers of the DSP define for endpoints; `pcmIntfIdx` are the values of
`PCM_INTF_IDX_*`. -/
structure EndpointHeaders where
  dsp : DspHeaders
  hwEpMf : Layout HwEpMfField
  codecDmaIntfCfg : Layout IntfField
  i2sIntfCfg : Layout IntfField
  tdmIntfCfg : Layout IntfField
  hwPcmIntfCfg : Layout IntfField
  slimbusCfg : Layout SlimbusField
  paramIdHwEpMfCfg : ℕ
  channels : ℕ
  sbMaxChanCnt : ℕ
  lpaifType : LpaifType → ℕ
  pcmIntfIdx : IntfIdx → ℕ
  size_lt : ∀ size ∈ [hwEpMf.size, codecDmaIntfCfg.size, i2sIntfCfg.size, tdmIntfCfg.size,
    hwPcmIntfCfg.size, slimbusCfg.size], dsp.paramData.size + size < 2 ^ 30

/-- The value of an index; those of a codec are defined in `device_hw_ep.c`. -/
def EndpointHeaders.intfIdx (E : EndpointHeaders) : IntfIdx → ℕ
  | .codec n => n
  | idx => E.pcmIntfIdx idx

/-- What the memory and GSL answer.  `gsl_get_tagged_data` fills in as many bytes as it is given at
most; `gsl_set_custom_config` may answer each payload in its own way, and its first argument counts
those before. -/
structure EndpointEnv (sizeBits : ℕ) where
  heap : Heap sizeBits
  kvpMem : Bool
  getTaggedData : ModuleInfo → List KeyValue → ℕ → ℤ × Payload
  setCustomConfig : ℕ → Payload → ℤ
  fills : ∀ mod kvp size, (getTaggedData mod kvp size).2.length ≤ size

/-! ### The device -/

/-- What the configuration reads of a device. -/
structure Endpoint where
  hwEpInfo : HwEpInfo
  mediaConfig : MediaConfig
deriving DecidableEq, Repr

/-- `ep_config.cdc_dma_i2s_tdm_config`; `none` where the union holds another member. -/
def HwEpConfig.cdcDmaI2sTdmConfig : HwEpConfig → Option (LpaifType × IntfIdx)
  | cdcDmaI2sTdm lpaifType intfIdx => some (lpaifType, intfIdx)
  | _ => none

/-- `ep_config.slim_config.dev_id`. -/
def HwEpConfig.slimConfig : HwEpConfig → Option ℕ
  | slim devId => some devId
  | _ => none

/-! ### Configuring -/

/-- The return value and the payloads that GSL was given, in order. -/
structure EndpointSent where
  ret : ℤ
  payloads : List Payload
deriving DecidableEq, Repr

section configure
variable (E : EndpointHeaders) (env : EndpointEnv E.dsp.sizeBits) (mod : ModuleInfo)
  (devObj : Endpoint)

/-- The size of a payload of the parameter header and one struct. -/
def EndpointHeaders.payloadSize {F : Type} (cfg : Layout F) : ℕ :=
  alignPayload E.dsp.sizeBits (E.dsp.paramData.size + cfg.size) 8

/-- The header and the media format as `configure_hw_ep_media_config` writes them. -/
def writeHwEpMf (payloadSize : ℕ) : Access Unit := do
  let header := 0
  let hwEpMediaConf := E.dsp.paramData.size
  E.dsp.paramData.set header .moduleInstanceId mod.miid
  E.dsp.paramData.set header .paramId E.paramIdHwEpMfCfg
  E.dsp.paramData.set header .errorCode 0
  E.dsp.paramData.set header .paramSize payloadSize
  E.hwEpMf.set hwEpMediaConf .sampleRate devObj.mediaConfig.rate
  E.hwEpMf.set hwEpMediaConf .bitWidth (getPcmBitWidth devObj.mediaConfig.format)
  E.hwEpMf.set hwEpMediaConf .numChannels devObj.mediaConfig.channels
  E.hwEpMf.set hwEpMediaConf .dataFormat devObj.mediaConfig.dataFormat

/-- `configure_hw_ep_media_config`; here and below `none` stands for an access outside the payload,
or to a member that the union does not hold. -/
def configureHwEpMediaConfig : Option EndpointSent :=
  let payloadSize := E.payloadSize E.hwEpMf
  if env.heap.serves payloadSize then
    match writeHwEpMf E mod devObj payloadSize (List.replicate payloadSize 0) with
    | none => none
    | some (_, payload) =>
        some ⟨arErrGetLnxErrCode (env.setCustomConfig 0 payload), [payload]⟩
  else some ⟨-ENOMEM, []⟩

/-- The tag key vector of the calls below. -/
def channelsKvp : List KeyValue := [⟨E.channels, devObj.mediaConfig.channels⟩]

/-- The payload as ACDB leaves it. -/
def taggedPayload {F : Type} (cfg : Layout F) : Payload :=
  splice (List.replicate (E.payloadSize cfg) 0)
    (env.getTaggedData mod (channelsKvp E devObj) (E.payloadSize cfg)).2 0

/-- The body of the five functions below: `write` changes the struct at the offset it is given, and
`sent` are the payloads that GSL was given before. -/
def configureIntfEp {F : Type} (cfg : Layout F) (write : ℕ → Access Unit) (sent : List Payload) :
    Option EndpointSent :=
  if env.heap.serves (E.payloadSize cfg) then
    if env.kvpMem then
      let ret := (env.getTaggedData mod (channelsKvp E devObj) (E.payloadSize cfg)).1
      if ret ≠ 0 then some ⟨arErrGetLnxErrCode ret, sent⟩
      else
        match write E.dsp.paramData.size (taggedPayload E env mod devObj cfg) with
        | none => none
        | some (_, payload) =>
            some ⟨arErrGetLnxErrCode (env.setCustomConfig sent.length payload), sent ++ [payload]⟩
    else some ⟨-ENOMEM, sent⟩
  else some ⟨-ENOMEM, sent⟩

/-- `cfg->lpaif_type` and `cfg->intf_idx` of a struct. -/
def writeIntfCfg (cfg : Layout IntfField) (base : ℕ) : Access Unit :=
  match devObj.hwEpInfo.epConfig.cdcDmaI2sTdmConfig with
  | none => fun _ => none
  | some (lpaifType, intfIdx) => do
      cfg.set base .lpaifType (E.lpaifType lpaifType)
      cfg.set base .intfIdx (E.intfIdx intfIdx)

def configureCodecDmaEp : List Payload → Option EndpointSent :=
  configureIntfEp E env mod devObj E.codecDmaIntfCfg (writeIntfCfg E devObj E.codecDmaIntfCfg)

def configureI2sEp : List Payload → Option EndpointSent :=
  configureIntfEp E env mod devObj E.i2sIntfCfg (writeIntfCfg E devObj E.i2sIntfCfg)

def configureTdmEp : List Payload → Option EndpointSent :=
  configureIntfEp E env mod devObj E.tdmIntfCfg (writeIntfCfg E devObj E.tdmIntfCfg)

def configureAuxPcmEp : List Payload → Option EndpointSent :=
  configureIntfEp E env mod devObj E.hwPcmIntfCfg (writeIntfCfg E devObj E.hwPcmIntfCfg)

/-- `slimbus_cfg->slimbus_dev_id`. -/
def writeSlimbusCfg (base : ℕ) : Access Unit :=
  match devObj.hwEpInfo.epConfig.slimConfig with
  | none => fun _ => none
  | some devId => E.slimbusCfg.set base .slimbusDevId devId

/-- `configure_slimbus_ep`.  With too many channels it says `ret -EINVAL`, which assigns nothing. -/
def configureSlimbusEp (sent : List Payload) : Option EndpointSent :=
  if E.sbMaxChanCnt < devObj.mediaConfig.channels then some ⟨0, sent⟩
  else configureIntfEp E env mod devObj E.slimbusCfg (writeSlimbusCfg E devObj) sent

/-- `configure_hw_ep`. -/
def configureHwEp : Option EndpointSent := do
  let media ← if devObj.hwEpInfo.intf = .pcmRtProxy then pure ⟨0, []⟩
    else configureHwEpMediaConfig E env mod devObj
  if media.ret ≠ 0 then pure media
  else
    match devObj.hwEpInfo.intf with
    | .codecDma => configureCodecDmaEp E env mod devObj media.payloads
    | .mi2s => configureI2sEp E env mod devObj media.payloads
    | .auxpcm => configureAuxPcmEp E env mod devObj media.payloads
    | .tdm => configureTdmEp E env mod devObj media.payloads
    | .slimbus => configureSlimbusEp E env mod devObj media.payloads
    | .displayPort | .usbAudio | .pcmRtProxy => pure media

end configure

/-! ### What is to be told -/

/-- What an endpoint is told. -/
inductive EndpointMsg where
  | mediaFormat | interface
deriving DecidableEq, Repr

/-- What the endpoint of an interface has to be told before it can run. -/
def messagesOf : HwIntf → List EndpointMsg
  | .pcmRtProxy => []
  | .displayPort | .usbAudio => [.mediaFormat]
  | .codecDma | .mi2s | .tdm | .auxpcm | .slimbus => [.mediaFormat, .interface]

/-- The media format of a device. -/
structure DescribesEndpoint (E : EndpointHeaders) (mod : ModuleInfo) (media : MediaConfig)
    (payload : Payload) : Prop where
  length : payload.length = E.payloadSize E.hwEpMf
  moduleInstanceId : (E.dsp.paramData.append E.hwEpMf).get payload (.inl .moduleInstanceId) =
    mod.miid % 256 ^ E.dsp.paramData.width .moduleInstanceId
  paramId : (E.dsp.paramData.append E.hwEpMf).get payload (.inl .paramId) =
    E.paramIdHwEpMfCfg % 256 ^ E.dsp.paramData.width .paramId
  errorCode : (E.dsp.paramData.append E.hwEpMf).get payload (.inl .errorCode) = 0
  paramSize : (E.dsp.paramData.append E.hwEpMf).get payload (.inl .paramSize) = payload.length
  sampleRate : (E.dsp.paramData.append E.hwEpMf).get payload (.inr .sampleRate) =
    media.rate % 256 ^ E.hwEpMf.width .sampleRate
  bitWidth : (E.dsp.paramData.append E.hwEpMf).get payload (.inr .bitWidth) =
    getPcmBitWidth media.format % 256 ^ E.hwEpMf.width .bitWidth
  numChannels : (E.dsp.paramData.append E.hwEpMf).get payload (.inr .numChannels) =
    media.channels % 256 ^ E.hwEpMf.width .numChannels
  dataFormat : (E.dsp.paramData.append E.hwEpMf).get payload (.inr .dataFormat) =
    media.dataFormat % 256 ^ E.hwEpMf.width .dataFormat

/-- Where a field of the struct behind the parameter header lies. -/
def EndpointHeaders.place (E : EndpointHeaders) {F : Type} (cfg : Layout F) (f : F) : Place :=
  ⟨E.dsp.paramData.size + cfg.offset f, cfg.width f⟩

/-- The payload is the other one but for some fields, which have these values. -/
structure Replaces (E : EndpointHeaders) {F : Type} (cfg : Layout F) (values : List (F × ℕ))
    (before payload : Payload) : Prop where
  length : payload.length = before.length
  named : ∀ f ∈ values, (E.place cfg f.1).get payload = f.2 % 256 ^ cfg.width f.1
  kept : ∀ q : Place, (∀ f ∈ values, q.Apart (E.place cfg f.1)) → q.get payload = q.get before

section told
variable (E : EndpointHeaders) (env : EndpointEnv E.dsp.sizeBits) (mod : ModuleInfo)
  (devObj : Endpoint)

/-- The values that a name determines in a struct with `lpaif_type` and `intf_idx`. -/
def EndpointHeaders.intfValues (lpaifType : LpaifType) (intfIdx : IntfIdx) : List (IntfField × ℕ) :=
  [(.lpaifType, E.lpaifType lpaifType), (.intfIdx, E.intfIdx intfIdx)]

/-- The struct of an interface, with the rest of it from ACDB. -/
inductive InterfaceTold : HwEpInfo → Payload → Prop where
  | codecDma {dir lpaifType intfIdx payload}
      (h : Replaces E E.codecDmaIntfCfg (E.intfValues lpaifType intfIdx)
        (taggedPayload E env mod devObj E.codecDmaIntfCfg) payload) :
      InterfaceTold ⟨.codecDma, dir, .cdcDmaI2sTdm lpaifType intfIdx⟩ payload
  | mi2s {dir lpaifType intfIdx payload}
      (h : Replaces E E.i2sIntfCfg (E.intfValues lpaifType intfIdx)
        (taggedPayload E env mod devObj E.i2sIntfCfg) payload) :
      InterfaceTold ⟨.mi2s, dir, .cdcDmaI2sTdm lpaifType intfIdx⟩ payload
  | tdm {dir lpaifType intfIdx payload}
      (h : Replaces E E.tdmIntfCfg (E.intfValues lpaifType intfIdx)
        (taggedPayload E env mod devObj E.tdmIntfCfg) payload) :
      InterfaceTold ⟨.tdm, dir, .cdcDmaI2sTdm lpaifType intfIdx⟩ payload
  | auxpcm {dir lpaifType intfIdx payload}
      (h : Replaces E E.hwPcmIntfCfg (E.intfValues lpaifType intfIdx)
        (taggedPayload E env mod devObj E.hwPcmIntfCfg) payload) :
      InterfaceTold ⟨.auxpcm, dir, .cdcDmaI2sTdm lpaifType intfIdx⟩ payload
  | slimbus {dir devId payload}
      (h : Replaces E E.slimbusCfg [(.slimbusDevId, devId)]
        (taggedPayload E env mod devObj E.slimbusCfg) payload) :
      InterfaceTold ⟨.slimbus, dir, .slim devId⟩ payload

/-- The payload says what it should. -/
def Conveys : EndpointMsg → Payload → Prop
  | .mediaFormat, payload => DescribesEndpoint E mod devObj.mediaConfig payload
  | .interface, payload => InterfaceTold E env mod devObj devObj.hwEpInfo payload

end told

/-- Memory and GSL do what they are asked. -/
structure EndpointEnv.Willing {sizeBits : ℕ} (env : EndpointEnv sizeBits) : Prop where
  serves : ∀ n < 2 ^ 31, env.heap.serves n = true
  kvpMem : env.kvpMem = true
  getTaggedData : ∀ mod kvp size, (env.getTaggedData mod kvp size).1 = 0
  setCustomConfig : ∀ k payload, env.setCustomConfig k payload = 0

/-! ### The media format -/

section media
variable {E : EndpointHeaders}

/-- A payload has room for its two structs. -/
theorem payloadSize_fits {F : Type} {cfg : Layout F}
    (h : E.dsp.paramData.size + cfg.size < 2 ^ 30) :
    E.dsp.paramData.size + cfg.size ≤ E.payloadSize cfg ∧ E.payloadSize cfg < 2 ^ 31 :=
  alignPayload_room E.dsp.int_le_size (by omega)

theorem writeHwEpMf_fills (E : EndpointHeaders) (mod : ModuleInfo) (devObj : Endpoint)
    (v : ParamDataField ⊕ HwEpMfField → ℕ) {n : ℕ}
    (hn : (E.dsp.paramData.append E.hwEpMf).size ≤ n) (hlt : n < 2 ^ 32) :
    Fills (E.dsp.paramData.append E.hwEpMf) n (writeHwEpMf E mod devObj n) v fun _ v' =>
      v' (.inl .moduleInstanceId) = mod.miid % 256 ^ E.dsp.paramData.width .moduleInstanceId ∧
      v' (.inl .paramId) = E.paramIdHwEpMfCfg % 256 ^ E.dsp.paramData.width .paramId ∧
      v' (.inl .errorCode) = 0 ∧ v' (.inl .paramSize) = n ∧
      v' (.inr .sampleRate) = devObj.mediaConfig.rate % 256 ^ E.hwEpMf.width .sampleRate ∧
      v' (.inr .bitWidth) =
        getPcmBitWidth devObj.mediaConfig.format % 256 ^ E.hwEpMf.width .bitWidth ∧
      v' (.inr .numChannels) = devObj.mediaConfig.channels % 256 ^ E.hwEpMf.width .numChannels ∧
      v' (.inr .dataFormat) = devObj.mediaConfig.dataFormat % 256 ^ E.hwEpMf.width .dataFormat := by
  have hp := Layout.Placed.left E.dsp.paramData E.hwEpMf
  have hm := Layout.Placed.right E.dsp.paramData E.hwEpMf
  unfold writeHwEpMf
  iterate 4 refine .set hp hn ?_
  iterate 3 refine .set hm hn ?_
  refine (Fills.last hm hn).mono fun _ v' hv' => ?_
  subst hv'
  have hwidth : n % 256 ^ E.dsp.paramData.width .paramSize = n := by
    rw [E.dsp.width_paramSize]
    exact Nat.mod_eq_of_lt hlt
  have hzero : cut (E.dsp.paramData.width .errorCode) 0 = 0 := by simp [cut]
  simp [cut_natCast, hwidth, hzero]

end media

/-! ### The struct of an interface -/

section interface
variable {E : EndpointHeaders} {F : Type} {cfg : Layout F} {values : List (F × ℕ)}
  {before payload : Payload}

theorem Replaces.refl (payload : Payload) : Replaces E cfg [] payload payload where
  length := rfl
  named := by simp
  kept _ _ := rfl

/-- One more field is stored. -/
theorem Replaces.set (h : Replaces E cfg values before payload)
    (hroom : E.dsp.paramData.size + cfg.size ≤ before.length) {f : F}
    (hf : ∀ g ∈ values, g.1 ≠ f) (x : ℕ) :
    ∃ payload', cfg.set E.dsp.paramData.size f x payload = some ((), payload') ∧
      Replaces E cfg (values ++ [(f, x)]) before payload' := by
  have hin : (E.place cfg f).Within payload.length := by
    have hfits := cfg.fits f
    show E.dsp.paramData.size + cfg.offset f + cfg.width f ≤ payload.length
    rw [h.length]
    omega
  obtain ⟨payload', hrun, hlen, hval, hother⟩ := Place.store_run (x := x) hin
  refine ⟨payload', hrun, hlen.trans h.length, fun g hg => ?_, fun q hq => ?_⟩
  · rcases List.mem_append.mp hg with hg | hg
    · have hapart : (E.place cfg g.1).Apart (E.place cfg f) := by
        have hcfg := cfg.apart g.1 f (hf g hg)
        show E.dsp.paramData.size + cfg.offset g.1 + cfg.width g.1 ≤
            E.dsp.paramData.size + cfg.offset f ∨
          E.dsp.paramData.size + cfg.offset f + cfg.width f ≤ E.dsp.paramData.size + cfg.offset g.1
        omega
      rw [hother _ hapart]
      exact h.named g hg
    · obtain rfl := List.mem_singleton.mp hg
      exact hval
  · rw [hother q (hq (f, x) (List.mem_append_right _ (List.mem_singleton_self _)))]
    exact h.kept q fun g hg => hq g (List.mem_append_left _ hg)

end interface

section runs
variable {E : EndpointHeaders} (env : EndpointEnv E.dsp.sizeBits) (mod : ModuleInfo)
  (devObj : Endpoint) (sent : List Payload)

theorem length_taggedPayload {F : Type} (cfg : Layout F) :
    (taggedPayload E env mod devObj cfg).length = E.payloadSize cfg := by
  have hfills := env.fills mod (channelsKvp E devObj) (E.payloadSize cfg)
  rw [taggedPayload, length_splice (by rwa [List.length_replicate, Nat.zero_add]),
    List.length_replicate]

/-- `sent'` is what a function leaves that may add one payload, a `P`, to those sent: it adds none
only where it fails, and it does not fail where the environment is willing. -/
structure Adds (env : EndpointEnv E.dsp.sizeBits) (P : Payload → Prop) (sent : List Payload)
    (sent' : EndpointSent) : Prop where
  payloads : sent'.payloads = sent ∧ sent'.ret ≠ 0 ∨
    ∃ payload, P payload ∧ sent'.payloads = sent ++ [payload]
  willing : env.Willing → sent'.ret = 0

theorem configureHwEpMediaConfig_adds :
    ∃ media, configureHwEpMediaConfig E env mod devObj = some media ∧
      Adds env (DescribesEndpoint E mod devObj.mediaConfig) [] media := by
  obtain ⟨hroom, hlt⟩ := payloadSize_fits (E.size_lt _ List.mem_cons_self)
  obtain ⟨_, payload, hrun, hlen, hmiid, hparam, herror, hsize, hrate, hwidth, hchannels,
      hformat⟩ :=
    writeHwEpMf_fills E mod devObj _ hroom (hlt.trans (by decide)) (List.replicate _ 0)
      List.length_replicate rfl
  unfold configureHwEpMediaConfig
  dsimp only
  by_cases hserves : env.heap.serves (E.payloadSize E.hwEpMf) = true
  · rw [if_pos hserves, hrun]
    refine ⟨_, rfl, .inr ⟨payload, ?_, rfl⟩, fun hwilling => ?_⟩
    · exact
        { length := hlen
          moduleInstanceId := hmiid
          paramId := hparam
          errorCode := herror
          paramSize := by rw [hsize, hlen]
          sampleRate := hrate
          bitWidth := hwidth
          numChannels := hchannels
          dataFormat := hformat }
    · exact arErrGetLnxErrCode_eq_zero.mpr (hwilling.setCustomConfig _ _)
  · rw [if_neg hserves]
    exact ⟨_, rfl, .inl ⟨rfl, by decide⟩, fun hwilling => absurd (hwilling.serves _ hlt) hserves⟩

/-- The shared body: its payload is what `write` makes of ACDB's. -/
theorem configureIntfEp_adds {F : Type} {cfg : Layout F} {write : ℕ → Access Unit}
    {P : Payload → Prop} (hsize : E.dsp.paramData.size + cfg.size < 2 ^ 30)
    (hwrite : ∃ payload, write E.dsp.paramData.size (taggedPayload E env mod devObj cfg) =
      some ((), payload) ∧ P payload) :
    ∃ sent', configureIntfEp E env mod devObj cfg write sent = some sent' ∧
      Adds env P sent sent' := by
  obtain ⟨-, hlt⟩ := payloadSize_fits hsize
  obtain ⟨payload, hrun, hP⟩ := hwrite
  have hnomem : -ENOMEM ≠ 0 := by decide
  unfold configureIntfEp
  dsimp only
  by_cases hserves : env.heap.serves (E.payloadSize cfg) = true
  case neg =>
    rw [if_neg hserves]
    exact ⟨_, rfl, .inl ⟨rfl, hnomem⟩, fun hwilling => absurd (hwilling.serves _ hlt) hserves⟩
  rw [if_pos hserves]
  by_cases hkvp : env.kvpMem = true
  case neg =>
    rw [if_neg hkvp]
    exact ⟨_, rfl, .inl ⟨rfl, hnomem⟩, fun hwilling => absurd hwilling.kvpMem hkvp⟩
  rw [if_pos hkvp]
  by_cases hret : (env.getTaggedData mod (channelsKvp E devObj) (E.payloadSize cfg)).1 = 0
  case neg =>
    rw [if_pos hret]
    exact ⟨_, rfl, .inl ⟨rfl, fun h => hret (arErrGetLnxErrCode_eq_zero.mp h)⟩,
      fun hwilling => absurd (hwilling.getTaggedData _ _ _) hret⟩
  rw [if_neg (not_not.mpr hret), hrun]
  exact ⟨_, rfl, .inr ⟨payload, hP, rfl⟩,
    fun hwilling => arErrGetLnxErrCode_eq_zero.mpr (hwilling.setCustomConfig _ _)⟩

/-- The four structs with `lpaif_type` and `intf_idx`. -/
theorem writeIntfCfg_replaces {cfg : Layout IntfField}
    (hsize : E.dsp.paramData.size + cfg.size < 2 ^ 30) {lpaifType : LpaifType} {intfIdx : IntfIdx}
    (hconfig : devObj.hwEpInfo.epConfig = .cdcDmaI2sTdm lpaifType intfIdx) :
    ∃ payload, writeIntfCfg E devObj cfg E.dsp.paramData.size
        (taggedPayload E env mod devObj cfg) = some ((), payload) ∧
      Replaces E cfg (E.intfValues lpaifType intfIdx) (taggedPayload E env mod devObj cfg)
        payload := by
  have hroom : E.dsp.paramData.size + cfg.size ≤ (taggedPayload E env mod devObj cfg).length :=
    length_taggedPayload env mod devObj cfg ▸ (payloadSize_fits hsize).1
  obtain ⟨mid, hlpaif, hmid⟩ := (Replaces.refl _).set hroom (f := IntfField.lpaifType) (by simp)
    (E.lpaifType lpaifType)
  obtain ⟨payload, hidx, hpayload⟩ := hmid.set hroom (f := IntfField.intfIdx) (by simp)
    (E.intfIdx intfIdx)
  refine ⟨payload, ?_, hpayload⟩
  unfold writeIntfCfg
  rw [hconfig]
  exact (bind_run hlpaif).trans hidx

theorem writeSlimbusCfg_replaces {devId : ℕ} (hconfig : devObj.hwEpInfo.epConfig = .slim devId) :
    ∃ payload, writeSlimbusCfg E devObj E.dsp.paramData.size
        (taggedPayload E env mod devObj E.slimbusCfg) = some ((), payload) ∧
      Replaces E E.slimbusCfg [(.slimbusDevId, devId)]
        (taggedPayload E env mod devObj E.slimbusCfg) payload := by
  have hroom : E.dsp.paramData.size + E.slimbusCfg.size ≤
      (taggedPayload E env mod devObj E.slimbusCfg).length :=
    length_taggedPayload env mod devObj E.slimbusCfg ▸
      (payloadSize_fits (E.size_lt _ (by simp))).1
  obtain ⟨payload, hset, hpayload⟩ := (Replaces.refl _).set hroom
    (f := SlimbusField.slimbusDevId) (by simp) devId
  refine ⟨payload, ?_, hpayload⟩
  unfold writeSlimbusCfg
  rw [hconfig]
  exact hset

/-- One of the four functions for an interface with `lpaif_type` and `intf_idx`. -/
theorem configureIntf_adds {cfg : Layout IntfField} {P : Payload → Prop}
    (hsize : E.dsp.paramData.size + cfg.size < 2 ^ 30) {lpaifType : LpaifType} {intfIdx : IntfIdx}
    (hconfig : devObj.hwEpInfo.epConfig = .cdcDmaI2sTdm lpaifType intfIdx)
    (hP : ∀ payload, Replaces E cfg (E.intfValues lpaifType intfIdx)
      (taggedPayload E env mod devObj cfg) payload → P payload) :
    ∃ sent', configureIntfEp E env mod devObj cfg (writeIntfCfg E devObj cfg) sent = some sent' ∧
      Adds env P sent sent' := by
  obtain ⟨payload, hwrite, hpayload⟩ := writeIntfCfg_replaces env mod devObj hsize hconfig
  exact configureIntfEp_adds env mod devObj sent hsize ⟨payload, hwrite, hP payload hpayload⟩

/-- The slimbus function, unless there are too many channels. -/
theorem configureSlimbusEp_adds {P : Payload → Prop}
    (hchannels : devObj.mediaConfig.channels ≤ E.sbMaxChanCnt) {devId : ℕ}
    (hconfig : devObj.hwEpInfo.epConfig = .slim devId)
    (hP : ∀ payload, Replaces E E.slimbusCfg [(.slimbusDevId, devId)]
      (taggedPayload E env mod devObj E.slimbusCfg) payload → P payload) :
    ∃ sent', configureSlimbusEp E env mod devObj sent = some sent' ∧ Adds env P sent sent' := by
  obtain ⟨payload, hwrite, hpayload⟩ := writeSlimbusCfg_replaces env mod devObj hconfig
  unfold configureSlimbusEp
  rw [if_neg (Nat.not_lt.mpr hchannels)]
  exact configureIntfEp_adds env mod devObj sent (E.size_lt _ (by simp))
    ⟨payload, hwrite, hP payload hpayload⟩

end runs

/-! ### The devices -/

/-- The union holds the member that the configuration of the interface reads. -/
inductive HwEpInfo.Proper : HwEpInfo → Prop where
  | intf {intf dir lpaifType intfIdx}
      (h : intf = .codecDma ∨ intf = .mi2s ∨ intf = .tdm ∨ intf = .auxpcm) :
      Proper ⟨intf, dir, .cdcDmaI2sTdm lpaifType intfIdx⟩
  | slimbus {dir devId} : Proper ⟨.slimbus, dir, .slim devId⟩
  | plain {intf dir epConfig} (h : intf = .displayPort ∨ intf = .usbAudio ∨ intf = .pcmRtProxy) :
      Proper ⟨intf, dir, epConfig⟩

theorem populateCdcDmaI2sTdmPcmEpInfo_config {intf : HwIntf} {value : CStr} {dir : HwEpDir}
    {epConfig : HwEpConfig} (h : populateCdcDmaI2sTdmPcmEpInfo intf value = some (dir, epConfig)) :
    ∃ lpaifType intfIdx, epConfig = .cdcDmaI2sTdm lpaifType intfIdx := by
  unfold populateCdcDmaI2sTdmPcmEpInfo at h
  simp only [Option.bind_eq_bind, Option.bind_eq_some_iff] at h
  obtain ⟨lpaifType, -, dir', -, intfIdx, -, heq⟩ := h
  exact ⟨lpaifType, intfIdx, (Prod.mk.inj (Option.some.inj heq)).2.symm⟩

theorem populateSlimDpUsbEpInfo_config {value : CStr} {dir : HwEpDir} {epConfig : HwEpConfig}
    (h : populateSlimDpUsbEpInfo .slimbus value = some (dir, epConfig)) :
    ∃ devId, epConfig = .slim devId := by
  unfold populateSlimDpUsbEpInfo at h
  rw [if_pos rfl] at h
  simp only [Option.bind_eq_bind, Option.bind_eq_some_iff] at h
  obtain ⟨devId, -, dir', -, heq⟩ := h
  exact ⟨devId, (Prod.mk.inj (Option.some.inj heq)).2.symm⟩

/-- Whatever name is accepted, the union is left with the right member. -/
theorem proper_of_populate {name : CStr} {info : HwEpInfo}
    (h : populateDeviceHwEpInfo name = some info) : info.Proper := by
  rw [populateDeviceHwEpInfo_eq] at h
  obtain ⟨intf, -, h⟩ := Option.bind_eq_some_iff.mp h
  obtain ⟨⟨dir, epConfig⟩, hinfo, heq⟩ := Option.bind_eq_some_iff.mp h
  obtain rfl := Option.some.inj heq
  cases intf
  case slimbus =>
    obtain ⟨devId, rfl⟩ := populateSlimDpUsbEpInfo_config hinfo
    exact .slimbus
  case displayPort => exact .plain (by simp)
  case usbAudio => exact .plain (by simp)
  case pcmRtProxy => exact .plain (by simp)
  all_goals
    obtain ⟨lpaifType, intfIdx, rfl⟩ := populateCdcDmaI2sTdmPcmEpInfo_config hinfo
    exact .intf (by simp)

/-- What `device_init` stores with a device is what its name says. -/
theorem populate_of_deviceInit {attempts : ℕ → Attempt} {n : ℕ} {g : Globals}
    (hinit : deviceInit attempts { numAudioIntfs := n } = some (0, g)) {dev : DeviceInfo}
    (hdev : some dev ∈ g.deviceList) :
    ∃ info, dev.hwEpInfo = some info ∧ populateDeviceHwEpInfo dev.name = some info := by
  obtain ⟨k, hfound⟩ := foundAt_of_deviceInit hinit
  obtain ⟨names, -, hrun⟩ := deviceInit_eq hfound n
  rw [hinit] at hrun
  split at hrun
  case isFalse => cases hrun
  obtain rfl := (Prod.mk.inj (Option.some.inj hrun)).2
  rcases List.mem_append.mp hdev with hmem | hmem
  · obtain ⟨dev', hdev', heq⟩ := List.mem_map.mp hmem
    obtain rfl := Option.some.inj heq
    obtain ⟨buffer, -, hof⟩ := List.mem_filterMap.mp hdev'
    obtain ⟨info, hinfo, rfl⟩ := Option.map_eq_some_iff.mp hof
    exact ⟨info, rfl, hinfo⟩
  · cases (List.mem_replicate.mp hmem).2

/-! ### Endpoints -/

section endpoints
variable (E : EndpointHeaders) (env : EndpointEnv E.dsp.sizeBits) (mod : ModuleInfo)
  (devObj : Endpoint)

/-- A slimbus device with more channels than its struct has room for. -/
def TooManyChannels : Prop :=
  devObj.hwEpInfo.intf = .slimbus ∧ E.sbMaxChanCnt < devObj.mediaConfig.channels

/-- What `configure_hw_ep` returns and sends is as it should be. -/
structure EndpointTold (sent : EndpointSent) : Prop where
  conveys : List.Forall₂ (Conveys E env mod devObj)
    ((messagesOf devObj.hwEpInfo.intf).take sent.payloads.length) sent.payloads
  willing : env.Willing → sent.ret = 0
  complete : sent.ret = 0 → (sent.payloads.length = (messagesOf devObj.hwEpInfo.intf).length ↔
    ¬ TooManyChannels E devObj)

end endpoints

section endpoints
variable {E : EndpointHeaders} {env : EndpointEnv E.dsp.sizeBits} {mod : ModuleInfo}
  {devObj : Endpoint}

/-- Nothing is sent to a proxy. -/
theorem told_nothing (h : messagesOf devObj.hwEpInfo.intf = []) :
    EndpointTold E env mod devObj ⟨0, []⟩ where
  conveys := by rw [h]; exact .nil
  willing _ := rfl
  complete _ := by
    have hintf : ¬ TooManyChannels E devObj := fun hmany => by
      rw [hmany.1] at h
      cases h
    rw [h]
    exact iff_of_true rfl hintf

/-- The configuration ends with the media format because that failed, ... -/
theorem told_failed {rest : List EndpointMsg} {media : EndpointSent}
    (h : messagesOf devObj.hwEpInfo.intf = .mediaFormat :: rest)
    (hmedia : Adds env (DescribesEndpoint E mod devObj.mediaConfig) [] media)
    (hret : media.ret ≠ 0) : EndpointTold E env mod devObj media where
  conveys := by
    rw [h]
    rcases hmedia.payloads with ⟨hnone, -⟩ | ⟨payload, hpayload, hone⟩
    · rw [hnone]
      exact .nil
    · rw [hone]
      exact .cons hpayload .nil
  willing := hmedia.willing
  complete hzero := absurd hzero hret

/-- ... or because nothing else is sent, ... -/
theorem told_media {rest : List EndpointMsg} {ret : ℤ} {payload : Payload}
    (h : messagesOf devObj.hwEpInfo.intf = .mediaFormat :: rest)
    (hrest : rest = [] ↔ ¬ TooManyChannels E devObj)
    (hpayload : DescribesEndpoint E mod devObj.mediaConfig payload) (hret : ret = 0) :
    EndpointTold E env mod devObj ⟨ret, [payload]⟩ where
  conveys := by
    rw [h]
    exact .cons hpayload .nil
  willing _ := hret
  complete _ := by
    rw [h, ← hrest, ← List.length_eq_zero_iff]
    simp

/-- ... or it goes on with the struct of the interface. -/
theorem told_interface {sent : EndpointSent} {payload : Payload}
    (h : messagesOf devObj.hwEpInfo.intf = [.mediaFormat, .interface])
    (hfew : ¬ TooManyChannels E devObj)
    (hpayload : DescribesEndpoint E mod devObj.mediaConfig payload)
    (hadds : Adds env (Conveys E env mod devObj .interface) [payload] sent) :
    EndpointTold E env mod devObj sent where
  conveys := by
    rw [h]
    rcases hadds.payloads with ⟨hnone, -⟩ | ⟨struct, hstruct, htwo⟩
    · rw [hnone]
      exact .cons hpayload .nil
    · rw [htwo]
      exact .cons hpayload (.cons hstruct .nil)
  willing := hadds.willing
  complete hzero := by
    rcases hadds.payloads with ⟨-, hret⟩ | ⟨struct, -, htwo⟩
    · exact absurd hzero hret
    · rw [h, htwo]
      exact iff_of_true rfl hfew

/-- What follows the media format. -/
def configureRest (E : EndpointHeaders) (env : EndpointEnv E.dsp.sizeBits) (mod : ModuleInfo)
    (devObj : Endpoint) (sent : List Payload) : Option EndpointSent :=
  match devObj.hwEpInfo.intf with
  | .codecDma => configureCodecDmaEp E env mod devObj sent
  | .mi2s => configureI2sEp E env mod devObj sent
  | .auxpcm => configureAuxPcmEp E env mod devObj sent
  | .tdm => configureTdmEp E env mod devObj sent
  | .slimbus => configureSlimbusEp E env mod devObj sent
  | .displayPort | .usbAudio | .pcmRtProxy => some ⟨0, sent⟩

theorem configureHwEp_eq (hintf : devObj.hwEpInfo.intf ≠ .pcmRtProxy) {media : EndpointSent}
    (hmedia : configureHwEpMediaConfig E env mod devObj = some media) :
    configureHwEp E env mod devObj =
      if media.ret ≠ 0 then some media else configureRest E env mod devObj media.payloads := by
  unfold configureHwEp configureRest
  rw [if_neg hintf, hmedia]
  obtain ⟨ret, payloads⟩ := media
  by_cases hret : ret = 0
  · subst hret
    cases devObj.hwEpInfo.intf <;> rfl
  · show (if ret ≠ 0 then _ else _) = _
    rw [if_pos hret, if_pos hret]
    rfl

/-- The rest of the configuration, once the media format is accepted. -/
theorem configureRest_told (hproper : devObj.hwEpInfo.Proper)
    (hintf : devObj.hwEpInfo.intf ≠ .pcmRtProxy) {payload : Payload}
    (hpayload : DescribesEndpoint E mod devObj.mediaConfig payload) :
    ∃ sent, configureRest E env mod devObj [payload] = some sent ∧
      EndpointTold E env mod devObj sent := by
  obtain ⟨info, media⟩ := devObj
  cases hproper with
  | @intf intf dir lpaifType intfIdx h =>
      -- the four interfaces differ in the struct only
      have htold (hmessages : messagesOf intf = [.mediaFormat, .interface]) (hne : intf ≠ .slimbus)
          {cfg : Layout IntfField} (hsize : E.dsp.paramData.size + cfg.size < 2 ^ 30)
          (hP : ∀ p, Replaces E cfg (E.intfValues lpaifType intfIdx)
            (taggedPayload E env mod ⟨⟨intf, dir, .cdcDmaI2sTdm lpaifType intfIdx⟩, media⟩ cfg) p →
            InterfaceTold E env mod ⟨⟨intf, dir, .cdcDmaI2sTdm lpaifType intfIdx⟩, media⟩
              ⟨intf, dir, .cdcDmaI2sTdm lpaifType intfIdx⟩ p) :
          ∃ sent, configureIntfEp E env mod
              ⟨⟨intf, dir, .cdcDmaI2sTdm lpaifType intfIdx⟩, media⟩ cfg
              (writeIntfCfg E ⟨⟨intf, dir, .cdcDmaI2sTdm lpaifType intfIdx⟩, media⟩ cfg)
              [payload] = some sent ∧
            EndpointTold E env mod ⟨⟨intf, dir, .cdcDmaI2sTdm lpaifType intfIdx⟩, media⟩ sent := by
        obtain ⟨sent, hrun, hadds⟩ := configureIntf_adds env mod _ [payload] hsize rfl hP
        exact ⟨sent, hrun, told_interface hmessages (fun hmany => hne hmany.1) hpayload hadds⟩
      rcases h with rfl | rfl | rfl | rfl
      · exact htold rfl (by decide) (E.size_lt _ (by simp)) fun _ h => .codecDma h
      · exact htold rfl (by decide) (E.size_lt _ (by simp)) fun _ h => .mi2s h
      · exact htold rfl (by decide) (E.size_lt _ (by simp)) fun _ h => .tdm h
      · exact htold rfl (by decide) (E.size_lt _ (by simp)) fun _ h => .auxpcm h
  | @slimbus dir devId =>
      by_cases hmany : E.sbMaxChanCnt < media.channels
      · refine ⟨⟨0, [payload]⟩, if_pos hmany, told_media rfl ?_ hpayload rfl⟩
        exact iff_of_false (by simp) fun h => h ⟨rfl, hmany⟩
      · obtain ⟨sent, hrun, hadds⟩ := configureSlimbusEp_adds env mod
          ⟨⟨.slimbus, dir, .slim devId⟩, media⟩ [payload] (Nat.not_lt.mp hmany) rfl fun _ h =>
          InterfaceTold.slimbus h
        exact ⟨sent, hrun, told_interface rfl (fun h => hmany h.2) hpayload hadds⟩
  | @plain intf dir epConfig h =>
      have hne : intf ≠ .slimbus := by rcases h with rfl | rfl | rfl <;> decide
      have hfew : ¬ TooManyChannels E ⟨⟨intf, dir, epConfig⟩, media⟩ := fun hmany => hne hmany.1
      rcases h with rfl | rfl | rfl
      · exact ⟨_, rfl, told_media rfl (iff_of_true rfl hfew) hpayload rfl⟩
      · exact ⟨_, rfl, told_media rfl (iff_of_true rfl hfew) hpayload rfl⟩
      · exact absurd rfl hintf

/-- An endpoint whose union holds the right member is told what it should be. -/
theorem configureHwEp_told (env : EndpointEnv E.dsp.sizeBits) (mod : ModuleInfo)
    (devObj : Endpoint) (hproper : devObj.hwEpInfo.Proper) :
    ∃ sent, configureHwEp E env mod devObj = some sent ∧ EndpointTold E env mod devObj sent := by
  by_cases hintf : devObj.hwEpInfo.intf = .pcmRtProxy
  · refine ⟨⟨0, []⟩, ?_, told_nothing (by rw [hintf]; rfl)⟩
    unfold configureHwEp
    rw [if_pos hintf, hintf]
    rfl
  obtain ⟨media, hrun, hmedia⟩ := configureHwEpMediaConfig_adds env mod devObj
  have hmessages : ∃ rest, messagesOf devObj.hwEpInfo.intf = .mediaFormat :: rest := by
    cases h : devObj.hwEpInfo.intf with
    | pcmRtProxy => exact absurd h hintf
    | displayPort | usbAudio | codecDma | mi2s | tdm | auxpcm | slimbus => exact ⟨_, rfl⟩
  obtain ⟨rest, hmessages⟩ := hmessages
  rw [configureHwEp_eq hintf hrun]
  by_cases hret : media.ret = 0
  · rw [if_neg (not_not.mpr hret)]
    rcases hmedia.payloads with ⟨-, hne⟩ | ⟨payload, hpayload, hone⟩
    · exact absurd hret hne
    · rw [hone]
      exact configureRest_told hproper hintf hpayload
  · rw [if_pos hret]
    exact ⟨media, rfl, told_failed hmessages hmedia hret⟩

end endpoints

/-! ### Headers of usual sizes -/

/-- A struct of two 32-bit fields, which come first, and others. -/
def usualIntfCfg (size : ℕ) (h : 8 ≤ size) : Layout IntfField where
  size := size
  offset
    | .lpaifType => 0
    | .intfIdx => 4
  width := fun _ => 4
  width_pos := fun _ => Nat.succ_pos 3
  fits
    | .lpaifType => Nat.le_trans (by decide) h
    | .intfIdx => h
  apart
    | .lpaifType, .intfIdx, _ => .inl (Nat.le_refl 4)
    | .intfIdx, .lpaifType, _ => .inr (Nat.le_refl 4)
    | .lpaifType, .lpaifType, h => absurd rfl h
    | .intfIdx, .intfIdx, h => absurd rfl h

/-- Headers with 32-bit fields, and eight channels for slimbus. -/
def usualEndpointHeaders : EndpointHeaders where
  dsp := usualHeaders
  hwEpMf :=
    { size := 12
      offset
        | .sampleRate => 0
        | .bitWidth => 4
        | .numChannels => 6
        | .dataFormat => 8
      width
        | .sampleRate | .dataFormat => 4
        | .bitWidth | .numChannels => 2
      width_pos := by rintro (_ | _ | _ | _) <;> decide
      fits := by rintro (_ | _ | _ | _) <;> decide
      apart := by rintro (_ | _ | _ | _) (_ | _ | _ | _) <;> decide }
  codecDmaIntfCfg := usualIntfCfg 12 (by decide)
  i2sIntfCfg := usualIntfCfg 12 (by decide)
  tdmIntfCfg := usualIntfCfg 28 (by decide)
  hwPcmIntfCfg := usualIntfCfg 20 (by decide)
  slimbusCfg :=
    { size := 12
      offset := fun _ => 0
      width := fun _ => 4
      width_pos := fun _ => Nat.succ_pos 3
      fits := fun _ => by decide
      apart := by rintro ⟨⟩ ⟨⟩ h; exact absurd rfl h }
  paramIdHwEpMfCfg := 0x08001017
  channels := 0xA5000000
  sbMaxChanCnt := 8
  lpaifType
    | .lpaif => 0
    | .lpaifRxtx => 1
    | .lpaifWsa => 2
    | .lpaifVa => 3
    | .lpaifAxi => 4
  pcmIntfIdx
    | .codec n => n
    | .primary => 0
    | .secondary => 1
    | .tertiary => 2
    | .quaternary => 3
    | .quinary => 4
  size_lt := by decide

/-- An ACDB without data for any module. -/
def emptyAcdb : EndpointEnv 64 where
  heap := Heap.ample 64
  kvpMem := true
  getTaggedData _ _ _ := (0, [])
  setCustomConfig _ _ := 0
  fills _ _ size := Nat.zero_le size

/-! ### Every interface -/

/-- Whatever `device_init` has read, the configuration of every interface in its list accesses
nothing that it should not, and sends what its endpoint has to be told, in order, as long as memory
and GSL allow.  It can be successful and yet incomplete only for a slimbus device with more channels
than the struct has room for. -/
theorem interface_told (E : EndpointHeaders) {attempts : ℕ → Attempt} {n : ℕ} {g : Globals}
    (hinit : deviceInit attempts { numAudioIntfs := n } = some (0, g)) {dev : DeviceInfo}
    (hdev : some dev ∈ g.deviceList) (env : EndpointEnv E.dsp.sizeBits) (mod : ModuleInfo)
    (media : MediaConfig) :
    ∃ info sent, dev.hwEpInfo = some info ∧ populateDeviceHwEpInfo dev.name = some info ∧
      configureHwEp E env mod ⟨info, media⟩ = some sent ∧
      EndpointTold E env mod ⟨info, media⟩ sent := by
  obtain ⟨info, hinfo, hname⟩ := populate_of_deviceInit hinit hdev
  obtain ⟨sent, hrun, htold⟩ := configureHwEp_told env mod ⟨info, media⟩ (proper_of_populate hname)
  exact ⟨info, sent, hinfo, hname, hrun, htold⟩

/-- A file with one device, at every attempt. -/
def quinaryFile : ℕ → Attempt := fun _ =>
  ⟨some "00-03: TDM-LPAIF_VA-TX-QUINARY tdm : tdm : capture 1\n".toList, true, fun _ => true⟩

/-- The device of this file. -/
def quinary : DeviceInfo :=
  { cardId := 0
    pcmId := 3
    name := "TDM-LPAIF_VA-TX-QUINARY".toList
    pcmFlags := .pcmIn
    hwEpInfo := some ⟨.tdm, .audioInput, .cdcDmaI2sTdm .lpaifVa .quinary⟩ }

/-- What `device_init` makes of the file. -/
def quinaryGlobals : Globals :=
  { numAudioIntfs := 1
    deviceList := [some quinary]
    names := [quinary.name] }

theorem deviceInit_quinary :
    deviceInit quinaryFile { numAudioIntfs := 0 } = some (0, quinaryGlobals) := by
  decide +kernel

/-- The TDM interface of a microphone. -/
theorem interface_told_quinary :
    ∃ info sent, quinary.hwEpInfo = some info ∧
      populateDeviceHwEpInfo quinary.name = some info ∧
      configureHwEp usualEndpointHeaders emptyAcdb { tag := .deviceHwEndpointTx, miid := 0x4002 }
        ⟨info, { rate := 48000, channels := 8, format := 2, dataFormat := 1 }⟩ = some sent ∧
      EndpointTold usualEndpointHeaders emptyAcdb { tag := .deviceHwEndpointTx, miid := 0x4002 }
        ⟨info, { rate := 48000, channels := 8, format := 2, dataFormat := 1 }⟩ sent :=
  interface_told usualEndpointHeaders deviceInit_quinary List.mem_cons_self emptyAcdb _ _

end Agm
