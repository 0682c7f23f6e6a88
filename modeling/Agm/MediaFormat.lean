import Agm.Refine
import Agm.Lib.Block

/-! # The media format payloads

`configure_output_media_format` and `configure_pcm_shared_mem_ep` tell a module of the stream the
media format of the session.  Their payload is three structs in a row, the parameter header, the
media format header and the format itself, with the channel map behind them: one byte for each
channel.

The structs, their ids and the channel positions come from the headers of the DSP; they are the
parameter `DspHeaders`.  The channel count is the client's, stored unchecked by
`session_obj_set_config`; it becomes an `int` before it is added to the sizes of the structs.

* `Describes` is what a payload for a number of channels should be.
* `configureMediaFormat_describes`: up to `2 ^ 31 - 1` channels the payload is such a one, unless
  the field for the number of channels is too narrow.
* `mediaFormat_inBounds_iff`: exactly when the builders stay inside of what they allocate and
  describe it. -/

namespace Agm

open Block

/-! ### The headers of the DSP -/

/-- The fields of `struct apm_module_param_data_t`. -/
inductive ParamDataField where
  | moduleInstanceId | paramId | errorCode | paramSize
deriving DecidableEq, Repr

/-- The fields of `struct media_format_t`. -/
inductive MediaFormatField where
  | dataFormat | fmtId | payloadSize
deriving DecidableEq, Repr

/-- The fields of `struct payload_pcm_output_format_cfg_t` that are written. -/
inductive PcmOutputField where
  | endianness | bitWidth | alignment | numChannels | bitsPerSample | qFactor | interleaved
deriving DecidableEq, Repr

/-- The fields of `struct payload_media_fmt_pcm_t` that are written. -/
inductive MediaFmtPcmField where
  | endianness | bitWidth | sampleRate | alignment | numChannels | bitsPerSample | qFactor
deriving DecidableEq, Repr

/-- `PCM_CHANNEL_*`. -/
inductive PcmChannel where
  | l | r | c | ls | rs | lfe | cs | lb | rb
deriving DecidableEq, Repr

/-- What the headers of the DSP and the platform define.  The two sizes that are stored after a
cast to `uint32_t` have fields of four bytes, and the structs are small. -/
structure DspHeaders where
  sizeBits : ℕ
  paramData : Layout ParamDataField
  mediaFormat : Layout MediaFormatField
  pcmOutputFormat : Layout PcmOutputField
  mediaFmtPcm : Layout MediaFmtPcmField
  pcmChannel : PcmChannel → UInt8
  paramIdPcmOutputFormatCfg : ℕ
  paramIdMediaFormat : ℕ
  mediaFmtIdPcm : ℕ
  pcmLittleEndian : ℕ
  pcmLsbAligned : ℕ
  pcmInterleaved : ℕ
  pcmDeinterleavedUnpacked : ℕ
  int_le_size : 32 ≤ sizeBits
  width_paramSize : paramData.width .paramSize = 4
  width_payloadSize : mediaFormat.width .payloadSize = 4
  size_lt : ∀ size ∈ [pcmOutputFormat.size, mediaFmtPcm.size],
    paramData.size + mediaFormat.size + size < 2 ^ 30

def AGM_DATA_FORMAT_FIXED_POINT : ℕ := 1

/-! ### Channel map -/

/-- The bytes that `get_default_channel_map` writes; no case of the switch matches a count that is
negative, zero or above 8. -/
def getDefaultChannelMap (pcmChannel : PcmChannel → UInt8) (channels : ℤ) : List UInt8 :=
  (match channels with
    | 1 => [PcmChannel.c]
    | 2 => [.l, .r]
    | 3 => [.l, .r, .c]
    | 4 => [.l, .r, .lb, .rb]
    | 5 => [.l, .r, .c, .lb, .rb]
    | 6 => [.l, .r, .c, .lfe, .lb, .rb]
    | 7 => [.l, .r, .c, .lfe, .lb, .rb, .cs]
    | 8 => [.l, .r, .c, .lfe, .lb, .rb, .ls, .rs]
    | _ => []).map pcmChannel

/-- The map has a byte for each channel, or none at all. -/
theorem length_getDefaultChannelMap (pcmChannel : PcmChannel → UInt8) (channels : ℤ) :
    getDefaultChannelMap pcmChannel channels = [] ∨
      ((getDefaultChannelMap pcmChannel channels).length : ℤ) = channels := by
  unfold getDefaultChannelMap
  split
  case h_9 => exact .inl rfl
  all_goals exact .inr rfl

/-! ### Payload -/

/-- `ALIGN_PAYLOAD`. -/
def alignPayload (sizeBits x a : ℕ) : ℕ :=
  (x + (a - 1)) % 2 ^ sizeBits &&& (2 ^ sizeBits - 1 - (a - 1))

namespace DspHeaders

variable {F : Type} (D : DspHeaders)

/-- The three structs of a payload. -/
def layout (fmt : Layout F) : Layout ((ParamDataField ⊕ MediaFormatField) ⊕ F) :=
  (D.paramData.append D.mediaFormat).append fmt

/-- The size of a payload; the sum is one of `size_t`, the channel count one of `int`. -/
def payloadSize (fmt : Layout F) (numChannels : ℤ) : ℕ :=
  alignPayload D.sizeBits
    (unsigned D.sizeBits (D.paramData.size + D.mediaFormat.size + fmt.size + numChannels)) 8

/-- What the two builders write.  `fill` writes the format struct; it answers `false` where the
source goes to `done`, past the channel map. -/
def writePayload (fmt : Layout F) (paramId : ℕ) (fill : ℕ → ℤ → Access Bool) (mod : ModuleInfo)
    (payloadSize : ℕ) (numChannels : ℤ) : Access Bool := do
  let header := 0
  let mediaFmtHdr := D.paramData.size
  let fmtPayload := D.paramData.size + D.mediaFormat.size
  let channelMap := D.paramData.size + D.mediaFormat.size + fmt.size
  D.paramData.set header .moduleInstanceId mod.miid
  D.paramData.set header .paramId paramId
  D.paramData.set header .errorCode 0
  D.paramData.set header .paramSize (unsigned 32 payloadSize)
  D.mediaFormat.set mediaFmtHdr .dataFormat AGM_DATA_FORMAT_FIXED_POINT
  D.mediaFormat.set mediaFmtHdr .fmtId D.mediaFmtIdPcm
  D.mediaFormat.set mediaFmtHdr .payloadSize (unsigned 32 (fmt.size + numChannels))
  let ok ← fill fmtPayload numChannels
  if ok then
    storeBytes channelMap (getDefaultChannelMap D.pcmChannel numChannels)
  pure ok

end DspHeaders

/-- How a builder ends: its return value, and the payload as it is when it is freed (`none` if
there was no memory for one). -/
structure Built where
  ret : ℤ
  payload : Option Payload
deriving DecidableEq, Repr

/-- The body that the builders share, for the format struct and the part that writes it; `none`
stands for an access outside the payload. -/
def configureMediaFormat {F : Type} (D : DspHeaders) (fmt : Layout F) (paramId : ℕ)
    (fill : ℕ → ℤ → Access Bool) (heap : Heap D.sizeBits) (gslSetCustomConfig : Payload → ℤ)
    (mod : ModuleInfo) (sess : SessionObj) : Option Built :=
  let numChannels := (sess.mediaConfig.channels : ℤ).bmod (2 ^ 32)
  let payloadSize := D.payloadSize fmt numChannels
  if heap.serves payloadSize then
    match D.writePayload fmt paramId fill mod payloadSize numChannels
        (List.replicate payloadSize 0) with
    | none => none
    | some (false, payload) => some ⟨-EINVAL, some payload⟩
    | some (true, payload) =>
        some ⟨arErrGetLnxErrCode (gslSetCustomConfig payload), some payload⟩
  else some ⟨-ENOMEM, none⟩

/-- The struct `payload_pcm_output_format_cfg_t` as `configure_output_media_format` writes it. -/
def fillPcmOutputFormat (D : DspHeaders) (sess : SessionObj) (pcmOutputFmtPayload : ℕ)
    (numChannels : ℤ) : Access Bool := do
  let fmt := D.pcmOutputFormat
  fmt.set pcmOutputFmtPayload .endianness D.pcmLittleEndian
  fmt.set pcmOutputFmtPayload .bitWidth (getMediaBitWidth sess)
  fmt.set pcmOutputFmtPayload .alignment D.pcmLsbAligned
  fmt.set pcmOutputFmtPayload .numChannels numChannels
  let bitWidth ← fmt.read pcmOutputFmtPayload .bitWidth
  match outputSample sess bitWidth with
  | none => pure false
  | some (bitsPerSample, qFactor) => do
      fmt.set pcmOutputFmtPayload .bitsPerSample bitsPerSample
      fmt.set pcmOutputFmtPayload .qFactor qFactor
      fmt.set pcmOutputFmtPayload .interleaved
        ((if sess.streamConfig.dir = .rx then D.pcmDeinterleavedUnpacked else D.pcmInterleaved : ℕ))
      pure true

def configureOutputMediaFormat (D : DspHeaders) (heap : Heap D.sizeBits)
    (gslSetCustomConfig : Payload → ℤ) (mod : ModuleInfo) (sess : SessionObj) : Option Built :=
  configureMediaFormat D D.pcmOutputFormat D.paramIdPcmOutputFormatCfg (fillPcmOutputFormat D sess)
    heap gslSetCustomConfig mod sess

/-- The struct `payload_media_fmt_pcm_t` as `configure_pcm_shared_mem_ep` writes it. -/
def fillMediaFmtPcm (D : DspHeaders) (sess : SessionObj) (mediaFmtPayload : ℕ) (numChannels : ℤ) :
    Access Bool := do
  let fmt := D.mediaFmtPcm
  let format := sess.mediaConfig.format
  fmt.set mediaFmtPayload .endianness D.pcmLittleEndian
  fmt.set mediaFmtPayload .bitWidth (getMediaBitWidth sess)
  fmt.set mediaFmtPayload .sampleRate sess.mediaConfig.rate
  fmt.set mediaFmtPayload .alignment D.pcmLsbAligned
  fmt.set mediaFmtPayload .numChannels numChannels
  let bitWidth ← fmt.read mediaFmtPayload .bitWidth
  fmt.set mediaFmtPayload .bitsPerSample (getBitsPerSample format bitWidth)
  let bitWidth ← fmt.read mediaFmtPayload .bitWidth
  fmt.set mediaFmtPayload .qFactor (getQFactor format bitWidth)
  pure true

def configurePcmSharedMemEp (D : DspHeaders) (heap : Heap D.sizeBits)
    (gslSetCustomConfig : Payload → ℤ) (mod : ModuleInfo) (sess : SessionObj) : Option Built :=
  configureMediaFormat D D.mediaFmtPcm D.paramIdMediaFormat (fillMediaFmtPcm D sess)
    heap gslSetCustomConfig mod sess

/-! ### What a builder writes -/

section fills
variable {F : Type} (D : DspHeaders) (fmt : Layout F)

theorem placed_paramData :
    D.paramData.Placed 0 (D.layout fmt) (Sum.inl ∘ Sum.inl) :=
  (Layout.Placed.left D.paramData D.mediaFormat).append fmt

theorem placed_mediaFormat :
    D.mediaFormat.Placed D.paramData.size (D.layout fmt) (Sum.inl ∘ Sum.inr) :=
  (Layout.Placed.right D.paramData D.mediaFormat).append fmt

theorem placed_format :
    fmt.Placed (D.paramData.size + D.mediaFormat.size) (D.layout fmt) Sum.inr :=
  Layout.Placed.right (D.paramData.append D.mediaFormat) fmt

/-- The part of a builder that writes the format struct: it leaves the two headers alone, and the
struct holds the channel count, cut to the width of its field. -/
def WritesChannels (numChannels : F) (fill : ℕ → ℤ → Access Bool) : Prop :=
  ∀ n v x, (D.layout fmt).size ≤ n →
    Fills (D.layout fmt) n (fill (D.paramData.size + D.mediaFormat.size) x) v fun _ v' =>
      (∀ f, v' (.inl f) = v (.inl f)) ∧
        v' (.inr numChannels) = cut (fmt.width numChannels) x

end fills

theorem fillPcmOutputFormat_writes (D : DspHeaders) (sess : SessionObj) :
    WritesChannels D D.pcmOutputFormat .numChannels (fillPcmOutputFormat D sess) := by
  intro n v x hn
  have hp := placed_format D D.pcmOutputFormat
  unfold fillPcmOutputFormat
  iterate 4 refine .set hp hn ?_
  refine .read hp hn ?_
  split
  · refine .pure ?_
    simp
  · iterate 3 refine .set hp hn ?_
    refine .pure ?_
    simp

theorem fillMediaFmtPcm_writes (D : DspHeaders) (sess : SessionObj) :
    WritesChannels D D.mediaFmtPcm .numChannels (fillMediaFmtPcm D sess) := by
  intro n v x hn
  have hp := placed_format D D.mediaFmtPcm
  unfold fillMediaFmtPcm
  iterate 5 refine .set hp hn ?_
  refine .read hp hn (.set hp hn (.read hp hn (.set hp hn ?_)))
  refine .pure ?_
  simp

/-- A payload as it should be for a number of channels. -/
structure Describes {F : Type} (D : DspHeaders) (fmt : Layout F) (numChannels : F) (channels : ℕ)
    (payload : Payload) : Prop where
  aligned : 8 ∣ payload.length
  covers : (D.layout fmt).size + channels ≤ payload.length
  paramSize : (D.layout fmt).get payload (.inl (.inl .paramSize)) = payload.length
  payloadSize : (D.layout fmt).get payload (.inl (.inr .payloadSize)) = fmt.size + channels
  numChannels : (D.layout fmt).get payload (.inr numChannels) = channels

section write
variable {F : Type} [DecidableEq F] {D : DspHeaders} {fmt : Layout F} {numChannels : F}
  {fill : ℕ → ℤ → Access Bool} {channels n : ℕ}

/-- With room for the structs and the map nothing is written outside, and the fields hold the
sizes and the channel count. -/
theorem writePayload_fills (hfill : WritesChannels D fmt numChannels fill)
    (paramId : ℕ) (mod : ModuleInfo) (v : (ParamDataField ⊕ MediaFormatField) ⊕ F → ℕ)
    (hn : (D.layout fmt).size + channels ≤ n) :
    Fills (D.layout fmt) n (D.writePayload fmt paramId fill mod n channels) v fun _ v' =>
      v' (.inl (.inl .paramSize)) = n % 2 ^ 32 ∧
        v' (.inl (.inr .payloadSize)) = (fmt.size + channels) % 2 ^ 32 ∧
        v' (.inr numChannels) = channels % 256 ^ fmt.width numChannels := by
  have hp := placed_paramData D fmt
  have hm := placed_mediaFormat D fmt
  have hsize : (D.layout fmt).size ≤ n := Nat.le_of_add_right_le hn
  have hmap : D.paramData.size + D.mediaFormat.size + fmt.size +
      (getDefaultChannelMap D.pcmChannel channels).length ≤ n := by
    have hlayout : (D.layout fmt).size = D.paramData.size + D.mediaFormat.size + fmt.size := rfl
    rcases length_getDefaultChannelMap D.pcmChannel channels with hnone | hlen
    · rw [hnone, List.length_nil]
      omega
    · omega
  unfold DspHeaders.writePayload
  iterate 4 refine .set hp hsize ?_
  iterate 3 refine .set hm hsize ?_
  refine .bind (hfill n _ channels hsize) fun ok v' ⟨hheaders, hchannels⟩ => ?_
  have hparam : v' (.inl (.inl .paramSize)) = n % 2 ^ 32 := by
    rw [hheaders (.inl .paramSize), ← unsigned_natCast]
    simp [D.width_paramSize, cut_unsigned]
  have hpayload : v' (.inl (.inr .payloadSize)) = (fmt.size + channels) % 2 ^ 32 := by
    have hsum : (fmt.size + channels : ℤ) = ((fmt.size + channels : ℕ) : ℤ) := by push_cast; rfl
    rw [hheaders (.inr .payloadSize), hsum, ← unsigned_natCast]
    simp [D.width_payloadSize, cut_unsigned]
  have hcount : v' (.inr numChannels) = channels % 256 ^ fmt.width numChannels := by
    rw [hchannels, cut_natCast]
  cases ok with
  | false => exact .pure ⟨hparam, hpayload, hcount⟩
  | true =>
    refine .bind (Fills.storeBytes (Nat.le_refl _) hmap) fun _ v'' hv'' => .pure ?_
    rw [hv'']
    exact ⟨hparam, hpayload, hcount⟩

end write

/-! ### The size of a payload -/

/-- `ALIGN_PAYLOAD(x, 8)` rounds down what is 7 more, with the wrap of `size_t`. -/
theorem alignPayload_eight {sizeBits : ℕ} (hbits : 32 ≤ sizeBits) (x : ℤ) :
    alignPayload sizeBits (unsigned sizeBits x) 8 = unsigned sizeBits (x + 7) / 8 * 8 := by
  have hclear := and_clear_low (k := 3) (Nat.le_trans (by decide) hbits)
    (unsigned_lt sizeBits (x + 7))
  have hadd := unsigned_add sizeBits x 7
  rw [alignPayload, hadd]
  exact hclear

section size
variable {F : Type} {D : DspHeaders} {fmt : Layout F} {channels : ℕ}

theorem payloadSize_eq (x : ℤ) :
    D.payloadSize fmt x = unsigned D.sizeBits ((D.layout fmt).size + x + 7) / 8 * 8 := by
  have hsize : ((D.layout fmt).size : ℤ) = D.paramData.size + D.mediaFormat.size + fmt.size := by
    show ((D.paramData.size + D.mediaFormat.size + fmt.size : ℕ) : ℤ) = _
    push_cast
    rfl
  rw [DspHeaders.payloadSize, alignPayload_eight D.int_le_size, hsize]

/-- A count that is not negative as an `int` is counted as it is. -/
theorem payloadSize_of_lt (hsize : (D.layout fmt).size < 2 ^ 30) (h : channels < 2 ^ 31) :
    D.payloadSize fmt channels = ((D.layout fmt).size + channels + 7) / 8 * 8 := by
  have hwide : 2 ^ 32 ≤ 2 ^ D.sizeBits := Nat.pow_le_pow_right (by decide) D.int_le_size
  have hsum : ((D.layout fmt).size + channels + 7 : ℤ) =
      (((D.layout fmt).size + channels + 7 : ℕ) : ℤ) := by push_cast; rfl
  rw [payloadSize_eq, hsum, unsigned_natCast, Nat.mod_eq_of_lt (by omega)]

/-- A count from `2 ^ 31` on is `2 ^ 32` too small as an `int`: the size is too small when the sum
is not negative for that, ... -/
theorem payloadSize_of_wrap (hsize : (D.layout fmt).size < 2 ^ 30) (h : channels < 2 ^ 32)
    (hwrap : 2 ^ 32 ≤ (D.layout fmt).size + channels + 7) :
    D.payloadSize fmt (channels - 2 ^ 32) =
      ((D.layout fmt).size + channels + 7 - 2 ^ 32) / 8 * 8 := by
  have hwide : 2 ^ 32 ≤ 2 ^ D.sizeBits := Nat.pow_le_pow_right (by decide) D.int_le_size
  have hsum : ((D.layout fmt).size + (channels - 2 ^ 32) + 7 : ℤ) =
      (((D.layout fmt).size + channels + 7 - 2 ^ 32 : ℕ) : ℤ) := by
    rw [Nat.cast_sub hwrap]
    push_cast
    ring
  rw [payloadSize_eq, hsum, unsigned_natCast, Nat.mod_eq_of_lt (by omega)]

/-- ... and more than a heap has when it is. -/
theorem le_payloadSize_of_neg (hchannels : 2 ^ 31 ≤ channels)
    (hneg : (D.layout fmt).size + channels + 7 < 2 ^ 32) :
    2 ^ (D.sizeBits - 1) ≤ D.payloadSize fmt (channels - 2 ^ 32) := by
  have hhalf : 2 ^ D.sizeBits = 2 * 2 ^ (D.sizeBits - 1) := by
    rw [← Nat.pow_succ']
    congr 1
    have hbits := D.int_le_size
    omega
  have hwide : 2 ^ 31 ≤ 2 ^ (D.sizeBits - 1) :=
    Nat.pow_le_pow_right (by decide) (Nat.le_sub_one_of_lt D.int_le_size)
  have height : 8 ∣ 2 ^ (D.sizeBits - 1) :=
    Nat.pow_dvd_pow 2 (show 3 ≤ D.sizeBits - 1 by have hbits := D.int_le_size; omega)
  have hsum : ((D.layout fmt).size + (channels - 2 ^ 32) + 7 : ℤ) =
      -((2 ^ 32 - ((D.layout fmt).size + channels + 7) : ℕ) : ℤ) := by
    rw [Nat.cast_sub (Nat.le_of_lt hneg)]
    push_cast
    ring
  rw [payloadSize_eq, hsum, unsigned_of_neg (by omega) (by omega)]
  omega

end size

/-! ### The builders -/

/-- Whatever the heap can give, the builder stays inside of its payload, and if there is one, it is
as it should be. -/
def InBounds {F : Type} (D : DspHeaders) (fmt : Layout F) (numChannels : F) (channels : ℕ)
    (build : Heap D.sizeBits → Option Built) : Prop :=
  ∀ heap, ∃ built, build heap = some built ∧
    ∀ payload ∈ built.payload, Describes D fmt numChannels channels payload

/-- When the payload comes out right, for structs of `size` bytes in all and a channel count with a
field of `width` bytes: the count fits into the field, or no heap has the memory.  From `2 ^ 31` on
the count is negative as an `int`; it then must pull the size below zero, which no heap has memory
for either. -/
def Describable (sizeBits size width channels : ℕ) : Prop :=
  if channels < 2 ^ 31 then channels < 256 ^ width ∨ 2 ^ (sizeBits - 1) ≤ size + channels + 7
  else size + channels + 7 < 2 ^ 32

instance (sizeBits size width channels : ℕ) :
    Decidable (Describable sizeBits size width channels) :=
  inferInstanceAs (Decidable (ite _ _ _))

section builders
variable {F : Type} {D : DspHeaders} {fmt : Layout F} {numChannels : F}
  {fill : ℕ → ℤ → Access Bool} {paramId : ℕ} {gslSetCustomConfig : Payload → ℤ} {mod : ModuleInfo}
  {sess : SessionObj}

/-- The two counts that a payload describes itself by bound what it can be. -/
theorem Describes.channels_lt {channels : ℕ} {payload : Payload}
    (h : Describes D fmt numChannels channels payload) :
    (D.layout fmt).size + channels + 7 < 2 ^ 32 ∧ channels < 256 ^ fmt.width numChannels := by
  have hroom : (D.layout fmt).size ≤ payload.length := Nat.le_of_add_right_le h.covers
  have hparam := (D.layout fmt).get_lt hroom (.inl (.inl .paramSize))
  have hcount := (D.layout fmt).get_lt hroom (.inr numChannels)
  rw [h.paramSize, show (D.layout fmt).width (.inl (.inl .paramSize)) = 4 from D.width_paramSize]
    at hparam
  rw [h.numChannels] at hcount
  have haligned := h.aligned
  have hcovers := h.covers
  exact ⟨by omega, hcount⟩

/-- Up to `2 ^ 31 - 1` channels, as far as they fit into their field, the builder writes inside of
the payload only, and the payload is as it should be. -/
theorem configureMediaFormat_describes [DecidableEq F] (hfill : WritesChannels D fmt numChannels fill)
    (hsize : (D.layout fmt).size < 2 ^ 30) (hint : sess.mediaConfig.channels < 2 ^ 31)
    (hfield : sess.mediaConfig.channels < 256 ^ fmt.width numChannels) (heap : Heap D.sizeBits) :
    ∃ built, configureMediaFormat D fmt paramId fill heap gslSetCustomConfig mod sess = some built ∧
      ∀ payload ∈ built.payload,
        Describes D fmt numChannels sess.mediaConfig.channels payload := by
  have hchannels : (sess.mediaConfig.channels : ℤ).bmod (2 ^ 32) = sess.mediaConfig.channels :=
    Int.bmod_eq_of_le (by omega) (by omega)
  have hn := payloadSize_of_lt hsize hint
  unfold configureMediaFormat
  dsimp only
  rw [hchannels]
  split
  case isFalse => exact ⟨_, rfl, nofun⟩
  have hroom : (D.layout fmt).size + sess.mediaConfig.channels ≤
      D.payloadSize fmt sess.mediaConfig.channels := by omega
  obtain ⟨ok, payload, hrun, hlen, hparam, hpayload, hcount⟩ :=
    writePayload_fills hfill paramId mod _ hroom (List.replicate _ 0) List.length_replicate rfl
  have hfmt : fmt.size ≤ (D.layout fmt).size := Nat.le_add_left _ _
  have hdescribes : Describes D fmt numChannels sess.mediaConfig.channels payload :=
    { aligned := by omega
      covers := by omega
      paramSize := by
        rw [hparam, hlen]
        exact Nat.mod_eq_of_lt (by omega)
      payloadSize := by
        rw [hpayload]
        exact Nat.mod_eq_of_lt (by omega)
      numChannels := by
        rw [hcount]
        exact Nat.mod_eq_of_lt hfield }
  rw [hrun]
  cases ok with
  | false => exact ⟨_, rfl, fun _ h => Option.mem_some.mp h ▸ hdescribes⟩
  | true => exact ⟨_, rfl, fun _ h => Option.mem_some.mp h ▸ hdescribes⟩

/-- Without memory the builder stops with `-ENOMEM` before it writes anything. -/
theorem configureMediaFormat_noMemory {heap : Heap D.sizeBits}
    (h : heap.serves (D.payloadSize fmt ((sess.mediaConfig.channels : ℤ).bmod (2 ^ 32))) = false) :
    configureMediaFormat D fmt paramId fill heap gslSetCustomConfig mod sess =
      some ⟨-ENOMEM, none⟩ := by
  unfold configureMediaFormat
  dsimp only
  rw [h]
  rfl

/-- With memory it has a payload in the end, if it does not write outside of it. -/
theorem configureMediaFormat_payload {heap : Heap D.sizeBits} {built : Built}
    (hserves : heap.serves (D.payloadSize fmt ((sess.mediaConfig.channels : ℤ).bmod (2 ^ 32))))
    (h : configureMediaFormat D fmt paramId fill heap gslSetCustomConfig mod sess = some built) :
    ∃ payload, built.payload = some payload := by
  unfold configureMediaFormat at h
  dsimp only at h
  rw [if_pos hserves] at h
  split at h
  · exact nomatch h
  · exact ⟨_, by rw [← Option.some.inj h]⟩
  · exact ⟨_, by rw [← Option.some.inj h]⟩

theorem configureMediaFormat_inBounds_iff [DecidableEq F] (hfill : WritesChannels D fmt numChannels fill)
    (hsize : (D.layout fmt).size < 2 ^ 30) (hchannels : sess.mediaConfig.channels < 2 ^ 32) :
    (InBounds D fmt numChannels sess.mediaConfig.channels fun heap =>
        configureMediaFormat D fmt paramId fill heap gslSetCustomConfig mod sess) ↔
      Describable D.sizeBits (D.layout fmt).size (fmt.width numChannels)
        sess.mediaConfig.channels := by
  have hwide : 2 ^ 31 ≤ 2 ^ (D.sizeBits - 1) :=
    Nat.pow_le_pow_right (by decide) (Nat.le_sub_one_of_lt D.int_le_size)
  have height : 8 ∣ 2 ^ (D.sizeBits - 1) :=
    Nat.pow_dvd_pow 2 (show 3 ≤ D.sizeBits - 1 by have hbits := D.int_le_size; omega)
  -- with the ample heap the payload exists whenever its size is one that can be served
  have hample (h : InBounds D fmt numChannels sess.mediaConfig.channels fun heap =>
        configureMediaFormat D fmt paramId fill heap gslSetCustomConfig mod sess)
      (hserves : D.payloadSize fmt ((sess.mediaConfig.channels : ℤ).bmod (2 ^ 32)) <
        2 ^ (D.sizeBits - 1)) :
      ∃ payload, Describes D fmt numChannels sess.mediaConfig.channels payload := by
    obtain ⟨built, hbuilt, hdescribes⟩ := h (Heap.ample D.sizeBits)
    obtain ⟨payload, hpayload⟩ := configureMediaFormat_payload (decide_eq_true hserves) hbuilt
    exact ⟨payload, hdescribes payload hpayload⟩
  unfold Describable
  rcases Nat.lt_or_ge sess.mediaConfig.channels (2 ^ 31) with hint | hwrap
  · have hbmod : (sess.mediaConfig.channels : ℤ).bmod (2 ^ 32) = sess.mediaConfig.channels :=
      Int.bmod_eq_of_le (by omega) (by omega)
    have hn := payloadSize_of_lt hsize hint
    rw [if_pos hint]
    constructor
    · intro h
      by_contra hnot
      obtain ⟨hfield, hroom⟩ := not_or.mp hnot
      obtain ⟨payload, hdescribes⟩ := hample h (by rw [hbmod]; omega)
      exact hfield hdescribes.channels_lt.2
    · rintro (hfield | hroom) heap
      · exact configureMediaFormat_describes hfill hsize hint hfield heap
      · have hrefuses := heap.refuses (D.payloadSize fmt sess.mediaConfig.channels) (by omega)
        rw [← hbmod] at hrefuses
        exact ⟨_, configureMediaFormat_noMemory hrefuses, nofun⟩
  · have hbmod : (sess.mediaConfig.channels : ℤ).bmod (2 ^ 32) =
        sess.mediaConfig.channels - 2 ^ 32 := by
      rw [← Int.sub_bmod_right]
      exact Int.bmod_eq_of_le (by omega) (by omega)
    rw [if_neg (Nat.not_lt.mpr hwrap)]
    constructor
    · intro h
      by_contra hnot
      have hn := payloadSize_of_wrap hsize hchannels (Nat.not_lt.mp hnot)
      obtain ⟨payload, hdescribes⟩ := hample h (by rw [hbmod]; omega)
      exact hnot hdescribes.channels_lt.1
    · intro hneg heap
      have hrefuses := heap.refuses _ (le_payloadSize_of_neg hwrap hneg)
      rw [← hbmod] at hrefuses
      exact ⟨_, configureMediaFormat_noMemory hrefuses, nofun⟩

end builders

section sizes
variable (D : DspHeaders)

theorem size_pcmOutputFormat_lt : (D.layout D.pcmOutputFormat).size < 2 ^ 30 :=
  D.size_lt _ (List.mem_cons_self ..)

theorem size_mediaFmtPcm_lt : (D.layout D.mediaFmtPcm).size < 2 ^ 30 :=
  D.size_lt _ (List.mem_cons_of_mem _ (List.mem_cons_self ..))

end sizes


/-! ### Headers of usual sizes -/

theorem int_le_usualSize : 32 ≤ 64 := by decide

/-- Headers with 32-bit ids and sizes, and with 16-bit fields in the formats. -/
def usualHeaders : DspHeaders where
  sizeBits := 64
  paramData :=
    { size := 16
      offset
        | .moduleInstanceId => 0
        | .paramId => 4
        | .paramSize => 8
        | .errorCode => 12
      width := fun _ => 4
      width_pos := fun _ => by decide
      fits := by rintro (_ | _ | _ | _) <;> decide
      apart := by rintro (_ | _ | _ | _) (_ | _ | _ | _) <;> decide }
  mediaFormat :=
    { size := 12
      offset
        | .dataFormat => 0
        | .fmtId => 4
        | .payloadSize => 8
      width := fun _ => 4
      width_pos := fun _ => by decide
      fits := by rintro (_ | _ | _) <;> decide
      apart := by rintro (_ | _ | _) (_ | _ | _) <;> decide }
  pcmOutputFormat :=
    { size := 16
      offset
        | .bitWidth => 0
        | .alignment => 2
        | .bitsPerSample => 4
        | .qFactor => 6
        | .endianness => 8
        | .interleaved => 10
        | .numChannels => 14
      width := fun _ => 2
      width_pos := fun _ => by decide
      fits := by rintro (_ | _ | _ | _ | _ | _ | _) <;> decide
      apart := by
        rintro (_ | _ | _ | _ | _ | _ | _) (_ | _ | _ | _ | _ | _ | _) <;> decide }
  mediaFmtPcm :=
    { size := 16
      offset
        | .sampleRate => 0
        | .bitWidth => 4
        | .alignment => 6
        | .bitsPerSample => 8
        | .qFactor => 10
        | .endianness => 12
        | .numChannels => 14
      width
        | .sampleRate => 4
        | _ => 2
      width_pos := by rintro (_ | _ | _ | _ | _ | _ | _) <;> decide
      fits := by rintro (_ | _ | _ | _ | _ | _ | _) <;> decide
      apart := by
        rintro (_ | _ | _ | _ | _ | _ | _) (_ | _ | _ | _ | _ | _ | _) <;> decide }
  pcmChannel
    | .l => 1
    | .r => 2
    | .c => 3
    | .ls => 4
    | .rs => 5
    | .lfe => 6
    | .cs => 7
    | .lb => 8
    | .rb => 9
  paramIdPcmOutputFormatCfg := 0x08001008
  paramIdMediaFormat := 0x0800100C
  mediaFmtIdPcm := 0x09001000
  pcmLittleEndian := 1
  pcmLsbAligned := 1
  pcmInterleaved := 1
  pcmDeinterleavedUnpacked := 3
  int_le_size := int_le_usualSize
  width_paramSize := rfl
  width_payloadSize := rfl
  size_lt := by decide

/-- A playback session for so many channels of 16 bits. -/
def pcmSession (channels : ℕ) : SessionObj :=
  { streamConfig := { dir := .rx }
    mediaConfig := { rate := 48000, channels := channels, format := 2, dataFormat := 1 } }

/-- The converter of the stream. -/
def pcmConverter : ModuleInfo := { tag := .streamPcmConverter, miid := 0x4001 }

/-- Exactly when the two builders stay inside of the payload they allocate and describe it. -/
theorem mediaFormat_inBounds_iff (D : DspHeaders) (gslSetCustomConfig : Payload → ℤ)
    (mod : ModuleInfo) (sess : SessionObj) (hchannels : sess.mediaConfig.channels < 2 ^ 32) :
    ((InBounds D D.pcmOutputFormat .numChannels sess.mediaConfig.channels fun heap =>
          configureOutputMediaFormat D heap gslSetCustomConfig mod sess) ↔
        Describable D.sizeBits (D.layout D.pcmOutputFormat).size
          (D.pcmOutputFormat.width .numChannels) sess.mediaConfig.channels) ∧
      ((InBounds D D.mediaFmtPcm .numChannels sess.mediaConfig.channels fun heap =>
          configurePcmSharedMemEp D heap gslSetCustomConfig mod sess) ↔
        Describable D.sizeBits (D.layout D.mediaFmtPcm).size
          (D.mediaFmtPcm.width .numChannels) sess.mediaConfig.channels) :=
  ⟨configureMediaFormat_inBounds_iff (fillPcmOutputFormat_writes D sess)
      (size_pcmOutputFormat_lt D) hchannels,
    configureMediaFormat_inBounds_iff (fillMediaFmtPcm_writes D sess)
      (size_mediaFmtPcm_lt D) hchannels⟩

theorem mediaFormat_inBounds_stereo :
    (InBounds usualHeaders usualHeaders.pcmOutputFormat .numChannels 2 fun heap =>
        configureOutputMediaFormat usualHeaders heap (fun _ => 0) pcmConverter (pcmSession 2)) ∧
      InBounds usualHeaders usualHeaders.mediaFmtPcm .numChannels 2 fun heap =>
        configurePcmSharedMemEp usualHeaders heap (fun _ => 0) pcmConverter (pcmSession 2) :=
  have hbounds := mediaFormat_inBounds_iff usualHeaders (fun _ => 0) pcmConverter (pcmSession 2)
    (by decide)
  ⟨hbounds.1.mpr (by decide), hbounds.2.mpr (by decide)⟩

example : configureOutputMediaFormat usualHeaders (Heap.ample 64) (fun _ => 0) pcmConverter
    (pcmSession 2) = some ⟨0, some [1, 64, 0, 0, 8, 16, 0, 8, 48, 0, 0, 0, 0, 0, 0, 0,
      1, 0, 0, 0, 0, 16, 0, 9, 18, 0, 0, 0, 16, 0, 1, 0, 16, 0, 15, 0, 1, 0, 3, 0, 0, 0, 2, 0,
      1, 2, 0, 0]⟩ := by decide +kernel

/-- With `2 ^ 32 - 32` channels the payload has 16 bytes, fewer than its headers. -/
theorem mediaFormat_inBounds_negative :
    ¬ InBounds usualHeaders usualHeaders.pcmOutputFormat .numChannels (2 ^ 32 - 32) fun heap =>
      configureOutputMediaFormat usualHeaders heap (fun _ => 0) pcmConverter
        (pcmSession (2 ^ 32 - 32)) := by
  intro h
  obtain ⟨built, hbuilt, -⟩ := h (Heap.ample 64)
  have hoverrun : configureOutputMediaFormat usualHeaders (Heap.ample 64) (fun _ => 0)
      pcmConverter (pcmSession (2 ^ 32 - 32)) = none := by decide +kernel
  exact nomatch hoverrun.symm.trans hbuilt

end Agm
