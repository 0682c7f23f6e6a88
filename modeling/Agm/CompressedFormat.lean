import Agm.CompressCodec

/-! # What the DSP is told of a compressed stream

The codec that a client asks for goes into the configuration of the session, and from there to the
two modules of the stream: `configure_placeholder_dec` tells the decoder which codec it has to be,
and `configure_compress_shared_mem_ep` sends the struct of the codec behind the headers of a media
format.

* **The structs of the DSP** (`CompressedHeaders`) are copied from those of `agm_api.h`; of their
  sizes nothing is assumed but that the union has as many bytes.
* **`codecAfter`** is the configuration after any number of `agm_compress_set_params`: the union
  keeps what is not overwritten.

`codec_reaches_dsp`: what arrives is what the client has asked for last, field by field.
`format_fresh_iff`: for which codecs nothing of earlier ones is left in it. -/

namespace Agm

open Block

/-! ### Payloads of codecs -/

def AGM_DATA_FORMAT_RAW_COMPRESSED : ℕ := 6

/-- What the headers of the DSP define for compressed streams: `MEDIA_FMT_*`, `MEDIA_FMT_ID_*` and
the sizes of the structs `payload_media_fmt_*_t`. -/
structure CompressedHeaders where
  dsp : DspHeaders
  mediaFmtPcm : ℕ
  mediaFmt : MediaFmt → ℕ
  mediaFmtId : MediaFmt → ℕ
  fmtSize : MediaFmt → ℕ
  fmtSize_le : ∀ fmt, fmtSize fmt ≤ codecSize

namespace CompressedHeaders

variable (C : CompressedHeaders)

/-- The size of the struct that is sent; MP3 and Vorbis have none. -/
def formatSize : MediaFmt → ℕ
  | .mp3 | .vorbis => 0
  | fmt => C.fmtSize fmt

/-- The two headers of a payload. -/
def headers : Layout (ParamDataField ⊕ MediaFormatField) := C.dsp.paramData.append C.dsp.mediaFormat

end CompressedHeaders

/-- The id that a stream is announced with; an APE stream gets that of ALAC. -/
def MediaFmt.announced : MediaFmt → MediaFmt
  | ape => alac
  | fmt => fmt

/-- `get_media_fmt_id_and_size`: the size of the payload and the real id. -/
def getMediaFmtIdAndSize (C : CompressedHeaders) (fmtId : ℕ) : Option (ℕ × ℕ) :=
  if isFormatPcm fmtId then some (C.headers.size + C.dsp.mediaFmtPcm.size, C.mediaFmtPcm)
  else (mediaFmtOf fmtId).map fun fmt => (C.headers.size + C.formatSize fmt, C.mediaFmt fmt)

/-! ### The payload -/

/-- The parameter header as `configure_compress_shared_mem_ep` writes it. -/
def writeParamHeader (C : CompressedHeaders) (mod : ModuleInfo) (payloadSize : ℕ) :
    Access Unit := do
  let header := 0
  C.dsp.paramData.set header .moduleInstanceId mod.miid
  C.dsp.paramData.set header .paramId C.dsp.paramIdMediaFormat
  C.dsp.paramData.set header .errorCode 0
  C.dsp.paramData.set header .paramSize payloadSize

/-- The header of the media format, which is the same in every case. -/
def writeMediaFormat (C : CompressedHeaders) (fmt : MediaFmt) (mediaFmtHdr : ℕ) : Access Unit := do
  C.dsp.mediaFormat.set mediaFmtHdr .dataFormat AGM_DATA_FORMAT_RAW_COMPRESSED
  C.dsp.mediaFormat.set mediaFmtHdr .fmtId (C.mediaFmtId fmt.announced)
  C.dsp.mediaFormat.set mediaFmtHdr .payloadSize (C.formatSize fmt)

/-- `set_compressed_media_format`; the members of the codec all lie at its start. -/
def setCompressedMediaFormat (C : CompressedHeaders) (fmtId mediaFmtHdr : ℕ) (sess : SessionObj) :
    Access ℤ :=
  match mediaFmtOf fmtId with
  | none | some .vorbis => pure (-EINVAL)
  | some fmt => do
      writeMediaFormat C fmt mediaFmtHdr
      storeBytes (mediaFmtHdr + C.dsp.mediaFormat.size)
        (sess.streamConfig.codec.take (C.formatSize fmt))
      pure 0

/-- `configure_compress_shared_mem_ep`; `none` stands for an access outside the payload, or
through a null pointer. -/
def configureCompressSharedMemEp (C : CompressedHeaders) (heap : Heap C.dsp.sizeBits)
    (gslSetCustomConfig : Payload → ℤ) (mod : ModuleInfo) (sess : SessionObj) : Option Built :=
  if isFormatBypassed sess.mediaConfig.format then some ⟨0, none⟩
  else
    match getMediaFmtIdAndSize C sess.mediaConfig.format with
    | none => some ⟨0, none⟩
    | some (size, _) =>
        let payloadSize := alignPayload C.dsp.sizeBits size 8
        if heap.serves payloadSize then
          let write := do
            writeParamHeader C mod payloadSize
            setCompressedMediaFormat C sess.mediaConfig.format C.dsp.paramData.size sess
          match write (List.replicate payloadSize 0) with
          | none => none
          | some (ret, payload) =>
              if ret ≠ 0 then some ⟨ret, some payload⟩
              else some ⟨arErrGetLnxErrCode (gslSetCustomConfig payload), some payload⟩
        else none

/-- `configure_shared_mem_ep`. -/
def configureSharedMemEp (C : CompressedHeaders) (heap : Heap C.dsp.sizeBits)
    (gslSetCustomConfig : Payload → ℤ) (mod : ModuleInfo) (sess : SessionObj) : Option Built :=
  if isFormatPcm sess.mediaConfig.format then
    configurePcmSharedMemEp C.dsp heap gslSetCustomConfig mod sess
  else configureCompressSharedMemEp C heap gslSetCustomConfig mod sess

/-- How `configure_placeholder_dec` ends: its return value, the real id that the decoder was told,
and the payload of the output format. -/
structure Placeholder where
  ret : ℤ
  realFmtId : Option ℕ
  payload : Option Payload
deriving DecidableEq, Repr

/-- `configure_placeholder_dec`; `kvp` says whether there is memory for the tag key vector, which is
not asked. -/
def configurePlaceholderDec (C : CompressedHeaders) (heap : Heap C.dsp.sizeBits) (kvp : Bool)
    (gslSetConfig : ℕ → ℤ) (gslSetCustomConfig : Payload → ℤ) (mod : ModuleInfo)
    (sess : SessionObj) : Option Placeholder :=
  match getMediaFmtIdAndSize C sess.mediaConfig.format with
  | none => some ⟨0, none, none⟩
  | some (_, realFmtId) =>
      if kvp then
        if gslSetConfig realFmtId ≠ 0 then
          some ⟨arErrGetLnxErrCode (gslSetConfig realFmtId), some realFmtId, none⟩
        else
          (configureOutputMediaFormat C.dsp heap gslSetCustomConfig mod sess).map fun built =>
            ⟨built.ret, some realFmtId, built.payload⟩
      else none

/-! ### What is sent -/

/-- A payload as it should be for a format and a codec. -/
structure DescribesCodec (C : CompressedHeaders) (mod : ModuleInfo) (fmt : MediaFmt) (codec : Payload)
    (payload : Payload) : Prop where
  moduleInstanceId : C.headers.get payload (.inl .moduleInstanceId) =
    mod.miid % 256 ^ C.dsp.paramData.width .moduleInstanceId
  paramId : C.headers.get payload (.inl .paramId) =
    C.dsp.paramIdMediaFormat % 256 ^ C.dsp.paramData.width .paramId
  errorCode : C.headers.get payload (.inl .errorCode) = 0
  paramSize : C.headers.get payload (.inl .paramSize) = payload.length
  dataFormat : C.headers.get payload (.inr .dataFormat) =
    AGM_DATA_FORMAT_RAW_COMPRESSED % 256 ^ C.dsp.mediaFormat.width .dataFormat
  fmtId : C.headers.get payload (.inr .fmtId) =
    C.mediaFmtId fmt.announced % 256 ^ C.dsp.mediaFormat.width .fmtId
  payloadSize : C.headers.get payload (.inr .payloadSize) = C.formatSize fmt
  format : ∃ rest, payload.drop C.headers.size = codec.take (C.formatSize fmt) ++ rest

section sent
variable {C : CompressedHeaders} {mod : ModuleInfo} {fmt : MediaFmt} {n : ℕ}

theorem CompressedHeaders.formatSize_le (C : CompressedHeaders) (fmt : MediaFmt) :
    C.formatSize fmt ≤ codecSize := by
  cases fmt
  case mp3 => exact Nat.zero_le _
  case vorbis => exact Nat.zero_le _
  all_goals exact C.fmtSize_le _

theorem CompressedHeaders.size_headers_lt (C : CompressedHeaders) : C.headers.size < 2 ^ 30 :=
  Nat.lt_of_le_of_lt (Nat.le_add_right _ _) (C.dsp.size_lt _ List.mem_cons_self)

theorem writeParamHeader_fills (mod : ModuleInfo) (v : ParamDataField ⊕ MediaFormatField → ℕ)
    (hn : C.headers.size ≤ n) (hlt : n < 2 ^ 32) :
    Fills C.headers n (writeParamHeader C mod n) v fun _ v' =>
      v' (.inl .moduleInstanceId) = mod.miid % 256 ^ C.dsp.paramData.width .moduleInstanceId ∧
      v' (.inl .paramId) = C.dsp.paramIdMediaFormat % 256 ^ C.dsp.paramData.width .paramId ∧
      v' (.inl .errorCode) = 0 ∧ v' (.inl .paramSize) = n := by
  have hp := Layout.Placed.left C.dsp.paramData C.dsp.mediaFormat
  unfold writeParamHeader
  iterate 3 refine .set hp hn ?_
  refine (Fills.last hp hn).mono fun _ v' hv' => ?_
  subst hv'
  have hwidth : n % 256 ^ C.dsp.paramData.width .paramSize = n := by
    rw [C.dsp.width_paramSize]
    exact Nat.mod_eq_of_lt hlt
  have hzero : cut (C.dsp.paramData.width .errorCode) 0 = 0 := by simp [cut]
  simp [cut_natCast, hwidth, hzero]

theorem writeMediaFormat_fills (fmt : MediaFmt) (v : ParamDataField ⊕ MediaFormatField → ℕ)
    (hn : C.headers.size ≤ n) :
    Fills C.headers n (writeMediaFormat C fmt C.dsp.paramData.size) v fun _ v' =>
      (∀ f, v' (.inl f) = v (.inl f)) ∧
      v' (.inr .dataFormat) =
        AGM_DATA_FORMAT_RAW_COMPRESSED % 256 ^ C.dsp.mediaFormat.width .dataFormat ∧
      v' (.inr .fmtId) = C.mediaFmtId fmt.announced % 256 ^ C.dsp.mediaFormat.width .fmtId ∧
      v' (.inr .payloadSize) = C.formatSize fmt := by
  have hp := Layout.Placed.right C.dsp.paramData C.dsp.mediaFormat
  have hsize : C.formatSize fmt < 4294967296 :=
    Nat.lt_of_le_of_lt (C.formatSize_le fmt) (by decide)
  unfold writeMediaFormat
  iterate 2 refine .set hp hn ?_
  refine (Fills.last hp hn).mono fun _ v' hv' => ?_
  subst hv'
  simp [cut_natCast, C.dsp.width_payloadSize, hsize]

/-- The headers, with other bytes behind them. -/
theorem headers_get_splice {bytes new : List UInt8}
    (h : C.headers.size + new.length ≤ bytes.length) :
    C.headers.get (splice bytes new C.headers.size) = C.headers.get bytes := by
  funext f
  exact leAt_splice_apart h (.inl (C.headers.fits f))

theorem setCompressedMediaFormat_eq {fmtId : ℕ} (hfmt : mediaFmtOf fmtId = some fmt)
    (hvorbis : fmt ≠ .vorbis) (mediaFmtHdr : ℕ) (sess : SessionObj) :
    setCompressedMediaFormat C fmtId mediaFmtHdr sess = (do
      writeMediaFormat C fmt mediaFmtHdr
      storeBytes (mediaFmtHdr + C.dsp.mediaFormat.size)
        (sess.streamConfig.codec.take (C.formatSize fmt))
      pure 0) := by
  unfold setCompressedMediaFormat
  rw [hfmt]
  cases fmt
  case vorbis => exact absurd rfl hvorbis
  all_goals rfl

/-- Where there is room, both headers and the struct are written. -/
theorem writeCompressed_run (mod : ModuleInfo) {sess : SessionObj}
    (hfmt : mediaFmtOf sess.mediaConfig.format = some fmt) (hvorbis : fmt ≠ .vorbis)
    (hcodec : sess.streamConfig.codec.length = codecSize)
    (hn : C.headers.size + C.formatSize fmt ≤ n) (hlt : n < 2 ^ 32) :
    ∃ payload, (do
        writeParamHeader C mod n
        setCompressedMediaFormat C sess.mediaConfig.format C.dsp.paramData.size sess)
          (List.replicate n 0) = some (0, payload) ∧
      DescribesCodec C mod fmt sess.streamConfig.codec payload := by
  have hsize : C.headers.size ≤ n := Nat.le_of_add_right_le hn
  obtain ⟨_, mid, hhdr, hmid, hmiid, hparam, herror, hparamSize⟩ :=
    writeParamHeader_fills mod _ hsize hlt (List.replicate n 0) List.length_replicate rfl
  obtain ⟨_, filled, hmedia, hfilled, hkeep, hdata, hid, hpayload⟩ :=
    writeMediaFormat_fills fmt _ hsize mid hmid rfl
  have hlen : (sess.streamConfig.codec.take (C.formatSize fmt)).length = C.formatSize fmt :=
    List.length_take_of_le (hcodec.symm ▸ C.formatSize_le fmt)
  have hin : C.headers.size + (sess.streamConfig.codec.take (C.formatSize fmt)).length ≤
      filled.length := by
    rw [hlen, hfilled]
    exact hn
  refine ⟨splice filled (sess.streamConfig.codec.take (C.formatSize fmt)) C.headers.size, ?_, ?_⟩
  · rw [setCompressedMediaFormat_eq hfmt hvorbis]
    exact (bind_run hhdr).trans ((bind_run hmedia).trans (bind_run (storeBytes_eq hin)))
  · have hget := headers_get_splice hin
    have hlength := length_splice hin
    exact
      { moduleInstanceId := by rw [hget, hkeep, hmiid]
        paramId := by rw [hget, hkeep, hparam]
        errorCode := by rw [hget, hkeep, herror]
        paramSize := by rw [hget, hkeep, hparamSize, hlength, hfilled]
        dataFormat := by rw [hget, hdata]
        fmtId := by rw [hget, hid]
        payloadSize := by rw [hget, hpayload]
        format := ⟨_, drop_splice hin⟩ }

/-- `ALIGN_PAYLOAD` rounds up, as long as nothing wraps. -/
theorem alignPayload_room {sizeBits n : ℕ} (hbits : 32 ≤ sizeBits) (hn : n + 7 < 2 ^ 31) :
    n ≤ alignPayload sizeBits n 8 ∧ alignPayload sizeBits n 8 < 2 ^ 31 := by
  have hwide : 2 ^ 32 ≤ 2 ^ sizeBits := Nat.pow_le_pow_right (by decide) hbits
  have halign := alignPayload_eight hbits (n : ℤ)
  have hsum : (n : ℤ) + 7 = ((n + 7 : ℕ) : ℤ) := by push_cast; rfl
  rw [hsum, unsigned_natCast, unsigned_natCast, Nat.mod_eq_of_lt (by omega),
    Nat.mod_eq_of_lt (by omega)] at halign
  omega

/-- The payload has room for what is written. -/
theorem payloadSize_room (C : CompressedHeaders) (fmt : MediaFmt) :
    C.headers.size + C.formatSize fmt ≤
        alignPayload C.dsp.sizeBits (C.headers.size + C.formatSize fmt) 8 ∧
      alignPayload C.dsp.sizeBits (C.headers.size + C.formatSize fmt) 8 < 2 ^ 31 := by
  have hsize := C.size_headers_lt
  have hfmt : C.formatSize fmt ≤ 32 := C.formatSize_le fmt
  exact alignPayload_room C.dsp.int_le_size (by omega)

/-- What the shared memory module is sent for a codec that has a payload. -/
theorem configureSharedMemEp_sends {heap : Heap C.dsp.sizeBits}
    (hheap : ∀ n < 2 ^ 31, heap.serves n = true) (gslSetCustomConfig : Payload → ℤ)
    (mod : ModuleInfo) (sess : SessionObj) (hpcm : isFormatPcm sess.mediaConfig.format = false)
    (hfmt : mediaFmtOf sess.mediaConfig.format = some fmt) (hvorbis : fmt ≠ .vorbis)
    (hcodec : sess.streamConfig.codec.length = codecSize) :
    ∃ payload, configureSharedMemEp C heap gslSetCustomConfig mod sess =
        some ⟨arErrGetLnxErrCode (gslSetCustomConfig payload), some payload⟩ ∧
      DescribesCodec C mod fmt sess.streamConfig.codec payload := by
  obtain ⟨hroom, hlt⟩ := payloadSize_room C fmt
  obtain ⟨payload, hrun, hann⟩ := writeCompressed_run mod hfmt hvorbis hcodec hroom
    (hlt.trans (by decide))
  have hbypass : isFormatBypassed sess.mediaConfig.format = false := by
    refine decide_eq_false fun heq => hvorbis ?_
    rw [heq] at hfmt
    exact (Option.some.inj hfmt).symm
  have hsize : getMediaFmtIdAndSize C sess.mediaConfig.format =
      some (C.headers.size + C.formatSize fmt, C.mediaFmt fmt) := by
    unfold getMediaFmtIdAndSize
    rw [hpcm, hfmt]
    rfl
  refine ⟨payload, ?_, hann⟩
  unfold configureSharedMemEp configureCompressSharedMemEp
  rw [hpcm, hbypass, hsize]
  dsimp only
  rw [if_neg Bool.false_ne_true, if_neg Bool.false_ne_true, if_pos (hheap _ hlt), hrun]
  exact if_neg (not_not.mpr rfl)

end sent

/-! ### From the client to the DSP -/

/-- The media configuration and the codec after calls of `agm_compress_set_params` on a new
plugin. -/
def codecAfter (H : ComprHeaders) (codecs : List SndCodec) : Option (MediaConfig × Payload) :=
  codecs.foldlM (fun s c => agmSessionUpdateCodecConfig H c s.1 s.2)
    ({}, zeroedSessionConfig.codec)

/-- The session with such a configuration. -/
def SessionObj.configured (sess : SessionObj) (s : MediaConfig × Payload) : SessionObj :=
  { sess with
    streamConfig := { sess.streamConfig with codec := s.2 }
    mediaConfig := s.1 }

/-- The codec of the DSP that a codec of the client is translated into. -/
def SndAudioCodec.mediaFmt (id : SndAudioCodec) : Option MediaFmt := id.agmFormat.bind mediaFmtOf

section client
variable {C : CompressedHeaders} {H : ComprHeaders} {mod : ModuleInfo} {sess : SessionObj}
  {c : SndCodec} {fmt : MediaFmt}

theorem codecAfter_append (before : List SndCodec) (c : SndCodec) :
    codecAfter H (before ++ [c]) =
      (codecAfter H before).bind fun s => agmSessionUpdateCodecConfig H c s.1 s.2 := by
  unfold codecAfter
  rw [List.foldlM_append]
  exact congrArg _ (funext fun s => bind_pure _)

/-- The step of `codecAfter`. -/
theorem codecAfter_step (before : List SndCodec) {old : MediaConfig × Payload}
    (h : codecAfter H before = some old) (hold : old.2.length = codecSize) (c : SndCodec) :
    ∃ new, codecAfter H (before ++ [c]) = some new ∧ new.2.length = codecSize ∧
      new.1.format = c.id.agmFormat.getD old.1.format ∧
        ∀ dec, c.id.dec = some dec → ∀ f ∈ dec.fields,
          f.2.get new.2 = c.field H f (f.2.get old.2) := by
  obtain ⟨codec, hrun, hlen, hfield⟩ := updateCodecConfig_run H c old.1 hold
  have hnew := (codecAfter_append (H := H) before c).trans
    ((congrArg (Option.bind · _) h).trans hrun)
  exact ⟨_, hnew, hlen, rfl, hfield⟩

theorem codecAfter_some (H : ComprHeaders) (codecs : List SndCodec) :
    ∃ s, codecAfter H codecs = some s ∧ s.2.length = codecSize := by
  induction codecs using List.reverseRecOn with
  | nil => exact ⟨_, rfl, List.length_replicate⟩
  | append_singleton before c ih =>
      obtain ⟨old, hold, hlen⟩ := ih
      obtain ⟨new, hnew, hlen', -⟩ := codecAfter_step before hold hlen c
      exact ⟨new, hnew, hlen'⟩

theorem isFormatPcm_of_mediaFmt {fmtId : ℕ} (h : mediaFmtOf fmtId = some fmt) :
    isFormatPcm fmtId = false := by
  refine decide_eq_false ?_
  rintro ⟨-, hle⟩
  have hnone : ∀ n ≤ AGM_FORMAT_PCM_S32_LE, mediaFmtOf n = none := by decide
  rw [hnone fmtId hle] at h
  cases h

theorem mediaFmtOf_getD (h : c.id.mediaFmt = some fmt) (old : ℕ) :
    mediaFmtOf (c.id.agmFormat.getD old) = some fmt := by
  obtain ⟨n, hn, hfmt⟩ := Option.bind_eq_some_iff.mp h
  rw [hn]
  exact hfmt

/-- What is sent for a codec after any others. -/
theorem codecAfter_sends (C : CompressedHeaders) (H : ComprHeaders) {heap : Heap C.dsp.sizeBits}
    (hheap : ∀ n < 2 ^ 31, heap.serves n = true) (gslSetCustomConfig : Payload → ℤ)
    (mod : ModuleInfo) (sess : SessionObj) (before : List SndCodec) {old : MediaConfig × Payload}
    (hold : codecAfter H before = some old) (hlen : old.2.length = codecSize)
    (hfmt : mediaFmtOf (c.id.agmFormat.getD old.1.format) = some fmt) (hvorbis : fmt ≠ .vorbis) :
    ∃ new payload, codecAfter H (before ++ [c]) = some new ∧
      mediaFmtOf new.1.format = some fmt ∧
      configureSharedMemEp C heap gslSetCustomConfig mod (sess.configured new) =
        some ⟨arErrGetLnxErrCode (gslSetCustomConfig payload), some payload⟩ ∧
      DescribesCodec C mod fmt new.2 payload ∧
      ∀ dec, c.id.dec = some dec → ∀ f ∈ dec.fields, f.2.Within (C.formatSize fmt) →
        f.2.get (payload.drop C.headers.size) = c.field H f (f.2.get old.2) := by
  obtain ⟨new, hnew, hlen', hformat, hfield⟩ := codecAfter_step before hold hlen c
  have hmedia : mediaFmtOf new.1.format = some fmt := hformat ▸ hfmt
  obtain ⟨payload, hsent, hann⟩ := configureSharedMemEp_sends hheap gslSetCustomConfig mod
    (sess.configured new) (isFormatPcm_of_mediaFmt hmedia) hmedia hvorbis hlen'
  refine ⟨new, payload, hnew, hmedia, hsent, hann, fun dec hdec f hf hwithin => ?_⟩
  obtain ⟨rest, hdrop⟩ := hann.format
  have hle : C.formatSize fmt ≤ new.2.length := hlen'.symm ▸ C.formatSize_le fmt
  rw [hdrop, ← hfield dec hdec f hf]
  exact Place.get_take_append hwithin hle

/-- The decoder is told the codec of the session. -/
theorem placeholderDec_realFmtId (sess : SessionObj) {heap : Heap C.dsp.sizeBits}
    {gslSetConfig : ℕ → ℤ}
    {gslSetCustomConfig : Payload → ℤ} (hfmt : mediaFmtOf sess.mediaConfig.format = some fmt)
    {r : Placeholder}
    (hr : configurePlaceholderDec C heap true gslSetConfig gslSetCustomConfig mod sess = some r) :
    r.realFmtId = some (C.mediaFmt fmt) := by
  have hid : getMediaFmtIdAndSize C sess.mediaConfig.format =
      some (C.headers.size + C.formatSize fmt, C.mediaFmt fmt) := by
    unfold getMediaFmtIdAndSize
    rw [isFormatPcm_of_mediaFmt hfmt, hfmt]
    rfl
  unfold configurePlaceholderDec at hr
  rw [hid] at hr
  dsimp only at hr
  rw [if_pos rfl] at hr
  split_ifs at hr
  · rw [← Option.some.inj hr]
  · obtain ⟨built, -, rfl⟩ := Option.map_eq_some_iff.mp hr
    rfl

/-- Both modules are told the codec that was asked for last, and the struct that is sent has the
client's options; a field that is not among them has what the union had there before. -/
theorem codec_reaches_dsp (C : CompressedHeaders) (H : ComprHeaders) {heap : Heap C.dsp.sizeBits}
    (hheap : ∀ n < 2 ^ 31, heap.serves n = true) (gslSetConfig : ℕ → ℤ)
    (gslSetCustomConfig : Payload → ℤ) (mod decoder : ModuleInfo) (sess : SessionObj)
    (before : List SndCodec) (c : SndCodec) {fmt : MediaFmt} (hfmt : c.id.mediaFmt = some fmt)
    (hvorbis : fmt ≠ .vorbis) :
    ∃ old new payload, codecAfter H before = some old ∧ codecAfter H (before ++ [c]) = some new ∧
      configureSharedMemEp C heap gslSetCustomConfig mod (sess.configured new) =
        some ⟨arErrGetLnxErrCode (gslSetCustomConfig payload), some payload⟩ ∧
      DescribesCodec C mod fmt new.2 payload ∧
      (∀ dec, c.id.dec = some dec → ∀ f ∈ dec.fields, f.2.Within (C.formatSize fmt) →
        f.2.get (payload.drop C.headers.size) = c.field H f (f.2.get old.2)) ∧
      ∀ r, configurePlaceholderDec C heap true gslSetConfig gslSetCustomConfig decoder
          (sess.configured new) = some r → r.realFmtId = some (C.mediaFmt fmt) := by
  obtain ⟨old, hold, hlen⟩ := codecAfter_some H before
  obtain ⟨new, payload, hnew, hmedia, hsent, hann, hfield⟩ := codecAfter_sends C H hheap
    gslSetCustomConfig mod sess before hold hlen (mediaFmtOf_getD hfmt _) hvorbis
  exact ⟨old, new, payload, hold, hnew, hsent, hann, hfield, fun r hr =>
    placeholderDec_realFmtId (sess.configured new) hmedia hr⟩

end client

/-! ### What is left of earlier codecs -/

/-- What the shared memory module makes of the codecs that a client has asked for. -/
def sharedMemAfter (C : CompressedHeaders) (H : ComprHeaders) (heap : Heap C.dsp.sizeBits)
    (gslSetCustomConfig : Payload → ℤ) (mod : ModuleInfo) (sess : SessionObj)
    (codecs : List SndCodec) : Option Built :=
  (codecAfter H codecs).bind fun s =>
    configureSharedMemEp C heap gslSetCustomConfig mod (sess.configured s)

/-- The structs of the DSP are those of `agm_api.h`. -/
def CompressedHeaders.Synced (C : CompressedHeaders) : Prop :=
  ∀ (id : SndAudioCodec) (dec : Fields CodecField) (fmt : MediaFmt), id.dec = some dec →
    id.mediaFmt = some fmt → C.formatSize fmt = dec.size

section fresh
variable {C : CompressedHeaders} {H : ComprHeaders} {heap : Heap C.dsp.sizeBits}
  {gslSetCustomConfig : Payload → ℤ} {mod : ModuleInfo} {sess : SessionObj} {c : SndCodec}
  {fmt : MediaFmt} {dec : Fields CodecField}

theorem dec_covered {id : SndAudioCodec} (h : id.dec = some dec) : dec.Covered := by
  cases id <;> cases h <;> decide

/-- With the options in the headers only one field is never written. -/
theorem assigned_all (hdec : H.decHdr = true) (h : c.id.dec = some dec) (hwma : c.id ≠ .wma) :
    ∀ f ∈ dec.fields.map Prod.fst, f ∈ (c.assigned H).map Prod.fst := by
  obtain ⟨id, chIn, chOut, sampleRate, format, options⟩ := c
  obtain ⟨decHdr, mp4latm, adif, mp4adts⟩ := H
  obtain rfl : decHdr = true := hdec
  cases id <;> cases h
  case wma => exact absurd rfl hwma
  all_goals
    simp [SndCodec.assigned, SndCodec.decBasics, SndCodec.decOptions, aacDec, flacDec, alacDec,
      apeDec, wmaproDec]

/-- A field that is assigned does not depend on what was there. -/
theorem SndCodec.field_fresh {f : CodecField × Place} (h : f.1 ∈ (c.assigned H).map Prod.fst)
    (old old' : ℕ) : c.field H f old = c.field H f old' := by
  obtain ⟨a, ha, hname⟩ := List.mem_map.mp h
  unfold SndCodec.field
  cases hlookup : (c.assigned H).lookup f.1 with
  | none =>
      rw [List.lookup_eq_none_iff] at hlookup
      have hne := hlookup a ha
      rw [hname, bne_self_eq_false] at hne
      cases hne
  | some x => rfl

/-- Of a session only the format and the struct are read. -/
theorem configureSharedMemEp_congr (sess sess' : SessionObj)
    (hfmt : mediaFmtOf sess.mediaConfig.format = some fmt)
    (hformat : sess'.mediaConfig.format = sess.mediaConfig.format)
    (hcodec : sess.streamConfig.codec.take (C.formatSize fmt) =
      sess'.streamConfig.codec.take (C.formatSize fmt)) :
    configureSharedMemEp C heap gslSetCustomConfig mod sess =
      configureSharedMemEp C heap gslSetCustomConfig mod sess' := by
  have hpcm := isFormatPcm_of_mediaFmt hfmt
  have hset : ∀ hdr, setCompressedMediaFormat C sess.mediaConfig.format hdr sess =
      setCompressedMediaFormat C sess.mediaConfig.format hdr sess' := by
    intro hdr
    by_cases hvorbis : fmt = .vorbis
    · unfold setCompressedMediaFormat
      rw [hfmt, hvorbis]
    · rw [setCompressedMediaFormat_eq hfmt hvorbis, setCompressedMediaFormat_eq hfmt hvorbis, hcodec]
  unfold configureSharedMemEp configureCompressSharedMemEp
  rw [hformat, hpcm, hset, if_neg Bool.false_ne_true, if_neg Bool.false_ne_true]

/-- A format that no switch has a case for is left to the client. -/
theorem configureSharedMemEp_none (hfmt : sess.mediaConfig.format = 0) :
    configureSharedMemEp C heap gslSetCustomConfig mod sess = some ⟨0, none⟩ := by
  have hsize : getMediaFmtIdAndSize C 0 = none := rfl
  unfold configureSharedMemEp configureCompressSharedMemEp
  rw [hfmt, hsize]
  rfl

/-- Where no struct belongs to a codec, none is sent. -/
theorem formatSize_of_no_dec (hdec : c.id.dec = none) (hfmt : c.id.mediaFmt = some fmt) :
    C.formatSize fmt = 0 := by
  obtain ⟨id, chIn, chOut, sampleRate, format, options⟩ := c
  cases id <;> cases hdec <;> cases hfmt <;> rfl

/-- The field of WMA that is never written lies where APE has its channels. -/
def oneChannelApe : SndCodec := { id := .ape, chIn := 1 }

theorem SndCodec.field_reserved (hwma : c.id = .wma) (old : ℕ) :
    c.field H (.reserved, ⟨22, 2⟩) old = old := by
  obtain ⟨id, chIn, chOut, sampleRate, format, options⟩ := c
  obtain ⟨decHdr, mp4latm, adif, mp4adts⟩ := H
  obtain rfl : id = .wma := hwma
  cases decHdr <;> rfl

/-- What an APE stream had there is left in a WMA stream. -/
theorem sharedMemAfter_wma (hsync : C.Synced) (hheap : ∀ n < 2 ^ 31, heap.serves n = true)
    (hwma : c.id = .wma) :
    sharedMemAfter C H heap gslSetCustomConfig mod sess ([] ++ [c]) ≠
      sharedMemAfter C H heap gslSetCustomConfig mod sess ([oneChannelApe] ++ [c]) := by
  intro hsame
  have hid : c.id.dec = some wmaDec := by rw [hwma]; rfl
  have hfmt : c.id.mediaFmt = some .wmastd := by rw [hwma]; rfl
  have hmem : (CodecField.reserved, (⟨22, 2⟩ : Place)) ∈ wmaDec.fields := by decide
  have hwithin : (⟨22, 2⟩ : Place).Within (C.formatSize .wmastd) := by
    rw [hsync c.id wmaDec .wmastd hid hfmt]
    decide
  -- what either history leaves in the field
  obtain ⟨old, hold, hlen, -, hape⟩ :=
    codecAfter_step (H := H) [] rfl List.length_replicate oneChannelApe
  rw [List.nil_append] at hold
  have hone : (⟨22, 2⟩ : Place).get old.2 = 1 := by
    rw [hape apeDec rfl (.numChannels, ⟨22, 2⟩) (by decide)]
    obtain ⟨decHdr, mp4latm, adif, mp4adts⟩ := H
    cases decHdr <;> rfl
  obtain ⟨new, payload, hnew, -, hsent, -, hfield⟩ := codecAfter_sends (c := c) C H hheap
    gslSetCustomConfig mod sess [] rfl List.length_replicate (mediaFmtOf_getD hfmt _)
    (by decide)
  obtain ⟨new', payload', hnew', -, hsent', -, hfield'⟩ := codecAfter_sends (c := c) C H hheap
    gslSetCustomConfig mod sess _ hold hlen (mediaFmtOf_getD hfmt _) (by decide)
  unfold sharedMemAfter at hsame
  rw [hnew, hnew'] at hsame
  have hbuilt := Option.some.inj (hsent.symm.trans (hsame.trans hsent'))
  have hpayload : payload = payload' := Option.some.inj (congrArg Built.payload hbuilt)
  have hzero := hfield wmaDec hid _ hmem hwithin
  rw [SndCodec.field_reserved hwma, hpayload, hfield' wmaDec hid _ hmem hwithin,
    SndCodec.field_reserved hwma, hone] at hzero
  exact absurd hzero (by decide)

/-- A codec that is not known is announced as the one before. -/
theorem sharedMemAfter_other (hheap : ∀ n < 2 ^ 31, heap.serves n = true) {n : ℕ}
    (hother : c.id = .other n) :
    sharedMemAfter C H heap gslSetCustomConfig mod sess ([] ++ [c]) ≠
      sharedMemAfter C H heap gslSetCustomConfig mod sess ([{ id := .mp3 }] ++ [c]) := by
  intro hsame
  have hformat : ∀ old, c.id.agmFormat.getD old = old := by
    intro old
    rw [hother]
    rfl
  obtain ⟨new, hnew, -, hnone, -⟩ :=
    codecAfter_step (H := H) [] rfl List.length_replicate c
  obtain ⟨old, hold, hlen, hmp3, -⟩ :=
    codecAfter_step (H := H) [] rfl List.length_replicate { id := .mp3 }
  rw [List.nil_append] at hold
  have hfmt : mediaFmtOf (c.id.agmFormat.getD old.1.format) = some .mp3 := by
    rw [hformat, hmp3]
    rfl
  obtain ⟨new', payload, hnew', -, hsent, -⟩ := codecAfter_sends (c := c) C H hheap
    gslSetCustomConfig mod sess _ hold hlen hfmt (by decide)
  unfold sharedMemAfter at hsame
  rw [hnew, hnew'] at hsame
  have hnothing : configureSharedMemEp C heap gslSetCustomConfig mod (sess.configured new) =
      some ⟨0, none⟩ := configureSharedMemEp_none (hnone.trans (hformat 0))
  have hbuilt := Option.some.inj (hnothing.symm.trans (hsame.trans hsent))
  cases congrArg Built.payload hbuilt

/-- Nothing of earlier codecs is left in what the DSP is sent, but in a field of WMA that is never
written, and when the codec is not known. -/
theorem format_fresh_iff (C : CompressedHeaders) (hsync : C.Synced) {H : ComprHeaders}
    (hdec : H.decHdr = true) {heap : Heap C.dsp.sizeBits}
    (hheap : ∀ n < 2 ^ 31, heap.serves n = true) (gslSetCustomConfig : Payload → ℤ)
    (mod : ModuleInfo) (sess : SessionObj) (c : SndCodec) :
    (∀ before before', sharedMemAfter C H heap gslSetCustomConfig mod sess (before ++ [c]) =
        sharedMemAfter C H heap gslSetCustomConfig mod sess (before' ++ [c])) ↔
      c.id ≠ .wma ∧ ∀ n, c.id ≠ .other n := by
  constructor
  · intro h
    exact ⟨fun hwma => sharedMemAfter_wma hsync hheap hwma (h _ _),
      fun n hother => sharedMemAfter_other hheap hother (h _ _)⟩
  · rintro ⟨hwma, hother⟩ before before'
    obtain ⟨fmt, hfmt⟩ : ∃ fmt, c.id.mediaFmt = some fmt := by
      cases hid : c.id with
      | other n => exact absurd hid (hother n)
      | _ => exact ⟨_, rfl⟩
    obtain ⟨old, hold, hlen⟩ := codecAfter_some H before
    obtain ⟨old', hold', hlen'⟩ := codecAfter_some H before'
    obtain ⟨new, hnew, hsize, hformat, hfield⟩ := codecAfter_step before hold hlen c
    obtain ⟨new', hnew', hsize', hformat', hfield'⟩ := codecAfter_step before' hold' hlen' c
    have hmedia : mediaFmtOf new.1.format = some fmt := hformat ▸ mediaFmtOf_getD hfmt _
    have hsame : new'.1.format = new.1.format := by
      obtain ⟨n, hn, -⟩ := Option.bind_eq_some_iff.mp hfmt
      rw [hformat, hformat', hn]
      rfl
    unfold sharedMemAfter
    rw [hnew, hnew']
    refine configureSharedMemEp_congr (sess.configured new) _ hmedia hsame ?_
    cases hdecoder : c.id.dec with
    | none => rw [formatSize_of_no_dec hdecoder hfmt, List.take_zero, List.take_zero]
    | some dec =>
        have hle := size_dec hdecoder
        rw [hsync c.id dec fmt hdecoder hfmt]
        refine Fields.take_eq_of_get_eq (dec_covered hdecoder) (hsize.symm ▸ hle)
          (hsize'.symm ▸ hle) fun f hf => ?_
        change f.2.get new.2 = f.2.get new'.2
        rw [hfield dec hdecoder f hf, hfield' dec hdecoder f hf]
        exact SndCodec.field_fresh
          (assigned_all hdec hdecoder hwma _ (List.mem_map_of_mem hf)) _ _

end fresh

/-! ### Headers of usual sizes -/

/-- Headers with the structs of `agm_api.h`. -/
def usualCompressedHeaders : CompressedHeaders where
  dsp := usualHeaders
  mediaFmtPcm := 0x09001000
  mediaFmt
    | .mp3 => 0x09001009
    | .aac => 0x09001001
    | .flac => 0x09001004
    | .alac => 0x09001012
    | .ape => 0x09001013
    | .wmastd => 0x0900100D
    | .wmapro => 0x0900100E
    | .vorbis => 0x0900100A
  mediaFmtId
    | .mp3 => 0x09001009
    | .aac => 0x09001001
    | .flac => 0x09001004
    | .alac => 0x09001012
    | .ape => 0x09001013
    | .wmastd => 0x0900100D
    | .wmapro => 0x0900100E
    | .vorbis => 0x0900100A
  fmtSize
    | .aac => 12
    | .flac => 20
    | .alac => 28
    | .ape => 32
    | .wmastd => 24
    | .wmapro => 28
    | .mp3 | .vorbis => 0
  fmtSize_le := by rintro (_ | _ | _ | _ | _ | _ | _ | _) <;> decide

theorem usualCompressedHeaders_synced : usualCompressedHeaders.Synced := by
  intro id dec fmt hdec hfmt
  cases id <;> cases hdec <;> cases hfmt <;> rfl

theorem ample_serves : ∀ n < 2 ^ 31, (Heap.ample usualHeaders.sizeBits).serves n = true :=
  fun _ hn => decide_eq_true (hn.trans (by decide))

/-- A FLAC stream after an APE stream. -/
theorem codec_reaches_dsp_flac :
    ∃ old new payload, codecAfter usualComprHeaders [oneChannelApe] = some old ∧
      codecAfter usualComprHeaders [oneChannelApe, { id := .flac }] = some new ∧
      configureSharedMemEp usualCompressedHeaders (Heap.ample 64) (fun _ => 0) pcmConverter
          ((pcmSession 2).configured new) = some ⟨0, some payload⟩ ∧
      DescribesCodec usualCompressedHeaders pcmConverter .flac new.2 payload ∧
      (∀ dec, SndAudioCodec.flac.dec = some dec → ∀ f ∈ dec.fields, f.2.Within 20 →
        f.2.get (payload.drop usualCompressedHeaders.headers.size) =
          SndCodec.field usualComprHeaders { id := .flac } f (f.2.get old.2)) ∧
      ∀ r, configurePlaceholderDec usualCompressedHeaders (Heap.ample 64) true (fun _ => 0)
          (fun _ => 0) pcmConverter ((pcmSession 2).configured new) = some r →
        r.realFmtId = some 0x09001004 :=
  codec_reaches_dsp usualCompressedHeaders usualComprHeaders ample_serves (fun _ => 0) (fun _ => 0)
    pcmConverter pcmConverter (pcmSession 2) [oneChannelApe] { id := .flac } rfl (by decide)

theorem format_fresh_iff_flac :
    (∀ before before', sharedMemAfter usualCompressedHeaders usualComprHeaders (Heap.ample 64)
          (fun _ => 0) pcmConverter (pcmSession 2) (before ++ [{ id := .flac }]) =
        sharedMemAfter usualCompressedHeaders usualComprHeaders (Heap.ample 64) (fun _ => 0)
          pcmConverter (pcmSession 2) (before' ++ [{ id := .flac }])) ↔
      SndAudioCodec.flac ≠ .wma ∧ ∀ n, SndAudioCodec.flac ≠ .other n :=
  format_fresh_iff usualCompressedHeaders usualCompressedHeaders_synced rfl ample_serves
    (fun _ => 0) pcmConverter (pcmSession 2) { id := .flac }

end Agm
