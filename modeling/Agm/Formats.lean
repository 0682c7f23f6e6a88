import Agm.Types
import Agm.Lib.Codec

/-! # The formats of a stream

What the payload builders of `graph_module.c` take from the configuration of a session: the format of
`media_config` says whether the stream is PCM and which codec it has, and the bit width comes from
there or from the codec.

`outputFormat`, `pcmFormat`, `sharedFmt` and `realFmtId` are what the modules of the stream are told;
`none` where there is nothing to tell for the format. -/

namespace Agm

/-! ### Formats -/

def AGM_FORMAT_PCM_S8 : ℕ := 1
def AGM_FORMAT_PCM_S24_LE : ℕ := 3
def AGM_FORMAT_PCM_S24_3LE : ℕ := 4
def AGM_FORMAT_PCM_S32_LE : ℕ := 5
def AGM_FORMAT_MP3 : ℕ := 6
def AGM_FORMAT_AAC : ℕ := 7
def AGM_FORMAT_FLAC : ℕ := 8
def AGM_FORMAT_ALAC : ℕ := 9
def AGM_FORMAT_APE : ℕ := 10
def AGM_FORMAT_WMASTD : ℕ := 11
def AGM_FORMAT_WMAPRO : ℕ := 12
def AGM_FORMAT_VORBIS : ℕ := 13

/-- The cases of the switches on `enum agm_media_format`. -/
def mediaFmtOf (fmtId : ℕ) : Option MediaFmt :=
  if fmtId = AGM_FORMAT_MP3 then some .mp3
  else if fmtId = AGM_FORMAT_AAC then some .aac
  else if fmtId = AGM_FORMAT_FLAC then some .flac
  else if fmtId = AGM_FORMAT_ALAC then some .alac
  else if fmtId = AGM_FORMAT_APE then some .ape
  else if fmtId = AGM_FORMAT_WMASTD then some .wmastd
  else if fmtId = AGM_FORMAT_WMAPRO then some .wmapro
  else if fmtId = AGM_FORMAT_VORBIS then some .vorbis
  else none

/-- `is_format_bypassed`. -/
def isFormatBypassed (fmtId : ℕ) : Bool := decide (fmtId = AGM_FORMAT_VORBIS)

/-! ### Bit widths -/

def isFormatPcm (fmtId : ℕ) : Bool :=
  decide (AGM_FORMAT_PCM_S8 ≤ fmtId ∧ fmtId ≤ AGM_FORMAT_PCM_S32_LE)

def getPcmBitWidth (fmtId : ℕ) : ℕ :=
  if fmtId = AGM_FORMAT_PCM_S24_3LE ∨ fmtId = AGM_FORMAT_PCM_S24_LE then 24
  else if fmtId = AGM_FORMAT_PCM_S32_LE then 32
  else 16

/-- The codec is the bytes of `union agm_session_codec`; the field read is that of the member the
format names. -/
def getMediaBitWidth (sess : SessionObj) : ℕ :=
  let codec := sess.streamConfig.codec
  if isFormatPcm sess.mediaConfig.format then getPcmBitWidth sess.mediaConfig.format
  else if sess.mediaConfig.format = AGM_FORMAT_FLAC then Codec.leAt 2 codec 2
  else if sess.mediaConfig.format = AGM_FORMAT_ALAC then Codec.leAt 1 codec 5
  else if sess.mediaConfig.format = AGM_FORMAT_APE then Codec.leAt 2 codec 20
  else if sess.mediaConfig.format = AGM_FORMAT_WMASTD then Codec.leAt 2 codec 14
  else if sess.mediaConfig.format = AGM_FORMAT_WMAPRO then Codec.leAt 2 codec 14
  else 16

/-- `GET_BITS_PER_SAMPLE`. -/
def getBitsPerSample (format bitWidth : ℕ) : ℤ :=
  if format = AGM_FORMAT_PCM_S24_LE then 32 else bitWidth

/-- `GET_Q_FACTOR`. -/
def getQFactor (format bitWidth : ℕ) : ℤ :=
  if format = AGM_FORMAT_PCM_S24_LE then 27 else bitWidth - 1

/-- `bits_per_sample` and `q_factor` for a bit width, `none` for a wrong one.  PCM capture wants
native data; otherwise the modules behind the converter take samples of 16 or 32 bits only. -/
def outputSample (sess : SessionObj) (bitWidth : ℕ) : Option (ℤ × ℤ) :=
  let format := sess.mediaConfig.format
  if sess.streamConfig.dir = .tx ∧ isFormatPcm format then
    some (getBitsPerSample format bitWidth, getQFactor format bitWidth)
  else if bitWidth = 16 ∨ bitWidth = 32 then some (bitWidth, bitWidth - 1)
  else if bitWidth = 24 then some (32, 27)
  else none

/-! ### Parameters -/

/-- `PARAM_ID_PCM_OUTPUT_FORMAT_CFG` for a session, unless its bit width is a wrong one. -/
def outputFormat (sess : SessionObj) : Option PcmOutputFormat :=
  let bitWidth := getMediaBitWidth sess
  (outputSample sess bitWidth).map fun sample =>
    { bitWidth
      numChannels := sess.mediaConfig.channels
      bitsPerSample := sample.1
      qFactor := sample.2
      deinterleaved := decide (sess.streamConfig.dir = .rx) }

/-- `PARAM_ID_MEDIA_FORMAT` for a PCM stream. -/
def pcmFormat (sess : SessionObj) : PcmMediaFormat :=
  let bitWidth := getMediaBitWidth sess
  { bitWidth
    sampleRate := sess.mediaConfig.rate
    numChannels := sess.mediaConfig.channels
    bitsPerSample := getBitsPerSample sess.mediaConfig.format bitWidth
    qFactor := getQFactor sess.mediaConfig.format bitWidth }

/-- The codec that the shared memory module is told, if it is told one. -/
def sharedFmt (fmtId : ℕ) : Option MediaFmt :=
  if isFormatBypassed fmtId then none else mediaFmtOf fmtId

/-- The bytes of the codec that follow the headers of a format; MP3 has none. -/
def MediaFmt.struct (fmt : MediaFmt) (codec : Payload) : Payload :=
  match fmt with
  | mp3 => []
  | _ => codec

/-- The id that a placeholder decoder is told, if it is told one. -/
def realFmtId (fmtId : ℕ) : Option (Option MediaFmt) :=
  if isFormatPcm fmtId then some none else (mediaFmtOf fmtId).map some

end Agm
