import Agm.CompressCapture
import Agm.MediaFormat
import Agm.Lib.Fields

/-! # The codec of a compress stream

`agm_session_update_codec_config` of the compress plugin translates the codec that a client asks for
into `union agm_session_codec`, whose members lie over each other.

* **The structs** are those of `agm_api.h`, each as its fields with their places.
* **The client's codec** is `SndCodec`; its options are those of the member of
  `union snd_codec_options` that goes with its id.
* **`SndCodec.assigned`** are the fields that are written.  Without the options in the headers
  (`SND_COMPRESS_DEC_HDR`) those that they are copied from are left out.

`updateCodecConfig_run`: the fields of the codec's own member are those that were assigned, and the
others what the union had there before. -/

namespace Agm

open Block

/-! ### The structs of `agm_api.h` -/

/-- The fields of the decoders. -/
inductive CodecField where
  | aacFmtFlag | audioObjType | numChannels | totalSizeOfPceBits | sampleRate
  | sampleSize | minBlkSize | maxBlkSize | minFrameSize | maxFrameSize
  | frameLength | compatibleVersion | bitDepth | pb | mb | kb | maxRun | maxFrameBytes | avgBitRate
  | channelLayoutTag
  | compressionLevel | formatFlags | blocksPerFrame | finalFrameBlocks | totalFrames | bitWidth
  | seekTablePresent
  | fmtTag | avgBytesPerSec | blkAlign | bitsPerSample | channelMask | encOptions | reserved
  | advancedEncOption | advancedEncOption2
deriving DecidableEq, Repr

/-- `struct agm_session_aac_dec`. -/
def aacDec : Fields CodecField where
  size := 12
  fields :=
    [(.aacFmtFlag, ⟨0, 2⟩), (.audioObjType, ⟨2, 2⟩), (.numChannels, ⟨4, 2⟩),
      (.totalSizeOfPceBits, ⟨6, 2⟩), (.sampleRate, ⟨8, 4⟩)]
  names := by decide
  fits := by decide
  apart := by decide

/-- `struct agm_session_flac_dec`. -/
def flacDec : Fields CodecField where
  size := 20
  fields :=
    [(.numChannels, ⟨0, 2⟩), (.sampleSize, ⟨2, 2⟩), (.minBlkSize, ⟨4, 2⟩), (.maxBlkSize, ⟨6, 2⟩),
      (.sampleRate, ⟨8, 4⟩), (.minFrameSize, ⟨12, 4⟩), (.maxFrameSize, ⟨16, 4⟩)]
  names := by decide
  fits := by decide
  apart := by decide

/-- `struct agm_session_alac_dec`. -/
def alacDec : Fields CodecField where
  size := 28
  fields :=
    [(.frameLength, ⟨0, 4⟩), (.compatibleVersion, ⟨4, 1⟩), (.bitDepth, ⟨5, 1⟩), (.pb, ⟨6, 1⟩),
      (.mb, ⟨7, 1⟩), (.kb, ⟨8, 1⟩), (.numChannels, ⟨9, 1⟩), (.maxRun, ⟨10, 2⟩),
      (.maxFrameBytes, ⟨12, 4⟩), (.avgBitRate, ⟨16, 4⟩), (.sampleRate, ⟨20, 4⟩),
      (.channelLayoutTag, ⟨24, 4⟩)]
  names := by decide
  fits := by decide
  apart := by decide

/-- `struct agm_session_ape_dec`. -/
def apeDec : Fields CodecField where
  size := 32
  fields :=
    [(.compatibleVersion, ⟨0, 2⟩), (.compressionLevel, ⟨2, 2⟩), (.formatFlags, ⟨4, 4⟩),
      (.blocksPerFrame, ⟨8, 4⟩), (.finalFrameBlocks, ⟨12, 4⟩), (.totalFrames, ⟨16, 4⟩),
      (.bitWidth, ⟨20, 2⟩), (.numChannels, ⟨22, 2⟩), (.sampleRate, ⟨24, 4⟩),
      (.seekTablePresent, ⟨28, 4⟩)]
  names := by decide
  fits := by decide
  apart := by decide

/-- `struct agm_session_wma_dec`. -/
def wmaDec : Fields CodecField where
  size := 24
  fields :=
    [(.fmtTag, ⟨0, 2⟩), (.numChannels, ⟨2, 2⟩), (.sampleRate, ⟨4, 4⟩), (.avgBytesPerSec, ⟨8, 4⟩),
      (.blkAlign, ⟨12, 2⟩), (.bitsPerSample, ⟨14, 2⟩), (.channelMask, ⟨16, 4⟩),
      (.encOptions, ⟨20, 2⟩), (.reserved, ⟨22, 2⟩)]
  names := by decide
  fits := by decide
  apart := by decide

/-- `struct agm_session_wmapro_dec`. -/
def wmaproDec : Fields CodecField where
  size := 28
  fields :=
    [(.fmtTag, ⟨0, 2⟩), (.numChannels, ⟨2, 2⟩), (.sampleRate, ⟨4, 4⟩), (.avgBytesPerSec, ⟨8, 4⟩),
      (.blkAlign, ⟨12, 2⟩), (.bitsPerSample, ⟨14, 2⟩), (.channelMask, ⟨16, 4⟩),
      (.encOptions, ⟨20, 2⟩), (.advancedEncOption, ⟨22, 2⟩), (.advancedEncOption2, ⟨24, 4⟩)]
  names := by decide
  fits := by decide
  apart := by decide

/-- The size of `union agm_session_codec`. -/
def codecSize : ℕ := 32

/-- The configuration of a session whose block was just allocated. -/
def zeroedSessionConfig : SessionConfig := { codec := List.replicate codecSize 0 }

/-! ### The codec of the client -/

/-- The ids of codecs that the plugin knows, and all others. -/
inductive SndAudioCodec where
  | mp3 | aac | flac | alac | ape | wma | wmaPro | vorbis
  | other (id : ℕ)
deriving DecidableEq, Repr

/-- The fields of the decoders in `union snd_codec_options`. -/
inductive SndDecOption where
  | audioObjType | pceBitsSize
  | sampleSize | minBlkSize | maxBlkSize | minFrameSize | maxFrameSize
  | frameLength | compatibleVersion | bitDepth | pb | mb | kb | maxRun | maxFrameBytes | avgBitRate
  | channelLayoutTag
  | bitsPerSample | compressionLevel | formatFlags | blocksPerFrame | finalFrameBlocks | totalFrames
  | seekTablePresent
  | superBlockAlign | channelmask | encodeopt | encodeopt1 | encodeopt2
deriving DecidableEq, Repr

/-- `struct snd_codec`, as far as the plugin reads it. -/
structure SndCodec where
  id : SndAudioCodec
  chIn : ℕ := 2
  chOut : ℕ := 2
  sampleRate : ℕ := 48000
  format : ℕ := 0
  options : SndDecOption → ℕ := fun _ => 0

/-- What the headers of the kernel define. -/
structure ComprHeaders where
  /-- `SND_COMPRESS_DEC_HDR`. -/
  decHdr : Bool
  mp4latm : ℕ
  adif : ℕ
  mp4adts : ℕ

/-- The headers as they usually are. -/
def usualComprHeaders : ComprHeaders := { decHdr := true, mp4latm := 1, adif := 2, mp4adts := 4 }

/-- The format that is announced for a codec. -/
def SndAudioCodec.agmFormat : SndAudioCodec → Option ℕ
  | mp3 => some AGM_FORMAT_MP3
  | aac => some AGM_FORMAT_AAC
  | flac => some AGM_FORMAT_FLAC
  | alac => some AGM_FORMAT_ALAC
  | ape => some AGM_FORMAT_APE
  | wma => some AGM_FORMAT_WMASTD
  | wmaPro => some AGM_FORMAT_WMAPRO
  | vorbis => some AGM_FORMAT_VORBIS
  | other _ => none

/-- The member of the union. -/
def SndAudioCodec.dec : SndAudioCodec → Option (Fields CodecField)
  | aac => some aacDec
  | flac => some flacDec
  | alac => some alacDec
  | ape => some apeDec
  | wma => some wmaDec
  | wmaPro => some wmaproDec
  | mp3 | vorbis | other _ => none

namespace SndCodec

variable (H : ComprHeaders) (c : SndCodec)

def aacFmtFlag : ℕ :=
  if c.format = H.mp4latm then 0x04
  else if c.format = H.adif then 0x02
  else if c.format = H.mp4adts then 0x00
  else 0x03

/-- What is copied from the options. -/
def decOptions : List (CodecField × ℕ) :=
  let copt := c.options
  match c.id with
  | .aac => [(.audioObjType, copt .audioObjType), (.totalSizeOfPceBits, copt .pceBitsSize)]
  | .flac =>
      [(.sampleSize, copt .sampleSize), (.minBlkSize, copt .minBlkSize),
        (.maxBlkSize, copt .maxBlkSize), (.minFrameSize, copt .minFrameSize),
        (.maxFrameSize, copt .maxFrameSize)]
  | .alac =>
      [(.frameLength, copt .frameLength), (.compatibleVersion, copt .compatibleVersion),
        (.bitDepth, copt .bitDepth), (.pb, copt .pb), (.mb, copt .mb), (.kb, copt .kb),
        (.maxRun, copt .maxRun), (.maxFrameBytes, copt .maxFrameBytes),
        (.avgBitRate, copt .avgBitRate), (.channelLayoutTag, copt .channelLayoutTag)]
  | .ape =>
      [(.bitWidth, copt .bitsPerSample), (.compatibleVersion, copt .compatibleVersion),
        (.compressionLevel, copt .compressionLevel), (.formatFlags, copt .formatFlags),
        (.blocksPerFrame, copt .blocksPerFrame), (.finalFrameBlocks, copt .finalFrameBlocks),
        (.totalFrames, copt .totalFrames), (.seekTablePresent, copt .seekTablePresent)]
  | .wma =>
      [(.avgBytesPerSec, copt .avgBitRate / 8), (.blkAlign, copt .superBlockAlign),
        (.bitsPerSample, copt .bitsPerSample), (.channelMask, copt .channelmask),
        (.encOptions, copt .encodeopt)]
  | .wmaPro =>
      [(.avgBytesPerSec, copt .avgBitRate / 8), (.blkAlign, copt .superBlockAlign),
        (.bitsPerSample, copt .bitsPerSample), (.channelMask, copt .channelmask),
        (.encOptions, copt .encodeopt), (.advancedEncOption, copt .encodeopt1),
        (.advancedEncOption2, copt .encodeopt2)]
  | .mp3 | .vorbis | .other _ => []

/-- What is written in any case. -/
def decBasics : List (CodecField × ℕ) :=
  match c.id with
  | .aac =>
      [(.aacFmtFlag, c.aacFmtFlag H), (.numChannels, c.chIn), (.sampleRate, c.sampleRate)]
  | .flac | .alac | .ape => [(.numChannels, c.chIn), (.sampleRate, c.sampleRate)]
  | .wma | .wmaPro =>
      [(.fmtTag, c.format), (.numChannels, c.chIn), (.sampleRate, c.sampleRate)]
  | .mp3 | .vorbis | .other _ => []

/-- The assignments of `agm_session_update_codec_config` to the codec. -/
def assigned : List (CodecField × ℕ) :=
  c.decBasics H ++ if H.decHdr then c.decOptions else []

end SndCodec

/-- `agm_session_update_codec_config`, on the bytes of the codec. -/
def agmSessionUpdateCodecConfig (H : ComprHeaders) (c : SndCodec) (mediaCfg : MediaConfig) :
    Access MediaConfig := do
  let mediaCfg := { mediaCfg with rate := c.sampleRate, channels := c.chOut }
  match c.id.dec with
  | none => pure ()
  | some dec => dec.assign (c.assigned H)
  pure { mediaCfg with format := c.id.agmFormat.getD mediaCfg.format }

/-! ### What is written -/

section specs
variable {H : ComprHeaders} {c : SndCodec} {dec : Fields CodecField}

theorem size_dec (h : c.id.dec = some dec) : dec.size ≤ codecSize := by
  obtain ⟨id, chIn, chOut, sampleRate, format, options⟩ := c
  cases id <;> cases h <;> decide

theorem assigned_nodup : ((c.assigned H).map Prod.fst).Nodup := by
  obtain ⟨id, chIn, chOut, sampleRate, format, options⟩ := c
  obtain ⟨decHdr, mp4latm, adif, mp4adts⟩ := H
  cases id <;> cases decHdr <;>
    simp [SndCodec.assigned, SndCodec.decBasics, SndCodec.decOptions]

theorem assigned_names (h : c.id.dec = some dec) :
    ∀ f ∈ (c.assigned H).map Prod.fst, f ∈ dec.fields.map Prod.fst := by
  obtain ⟨id, chIn, chOut, sampleRate, format, options⟩ := c
  obtain ⟨decHdr, mp4latm, adif, mp4adts⟩ := H
  cases id <;> cases h <;> cases decHdr <;>
    simp [SndCodec.assigned, SndCodec.decBasics, SndCodec.decOptions, aacDec, flacDec, alacDec,
      apeDec, wmaDec, wmaproDec]

/-- What a field of the codec's member is afterwards, where it was `old`. -/
def SndCodec.field (H : ComprHeaders) (c : SndCodec) (f : CodecField × Place) (old : ℕ) : ℕ :=
  (((c.assigned H).lookup f.1).map (· % 256 ^ f.2.width)).getD old

theorem updateCodecConfig_run (H : ComprHeaders) (c : SndCodec) (mediaCfg : MediaConfig)
    {codec : Payload} (hcodec : codec.length = codecSize) :
    ∃ codec', agmSessionUpdateCodecConfig H c mediaCfg codec =
        some ({ mediaCfg with
          rate := c.sampleRate
          channels := c.chOut
          format := c.id.agmFormat.getD mediaCfg.format }, codec') ∧
      codec'.length = codecSize ∧
        ∀ dec, c.id.dec = some dec → ∀ f ∈ dec.fields,
          f.2.get codec' = c.field H f (f.2.get codec) := by
  unfold agmSessionUpdateCodecConfig
  cases hdec : c.id.dec with
  | none => exact ⟨codec, rfl, hcodec, fun _ h => by cases h⟩
  | some dec =>
      obtain ⟨codec', hrun, hlen, hget⟩ := Fields.assign_run (hcodec ▸ size_dec hdec)
        (assigned_nodup (H := H)) (assigned_names hdec)
      refine ⟨codec', bind_run hrun, hlen.trans hcodec, fun _ h => ?_⟩
      obtain rfl := Option.some.inj h
      exact hget

end specs

end Agm
