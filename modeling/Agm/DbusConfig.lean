import Agm.Lib.Block

/-! # Configurations over DBus

The client (`agm_client_wrapper_dbus.cpp`) sends the fields of a configuration one by one, or all
bytes of the object; the server (`agm_server_wrapper_dbus.cpp`) fills objects on its stack.

* **Objects.**  A `CObject` has the bytes of a struct.  Those of the server are not initialised: what
  they hold when the handler is entered is an argument of the model.
* **Messages.**  A basic value is 4 bytes wide, whatever field it is read into.

`configCodec_iff`: `data_format` is not sent at all, and of the size of a buffer the lower half; the
server has these bits right exactly if they happened to be on its stack. -/

namespace Agm.Dbus

open Block Codec

/-! ### Objects -/

inductive MediaField where
  | rate | channels | format | dataFormat
deriving DecidableEq, Repr

inductive SessionField where
  | dir | isHostless | startThreshold | stopThreshold | codec | dataMode
deriving DecidableEq, Repr

inductive BufferField where
  | count | size
deriving DecidableEq, Repr

/-- `struct agm_media_config`. -/
def mediaConfig : Layout MediaField where
  size := 16
  offset
    | .rate => 0
    | .channels => 4
    | .format => 8
    | .dataFormat => 12
  width _ := 4
  width_pos _ := by decide
  fits f := by cases f <;> decide
  apart f g := by cases f <;> cases g <;> decide

/-- `struct agm_session_config`; the largest codec has 32 bytes. -/
def sessionConfig : Layout SessionField where
  size := 52
  offset
    | .dir => 0
    | .isHostless => 4
    | .startThreshold => 8
    | .stopThreshold => 12
    | .codec => 16
    | .dataMode => 48
  width
    | .isHostless => 1
    | .codec => 32
    | _ => 4
  width_pos f := by cases f <;> decide
  fits f := by cases f <;> decide
  apart f g := by cases f <;> cases g <;> decide

/-- `struct agm_buffer_config`, with a `size_t` of 64 bits. -/
def bufferConfig : Layout BufferField where
  size := 16
  offset
    | .count => 0
    | .size => 8
  width
    | .count => 4
    | .size => 8
  width_pos f := by cases f <;> decide
  fits f := by cases f <;> decide
  apart f g := by cases f <;> cases g <;> decide

/-- The bytes of a struct in memory. -/
structure CObject {F : Type} (L : Layout F) where
  bytes : List UInt8
  length_bytes : bytes.length = L.size

def CObject.get {F : Type} {L : Layout F} (x : CObject L) (f : F) : ℕ := L.get x.bytes f

/-- All bytes zero. -/
def CObject.zeroed {F : Type} (L : Layout F) : CObject L where
  bytes := List.replicate L.size 0
  length_bytes := List.length_replicate

/-! ### Messages -/

inductive Basic where
  | uint32 (v : UInt32)
  | int32 (v : Int32)
deriving DecidableEq

/-- An argument: a basic value, a struct of these or an array of bytes. -/
inductive Arg where
  | basic (b : Basic)
  | struct (bs : List Basic)
  | bytes (bs : List UInt8)
deriving DecidableEq

def Basic.signature : Basic → Char
  | .uint32 _ => 'u'
  | .int32 _ => 'i'

def Arg.signature : Arg → List Char
  | .basic b => [b.signature]
  | .struct bs => '(' :: bs.map Basic.signature ++ [ ')']
  | .bytes _ => ['a', 'y']

/-- `dbus_message_get_signature`. -/
def signature (msg : List Arg) : List Char := msg.flatMap Arg.signature

/-- The value in memory. -/
def Basic.bits : Basic → ℕ
  | .uint32 v => v.toNat
  | .int32 v => v.toUInt32.toNat

/-- `(guint32)`. -/
def guint32 (n : ℕ) : Basic := .uint32 (UInt32.ofNat n)

/-- `(gint32)`. -/
def gint32 (n : ℕ) : Basic := .int32 (UInt32.ofNat n).toInt32

/-- `dbus_message_iter_get_basic` with the address of a field. -/
def getBasic {F : Type} (L : Layout F) (f : F) (b : Basic) : Access Unit :=
  store (L.offset f) 4 b.bits

/-! ### The client -/

/-- The arguments that `agm_aif_set_media_config` sends. -/
def agmAifSetMediaConfig (aifId : UInt32) (media : CObject mediaConfig) : List Arg :=
  [.basic (.uint32 aifId),
    .struct [guint32 (media.get .rate), guint32 (media.get .channels), gint32 (media.get .format)]]

/-- The arguments that `agm_session_set_config` sends. -/
def agmSessionSetConfig (session : CObject sessionConfig) (media : CObject mediaConfig)
    (buffer : CObject bufferConfig) : List Arg :=
  [.struct [guint32 (media.get .rate), guint32 (media.get .channels), guint32 (media.get .format)],
    .struct [guint32 (buffer.get .count), guint32 (buffer.get .size)],
    .bytes session.bytes]

/-! ### The server -/

/-- Both handlers fill a media configuration like this. -/
def readMediaConfig (rate channels format : Basic) : Access Unit := do
  getBasic mediaConfig .rate rate
  getBasic mediaConfig .channels channels
  getBasic mediaConfig .format format

def readBufferConfig (count size : Basic) : Access Unit := do
  getBasic bufferConfig .count count
  getBasic bufferConfig .size size

/-- `ipc_agm_audio_intf_set_media_config`, up to the call of `agm_aif_set_media_config`: the
interface and the bytes of the configuration that it passes. -/
def ipcAgmAudioIntfSetMediaConfig (msg : List Arg) (stack : CObject mediaConfig) :
    Option (UInt32 × List UInt8) :=
  if signature msg ≠ "u(uui)".toList then none
  else
    match msg with
    | [.basic (.uint32 aifId), .struct [rate, channels, format]] =>
        (readMediaConfig rate channels format stack.bytes).map fun r => (aifId, r.2)
    | _ => none

/-- The objects on the stack of `ipc_agm_session_set_config`. -/
structure ConfigStack where
  session : CObject sessionConfig
  media : CObject mediaConfig
  buffer : CObject bufferConfig

/-- What `agm_session_set_config` is given. -/
structure PassedConfigs where
  session : List UInt8
  media : List UInt8
  buffer : List UInt8

/-- `ipc_agm_session_set_config`, up to the call of `agm_session_set_config`. -/
def ipcAgmSessionSetConfig (msg : List Arg) (stack : ConfigStack) : Option PassedConfigs :=
  if signature msg ≠ "(uuu)(uu)ay".toList then none
  else
    match msg with
    | [.struct [rate, channels, format], .struct [count, size], .bytes value] => do
        let (_, media) ← readMediaConfig rate channels format stack.media.bytes
        let (_, buffer) ← readBufferConfig count size stack.buffer.bytes
        let (_, session) ← storeBytes 0 value stack.session.bytes
        some { session, media, buffer }
    | _ => none

/-! ### What the server has -/

/-- The bytes have the same values in all fields as the object. -/
def SameFields {F : Type} {L : Layout F} (bytes : List UInt8) (x : CObject L) : Prop :=
  ∀ f, L.get bytes f = x.get f

/-- The server passes the configuration of the client. -/
def MediaPassed (aifId : UInt32) (media stack : CObject mediaConfig) : Prop :=
  ∃ bytes, ipcAgmAudioIntfSetMediaConfig (agmAifSetMediaConfig aifId media) stack =
    some (aifId, bytes) ∧ SameFields bytes media

/-- The server passes the three configurations of the client. -/
def SessionPassed (session : CObject sessionConfig) (media : CObject mediaConfig)
    (buffer : CObject bufferConfig) (stack : ConfigStack) : Prop :=
  ∃ r, ipcAgmSessionSetConfig (agmSessionSetConfig session media buffer) stack = some r ∧
    SameFields r.session session ∧ SameFields r.media media ∧ SameFields r.buffer buffer

/-! ### The values in memory -/

theorem get_lt {F : Type} {L : Layout F} (x : CObject L) (f : F) : x.get f < 256 ^ L.width f :=
  L.get_lt x.length_bytes.ge f

theorem bits_guint32 (n : ℕ) : (guint32 n).bits = n % 2 ^ 32 := UInt32.toNat_ofNat'

theorem bits_gint32 (n : ℕ) : (gint32 n).bits = n % 2 ^ 32 := by
  show (UInt32.ofNat n).toInt32.toUInt32.toNat = n % 2 ^ 32
  rw [UInt32.toUInt32_toInt32]
  exact UInt32.toNat_ofNat'

theorem cut_mod (n : ℕ) : cut 4 (n % 2 ^ 32 : ℕ) = n % 2 ^ 32 := by
  rw [cut_natCast]
  exact Nat.mod_mod n (2 ^ 32)

theorem placed_self {F : Type} (L : Layout F) : L.Placed 0 L id :=
  ⟨fun _ => (Nat.zero_add _).symm, fun _ => rfl⟩

/-- A basic value that is read into a field of its width is the value of the field. -/
theorem getBasic_eq_set {F G : Type} {L : Layout F} {W : Layout G} {f : F} {g : G}
    (hoff : W.offset g = L.offset f) (hwidth : W.width g = 4) (b : Basic) :
    getBasic L f b = W.set 0 g b.bits := by
  rw [getBasic, Layout.set, hoff, hwidth, Nat.zero_add]

theorem readMediaConfig_fills (rate channels format : Basic) (v : MediaField → ℕ) :
    Fills mediaConfig 16 (readMediaConfig rate channels format) v fun _ v' =>
      v' .rate = cut 4 rate.bits ∧ v' .channels = cut 4 channels.bits ∧
        v' .format = cut 4 format.bits ∧ v' .dataFormat = v .dataFormat := by
  have hplaced := placed_self mediaConfig
  unfold readMediaConfig
  rw [getBasic_eq_set (W := mediaConfig) (g := .rate) rfl rfl,
    getBasic_eq_set (W := mediaConfig) (g := .channels) rfl rfl,
    getBasic_eq_set (W := mediaConfig) (g := .format) rfl rfl]
  refine .set hplaced (Nat.le_refl _) (.set hplaced (Nat.le_refl _) ?_)
  refine (Fills.last hplaced (Nat.le_refl _)).mono ?_
  rintro _ v' rfl
  exact ⟨rfl, rfl, rfl, rfl⟩

/-- A buffer configuration whose size is two words. -/
inductive BufferWord where
  | count | sizeLow | sizeHigh
deriving DecidableEq, Repr

def bufferWords : Layout BufferWord where
  size := 16
  offset
    | .count => 0
    | .sizeLow => 8
    | .sizeHigh => 12
  width _ := 4
  width_pos _ := by decide
  fits f := by cases f <;> decide
  apart f g := by cases f <;> cases g <;> decide

theorem get_size {bytes : List UInt8} (h : bytes.length = 16) :
    bufferConfig.get bytes .size =
      bufferWords.get bytes .sizeLow + 2 ^ 32 * bufferWords.get bytes .sizeHigh := by
  have hsplit : leAt (4 + 4) bytes 8 = leAt 4 bytes 8 + 256 ^ 4 * leAt 4 bytes (8 + 4) :=
    leAt_add (by omega)
  exact hsplit

theorem word_lt {bytes : List UInt8} (h : bytes.length = 16) (f : BufferWord) :
    bufferWords.get bytes f < 2 ^ 32 :=
  bufferWords.get_lt h.ge f

/-- Only the lower half of the size is overwritten. -/
theorem readBufferConfig_fills (count size : Basic) (v : BufferWord → ℕ) :
    Fills bufferWords 16 (readBufferConfig count size) v fun _ v' =>
      v' .count = cut 4 count.bits ∧ v' .sizeLow = cut 4 size.bits ∧ v' .sizeHigh = v .sizeHigh := by
  have hplaced := placed_self bufferWords
  unfold readBufferConfig
  rw [getBasic_eq_set (L := bufferConfig) (W := bufferWords) (f := .count) (g := .count) rfl rfl,
    getBasic_eq_set (L := bufferConfig) (W := bufferWords) (f := .size) (g := .sizeLow) rfl rfl]
  refine .set hplaced (Nat.le_refl _) ?_
  refine (Fills.last hplaced (Nat.le_refl _)).mono ?_
  rintro _ v' rfl
  exact ⟨rfl, rfl, rfl⟩

/-! ### What arrives -/

section
variable {session : CObject sessionConfig} {media stack : CObject mediaConfig}
  {buffer : CObject bufferConfig}

/-- Three fields of a media configuration arrive, the fourth is that of the stack. -/
theorem readMediaConfig_run {format : Basic} (hformat : format.bits = media.get .format % 2 ^ 32) :
    ∃ bytes, readMediaConfig (guint32 (media.get .rate)) (guint32 (media.get .channels)) format
        stack.bytes = some ((), bytes) ∧
      (SameFields bytes media ↔ stack.get .dataFormat = media.get .dataFormat) := by
  obtain ⟨_, bytes, hrun, -, hrate, hchannels, hfmt, hdata⟩ := readMediaConfig_fills
    (guint32 (media.get .rate)) (guint32 (media.get .channels)) format _ _ stack.length_bytes rfl
  have hword : ∀ f, media.get f % 2 ^ 32 = media.get f := fun f => Nat.mod_eq_of_lt (get_lt media f)
  rw [bits_guint32, cut_mod, hword] at hrate hchannels
  rw [hformat, cut_mod, hword] at hfmt
  refine ⟨bytes, hrun, ?_, ?_⟩
  · intro hsame
    exact hdata.symm.trans (hsame .dataFormat)
  · intro hleft f
    cases f with
    | rate => exact hrate
    | channels => exact hchannels
    | format => exact hfmt
    | dataFormat => exact hdata.trans hleft

/-- The count and the lower half of the size arrive, the upper half is that of the stack. -/
theorem readBufferConfig_run {stack : CObject bufferConfig} :
    ∃ bytes, readBufferConfig (guint32 (buffer.get .count)) (guint32 (buffer.get .size))
        stack.bytes = some ((), bytes) ∧
      (SameFields bytes buffer ↔ stack.get .size / 2 ^ 32 = buffer.get .size / 2 ^ 32) := by
  obtain ⟨_, bytes, hrun, hlen, hcount, hlow, hhigh⟩ := readBufferConfig_fills
    (guint32 (buffer.get .count)) (guint32 (buffer.get .size)) _ _ stack.length_bytes rfl
  have hword : buffer.get .count % 2 ^ 32 = buffer.get .count := Nat.mod_eq_of_lt (get_lt buffer _)
  rw [bits_guint32, cut_mod] at hcount hlow
  rw [hword] at hcount
  have hsize : bufferConfig.get bytes .size =
      buffer.get .size % 2 ^ 32 + 2 ^ 32 * (stack.get .size / 2 ^ 32) := by
    have hstack := get_size stack.length_bytes
    have hlt := word_lt stack.length_bytes .sizeLow
    rw [get_size hlen, hlow, hhigh]
    unfold CObject.get
    omega
  refine ⟨bytes, hrun, ?_, ?_⟩
  · intro hsame
    have hboth := hsame .size
    omega
  · intro hleft f
    cases f with
    | count => exact hcount
    | size =>
        rw [hsize, hleft]
        omega

/-- The bytes of a session configuration replace all those of the stack. -/
theorem storeBytes_object {F : Type} {L : Layout F} (x y : CObject L) :
    storeBytes 0 x.bytes y.bytes = some ((), x.bytes) := by
  have hlen : x.bytes.length = y.bytes.length := x.length_bytes.trans y.length_bytes.symm
  rw [storeBytes_eq (by omega), splice, List.take_zero, List.nil_append, Nat.zero_add, hlen,
    List.drop_length, List.append_nil]

theorem mediaPassed_iff (aifId : UInt32) :
    MediaPassed aifId media stack ↔ stack.get .dataFormat = media.get .dataFormat := by
  obtain ⟨bytes, hrun, hsame⟩ := @readMediaConfig_run media stack _
    (bits_gint32 (media.get .format))
  have hserver : ipcAgmAudioIntfSetMediaConfig (agmAifSetMediaConfig aifId media) stack =
      some (aifId, bytes) := by
    have hsig : signature (agmAifSetMediaConfig aifId media) = "u(uui)".toList := by rfl
    unfold ipcAgmAudioIntfSetMediaConfig
    rw [if_neg (not_not.mpr hsig)]
    unfold agmAifSetMediaConfig
    dsimp only
    rw [hrun]
    rfl
  rw [← hsame]
  constructor
  · rintro ⟨bytes', h, hfields⟩
    rw [hserver] at h
    cases h
    exact hfields
  · exact fun hfields => ⟨bytes, hserver, hfields⟩

theorem sessionPassed_iff (stack : ConfigStack) :
    SessionPassed session media buffer stack ↔
      stack.media.get .dataFormat = media.get .dataFormat ∧
        stack.buffer.get .size / 2 ^ 32 = buffer.get .size / 2 ^ 32 := by
  obtain ⟨mbytes, hmedia, hmsame⟩ := @readMediaConfig_run media stack.media _
    (bits_guint32 (media.get .format))
  obtain ⟨bbytes, hbuffer, hbsame⟩ := @readBufferConfig_run buffer stack.buffer
  have hserver : ipcAgmSessionSetConfig (agmSessionSetConfig session media buffer) stack =
      some ⟨session.bytes, mbytes, bbytes⟩ := by
    have hsig : signature (agmSessionSetConfig session media buffer) =
        "(uuu)(uu)ay".toList := by rfl
    unfold ipcAgmSessionSetConfig
    rw [if_neg (not_not.mpr hsig)]
    unfold agmSessionSetConfig
    dsimp only
    rw [hmedia, hbuffer, storeBytes_object]
    rfl
  rw [← hmsame, ← hbsame]
  constructor
  · rintro ⟨r, h, -, hm, hb⟩
    rw [hserver] at h
    cases h
    exact ⟨hm, hb⟩
  · rintro ⟨hm, hb⟩
    exact ⟨_, hserver, fun _ => rfl, hm, hb⟩

end

/-- The server has the configurations of the client exactly if `data_format`, and for a session the
upper half of the size of a buffer, were on its stack. -/
theorem configCodec_iff (aifId : UInt32) (session : CObject sessionConfig)
    (media : CObject mediaConfig) (buffer : CObject bufferConfig) (stack : ConfigStack) :
    (MediaPassed aifId media stack.media ↔
        stack.media.get .dataFormat = media.get .dataFormat) ∧
      (SessionPassed session media buffer stack ↔
        stack.media.get .dataFormat = media.get .dataFormat ∧
          stack.buffer.get .size / 2 ^ 32 = buffer.get .size / 2 ^ 32) :=
  ⟨mediaPassed_iff aifId, sessionPassed_iff stack⟩

/-- 48 kHz, stereo, 16 bits, fixed point. -/
def fixedPoint : CObject mediaConfig where
  bytes := leBytes 4 48000 ++ leBytes 4 2 ++ leBytes 4 2 ++ leBytes 4 1
  length_bytes := by decide

theorem configCodec_loses : ¬ ∀ aifId media stack, MediaPassed aifId media stack := by
  intro h
  have hleft := (mediaPassed_iff 0).mp (h 0 fixedPoint (.zeroed _))
  exact absurd hleft (by decide)

end Agm.Dbus
