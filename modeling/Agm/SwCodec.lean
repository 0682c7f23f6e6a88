import Agm.Lib.Codec

/-! # Requests over the SwBinder interface (`ipc_proxy_server.cpp`)

Every method of `BpAgmService` writes its arguments into a `Parcel` and sends it with a
transaction code; `BnAgmService::onTransact` reads them back and calls the local function.

* **Parcels.**  A parcel is a list of cells: bytes, blobs and binders.  `write` pads to a multiple
  of four bytes with zeros; a blob is read with the size it was written with, or not at all.
* **C objects.**  A configuration struct travels as its object representation (`Obj`), whose size
  is part of the `Layout`; a pointer and a handle are 64 bits wide.
* **The two sides.**  `Request` holds the arguments of a client's call, `Request.transact` is the
  proxy, `onTransact` the server, and `LocalCall` the local call the server makes.

`onTransact_transact`: the local call has the arguments of the client's call. -/

namespace Agm.SwBinder

open Codec

/-! ### Parcels -/

/-- A unit of a parcel. -/
inductive Cell (B : Type) where
  | token
  | byte (b : UInt8)
  | blob (bytes : List UInt8)
  | binder (b : B)

variable {B : Type}

def ofBytes (bs : List UInt8) : List (Cell B) := bs.map .byte

def writeInterfaceToken : List (Cell B) := [.token]

def writeUint32 (v : UInt32) : List (Cell B) := ofBytes (leBytes 4 v.toNat)

def writeUint64 (v : UInt64) : List (Cell B) := ofBytes (leBytes 8 v.toNat)

/-- `(long)` keeps the bits of an unsigned value. -/
def writeInt64 (v : Int64) : List (Cell B) := writeUint64 v.toUInt64

/-- `write` pads with zeros to a multiple of four bytes. -/
def write (bs : List UInt8) : List (Cell B) :=
  ofBytes (bs ++ List.replicate ((4 - bs.length % 4) % 4) 0)

/-- An area of `n` bytes, cleared and then filled from the front. -/
def filled (n : ℕ) (bs : List UInt8) : List UInt8 :=
  bs.take n ++ List.replicate (n - bs.length) 0

/-- `writeBlob`, `memset` and `memcpy` of the blob. -/
def writeBlob (size : ℕ) (bs : List UInt8) : List (Cell B) := [.blob (filled size bs)]

def writeStrongBinder (b : B) : List (Cell B) := [.binder b]

abbrev R (B : Type) := Reader (Cell B)

/-- `checkInterface`, whose result `onTransact` does not look at. -/
def checkInterface : R B Unit
  | .token :: rest => some ((), rest)
  | _ => none

def readByte : R B UInt8
  | .byte b :: rest => some (b, rest)
  | _ => none

def readBytes : ℕ → R B (List UInt8)
  | 0 => pure []
  | n + 1 => do
      let b ← readByte
      let bs ← readBytes n
      pure (b :: bs)

def readUint32 : R B UInt32 := do
  let bs ← readBytes 4
  pure (UInt32.ofNat (ofLe bs))

def readUint64 : R B UInt64 := do
  let bs ← readBytes 8
  pure (UInt64.ofNat (ofLe bs))

def readInt64 : R B Int64 := do
  let v ← readUint64
  pure v.toInt64

/-- `read` of `n` bytes, over the padding. -/
def read (n : ℕ) : R B (List UInt8) := do
  let bs ← readBytes n
  let _ ← readBytes ((4 - n % 4) % 4)
  pure bs

/-- `readBlob`: the size has to be the one the blob was written with. -/
def readBlob (size : ℕ) : R B (List UInt8)
  | .blob bs :: rest => if bs.length = size then some (bs, rest) else none
  | _ => none

def readStrongBinder : R B B
  | .binder b :: rest => some (b, rest)
  | _ => none

/-! ### Arguments -/

/-- The sizes of the configuration structs. -/
structure Layout where
  mediaConfig : UInt32
  sessionConfig : UInt32
  bufferConfig : UInt32
  aifInfo : ℕ

/-- A C object of `n` bytes. -/
def Obj (n : UInt32) : Type := { bs : List UInt8 // bs.length = n.toNat }

theorem length_filled (n : ℕ) (bs : List UInt8) : (filled n bs).length = n := by
  unfold filled
  rw [List.length_append, List.length_take, List.length_replicate]
  omega

/-- An object cleared by `memset` and filled by `memscpy`. -/
def Obj.ofBytes (n : UInt32) (bs : List UInt8) : Obj n := ⟨filled n.toNat bs, length_filled _ _⟩

/-- `struct agm_key_value`. -/
structure AgmKeyValue where
  key : UInt32
  value : UInt32
deriving DecidableEq

/-- The bytes of an array of key-value pairs. -/
def kvBytes (kv : List AgmKeyValue) : List UInt8 :=
  kv.flatMap fun p => leBytes 4 p.key.toNat ++ leBytes 4 p.value.toNat

/-- An array of `n` key-value pairs over bytes. -/
def kvOfBytes : ℕ → List UInt8 → List AgmKeyValue
  | 0, _ => []
  | n + 1, bs =>
      ⟨UInt32.ofNat (ofLe (bs.take 4)), UInt32.ofNat (ofLe ((bs.drop 4).take 4))⟩ ::
        kvOfBytes n (bs.drop 8)

/-- `struct agm_event_reg_cfg`; the payload size is the length of the payload. -/
structure AgmEventRegCfg where
  moduleInstanceId : UInt32
  eventId : UInt32
  isRegister : UInt8
  payload : List UInt8
deriving DecidableEq

/-- The methods whose one argument is a session handle. -/
inductive HandleOp where
  | close | prepare | start | stop | pause | resume | eos
deriving DecidableEq

/-- The arguments of the methods that only pass data in. -/
inductive Input (B : Type) (L : Layout) where
  | regClient (binder : B)
  | unregClient (binder : B)
  | setMediaConfig (audioIntf : UInt32) (cfg : Obj L.mediaConfig)
  | sessionSetConfig (handle : UInt64) (session : Obj L.sessionConfig) (media : Obj L.mediaConfig)
      (buffer : Obj L.bufferConfig)
  | loopback (captureSessionId playbackSessionId : UInt32) (state : Bool)
  | setEcRef (captureSessionId aifId : UInt32) (state : Bool)
  | connect (sessionId audioIntf : UInt32) (state : Bool)
  | audioIntfSetMeta (audioIntf : UInt32) (metadata : List UInt8)
  | sessionSetMeta (sessionId : UInt32) (metadata : List UInt8)
  | sessionAudioIntfSetMeta (sessionId audioIntf : UInt32) (metadata : List UInt8)
  | «open» (sessionId : UInt32)
  | onHandle (op : HandleOp) (handle : UInt64)
  | getBuffCnt (handle : UInt64) (dir : UInt32)
  | write (handle : UInt64) (buff : List UInt8)
  | regEvent (sessionId : UInt32) (cfg : AgmEventRegCfg)
  | sessionAifSetParams (sessionId aifId : UInt32) (payload : List UInt8)
  | aifSetParams (aifId : UInt32) (payload : List UInt8)
  | sessionSetParams (sessionId : UInt32) (payload : List UInt8)
  | getParams (sessionId : UInt32) (payload : List UInt8)
  | setParamsWithTag (sessionId aifId tag : UInt32) (tkv : List AgmKeyValue)
  | setCalibration (sessionId audioIntf : UInt32) (ckv : List AgmKeyValue)
  | getSessionTime (handle timestamp : UInt64)
  | bufTstamp (sessionId : UInt32)

/-- The arguments of a client's call. -/
inductive Request (B : Type) (L : Layout) where
  | input (i : Input B L)
  /-- `*count` is the size of the client's buffer. -/
  | read (handle : UInt64) (count : ℕ)
  | getAifList (aifList : UInt64) (numAifInfo : ℕ)
  | getTagModuleInfo (sessionId aifId : UInt32) (payload : UInt64) (size : ℕ)
  /-- The binder is the one the proxy creates for the callback. -/
  | regCb (sessionId : UInt32) (cb : UInt64) (event : UInt32) (clientData : UInt64) (binder : B)

/-- A buffer the server hands to a local call. -/
inductive Buffer where
  | ptr (p : UInt64)
  | zeroed (bytes : ℕ)
deriving DecidableEq

/-- The local calls of the server and what it records for a callback. -/
inductive LocalCall (B : Type) (L : Layout) where
  | input (i : Input B L)
  | read (handle : UInt64) (buf : Buffer) (count : ℕ)
  | getAifList (aifList : Buffer) (count : ℕ)
  | getTagModuleInfo (sessionId aifId : UInt32) (payload : Buffer) (count : ℕ)
  | regCb (sessionId : UInt32) (cbFunc clientData : UInt64) (cbBinder : B) (event : UInt32)

/-- The transaction codes. -/
inductive Code where
  | open | regClient | unregClient | setMediaConfig | init | audioIntfSetMeta | sessionSetMeta
  | sessionAudioIntfSetMeta | sessionSetConfig | close | prepare | start | stop | pause | resume
  | connect | read | write | loopback | getBuffCnt | getAifList | regEvent | regCb
  | getTagModuleInfo | sessionAifSetParams | sessionSetParams | setParamsWithTag | setEcref
  | setCalibration | eos | getSessionTime | getParams | bufTstamp | aifSetParams
deriving DecidableEq

/-! ### The proxy (`BpAgmService`) -/

/-- The transaction code of a method on a handle. -/
def HandleOp.code : HandleOp → Code
  | close => .close
  | prepare => .prepare
  | start => .start
  | stop => .stop
  | pause => .pause
  | resume => .resume
  | eos => .eos

/-- A size, and a blob of that size. -/
def sizedBlob (bs : List UInt8) : List (Cell B) :=
  writeUint32 (UInt32.ofNat bs.length) ++ writeBlob bs.length bs

/-- A struct, as its size and its bytes. -/
def sizedObj {n : UInt32} (o : Obj n) : List (Cell B) := writeUint32 n ++ writeBlob n.toNat o.1

/-- The number of pairs, and a blob of the pairs; the size is computed in 32 bits. -/
def sizedKv (kv : List AgmKeyValue) : List (Cell B) :=
  writeUint32 (UInt32.ofNat kv.length) ++
    writeBlob (8 * UInt32.ofNat kv.length : UInt32).toNat (kvBytes kv)

def boolByte (b : Bool) : UInt8 := if b then 1 else 0

variable {L : Layout}

/-- The methods that only pass data in: what they write after the interface token. -/
def Input.transact : Input B L → Code × List (List (Cell B))
  | .regClient b => (.regClient, [writeStrongBinder b])
  | .unregClient b => (.unregClient, [writeStrongBinder b])
  | .setMediaConfig audioIntf cfg => (.setMediaConfig, [writeUint32 audioIntf, sizedObj cfg])
  | .sessionSetConfig handle session media buffer =>
      (.sessionSetConfig,
        [writeInt64 handle.toInt64, sizedObj session, sizedObj media, sizedObj buffer])
  | .loopback capture playback state =>
      (.loopback, [writeUint32 capture, writeUint32 playback, SwBinder.write [boolByte state]])
  | .setEcRef capture aif state =>
      (.setEcref, [writeUint32 capture, writeUint32 aif, SwBinder.write [boolByte state]])
  | .connect session aif state =>
      (.connect, [writeUint32 session, writeUint32 aif, SwBinder.write [boolByte state]])
  | .audioIntfSetMeta audioIntf metadata =>
      (.audioIntfSetMeta, [writeUint32 audioIntf, sizedBlob metadata])
  | .sessionSetMeta session metadata =>
      (.sessionSetMeta, [writeUint32 session, sizedBlob metadata])
  | .sessionAudioIntfSetMeta session audioIntf metadata =>
      (.sessionAudioIntfSetMeta, [writeUint32 session, writeUint32 audioIntf, sizedBlob metadata])
  | .open session => (.open, [writeUint32 session])
  | .onHandle op handle => (op.code, [writeInt64 handle.toInt64])
  | .getBuffCnt handle dir => (.getBuffCnt, [writeInt64 handle.toInt64, writeUint32 dir])
  | .write handle buff => (.write, [writeInt64 handle.toInt64, sizedBlob buff])
  | .regEvent session cfg =>
      (.regEvent,
        [writeUint32 session, writeUint32 cfg.moduleInstanceId, writeUint32 cfg.eventId,
          writeUint32 (UInt32.ofNat cfg.payload.length), writeUint32 cfg.isRegister.toUInt32,
          sizedBlob cfg.payload])
  | .sessionAifSetParams session aif payload =>
      (.sessionAifSetParams, [writeUint32 session, writeUint32 aif, sizedBlob payload])
  | .aifSetParams aif payload => (.aifSetParams, [writeUint32 aif, sizedBlob payload])
  | .sessionSetParams session payload =>
      (.sessionSetParams, [writeUint32 session, sizedBlob payload])
  | .getParams session payload => (.getParams, [writeUint32 session, sizedBlob payload])
  | .setParamsWithTag session aif tag tkv =>
      (.setParamsWithTag,
        [writeUint32 session, writeUint32 aif, writeUint32 tag, sizedKv tkv])
  | .setCalibration session audioIntf ckv =>
      (.setCalibration, [writeUint32 session, writeUint32 audioIntf, sizedKv ckv])
  | .getSessionTime handle timestamp =>
      (.getSessionTime, [writeInt64 handle.toInt64, writeUint64 timestamp])
  | .bufTstamp session => (.bufTstamp, [writeUint32 session])

/-- The methods of the proxy; two of them send nothing for some arguments. -/
def Request.transact : Request B L → Option (Code × List (List (Cell B)))
  | .input i => some i.transact
  | .read handle count =>
      some (.read, [writeInt64 handle.toInt64, writeUint32 (UInt32.ofNat count)])
  | .getAifList aifList num =>
      let count := UInt32.ofNat num
      if aifList = 0 ∧ count = 0 ∨ aifList ≠ 0 ∧ count ≠ 0 then
        some (.getAifList, [writeUint32 count, writeInt64 aifList.toInt64])
      else none
  | .getTagModuleInfo session aif payload size =>
      let count := UInt32.ofNat size
      if payload = 0 ∨ payload ≠ 0 ∧ count ≠ 0 then
        some (.getTagModuleInfo,
          [writeInt64 payload.toInt64, writeUint32 count, writeUint32 session, writeUint32 aif])
      else none
  | .regCb session cb event client binder =>
      some (.regCb,
        [writeUint32 session, SwBinder.write (leBytes 8 cb.toNat), writeUint32 event,
          writeInt64 client.toInt64, writeStrongBinder binder])

/-- The parcel of a transaction. -/
def parcel (body : List (List (Cell B))) : List (Cell B) := writeInterfaceToken ++ body.flatten

/-! ### The server (`BnAgmService::onTransact`) -/

/-- A size, and a blob of that size copied to a new allocation. -/
def readSizedBlob : R B (List UInt8) := do
  let count ← readUint32
  readBlob count.toNat

/-- A struct of `n` bytes. -/
def readObj (n : UInt32) : R B (Obj n) := do
  let blobSize ← readUint32
  let blob ← readBlob blobSize.toNat
  pure (.ofBytes n blob)

/-- An `int` handed on as a `bool`. -/
def readBool : R B Bool := do
  let state ← readUint32
  pure (state ≠ 0)

def readHandle : R B UInt64 := do
  let handle ← readInt64
  pure handle.toUInt64

/-- The number of pairs and the pairs, copied to a cleared allocation. -/
def readKv : R B (List AgmKeyValue) := do
  let num ← readUint32
  let blob ← readBlob (num * 8 : UInt32).toNat
  pure (kvOfBytes num.toNat (filled (num.toNat * 8) blob))

/-- The local call made for a transaction; `none` where the server calls nothing. -/
def serve : Code → R B (Option (LocalCall B L))
  | .regClient => do
      let b ← readStrongBinder
      pure (some (.input (.regClient b)))
  | .unregClient => do
      let b ← readStrongBinder
      pure (some (.input (.unregClient b)))
  | .open => do
      let session ← readUint32
      pure (some (.input (.open session)))
  | .sessionSetMeta => do
      let session ← readUint32
      let payload ← readSizedBlob
      pure (some (.input (.sessionSetMeta session payload)))
  | .sessionAudioIntfSetMeta => do
      let session ← readUint32
      let audioIntf ← readUint32
      let payload ← readSizedBlob
      pure (some (.input (.sessionAudioIntfSetMeta session audioIntf payload)))
  | .init => pure none
  | .getBuffCnt => do
      let handle ← readHandle
      let dir ← readUint32
      pure (some (.input (.getBuffCnt handle dir)))
  | .audioIntfSetMeta => do
      let audioIntf ← readUint32
      let payload ← readSizedBlob
      pure (some (.input (.audioIntfSetMeta audioIntf payload)))
  | .loopback => do
      let capture ← readUint32
      let playback ← readUint32
      let state ← readBool
      pure (some (.input (.loopback capture playback state)))
  | .close => serveHandle .close
  | .prepare => serveHandle .prepare
  | .start => serveHandle .start
  | .stop => serveHandle .stop
  | .pause => serveHandle .pause
  | .resume => serveHandle .resume
  | .eos => serveHandle .eos
  | .connect => do
      let session ← readUint32
      let audioIntf ← readUint32
      let state ← readBool
      pure (some (.input (.connect session audioIntf state)))
  | .setMediaConfig => do
      let audioIntf ← readUint32
      let cfg ← readObj L.mediaConfig
      pure (some (.input (.setMediaConfig audioIntf cfg)))
  | .sessionSetConfig => do
      let handle ← readHandle
      let session ← readObj L.sessionConfig
      let media ← readObj L.mediaConfig
      let buffer ← readObj L.bufferConfig
      pure (some (.input (.sessionSetConfig handle session media buffer)))
  | .read => do
      let handle ← readHandle
      let count ← readUint32
      pure (some (.read handle (.zeroed count.toNat) count.toNat))
  | .write => do
      let handle ← readHandle
      let buf ← readSizedBlob
      pure (some (.input (.write handle buf)))
  | .getAifList => do
      let count ← readUint32
      if count = 0 then do
        let aifList ← readHandle
        pure (some (.getAifList (.ptr aifList) 0))
      else pure (some (.getAifList (.zeroed (count.toNat * L.aifInfo)) count.toNat))
  | .regEvent => do
      let session ← readUint32
      let moduleInstanceId ← readUint32
      let eventId ← readUint32
      let payloadSize ← readUint32
      let isRegister ← readUint32
      let blob ← readSizedBlob
      pure (some (.input (.regEvent session
        { moduleInstanceId, eventId
          isRegister := isRegister.toUInt8
          payload := filled payloadSize.toNat blob })))
  | .regCb => do
      let session ← readUint32
      let cbFunc ← SwBinder.read 8
      let event ← readUint32
      let client ← readHandle
      let binder ← readStrongBinder
      pure (some (.regCb session (UInt64.ofNat (ofLe cbFunc)) client binder event))
  | .getTagModuleInfo => do
      let payload ← readHandle
      let count ← readUint32
      let session ← readUint32
      let aif ← readUint32
      if payload = 0 then pure (some (.getTagModuleInfo session aif (.ptr 0) count.toNat))
      else if count ≠ 0 then
        pure (some (.getTagModuleInfo session aif (.zeroed count.toNat) count.toNat))
      else pure none
  | .sessionAifSetParams => do
      let session ← readUint32
      let aif ← readUint32
      let payload ← readSizedBlob
      pure (some (.input (.sessionAifSetParams session aif payload)))
  | .aifSetParams => do
      let aif ← readUint32
      let payload ← readSizedBlob
      pure (some (.input (.aifSetParams aif payload)))
  | .sessionSetParams => do
      let session ← readUint32
      let payload ← readSizedBlob
      pure (some (.input (.sessionSetParams session payload)))
  | .setParamsWithTag => do
      let session ← readUint32
      let aif ← readUint32
      let tag ← readUint32
      let tkv ← readKv
      pure (some (.input (.setParamsWithTag session aif tag tkv)))
  | .setEcref => do
      let capture ← readUint32
      let aif ← readUint32
      let state ← readBool
      pure (some (.input (.setEcRef capture aif state)))
  | .setCalibration => do
      let session ← readUint32
      let audioIntf ← readUint32
      let ckv ← readKv
      pure (some (.input (.setCalibration session audioIntf ckv)))
  | .getSessionTime => do
      let handle ← readHandle
      let ts ← readUint64
      pure (some (.input (.getSessionTime handle ts)))
  | .getParams => do
      let session ← readUint32
      let payload ← readSizedBlob
      pure (some (.input (.getParams session payload)))
  | .bufTstamp => do
      let session ← readUint32
      pure (some (.input (.bufTstamp session)))
where
  serveHandle (op : HandleOp) : R B (Option (LocalCall B L)) := do
    let handle ← readHandle
    pure (some (.input (.onHandle op handle)))

/-- `onTransact`: the local call made for a parcel. -/
def onTransact (code : Code) (cells : List (Cell B)) : Option (Option (LocalCall B L)) :=
  Reader.run (do
    let _ ← checkInterface
    serve code) cells

/-! ### What is written is read -/

theorem reads_bytes (bs : List UInt8) : Reads (readBytes (B := B) bs.length) (ofBytes bs) bs := by
  induction bs with
  | nil => exact Reads.pure []
  | cons b bs ih =>
      have hbyte : Reads (readByte (B := B)) [.byte b] b := fun _ => rfl
      exact hbyte.bind (ih.map fun bs => b :: bs)

theorem reads_uint32 (v : UInt32) : Reads (readUint32 (B := B)) (writeUint32 v) v := by
  have h := (reads_bytes (B := B) (leBytes 4 v.toNat)).map fun bs => UInt32.ofNat (ofLe bs)
  rw [length_leBytes, ofLe_leBytes 4 _ v.toNat_lt, UInt32.ofNat_toNat] at h
  exact h

theorem reads_uint64 (v : UInt64) : Reads (readUint64 (B := B)) (writeUint64 v) v := by
  have h := (reads_bytes (B := B) (leBytes 8 v.toNat)).map fun bs => UInt64.ofNat (ofLe bs)
  rw [length_leBytes, ofLe_leBytes 8 _ v.toNat_lt, UInt64.ofNat_toNat] at h
  exact h

theorem reads_handle (v : UInt64) : Reads (readHandle (B := B)) (writeInt64 v.toInt64) v := by
  have h := ((reads_uint64 (B := B) v.toInt64.toUInt64).map UInt64.toInt64).map Int64.toUInt64
  rw [Int64.toInt64_toUInt64, UInt64.toUInt64_toInt64] at h
  exact h

/-- A flag is written as one padded byte and read as a word. -/
theorem reads_bool (b : Bool) : Reads (readBool (B := B)) (SwBinder.write [boolByte b]) b := by
  have hword : SwBinder.write (B := B) [boolByte b] = writeUint32 (if b then 1 else 0) := by
    cases b <;> rfl
  rw [hword]
  have h := (reads_uint32 (B := B) (if b then 1 else 0)).map fun state => decide (state ≠ 0)
  cases b with
  | false => exact h
  | true => exact h

/-- A pointer is written as eight bytes, without padding. -/
theorem reads_pointer (v : UInt64) :
    Reads (SwBinder.read (B := B) 8) (SwBinder.write (leBytes 8 v.toNat)) (leBytes 8 v.toNat) := by
  have hwrite : SwBinder.write (B := B) (leBytes 8 v.toNat) = ofBytes (leBytes 8 v.toNat) ++ [] := by
    unfold SwBinder.write
    rw [length_leBytes, List.append_nil]
    exact congrArg ofBytes (List.append_nil _)
  have hbytes := reads_bytes (B := B) (leBytes 8 v.toNat)
  rw [length_leBytes] at hbytes
  rw [hwrite]
  exact hbytes.bind (Reads.pure _)

theorem filled_of_length {n : ℕ} {bs : List UInt8} (h : bs.length = n) : filled n bs = bs := by
  unfold filled
  rw [← h, List.take_length, Nat.sub_self, List.replicate_zero, List.append_nil]

theorem reads_blob {n : ℕ} {bs : List UInt8} (h : bs.length = n) :
    Reads (readBlob (B := B) n) (writeBlob n bs) bs := by
  intro rest
  show (if (filled n bs).length = n then some (filled n bs, rest) else none) = _
  rw [filled_of_length h, if_pos h]

theorem toNat_ofNat {n : ℕ} (h : n < 2 ^ 32) : (UInt32.ofNat n).toNat = n :=
  UInt32.toNat_ofNat_of_lt' h

theorem reads_sizedBlob {bs : List UInt8} (h : bs.length < 2 ^ 32) :
    Reads (readSizedBlob (B := B)) (sizedBlob bs) bs := by
  refine (reads_uint32 _).bind ?_
  rw [toNat_ofNat h]
  exact reads_blob rfl

theorem reads_obj {n : UInt32} (o : Obj n) : Reads (readObj (B := B) n) (sizedObj o) o := by
  have ho : Obj.ofBytes n o.1 = o := Subtype.ext (filled_of_length o.2)
  have h : Reads (readObj (B := B) n) (sizedObj o) (.ofBytes n o.1) :=
    (reads_uint32 _).bind ((reads_blob o.2).map fun blob => Obj.ofBytes n blob)
  rwa [ho] at h

theorem length_kvBytes (kv : List AgmKeyValue) : (kvBytes kv).length = kv.length * 8 := by
  induction kv with
  | nil => rfl
  | cons p kv ih =>
      show (_ ++ _ ++ kvBytes kv).length = _
      simp only [List.length_append, length_leBytes, ih, List.length_cons]
      omega

theorem kvOfBytes_kvBytes (kv : List AgmKeyValue) : kvOfBytes kv.length (kvBytes kv) = kv := by
  induction kv with
  | nil => rfl
  | cons p kv ih =>
      have hbytes : kvBytes (p :: kv) =
          leBytes 4 p.key.toNat ++ (leBytes 4 p.value.toNat ++ kvBytes kv) :=
        List.append_assoc _ _ _
      have hdrop : (kvBytes (p :: kv)).drop 4 = leBytes 4 p.value.toNat ++ kvBytes kv := by
        rw [hbytes, List.drop_left' (length_leBytes 4 _)]
      have hrest : (kvBytes (p :: kv)).drop 8 = kvBytes kv := by
        rw [← List.drop_drop (i := 4) (j := 4), hdrop, List.drop_left' (length_leBytes 4 _)]
      rw [List.length_cons, kvOfBytes, hrest, ih, hdrop, hbytes, List.take_left' (length_leBytes 4 _),
        List.take_left' (length_leBytes 4 _), ofLe_leBytes 4 _ p.key.toNat_lt,
        ofLe_leBytes 4 _ p.value.toNat_lt, UInt32.ofNat_toNat, UInt32.ofNat_toNat]

theorem reads_kv {kv : List AgmKeyValue} (h : kv.length * 8 < 2 ^ 32) :
    Reads (readKv (B := B)) (sizedKv kv) kv := by
  have hnum : (UInt32.ofNat kv.length).toNat = kv.length := toNat_ofNat (by omega)
  have hmul : (UInt32.ofNat kv.length * 8 : UInt32).toNat = kv.length * 8 := by
    rw [UInt32.toNat_mul, hnum]
    exact Nat.mod_eq_of_lt h
  have hlen : (kvBytes kv).length = (UInt32.ofNat kv.length * 8 : UInt32).toNat := by
    rw [hmul, length_kvBytes]
  refine (reads_uint32 _).bind ?_
  rw [UInt32.mul_comm 8]
  have hread := (reads_blob (B := B) hlen).map fun blob =>
    kvOfBytes (UInt32.ofNat kv.length).toNat (filled ((UInt32.ofNat kv.length).toNat * 8) blob)
  rw [hnum, filled_of_length (length_kvBytes kv), kvOfBytes_kvBytes] at hread
  rw [hnum]
  exact hread

/-! ### The codec -/

/-- Every size in bytes is below `2^32`. -/
def Input.Fits : Input B L → Prop
  | .audioIntfSetMeta _ metadata => metadata.length < 2 ^ 32
  | .sessionSetMeta _ metadata => metadata.length < 2 ^ 32
  | .sessionAudioIntfSetMeta _ _ metadata => metadata.length < 2 ^ 32
  | .write _ buff => buff.length < 2 ^ 32
  | .regEvent _ cfg => cfg.payload.length < 2 ^ 32
  | .sessionAifSetParams _ _ payload => payload.length < 2 ^ 32
  | .aifSetParams _ payload => payload.length < 2 ^ 32
  | .sessionSetParams _ payload => payload.length < 2 ^ 32
  | .getParams _ payload => payload.length < 2 ^ 32
  | .setParamsWithTag _ _ _ tkv => tkv.length * 8 < 2 ^ 32
  | .setCalibration _ _ ckv => ckv.length * 8 < 2 ^ 32
  | _ => True

def Request.Fits : Request B L → Prop
  | .input i => i.Fits
  | .read _ count => count < 2 ^ 32
  | .getAifList _ num => num < 2 ^ 32
  | .getTagModuleInfo _ _ _ size => size < 2 ^ 32
  | .regCb .. => True

/-- The local call that a request asks for: the same arguments, an output buffer of the requested
size, and for a callback what is recorded and the event type that is forwarded. -/
def Request.served : Request B L → LocalCall B L
  | .input i => .input i
  | .read handle count => .read handle (.zeroed count) count
  | .getAifList aifList num =>
      .getAifList (if aifList = 0 then .ptr 0 else .zeroed (num * L.aifInfo)) num
  | .getTagModuleInfo session aif payload size =>
      .getTagModuleInfo session aif (if payload = 0 then .ptr 0 else .zeroed size) size
  | .regCb session cb event client binder => .regCb session cb client binder event

/-- The server reads back what the methods with input arguments write. -/
theorem Input.reads {i : Input B L} (h : i.Fits) :
    Reads (serve i.transact.1) i.transact.2.flatten (some (.input i)) := by
  cases i with
  | regClient b =>
      have hb : Reads readStrongBinder (writeStrongBinder b) b := fun _ => rfl
      exact hb.bind (Reads.pure _)
  | unregClient b =>
      have hb : Reads readStrongBinder (writeStrongBinder b) b := fun _ => rfl
      exact hb.bind (Reads.pure _)
  | setMediaConfig aif cfg => exact (reads_uint32 _).bind ((reads_obj _).bind (Reads.pure _))
  | sessionSetConfig handle session media buffer =>
      exact (reads_handle _).bind <| (reads_obj _).bind <| (reads_obj _).bind <|
        (reads_obj _).bind (Reads.pure _)
  | loopback capture playback state =>
      exact (reads_uint32 _).bind <| (reads_uint32 _).bind <| (reads_bool _).bind (Reads.pure _)
  | setEcRef capture aif state =>
      exact (reads_uint32 _).bind <| (reads_uint32 _).bind <| (reads_bool _).bind (Reads.pure _)
  | connect session aif state =>
      exact (reads_uint32 _).bind <| (reads_uint32 _).bind <| (reads_bool _).bind (Reads.pure _)
  | audioIntfSetMeta aif metadata =>
      exact (reads_uint32 _).bind ((reads_sizedBlob h).bind (Reads.pure _))
  | sessionSetMeta session metadata =>
      exact (reads_uint32 _).bind ((reads_sizedBlob h).bind (Reads.pure _))
  | sessionAudioIntfSetMeta session aif metadata =>
      exact (reads_uint32 _).bind <| (reads_uint32 _).bind <|
        (reads_sizedBlob h).bind (Reads.pure _)
  | «open» session => exact (reads_uint32 _).bind (Reads.pure _)
  | onHandle op handle => cases op <;> exact (reads_handle _).bind (Reads.pure _)
  | getBuffCnt handle dir => exact (reads_handle _).bind ((reads_uint32 _).bind (Reads.pure _))
  | write handle buff => exact (reads_handle _).bind ((reads_sizedBlob h).bind (Reads.pure _))
  | regEvent session cfg =>
      have hsize : filled (UInt32.ofNat cfg.payload.length).toNat cfg.payload = cfg.payload :=
        filled_of_length (toNat_ofNat h).symm
      have hcfg : AgmEventRegCfg.mk cfg.moduleInstanceId cfg.eventId
          cfg.isRegister.toUInt32.toUInt8
          (filled (UInt32.ofNat cfg.payload.length).toNat cfg.payload) = cfg := by
        rw [hsize, UInt8.toUInt8_toUInt32]
      have hread : Reads (serve (L := L) .regEvent) _ (some (.input (.regEvent session _))) :=
        (reads_uint32 session).bind <| (reads_uint32 cfg.moduleInstanceId).bind <|
          (reads_uint32 cfg.eventId).bind <|
          (reads_uint32 (UInt32.ofNat cfg.payload.length)).bind <|
          (reads_uint32 cfg.isRegister.toUInt32).bind <|
          (reads_sizedBlob (B := B) h).bind (Reads.pure _)
      rw [hcfg] at hread
      exact hread
  | sessionAifSetParams session aif payload =>
      exact (reads_uint32 _).bind <| (reads_uint32 _).bind <|
        (reads_sizedBlob h).bind (Reads.pure _)
  | aifSetParams aif payload =>
      exact (reads_uint32 _).bind ((reads_sizedBlob h).bind (Reads.pure _))
  | sessionSetParams session payload =>
      exact (reads_uint32 _).bind ((reads_sizedBlob h).bind (Reads.pure _))
  | getParams session payload =>
      exact (reads_uint32 _).bind ((reads_sizedBlob h).bind (Reads.pure _))
  | setParamsWithTag session aif tag tkv =>
      exact (reads_uint32 _).bind <| (reads_uint32 _).bind <| (reads_uint32 _).bind <|
        (reads_kv h).bind (Reads.pure _)
  | setCalibration session aif ckv =>
      exact (reads_uint32 _).bind <| (reads_uint32 _).bind <| (reads_kv h).bind (Reads.pure _)
  | getSessionTime handle timestamp =>
      exact (reads_handle _).bind ((reads_uint64 _).bind (Reads.pure _))
  | bufTstamp session => exact (reads_uint32 _).bind (Reads.pure _)

theorem ofNat_eq_zero {n : ℕ} (h : n < 2 ^ 32) : UInt32.ofNat n = 0 ↔ n = 0 := by
  constructor
  · intro h0
    have := toNat_ofNat h
    rw [h0] at this
    exact this.symm
  · rintro rfl
    rfl

/-- The server reads back what the proxy writes; cells that it leaves unread may follow. -/
theorem Request.reads {r : Request B L} (h : r.Fits) {code : Code} {body : List (List (Cell B))}
    (ht : r.transact = some (code, body)) :
    ∃ cells rest, body.flatten = cells ++ rest ∧ Reads (serve code) cells (some r.served) := by
  cases r with
  | input i =>
      have hi : i.transact = (code, body) := Option.some.inj ht
      have hreads := Input.reads h
      rw [hi] at hreads
      exact ⟨_, [], (List.append_nil _).symm, hreads⟩
  | read handle count =>
      cases ht
      refine ⟨_, [], (List.append_nil _).symm, ?_⟩
      have hread : Reads (serve (L := L) .read) _ (some (.read handle _ _)) :=
        (reads_handle (B := B) handle).bind <|
          (reads_uint32 (UInt32.ofNat count)).bind (Reads.pure _)
      rw [toNat_ofNat h] at hread
      exact hread
  | getAifList aifList num =>
      unfold Request.transact at ht
      simp only at ht
      split_ifs at ht with hsent
      cases ht
      by_cases h0 : UInt32.ofNat num = 0
      · -- both `NULL` and no room: the server passes the pointer on
        have hlist : aifList = 0 := hsent.elim And.left fun hne => absurd h0 hne.2
        have hnum : num = 0 := (ofNat_eq_zero h).mp h0
        subst hlist hnum
        exact ⟨_, [], (List.append_nil _).symm,
          (reads_uint32 _).bind ((reads_handle _).bind (Reads.pure _))⟩
      · -- the pointer is left unread
        have hlist : aifList ≠ 0 := hsent.elim (fun heq => absurd heq.2 h0) And.left
        refine ⟨writeUint32 (UInt32.ofNat num) ++ [], [writeInt64 aifList.toInt64].flatten,
          by rw [List.append_nil]; rfl, ?_⟩
        refine (reads_uint32 _).bind ?_
        rw [if_neg h0, toNat_ofNat h, Request.served, if_neg hlist]
        exact Reads.pure _
  | getTagModuleInfo session aif payload size =>
      unfold Request.transact at ht
      simp only at ht
      split_ifs at ht with hsent
      cases ht
      refine ⟨_, [], (List.append_nil _).symm, ?_⟩
      refine (reads_handle _).bind <| (reads_uint32 _).bind <| (reads_uint32 _).bind <|
        (reads_uint32 _).bind ?_
      rw [toNat_ofNat h, Request.served]
      by_cases h0 : payload = 0
      · rw [if_pos h0, if_pos h0]
        exact Reads.pure _
      · have hne : UInt32.ofNat size ≠ 0 := (hsent.resolve_left h0).2
        rw [if_neg h0, if_neg h0, if_pos hne]
        exact Reads.pure _
  | regCb session cb event client binder =>
      cases ht
      refine ⟨_, [], (List.append_nil _).symm, ?_⟩
      have hb : Reads readStrongBinder (writeStrongBinder binder) binder := fun _ => rfl
      have hread : Reads (serve (L := L) .regCb) _ (some (.regCb session _ client binder event)) :=
        (reads_uint32 session).bind <| (reads_pointer cb).bind <| (reads_uint32 event).bind <|
          (reads_handle client).bind <| hb.bind (Reads.pure _)
      rw [ofLe_leBytes 8 _ cb.toNat_lt, UInt64.ofNat_toNat] at hread
      exact hread

/-- The local call made for what the proxy sends. -/
theorem Request.onTransact_eq {r : Request B L} (h : r.Fits) {code : Code}
    {body : List (List (Cell B))} (ht : r.transact = some (code, body)) :
    onTransact code (parcel body) = some (some r.served) := by
  obtain ⟨cells, rest, hbody, hreads⟩ := Request.reads h ht
  have htoken : Reads (checkInterface (B := B)) writeInterfaceToken () := fun _ => rfl
  unfold onTransact parcel
  rw [hbody, ← List.append_assoc]
  exact (htoken.bind hreads).run rest

/-- The calls that the proxy sends: all but a list asked for with no entries, entries asked for
without a list, and a payload without a size. -/
def Request.Sent : Request B L → Prop
  | .getAifList aifList num => aifList = 0 ↔ UInt32.ofNat num = 0
  | .getTagModuleInfo _ _ payload size => payload = 0 ∨ UInt32.ofNat size ≠ 0
  | _ => True

theorem Request.transact_ne_none (r : Request B L) : r.transact ≠ none ↔ r.Sent := by
  cases r with
  | getAifList aifList num =>
      unfold Request.transact Request.Sent
      by_cases hlist : aifList = 0 <;> by_cases hcount : UInt32.ofNat num = 0 <;>
        simp [hlist, hcount]
  | getTagModuleInfo session aif payload size =>
      unfold Request.transact Request.Sent
      by_cases hpayload : payload = 0 <;> by_cases hcount : UInt32.ofNat size = 0 <;>
        simp [hpayload, hcount]
  | input i => exact iff_of_true (Option.some_ne_none _) trivial
  | read handle count => exact iff_of_true (Option.some_ne_none _) trivial
  | regCb session cb event client binder => exact iff_of_true (Option.some_ne_none _) trivial

/-- For every method of the interface and all arguments whose sizes fit 32 bits, the server calls
the local function with the arguments given to the proxy. -/
theorem onTransact_transact {r : Request B L} (h : r.Fits) {code : Code}
    {body : List (List (Cell B))} (ht : r.transact = some (code, body)) :
    onTransact code (parcel body) = some (some r.served) :=
  Request.onTransact_eq h ht

/-- A tag with one key-value pair. -/
theorem onTransact_transact_tag :
    onTransact .setParamsWithTag (parcel (B := Unit)
      [writeUint32 1, writeUint32 2, writeUint32 0xC0000013, sizedKv [⟨0xA1, 7⟩]]) =
      some (some (.input (L := ⟨16, 56, 16, 32⟩) (.setParamsWithTag 1 2 0xC0000013 [⟨0xA1, 7⟩]))) :=
  onTransact_transact (r := .input (.setParamsWithTag 1 2 0xC0000013 [⟨0xA1, 7⟩]))
    (show 1 * 8 < 2 ^ 32 by decide) rfl

end Agm.SwBinder
