import Agm.SwCodec
import Agm.Types

/-! # Queries that return a size

`agm_get_aif_info_list` and `agm_session_aif_get_tag_module_info` take the room that the caller has
and return what there is.  Over SwBinder and D-Bus the service decides how much it sends back, and the
clients take as much off the reply as they have asked for.

* The local functions answer from a `DeviceTable` and a `TagService`.
* `SwBinder.getAifInfoList` and `SwBinder.getTagModuleInfo` are the calls through `BpAgmService` and
  `BnAgmService`, `Dbus.getAifInfoList` the call through the D-Bus client and service.  A call that
  reads through a `NULL` pointer has no answer.

* **Memory.**  The SwBinder service finds the memory for its replies; for the D-Bus service this is
  a parameter.

`queries_same_iff`: when the answer is that of the local function. -/

namespace Agm

/-! ### The local functions -/

def AIF_NAME_MAX_LEN : ℕ := 28

/-- `sizeof(struct aif_info)`. -/
def aifInfoSize : ℕ := AIF_NAME_MAX_LEN + 4

/-- `struct aif_info`: a name that is terminated within its array, and a direction. -/
structure AifInfo where
  aifName : List UInt8
  dir : UInt32
  fits : aifName.length < AIF_NAME_MAX_LEN
  text : ∀ b ∈ aifName, b ≠ 0
deriving DecidableEq

/-- What the list shows of a `struct device_obj`. -/
structure AifDevice where
  name : List UInt8
  dir : UInt32
  text : ∀ b ∈ name, b ≠ 0

/-- `device_list` and `num_audio_intfs`. -/
structure DeviceTable where
  devices : List AifDevice
  few : devices.length < 2 ^ 32

/-- `strlcpy` of the name, and the direction. -/
def AifInfo.ofDevice (d : AifDevice) : AifInfo where
  aifName := d.name.take (AIF_NAME_MAX_LEN - 1)
  dir := d.dir
  fits := Nat.lt_of_le_of_lt (List.length_take_le _ _) (by decide)
  text b hb := d.text b (List.mem_of_mem_take hb)

/-- The error code as an `int` of the interface. -/
def invalid : Int32 := Int32.ofInt (- EINVAL)

/-- What a caller of `agm_get_aif_info_list` sees: the code, the updated count and the entries that
were filled in. -/
structure AifAnswer where
  ret : Int32
  count : ℕ
  entries : List AifInfo
deriving DecidableEq

/-- `device_get_aif_info_list`; `requested` is a `uint32_t`. -/
def deviceGetAifInfoList (t : DeviceTable) (num : ℕ) : AifAnswer :=
  if num = 0 then ⟨0, t.devices.length, []⟩
  else
    let copied := (t.devices.take (num % 2 ^ 32)).map AifInfo.ofDevice
    ⟨0, copied.length, copied⟩

/-- `agm_get_aif_info_list`. -/
def agmGetAifInfoList (t : DeviceTable) (aifList : UInt64) (num : ℕ) : AifAnswer :=
  if num ≠ 0 ∧ aifList = 0 then ⟨invalid, num, []⟩ else deviceGetAifInfoList t num

/-- `agm_session_aif_get_tag_module_info` in the service: the code and the size for a `NULL`
payload, the code and the bytes written for a payload of the given size. -/
structure TagService where
  size : UInt32 → UInt32 → ℕ → Int32 × ℕ
  fill : UInt32 → UInt32 → ℕ → Int32 × List UInt8

structure TagAnswer where
  ret : Int32
  size : ℕ
  bytes : List UInt8
deriving DecidableEq

def TagService.get (s : TagService) (session aif : UInt32) (payload : UInt64) (size : ℕ) :
    TagAnswer :=
  if payload = 0 then ⟨(s.size session aif size).1, (s.size session aif size).2, []⟩
  else
    ⟨(s.fill session aif size).1, (s.fill session aif size).2.length, (s.fill session aif size).2⟩

theorem agmGetAifInfoList_entries (t : DeviceTable) {aifList : UInt64} {num : ℕ}
    (hlist : aifList ≠ 0) (hnum : num ≠ 0) :
    agmGetAifInfoList t aifList num =
      ⟨0, min (num % 2 ^ 32) t.devices.length,
        (t.devices.take (num % 2 ^ 32)).map AifInfo.ofDevice⟩ := by
  unfold agmGetAifInfoList deviceGetAifInfoList
  rw [if_neg fun h => hlist h.2, if_neg hnum]
  dsimp only
  rw [List.length_map, List.length_take]

/-! ### The memory of the entries -/

/-- The bytes of an entry in a cleared array. -/
def AifInfo.bytes (a : AifInfo) : List UInt8 :=
  a.aifName ++ List.replicate (AIF_NAME_MAX_LEN - a.aifName.length) 0 ++
    Codec.leBytes 4 a.dir.toNat

/-- The entry over `aifInfoSize` bytes. -/
def AifInfo.ofBytes (bs : List UInt8) : AifInfo where
  aifName := (bs.take (AIF_NAME_MAX_LEN - 1)).takeWhile (· ≠ 0)
  dir := UInt32.ofNat (Codec.ofLe ((bs.drop AIF_NAME_MAX_LEN).take 4))
  fits := by
    have h := (List.takeWhile_sublist (p := fun b : UInt8 => decide (b ≠ 0))
      (l := bs.take (AIF_NAME_MAX_LEN - 1))).length_le
    have h' := List.length_take_le (AIF_NAME_MAX_LEN - 1) bs
    exact Nat.lt_of_le_of_lt (h.trans h') (by decide)
  text b hb := by simpa using List.mem_takeWhile_imp hb

/-- The entries over `n` times `aifInfoSize` bytes. -/
def aifInfosOfBytes : ℕ → List UInt8 → List AifInfo
  | 0, _ => []
  | n + 1, bs => .ofBytes bs :: aifInfosOfBytes n (bs.drop aifInfoSize)

theorem AifInfo.length_bytes (a : AifInfo) : a.bytes.length = aifInfoSize := by
  have h := a.fits
  unfold AifInfo.bytes aifInfoSize
  simp only [List.length_append, List.length_replicate, Codec.length_leBytes]
  omega

theorem AifInfo.ofBytes_bytes (a : AifInfo) (rest : List UInt8) : ofBytes (a.bytes ++ rest) = a := by
  have hfits : a.aifName.length ≤ AIF_NAME_MAX_LEN - 1 := Nat.le_sub_one_of_lt a.fits
  have hname : (a.bytes ++ rest).take (AIF_NAME_MAX_LEN - 1) =
      a.aifName ++ List.replicate (AIF_NAME_MAX_LEN - 1 - a.aifName.length) 0 := by
    unfold bytes
    rw [List.append_assoc, List.append_assoc, List.take_append, List.take_of_length_le hfits,
      List.take_append_of_le_length (by rw [List.length_replicate]; omega), List.take_replicate]
    congr 2
    omega
  have htext : (a.aifName ++ List.replicate (AIF_NAME_MAX_LEN - 1 - a.aifName.length) 0).takeWhile
      (fun b => decide (b ≠ 0)) = a.aifName := by
    rw [List.takeWhile_append_of_pos fun b hb => decide_eq_true (a.text b hb)]
    simp
  have hdir : ((a.bytes ++ rest).drop AIF_NAME_MAX_LEN).take 4 = Codec.leBytes 4 a.dir.toNat := by
    unfold bytes
    rw [List.append_assoc, List.drop_left', List.take_left' (Codec.length_leBytes 4 _)]
    rw [List.length_append, List.length_replicate]
    have := a.fits
    omega
  cases a with
  | mk name dir fits text =>
      unfold ofBytes
      congr 1
      · rw [hname]
        exact htext
      · rw [hdir, Codec.ofLe_leBytes 4 _ dir.toNat_lt, UInt32.ofNat_toNat]

theorem length_bytes_flatMap (entries : List AifInfo) :
    (entries.flatMap AifInfo.bytes).length = entries.length * aifInfoSize := by
  induction entries with
  | nil => exact (Nat.zero_mul _).symm
  | cons a entries ih =>
      rw [List.flatMap_cons, List.length_append, a.length_bytes, ih, List.length_cons, Nat.succ_mul]
      omega

theorem aifInfosOfBytes_bytes (entries : List AifInfo) :
    aifInfosOfBytes entries.length (entries.flatMap AifInfo.bytes) = entries := by
  induction entries with
  | nil => rfl
  | cons a entries ih =>
      rw [List.length_cons, List.flatMap_cons, aifInfosOfBytes, AifInfo.ofBytes_bytes,
        List.drop_left' a.length_bytes, ih]

theorem length_aifInfosOfBytes (n : ℕ) (bs : List UInt8) : (aifInfosOfBytes n bs).length = n := by
  induction n generalizing bs with
  | zero => rfl
  | succ n ih => rw [aifInfosOfBytes, List.length_cons, ih]

/-! ### SwBinder -/

namespace SwBinder

open Codec

variable {B : Type} {L : Layout}

def writeInt32 (v : Int32) : List (Cell B) := writeUint32 v.toUInt32

def readInt32 : R B Int32 := do
  let v ← readUint32
  pure v.toInt32

/-- An `int` assigned to a `size_t`. -/
def sizeOfInt (v : UInt32) : ℕ := if v.toNat < 2 ^ 31 then v.toNat else 2 ^ 64 - 2 ^ 32 + v.toNat

/-- A blob and the code.  `writeBlob` refuses a length that is no `int`; the service then copies to
`NULL`. -/
def blobReply (size : ℕ) (bs : List UInt8) (ret : Int32) : Option (List (Cell B)) :=
  if size < 2 ^ 31 then some (writeBlob size bs ++ writeInt32 ret) else none

/-- The pointer to an allocation. -/
def allocated : UInt64 := 1

/-- `onTransact` from the local call on: what it writes to the reply. -/
def reply (t : DeviceTable) (s : TagService) : LocalCall B L → Option (List (Cell B))
  | .getAifList (.ptr aifList) count =>
      let a := agmGetAifInfoList t aifList count
      some (writeUint32 (UInt32.ofNat a.count) ++ writeInt32 a.ret)
  | .getAifList (.zeroed _) count =>
      let a := agmGetAifInfoList t allocated count
      blobReply (a.count * aifInfoSize % 2 ^ 32) (a.entries.flatMap AifInfo.bytes) a.ret
  | .getTagModuleInfo session aif (.ptr _) count =>
      let a := s.get session aif 0 count
      some (writeUint32 (UInt32.ofNat a.size) ++ writeInt32 a.ret)
  | .getTagModuleInfo session aif (.zeroed _) count =>
      let a := s.get session aif allocated count
      blobReply a.size a.bytes a.ret
  | _ => none

/-- The reply to a request, if the proxy sends it. -/
def exchange (t : DeviceTable) (s : TagService) (r : Request Unit L) :
    Option (Option (List (Cell Unit))) :=
  r.transact.map fun sent => (onTransact sent.1 (parcel sent.2)).join.bind (reply (L := L) t s)

/-- `BpAgmService::ipc_agm_get_aif_info_list`.  It takes the blob that it has asked for off the reply,
and leaves the count alone. -/
def getAifInfoList (L : Layout) (t : DeviceTable) (s : TagService) (aifList : UInt64) (num : ℕ) :
    Option AifAnswer :=
  match exchange (L := L) t s (.getAifList aifList num) with
  | none => some ⟨invalid, num, []⟩
  | some cells => do
      let cells ← cells
      if aifList = 0 then
        Reader.run (do
          let count ← readUint32
          let rc ← readInt32
          pure ⟨rc, sizeOfInt count, []⟩) cells
      else
        let total := num % 2 ^ 32 * aifInfoSize % 2 ^ 32
        Reader.run (do
          let blob ← readBlob total
          let rc ← readInt32
          pure ⟨rc, num, aifInfosOfBytes (total / aifInfoSize) blob⟩) cells

/-- `BpAgmService::ipc_agm_session_aif_get_tag_module_info`. -/
def getTagModuleInfo (L : Layout) (t : DeviceTable) (s : TagService) (session aif : UInt32)
    (payload : UInt64) (size : ℕ) : Option TagAnswer :=
  match exchange (L := L) t s (.getTagModuleInfo session aif payload size) with
  | none => some ⟨invalid, size, []⟩
  | some cells => do
      let cells ← cells
      if payload = 0 then
        Reader.run (do
          let size ← readUint32
          let rc ← readInt32
          pure ⟨rc, sizeOfInt size, []⟩) cells
      else
        Reader.run (do
          let blob ← readBlob (sizeOfInt (UInt32.ofNat size))
          let rc ← readInt32
          pure ⟨rc, size, blob⟩) cells

theorem reads_int32 (v : Int32) : Reads (readInt32 (B := B)) (writeInt32 v) v := by
  have h := (reads_uint32 (B := B) v.toUInt32).map UInt32.toInt32
  rwa [Int32.toInt32_toUInt32] at h

/-- A count and a code are read in the order they are written. -/
theorem run_count {α : Type} (v : UInt32) (rc : Int32) (f : UInt32 → Int32 → α) :
    Reader.run (do
      let count ← readUint32
      let rc ← readInt32
      pure (f count rc)) (writeUint32 v ++ writeInt32 rc : List (Cell B)) = some (f v rc) := by
  have h := (reads_uint32 (B := B) v).bind (f := fun v => do
    let rc ← readInt32
    pure (f v rc)) ((reads_int32 rc).map fun rc => f v rc)
  have hrun := h.run []
  rwa [List.append_nil] at hrun

/-- A blob is read with the length it was written with, or not at all. -/
theorem run_blob {α : Type} {m n : ℕ} (bs : List UInt8) (rc : Int32)
    (f : List UInt8 → Int32 → α) :
    ((blobReply m bs rc : Option (List (Cell B))).bind fun cells => Reader.run (do
      let blob ← readBlob n
      let rc ← readInt32
      pure (f blob rc)) cells) =
      if m < 2 ^ 31 ∧ m = n then some (f (filled m bs) rc) else none := by
  unfold blobReply
  by_cases hm : m < 2 ^ 31
  · rw [if_pos hm, Option.bind_some]
    by_cases h : m = n
    · subst h
      have hblob : Reads (readBlob (B := B) m) (writeBlob m bs) (filled m bs) := by
        intro rest
        show (if (filled m bs).length = m then some (filled m bs, rest) else none) = _
        rw [if_pos (length_filled m bs)]
      have hr := hblob.bind (f := fun bs => do
        let rc ← readInt32
        pure (f bs rc)) ((reads_int32 rc).map fun rc => f (filled m bs) rc)
      have hrun := hr.run []
      rw [if_pos ⟨hm, rfl⟩]
      rwa [List.append_nil] at hrun
    · rw [if_neg fun hs => h hs.2]
      apply run_bind_none
      show (if (filled m bs).length = n then _ else _) = _
      rw [length_filled, if_neg h]
  · rw [if_neg hm, if_neg fun hs => hm hs.1]
    rfl

/-- The reply to a request that is sent. -/
theorem exchange_eq {t : DeviceTable} {s : TagService} {r : Request Unit L} (h : r.Fits)
    (hsent : r.transact ≠ none) : exchange t s r = some (reply t s r.served) := by
  obtain ⟨⟨code, body⟩, ht⟩ := Option.ne_none_iff_exists'.mp hsent
  unfold exchange
  rw [ht, Option.map_some, Request.onTransact_eq h ht]
  rfl

/-- The proxies cut the sizes to 32 bits. -/
theorem exchange_getAifList (t : DeviceTable) (s : TagService) (aifList : UInt64) (num : ℕ) :
    exchange (L := L) t s (.getAifList aifList num) =
      exchange (L := L) t s (.getAifList aifList (num % 2 ^ 32)) := by
  have hmod : UInt32.ofNat (num % 2 ^ 32) = UInt32.ofNat num := UInt32.ofNat_mod_size
  unfold exchange Request.transact
  dsimp only
  rw [hmod]

theorem exchange_getTagModuleInfo (t : DeviceTable) (s : TagService) (session aif : UInt32)
    (payload : UInt64) (size : ℕ) :
    exchange (L := L) t s (.getTagModuleInfo session aif payload size) =
      exchange (L := L) t s (.getTagModuleInfo session aif payload (size % 2 ^ 32)) := by
  have hmod : UInt32.ofNat (size % 2 ^ 32) = UInt32.ofNat size := UInt32.ofNat_mod_size
  unfold exchange Request.transact
  dsimp only
  rw [hmod]

/-! ### The list of the interfaces over SwBinder -/

/-- When the proxy answers like the service. -/
def AifListFits (t : DeviceTable) (aifList : UInt64) (num : ℕ) : Prop :=
  if aifList = 0 then num = 0 ∧ t.devices.length < 2 ^ 31 ∨ num % 2 ^ 32 ≠ 0
  else num % 2 ^ 32 ≠ 0 ∧ num ≤ t.devices.length ∧ num * aifInfoSize < 2 ^ 31

theorem sizeOfInt_ofNat {n : ℕ} (h : n < 2 ^ 32) : sizeOfInt (UInt32.ofNat n) = n ↔ n < 2 ^ 31 := by
  unfold sizeOfInt
  rw [toNat_ofNat h]
  split_ifs with hlt
  · exact ⟨fun _ => hlt, fun _ => rfl⟩
  · exact ⟨fun heq => by omega, fun hlt' => absurd hlt' hlt⟩

section
variable {t : DeviceTable} {s : TagService} {aifList : UInt64} {num : ℕ}

/-- What the proxy sends. -/
theorem getAifList_sent (h : aifList = 0 ↔ num % 2 ^ 32 = 0) :
    exchange (L := L) t s (.getAifList aifList num) =
      some (reply (L := L) t s
        (.getAifList (if aifList = 0 then .ptr 0 else .zeroed (num % 2 ^ 32 * L.aifInfo))
          (num % 2 ^ 32))) := by
  have hlt : num % 2 ^ 32 < 2 ^ 32 := Nat.mod_lt _ (by decide)
  rw [exchange_getAifList]
  apply exchange_eq (r := .getAifList aifList (num % 2 ^ 32)) hlt
  unfold Request.transact
  dsimp only
  have hzero := ofNat_eq_zero hlt
  rw [if_pos]
  · exact nofun
  · rw [hzero, ← h]
    tauto

theorem getAifList_unsent (h : ¬ (aifList = 0 ↔ num % 2 ^ 32 = 0)) :
    exchange (L := L) t s (.getAifList aifList num) = none := by
  have hlt : num % 2 ^ 32 < 2 ^ 32 := Nat.mod_lt _ (by decide)
  rw [exchange_getAifList]
  unfold exchange Request.transact
  dsimp only
  have hzero := ofNat_eq_zero hlt
  rw [if_neg]
  · rfl
  · rw [ne_eq, hzero]
    tauto

/-- The number of interfaces. -/
theorem getAifInfoList_count (h : num % 2 ^ 32 = 0) :
    getAifInfoList L t s 0 num = some ⟨0, sizeOfInt (UInt32.ofNat t.devices.length), []⟩ := by
  unfold getAifInfoList
  rw [getAifList_sent ⟨fun _ => h, fun _ => rfl⟩, h]
  exact run_count (B := Unit) _ _ fun count rc => (⟨rc, sizeOfInt count, []⟩ : AifAnswer)

/-- The entries. -/
theorem getAifInfoList_entries (hlist : aifList ≠ 0) (h : num % 2 ^ 32 ≠ 0) :
    getAifInfoList L t s aifList num =
      if min (num % 2 ^ 32) t.devices.length * aifInfoSize % 2 ^ 32 < 2 ^ 31 ∧
          min (num % 2 ^ 32) t.devices.length * aifInfoSize % 2 ^ 32 =
            num % 2 ^ 32 * aifInfoSize % 2 ^ 32 then
        some ⟨0, num, aifInfosOfBytes (num % 2 ^ 32 * aifInfoSize % 2 ^ 32 / aifInfoSize)
          (filled (min (num % 2 ^ 32) t.devices.length * aifInfoSize % 2 ^ 32)
            (((t.devices.take (num % 2 ^ 32)).map AifInfo.ofDevice).flatMap AifInfo.bytes))⟩
      else none := by
  unfold getAifInfoList
  rw [getAifList_sent ⟨fun h0 => absurd h0 hlist, fun h0 => absurd h0 h⟩]
  simp only [if_neg hlist]
  have ha := agmGetAifInfoList_entries t (show allocated ≠ 0 by decide) h
  rw [Nat.mod_mod] at ha
  have hreply : reply (B := Unit) (L := L) t s
      (.getAifList (.zeroed (num % 2 ^ 32 * L.aifInfo)) (num % 2 ^ 32)) =
      blobReply (min (num % 2 ^ 32) t.devices.length * aifInfoSize % 2 ^ 32)
        (((t.devices.take (num % 2 ^ 32)).map AifInfo.ofDevice).flatMap AifInfo.bytes) 0 := by
    unfold reply
    dsimp only
    rw [ha]
  rw [hreply]
  exact run_blob (B := Unit) _ _ fun blob rc => (⟨rc, num, aifInfosOfBytes _ blob⟩ : AifAnswer)

theorem getAifInfoList_iff (L : Layout) (t : DeviceTable) (s : TagService) (aifList : UInt64)
    (num : ℕ) :
    getAifInfoList L t s aifList num = some (agmGetAifInfoList t aifList num) ↔
      AifListFits t aifList num := by
  unfold AifListFits
  by_cases hlist : aifList = 0
  · subst hlist
    rw [if_pos rfl]
    by_cases h : num % 2 ^ 32 = 0
    · rw [getAifInfoList_count h, or_iff_left (not_not.mpr h)]
      unfold agmGetAifInfoList deviceGetAifInfoList
      by_cases h0 : num = 0
      · rw [if_neg fun hn => hn.1 h0, if_pos h0, and_iff_right h0, ← sizeOfInt_ofNat t.few]
        simp
      · rw [if_pos ⟨h0, rfl⟩]
        refine ⟨fun heq => ?_, fun hn => absurd hn.1 h0⟩
        have hret : (0 : Int32) = invalid := congrArg AifAnswer.ret (Option.some.inj heq)
        exact absurd hret (by decide)
    · have h0 : num ≠ 0 := fun h0 => h (by rw [h0]; rfl)
      refine ⟨fun _ => .inr h, fun _ => ?_⟩
      unfold getAifInfoList agmGetAifInfoList
      rw [getAifList_unsent (by simpa using h), if_pos ⟨h0, rfl⟩]
  · rw [if_neg hlist]
    by_cases h : num % 2 ^ 32 = 0
    · refine ⟨fun heq => ?_, fun hn => absurd h hn.1⟩
      have hret : (agmGetAifInfoList t aifList num).ret = 0 := by
        unfold agmGetAifInfoList deviceGetAifInfoList
        rw [if_neg fun hn => hlist hn.2]
        split_ifs <;> rfl
      unfold getAifInfoList at heq
      rw [getAifList_unsent (by tauto)] at heq
      have hinvalid : invalid = 0 := (congrArg AifAnswer.ret (Option.some.inj heq)).trans hret
      exact absurd hinvalid (by decide)
    · have h0 : num ≠ 0 := fun h0 => h (by rw [h0]; rfl)
      rw [getAifInfoList_entries hlist h, agmGetAifInfoList_entries t hlist h0, and_iff_right h]
      have hlt : num % 2 ^ 32 < 2 ^ 32 := Nat.mod_lt _ (by decide)
      constructor
      · intro heq
        split_ifs at heq with hfits
        have hanswer := Option.some.inj heq
        have hcount : num = min (num % 2 ^ 32) t.devices.length := congrArg AifAnswer.count hanswer
        have hentries := congrArg (fun a => a.entries.length) hanswer
        dsimp only at hentries
        rw [length_aifInfosOfBytes, List.length_map, List.length_take, ← hcount, ← hfits.2] at hentries
        have hsize := hfits.1
        unfold aifInfoSize AIF_NAME_MAX_LEN at *
        omega
      · rintro ⟨hle, hsize⟩
        have hn := t.few
        have hmod : num % 2 ^ 32 = num := Nat.mod_eq_of_lt (by omega)
        have htotal : num * aifInfoSize % 2 ^ 32 = num * aifInfoSize := Nat.mod_eq_of_lt (by omega)
        rw [hmod, min_eq_left hle, htotal, if_pos ⟨hsize, rfl⟩]
        have hlen : ((t.devices.take num).map AifInfo.ofDevice).length = num := by
          rw [List.length_map, List.length_take, min_eq_left hle]
        have hbytes := length_bytes_flatMap ((t.devices.take num).map AifInfo.ofDevice)
        rw [hlen] at hbytes
        have hdecode := aifInfosOfBytes_bytes ((t.devices.take num).map AifInfo.ofDevice)
        rw [hlen] at hdecode
        rw [filled_of_length hbytes, Nat.mul_div_cancel _ (by decide), hdecode]

end

/-! ### The tagged modules over SwBinder -/

/-- When the proxy answers like the service; the service is asked for `size % 2 ^ 32`. -/
def TagInfoFits (s : TagService) (session aif : UInt32) (payload : UInt64) (size : ℕ) : Prop :=
  let served := s.get session aif payload (size % 2 ^ 32)
  let answer := s.get session aif payload size
  if payload = 0 then answer = { served with size := sizeOfInt (UInt32.ofNat served.size) }
  else if size % 2 ^ 32 = 0 then answer = ⟨invalid, size, []⟩
  else
    served.size < 2 ^ 31 ∧ served.size = sizeOfInt (UInt32.ofNat size) ∧
      answer = { served with size := size }

section
variable {t : DeviceTable} {s : TagService} {session aif : UInt32} {payload : UInt64} {size : ℕ}

theorem getTagInfo_sent (h : payload = 0 ∨ size % 2 ^ 32 ≠ 0) :
    exchange (L := L) t s (.getTagModuleInfo session aif payload size) =
      some (reply (L := L) t s (.getTagModuleInfo session aif
        (if payload = 0 then .ptr 0 else .zeroed (size % 2 ^ 32)) (size % 2 ^ 32))) := by
  have hlt : size % 2 ^ 32 < 2 ^ 32 := Nat.mod_lt _ (by decide)
  rw [exchange_getTagModuleInfo]
  apply exchange_eq (r := .getTagModuleInfo session aif payload (size % 2 ^ 32)) hlt
  unfold Request.transact
  dsimp only
  rw [if_pos]
  · exact nofun
  · rw [ne_eq, ne_eq, ofNat_eq_zero hlt]
    tauto

theorem getTagInfo_unsent (hpayload : payload ≠ 0) (h : size % 2 ^ 32 = 0) :
    exchange (L := L) t s (.getTagModuleInfo session aif payload size) = none := by
  rw [exchange_getTagModuleInfo, h]
  unfold exchange Request.transact
  dsimp only
  rw [if_neg]
  · rfl
  · exact fun hsent => hsent.elim hpayload fun hboth => hboth.2 rfl

theorem getTagModuleInfo_iff (L : Layout) (t : DeviceTable) (s : TagService) (session aif : UInt32)
    (payload : UInt64) (size : ℕ) :
    getTagModuleInfo L t s session aif payload size = some (s.get session aif payload size) ↔
      TagInfoFits s session aif payload size := by
  unfold TagInfoFits
  dsimp only
  by_cases hpayload : payload = 0
  · subst hpayload
    have hanswer : getTagModuleInfo L t s session aif 0 size =
        some { s.get session aif 0 (size % 2 ^ 32) with
          size := sizeOfInt (UInt32.ofNat (s.get session aif 0 (size % 2 ^ 32)).size) } := by
      unfold getTagModuleInfo
      rw [getTagInfo_sent (.inl rfl)]
      exact run_count (B := Unit) _ _ fun size rc => (⟨rc, sizeOfInt size, []⟩ : TagAnswer)
    rw [hanswer, if_pos rfl, Option.some.injEq]
    exact eq_comm
  rw [if_neg hpayload]
  by_cases h : size % 2 ^ 32 = 0
  · unfold getTagModuleInfo
    rw [getTagInfo_unsent hpayload h, if_pos h]
    dsimp only
    rw [Option.some.injEq]
    exact eq_comm
  · rw [if_neg h]
    have hget : s.get session aif allocated (size % 2 ^ 32) =
        s.get session aif payload (size % 2 ^ 32) := by
      unfold TagService.get
      rw [if_neg hpayload, if_neg (show allocated ≠ 0 by decide)]
    have hbytes : (s.get session aif payload (size % 2 ^ 32)).bytes.length =
        (s.get session aif payload (size % 2 ^ 32)).size := by
      unfold TagService.get
      rw [if_neg hpayload]
    have hreply : reply (B := Unit) (L := L) t s
        (.getTagModuleInfo session aif (.zeroed (size % 2 ^ 32)) (size % 2 ^ 32)) =
        blobReply (s.get session aif payload (size % 2 ^ 32)).size
          (s.get session aif payload (size % 2 ^ 32)).bytes
          (s.get session aif payload (size % 2 ^ 32)).ret := by
      unfold reply
      dsimp only
      rw [hget]
    have hanswer := run_blob (B := Unit) (m := (s.get session aif payload (size % 2 ^ 32)).size)
      (n := sizeOfInt (UInt32.ofNat size)) (s.get session aif payload (size % 2 ^ 32)).bytes
      (s.get session aif payload (size % 2 ^ 32)).ret
      fun blob rc => (⟨rc, size, blob⟩ : TagAnswer)
    unfold getTagModuleInfo
    rw [getTagInfo_sent (.inr h), if_neg hpayload]
    simp only [if_neg hpayload]
    rw [hreply]
    refine (Eq.congr_left hanswer).trans ?_
    rw [filled_of_length hbytes]
    split_ifs with hfits
    · rw [Option.some.injEq]
      exact ⟨fun heq => ⟨hfits.1, hfits.2, heq.symm⟩, fun hn => hn.2.2.symm⟩
    · exact ⟨nofun, fun hn => absurd ⟨hn.1, hn.2.1⟩ hfits⟩

end

end SwBinder

/-! ### The list of the interfaces over D-Bus -/

namespace Dbus

/-- The upper half of the service's `size_t num_aif_info`, which `dbus_message_iter_get_basic` leaves
uninitialised, and the numbers of entries that `calloc` has room for. -/
structure ServiceHeap where
  high : ℕ
  calloc : ℕ → Bool

/-- `ipc_agm_get_aif_info_list`: `none` when it reads past the entries, `some none` for an error
reply. -/
def ipcAgmGetAifInfoList (t : DeviceTable) (heap : ServiceHeap) (arg : ℕ) :
    Option (Option (List AifInfo)) :=
  let num := heap.high * 2 ^ 32 + arg
  let a := agmGetAifInfoList t (if heap.calloc num then 1 else 0) num
  if a.ret ≠ 0 then some none
  else if a.entries.length < a.count then none
  else some (some a.entries)

/-- `agm_get_aif_info_list` of the client.  It asserts that there is a list, takes as many entries off
the reply as it has asked for, and leaves the count alone. -/
def getAifInfoList (t : DeviceTable) (heap : ServiceHeap) (aifList : UInt64) (num : ℕ) :
    Option AifAnswer :=
  if num = 0 then some ⟨0, (agmGetAifInfoList t 0 0).count % 2 ^ 32, []⟩
  else if aifList = 0 then none
  else do
    let reply ← ipcAgmGetAifInfoList t heap (num % 2 ^ 32)
    match reply with
    | none => pure ⟨invalid, num, []⟩
    | some entries => if entries.length < num then none else pure ⟨0, num, entries.take num⟩

/-- When the client answers like the service. -/
def AifListFits (t : DeviceTable) (heap : ServiceHeap) (aifList : UInt64) (num : ℕ) : Prop :=
  num = 0 ∨ aifList ≠ 0 ∧ num ≤ t.devices.length ∧ heap.calloc (heap.high * 2 ^ 32 + num) = true

section
variable {t : DeviceTable} {heap : ServiceHeap} {arg : ℕ}

/-- A request for no entries: the service answers with the number of interfaces. -/
theorem ipcAgmGetAifInfoList_zero (h : heap.high * 2 ^ 32 + arg = 0) :
    ipcAgmGetAifInfoList t heap arg = if 0 < t.devices.length then none else some (some []) := by
  unfold ipcAgmGetAifInfoList
  dsimp only
  rw [h]
  have ha : ∀ p, agmGetAifInfoList t p 0 = ⟨0, t.devices.length, []⟩ := fun p => by
    unfold agmGetAifInfoList deviceGetAifInfoList
    rw [if_neg fun hne => hne.1 rfl, if_pos rfl]
  rw [ha, if_neg (not_not.mpr rfl)]
  rfl

/-- The service cannot allocate. -/
theorem ipcAgmGetAifInfoList_refused (h : heap.high * 2 ^ 32 + arg ≠ 0)
    (hmem : heap.calloc (heap.high * 2 ^ 32 + arg) = false) :
    ipcAgmGetAifInfoList t heap arg = some none := by
  have ha : agmGetAifInfoList t (if false = true then 1 else 0) (heap.high * 2 ^ 32 + arg) =
      ⟨invalid, heap.high * 2 ^ 32 + arg, []⟩ := if_pos ⟨h, rfl⟩
  unfold ipcAgmGetAifInfoList
  dsimp only
  rw [hmem, ha]
  rfl

theorem ipcAgmGetAifInfoList_entries (harg : arg < 2 ^ 32) (h : heap.high * 2 ^ 32 + arg ≠ 0)
    (hmem : heap.calloc (heap.high * 2 ^ 32 + arg) = true) :
    ipcAgmGetAifInfoList t heap arg =
      some (some ((t.devices.take arg).map AifInfo.ofDevice)) := by
  have hmod : (heap.high * 2 ^ 32 + arg) % 2 ^ 32 = arg := by omega
  unfold ipcAgmGetAifInfoList
  dsimp only
  rw [hmem, if_pos rfl, agmGetAifInfoList_entries t (by decide) h, hmod]
  dsimp only
  rw [if_neg (not_not.mpr rfl), List.length_map, List.length_take, if_neg (lt_irrefl _)]

end

theorem getAifInfoList_iff (t : DeviceTable) (heap : ServiceHeap) (aifList : UInt64) (num : ℕ) :
    getAifInfoList t heap aifList num = some (agmGetAifInfoList t aifList num) ↔
      AifListFits t heap aifList num := by
  have hn := t.few
  unfold getAifInfoList AifListFits
  by_cases h0 : num = 0
  · refine ⟨fun _ => .inl h0, fun _ => ?_⟩
    rw [if_pos h0]
    have hcount : (agmGetAifInfoList t 0 0).count % 2 ^ 32 = t.devices.length := Nat.mod_eq_of_lt hn
    rw [hcount, h0]
    rfl
  rw [if_neg h0, or_iff_right h0]
  by_cases hlist : aifList = 0
  · rw [if_pos hlist]
    exact ⟨nofun, fun hfits => absurd hlist hfits.1⟩
  rw [if_neg hlist, and_iff_right hlist, agmGetAifInfoList_entries t hlist h0]
  have harg : num % 2 ^ 32 < 2 ^ 32 := Nat.mod_lt _ (by decide)
  by_cases hzero : heap.high * 2 ^ 32 + num % 2 ^ 32 = 0
  · rw [ipcAgmGetAifInfoList_zero hzero]
    constructor
    · intro heq
      split_ifs at heq
      · exact nomatch heq
      · dsimp only [Option.bind_eq_bind, Option.bind_some] at heq
        rw [List.length_nil, if_pos (Nat.pos_of_ne_zero h0)] at heq
        exact nomatch heq
    · rintro ⟨hle, -⟩
      omega
  · cases hmem : heap.calloc (heap.high * 2 ^ 32 + num % 2 ^ 32) with
    | false =>
        rw [ipcAgmGetAifInfoList_refused hzero hmem]
        constructor
        · intro heq
          have hret : invalid = 0 := congrArg AifAnswer.ret (Option.some.inj heq)
          exact absurd hret (by decide)
        · rintro ⟨hle, hcalloc⟩
          rw [Nat.mod_eq_of_lt (by omega), hcalloc] at hmem
          exact absurd hmem (by decide)
    | true =>
        rw [ipcAgmGetAifInfoList_entries harg hzero hmem]
        dsimp only [Option.bind_eq_bind, Option.bind_some]
        rw [List.length_map, List.length_take]
        constructor
        · intro heq
          split_ifs at heq with hlt
          have hle : num ≤ t.devices.length := (not_lt.mp hlt).trans (min_le_right _ _)
          rw [Nat.mod_eq_of_lt (by omega)] at hmem
          exact ⟨hle, hmem⟩
        · rintro ⟨hle, -⟩
          have hmod : num % 2 ^ 32 = num := Nat.mod_eq_of_lt (by omega)
          rw [hmod, min_eq_left hle, if_neg (lt_irrefl _), List.take_of_length_le]
          · rfl
          · rw [List.length_map, List.length_take]
            exact min_le_left _ _

end Dbus

/-- Over SwBinder, over D-Bus and for the tagged modules, the answer is that of the local function if
and only if the request fits. -/
theorem queries_same_iff (L : SwBinder.Layout) (t : DeviceTable) (s : TagService)
    (heap : Dbus.ServiceHeap) :
    (∀ aifList num, SwBinder.getAifInfoList L t s aifList num =
        some (agmGetAifInfoList t aifList num) ↔ SwBinder.AifListFits t aifList num) ∧
      (∀ aifList num, Dbus.getAifInfoList t heap aifList num =
        some (agmGetAifInfoList t aifList num) ↔ Dbus.AifListFits t heap aifList num) ∧
      ∀ session aif payload size, SwBinder.getTagModuleInfo L t s session aif payload size =
        some (s.get session aif payload size) ↔ SwBinder.TagInfoFits s session aif payload size :=
  ⟨SwBinder.getAifInfoList_iff L t s, Dbus.getAifInfoList_iff t heap,
    SwBinder.getTagModuleInfo_iff L t s⟩

/-- One interface, with the name `SLIM`. -/
def slimTable : DeviceTable where
  devices := [⟨[83, 76, 73, 77], 1, by simp⟩]
  few := by norm_num

/-- A client with room for two entries asks for the one interface there is: neither client has an
answer. -/
theorem queries_same_iff_oneInterface :
    ¬ ((∀ aifList num, SwBinder.getAifInfoList ⟨16, 56, 16, 32⟩ slimTable
          ⟨fun _ _ _ => (0, 0), fun _ _ _ => (0, [])⟩ aifList num =
        some (agmGetAifInfoList slimTable aifList num)) ∨
      ∀ aifList num, Dbus.getAifInfoList slimTable ⟨0, fun _ => true⟩ aifList num =
        some (agmGetAifInfoList slimTable aifList num)) := by
  rintro (h | h)
  · exact absurd (h 4096 2) (by decide +kernel)
  · exact absurd (h 4096 2) (by decide +kernel)

end Agm
