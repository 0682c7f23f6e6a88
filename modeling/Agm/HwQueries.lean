import Agm.Queries

/-! # Results over HwBinder

The HIDL client returns the outputs of a call through a callback: the service makes the local call on
memory of its own and hands the callback the code, the bytes and the count.

* `Library` has the local functions of the service.
* `Service.ipcAgmSessionRead` and the others give the arguments of the callback, `agmSessionRead` and
  the others are the functions of the client.  A call that runs over the end of an array, or that
  `hidl_vec` stops, has no answer.
* `Transparent`: the client returns the code of the local call and, when that is 0, its outputs.

`results_transparent_iff`: when each of the seven calls is transparent. -/

namespace Agm.HwBinder

/-- The code on which the client leaves the outputs alone. -/
def noMem : Int32 := Int32.ofInt (- ENOMEM)

/-- The functions that the service calls.  `sessionObjRead` and `sessionObjWrite` are for a handle that
is not `NULL`; an array is given by its size, and what is returned of it is the front that was
written.  A `Bool` tells that there is an array at all. -/
structure Library where
  sessionObjRead : UInt64 → ℕ → Int32 × ℕ × List UInt8
  sessionObjWrite : UInt64 → List UInt8 → ℕ → Int32 × ℕ
  agmGetAifInfoList : Bool → ℕ → Int32 × ℕ × List AifInfo
  agmSessionAifGetTagModuleInfo : UInt32 → UInt32 → Bool → ℕ → Int32 × ℕ × List UInt8
  agmSessionGetParams : UInt32 → List UInt8 → ℕ → Int32 × List UInt8
  agmGetSessionTime : UInt64 → Int32 × UInt64
  agmGetBufferTimestamp : UInt32 → Int32 × UInt64

/-- `agm_session_read` of the library. -/
def Library.agmSessionRead (lib : Library) (hndl : UInt64) (count : ℕ) : Int32 × ℕ × List UInt8 :=
  if hndl = 0 then (invalid, count, []) else lib.sessionObjRead hndl count

/-- `agm_session_write` of the library. -/
def Library.agmSessionWrite (lib : Library) (hndl : UInt64) (buff : List UInt8) (count : ℕ) :
    Int32 × ℕ :=
  if hndl = 0 then (invalid, count) else lib.sessionObjWrite hndl buff count

/-- The service, with the sizes that `calloc` has memory for, and `agm_server_died` of the client. -/
structure Service where
  lib : Library
  calloc : ℕ → Bool := fun _ => true
  died : Bool := false

/-- `AifInfo` of `types.hal`. -/
structure HidlAifInfo where
  aifName : List UInt8
  dir : UInt32
  text : ∀ b ∈ aifName, b ≠ 0

instance : DecidableEq HidlAifInfo := fun a b =>
  decidable_of_iff (a.aifName = b.aifName ∧ a.dir = b.dir) (by cases a; cases b; simp)

/-- An entry that nothing was written to. -/
def clearedAifInfo : AifInfo where
  aifName := []
  dir := 0
  fits := by decide
  text := nofun

def HidlAifInfo.ofAifInfo (a : AifInfo) : HidlAifInfo where
  aifName := a.aifName
  dir := a.dir
  text := a.text

/-- `strlcpy` of the name, and the direction. -/
def HidlAifInfo.toAifInfo (a : HidlAifInfo) : AifInfo where
  aifName := a.aifName.take (AIF_NAME_MAX_LEN - 1)
  dir := a.dir
  fits := Nat.lt_of_le_of_lt (List.length_take_le _ _) (by decide)
  text b hb := a.text b (List.mem_of_mem_take hb)

/-- `hidl_vec::resize` to `n` elements, and a write to the front.  The vector holds fewer than 2^32
elements. -/
def resized {α : Type} (z : α) (n : ℕ) (front : List α) : Option (List α) :=
  if n < 2 ^ 32 then some (front.takeD n z) else none

/-- `n` elements are copied from `src` to an array with room for `room`. -/
def copied {α : Type} (room : ℕ) (src : List α) (n : ℕ) : Option (List α) :=
  if n ≤ room ∧ n ≤ src.length then some (src.take n) else none

/-! ### The service -/

namespace Service

variable (s : Service)

/-- `AGM::ipc_agm_session_read`. -/
def ipcAgmSessionRead (hndl : UInt64) (count : UInt32) : Int32 × List UInt8 × UInt32 :=
  if s.calloc count.toNat = false then (noMem, [], count)
  else
    let r := s.lib.agmSessionRead hndl count.toNat
    (r.1, r.2.2.takeD count.toNat 0, UInt32.ofNat r.2.1)

/-- `AGM::ipc_agm_session_write`. -/
def ipcAgmSessionWrite (hndl : UInt64) (buff : List UInt8) (count : UInt32) :
    Option (Int32 × UInt32) :=
  if s.calloc count.toNat = false then some (noMem, count)
  else
    (copied count.toNat buff count.toNat).map fun buffer =>
      let r := s.lib.agmSessionWrite hndl buffer count.toNat
      (r.1, UInt32.ofNat r.2)

/-- `AGM::ipc_agm_get_aif_info_list`; the code of the local call is overwritten. -/
def ipcAgmGetAifInfoList (num : UInt32) : Option (Int32 × List HidlAifInfo × UInt32) :=
  if num ≠ 0 ∧ s.calloc (aifInfoSize * num.toNat) = false then some (noMem, [], num)
  else
    let r := s.lib.agmGetAifInfoList (num ≠ 0) num.toNat
    (resized (HidlAifInfo.ofAifInfo clearedAifInfo) (aifInfoSize * num.toNat)
      ((r.2.2.takeD num.toNat clearedAifInfo).map HidlAifInfo.ofAifInfo)).map fun list =>
        (0, list, UInt32.ofNat r.2.1)

/-- `AGM::ipc_agm_session_aif_get_tag_module_info`; it copies as much as the local call says. -/
def ipcAgmSessionAifGetTagModuleInfo (session aif size : UInt32) :
    Option (Int32 × List UInt8 × UInt32) :=
  if size ≠ 0 ∧ s.calloc size.toNat = false then some (noMem, [], size)
  else
    let r := s.lib.agmSessionAifGetTagModuleInfo session aif (size ≠ 0) size.toNat
    if size ≠ 0 ∧ size.toNat < r.2.1 then none
    else
      (resized 0 r.2.1 (if size ≠ 0 then r.2.2.takeD size.toNat 0 else [])).map fun payload =>
        (r.1, payload, UInt32.ofNat r.2.1)

/-- `AGM::ipc_agm_session_get_params`. -/
def ipcAgmSessionGetParams (session size : UInt32) (buff : List UInt8) :
    Option (Int32 × List UInt8) :=
  if s.calloc size.toNat = false then some (noMem, [])
  else
    (copied size.toNat buff size.toNat).map fun payload =>
      let r := s.lib.agmSessionGetParams session payload size.toNat
      (r.1, if r.1 = 0 then r.2.takeD size.toNat 0 else List.replicate size.toNat 0)

end Service

/-! ### The client -/

variable (s : Service)

/-- `agm_session_read` of the client, on a buffer of `byteCount` bytes. -/
def agmSessionRead (handle : UInt64) (buf : List UInt8) (byteCount : ℕ) :
    Option (Int32 × ℕ × List UInt8) :=
  if s.died then some (invalid, byteCount, buf)
  else if handle = 0 then some (invalid, byteCount, buf)
  else
    let r := s.ipcAgmSessionRead handle (UInt32.ofNat byteCount)
    if r.1 = noMem then some (r.1, byteCount, buf)
    else (copied byteCount r.2.1 byteCount).map fun bytes => (r.1, r.2.2.toNat, bytes)

/-- `agm_session_write` of the client, with a buffer of `byteCount` bytes. -/
def agmSessionWrite (handle : UInt64) (buf : List UInt8) (byteCount : ℕ) : Option (Int32 × ℕ) :=
  if s.died then some (invalid, byteCount)
  else if handle = 0 then some (invalid, byteCount)
  else do
    let bufHidl ← resized 0 byteCount buf
    let r ← s.ipcAgmSessionWrite handle bufHidl (UInt32.ofNat byteCount)
    pure (if r.1 = noMem then (r.1, byteCount) else (r.1, r.2.toNat))

/-- `agm_get_aif_info_list` of the client, on a list with room for `num` entries. -/
def agmGetAifInfoList (aifList : UInt64) (num : ℕ) : Option (Int32 × ℕ × List AifInfo) :=
  if s.died then some (invalid, num, [])
  else do
    let r ← s.ipcAgmGetAifInfoList (UInt32.ofNat num)
    if r.1 = noMem then pure (r.1, num, [])
    else if aifList = 0 then pure (r.1, r.2.2.toNat, [])
    else (copied num r.2.1 r.2.2.toNat).map fun list =>
      (r.1, r.2.2.toNat, list.map HidlAifInfo.toAifInfo)

/-- `agm_session_aif_get_tag_module_info` of the client, on a payload of `size` bytes. -/
def agmSessionAifGetTagModuleInfo (session aif : UInt32) (payload : UInt64) (size : ℕ) :
    Option (Int32 × ℕ × List UInt8) :=
  if s.died then some (invalid, size, [])
  else do
    let r ← s.ipcAgmSessionAifGetTagModuleInfo session aif (UInt32.ofNat size)
    if r.1 = noMem then pure (r.1, size, [])
    else if payload = 0 then pure (r.1, r.2.2.toNat, [])
    else (copied size r.2.1 r.2.2.toNat).map fun bytes => (r.1, r.2.2.toNat, bytes)

/-- `agm_session_get_params` of the client, on a payload of `size` bytes that are `contents`. -/
def agmSessionGetParams (session : UInt32) (payload : UInt64) (contents : List UInt8) (size : ℕ) :
    Option (Int32 × List UInt8) :=
  if s.died then some (invalid, contents.takeD size 0)
  else if payload = 0 ∧ size ≠ 0 then none
  else do
    let bufHidl ← resized 0 size contents
    let r ← s.ipcAgmSessionGetParams session (UInt32.ofNat size) bufHidl
    if r.1 ≠ 0 ∨ payload = 0 then pure (r.1, contents.takeD size 0)
    else (copied size r.2 size).map fun bytes => (r.1, bytes)

/-- `agm_get_session_time` of the client: the code that the callback stores is not returned. -/
def agmGetSessionTime (handle timestamp : UInt64) : Option (Int32 × UInt64) :=
  if s.died then some (invalid, timestamp)
  else some (invalid, (s.lib.agmGetSessionTime handle).2)

/-- `agm_get_buffer_timestamp` of the client. -/
def agmGetBufferTimestamp (session : UInt32) (timestamp : UInt64) : Option (Int32 × UInt64) :=
  if s.died then some (invalid, timestamp)
  else some (s.lib.agmGetBufferTimestamp session)

/-! ### Transparency -/

/-- The client returns the code of the local call and, when that is 0, its outputs. -/
def Transparent {α : Type} (client : Option (Int32 × α)) (ret : Int32) (out : α) : Prop :=
  ∃ o, client = some (ret, o) ∧ (ret = 0 → o = out)

section
variable {α : Type} {ret r : Int32} {out o : α}

theorem not_transparent_none : ¬ Transparent none ret out := by
  rintro ⟨o, h, -⟩
  exact nomatch h

theorem transparent_some : Transparent (some (r, o)) ret out ↔ r = ret ∧ (ret = 0 → o = out) := by
  constructor
  · rintro ⟨o', h, hout⟩
    obtain ⟨rfl, rfl⟩ := Prod.mk.inj (Option.some.inj h)
    exact ⟨rfl, hout⟩
  · rintro ⟨rfl, hout⟩
    exact ⟨o, rfl, hout⟩

/-- The code of the local call arrives: what is left are the outputs. -/
theorem transparent_self : Transparent (some (ret, o)) ret out ↔ (ret = 0 → o = out) := by
  rw [transparent_some, and_iff_right rfl]

/-- A failure arrives whatever the outputs are. -/
theorem transparent_failed (h : ret ≠ 0) : Transparent (some (ret, o)) ret out :=
  transparent_self.mpr fun h0 => absurd h0 h

end

theorem noMem_ne_zero : noMem ≠ 0 := by decide

theorem invalid_ne_zero : invalid ≠ 0 := by decide

section
variable {α : Type} {z : α} {n room : ℕ} {l : List α}

theorem resized_of_lt (h : n < 2 ^ 32) : resized z n l = some (l.takeD n z) := if_pos h

theorem resized_of_le (h : ¬ n < 2 ^ 32) : resized z n l = none := if_neg h

theorem copied_of_le (hroom : n ≤ room) (hlen : n ≤ l.length) : copied room l n = some (l.take n) :=
  if_pos ⟨hroom, hlen⟩

/-- A vector is copied as a whole. -/
theorem copied_takeD : copied n (l.takeD n z) n = some (l.takeD n z) := by
  rw [copied_of_le le_rfl (List.takeD_length n l z).ge, List.take_of_length_le]
  exact (List.takeD_length n l z).le

/-- What lies below the front of an area is not padded. -/
theorem take_takeD {k : ℕ} (hk : k ≤ n) (hl : k ≤ l.length) : (l.takeD n z).take k = l.take k := by
  induction k generalizing n l with
  | zero => rw [List.take_zero, List.take_zero]
  | succ k ih =>
      obtain ⟨n, rfl⟩ := Nat.exists_eq_add_one_of_ne_zero (Nat.ne_zero_of_lt hk)
      cases l with
      | nil => exact absurd hl (Nat.not_succ_le_zero k)
      | cons a l =>
          rw [List.takeD_succ, List.take_succ_cons, List.take_succ_cons]
          congr 1
          exact ih (Nat.le_of_succ_le_succ hk) (Nat.le_of_succ_le_succ hl)

end

theorem HidlAifInfo.toAifInfo_ofAifInfo (a : AifInfo) : (ofAifInfo a).toAifInfo = a := by
  cases a with
  | mk name dir fits text =>
      unfold ofAifInfo toAifInfo
      dsimp only
      congr 1
      exact List.take_of_length_le (Nat.le_sub_one_of_lt fits)

/-- The entries arrive as the local call has left them. -/
theorem take_map_toAifInfo {z : HidlAifInfo} {n m k : ℕ} (list : List AifInfo) (hk : k ≤ n)
    (hm : k ≤ m) :
    (((((list.takeD n clearedAifInfo).map HidlAifInfo.ofAifInfo).takeD m z).take k).map
      HidlAifInfo.toAifInfo) = (list.takeD n clearedAifInfo).take k := by
  have hlen := List.takeD_length n list clearedAifInfo
  rw [take_takeD hm (by rw [List.length_map, hlen]; exact hk), ← List.map_take, List.map_map]
  conv_rhs => rw [← List.map_id ((list.takeD n clearedAifInfo).take k)]
  exact List.map_congr_left fun a _ => HidlAifInfo.toAifInfo_ofAifInfo a

/-- The size of 32 bits that the service is told. -/
theorem toNat_ofNat_mod (n : ℕ) : (UInt32.ofNat n).toNat = n % 2 ^ 32 := UInt32.toNat_ofNat

/-- The service with the server alive and memory for the local call. -/
def Library.alive (lib : Library) : Service := { lib := lib }

theorem mod_eq_iff {n : ℕ} : n % 2 ^ 32 = n ↔ n < 2 ^ 32 :=
  ⟨fun h => h ▸ Nat.mod_lt n (by decide), Nat.mod_eq_of_lt⟩

section
variable (lib : Library)

/-! ### Read and write -/

/-- When the outcome of a read or a write arrives: the sizes are cut to 32 bits. -/
def CountFits (handle : UInt64) (byteCount : ℕ) (ret : Int32) (count : ℕ) : Prop :=
  handle = 0 ∨ byteCount < 2 ^ 32 ∧ (ret = 0 → count < 2 ^ 32)

/-- What the local read leaves in a buffer of `n` bytes. -/
def Library.readOut (handle : UInt64) (n : ℕ) : ℕ × List UInt8 :=
  ((lib.agmSessionRead handle n).2.1, (lib.agmSessionRead handle n).2.2.takeD n 0)

theorem read_transparent_iff (handle : UInt64) (buf : List UInt8) (byteCount : ℕ) :
    Transparent (agmSessionRead lib.alive handle buf byteCount)
        (lib.agmSessionRead handle (byteCount % 2 ^ 32)).1 (lib.readOut handle (byteCount % 2 ^ 32)) ↔
      (lib.agmSessionRead handle (byteCount % 2 ^ 32)).1 = noMem ∨
        CountFits handle byteCount (lib.agmSessionRead handle (byteCount % 2 ^ 32)).1
          (lib.agmSessionRead handle (byteCount % 2 ^ 32)).2.1 := by
  unfold agmSessionRead CountFits
  rw [if_neg (show ¬ lib.alive.died = true from Bool.false_ne_true)]
  by_cases hhandle : handle = 0
  · rw [if_pos hhandle]
    have hret : (lib.agmSessionRead handle (byteCount % 2 ^ 32)).1 = invalid := by
      unfold Library.agmSessionRead
      rw [if_pos hhandle]
    rw [hret]
    exact ⟨fun _ => .inr (.inl hhandle), fun _ => transparent_failed invalid_ne_zero⟩
  rw [if_neg hhandle, or_iff_right hhandle]
  have hserved : lib.alive.ipcAgmSessionRead handle (UInt32.ofNat byteCount) =
      ((lib.agmSessionRead handle (byteCount % 2 ^ 32)).1,
        (lib.agmSessionRead handle (byteCount % 2 ^ 32)).2.2.takeD (byteCount % 2 ^ 32) 0,
        UInt32.ofNat (lib.agmSessionRead handle (byteCount % 2 ^ 32)).2.1) := by
    unfold Service.ipcAgmSessionRead
    rw [toNat_ofNat_mod]
    rfl
  rw [hserved]
  dsimp only
  by_cases hmem : (lib.agmSessionRead handle (byteCount % 2 ^ 32)).1 = noMem
  · rw [if_pos hmem]
    exact ⟨fun _ => .inl hmem, fun _ => transparent_failed (hmem ▸ noMem_ne_zero)⟩
  rw [if_neg hmem, or_iff_right hmem]
  by_cases hcount : byteCount < 2 ^ 32
  · rw [and_iff_right hcount, Nat.mod_eq_of_lt hcount, copied_takeD, Option.map_some,
      transparent_self, toNat_ofNat_mod]
    refine forall_congr' fun _ => ?_
    unfold Library.readOut
    rw [Prod.mk.injEq, and_iff_left rfl, mod_eq_iff]
  · refine ⟨fun h => ?_, fun h => absurd h.1 hcount⟩
    have hnone : copied byteCount ((lib.agmSessionRead handle (byteCount % 2 ^ 32)).2.2.takeD
        (byteCount % 2 ^ 32) 0) byteCount = none := by
      apply if_neg
      rw [List.takeD_length]
      have := Nat.mod_lt byteCount (show 0 < 2 ^ 32 by decide)
      omega
    rw [hnone] at h
    exact (not_transparent_none h).elim

theorem write_transparent_iff (handle : UInt64) (buf : List UInt8) (byteCount : ℕ) :
    Transparent (agmSessionWrite lib.alive handle buf byteCount)
        (lib.agmSessionWrite handle (buf.takeD byteCount 0) byteCount).1
        (lib.agmSessionWrite handle (buf.takeD byteCount 0) byteCount).2 ↔
      CountFits handle byteCount (lib.agmSessionWrite handle (buf.takeD byteCount 0) byteCount).1
        (lib.agmSessionWrite handle (buf.takeD byteCount 0) byteCount).2 := by
  unfold agmSessionWrite CountFits
  rw [if_neg (show ¬ lib.alive.died = true from Bool.false_ne_true)]
  by_cases hhandle : handle = 0
  · rw [if_pos hhandle]
    have hret : (lib.agmSessionWrite handle (buf.takeD byteCount 0) byteCount).1 = invalid := by
      unfold Library.agmSessionWrite
      rw [if_pos hhandle]
    rw [hret]
    exact ⟨fun _ => .inl hhandle, fun _ => transparent_failed invalid_ne_zero⟩
  rw [if_neg hhandle, or_iff_right hhandle]
  by_cases hcount : byteCount < 2 ^ 32
  · have hserved : lib.alive.ipcAgmSessionWrite handle (buf.takeD byteCount 0)
        (UInt32.ofNat byteCount) =
        some ((lib.agmSessionWrite handle (buf.takeD byteCount 0) byteCount).1,
          UInt32.ofNat (lib.agmSessionWrite handle (buf.takeD byteCount 0) byteCount).2) := by
      unfold Service.ipcAgmSessionWrite
      rw [toNat_ofNat_mod, Nat.mod_eq_of_lt hcount, copied_takeD]
      rfl
    rw [and_iff_right hcount, resized_of_lt hcount]
    dsimp only [Option.bind_eq_bind, Option.bind_some, Option.pure_def]
    rw [hserved, Option.bind_some]
    by_cases hmem : (lib.agmSessionWrite handle (buf.takeD byteCount 0) byteCount).1 = noMem
    · rw [if_pos hmem, transparent_self]
      rw [hmem]
      exact ⟨fun _ h => absurd h noMem_ne_zero, fun _ h => absurd h noMem_ne_zero⟩
    · rw [if_neg hmem, transparent_self, toNat_ofNat_mod, mod_eq_iff]
  · refine ⟨fun h => ?_, fun h => absurd h.1 hcount⟩
    rw [resized_of_le hcount] at h
    exact (not_transparent_none h).elim

/-! ### The list of the interfaces -/

/-- What the local call leaves of the list in the service, as far as a caller looks at it. -/
def Library.aifListOut (aifList : UInt64) (n : ℕ) : ℕ × List AifInfo :=
  let r := lib.agmGetAifInfoList (n ≠ 0) n
  (r.2.1, if aifList = 0 then [] else (r.2.2.takeD n clearedAifInfo).take r.2.1)

/-- When the outcome of the local call arrives: the service answers 0 whatever the code is, and the
vector has `aifInfoSize` elements for every entry. -/
def AifListFits (aifList : UInt64) (n : ℕ) (ret : Int32) (count : ℕ) : Prop :=
  ret = 0 ∧ aifInfoSize * n < 2 ^ 32 ∧ count < 2 ^ 32 ∧ (aifList ≠ 0 → count ≤ n)

theorem ofNat_ne_zero_iff {n : ℕ} : UInt32.ofNat n ≠ 0 ↔ n % 2 ^ 32 ≠ 0 := by
  rw [ne_eq, ne_eq, ← UInt32.toNat_inj, toNat_ofNat_mod]
  rfl

theorem ipcAgmGetAifInfoList_alive (num : ℕ) :
    lib.alive.ipcAgmGetAifInfoList (UInt32.ofNat num) =
      (resized (HidlAifInfo.ofAifInfo clearedAifInfo) (aifInfoSize * (num % 2 ^ 32))
        (((lib.agmGetAifInfoList (num % 2 ^ 32 ≠ 0) (num % 2 ^ 32)).2.2.takeD (num % 2 ^ 32)
          clearedAifInfo).map HidlAifInfo.ofAifInfo)).map fun list =>
        (0, list, UInt32.ofNat (lib.agmGetAifInfoList (num % 2 ^ 32 ≠ 0) (num % 2 ^ 32)).2.1) := by
  unfold Service.ipcAgmGetAifInfoList
  rw [if_neg fun h => Bool.noConfusion h.2, toNat_ofNat_mod]
  simp only [ofNat_ne_zero_iff]
  rfl

theorem aifList_transparent_iff (aifList : UInt64) (num : ℕ) :
    Transparent (agmGetAifInfoList lib.alive aifList num)
        (lib.agmGetAifInfoList (num % 2 ^ 32 ≠ 0) (num % 2 ^ 32)).1
        (lib.aifListOut aifList (num % 2 ^ 32)) ↔
      AifListFits aifList (num % 2 ^ 32) (lib.agmGetAifInfoList (num % 2 ^ 32 ≠ 0) (num % 2 ^ 32)).1
        (lib.agmGetAifInfoList (num % 2 ^ 32 ≠ 0) (num % 2 ^ 32)).2.1 := by
  have hle : num % 2 ^ 32 ≤ num := Nat.mod_le _ _
  unfold agmGetAifInfoList AifListFits Library.aifListOut
  rw [if_neg (show ¬ lib.alive.died = true from Bool.false_ne_true), ipcAgmGetAifInfoList_alive]
  generalize num % 2 ^ 32 = n at hle ⊢
  generalize lib.agmGetAifInfoList (n ≠ 0) n = r
  obtain ⟨ret, count, list⟩ := r
  dsimp only [Option.bind_eq_bind, Option.pure_def]
  by_cases hsize : aifInfoSize * n < 2 ^ 32
  · rw [resized_of_lt hsize, Option.map_some, Option.bind_some]
    dsimp only
    rw [if_neg noMem_ne_zero.symm, toNat_ofNat_mod]
    by_cases hlist : aifList = 0
    · simp only [if_pos hlist]
      rw [transparent_some, Prod.mk.injEq, and_iff_left rfl, mod_eq_iff]
      constructor
      · rintro ⟨rfl, hcount⟩
        exact ⟨rfl, hsize, hcount rfl, fun h => absurd hlist h⟩
      · rintro ⟨rfl, -, hcount, -⟩
        exact ⟨rfl, fun _ => hcount⟩
    · simp only [if_neg hlist]
      constructor
      · intro h
        obtain ⟨o, h, hout⟩ := h
        obtain ⟨entries, hentries, hanswer⟩ := Option.map_eq_some_iff.mp h
        obtain ⟨rfl, rfl⟩ := Prod.mk.inj hanswer
        obtain ⟨hcount, hmap⟩ := Prod.mk.inj (hout rfl)
        have hlt := mod_eq_iff.mp hcount
        refine ⟨rfl, hsize, hlt, fun _ => ?_⟩
        unfold copied at hentries
        split_ifs at hentries with hle'
        have hlen := congrArg List.length hmap
        have hvec := hle'.2
        rw [List.takeD_length, hcount] at hvec
        rw [List.length_map, ← Option.some.inj hentries] at hlen
        simp only [List.length_take, List.takeD_length] at hlen
        rw [hcount, min_eq_left hvec] at hlen
        exact min_eq_left_iff.mp hlen.symm
      · rintro ⟨rfl, -, hcount, hle'⟩
        have hn : count ≤ n := hle' hlist
        have hm : count ≤ aifInfoSize * n := hn.trans (Nat.le_mul_of_pos_left n (by decide))
        rw [Nat.mod_eq_of_lt hcount,
          copied_of_le (hn.trans hle) (by rw [List.takeD_length]; exact hm), Option.map_some,
          transparent_self, take_map_toAifInfo list hn hm]
        exact fun _ => rfl
  · refine ⟨fun h => ?_, fun h => absurd h.2.1 hsize⟩
    rw [resized_of_le hsize] at h
    exact (not_transparent_none h).elim

/-! ### The tagged modules -/

/-- What the local call leaves of the payload in the service, as far as a caller looks at it. -/
def Library.tagInfoOut (session aif : UInt32) (payload : UInt64) (n : ℕ) : ℕ × List UInt8 :=
  let r := lib.agmSessionAifGetTagModuleInfo session aif (n ≠ 0) n
  (r.2.1, if payload = 0 ∨ n = 0 then [] else (r.2.2.takeD n 0).take r.2.1)

/-- When the outcome of the local call, which is asked for `size % 2 ^ 32` bytes, arrives: neither the
service nor the client has more bytes than it has asked for. -/
def TagInfoFits (payload : UInt64) (size : ℕ) (ret : Int32) (count : ℕ) : Prop :=
  count < 2 ^ 32 ∧ (size % 2 ^ 32 ≠ 0 → count ≤ size % 2 ^ 32) ∧
    (ret = noMem ∨ payload = 0 ∨
      count ≤ size ∧ (ret = 0 → size % 2 ^ 32 ≠ 0 ∨ count = 0))

theorem ipcAgmSessionAifGetTagModuleInfo_alive (session aif : UInt32) (size : ℕ) :
    lib.alive.ipcAgmSessionAifGetTagModuleInfo session aif (UInt32.ofNat size) =
      let r := lib.agmSessionAifGetTagModuleInfo session aif (size % 2 ^ 32 ≠ 0) (size % 2 ^ 32)
      if size % 2 ^ 32 ≠ 0 ∧ size % 2 ^ 32 < r.2.1 then none
      else
        (resized 0 r.2.1 (if size % 2 ^ 32 ≠ 0 then r.2.2.takeD (size % 2 ^ 32) 0 else [])).map
          fun payload => (r.1, payload, UInt32.ofNat r.2.1) := by
  unfold Service.ipcAgmSessionAifGetTagModuleInfo
  rw [if_neg fun h => Bool.noConfusion h.2, toNat_ofNat_mod]
  simp only [ofNat_ne_zero_iff]
  rfl

theorem tagInfo_transparent_iff (session aif : UInt32) (payload : UInt64) (size : ℕ) :
    Transparent (agmSessionAifGetTagModuleInfo lib.alive session aif payload size)
        (lib.agmSessionAifGetTagModuleInfo session aif (size % 2 ^ 32 ≠ 0) (size % 2 ^ 32)).1
        (lib.tagInfoOut session aif payload (size % 2 ^ 32)) ↔
      TagInfoFits payload size
        (lib.agmSessionAifGetTagModuleInfo session aif (size % 2 ^ 32 ≠ 0) (size % 2 ^ 32)).1
        (lib.agmSessionAifGetTagModuleInfo session aif (size % 2 ^ 32 ≠ 0) (size % 2 ^ 32)).2.1 := by
  unfold agmSessionAifGetTagModuleInfo TagInfoFits Library.tagInfoOut
  rw [if_neg (show ¬ lib.alive.died = true from Bool.false_ne_true),
    ipcAgmSessionAifGetTagModuleInfo_alive]
  generalize size % 2 ^ 32 = n
  generalize lib.agmSessionAifGetTagModuleInfo session aif (n ≠ 0) n = r
  obtain ⟨ret, count, bytes⟩ := r
  dsimp only [Option.bind_eq_bind, Option.pure_def]
  by_cases hover : n ≠ 0 ∧ n < count
  · refine ⟨fun h => ?_, fun h => absurd (h.2.1 hover.1) (Nat.not_le.mpr hover.2)⟩
    rw [if_pos hover] at h
    exact (not_transparent_none h).elim
  have hle : n ≠ 0 → count ≤ n := fun hn => Nat.not_lt.mp fun hlt => hover ⟨hn, hlt⟩
  rw [if_neg hover, and_iff_right hle]
  by_cases hcount : count < 2 ^ 32
  · rw [and_iff_right hcount, resized_of_lt hcount, Option.map_some, Option.bind_some]
    dsimp only
    rw [toNat_ofNat_mod, Nat.mod_eq_of_lt hcount]
    by_cases hmem : ret = noMem
    · rw [if_pos hmem]
      exact ⟨fun _ => .inl hmem, fun _ => transparent_failed (hmem ▸ noMem_ne_zero)⟩
    rw [if_neg hmem, or_iff_right hmem]
    by_cases hpayload : payload = 0
    · rw [if_pos hpayload, if_pos (.inl hpayload), transparent_self]
      exact ⟨fun _ => .inl hpayload, fun _ _ => rfl⟩
    rw [if_neg hpayload]
    refine Iff.trans ?_ (or_iff_right hpayload).symm
    by_cases hroom : count ≤ size
    · rw [and_iff_right hroom, copied_of_le hroom (List.takeD_length _ _ _).ge, Option.map_some,
        transparent_self]
      refine forall_congr' fun _ => ?_
      rw [Prod.mk.injEq, and_iff_right rfl]
      by_cases hn : n = 0
      · rw [if_neg (not_not.mpr hn), if_pos (show payload = 0 ∨ n = 0 from .inr hn),
          ← List.length_eq_zero_iff, List.length_take, List.takeD_length, min_self]
        exact ⟨.inr, fun h => h.resolve_left (not_not.mpr hn)⟩
      · have hlen : count ≤ (bytes.takeD n 0).length := by
          rw [List.takeD_length]
          exact hle hn
        rw [if_pos hn, if_neg (show ¬ (payload = 0 ∨ n = 0) from not_or.mpr ⟨hpayload, hn⟩),
          List.takeD_eq_take 0 hlen, List.take_take, min_self]
        exact ⟨fun _ => .inl hn, fun _ => rfl⟩
    · refine ⟨fun h => ?_, fun h => absurd h.1 hroom⟩
      have hnone : copied size ((if n ≠ 0 then bytes.takeD n 0 else []).takeD count 0) count =
          none := if_neg fun h => hroom h.1
      rw [hnone] at h
      exact (not_transparent_none h).elim
  · refine ⟨fun h => ?_, fun h => absurd h.1 hcount⟩
    rw [resized_of_le hcount] at h
    exact (not_transparent_none h).elim

/-! ### The parameters -/

theorem params_transparent_iff (session : UInt32) (payload : UInt64) (contents : List UInt8)
    (size : ℕ) :
    Transparent (agmSessionGetParams lib.alive session payload contents size)
        (lib.agmSessionGetParams session (contents.takeD size 0) size).1
        ((lib.agmSessionGetParams session (contents.takeD size 0) size).2.takeD size 0) ↔
      size < 2 ^ 32 ∧ (payload = 0 → size = 0) := by
  unfold agmSessionGetParams
  rw [if_neg (show ¬ lib.alive.died = true from Bool.false_ne_true)]
  by_cases hnull : payload = 0 ∧ size ≠ 0
  · refine ⟨fun h => ?_, fun h => absurd (h.2 hnull.1) hnull.2⟩
    rw [if_pos hnull] at h
    exact (not_transparent_none h).elim
  have hzero : payload = 0 → size = 0 := fun hp => not_not.mp fun hne => hnull ⟨hp, hne⟩
  rw [if_neg hnull, and_iff_left hzero]
  by_cases hsize : size < 2 ^ 32
  · refine ⟨fun _ => hsize, fun _ => ?_⟩
    have hserved : lib.alive.ipcAgmSessionGetParams session (UInt32.ofNat size)
        (contents.takeD size 0) =
        some ((lib.agmSessionGetParams session (contents.takeD size 0) size).1,
          if (lib.agmSessionGetParams session (contents.takeD size 0) size).1 = 0 then
            (lib.agmSessionGetParams session (contents.takeD size 0) size).2.takeD size 0
          else List.replicate size 0) := by
      unfold Service.ipcAgmSessionGetParams
      rw [toNat_ofNat_mod, Nat.mod_eq_of_lt hsize, copied_takeD]
      rfl
    rw [resized_of_lt hsize]
    dsimp only [Option.bind_eq_bind, Option.bind_some, Option.pure_def]
    rw [hserved, Option.bind_some]
    generalize lib.agmSessionGetParams session (contents.takeD size 0) size = r
    by_cases hret : r.1 = 0
    · dsimp only
      rw [if_pos hret]
      by_cases hp : payload = 0
      · rw [if_pos (.inr hp), transparent_self, hzero hp]
        exact fun _ => rfl
      · rw [if_neg fun h => h.elim (absurd hret) hp, copied_takeD, Option.map_some, transparent_self]
        exact fun _ => rfl
    · dsimp only
      rw [if_pos (.inl hret)]
      exact transparent_failed hret
  · refine ⟨fun h => ?_, fun h => absurd h hsize⟩
    rw [resized_of_le hsize] at h
    exact (not_transparent_none h).elim

/-! ### The times -/

theorem sessionTime_transparent_iff (handle timestamp : UInt64) :
    Transparent (agmGetSessionTime lib.alive handle timestamp) (lib.agmGetSessionTime handle).1
        (lib.agmGetSessionTime handle).2 ↔
      (lib.agmGetSessionTime handle).1 = invalid := by
  unfold agmGetSessionTime
  rw [if_neg (show ¬ lib.alive.died = true from Bool.false_ne_true), transparent_some]
  exact ⟨fun h => h.1.symm, fun h => ⟨h.symm, fun _ => rfl⟩⟩

theorem bufferTimestamp_transparent (session : UInt32) (timestamp : UInt64) :
    Transparent (agmGetBufferTimestamp lib.alive session timestamp)
      (lib.agmGetBufferTimestamp session).1 (lib.agmGetBufferTimestamp session).2 :=
  ⟨_, rfl, fun _ => rfl⟩

/-- The seven calls, and when the client returns the code and the outputs of the local call: sizes and
counts of 32 bits, no more bytes or entries than there is room for, an interface list that does not
fail, and a session time that fails with the code that the client returns anyway. -/
theorem results_transparent_iff :
    (∀ handle buf byteCount,
      Transparent (agmSessionRead lib.alive handle buf byteCount)
          (lib.agmSessionRead handle (byteCount % 2 ^ 32)).1
          (lib.readOut handle (byteCount % 2 ^ 32)) ↔
        (lib.agmSessionRead handle (byteCount % 2 ^ 32)).1 = noMem ∨
          CountFits handle byteCount (lib.agmSessionRead handle (byteCount % 2 ^ 32)).1
            (lib.agmSessionRead handle (byteCount % 2 ^ 32)).2.1) ∧
    (∀ handle buf byteCount,
      Transparent (agmSessionWrite lib.alive handle buf byteCount)
          (lib.agmSessionWrite handle (buf.takeD byteCount 0) byteCount).1
          (lib.agmSessionWrite handle (buf.takeD byteCount 0) byteCount).2 ↔
        CountFits handle byteCount (lib.agmSessionWrite handle (buf.takeD byteCount 0) byteCount).1
          (lib.agmSessionWrite handle (buf.takeD byteCount 0) byteCount).2) ∧
    (∀ aifList num,
      Transparent (agmGetAifInfoList lib.alive aifList num)
          (lib.agmGetAifInfoList (num % 2 ^ 32 ≠ 0) (num % 2 ^ 32)).1
          (lib.aifListOut aifList (num % 2 ^ 32)) ↔
        AifListFits aifList (num % 2 ^ 32)
          (lib.agmGetAifInfoList (num % 2 ^ 32 ≠ 0) (num % 2 ^ 32)).1
          (lib.agmGetAifInfoList (num % 2 ^ 32 ≠ 0) (num % 2 ^ 32)).2.1) ∧
    (∀ session aif payload size,
      Transparent (agmSessionAifGetTagModuleInfo lib.alive session aif payload size)
          (lib.agmSessionAifGetTagModuleInfo session aif (size % 2 ^ 32 ≠ 0) (size % 2 ^ 32)).1
          (lib.tagInfoOut session aif payload (size % 2 ^ 32)) ↔
        TagInfoFits payload size
          (lib.agmSessionAifGetTagModuleInfo session aif (size % 2 ^ 32 ≠ 0) (size % 2 ^ 32)).1
          (lib.agmSessionAifGetTagModuleInfo session aif (size % 2 ^ 32 ≠ 0) (size % 2 ^ 32)).2.1) ∧
    (∀ session payload contents size,
      Transparent (agmSessionGetParams lib.alive session payload contents size)
          (lib.agmSessionGetParams session (contents.takeD size 0) size).1
          ((lib.agmSessionGetParams session (contents.takeD size 0) size).2.takeD size 0) ↔
        size < 2 ^ 32 ∧ (payload = 0 → size = 0)) ∧
    (∀ handle timestamp,
      Transparent (agmGetSessionTime lib.alive handle timestamp) (lib.agmGetSessionTime handle).1
          (lib.agmGetSessionTime handle).2 ↔
        (lib.agmGetSessionTime handle).1 = invalid) ∧
    ∀ session timestamp,
      Transparent (agmGetBufferTimestamp lib.alive session timestamp)
        (lib.agmGetBufferTimestamp session).1 (lib.agmGetBufferTimestamp session).2 :=
  ⟨read_transparent_iff lib, write_transparent_iff lib, aifList_transparent_iff lib,
    tagInfo_transparent_iff lib, params_transparent_iff lib, sessionTime_transparent_iff lib,
    bufferTimestamp_transparent lib⟩

end

/-- A session that answers 5 microseconds: the client fails. -/
theorem results_transparent_iff_sessionTime :
    ¬ ∀ (lib : Library) (handle timestamp : UInt64),
      Transparent (agmGetSessionTime lib.alive handle timestamp) (lib.agmGetSessionTime handle).1
        (lib.agmGetSessionTime handle).2 := by
  intro h
  let lib : Library :=
    { sessionObjRead := fun _ n => (0, n, [])
      sessionObjWrite := fun _ _ n => (0, n)
      agmGetAifInfoList := fun _ _ => (0, 0, [])
      agmSessionAifGetTagModuleInfo := fun _ _ _ _ => (0, 0, [])
      agmSessionGetParams := fun _ bs _ => (0, bs)
      agmGetSessionTime := fun _ => (0, 5)
      agmGetBufferTimestamp := fun _ => (0, 5) }
  obtain ⟨o, hclient, -⟩ := h lib 4096 0
  have hret : invalid = 0 := congrArg Prod.fst (Option.some.inj hclient)
  exact absurd hret (by decide)

end Agm.HwBinder
