import Agm.SwCodec
import Agm.Lib.BlockArray

/-! # Configurations over HwBinder

The client (`agm_client_wrapper.cpp`) packs a configuration with key-value pairs into a `hidl_vec` of
the HIDL struct, of which only the first element is one: the pairs lie in later elements, where the
service (`agm_server_wrapper.cpp`) looks for them.  A registration for events has its payload in a
vector inside of the first element.

* **Vectors** are blocks of bytes; an access outside of one has no result.  A `hidl_vec` holds
  fewer than 2^32 elements, and `resize` does not come back for more.  What the elements of a new
  vector hold is an argument of the model.
* **Transport.**  The bytes of the elements and of the inner vectors arrive as they are.

`configCodec_exact_iff`: the pairs arrive for every number that a vector has room for; a payload
never arrives, since its vector has no elements. -/

namespace Agm.HwBinder

open Block Codec
open Agm.SwBinder (AgmKeyValue AgmEventRegCfg)

/-! ### Structs -/

/-- `struct agm_tag_config`; `num_tkvs` is the number of pairs. -/
structure AgmTagConfig where
  tag : UInt32
  kv : List AgmKeyValue
deriving DecidableEq

/-- `struct agm_cal_config`; `num_ckvs` is the number of pairs. -/
structure AgmCalConfig where
  kv : List AgmKeyValue
deriving DecidableEq

inductive KeyValueField where
  | key | value
deriving DecidableEq, Repr

inductive TagConfigField where
  | tag | numTkvs
deriving DecidableEq, Repr

inductive CalConfigField where
  | numCkvs
deriving DecidableEq, Repr

inductive EventRegField where
  | moduleInstanceId | eventId | eventConfigPayloadSize | isRegister
deriving DecidableEq, Repr

/-- `AgmKeyValue`. -/
def keyValue : Layout KeyValueField where
  size := 8
  offset
    | .key => 0
    | .value => 4
  width _ := 4
  width_pos _ := by decide
  fits f := by cases f <;> decide
  apart f g := by cases f <;> cases g <;> decide

/-- `AgmTagConfig` of `types.hal`, with an unused vector at offset 8. -/
def tagConfig : Layout TagConfigField where
  size := 24
  offset
    | .tag => 0
    | .numTkvs => 4
  width _ := 4
  width_pos _ := by decide
  fits f := by cases f <;> decide
  apart f g := by cases f <;> cases g <;> decide

/-- `AgmCalConfig` of `types.hal`, with an unused vector at offset 8. -/
def calConfig : Layout CalConfigField where
  size := 24
  offset _ := 0
  width _ := 4
  width_pos _ := by decide
  fits _ := by decide
  apart f g h := absurd (by cases f; cases g; rfl) h

/-- `AgmEventRegCfg` of `types.hal`, with the vector of the payload at offset 16. -/
def eventRegCfg : Layout EventRegField where
  size := 32
  offset
    | .moduleInstanceId => 0
    | .eventId => 4
    | .eventConfigPayloadSize => 8
    | .isRegister => 12
  width
    | .isRegister => 1
    | _ => 4
  width_pos f := by cases f <;> decide
  fits f := by cases f <;> decide
  apart f g := by cases f <;> cases g <;> decide

/-- The sizes of the C structs, without their pairs or payload. -/
def sizeofTagConfig : ℕ := 8
def sizeofCalConfig : ℕ := 4
def sizeofKeyValue : ℕ := 8
def sizeofEventRegCfg : ℕ := 16

/-- What a new vector of so many bytes holds, and the sizes that `calloc` has memory for. -/
structure Memory where
  fresh : ℕ → List UInt8
  length_fresh : ∀ n, (fresh n).length = n
  calloc : ℕ → Bool

/-- `hidl_vec::resize`, for elements of a size. -/
def Memory.resize (M : Memory) (elementSize elements : ℕ) : Option (List UInt8) :=
  if elements < 2 ^ 32 then some (M.fresh (elementSize * elements)) else none

/-! ### The client -/

/-- The place of a pair, in a vector of elements of 24 bytes: `data()` is advanced by the size of the
C struct and that of the pairs before, in elements. -/
def pairAt (sizeofConfig i : ℕ) : ℕ := 24 * (sizeofConfig + sizeofKeyValue * i)

def storePair (sizeofConfig i : ℕ) (p : AgmKeyValue) : Access Unit := do
  keyValue.set (pairAt sizeofConfig i) .key p.key.toNat
  keyValue.set (pairAt sizeofConfig i) .value p.value.toNat

def fillTagConfig (c : AgmTagConfig) : Access Unit := do
  tagConfig.set 0 .tag c.tag.toNat
  tagConfig.set 0 .numTkvs c.kv.length
  visit (storePair sizeofTagConfig) 0 c.kv

/-- The vector that `agm_set_params_with_tag` sends. -/
def agmSetParamsWithTag (M : Memory) (c : AgmTagConfig) : Option (List UInt8) := do
  let vec ← M.resize tagConfig.size (sizeofTagConfig + c.kv.length * sizeofKeyValue)
  (fillTagConfig c vec).map Prod.snd

def fillCalConfig (c : AgmCalConfig) : Access Unit := do
  calConfig.set 0 .numCkvs c.kv.length
  visit (storePair sizeofCalConfig) 0 c.kv

/-- The vector that `agm_session_aif_set_cal` sends; here the size is that of the HIDL struct. -/
def agmSessionAifSetCal (M : Memory) (c : AgmCalConfig) : Option (List UInt8) := do
  let vec ← M.resize calConfig.size (calConfig.size + c.kv.length * sizeofKeyValue)
  (fillCalConfig c vec).map Prod.snd

def fillEventRegCfg (c : AgmEventRegCfg) : Access Unit := do
  eventRegCfg.set 0 .moduleInstanceId c.moduleInstanceId.toNat
  eventRegCfg.set 0 .eventId c.eventId.toNat
  eventRegCfg.set 0 .eventConfigPayloadSize c.payload.length
  eventRegCfg.set 0 .isRegister c.isRegister.toNat

/-- The vectors that `agm_session_register_for_events` sends, the inner one second.  Nothing gives
the inner one its size. -/
def agmSessionRegisterForEvents (M : Memory) (c : AgmEventRegCfg) :
    Option (List UInt8 × List UInt8) := do
  let vec ← M.resize eventRegCfg.size (sizeofEventRegCfg + c.payload.length)
  let (_, vec) ← fillEventRegCfg c vec
  let (_, payload) ← storeBytes 0 c.payload []
  some (vec, payload)

/-! ### The service -/

def loadPair (sizeofConfig i : ℕ) : Access AgmKeyValue := do
  let key ← keyValue.read (pairAt sizeofConfig i) .key
  let value ← keyValue.read (pairAt sizeofConfig i) .value
  pure ⟨UInt32.ofNat key, UInt32.ofNat value⟩

/-- The configuration that `ipc_agm_set_params_with_tag` passes on; `some none` stands for
`-ENOMEM`. -/
def ipcAgmSetParamsWithTag (M : Memory) (vec : List UInt8) : Option (Option AgmTagConfig) := do
  let read : Access (Option AgmTagConfig) := do
    let num ← tagConfig.read 0 .numTkvs
    if M.calloc (sizeofTagConfig + num * sizeofKeyValue) = false then pure none
    else do
      let tag ← tagConfig.read 0 .tag
      let kv ← gather (loadPair sizeofTagConfig) 0 num
      pure (some ⟨UInt32.ofNat tag, kv⟩)
  (read vec).map Prod.fst

/-- The same of `ipc_agm_session_aif_set_cal`. -/
def ipcAgmSessionAifSetCal (M : Memory) (vec : List UInt8) : Option (Option AgmCalConfig) := do
  let read : Access (Option AgmCalConfig) := do
    let num ← calConfig.read 0 .numCkvs
    if M.calloc (sizeofCalConfig + num * sizeofKeyValue) = false then pure none
    else do
      let kv ← gather (loadPair sizeofCalConfig) 0 num
      pure (some ⟨kv⟩)
  (read vec).map Prod.fst

/-- The same of `ipc_agm_session_register_for_events`. -/
def ipcAgmSessionRegisterForEvents (M : Memory) (vecs : List UInt8 × List UInt8) :
    Option (Option AgmEventRegCfg) := do
  let (num, _) ← eventRegCfg.read 0 .eventConfigPayloadSize vecs.1
  if M.calloc (sizeofEventRegCfg + num) = false then some none
  else do
    let (moduleInstanceId, _) ← eventRegCfg.read 0 .moduleInstanceId vecs.1
    let (eventId, _) ← eventRegCfg.read 0 .eventId vecs.1
    let (isRegister, _) ← eventRegCfg.read 0 .isRegister vecs.1
    let (payload, _) ← gather (fun i => load i 1) 0 num vecs.2
    some (some {
      moduleInstanceId := UInt32.ofNat moduleInstanceId
      eventId := UInt32.ofNat eventId
      isRegister := UInt8.ofNat isRegister
      payload := payload.map UInt8.ofNat })

/-! ### What is expected -/

/-- The client fills the vector and the service, if it has memory, has the configuration; neither
leaves the vector. -/
def TagRight (M : Memory) (c : AgmTagConfig) : Prop :=
  ∃ vec, agmSetParamsWithTag M c = some vec ∧ ipcAgmSetParamsWithTag M vec =
    some (if M.calloc (sizeofTagConfig + c.kv.length * sizeofKeyValue) then some c else none)

def CalRight (M : Memory) (c : AgmCalConfig) : Prop :=
  ∃ vec, agmSessionAifSetCal M c = some vec ∧ ipcAgmSessionAifSetCal M vec =
    some (if M.calloc (sizeofCalConfig + c.kv.length * sizeofKeyValue) then some c else none)

def EventRegRight (M : Memory) (c : AgmEventRegCfg) : Prop :=
  ∃ vecs, agmSessionRegisterForEvents M c = some vecs ∧ ipcAgmSessionRegisterForEvents M vecs =
    some (if M.calloc (sizeofEventRegCfg + c.payload.length) then some c else none)

/-! ### Pairs in later elements -/

section pairs
variable {F : Type} {front : Layout F} {sizeofConfig : ℕ}

/-- The first elements of the vector, before the pairs, and the pairs. -/
def pairLayout (front : Layout F) (sizeofConfig : ℕ) (h : front.size ≤ 24 * sizeofConfig) (n : ℕ) :
    Layout (F ⊕ Fin n × KeyValueField) :=
  (front.padded (24 * sizeofConfig) h).append
    (keyValue.array (24 * sizeofKeyValue) n (by decide))

theorem placed_front (h : front.size ≤ 24 * sizeofConfig) (n : ℕ) :
    front.Placed 0 (pairLayout front sizeofConfig h n) Sum.inl :=
  (Layout.Placed.padded front _ h).trans (Layout.Placed.left _ _)

theorem placed_pair (h : front.size ≤ 24 * sizeofConfig) {n : ℕ} (i : Fin n) :
    keyValue.Placed (pairAt sizeofConfig i) (pairLayout front sizeofConfig h n)
      fun f => .inr (i, f) := by
  have hplaced := (@Layout.Placed.item _ keyValue (24 * sizeofKeyValue) _ (by decide) i).trans
    (Layout.Placed.right (front.padded (24 * sizeofConfig) h) _)
  have hat : pairAt sizeofConfig i = 24 * sizeofConfig + 24 * sizeofKeyValue * i := by
    unfold pairAt
    rw [Nat.mul_add, Nat.mul_assoc]
  rw [hat]
  exact hplaced

theorem size_pairLayout (h : front.size ≤ 24 * sizeofConfig) (n : ℕ) :
    (pairLayout front sizeofConfig h n).size = 24 * (sizeofConfig + n * sizeofKeyValue) := by
  show 24 * sizeofConfig + 24 * sizeofKeyValue * n = _
  rw [Nat.mul_add, Nat.mul_assoc, Nat.mul_comm sizeofKeyValue n]

/-- The fields hold the pairs. -/
def HoldsPairs {n : ℕ} (kv : List AgmKeyValue) (k : ℕ) (v : F ⊕ Fin n × KeyValueField → ℕ) : Prop :=
  ∀ (i : Fin n) (h : i < kv.length), (i : ℕ) < k →
    v (.inr (i, .key)) = (kv.get ⟨i, h⟩).key.toNat ∧
      v (.inr (i, .value)) = (kv.get ⟨i, h⟩).value.toNat

theorem cut_word (x : UInt32) : cut 4 x.toNat = x.toNat := by
  rw [cut_natCast]
  exact Nat.mod_eq_of_lt x.toNat_lt

/-- The loop of the client stores the pairs and leaves the first elements alone. -/
theorem storePairs_fills [DecidableEq F] (h : front.size ≤ 24 * sizeofConfig)
    (kv : List AgmKeyValue) {size : ℕ}
    (hsize : (pairLayout front sizeofConfig h kv.length).size ≤ size)
    (v : F ⊕ Fin kv.length × KeyValueField → ℕ) :
    Fills (pairLayout front sizeofConfig h kv.length) size
      (visit (storePair sizeofConfig) 0 kv) v fun _ v' =>
        (∀ f, v' (.inl f) = v (.inl f)) ∧ HoldsPairs kv kv.length v' := by
  have hnone : (∀ f, v (.inl f) = v (.inl f)) ∧ HoldsPairs kv 0 v :=
    ⟨fun _ => rfl, fun i _ hk => absurd hk (Nat.not_lt_zero i)⟩
  refine Fills.visit kv (fun k (v' : F ⊕ Fin kv.length × KeyValueField → ℕ) =>
    (∀ f, v' (.inl f) = v (.inl f)) ∧ HoldsPairs kv k v') ?_ hnone
  rintro i v' hi ⟨hfront, hpairs⟩
  have hplaced := placed_pair h (⟨i, hi⟩ : Fin kv.length)
  unfold storePair
  refine .set hplaced hsize ((Fills.last hplaced hsize).mono ?_)
  rintro _ v'' rfl
  refine ⟨fun f => ?_, fun j hj hlt => ?_⟩
  · rw [Function.update_of_ne Sum.inl_ne_inr, Function.update_of_ne Sum.inl_ne_inr, hfront]
  · rcases Nat.lt_succ_iff_lt_or_eq.mp hlt with hold | hnew
    · -- an earlier pair
      have hne : ∀ f g, (.inr (j, f) : F ⊕ Fin kv.length × KeyValueField) ≠
          .inr (⟨i, hi⟩, g) := by
        intro f g heq
        have hfin := congrArg Prod.fst (Sum.inr.inj heq)
        exact absurd (congrArg Fin.val hfin) (ne_of_lt hold)
      rw [Function.update_of_ne (hne _ _), Function.update_of_ne (hne _ _),
        Function.update_of_ne (hne _ _), Function.update_of_ne (hne _ _)]
      exact hpairs j hj hold
    · obtain rfl : j = ⟨i, hi⟩ := Fin.ext hnew
      have hne : (.inr (⟨i, hi⟩, .key) : F ⊕ Fin kv.length × KeyValueField) ≠
          .inr (⟨i, hi⟩, .value) := by
        intro heq
        have hfield := congrArg Prod.snd (Sum.inr.inj heq)
        cases hfield
      rw [Function.update_of_ne hne, Function.update_self, Function.update_self]
      exact ⟨cut_word _, cut_word _⟩

/-- The loop of the service finds the pairs. -/
theorem loadPairs_eq (h : front.size ≤ 24 * sizeofConfig) (kv : List AgmKeyValue)
    {bytes : List UInt8} (hsize : (pairLayout front sizeofConfig h kv.length).size ≤ bytes.length)
    (hpairs : HoldsPairs kv kv.length ((pairLayout front sizeofConfig h kv.length).get bytes)) :
    gather (loadPair sizeofConfig) 0 kv.length bytes = some (kv, bytes) := by
  have hload : ∀ j, 0 ≤ j → j < 0 + kv.length →
      loadPair sizeofConfig j bytes = some (kv.getD j ⟨0, 0⟩, bytes) := by
    intro j _ hj
    rw [Nat.zero_add] at hj
    obtain ⟨hkey, hvalue⟩ := hpairs ⟨j, hj⟩ hj hj
    have hread := Layout.read_eq (placed_pair h (⟨j, hj⟩ : Fin kv.length)) hsize
    unfold loadPair
    rw [bind_run (hread .key), bind_run (hread .value), hkey, hvalue, UInt32.ofNat_toNat,
      UInt32.ofNat_toNat, List.getD_eq_getElem _ _ hj]
    rfl
  rw [gather_eq hload]
  refine congrArg (fun l => some (l, bytes)) (List.ext_getElem ?_ fun j hj hj' => ?_)
  · rw [List.length_map, List.length_range']
  · rw [List.getElem_map, List.getElem_range', Nat.one_mul, Nat.zero_add,
      List.getD_eq_getElem _ _ hj']

end pairs

/-! ### The three configurations -/

theorem cut_length {n : ℕ} (h : n < 2 ^ 32) : cut 4 (n : ℤ) = n := by
  rw [cut_natCast]
  exact Nat.mod_eq_of_lt h

section codecs
variable {M : Memory}

theorem Memory.resize_eq {elementSize elements : ℕ} (h : elements < 2 ^ 32) :
    M.resize elementSize elements = some (M.fresh (elementSize * elements)) := if_pos h

theorem Memory.resize_none {elementSize elements : ℕ} (h : ¬ elements < 2 ^ 32) :
    M.resize elementSize elements = none := if_neg h

theorem tag_fits : tagConfig.size ≤ 24 * sizeofTagConfig := by decide

def tagLayout (n : ℕ) : Layout (TagConfigField ⊕ Fin n × KeyValueField) :=
  pairLayout tagConfig sizeofTagConfig tag_fits n

theorem fillTagConfig_fills (c : AgmTagConfig) (hn : c.kv.length < 2 ^ 32)
    (v : TagConfigField ⊕ Fin c.kv.length × KeyValueField → ℕ) :
    Fills (tagLayout c.kv.length) (24 * (sizeofTagConfig + c.kv.length * sizeofKeyValue))
      (fillTagConfig c) v fun _ v' => v' (.inl .tag) = c.tag.toNat ∧
        v' (.inl .numTkvs) = c.kv.length ∧ HoldsPairs c.kv c.kv.length v' := by
  have hsize := (size_pairLayout tag_fits c.kv.length).le
  have hplaced := placed_front tag_fits c.kv.length
  unfold fillTagConfig
  refine .set hplaced hsize (.set hplaced hsize ?_)
  refine (storePairs_fills tag_fits c.kv hsize _).mono fun _ v' hv' => ⟨?_, ?_, hv'.2⟩
  · rw [hv'.1, Function.update_of_ne (by simp), Function.update_self]
    exact cut_word c.tag
  · rw [hv'.1, Function.update_self]
    exact cut_length hn

theorem tagRight_iff (c : AgmTagConfig) :
    TagRight M c ↔ sizeofTagConfig + c.kv.length * sizeofKeyValue < 2 ^ 32 := by
  constructor
  · rintro ⟨vec, h, -⟩
    by_contra hbig
    unfold agmSetParamsWithTag at h
    rw [Memory.resize_none hbig] at h
    cases h
  · intro h
    have hn : c.kv.length < 2 ^ 32 := by
      unfold sizeofTagConfig sizeofKeyValue at h
      omega
    obtain ⟨_, vec, hrun, hlen, htag, hnum, hpairs⟩ :=
      fillTagConfig_fills c hn _ _ (M.length_fresh _) rfl
    have hsize : (tagLayout c.kv.length).size ≤ vec.length := by
      rw [hlen]
      exact (size_pairLayout tag_fits c.kv.length).le
    have hread := Layout.read_eq (placed_front tag_fits c.kv.length) hsize
    refine ⟨vec, ?_, ?_⟩
    · unfold agmSetParamsWithTag
      rw [Memory.resize_eq h]
      exact congrArg (Option.map Prod.snd) hrun
    · have hload := loadPairs_eq tag_fits c.kv hsize hpairs
      have hnum' : (pairLayout tagConfig sizeofTagConfig tag_fits c.kv.length).get vec
          (.inl .numTkvs) = c.kv.length := hnum
      have htag' : (pairLayout tagConfig sizeofTagConfig tag_fits c.kv.length).get vec
          (.inl .tag) = c.tag.toNat := htag
      unfold ipcAgmSetParamsWithTag
      dsimp only
      rw [bind_run (hread .numTkvs), hnum']
      cases hmem : M.calloc (sizeofTagConfig + c.kv.length * sizeofKeyValue) with
      | false => rfl
      | true =>
          rw [if_neg (by decide), bind_run (hread .tag), bind_run hload, htag', UInt32.ofNat_toNat]
          rfl

theorem cal_fits : calConfig.size ≤ 24 * sizeofCalConfig := by decide

def calLayout (n : ℕ) : Layout (CalConfigField ⊕ Fin n × KeyValueField) :=
  pairLayout calConfig sizeofCalConfig cal_fits n

theorem size_calLayout_le (n : ℕ) :
    (calLayout n).size ≤ calConfig.size * (calConfig.size + n * sizeofKeyValue) := by
  refine (size_pairLayout cal_fits n).trans_le (Nat.mul_le_mul_left 24 ?_)
  exact Nat.add_le_add_right (by decide) _

theorem fillCalConfig_fills (c : AgmCalConfig) (hn : c.kv.length < 2 ^ 32)
    (v : CalConfigField ⊕ Fin c.kv.length × KeyValueField → ℕ) :
    Fills (calLayout c.kv.length)
      (calConfig.size * (calConfig.size + c.kv.length * sizeofKeyValue))
      (fillCalConfig c) v fun _ v' => v' (.inl .numCkvs) = c.kv.length ∧
        HoldsPairs c.kv c.kv.length v' := by
  have hsize := size_calLayout_le c.kv.length
  unfold fillCalConfig
  refine .set (placed_front cal_fits c.kv.length) hsize ?_
  refine (storePairs_fills cal_fits c.kv hsize _).mono fun _ v' hv' => ⟨?_, hv'.2⟩
  rw [hv'.1, Function.update_self]
  exact cut_length hn

theorem calRight_iff (c : AgmCalConfig) :
    CalRight M c ↔ calConfig.size + c.kv.length * sizeofKeyValue < 2 ^ 32 := by
  constructor
  · rintro ⟨vec, h, -⟩
    by_contra hbig
    unfold agmSessionAifSetCal at h
    rw [Memory.resize_none hbig] at h
    cases h
  · intro h
    have hn : c.kv.length < 2 ^ 32 := by
      unfold sizeofKeyValue at h
      omega
    obtain ⟨_, vec, hrun, hlen, hnum, hpairs⟩ :=
      fillCalConfig_fills c hn _ _ (M.length_fresh _) rfl
    have hsize : (calLayout c.kv.length).size ≤ vec.length := by
      rw [hlen]
      exact size_calLayout_le _
    have hread := Layout.read_eq (placed_front cal_fits c.kv.length) hsize
    refine ⟨vec, ?_, ?_⟩
    · unfold agmSessionAifSetCal
      rw [Memory.resize_eq h]
      exact congrArg (Option.map Prod.snd) hrun
    · have hload := loadPairs_eq cal_fits c.kv hsize hpairs
      have hnum' : (pairLayout calConfig sizeofCalConfig cal_fits c.kv.length).get vec
          (.inl .numCkvs) = c.kv.length := hnum
      unfold ipcAgmSessionAifSetCal
      dsimp only
      rw [bind_run (hread .numCkvs), hnum']
      cases hmem : M.calloc (sizeofCalConfig + c.kv.length * sizeofKeyValue) with
      | false => rfl
      | true =>
          rw [if_neg (by decide), bind_run hload]
          rfl

theorem fillEventRegCfg_fills (c : AgmEventRegCfg) (hn : c.payload.length < 2 ^ 32) {size : ℕ}
    (hsize : eventRegCfg.size ≤ size) (v : EventRegField → ℕ) :
    Fills eventRegCfg size (fillEventRegCfg c) v fun _ v' =>
      v' .moduleInstanceId = c.moduleInstanceId.toNat ∧ v' .eventId = c.eventId.toNat ∧
        v' .eventConfigPayloadSize = c.payload.length ∧ v' .isRegister = c.isRegister.toNat := by
  have hplaced : eventRegCfg.Placed 0 eventRegCfg id := ⟨fun _ => (Nat.zero_add _).symm, fun _ => rfl⟩
  have hbyte : cut 1 (c.isRegister.toNat : ℤ) = c.isRegister.toNat := by
    rw [cut_natCast]
    exact Nat.mod_eq_of_lt c.isRegister.toNat_lt
  unfold fillEventRegCfg
  refine .set hplaced hsize (.set hplaced hsize (.set hplaced hsize ?_))
  refine (Fills.last hplaced hsize).mono ?_
  rintro _ v' rfl
  exact ⟨cut_word _, cut_word _, cut_length hn, hbyte⟩

/-- The vector of the payload has no elements, so that only an empty payload can be sent. -/
theorem eventRegRight_iff (c : AgmEventRegCfg) : EventRegRight M c ↔ c.payload = [] := by
  constructor
  · rintro ⟨vecs, h, -⟩
    by_contra hne
    have hstore : storeBytes 0 c.payload [] = none :=
      storeBytes_eq_none hne (by simpa using List.length_pos_of_ne_nil hne)
    obtain ⟨vec, -, hfill⟩ := Option.bind_eq_some_iff.mp h
    obtain ⟨filled, -, hinner⟩ := Option.bind_eq_some_iff.mp hfill
    obtain ⟨inner, hinner, -⟩ := Option.bind_eq_some_iff.mp hinner
    rw [hstore] at hinner
    cases hinner
  · intro h
    have hlen : c.payload.length = 0 := by rw [h, List.length_nil]
    obtain ⟨_, vec, hrun, hvec, hmodule, hevent, hpayload, hregister⟩ :=
      @fillEventRegCfg_fills c (by omega) (eventRegCfg.size * (sizeofEventRegCfg +
        c.payload.length)) (by rw [hlen]; decide) _ _ (M.length_fresh _) rfl
    have hsize : eventRegCfg.size ≤ vec.length := by
      rw [hvec, hlen]
      decide
    have hread := @Layout.read_eq _ _ eventRegCfg eventRegCfg 0 id
      ⟨fun _ => (Nat.zero_add _).symm, fun _ => rfl⟩ vec hsize
    refine ⟨(vec, []), ?_, ?_⟩
    · unfold agmSessionRegisterForEvents
      rw [Memory.resize_eq (by rw [hlen]; decide)]
      refine (congrArg (Option.bind · _) hrun).trans ?_
      rw [h]
      rfl
    · unfold ipcAgmSessionRegisterForEvents
      refine (congrArg (Option.bind · _) (hread .eventConfigPayloadSize)).trans ?_
      rw [id_eq, hpayload, Option.bind_some]
      dsimp only
      cases hmem : M.calloc (sizeofEventRegCfg + c.payload.length) with
      | false => rfl
      | true =>
          rw [if_neg (by decide)]
          refine (congrArg (Option.bind · _) (hread .moduleInstanceId)).trans ?_
          refine (congrArg (Option.bind · _) (hread .eventId)).trans ?_
          refine (congrArg (Option.bind · _) (hread .isRegister)).trans ?_
          rw [hlen]
          show some (some _) = some (some c)
          rw [id_eq, id_eq, id_eq, hmodule, hevent, hregister, UInt32.ofNat_toNat,
            UInt32.ofNat_toNat, UInt8.ofNat_toNat, List.map_nil, ← h]

end codecs

/-- The service has the configurations of the client, without an access outside of a vector, exactly
if the vectors of a tag or calibration configuration have room for the pairs and a registration
has no payload. -/
theorem configCodec_exact_iff (M : Memory) (tag : AgmTagConfig) (cal : AgmCalConfig)
    (evt : AgmEventRegCfg) :
    (TagRight M tag ↔ sizeofTagConfig + tag.kv.length * sizeofKeyValue < 2 ^ 32) ∧
      (CalRight M cal ↔ calConfig.size + cal.kv.length * sizeofKeyValue < 2 ^ 32) ∧
      (EventRegRight M evt ↔ evt.payload = []) :=
  ⟨tagRight_iff tag, calRight_iff cal, eventRegRight_iff evt⟩

/-- There is always memory, and it is cleared. -/
def ampleMemory : Memory where
  fresh n := List.replicate n 0
  length_fresh _ := List.length_replicate
  calloc _ := true

/-- A registration with a payload of four bytes. -/
theorem configCodec_crashes : ¬ ∀ M evt, EventRegRight M evt := by
  intro h
  have hnil := (eventRegRight_iff ⟨0x4001, 0x8001000, 1, [1, 0, 0, 0]⟩).mp (h ampleMemory _)
  exact absurd hnil (by decide)

end Agm.HwBinder
