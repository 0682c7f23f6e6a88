import Agm.MixerControls
import Agm.Lib.Moves

/-! # Selecting items of the mixer (`agm_mixer_plugin.c`)

The enumerated controls of a PCM take an item: a backend, or a PCM for `loopback`; item 0 is `ZERO`.
`connect`, `disconnect`, `loopback` and `echoReference` use the item at once.  `control` stores it in
`pcm_mtd_ctl`, and `metadata`, `setParam`, `setParamTag` and `setCalibration` use what is stored.

* **Array accesses** are checked: one outside is a fault.
* **The API of AGM** is a record of the calls that are made; what a call returns is an argument of
  the put.
* **Items** are 32-bit values; stored in `pcm_mtd_ctl` they are read as an `int`.

`mixerPuts_right`: along which runs of puts every access stays inside and every call reaches what the
selected item names. -/

namespace Agm

open Prog

/-! ### The state -/

/-- The calls of the AGM API. -/
inductive AgmCall where
  | aifConnect (pcm be : ℤ) (state : Bool)
  | setMetadata (pcm : ℤ) (payload : Payload)
  | aifSetMetadata (pcm be : ℤ) (payload : Payload)
  | aifSetCal (pcm be : ℤ) (payload : Payload)
  | setParams (pcm : ℤ) (payload : Payload)
  | aifSetParams (pcm be : ℤ) (payload : Payload)
  | setParamsWithTag (pcm be : ℤ) (payload : Payload)
  | setLoopback (pcm playback : ℤ) (state : Bool)
  | setEcRef (pcm be : ℤ) (state : Bool)
  | getParams (pcm : ℤ) (buf : Payload)
deriving DecidableEq, Repr

structure MixerState where
  priv : AmpPriv
  calls : List AgmCall := []

abbrev MixerM := Prog MixerState Crash

def getAdi (r : AdiRef) : MixerM AmpDevInfo := Prog.gets fun s => s.priv.devs r

def AmpPriv.setAdi (priv : AmpPriv) (r : AdiRef) (adi : AmpDevInfo) : AmpPriv where
  devs := Function.update priv.devs r adi

/-- Call the API, which returns `agmRet`. -/
def agm (c : AgmCall) (agmRet : ℤ) : MixerM ℤ := do
  Prog.modify fun s => { s with calls := s.calls ++ [c] }
  pure agmRet

/-- Read an entry of an array. -/
def readArr (arr : List ℤ) (i : ℤ) : MixerM ℤ :=
  if 0 ≤ i ∧ i < arr.length then pure (arr.getD i.toNat 0) else Prog.fault .outOfBounds

/-- What a put is given, and what the API returns to it. -/
structure PutValue where
  item : BitVec 32 := 0
  payload : Payload := []
  agmRet : ℤ := 0
deriving DecidableEq, Repr

/-- `-EALREADY` counts as success. -/
def alreadyDone (ret : ℤ) : ℤ := if ret = -EALREADY then 0 else ret

/-! ### The put functions -/

/-- `amp_get_be_adi`. -/
def ampGetBeAdi : Direction → Option AdiRef
  | .rx => some .rxBe
  | .tx => some .txBe
  | .unset => none

/-- The loop of `amp_pcm_get_control_value`. -/
def ampFindMtdIdx (pcmIdx : ℤ) (pcmAdi : AmpDevInfo) : List ℕ → MixerM (Option ℕ)
  | [] => pure none
  | mtdIdx :: rest => do
      let idx ← readArr pcmAdi.idxArr mtdIdx
      if pcmIdx = idx then pure (some mtdIdx) else ampFindMtdIdx pcmIdx pcmAdi rest

/-- `amp_pcm_get_control_value`. -/
def ampPcmGetControlValue (pcmIdx : ℤ) (pcm : AdiRef) : MixerM ℤ := do
  let pcmAdi ← getAdi pcm
  let mtdIdx ← ampFindMtdIdx pcmIdx pcmAdi (List.range' 1 (pcmAdi.count - 1))
  match mtdIdx with
  | none => pure (-EINVAL)
  | some mtdIdx => readArr pcmAdi.pcmMtdCtl mtdIdx

/-- `amp_pcm_aif_connect_put`. -/
def ampPcmAifConnectPut (ctl : SndControl) (ev : PutValue) : MixerM ℤ := do
  let pcmAdi ← getAdi ctl.privateData
  match ampGetBeAdi pcmAdi.dir with
  | none => pure (-EINVAL)
  | some be =>
      if ev.item = 0 then pure 0
      else do
        let state := !strstr ctl.name "disconnect".toList
        let beAdi ← getAdi be
        let beIdx ← readArr beAdi.idxArr ev.item.toNat
        let _ ← agm (.aifConnect ctl.privateValue beIdx state) ev.agmRet
        pure 0

/-- `amp_pcm_mtd_control_put`. -/
def ampPcmMtdControlPut (ctl : SndControl) (ev : PutValue) : MixerM ℤ := do
  let pcmAdi ← getAdi ctl.privateData
  if 0 ≤ ctl.privateValue ∧ ctl.privateValue < pcmAdi.pcmMtdCtl.length then do
    Prog.modify fun s => { s with
      priv := s.priv.setAdi ctl.privateData
        { pcmAdi with pcmMtdCtl := pcmAdi.pcmMtdCtl.set ctl.privateValue.toNat ev.item.toInt } }
    pure 0
  else Prog.fault .outOfBounds

/-- The entry of the backend table of the PCM's direction. -/
def ampReadBe (dir : Direction) (pcmControl : ℤ) : MixerM ℤ :=
  match ampGetBeAdi dir with
  | none => Prog.fault .nullDeref
  | some be => do
      let beAdi ← getAdi be
      readArr beAdi.idxArr pcmControl

/-- `amp_pcm_metadata_put`. -/
def ampPcmMetadataPut (ctl : SndControl) (ev : PutValue) : MixerM ℤ := do
  let pcmAdi ← getAdi ctl.privateData
  let pcmControl ← ampPcmGetControlValue ctl.privateValue ctl.privateData
  if pcmControl < 0 then pure pcmControl
  else if pcmControl = 0 then do
    let ret ← agm (.setMetadata ctl.privateValue ev.payload) ev.agmRet
    pure (alreadyDone ret)
  else do
    let beIdx ← ampReadBe pcmAdi.dir pcmControl
    let ret ← agm (.aifSetMetadata ctl.privateValue beIdx ev.payload) ev.agmRet
    pure (alreadyDone ret)

/-- `amp_pcm_calibration_put`. -/
def ampPcmCalibrationPut (ctl : SndControl) (ev : PutValue) : MixerM ℤ := do
  let pcmAdi ← getAdi ctl.privateData
  let pcmControl ← ampPcmGetControlValue ctl.privateValue ctl.privateData
  if pcmControl < 0 then pure pcmControl
  else
    match ampGetBeAdi pcmAdi.dir with
    | none => pure (-EINVAL)
    | some be => do
        let beAdi ← getAdi be
        let beIdx ← readArr beAdi.idxArr pcmControl
        agm (.aifSetCal ctl.privateValue beIdx ev.payload) ev.agmRet

/-- `amp_pcm_set_param_put`. -/
def ampPcmSetParamPut (ctl : SndControl) (ev : PutValue) : MixerM ℤ := do
  let isParamTag := strstr ctl.name "setParamTag".toList
  let pcmAdi ← getAdi ctl.privateData
  let pcmControl ← ampPcmGetControlValue ctl.privateValue ctl.privateData
  if pcmControl < 0 then pure pcmControl
  else if pcmControl = 0 then
    if isParamTag then pure (-EINVAL)
    else agm (.setParams ctl.privateValue ev.payload) ev.agmRet
  else do
    let beIdx ← ampReadBe pcmAdi.dir pcmControl
    let ret ← agm (if isParamTag then .setParamsWithTag ctl.privateValue beIdx ev.payload
      else .aifSetParams ctl.privateValue beIdx ev.payload) ev.agmRet
    pure (alreadyDone ret)

/-- `amp_pcm_loopback_put`. -/
def ampPcmLoopbackPut (ctl : SndControl) (ev : PutValue) : MixerM ℤ := do
  let pcmRxAdi ← getAdi .rxPcm
  let rxPcmIdx ← (if ev.item = 0 then pure 0 else readArr pcmRxAdi.idxArr ev.item.toNat)
  let _ ← agm (.setLoopback ctl.privateValue rxPcmIdx (decide (ev.item ≠ 0))) ev.agmRet
  pure 0

/-- `amp_pcm_echoref_put`. -/
def ampPcmEchorefPut (ctl : SndControl) (ev : PutValue) : MixerM ℤ := do
  let beAdi ← getAdi .rxBe
  let beIdx ← readArr beAdi.idxArr ev.item.toNat
  let _ ← agm (.setEcRef ctl.privateValue beIdx (decide (ev.item ≠ 0))) ev.agmRet
  pure 0

/-! ### Puts of the controls -/

/-- The controls, by the last part of their names. -/
inductive PutKind where
  | connect | disconnect | control | metadata | setParam | setParamTag | setCalibration
  | loopback | echoReference
deriving DecidableEq, Repr

/-- The table whose names are the items of a PCM. -/
def PutKind.items (k : PutKind) (pcm : AdiRef) : AdiRef :=
  match k with
  | .loopback => .rxPcm
  | .echoReference => .rxBe
  | _ => if pcm = .rxPcm then .rxBe else .txBe

/-- The control of a PCM. -/
def PutKind.ctl (k : PutKind) (pcm : AdiRef) (name : CStr) (i : ℕ) (idx : ℤ) : SndControl :=
  match k with
  | .connect => ampCreateConnectCtl (k.items pcm) name idx pcm
  | .disconnect => ampCreateDisconnectCtl (k.items pcm) name idx pcm
  | .control => ampCreateMtdControlCtl (k.items pcm) name i pcm
  | .metadata => ampCreatePcmMetadataCtl name idx pcm
  | .setParam => ampCreatePcmSetParamCtl false name idx pcm
  | .setParamTag => ampCreatePcmSetParamCtl true name idx pcm
  | .setCalibration => ampCreatePcmCalibrationCtl name idx pcm
  | .loopback => ampCreatePcmLoopbackCtl (k.items pcm) name idx pcm
  | .echoReference => ampCreatePcmEchorefCtl (k.items pcm) name idx pcm

/-- The put function of a control. -/
def PutKind.put : PutKind → SndControl → PutValue → MixerM ℤ
  | .connect | .disconnect => ampPcmAifConnectPut
  | .control => ampPcmMtdControlPut
  | .metadata => ampPcmMetadataPut
  | .setParam | .setParamTag => ampPcmSetParamPut
  | .setCalibration => ampPcmCalibrationPut
  | .loopback => ampPcmLoopbackPut
  | .echoReference => ampPcmEchorefPut

/-- The put uses the item that `control` has stored. -/
def PutKind.UsesStored (k : PutKind) : Prop :=
  k = .metadata ∨ k = .setParam ∨ k = .setParamTag ∨ k = .setCalibration

instance : DecidablePred PutKind.UsesStored := fun _ => inferInstanceAs (Decidable (_ ∨ _))

/-- A put of a control of device `dev` of a PCM table. -/
structure MixerPut where
  kind : PutKind
  pcm : AdiRef
  dev : ℕ
  value : PutValue
deriving DecidableEq, Repr

/-- The plugin with a record: the item that was last put for every PCM by its `control`. -/
structure MixerRun where
  state : MixerState
  selected : AdiRef → ℕ → BitVec 32 := fun _ _ => 0

def MixerPut.ctl (priv : AmpPriv) (p : MixerPut) : SndControl :=
  p.kind.ctl p.pcm ((priv.devs p.pcm).names.getD p.dev []) p.dev
    ((priv.devs p.pcm).idxArr.getD p.dev 0)

/-- Change what is recorded for one PCM. -/
def updateAt {α : Type} (f : AdiRef → ℕ → α) (pcm : AdiRef) (dev : ℕ) (a : α) : AdiRef → ℕ → α :=
  Function.update f pcm (Function.update (f pcm) dev a)

/-- A put, on the controls that were formed from the tables of `priv`. -/
def MixerPut.run (priv : AmpPriv) (p : MixerPut) : Prog MixerRun Crash ℤ := do
  let ret ← Prog.zoom MixerRun.state (fun g x => { x with state := g }) id
    (p.kind.put (p.ctl priv) p.value)
  Prog.modify fun x =>
    if p.kind = .control then { x with selected := updateAt x.selected p.pcm p.dev p.value.item }
    else x
  pure ret

/-! ### What a put should do -/

/-- The PCM for which a call is made. -/
def AgmCall.pcm : AgmCall → ℤ
  | aifConnect pcm _ _ | setMetadata pcm _ | aifSetMetadata pcm _ _ | aifSetCal pcm _ _
  | setParams pcm _ | aifSetParams pcm _ _ | setParamsWithTag pcm _ _
  | setLoopback pcm _ _ | setEcRef pcm _ _ | getParams pcm _ => pcm

/-- The backend or the other PCM to which a call is applied.  To end a loopback or an echo reference
the service takes the one that the session remembers and not the id that is passed. -/
def AgmCall.target : AgmCall → Option ℤ
  | aifConnect _ be _ | aifSetMetadata _ be _ | aifSetCal _ be _ | aifSetParams _ be _
  | setParamsWithTag _ be _ => some be
  | setMetadata _ _ | setParams _ _ | getParams _ _ => none
  | setLoopback _ id state | setEcRef _ id state => if state then some id else none

/-- The id of the device that an item names; `ZERO` names none. -/
def AmpDevInfo.named (adi : AmpDevInfo) (item : BitVec 32) : Option ℤ :=
  if item = 0 then none else adi.idxArr[item.toNat]?

/-- The item that a put uses. -/
def MixerPut.item (p : MixerPut) (selected : AdiRef → ℕ → BitVec 32) : BitVec 32 :=
  if p.kind.UsesStored then selected p.pcm p.dev else p.value.item

/-- The device that is named by the item a put uses. -/
def MixerPut.named (priv : AmpPriv) (p : MixerPut) (selected : AdiRef → ℕ → BitVec 32) : Option ℤ :=
  if p.kind = .control then none
  else (priv.devs (p.kind.items p.pcm)).named (p.item selected)

/-- A put stays inside the arrays, and the API is called for its PCM and for the device that is named
by the item: for none when this is `ZERO`. -/
def MixerPut.Right (priv : AmpPriv) (x : MixerRun) (p : MixerPut) : Prop :=
  Ensures noFault (p.run priv) x fun _ x' =>
    ∃ cs, x'.state.calls = x.state.calls ++ cs ∧
      (∀ c ∈ cs, c.pcm = (priv.devs p.pcm).idxArr.getD p.dev 0) ∧
      cs.filterMap AgmCall.target = (p.named priv x.selected).toList

/-- No device before this one in the table has its id. -/
def AmpDevInfo.FirstWithId (adi : AmpDevInfo) (dev : ℕ) : Prop :=
  ∀ j ∈ List.range' 1 (dev - 1), adi.idxArr.getD j 0 ≠ adi.idxArr.getD dev 0

/-- The item that a put uses belongs to its control, or it is one that is stored as a negative value.
For a stored item, the device is found by its id; a calibration needs a backend. -/
def MixerPut.Sound (priv : AmpPriv) (x : MixerRun) (p : MixerPut) : Prop :=
  match p.kind with
  | .control => True
  | .connect | .disconnect | .loopback | .echoReference =>
      p.value.item.toNat < (priv.devs (p.kind.items p.pcm)).count
  | .metadata | .setParam | .setParamTag =>
      (priv.devs p.pcm).FirstWithId p.dev ∧
        (x.selected p.pcm p.dev).toInt < (priv.devs (p.kind.items p.pcm)).count
  | .setCalibration =>
      (priv.devs p.pcm).FirstWithId p.dev ∧ x.selected p.pcm p.dev ≠ 0 ∧
        (x.selected p.pcm p.dev).toInt < (priv.devs (p.kind.items p.pcm)).count

instance (adi : AmpDevInfo) (dev : ℕ) : Decidable (adi.FirstWithId dev) :=
  inferInstanceAs (Decidable (∀ j ∈ List.range' _ _, _))

instance (priv : AmpPriv) (x : MixerRun) : DecidablePred (MixerPut.Sound priv x)
  | ⟨.control, _, _, _⟩ => .isTrue trivial
  | ⟨.connect, _, _, _⟩ | ⟨.disconnect, _, _, _⟩ | ⟨.loopback, _, _, _⟩
  | ⟨.echoReference, _, _, _⟩ => inferInstanceAs (Decidable (_ < _))
  | ⟨.metadata, _, _, _⟩ | ⟨.setParam, _, _, _⟩ | ⟨.setParamTag, _, _, _⟩ =>
      inferInstanceAs (Decidable (_ ∧ _))
  | ⟨.setCalibration, _, _, _⟩ => inferInstanceAs (Decidable (_ ∧ _ ∧ _))

/-- The put is one of a control that exists. -/
structure MixerPut.IsOn (priv : AmpPriv) (p : MixerPut) : Prop where
  pos : 1 ≤ p.dev
  lt : p.dev < (priv.devs p.pcm).count
  pcm : p.pcm = .txPcm ∨ p.pcm = .rxPcm ∧ p.kind ≠ .loopback ∧ p.kind ≠ .echoReference

/-- The tables that the controls were formed from.  The number of entries is an `int`. -/
structure AmpPriv.Ready (priv : AmpPriv) : Prop where
  filled : priv.Filled
  rxDir : (priv.devs .rxPcm).dir = .rx
  txDir : (priv.devs .txPcm).dir = .tx
  int : ∀ r, (priv.devs r).count < 2 ^ 31

/-- The PCMs of a table have different ids. -/
def AmpPriv.IdsDiffer (priv : AmpPriv) : Prop :=
  ∀ r, r = .rxPcm ∨ r = .txPcm → ((priv.devs r).idxArr.drop 1).Nodup

/-- The state when the controls are formed. -/
def MixerRun.start (priv : AmpPriv) : MixerRun where
  state := { priv := (ampFormPcmCtls true true priv { ctlIdx := 0, calls := [] }).2.1 }

/-! ### The stored items -/

def AmpDevInfo.withMtd (adi : AmpDevInfo) (l : List ℤ) : AmpDevInfo := { adi with pcmMtdCtl := l }

@[simp] theorem pcmMtdCtl_withMtd (adi : AmpDevInfo) (l : List ℤ) :
    (adi.withMtd l).pcmMtdCtl = l := rfl

/-- The tables when the items have been put. -/
def AmpPriv.withItems (priv : AmpPriv) (selected : AdiRef → ℕ → BitVec 32) : AmpPriv where
  devs r :=
    if r = .rxPcm ∨ r = .txPcm then
      (priv.devs r).withMtd ((List.range (priv.devs r).count).map fun i => (selected r i).toInt)
    else priv.devs r

section items
variable {priv : AmpPriv} {selected : AdiRef → ℕ → BitVec 32} {r pcm : AdiRef}

@[simp] theorem withItems_idxArr : ((priv.withItems selected).devs r).idxArr =
    (priv.devs r).idxArr := by
  unfold AmpPriv.withItems
  dsimp only
  split_ifs <;> rfl

@[simp] theorem withItems_count : ((priv.withItems selected).devs r).count =
    (priv.devs r).count := by
  unfold AmpPriv.withItems
  dsimp only
  split_ifs <;> rfl

@[simp] theorem withItems_dir : ((priv.withItems selected).devs r).dir = (priv.devs r).dir := by
  unfold AmpPriv.withItems
  dsimp only
  split_ifs <;> rfl

theorem devs_withItems (hr : r = .rxPcm ∨ r = .txPcm) : (priv.withItems selected).devs r =
    (priv.devs r).withMtd ((List.range (priv.devs r).count).map fun i => (selected r i).toInt) :=
  if_pos hr

/-- Forming the controls selects `ZERO` for every PCM. -/
theorem start_priv (priv : AmpPriv) :
    (MixerRun.start priv).state.priv = priv.withItems fun _ _ => 0 := by
  have hzero : ∀ n : ℕ, List.replicate n (0 : ℤ) =
      (List.range n).map fun _ => (0 : BitVec 32).toInt := by
    intro n
    rw [List.map_const', List.length_range]
    rfl
  have hrun : (MixerRun.start priv).state.priv = (priv.withMtdCtl .rxPcm).withMtdCtl .txPcm := by
    unfold MixerRun.start ampFormPcmCtls
    simp [ampFormCommonPcmCtls_eq]
  have hcount : ((priv.withMtdCtl .rxPcm).devs .txPcm) = priv.devs .txPcm := rfl
  rw [hrun]
  unfold AmpPriv.withItems
  refine congrArg AmpPriv.mk (funext fun r => ?_)
  cases r with
  | rxPcm => exact congrArg (priv.devs .rxPcm).withMtd (hzero _)
  | txPcm => exact congrArg (priv.devs .txPcm).withMtd (hzero _)
  | rxBe => rfl
  | txBe => rfl

/-- `control` stores the item of its PCM. -/
theorem setAdi_withItems (hr : r = .rxPcm ∨ r = .txPcm) (dev : ℕ) (item : BitVec 32) :
    (priv.withItems selected).setAdi r (((priv.withItems selected).devs r).withMtd
        (((priv.withItems selected).devs r).pcmMtdCtl.set dev item.toInt)) =
      priv.withItems (updateAt selected r dev item) := by
  unfold AmpPriv.setAdi
  refine congrArg AmpPriv.mk (funext fun r' => ?_)
  rcases eq_or_ne r' r with rfl | hne
  · rw [Function.update_self, devs_withItems hr]
    refine Eq.trans ?_ (devs_withItems hr).symm
    refine congrArg (priv.devs r').withMtd ?_
    rw [pcmMtdCtl_withMtd]
    refine List.ext_getElem (by simp) fun i h₁ h₂ => ?_
    simp only [List.getElem_set, List.getElem_map, List.getElem_range]
    unfold updateAt
    rw [Function.update_self]
    rcases eq_or_ne i dev with rfl | hi
    · rw [if_pos rfl, Function.update_self]
    · rw [if_neg hi.symm, Function.update_of_ne hi]
  · have hsel : updateAt selected r dev item r' = selected r' := Function.update_of_ne hne _ _
    rw [Function.update_of_ne hne]
    unfold AmpPriv.withItems
    dsimp only
    rw [hsel]

end items

/-! ### The put functions on stored items -/

section puts
variable {priv : AmpPriv} {selected : AdiRef → ℕ → BitVec 32} {pcm be : AdiRef} {dev : ℕ}
  {calls : List AgmCall}

theorem readArr_nat (arr : List ℤ) (n : ℕ) (s : MixerState) : readArr arr n s =
    if n < arr.length then .ok (arr.getD n 0, s) else .error .outOfBounds := by
  unfold readArr
  by_cases hn : n < arr.length
  · rw [if_pos ⟨Int.natCast_nonneg n, by exact_mod_cast hn⟩, if_pos hn]
    rfl
  · rw [if_neg (fun h => hn (by exact_mod_cast h.2)), if_neg hn]
    rfl

theorem getAdi_run (r : AdiRef) (s : MixerState) : getAdi r s = .ok (s.priv.devs r, s) := rfl

theorem ampFindMtdIdx_run (idx : ℤ) (adi : AmpDevInfo) (s : MixerState) (ks : List ℕ)
    (hks : ∀ k ∈ ks, k < adi.idxArr.length) : ampFindMtdIdx idx adi ks s =
      .ok (ks.find? fun k => decide (idx = adi.idxArr.getD k 0), s) := by
  induction ks with
  | nil => rfl
  | cons k ks ih =>
      obtain ⟨hk, hks⟩ := List.forall_mem_cons.mp hks
      have hread : readArr adi.idxArr k s = .ok (adi.idxArr.getD k 0, s) := by
        rw [readArr_nat, if_pos hk]
      unfold ampFindMtdIdx
      rw [Prog.bind_of_ok hread, List.find?_cons]
      by_cases hidx : idx = adi.idxArr.getD k 0
      · rw [if_pos hidx, decide_eq_true hidx]
        rfl
      · rw [if_neg hidx, decide_eq_false hidx]
        exact ih hks

/-- The item stored for the first device with an id is found by this id. -/
theorem ampPcmGetControlValue_run (hfilled : (priv.devs pcm).Filled)
    (hpcm : pcm = .rxPcm ∨ pcm = .txPcm) (hpos : 1 ≤ dev) (hlt : dev < (priv.devs pcm).count)
    (hfirst : (priv.devs pcm).FirstWithId dev) :
    ampPcmGetControlValue ((priv.devs pcm).idxArr.getD dev 0) pcm
        ⟨priv.withItems selected, calls⟩ =
      .ok ((selected pcm dev).toInt, ⟨priv.withItems selected, calls⟩) := by
  have hbound : ∀ k ∈ List.range' 1 ((priv.devs pcm).count - 1),
      k < ((priv.withItems selected).devs pcm).idxArr.length := by
    intro k hk
    have hk' := List.mem_range'_1.mp hk
    rw [withItems_idxArr, hfilled.idxArr]
    omega
  have hfind : (List.range' 1 ((priv.devs pcm).count - 1)).find? (fun k =>
      decide ((priv.devs pcm).idxArr.getD dev 0 =
        ((priv.withItems selected).devs pcm).idxArr.getD k 0)) = some dev := by
    rw [List.find?_range'_eq_some, withItems_idxArr]
    refine ⟨decide_eq_true rfl, List.mem_range'_1.mpr ⟨hpos, by omega⟩, fun j hj hjd => ?_⟩
    have hne := hfirst j (List.mem_range'_1.mpr ⟨hj, by omega⟩)
    rw [decide_eq_false (Ne.symm hne)]
    rfl
  have hread : readArr ((priv.withItems selected).devs pcm).pcmMtdCtl dev
      ⟨priv.withItems selected, calls⟩ =
      .ok ((selected pcm dev).toInt, ⟨priv.withItems selected, calls⟩) := by
    have hlen : dev < ((List.range (priv.devs pcm).count).map fun i =>
        (selected pcm i).toInt).length := by simpa using hlt
    rw [devs_withItems hpcm, readArr_nat]
    refine (if_pos hlen).trans ?_
    refine congrArg (fun v => Except.ok (v, _)) ?_
    refine (List.getD_eq_getElem _ _ hlen).trans ?_
    rw [List.getElem_map, List.getElem_range]
  unfold ampPcmGetControlValue
  rw [Prog.bind_of_ok (getAdi_run pcm _)]
  dsimp only
  rw [withItems_count, Prog.bind_of_ok (ampFindMtdIdx_run _ _ _ _ hbound), hfind]
  exact hread

/-- `connect` and `disconnect`. -/
theorem ampPcmAifConnectPut_run (ctl : SndControl) (ev : PutValue) (hdata : ctl.privateData = pcm)
    (hbe : ampGetBeAdi (priv.devs pcm).dir = some be) (hfilled : (priv.devs be).Filled) :
    ampPcmAifConnectPut ctl ev ⟨priv.withItems selected, calls⟩ =
      if ev.item.toNat < (priv.devs be).count then
        .ok (0, ⟨priv.withItems selected, calls ++ if ev.item = 0 then [] else
          [.aifConnect ctl.privateValue ((priv.devs be).idxArr.getD ev.item.toNat 0)
            (!strstr ctl.name "disconnect".toList)]⟩)
      else .error .outOfBounds := by
  subst hdata
  unfold ampPcmAifConnectPut
  rw [Prog.bind_of_ok (getAdi_run _ _)]
  dsimp only
  rw [withItems_dir, hbe]
  dsimp only
  by_cases h0 : ev.item = 0
  · have hlt : ev.item.toNat < (priv.devs be).count := by
      rw [h0]
      exact hfilled.zero
    rw [if_pos h0, if_pos hlt, if_pos h0, List.append_nil]
    rfl
  · rw [if_neg h0, if_neg h0, Prog.bind_of_ok (getAdi_run _ _)]
    dsimp only
    rw [withItems_idxArr]
    by_cases hlt : ev.item.toNat < (priv.devs be).count
    · have hread : readArr (priv.devs be).idxArr ev.item.toNat ⟨priv.withItems selected, calls⟩ =
          .ok ((priv.devs be).idxArr.getD ev.item.toNat 0, ⟨priv.withItems selected, calls⟩) := by
        rw [readArr_nat, if_pos (hfilled.idxArr ▸ hlt)]
      rw [Prog.bind_of_ok hread, if_pos hlt]
      rfl
    · have hread : readArr (priv.devs be).idxArr ev.item.toNat ⟨priv.withItems selected, calls⟩ =
          .error .outOfBounds := by
        rw [readArr_nat, if_neg (hfilled.idxArr ▸ hlt)]
      rw [Prog.bind_of_error hread, if_neg hlt]

/-- `loopback`. -/
theorem ampPcmLoopbackPut_run (ctl : SndControl) (ev : PutValue) (hfilled : (priv.devs .rxPcm).Filled) :
    ampPcmLoopbackPut ctl ev ⟨priv.withItems selected, calls⟩ =
      if ev.item.toNat < (priv.devs .rxPcm).count then
        .ok (0, ⟨priv.withItems selected, calls ++ [.setLoopback ctl.privateValue
          (if ev.item = 0 then 0 else (priv.devs .rxPcm).idxArr.getD ev.item.toNat 0)
          (decide (ev.item ≠ 0))]⟩)
      else .error .outOfBounds := by
  unfold ampPcmLoopbackPut
  rw [Prog.bind_of_ok (getAdi_run _ _)]
  dsimp only
  rw [withItems_idxArr]
  by_cases h0 : ev.item = 0
  · have hlt : ev.item.toNat < (priv.devs .rxPcm).count := by
      rw [h0]
      exact hfilled.zero
    rw [if_pos h0, if_pos h0, if_pos hlt]
    rfl
  · rw [if_neg h0, if_neg h0]
    by_cases hlt : ev.item.toNat < (priv.devs .rxPcm).count
    · have hread : readArr (priv.devs .rxPcm).idxArr ev.item.toNat ⟨priv.withItems selected, calls⟩ =
          .ok ((priv.devs .rxPcm).idxArr.getD ev.item.toNat 0,
            ⟨priv.withItems selected, calls⟩) := by
        rw [readArr_nat, if_pos (hfilled.idxArr ▸ hlt)]
      rw [Prog.bind_of_ok hread, if_pos hlt]
      rfl
    · have hread : readArr (priv.devs .rxPcm).idxArr ev.item.toNat ⟨priv.withItems selected, calls⟩ =
          .error .outOfBounds := by
        rw [readArr_nat, if_neg (hfilled.idxArr ▸ hlt)]
      rw [Prog.bind_of_error hread, if_neg hlt]

/-- `echoReference`. -/
theorem ampPcmEchorefPut_run (ctl : SndControl) (ev : PutValue) (hfilled : (priv.devs .rxBe).Filled) :
    ampPcmEchorefPut ctl ev ⟨priv.withItems selected, calls⟩ =
      if ev.item.toNat < (priv.devs .rxBe).count then
        .ok (0, ⟨priv.withItems selected, calls ++ [.setEcRef ctl.privateValue
          ((priv.devs .rxBe).idxArr.getD ev.item.toNat 0) (decide (ev.item ≠ 0))]⟩)
      else .error .outOfBounds := by
  unfold ampPcmEchorefPut
  rw [Prog.bind_of_ok (getAdi_run _ _)]
  dsimp only
  rw [withItems_idxArr]
  have hread := readArr_nat (priv.devs .rxBe).idxArr ev.item.toNat ⟨priv.withItems selected, calls⟩
  rw [hfilled.idxArr] at hread
  by_cases hlt : ev.item.toNat < (priv.devs .rxBe).count
  · rw [if_pos hlt] at hread
    rw [Prog.bind_of_ok hread, if_pos hlt]
    rfl
  · rw [if_neg hlt] at hread
    rw [Prog.bind_of_error hread, if_neg hlt]

/-- `control`. -/
theorem ampPcmMtdControlPut_run (ctl : SndControl) (ev : PutValue) (hdata : ctl.privateData = pcm) (hval : ctl.privateValue = dev)
    (hpcm : pcm = .rxPcm ∨ pcm = .txPcm) (hlt : dev < (priv.devs pcm).count) :
    ampPcmMtdControlPut ctl ev ⟨priv.withItems selected, calls⟩ =
      .ok (0, ⟨priv.withItems (updateAt selected pcm dev ev.item), calls⟩) := by
  have hbound : (0 : ℤ) ≤ (dev : ℤ) ∧
      (dev : ℤ) < ((priv.withItems selected).devs pcm).pcmMtdCtl.length := by
    rw [devs_withItems hpcm]
    simpa using hlt
  subst hdata
  unfold ampPcmMtdControlPut
  rw [Prog.bind_of_ok (getAdi_run _ _), hval]
  dsimp only
  rw [if_pos hbound, ← setAdi_withItems hpcm]
  rfl

/-- The entry of the backend table for a stored item that is not negative. -/
theorem ampReadBe_run {dir : Direction} (hbe : ampGetBeAdi dir = some be)
    (hfilled : (priv.devs be).Filled) {c : ℤ} (hc : 0 ≤ c) :
    ampReadBe dir c ⟨priv.withItems selected, calls⟩ =
      if c < (priv.devs be).count then
        .ok ((priv.devs be).idxArr.getD c.toNat 0, ⟨priv.withItems selected, calls⟩)
      else .error .outOfBounds := by
  have hread := readArr_nat (priv.devs be).idxArr c.toNat ⟨priv.withItems selected, calls⟩
  have hiff : c.toNat < (priv.devs be).count ↔ c < (priv.devs be).count := by omega
  rw [Int.toNat_of_nonneg hc, hfilled.idxArr] at hread
  simp only [hiff] at hread
  unfold ampReadBe
  rw [hbe]
  dsimp only
  rw [Prog.bind_of_ok (getAdi_run _ _)]
  dsimp only
  rw [withItems_idxArr]
  exact hread

/-- The calls of a put that uses a stored item: none for a negative value, those for no backend when
the value is 0, and those for the backend otherwise. -/
def storedCalls (c : ℤ) (none : List AgmCall) (some : AgmCall) : List AgmCall :=
  if c < 0 then [] else if c = 0 then none else [some]

/-- `metadata`. -/
theorem ampPcmMetadataPut_run (ctl : SndControl) (ev : PutValue) (hdata : ctl.privateData = pcm)
    (hbe : ampGetBeAdi (priv.devs pcm).dir = some be) (hfilled : (priv.devs be).Filled) {c : ℤ}
    (hstored : ampPcmGetControlValue ctl.privateValue pcm ⟨priv.withItems selected, calls⟩ =
      .ok (c, ⟨priv.withItems selected, calls⟩)) :
    ∃ r, ampPcmMetadataPut ctl ev ⟨priv.withItems selected, calls⟩ =
      if c < (priv.devs be).count then
        .ok (r, ⟨priv.withItems selected, calls ++
          storedCalls c [.setMetadata ctl.privateValue ev.payload]
            (.aifSetMetadata ctl.privateValue ((priv.devs be).idxArr.getD c.toNat 0) ev.payload)⟩)
      else .error .outOfBounds := by
  have hzero : (0 : ℤ) < (priv.devs be).count := by exact_mod_cast hfilled.zero
  subst hdata
  unfold ampPcmMetadataPut storedCalls
  rw [Prog.bind_of_ok (getAdi_run _ _)]
  dsimp only
  rw [Prog.bind_of_ok hstored, withItems_dir]
  rcases lt_trichotomy c 0 with hneg | hc0 | hpos
  · refine ⟨c, ?_⟩
    rw [if_pos hneg, if_pos hneg, if_pos (hneg.trans hzero), List.append_nil]
    rfl
  · have hnn : ¬ c < 0 := hc0.not_lt
    refine ⟨alreadyDone ev.agmRet, ?_⟩
    rw [if_neg hnn, if_pos hc0, if_neg hnn, if_pos hc0, if_pos (hc0 ▸ hzero)]
    rfl
  · have hread : ampReadBe _ c ⟨priv.withItems selected, calls⟩ = _ :=
      ampReadBe_run hbe hfilled hpos.le
    have hnn : ¬ c < 0 := hpos.not_gt
    refine ⟨alreadyDone ev.agmRet, ?_⟩
    rw [if_neg hnn, if_neg hpos.ne', if_neg hnn, if_neg hpos.ne']
    by_cases hlt : c < (priv.devs be).count
    · rw [if_pos hlt] at hread
      rw [Prog.bind_of_ok hread, if_pos hlt]
      rfl
    · rw [if_neg hlt] at hread
      rw [Prog.bind_of_error hread, if_neg hlt]

/-- `setParam` and `setParamTag`. -/
theorem ampPcmSetParamPut_run (ctl : SndControl) (ev : PutValue) (hdata : ctl.privateData = pcm)
    (hbe : ampGetBeAdi (priv.devs pcm).dir = some be) (hfilled : (priv.devs be).Filled) {c : ℤ}
    (hstored : ampPcmGetControlValue ctl.privateValue pcm ⟨priv.withItems selected, calls⟩ =
      .ok (c, ⟨priv.withItems selected, calls⟩)) :
    ∃ r, ampPcmSetParamPut ctl ev ⟨priv.withItems selected, calls⟩ =
      if c < (priv.devs be).count then
        .ok (r, ⟨priv.withItems selected, calls ++
          storedCalls c
            (if strstr ctl.name "setParamTag".toList then []
              else [.setParams ctl.privateValue ev.payload])
            (if strstr ctl.name "setParamTag".toList then
              .setParamsWithTag ctl.privateValue ((priv.devs be).idxArr.getD c.toNat 0) ev.payload
            else .aifSetParams ctl.privateValue ((priv.devs be).idxArr.getD c.toNat 0) ev.payload)⟩)
      else .error .outOfBounds := by
  have hzero : (0 : ℤ) < (priv.devs be).count := by exact_mod_cast hfilled.zero
  subst hdata
  unfold ampPcmSetParamPut storedCalls
  rw [Prog.bind_of_ok (getAdi_run _ _)]
  dsimp only
  rw [Prog.bind_of_ok hstored, withItems_dir]
  rcases lt_trichotomy c 0 with hneg | hc0 | hpos
  · refine ⟨c, ?_⟩
    rw [if_pos hneg, if_pos hneg, if_pos (hneg.trans hzero), List.append_nil]
    rfl
  · have hnn : ¬ c < 0 := hc0.not_lt
    have hlt : c < (priv.devs be).count := hc0 ▸ hzero
    simp only [if_neg hnn, if_pos hc0, if_pos hlt]
    split_ifs with htag
    · exact ⟨-EINVAL, by rw [List.append_nil]; rfl⟩
    · exact ⟨ev.agmRet, rfl⟩
  · have hread : ampReadBe _ c ⟨priv.withItems selected, calls⟩ = _ :=
      ampReadBe_run hbe hfilled hpos.le
    have hnn : ¬ c < 0 := hpos.not_gt
    refine ⟨alreadyDone ev.agmRet, ?_⟩
    rw [if_neg hnn, if_neg hpos.ne', if_neg hnn, if_neg hpos.ne']
    by_cases hlt : c < (priv.devs be).count
    · rw [if_pos hlt] at hread
      rw [Prog.bind_of_ok hread, if_pos hlt]
      rfl
    · rw [if_neg hlt] at hread
      rw [Prog.bind_of_error hread, if_neg hlt]

/-- `setCalibration` does not treat 0 apart. -/
theorem ampPcmCalibrationPut_run (ctl : SndControl) (ev : PutValue) (hdata : ctl.privateData = pcm)
    (hbe : ampGetBeAdi (priv.devs pcm).dir = some be) (hfilled : (priv.devs be).Filled) {c : ℤ}
    (hstored : ampPcmGetControlValue ctl.privateValue pcm ⟨priv.withItems selected, calls⟩ =
      .ok (c, ⟨priv.withItems selected, calls⟩)) :
    ∃ r, ampPcmCalibrationPut ctl ev ⟨priv.withItems selected, calls⟩ =
      if c < (priv.devs be).count then
        .ok (r, ⟨priv.withItems selected, calls ++ if c < 0 then [] else
          [.aifSetCal ctl.privateValue ((priv.devs be).idxArr.getD c.toNat 0) ev.payload]⟩)
      else .error .outOfBounds := by
  have hzero : (0 : ℤ) < (priv.devs be).count := by exact_mod_cast hfilled.zero
  subst hdata
  unfold ampPcmCalibrationPut
  rw [Prog.bind_of_ok (getAdi_run _ _)]
  dsimp only
  rw [Prog.bind_of_ok hstored, withItems_dir]
  by_cases hneg : c < 0
  · refine ⟨c, ?_⟩
    rw [if_pos hneg, if_pos hneg, if_pos (hneg.trans hzero), List.append_nil]
    rfl
  · have hread : ampReadBe _ c ⟨priv.withItems selected, calls⟩ = _ :=
      ampReadBe_run hbe hfilled (not_lt.mp hneg)
    refine ⟨ev.agmRet, ?_⟩
    unfold ampReadBe at hread
    rw [hbe] at hread
    rw [if_neg hneg, if_neg hneg, hbe]
    dsimp only at hread ⊢
    rw [Prog.bind_of_ok (getAdi_run _ _)] at hread ⊢
    by_cases hlt : c < (priv.devs be).count
    · rw [if_pos hlt] at hread
      rw [Prog.bind_of_ok hread, if_pos hlt]
      rfl
    · rw [if_neg hlt] at hread
      rw [Prog.bind_of_error hread, if_neg hlt]

end puts

/-! ### One put -/

section step
variable {priv : AmpPriv} {adi : AmpDevInfo} {item : BitVec 32} {p : MixerPut} {x : MixerRun}

theorem named_of_lt (h : adi.Filled) (h0 : item ≠ 0) (hlt : item.toNat < adi.count) :
    adi.named item = some (adi.idxArr.getD item.toNat 0) := by
  have hidx : item.toNat < adi.idxArr.length := h.idxArr ▸ hlt
  unfold AmpDevInfo.named
  rw [if_neg h0, List.getD_eq_getElem _ _ hidx]
  exact List.getElem?_eq_getElem hidx

theorem named_of_le (h : adi.Filled) (hle : adi.count ≤ item.toNat) : adi.named item = none := by
  unfold AmpDevInfo.named
  split_ifs
  · rfl
  · exact List.getElem?_eq_none (h.idxArr ▸ hle)

/-- The calls of a put that uses a stored item are those for the device that the item names. -/
theorem storedCalls_reach {id : ℤ} {cs : List AgmCall} {c : AgmCall} (h : adi.Filled)
    (hint : adi.count < 2 ^ 31) (hlt : item.toInt < adi.count)
    (hcs : ∀ c ∈ cs, c.pcm = id ∧ c.target = none) (hpcm : c.pcm = id)
    (htarget : c.target = some (adi.idxArr.getD item.toInt.toNat 0)) :
    (∀ c' ∈ storedCalls item.toInt cs c, c'.pcm = id) ∧
      (storedCalls item.toInt cs c).filterMap AgmCall.target = (adi.named item).toList := by
  have hval := BitVec.toInt_eq_toNat_cond item
  have hsize := item.isLt
  unfold storedCalls
  rcases lt_trichotomy item.toInt 0 with hneg | hzero | hpos
  · have hle : adi.count ≤ item.toNat := by
      split_ifs at hval <;> omega
    rw [if_pos hneg, named_of_le h hle]
    exact ⟨fun _ hc => absurd hc List.not_mem_nil, rfl⟩
  · have h0 : item = 0 := BitVec.eq_of_toInt_eq hzero
    have hnone : cs.filterMap AgmCall.target = [] :=
      List.filterMap_eq_nil_iff.mpr fun c hc => (hcs c hc).2
    rw [if_neg hzero.not_lt, if_pos hzero, h0]
    exact ⟨fun c hc => (hcs c hc).1, hnone⟩
  · have h0 : item ≠ 0 := by
      rintro rfl
      exact absurd hpos (by decide)
    have hnat : item.toInt.toNat = item.toNat := by
      split_ifs at hval <;> omega
    rw [if_neg hpos.not_gt, if_neg hpos.ne', named_of_lt h h0 (by omega)]
    rw [hnat] at htarget
    refine ⟨fun c' hc' => ?_, ?_⟩
    · rw [List.mem_singleton.mp hc']
      exact hpcm
    · rw [List.filterMap_cons_some htarget]
      rfl

/-- From what a put function does to what the put is. -/
theorem right_iff_of_put {S : Prop} [Decidable S] {ret : ℤ} {g : MixerState} {cs : List AgmCall}
    (hput : p.kind.put (p.ctl priv) p.value x.state =
      if S then .ok (ret, g) else .error .outOfBounds)
    (hcs : g.calls = x.state.calls ++ cs) : p.Right priv x ↔
      S ∧ (∀ c ∈ cs, c.pcm = (priv.devs p.pcm).idxArr.getD p.dev 0) ∧
        cs.filterMap AgmCall.target = (p.named priv x.selected).toList := by
  unfold MixerPut.Right MixerPut.run
  rw [ensures_bind, ensures_zoom]
  by_cases hS : S
  · rw [if_pos hS] at hput
    rw [ensures_iff_of_ok hput, ensures_bind, ensures_modify, ensures_pure]
    have hstate : (if p.kind = PutKind.control then
        (⟨g, updateAt x.selected p.pcm p.dev p.value.item⟩ : MixerRun)
        else { x with state := g }).state = g := by split_ifs <;> rfl
    rw [hstate, hcs]
    constructor
    · rintro ⟨cs', he, hpcm, htarget⟩
      obtain rfl := List.append_cancel_left he
      exact ⟨hS, hpcm, htarget⟩
    · rintro ⟨-, hpcm, htarget⟩
      exact ⟨cs, rfl, hpcm, htarget⟩
  · rw [if_neg hS] at hput
    unfold Ensures
    rw [hput]
    exact ⟨False.elim, fun h => absurd h.1 hS⟩

/-- The backend table of a PCM table. -/
theorem ampGetBeAdi_items (h : priv.Ready) (hon : p.IsOn priv) (hloop : p.kind ≠ .loopback)
    (hecho : p.kind ≠ .echoReference) :
    ampGetBeAdi (priv.devs p.pcm).dir = some (p.kind.items p.pcm) := by
  have hitems : p.kind.items p.pcm = if p.pcm = .rxPcm then .rxBe else .txBe := by
    unfold PutKind.items
    cases hk : p.kind with
    | loopback => exact absurd hk hloop
    | echoReference => exact absurd hk hecho
    | _ => rfl
  rw [hitems]
  rcases hon.pcm with hpcm | ⟨hpcm, -⟩
  · rw [hpcm, h.txDir]
    rfl
  · rw [hpcm, h.rxDir]
    rfl

/-- The puts that use their item at once, given the calls for an item of the control. -/
theorem right_iff_direct {k : PutKind} {pcm : AdiRef} {dev : ℕ} {ev : PutValue}
    (hfilled : (priv.devs (k.items pcm)).Filled) (hcontrol : k ≠ .control)
    (hdirect : ¬ k.UsesStored) {ret : ℤ} {cs : List AgmCall}
    (hput : k.put (MixerPut.ctl priv ⟨k, pcm, dev, ev⟩) ev x.state =
      if ev.item.toNat < (priv.devs (k.items pcm)).count then
        .ok (ret, ⟨x.state.priv, x.state.calls ++ cs⟩)
      else .error .outOfBounds)
    (hpcm : ∀ c ∈ cs, c.pcm = (priv.devs pcm).idxArr.getD dev 0)
    (htarget : cs.filterMap AgmCall.target = if ev.item = 0 then [] else
      [(priv.devs (k.items pcm)).idxArr.getD ev.item.toNat 0]) :
    MixerPut.Right priv x ⟨k, pcm, dev, ev⟩ ↔ ev.item.toNat < (priv.devs (k.items pcm)).count := by
  rw [right_iff_of_put hput rfl]
  refine ⟨And.left, fun hlt => ⟨hlt, hpcm, ?_⟩⟩
  unfold MixerPut.named MixerPut.item
  rw [if_neg hcontrol, if_neg hdirect, htarget]
  dsimp only
  split_ifs with h0
  · rw [h0]
    rfl
  · rw [named_of_lt hfilled h0 hlt]
    rfl

/-- The puts that use the stored item, given the calls for an item of the control. -/
theorem right_iff_stored {k : PutKind} {pcm : AdiRef} {dev : ℕ} {ev : PutValue}
    (hcontrol : k ≠ .control) (hstored : k.UsesStored) {ret : ℤ} {cs : List AgmCall}
    (hput : k.put (MixerPut.ctl priv ⟨k, pcm, dev, ev⟩) ev x.state =
      if (x.selected pcm dev).toInt < (priv.devs (k.items pcm)).count then
        .ok (ret, ⟨x.state.priv, x.state.calls ++ cs⟩)
      else .error .outOfBounds) :
    MixerPut.Right priv x ⟨k, pcm, dev, ev⟩ ↔
      (x.selected pcm dev).toInt < (priv.devs (k.items pcm)).count ∧
      (∀ c ∈ cs, c.pcm = (priv.devs pcm).idxArr.getD dev 0) ∧
        cs.filterMap AgmCall.target =
          ((priv.devs (k.items pcm)).named (x.selected pcm dev)).toList := by
  have hnamed : MixerPut.named priv ⟨k, pcm, dev, ev⟩ x.selected =
      (priv.devs (k.items pcm)).named (x.selected pcm dev) := by
    unfold MixerPut.named MixerPut.item
    rw [if_neg hcontrol, if_pos hstored]
  rw [right_iff_of_put hput rfl, hnamed]

theorem target_setLoopback (pcm id : ℤ) (item : BitVec 32) :
    [AgmCall.setLoopback pcm id (decide (item ≠ 0))].filterMap AgmCall.target =
      if item = 0 then [] else [id] := by
  by_cases h0 : item = 0
  · rw [if_pos h0, h0]
    rfl
  · rw [if_neg h0, decide_eq_true h0]
    rfl

theorem target_setEcRef (pcm id : ℤ) (item : BitVec 32) :
    [AgmCall.setEcRef pcm id (decide (item ≠ 0))].filterMap AgmCall.target =
      if item = 0 then [] else [id] := by
  by_cases h0 : item = 0
  · rw [if_pos h0, h0]
    rfl
  · rw [if_neg h0, decide_eq_true h0]
    rfl

theorem pcm_or (hon : p.IsOn priv) : p.pcm = .rxPcm ∨ p.pcm = .txPcm :=
  hon.pcm.elim .inr fun h => .inl h.1

/-- The calls of `setCalibration` reach what the item names when it names something. -/
theorem calCalls_reach_iff {id : ℤ} {payload : Payload} (h : adi.Filled)
    (hint : adi.count < 2 ^ 31) (hlt : item.toInt < adi.count) :
    ((∀ c ∈ (if item.toInt < 0 then [] else
        [AgmCall.aifSetCal id (adi.idxArr.getD item.toInt.toNat 0) payload]), c.pcm = id) ∧
      (if item.toInt < 0 then [] else
        [AgmCall.aifSetCal id (adi.idxArr.getD item.toInt.toNat 0) payload]).filterMap
          AgmCall.target = (adi.named item).toList) ↔ item ≠ 0 := by
  rcases eq_or_ne item 0 with rfl | h0
  · have hno : ¬ ((0 : BitVec 32).toInt < 0) := by decide
    rw [if_neg hno]
    exact ⟨fun hr => absurd hr.2 (List.cons_ne_nil _ _), fun hne => absurd rfl hne⟩
  · refine ⟨fun _ => h0, fun _ => ?_⟩
    have hreach := @storedCalls_reach adi item id []
      (.aifSetCal id (adi.idxArr.getD item.toInt.toNat 0) payload) h hint hlt
      (fun _ hc => absurd hc List.not_mem_nil) rfl rfl
    have hne : item.toInt ≠ 0 := fun hz => h0 (BitVec.eq_of_toInt_eq hz)
    unfold storedCalls at hreach
    rw [if_neg hne] at hreach
    exact hreach

/-- A put is right exactly when it is sound, if the device of a stored item is found. -/
theorem right_iff_sound (h : priv.Ready) (hon : p.IsOn priv)
    (hx : x.state.priv = priv.withItems x.selected)
    (hfirst : p.kind.UsesStored → (priv.devs p.pcm).FirstWithId p.dev) :
    p.Right priv x ↔ p.Sound priv x := by
  obtain ⟨⟨xpriv, calls⟩, selected⟩ := x
  obtain rfl : xpriv = priv.withItems selected := hx
  have hbe := ampGetBeAdi_items h hon
  have hitems := h.filled (p.kind.items p.pcm)
  have hint := h.int (p.kind.items p.pcm)
  have hvalue : (priv.devs p.pcm).FirstWithId p.dev →
      ampPcmGetControlValue ((priv.devs p.pcm).idxArr.getD p.dev 0) p.pcm
        ⟨priv.withItems selected, calls⟩ = _ :=
    ampPcmGetControlValue_run (h.filled p.pcm) (pcm_or hon) hon.pos hon.lt
  obtain ⟨kind, pcm, dev, ev⟩ := p
  dsimp only at hbe hitems hint hvalue hfirst
  cases kind with
  | connect =>
      refine right_iff_direct hitems (by decide) (by decide)
        (ampPcmAifConnectPut_run _ ev rfl (hbe (by decide) (by decide)) hitems) ?_ ?_
      · split_ifs
        · exact fun _ hc => absurd hc List.not_mem_nil
        · exact fun _ hc => List.mem_singleton.mp hc ▸ rfl
      · split_ifs <;> rfl
  | disconnect =>
      refine right_iff_direct hitems (by decide) (by decide)
        (ampPcmAifConnectPut_run _ ev rfl (hbe (by decide) (by decide)) hitems) ?_ ?_
      · split_ifs
        · exact fun _ hc => absurd hc List.not_mem_nil
        · exact fun _ hc => List.mem_singleton.mp hc ▸ rfl
      · split_ifs <;> rfl
  | loopback =>
      refine right_iff_direct hitems (by decide) (by decide) (ampPcmLoopbackPut_run _ ev hitems) ?_ ?_
      · exact fun _ hc => List.mem_singleton.mp hc ▸ rfl
      · rw [target_setLoopback]
        split_ifs <;> rfl
  | echoReference =>
      refine right_iff_direct hitems (by decide) (by decide) (ampPcmEchorefPut_run _ ev hitems) ?_ ?_
      · exact fun _ hc => List.mem_singleton.mp hc ▸ rfl
      · exact target_setEcRef _ _ _
  | control =>
      have hput : ampPcmMtdControlPut _ ev ⟨priv.withItems selected, calls⟩ = _ :=
        ampPcmMtdControlPut_run (MixerPut.ctl priv ⟨.control, pcm, dev, ev⟩) ev rfl rfl (pcm_or hon)
          hon.lt
      refine (right_iff_of_put (S := True) (p := ⟨.control, pcm, dev, ev⟩) (x := ⟨⟨_, calls⟩, selected⟩)
        (hput.trans (if_pos trivial).symm) (List.append_nil _).symm).trans ?_
      exact ⟨fun _ => trivial, fun _ => ⟨trivial, fun _ hc => absurd hc List.not_mem_nil, rfl⟩⟩
  | metadata =>
      have hf := hfirst (by decide)
      obtain ⟨r, hput⟩ := ampPcmMetadataPut_run (MixerPut.ctl priv ⟨.metadata, pcm, dev, ev⟩) ev rfl
        (hbe (by decide) (by decide)) hitems (hvalue hf)
      refine (right_iff_stored (k := .metadata) (x := ⟨⟨_, calls⟩, selected⟩) (by decide) (by decide)
        hput).trans ?_
      refine ⟨fun hr => ⟨hf, hr.1⟩, fun hs => ⟨hs.2, storedCalls_reach hitems hint hs.2 ?_ rfl rfl⟩⟩
      exact fun _ hc => List.mem_singleton.mp hc ▸ ⟨rfl, rfl⟩
  | setParam =>
      have hf := hfirst (by decide)
      obtain ⟨r, hput⟩ := ampPcmSetParamPut_run (MixerPut.ctl priv ⟨.setParam, pcm, dev, ev⟩) ev rfl
        (hbe (by decide) (by decide)) hitems (hvalue hf)
      refine (right_iff_stored (k := .setParam) (x := ⟨⟨_, calls⟩, selected⟩) (by decide) (by decide)
        hput).trans ?_
      refine ⟨fun hr => ⟨hf, hr.1⟩, fun hs => ⟨hs.2, storedCalls_reach hitems hint hs.2 ?_ ?_ ?_⟩⟩
      · split_ifs
        · exact fun _ hc => absurd hc List.not_mem_nil
        · exact fun _ hc => List.mem_singleton.mp hc ▸ ⟨rfl, rfl⟩
      · split_ifs <;> rfl
      · split_ifs <;> rfl
  | setParamTag =>
      have hf := hfirst (by decide)
      obtain ⟨r, hput⟩ := ampPcmSetParamPut_run (MixerPut.ctl priv ⟨.setParamTag, pcm, dev, ev⟩) ev rfl
        (hbe (by decide) (by decide)) hitems (hvalue hf)
      refine (right_iff_stored (k := .setParamTag) (x := ⟨⟨_, calls⟩, selected⟩) (by decide) (by decide)
        hput).trans ?_
      refine ⟨fun hr => ⟨hf, hr.1⟩, fun hs => ⟨hs.2, storedCalls_reach hitems hint hs.2 ?_ ?_ ?_⟩⟩
      · split_ifs
        · exact fun _ hc => absurd hc List.not_mem_nil
        · exact fun _ hc => List.mem_singleton.mp hc ▸ ⟨rfl, rfl⟩
      · split_ifs <;> rfl
      · split_ifs <;> rfl
  | setCalibration =>
      have hf := hfirst (by decide)
      obtain ⟨r, hput⟩ := ampPcmCalibrationPut_run (MixerPut.ctl priv ⟨.setCalibration, pcm, dev, ev⟩) ev rfl
        (hbe (by decide) (by decide)) hitems (hvalue hf)
      refine (right_iff_stored (k := .setCalibration) (x := ⟨⟨_, calls⟩, selected⟩) (by decide) (by decide)
        hput).trans ?_
      constructor
      · rintro ⟨hlt, hreach⟩
        exact ⟨hf, (calCalls_reach_iff hitems hint hlt).mp hreach, hlt⟩
      · rintro ⟨-, h0, hlt⟩
        exact ⟨hlt, (calCalls_reach_iff hitems hint hlt).mpr h0⟩

end step

/-! ### What the puts leave alone -/

section frame

/-- The tables are the same. -/
def SamePriv (s s' : MixerState) : Prop := s'.priv = s.priv

instance : IsPreorder MixerState SamePriv where
  refl _ := rfl
  trans _ _ _ h h' := h'.trans h

theorem readArr_moves (arr : List ℤ) (i : ℤ) : Moves SamePriv (readArr arr i) :=
  moves_ite (moves_pure _) (moves_fault _)

theorem agm_moves (c : AgmCall) (ret : ℤ) : Moves SamePriv (agm c ret) :=
  moves_bind (moves_modify fun _ => rfl) fun _ => moves_pure _

theorem ampFindMtdIdx_moves (idx : ℤ) (adi : AmpDevInfo) (ks : List ℕ) :
    Moves SamePriv (ampFindMtdIdx idx adi ks) := by
  induction ks with
  | nil => exact moves_pure _
  | cons k ks ih => exact moves_bind (readArr_moves _ _) fun _ => moves_ite (moves_pure _) ih

theorem ampPcmGetControlValue_moves (idx : ℤ) (pcm : AdiRef) :
    Moves SamePriv (ampPcmGetControlValue idx pcm) := by
  refine moves_bind (moves_gets _) fun adi => moves_bind (ampFindMtdIdx_moves _ _ _) fun k => ?_
  cases k with
  | none => exact moves_pure _
  | some k => exact readArr_moves _ _

theorem ampReadBe_moves (dir : Direction) (c : ℤ) : Moves SamePriv (ampReadBe dir c) := by
  unfold ampReadBe
  cases ampGetBeAdi dir with
  | none => exact moves_fault _
  | some be => exact moves_bind (moves_gets _) fun _ => readArr_moves _ _

/-- Every put but that of `control` leaves the tables as they are. -/
theorem put_moves {k : PutKind} (hk : k ≠ .control) (ctl : SndControl) (ev : PutValue) :
    Moves SamePriv (k.put ctl ev) := by
  have hconnect : Moves SamePriv (ampPcmAifConnectPut ctl ev) := by
    refine moves_bind (moves_gets _) fun adi => ?_
    cases ampGetBeAdi adi.dir with
    | none => exact moves_pure _
    | some be =>
        refine moves_ite (moves_pure _) (moves_bind (moves_gets _) fun _ => ?_)
        exact moves_bind (readArr_moves _ _) fun _ => moves_bind (agm_moves _ _) fun _ => moves_pure _
  have hparam : Moves SamePriv (ampPcmSetParamPut ctl ev) := by
    refine moves_bind (moves_gets _) fun adi => moves_bind (ampPcmGetControlValue_moves _ _) fun c => ?_
    refine moves_ite (moves_pure _) (moves_ite (moves_ite (moves_pure _) (agm_moves _ _)) ?_)
    exact moves_bind (ampReadBe_moves _ _) fun _ => moves_bind (agm_moves _ _) fun _ => moves_pure _
  cases k with
  | connect => exact hconnect
  | disconnect => exact hconnect
  | control => exact absurd rfl hk
  | metadata =>
      refine moves_bind (moves_gets _) fun adi =>
        moves_bind (ampPcmGetControlValue_moves _ _) fun c => ?_
      refine moves_ite (moves_pure _) (moves_ite ?_ ?_)
      · exact moves_bind (agm_moves _ _) fun _ => moves_pure _
      · exact moves_bind (ampReadBe_moves _ _) fun _ => moves_bind (agm_moves _ _) fun _ => moves_pure _
  | setParam => exact hparam
  | setParamTag => exact hparam
  | setCalibration =>
      refine moves_bind (moves_gets _) fun adi =>
        moves_bind (ampPcmGetControlValue_moves _ _) fun c => ?_
      refine moves_ite (moves_pure _) ?_
      cases ampGetBeAdi adi.dir with
      | none => exact moves_pure _
      | some be =>
          refine moves_bind (moves_gets _) fun _ => ?_
          exact moves_bind (readArr_moves _ _) fun _ => agm_moves _ _
  | loopback =>
      refine moves_bind (moves_gets _) fun _ => moves_bind ?_ fun _ => ?_
      · exact moves_ite (moves_pure _) (readArr_moves _ _)
      · exact moves_bind (agm_moves _ _) fun _ => moves_pure _
  | echoReference =>
      refine moves_bind (moves_gets _) fun _ => moves_bind (readArr_moves _ _) fun _ => ?_
      exact moves_bind (agm_moves _ _) fun _ => moves_pure _

end frame

/-! ### Runs -/

section runs
variable {priv : AmpPriv}

/-- The stored items are those that were last put. -/
def MixerRun.Follows (priv : AmpPriv) (x : MixerRun) : Prop :=
  x.state.priv = priv.withItems x.selected

theorem run_follows {p : MixerPut} (hon : p.IsOn priv) {x : MixerRun} (hx : x.Follows priv) :
    Ensures anyFault (p.run priv) x fun _ x' => x'.Follows priv := by
  unfold MixerPut.run
  rw [ensures_bind, ensures_zoom]
  by_cases hk : p.kind = .control
  · obtain ⟨⟨xpriv, calls⟩, selected⟩ := x
    obtain rfl : xpriv = priv.withItems selected := hx
    obtain ⟨kind, pcm, dev, ev⟩ := p
    obtain rfl : kind = .control := hk
    have hput : ampPcmMtdControlPut _ ev ⟨priv.withItems selected, calls⟩ = _ :=
      ampPcmMtdControlPut_run (MixerPut.ctl priv ⟨.control, pcm, dev, ev⟩) ev rfl rfl (pcm_or hon)
        hon.lt
    exact (ensures_iff_of_ok hput).mpr rfl
  · refine ((put_moves hk (p.ctl priv) p.value x.state).mono (fun _ _ => trivial) ?_)
    intro ret g hg
    rw [ensures_bind, ensures_modify, if_neg hk]
    exact Eq.trans hg hx

theorem start_follows (priv : AmpPriv) : (MixerRun.start priv).Follows priv := start_priv priv

/-- The puts of the controls that were formed. -/
abbrev PutOn (priv : AmpPriv) := { p : MixerPut // p.IsOn priv }

def PutOn.run (p : PutOn priv) : Prog MixerRun Crash ℤ := p.1.run priv

theorem firstWithId_of_idsDiffer (h : priv.Ready) (hids : priv.IdsDiffer) {p : MixerPut}
    (hon : p.IsOn priv) : (priv.devs p.pcm).FirstWithId p.dev := by
  intro j hj
  have hj' := List.mem_range'_1.mp hj
  have hlen := (h.filled p.pcm).idxArr
  have hlt := hon.lt
  have hpos := hon.pos
  have hnodup := List.nodup_iff_injective_get.mp (hids p.pcm (pcm_or hon))
  have hj₁ : j - 1 < ((priv.devs p.pcm).idxArr.drop 1).length := by
    rw [List.length_drop]
    omega
  have hd₁ : p.dev - 1 < ((priv.devs p.pcm).idxArr.drop 1).length := by
    rw [List.length_drop]
    omega
  rw [List.getD_eq_getElem _ _ (by omega), List.getD_eq_getElem _ _ (by omega)]
  intro heq
  have hget : ((priv.devs p.pcm).idxArr.drop 1).get ⟨j - 1, hj₁⟩ =
      ((priv.devs p.pcm).idxArr.drop 1).get ⟨p.dev - 1, hd₁⟩ := by
    simp only [List.get_eq_getElem, List.getElem_drop]
    have e₁ : 1 + (j - 1) = j := by omega
    have e₂ : 1 + (p.dev - 1) = p.dev := by omega
    simp only [e₁, e₂]
    exact heq
  have hidx : j - 1 = p.dev - 1 := congrArg Fin.val (hnodup hget)
  omega

theorem firstWithId_of_sound {p : MixerPut} {x : MixerRun} (hs : p.Sound priv x)
    (hk : p.kind.UsesStored) : (priv.devs p.pcm).FirstWithId p.dev := by
  unfold MixerPut.Sound at hs
  rcases hk with hk | hk | hk | hk <;> rw [hk] at hs
  · exact hs.1
  · exact hs.1
  · exact hs.1
  · exact hs.1

/-- In a run of sound puts every put stays inside the arrays and reaches the device that is named by
the item it uses, none for `ZERO`.  When the PCMs have different ids there are no other such runs. -/
theorem mixerPuts_right (h : priv.Ready) (puts : List (PutOn priv)) :
    (Admits PutOn.run (fun x p => p.1.Sound priv x) puts (MixerRun.start priv) →
      Admits PutOn.run (fun x p => p.1.Right priv x) puts (MixerRun.start priv)) ∧
    (priv.IdsDiffer →
      Admits PutOn.run (fun x p => p.1.Right priv x) puts (MixerRun.start priv) →
      Admits PutOn.run (fun x p => p.1.Sound priv x) puts (MixerRun.start priv)) := by
  constructor
  · refine Admits.imp PutOn.run (fun x p hx _ => run_follows p.2 hx) ?_ (start_follows priv)
    intro x p hx hs
    exact (right_iff_sound h p.2 hx (firstWithId_of_sound hs)).mpr hs
  · intro hids
    refine Admits.imp PutOn.run (fun x p hx _ => run_follows p.2 hx) ?_ (start_follows priv)
    intro x p hx hr
    exact (right_iff_sound h p.2 hx fun _ => firstWithId_of_idsDiffer h hids p.2).mp hr

end runs

theorem ready_smallPriv : smallPriv.Ready where
  filled := filled_smallPriv
  rxDir := rfl
  txDir := rfl
  int r := by cases r <;> decide

/-- A put of a control of `PCM100`. -/
def putPcm100 (kind : PutKind) (hkind : kind ≠ .loopback ∧ kind ≠ .echoReference) (item : BitVec 32) :
    PutOn smallPriv :=
  ⟨⟨kind, .rxPcm, 1, { item }⟩, le_rfl, Nat.lt_succ_self 1, .inr ⟨rfl, hkind⟩⟩

/-- The backend is connected and selected, used, and the selection is undone. -/
theorem mixerPuts_right_small : Admits PutOn.run (fun x p => p.1.Right smallPriv x)
    [putPcm100 .connect (by decide) 1, putPcm100 .control (by decide) 1,
      putPcm100 .metadata (by decide) 0, putPcm100 .setCalibration (by decide) 0,
      putPcm100 .control (by decide) 0, putPcm100 .setParam (by decide) 0]
    (MixerRun.start smallPriv) :=
  (mixerPuts_right ready_smallPriv _).1 (by decide +kernel)

/-- An item that `connect` does not have is an access behind the array, and a calibration with `ZERO`
selected is set for the backend with the id 0. -/
theorem mixerPuts_wrong :
    (¬ Admits PutOn.run (fun x p => p.1.Right smallPriv x) [putPcm100 .connect (by decide) 2]
      (MixerRun.start smallPriv)) ∧
    ¬ Admits PutOn.run (fun x p => p.1.Right smallPriv x) [putPcm100 .setCalibration (by decide) 0]
      (MixerRun.start smallPriv) := by
  have hfirst : (smallPriv.devs .rxPcm).FirstWithId 1 := by decide
  have hsound : ∀ kind (hkind : kind ≠ PutKind.loopback ∧ kind ≠ PutKind.echoReference) item,
      (putPcm100 kind hkind item).1.Right smallPriv (MixerRun.start smallPriv) →
        (putPcm100 kind hkind item).1.Sound smallPriv (MixerRun.start smallPriv) :=
    fun kind hkind item => (right_iff_sound ready_smallPriv (putPcm100 kind hkind item).2
      (start_follows smallPriv) fun _ => hfirst).mp
  constructor
  · intro hr
    exact absurd (hsound _ _ _ hr.1) (by decide +kernel)
  · intro hr
    exact absurd (hsound _ _ _ hr.1) (by decide +kernel)

end Agm
