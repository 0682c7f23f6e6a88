import Agm.SndParser
import Agm.Queries

/-! # The controls of the mixer plugin (`agm_mixer_plugin.c`)

The plugin has four device tables: the backends and the PCMs of each direction.  Entry 0 of a table
is `ZERO`.  From the tables it forms its controls; the number of slots for them is computed before,
by functions of their own.

* **Pointers** to a table are an `AdiRef`.  A table's arrays are lists, with `count` beside them as
  in the source; `AmpDevInfo.Filled` says that they agree.
* **Slots.**  `Forming` has the running control index and the calls that create a control, each
  with the index it is made for.
* **Counters** are integers; `2 ^ 31` controls do not occur.

`controls_exact`: the calls use each of the slots exactly once, and the control in a slot is the one
that the order of the devices and of the kinds of controls has there. -/

namespace Agm

/-! ### Tables -/

/-- `&amp_priv->rx_be_devs` and the others. -/
inductive AdiRef where
  | rxBe | txBe | rxPcm | txPcm
deriving DecidableEq, Repr

/-- `struct amp_dev_info`. -/
structure AmpDevInfo where
  names : List CStr := []
  idxArr : List ℤ := []
  count : ℕ := 0
  dir : Direction
  pcmMtdCtl : List ℤ := []
  getParamPayload : Option Payload := none
  getParamPayloadSize : ℤ := 0
deriving DecidableEq, Repr

/-- The tables of `struct amp_priv`. -/
structure AmpPriv where
  devs : AdiRef → AmpDevInfo

/-- The arrays of a table have `count` entries, the first of them `ZERO`. -/
structure AmpDevInfo.Filled (adi : AmpDevInfo) : Prop where
  names : adi.names.length = adi.count
  idxArr : adi.idxArr.length = adi.count
  zero : 1 ≤ adi.count

def AmpPriv.Filled (priv : AmpPriv) : Prop := ∀ r, (priv.devs r).Filled

/-! ### Numbers of controls -/

def ampBeCtlNameExtn : List String := ["rate ch fmt", "metadata", "setParam"]

def ampPcmCtlNameExtn : List String :=
  ["connect", "disconnect", "control", "metadata", "setParam", "setParamTag", "getTaggedInfo",
    "event", "setCalibration", "getParam", "getBufInfo"]

def ampPcmTxCtlNames : List String := ["loopback", "echoReference", "bufTimestamp"]

def ampPcmRxCtlNames : List String := ["sidetone"]

/-- `amp_get_be_ctl_count`. -/
def ampGetBeCtlCount (priv : AmpPriv) : ℤ :=
  let ctlPerBe : ℤ := ampBeCtlNameExtn.length
  ((priv.devs .rxBe).count - 1) * ctlPerBe + ((priv.devs .txBe).count - 1) * ctlPerBe

/-- `amp_get_pcm_ctl_count`. -/
def ampGetPcmCtlCount (priv : AmpPriv) : ℤ :=
  let rx : ℤ := (priv.devs .rxPcm).count - 1
  let tx : ℤ := (priv.devs .txPcm).count - 1
  rx * ampPcmCtlNameExtn.length + tx * ampPcmCtlNameExtn.length + tx * ampPcmTxCtlNames.length +
    rx * ampPcmRxCtlNames.length

/-! ### Controls -/

/-- The get and the put function of a control, named by the common part of their names. -/
inductive CtlOps where
  | beMediaFmt | beMetadata | beSetParam
  | pcmAifConnect | pcmMtdControl | pcmMetadata | pcmSetParam | pcmTagInfo | pcmEvent
  | pcmCalibration | pcmGetParam | pcmBufInfo | pcmSidetone | pcmLoopback | pcmEchoref | pcmBufTstamp
deriving DecidableEq, Repr

/-- `struct snd_control`; `enum` is the table whose names are the items. -/
structure SndControl where
  name : CStr
  ops : CtlOps
  enum : Option AdiRef
  privateValue : ℤ
  privateData : AdiRef
deriving DecidableEq, Repr

/-- `snprintf` of `"%s %s"` into a slot of `ctl_names`. -/
def ctlName (pname : CStr) (ext : String) : CStr :=
  (pname ++ ' ' :: ext.toList).take (AIF_NAME_MAX_LEN + 16 - 1)

/-- What the `amp_create_*_ctl` functions have in common. -/
def ampCreateCtl (ext : String) (ops : CtlOps) (enum : Option AdiRef) (pname : CStr) (pval : ℤ)
    (pdata : AdiRef) : SndControl :=
  { name := ctlName pname ext, ops, enum, privateValue := pval, privateData := pdata }

def ampCreateConnectCtl (e : AdiRef) := ampCreateCtl "connect" .pcmAifConnect (some e)
def ampCreateDisconnectCtl (e : AdiRef) := ampCreateCtl "disconnect" .pcmAifConnect (some e)
def ampCreateMtdControlCtl (e : AdiRef) := ampCreateCtl "control" .pcmMtdControl (some e)
def ampCreatePcmEventCtl := ampCreateCtl "event" .pcmEvent none
def ampCreatePcmMetadataCtl := ampCreateCtl "metadata" .pcmMetadata none
def ampCreatePcmSetParamCtl (istaggedSetparam : Bool) :=
  ampCreateCtl (if istaggedSetparam then "setParamTag" else "setParam") .pcmSetParam none
def ampCreatePcmGetParamCtl := ampCreateCtl "getParam" .pcmGetParam none
def ampCreatePcmGetTagInfoCtl := ampCreateCtl "getTaggedInfo" .pcmTagInfo none
def ampCreatePcmLoopbackCtl (e : AdiRef) := ampCreateCtl "loopback" .pcmLoopback (some e)
def ampCreatePcmEchorefCtl (e : AdiRef) := ampCreateCtl "echoReference" .pcmEchoref (some e)
def ampCreatePcmSidetoneCtl (e : AdiRef) := ampCreateCtl "sidetone" .pcmSidetone (some e)
def ampCreatePcmCalibrationCtl := ampCreateCtl "setCalibration" .pcmCalibration none
def ampCreatePcmBufTstampCtl := ampCreateCtl "bufTimestamp" .pcmBufTstamp none
def ampCreatePcmBufinfoCtl := ampCreateCtl "getBufInfo" .pcmBufInfo none
def ampCreateMetadataCtl := ampCreateCtl "metadata" .beMetadata none
def ampCreateMediaFmtCtl := ampCreateCtl "rate ch fmt" .beMediaFmt none
def ampCreateBeSetParamCtl := ampCreateCtl "setParam" .beSetParam none

/-! ### Forming -/

/-- The running control index, and the calls so far. -/
structure Forming where
  ctlIdx : ℤ
  calls : List (ℤ × SndControl)

/-- A call of an `amp_create_*_ctl` function. -/
def Forming.create (f : Forming) (ctl : SndControl) : Forming :=
  { ctlIdx := f.ctlIdx + 1, calls := f.calls ++ [(f.ctlIdx, ctl)] }

/-- `for (i = 1; i < adi->count; i++)`, with the name and the id of the device. -/
def AmpDevInfo.forEachDev (adi : AmpDevInfo) (body : ℕ → CStr → ℤ → Forming → Forming)
    (f : Forming) : Forming :=
  (List.range' 1 (adi.count - 1)).foldl
    (fun f i => body i (adi.names.getD i []) (adi.idxArr.getD i 0) f) f

/-- One of the two loops of `amp_form_be_ctls`. -/
def ampFormBeDirCtls (priv : AmpPriv) (r : AdiRef) : Forming → Forming :=
  (priv.devs r).forEachDev fun _ name idx f =>
    let f := f.create (ampCreateMediaFmtCtl name idx r)
    let f := f.create (ampCreateMetadataCtl name idx r)
    f.create (ampCreateBeSetParamCtl name idx r)

/-- `amp_form_be_ctls`. -/
def ampFormBeCtls (priv : AmpPriv) (f : Forming) : Forming :=
  ampFormBeDirCtls priv .txBe (ampFormBeDirCtls priv .rxBe f)

/-- `amp_form_common_pcm_ctls`; `mem` says whether `pcm_mtd_ctl` can be allocated. -/
def ampFormCommonPcmCtls (mem : Bool) (pcm be : AdiRef) (priv : AmpPriv) (f : Forming) :
    ℤ × AmpPriv × Forming :=
  if mem then
    let adi := priv.devs pcm
    (0, { devs := Function.update priv.devs pcm
            { adi with pcmMtdCtl := List.replicate adi.count 0 } },
      adi.forEachDev (fun i name idx f =>
        let f := f.create (ampCreateConnectCtl be name idx pcm)
        let f := f.create (ampCreateDisconnectCtl be name idx pcm)
        let f := f.create (ampCreateMtdControlCtl be name i pcm)
        let f := f.create (ampCreatePcmMetadataCtl name idx pcm)
        let f := f.create (ampCreatePcmSetParamCtl false name idx pcm)
        let f := f.create (ampCreatePcmSetParamCtl true name idx pcm)
        let f := f.create (ampCreatePcmGetTagInfoCtl name idx pcm)
        let f := f.create (ampCreatePcmEventCtl name idx pcm)
        let f := f.create (ampCreatePcmCalibrationCtl name idx pcm)
        let f := f.create (ampCreatePcmGetParamCtl name idx pcm)
        f.create (ampCreatePcmBufinfoCtl name idx pcm)) f)
  else (-ENOMEM, priv, f)

/-- `amp_form_tx_pcm_ctls`. -/
def ampFormTxPcmCtls (priv : AmpPriv) : Forming → Forming :=
  (priv.devs .txPcm).forEachDev fun _ name idx f =>
    let f := f.create (ampCreatePcmLoopbackCtl .rxPcm name idx .txPcm)
    let f := f.create (ampCreatePcmEchorefCtl .rxBe name idx .txPcm)
    f.create (ampCreatePcmBufTstampCtl name idx .txPcm)

/-- `amp_form_rx_pcm_ctls`. -/
def ampFormRxPcmCtls (priv : AmpPriv) : Forming → Forming :=
  (priv.devs .rxPcm).forEachDev fun _ name idx f =>
    f.create (ampCreatePcmSidetoneCtl .txBe name idx .rxPcm)

/-- `amp_form_pcm_ctls`. -/
def ampFormPcmCtls (rxMem txMem : Bool) (priv : AmpPriv) (f : Forming) : ℤ × AmpPriv × Forming :=
  let (ret, priv, f) := ampFormCommonPcmCtls rxMem .rxPcm .rxBe priv f
  if ret ≠ 0 then (ret, priv, f)
  else
    let f := ampFormRxPcmCtls priv f
    let (ret, priv, f) := ampFormCommonPcmCtls txMem .txPcm .txBe priv f
    if ret ≠ 0 then (ret, priv, f)
    else (0, priv, ampFormTxPcmCtls priv f)

/-- The number of slots that the open function allocates, what forming the controls returns, and the
calls that create them. -/
structure Formed where
  totalCtlCnt : ℤ
  ret : ℤ
  calls : List (ℤ × SndControl)

/-- What the open function does between the tables and the registration.  The backends start at slot
0, the PCMs behind them. -/
def ampFormCtls (rxMem txMem : Bool) (priv : AmpPriv) : Formed :=
  let beCtlCnt := ampGetBeCtlCount priv
  let totalCtlCnt := beCtlCnt + ampGetPcmCtlCount priv
  let f := ampFormBeCtls priv { ctlIdx := 0, calls := [] }
  let (ret, _, f) := ampFormPcmCtls rxMem txMem priv { f with ctlIdx := beCtlCnt }
  { totalCtlCnt, ret, calls := f.calls }

/-! ### What the calls are -/

/-- Calls for several controls in a row. -/
def Forming.createAll (f : Forming) (ctls : List SndControl) : Forming := ctls.foldl Forming.create f

/-- The devices of a table: all entries but `ZERO`. -/
def AmpDevInfo.devices (adi : AmpDevInfo) : List (ℕ × CStr × ℤ) :=
  (List.range' 1 (adi.count - 1)).map fun i =>
    (i, adi.names.getD i [], adi.idxArr.getD i 0)

/-- A kind of control: the extension of its name, its functions and the table of its items. -/
abbrev CtlKind := String × CtlOps × Option AdiRef

/-- The control of a kind for a device of table `r`.  The private value is the id of the device, or its
index in the table for the metadata control. -/
def ctlFor (r : AdiRef) (d : ℕ × CStr × ℤ) (k : CtlKind) : SndControl where
  name := ctlName d.2.1 k.1
  ops := k.2.1
  enum := k.2.2
  privateValue := if k.2.1 = .pcmMtdControl then d.1 else d.2.2
  privateData := r

def beKinds : List CtlKind :=
  [("rate ch fmt", .beMediaFmt, none), ("metadata", .beMetadata, none),
    ("setParam", .beSetParam, none)]

def commonPcmKinds (be : AdiRef) : List CtlKind :=
  [("connect", .pcmAifConnect, some be), ("disconnect", .pcmAifConnect, some be),
    ("control", .pcmMtdControl, some be), ("metadata", .pcmMetadata, none),
    ("setParam", .pcmSetParam, none), ("setParamTag", .pcmSetParam, none),
    ("getTaggedInfo", .pcmTagInfo, none), ("event", .pcmEvent, none),
    ("setCalibration", .pcmCalibration, none), ("getParam", .pcmGetParam, none),
    ("getBufInfo", .pcmBufInfo, none)]

def rxPcmKinds : List CtlKind := [("sidetone", .pcmSidetone, some .txBe)]

def txPcmKinds : List CtlKind :=
  [("loopback", .pcmLoopback, some .rxPcm), ("echoReference", .pcmEchoref, some .rxBe),
    ("bufTimestamp", .pcmBufTstamp, none)]

/-- The controls of a table: for one device after the other, one of each kind. -/
def AmpPriv.tableCtls (priv : AmpPriv) (r : AdiRef) (kinds : List CtlKind) : List SndControl :=
  (priv.devs r).devices.flatMap fun d => kinds.map (ctlFor r d)

/-- The controls of the backends. -/
def AmpPriv.beCtls (priv : AmpPriv) : List SndControl :=
  priv.tableCtls .rxBe beKinds ++ priv.tableCtls .txBe beKinds

/-- The controls of the PCMs: as many of them as the memory allows. -/
def AmpPriv.pcmCtls (rxMem txMem : Bool) (priv : AmpPriv) : List SndControl :=
  if rxMem then
    priv.tableCtls .rxPcm (commonPcmKinds .rxBe) ++
      (priv.tableCtls .rxPcm rxPcmKinds ++
        if txMem then
          priv.tableCtls .txPcm (commonPcmKinds .txBe) ++ priv.tableCtls .txPcm txPcmKinds
        else [])
  else []

section calls
variable {priv : AmpPriv} {adi : AmpDevInfo} {f : Forming} {ctls ctls' : List SndControl}
  {pcm be : AdiRef} {rxMem txMem mem : Bool}

theorem Forming.createAll_append :
    f.createAll (ctls ++ ctls') = (f.createAll ctls).createAll ctls' := List.foldl_append

/-- A run of calls goes through consecutive indices. -/
theorem Forming.createAll_eq : f.createAll ctls =
    { ctlIdx := f.ctlIdx + ctls.length
      calls := f.calls ++ ctls.mapIdx fun k ctl => (f.ctlIdx + k, ctl) } := by
  induction ctls generalizing f with
  | nil => simp [createAll]
  | cons ctl ctls ih =>
      have hshift : (ctls.mapIdx fun k c => (f.ctlIdx + 1 + (k : ℤ), c)) =
          ctls.mapIdx fun k c => (f.ctlIdx + ((k + 1 : ℕ) : ℤ), c) := by
        refine congrArg (fun g => ctls.mapIdx g) (funext fun k => funext fun c => ?_)
        push_cast
        rw [add_assoc, add_comm 1]
      show (f.create ctl).createAll ctls = _
      rw [ih, List.mapIdx_cons, List.length_cons]
      simp only [create, List.append_assoc, List.singleton_append, Nat.cast_zero, add_zero,
        Nat.cast_add, Nat.cast_one, hshift]
      congr 1
      omega

/-- A loop whose turn creates the controls of its device. -/
theorem forEachDev_eq {body : ℕ → CStr → ℤ → Forming → Forming} {r : AdiRef}
    {kinds : List CtlKind}
    (h : ∀ i name idx f, body i name idx f = f.createAll (kinds.map (ctlFor r (i, name, idx))))
    (f : Forming) :
    (priv.devs r).forEachDev body f = f.createAll (priv.tableCtls r kinds) := by
  unfold AmpPriv.tableCtls AmpDevInfo.forEachDev AmpDevInfo.devices
  induction List.range' 1 ((priv.devs r).count - 1) generalizing f with
  | nil => rfl
  | cons i is ih =>
      rw [List.foldl_cons, ih, h, List.map_cons, List.flatMap_cons, Forming.createAll_append]

theorem ampFormBeDirCtls_eq (r : AdiRef) (f : Forming) : ampFormBeDirCtls priv r f =
    f.createAll (priv.tableCtls r beKinds) := by
  unfold ampFormBeDirCtls
  refine forEachDev_eq (fun _ _ _ _ => ?_) f
  rfl

theorem ampFormBeCtls_eq : ampFormBeCtls priv f = f.createAll priv.beCtls := by
  unfold AmpPriv.beCtls
  rw [Forming.createAll_append, ← ampFormBeDirCtls_eq, ← ampFormBeDirCtls_eq]
  rfl

theorem ampFormRxPcmCtls_eq : ampFormRxPcmCtls priv f =
    f.createAll (priv.tableCtls .rxPcm rxPcmKinds) := by
  unfold ampFormRxPcmCtls
  refine forEachDev_eq (fun _ _ _ _ => ?_) f
  rfl

theorem ampFormTxPcmCtls_eq : ampFormTxPcmCtls priv f =
    f.createAll (priv.tableCtls .txPcm txPcmKinds) := by
  unfold ampFormTxPcmCtls
  refine forEachDev_eq (fun _ _ _ _ => ?_) f
  rfl

/-- `pcm_mtd_ctl` is the only part of a table that forming changes. -/
def AmpPriv.withMtdCtl (priv : AmpPriv) (pcm : AdiRef) : AmpPriv :=
  { devs := Function.update priv.devs pcm
      { priv.devs pcm with pcmMtdCtl := List.replicate (priv.devs pcm).count 0 } }

@[simp] theorem tableCtls_withMtdCtl (priv : AmpPriv) (pcm r : AdiRef) (kinds : List CtlKind) :
    (priv.withMtdCtl pcm).tableCtls r kinds = priv.tableCtls r kinds := by
  unfold AmpPriv.tableCtls AmpPriv.withMtdCtl
  rcases eq_or_ne r pcm with rfl | hne
  · simp only [Function.update_self]
    rfl
  · simp only [Function.update_of_ne hne]

theorem ampFormCommonPcmCtls_eq : ampFormCommonPcmCtls mem pcm be priv f =
    if mem then (0, priv.withMtdCtl pcm,
      f.createAll (priv.tableCtls pcm (commonPcmKinds be)))
    else (-ENOMEM, priv, f) := by
  unfold ampFormCommonPcmCtls
  split
  · refine congrArg (fun g => ((0 : ℤ), priv.withMtdCtl pcm, g)) ?_
    refine forEachDev_eq (fun _ _ _ _ => ?_) f
    rfl
  · rfl

theorem ampFormPcmCtls_eq (rxMem txMem : Bool) (priv : AmpPriv) (f : Forming) :
    (ampFormPcmCtls rxMem txMem priv f).2.2 = f.createAll (priv.pcmCtls rxMem txMem) ∧
      ((ampFormPcmCtls rxMem txMem priv f).1 = 0 ↔ rxMem = true ∧ txMem = true) := by
  have hfail : (-ENOMEM : ℤ) ≠ 0 := by decide
  unfold ampFormPcmCtls AmpPriv.pcmCtls
  simp only [ampFormCommonPcmCtls_eq, ampFormRxPcmCtls_eq, ampFormTxPcmCtls_eq]
  cases rxMem with
  | false =>
      simp only [Bool.false_eq_true, if_false, if_pos hfail, false_and, iff_false]
      exact ⟨rfl, hfail⟩
  | true =>
      simp only [if_true, ne_eq, not_true, if_false, Forming.createAll_append, tableCtls_withMtdCtl]
      cases txMem with
      | false =>
          simp only [Bool.false_eq_true, if_false, if_pos hfail, and_false, iff_false]
          exact ⟨rfl, hfail⟩
      | true =>
          simp only [if_true, not_true, if_false, Forming.createAll_append, tableCtls_withMtdCtl,
            and_self]

theorem length_tableCtls (r : AdiRef) (kinds : List CtlKind) :
    (priv.tableCtls r kinds).length = ((priv.devs r).count - 1) * kinds.length := by
  simp [AmpPriv.tableCtls, List.length_flatMap, AmpDevInfo.devices, Function.comp_def]

theorem length_beCtls (h : priv.Filled) : (priv.beCtls.length : ℤ) = ampGetBeCtlCount priv := by
  have hrx := (h .rxBe).zero
  have htx := (h .txBe).zero
  unfold AmpPriv.beCtls ampGetBeCtlCount ampBeCtlNameExtn
  rw [List.length_append, length_tableCtls, length_tableCtls]
  unfold beKinds
  simp only [List.length_cons, List.length_nil]
  omega

theorem length_pcmCtls (h : priv.Filled) :
    ((priv.pcmCtls rxMem txMem).length : ℤ) ≤ ampGetPcmCtlCount priv ∧
      (rxMem = true ∧ txMem = true →
        ((priv.pcmCtls rxMem txMem).length : ℤ) = ampGetPcmCtlCount priv) := by
  have hrx := (h .rxPcm).zero
  have htx := (h .txPcm).zero
  unfold ampGetPcmCtlCount ampPcmCtlNameExtn ampPcmTxCtlNames ampPcmRxCtlNames AmpPriv.pcmCtls
  have hcommon : ∀ be, (commonPcmKinds be).length = 11 := by
    intro be
    rfl
  have hrxKinds : rxPcmKinds.length = 1 := rfl
  have htxKinds : txPcmKinds.length = 3 := rfl
  simp only [List.length_cons, List.length_nil]
  cases rxMem with
  | false =>
      simp only [Bool.false_eq_true, if_false, List.length_nil, false_and, false_implies, and_true]
      omega
  | true =>
      cases txMem with
      | false =>
          simp only [Bool.false_eq_true, if_true, if_false, List.length_append, List.length_nil,
            length_tableCtls, hcommon, hrxKinds, and_false, false_implies, and_true]
          omega
      | true =>
          simp only [if_true, List.length_append, length_tableCtls, hcommon, hrxKinds, htxKinds,
            and_self, true_implies]
          omega

/-! ### The devices -/

/-- Device `i` of a table, with its name and its id. -/
structure AmpPriv.IsDev (priv : AmpPriv) (r : AdiRef) (i : ℕ) (name : CStr) (idx : ℤ) : Prop where
  pos : 1 ≤ i
  name : (priv.devs r).names[i]? = some name
  idx : (priv.devs r).idxArr[i]? = some idx

/-- The control names a device of its table, and its private value is the id of this device, or its
index in the table for the metadata control. -/
def SndControl.Identifies (priv : AmpPriv) (ctl : SndControl) : Prop :=
  ∃ i name idx ext, priv.IsDev ctl.privateData i name idx ∧ ctl.name = ctlName name ext ∧
    ctl.privateValue = if ctl.ops = .pcmMtdControl then (i : ℤ) else idx

theorem isDev_of_mem {r : AdiRef} (h : (priv.devs r).Filled) {d : ℕ × CStr × ℤ}
    (hd : d ∈ (priv.devs r).devices) : priv.IsDev r d.1 d.2.1 d.2.2 := by
  obtain ⟨i, hi, rfl⟩ := List.mem_map.mp hd
  obtain ⟨hpos, hlt⟩ := List.mem_range'_1.mp hi
  have hcount : i < (priv.devs r).count := by omega
  refine ⟨hpos, ?_, ?_⟩
  · have hname : i < (priv.devs r).names.length := h.names ▸ hcount
    rw [List.getD_eq_getElem _ _ hname]
    exact List.getElem?_eq_getElem hname
  · have hidx : i < (priv.devs r).idxArr.length := h.idxArr ▸ hcount
    rw [List.getD_eq_getElem _ _ hidx]
    exact List.getElem?_eq_getElem hidx

/-- The controls of a table identify its devices. -/
theorem identifies_of_mem {r : AdiRef} {kinds : List CtlKind} (h : (priv.devs r).Filled)
    {ctl : SndControl} (hmem : ctl ∈ priv.tableCtls r kinds) : ctl.Identifies priv := by
  obtain ⟨d, hd, hctl⟩ := List.mem_flatMap.mp hmem
  obtain ⟨k, -, rfl⟩ := List.mem_map.mp hctl
  exact ⟨d.1, d.2.1, d.2.2, k.1, isDev_of_mem h hd, rfl, rfl⟩

theorem identifies_ctl (h : priv.Filled) :
    ∀ ctl ∈ priv.beCtls ++ priv.pcmCtls rxMem txMem, ctl.Identifies priv := by
  intro ctl hmem
  unfold AmpPriv.beCtls AmpPriv.pcmCtls at hmem
  split_ifs at hmem <;>
    simp only [List.mem_append, List.not_mem_nil, or_false, or_assoc] at hmem
  · rcases hmem with hmem | hmem | hmem | hmem | hmem | hmem
    all_goals exact identifies_of_mem (h _) hmem
  · rcases hmem with hmem | hmem | hmem | hmem
    all_goals exact identifies_of_mem (h _) hmem
  · rcases hmem with hmem | hmem
    all_goals exact identifies_of_mem (h _) hmem

/-- What is formed is one run of calls through the slots, the backends first. -/
theorem ampFormCtls_calls (h : priv.Filled) : (ampFormCtls rxMem txMem priv).calls =
    (priv.beCtls ++ priv.pcmCtls rxMem txMem).mapIdx fun k ctl => ((k : ℤ), ctl) := by
  have hbe : ampFormBeCtls priv { ctlIdx := 0, calls := [] } =
      Forming.createAll { ctlIdx := 0, calls := [] } priv.beCtls := ampFormBeCtls_eq
  have hidx : (Forming.createAll { ctlIdx := 0, calls := [] } priv.beCtls).ctlIdx =
      ampGetBeCtlCount priv := by
    rw [Forming.createAll_eq, ← length_beCtls h]
    exact zero_add _
  unfold ampFormCtls
  dsimp only
  rw [(ampFormPcmCtls_eq _ _ _ _).1, hbe, ← hidx, ← Forming.createAll_append,
    Forming.createAll_eq]
  simp only [List.nil_append, zero_add]

/-- The calls that form the controls create, in slot `k`, the `k`-th of the controls of the tables: for
one device after the other one of each kind, the backends first, with the name of the device and its
id, or its index for the metadata control.  So they go through the slots `0`, `1`, …, each of them once
and none beyond those that were allocated; all of them are used unless an allocation fails. -/
theorem controls_exact (rxMem txMem : Bool) (priv : AmpPriv) (h : priv.Filled) :
    (ampFormCtls rxMem txMem priv).calls =
      (priv.beCtls ++ priv.pcmCtls rxMem txMem).mapIdx (fun k ctl => ((k : ℤ), ctl)) ∧
    (∃ k : ℕ, (ampFormCtls rxMem txMem priv).calls.map Prod.fst = (List.range k).map Nat.cast ∧
      (k : ℤ) ≤ (ampFormCtls rxMem txMem priv).totalCtlCnt ∧
      ((ampFormCtls rxMem txMem priv).ret = 0 →
        (k : ℤ) = (ampFormCtls rxMem txMem priv).totalCtlCnt)) ∧
    ((ampFormCtls rxMem txMem priv).ret = 0 ↔ rxMem = true ∧ txMem = true) ∧
    ∀ call ∈ (ampFormCtls rxMem txMem priv).calls, call.2.Identifies priv := by
  have hret : (ampFormCtls rxMem txMem priv).ret = 0 ↔ rxMem = true ∧ txMem = true :=
    (ampFormPcmCtls_eq rxMem txMem priv _).2
  have htotal : (ampFormCtls rxMem txMem priv).totalCtlCnt =
      ampGetBeCtlCount priv + ampGetPcmCtlCount priv := rfl
  have hbe := length_beCtls h
  have hpcm := @length_pcmCtls priv rxMem txMem h
  refine ⟨ampFormCtls_calls h,
    ⟨(priv.beCtls ++ priv.pcmCtls rxMem txMem).length, ?_, ?_, fun h0 => ?_⟩, hret, ?_⟩
  · rw [ampFormCtls_calls h]
    exact List.ext_getElem (by simp) (by simp)
  · rw [htotal, List.length_append]
    push_cast
    omega
  · have hfull := hpcm.2 (hret.mp h0)
    rw [htotal, List.length_append]
    push_cast
    omega
  · intro call hcall
    rw [ampFormCtls_calls h] at hcall
    obtain ⟨k, hk, rfl⟩ := List.mem_mapIdx.mp hcall
    exact identifies_ctl h _ (List.getElem_mem hk)

end calls

/-- One backend and one PCM of each direction. -/
def smallPriv : AmpPriv where
  devs
    | .rxBe => { names := ["ZERO".toList, "SLIM-DEV1-RX".toList], idxArr := [0, 0], count := 2
                 dir := .rx }
    | .txBe => { names := ["ZERO".toList, "SLIM-DEV1-TX".toList], idxArr := [0, 1], count := 2
                 dir := .tx }
    | .rxPcm => { names := ["ZERO".toList, "PCM100".toList], idxArr := [0, 100], count := 2
                  dir := .rx }
    | .txPcm => { names := ["ZERO".toList, "PCM101".toList], idxArr := [0, 101], count := 2
                  dir := .tx }

theorem filled_smallPriv : smallPriv.Filled := by
  intro r
  cases r <;> exact ⟨rfl, rfl, by decide⟩

theorem controls_exact_small :
    (ampFormCtls true true smallPriv).ret = 0 ∧ (ampFormCtls true true smallPriv).totalCtlCnt = 32 ∧
      ∀ call ∈ (ampFormCtls true true smallPriv).calls, call.2.Identifies smallPriv :=
  have h := controls_exact true true smallPriv filled_smallPriv
  ⟨h.2.2.1.mpr ⟨rfl, rfl⟩, by decide, h.2.2.2⟩

end Agm
