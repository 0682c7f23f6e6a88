import Agm.Metadata

/-! # Devices (`device.c`)

A device wraps one pcm of the sound card.  Its three counters say how many users have it open,
have prepared it and have started it; the pcm is opened by the first `device_open`, prepared by
the first `device_prepare`, stopped by the last `device_stop` and closed by the last
`device_close`, which also clears the other two counters.

The functions run on one device and the external results (`DevState`); `onDevice` runs them on a
device of the service.  Each of them has one specification, which says what it returns and
what it leaves of the device for every external result. -/

namespace Agm

/-- One device and the external results to come. -/
structure DevState where
  obj : DeviceObj
  ext : List Answer

abbrev DevM := Prog DevState Crash

namespace DevM

/-- An external call made for the device. -/
def ask : DevM Answer :=
  Prog.zoom DevState.ext (fun e t => { t with ext := e }) id answer

def obj : DevM DeviceObj := Prog.gets DevState.obj

def put (dev : DeviceObj) : DevM Unit := Prog.modify fun t => { t with obj := dev }

end DevM

/-! ### The operations -/

/-- `device_open`; `pcm_open` and `pcm_is_ready` are one external call. -/
def deviceOpen : DevM ℤ := do
  let dev ← DevM.obj
  if dev.refcnt.open ≠ 0 then do
    DevM.put { dev with refcnt := { dev.refcnt with «open» := dev.refcnt.open + 1 } }
    pure 0
  else
    let pcm ← DevM.ask
    if pcm.code ≠ 0 then pure (- EIO)
    else do
      DevM.put
        { dev with
          state := .devOpened
          refcnt := { dev.refcnt with «open» := dev.refcnt.open + 1 }
          trace := .pcmOpen :: dev.trace }
      pure 0

/-- `device_prepare`. -/
def devicePrepare : DevM ℤ := do
  let dev ← DevM.obj
  if dev.refcnt.prepare ≠ 0 then do
    DevM.put { dev with refcnt := { dev.refcnt with prepare := dev.refcnt.prepare + 1 } }
    pure 0
  else
    let r ← DevM.ask
    if r.code ≠ 0 then do
      DevM.put { dev with trace := .pcmPrepare :: dev.trace }
      pure r.code
    else do
      DevM.put
        { dev with
          state := .devPrepared
          refcnt := { dev.refcnt with prepare := dev.refcnt.prepare + 1 }
          trace := .pcmPrepare :: dev.trace }
      pure 0

/-- `device_start`; the pcm itself is not touched. -/
def deviceStart : DevM ℤ := do
  let dev ← DevM.obj
  if dev.state.toNat < DeviceState.devPrepared.toNat then pure (-1)
  else if dev.refcnt.start ≠ 0 then do
    DevM.put { dev with refcnt := { dev.refcnt with start := dev.refcnt.start + 1 } }
    pure 0
  else do
    DevM.put
      { dev with
        state := .devStarted
        refcnt := { dev.refcnt with start := dev.refcnt.start + 1 } }
    pure 0

/-- `device_stop`. -/
def deviceStop : DevM ℤ := do
  let dev ← DevM.obj
  if dev.refcnt.start = 0 then pure 0
  else if dev.refcnt.start - 1 = 0 then do
    let r ← DevM.ask
    DevM.put
      { dev with
        state := .devStopped
        refcnt := { dev.refcnt with start := dev.refcnt.start - 1 }
        trace := .pcmStop :: dev.trace }
    pure r.code
  else do
    DevM.put { dev with refcnt := { dev.refcnt with start := dev.refcnt.start - 1 } }
    pure 0

/-- `device_close`. -/
def deviceClose : DevM ℤ := do
  let dev ← DevM.obj
  if dev.refcnt.open - 1 = 0 then do
    let r ← DevM.ask
    DevM.put
      { dev with
        state := .devClosed
        refcnt := { «open» := dev.refcnt.open - 1, prepare := 0, start := 0 }
        trace := .pcmClose :: dev.trace }
    pure r.code
  else do
    DevM.put { dev with refcnt := { dev.refcnt with «open» := dev.refcnt.open - 1 } }
    pure 0

/-- `device_set_params`. -/
def deviceSetParams (payload : Payload) : DevM ℤ := do
  let dev ← DevM.obj
  let block ← Prog.zoom DevState.ext (fun e t => { t with ext := e }) id calloc
  if !block then do
    DevM.put { dev with params := none }
    pure (-EINVAL)
  else do
    DevM.put { dev with params := some payload }
    pure 0

/-- `device_set_media_config`. -/
def deviceSetMediaConfig (cfg : MediaConfig) : DevM ℤ := do
  let dev ← DevM.obj
  DevM.put { dev with mediaConfig := cfg }
  pure 0

/-- `device_set_metadata`: the old value is freed before the new one is decoded. -/
def deviceSetMetadata (buf : Payload) : DevM ℤ := do
  let r ← Prog.zoom DevState.ext (fun e t => { t with ext := e }) id (metadataCopy {} buf)
  let dev ← DevM.obj
  DevM.put { dev with metadata := r.2 }
  pure r.1

/-! ### Devices of the service -/

/-- Run a device function; every one of them refuses a `NULL` device. -/
def onDevice (d : Option ℕ) (m : DevM ℤ) : AgmM ℤ :=
  match d with
  | none => pure (-EINVAL)
  | some d =>
      Prog.zoom (fun w => ⟨w.dev d, w.ext⟩)
        (fun t w => { w with dev := Function.update w.dev d t.obj, ext := t.ext })
        Fault.crash m

/-- `device_get_obj`.  The index `num_audio_intfs` passes the test and reads the slot after the
last device. -/
def deviceGetObj (idx : ℕ) : AgmM (ℤ × Option ℕ) := do
  let num ← Prog.gets World.numAudioIntfs
  let past ← Prog.gets World.pastEnd
  if num < idx then pure (-EINVAL, none)
  else pure (0, if idx < num then some idx else past)

/-! ### Specifications -/

section specs
variable {E : Crash → Prop} (t : DevState)

@[simp] theorem ensures_obj (Q : DeviceObj → DevState → Prop) :
    Prog.Ensures E DevM.obj t Q ↔ Q t.obj t := Iff.rfl

@[simp] theorem ensures_put (dev : DeviceObj) (Q : Unit → DevState → Prop) :
    Prog.Ensures E (DevM.put dev) t Q ↔ Q () { t with obj := dev } := Iff.rfl

theorem ensures_ask (Q : Answer → DevState → Prop) :
    Prog.Ensures E DevM.ask t Q ↔ Q (t.ext.headD {}) { t with ext := t.ext.tail } := Iff.rfl

/-- Opening either fails and leaves the device alone, or adds one user; the first user opens the
pcm. -/
theorem deviceOpen_ensures : Prog.Ensures E deviceOpen t fun r t' =>
    (r ≠ 0 ∧ t.obj.refcnt.open = 0 ∧ t'.obj = t.obj) ∨
    (r = 0 ∧ t.obj.refcnt.open ≠ 0 ∧ t'.obj =
      { t.obj with refcnt := { t.obj.refcnt with «open» := t.obj.refcnt.open + 1 } }) ∨
    (r = 0 ∧ t.obj.refcnt.open = 0 ∧ t'.obj =
      { t.obj with
        state := .devOpened
        refcnt := { t.obj.refcnt with «open» := 1 }
        trace := .pcmOpen :: t.obj.trace }) := by
  simp only [deviceOpen, Prog.ensures_bind, ensures_obj, Prog.ensures_ite, ensures_put,
    Prog.ensures_pure, ensures_ask]
  refine ⟨fun h => ?_, fun h => ⟨fun hc => ?_, fun hc => ?_⟩⟩
  · exact .inr (.inl ⟨trivial, h, trivial⟩)
  · exact .inl ⟨by decide, not_not.mp h, trivial⟩
  · have h0 : t.obj.refcnt.open = 0 := not_not.mp h
    exact .inr (.inr ⟨trivial, h0, by rw [h0]; rfl⟩)

/-- Preparing changes neither of the other counters; it prepares the pcm only for the first
user. -/
theorem devicePrepare_ensures : Prog.Ensures E devicePrepare t fun r t' =>
    (r = 0 ∧ t.obj.refcnt.prepare ≠ 0 ∧ t'.obj =
      { t.obj with refcnt := { t.obj.refcnt with prepare := t.obj.refcnt.prepare + 1 } }) ∨
    (r ≠ 0 ∧ t.obj.refcnt.prepare = 0 ∧ t'.obj =
      { t.obj with trace := .pcmPrepare :: t.obj.trace }) ∨
    (r = 0 ∧ t.obj.refcnt.prepare = 0 ∧ t'.obj =
      { t.obj with
        state := .devPrepared
        refcnt := { t.obj.refcnt with prepare := 1 }
        trace := .pcmPrepare :: t.obj.trace }) := by
  simp only [devicePrepare, Prog.ensures_bind, ensures_obj, Prog.ensures_ite, ensures_put,
    Prog.ensures_pure, ensures_ask]
  refine ⟨fun h => ?_, fun h => ⟨fun hc => ?_, fun hc => ?_⟩⟩
  · exact .inl ⟨trivial, h, trivial⟩
  · exact .inr (.inl ⟨hc, not_not.mp h, trivial⟩)
  · have h0 : t.obj.refcnt.prepare = 0 := not_not.mp h
    exact .inr (.inr ⟨trivial, h0, by rw [h0]; rfl⟩)

/-- Starting is refused on a device that is not prepared; otherwise it adds one user. -/
theorem deviceStart_ensures : Prog.Ensures E deviceStart t fun r t' =>
    (r ≠ 0 ∧ t.obj.state.toNat < DeviceState.devPrepared.toNat ∧ t'.obj = t.obj) ∨
    (r = 0 ∧ DeviceState.devPrepared.toNat ≤ t.obj.state.toNat ∧ t.obj.refcnt.start ≠ 0 ∧ t'.obj =
      { t.obj with refcnt := { t.obj.refcnt with start := t.obj.refcnt.start + 1 } }) ∨
    (r = 0 ∧ DeviceState.devPrepared.toNat ≤ t.obj.state.toNat ∧ t.obj.refcnt.start = 0 ∧ t'.obj =
      { t.obj with state := .devStarted, refcnt := { t.obj.refcnt with start := 1 } }) := by
  simp only [deviceStart, Prog.ensures_bind, ensures_obj, Prog.ensures_ite, ensures_put,
    Prog.ensures_pure]
  refine ⟨fun h => ?_, fun h => ⟨fun hs => ?_, fun hs => ?_⟩⟩
  · exact .inl ⟨by decide, h, trivial⟩
  · exact .inr (.inl ⟨trivial, not_lt.mp h, hs, trivial⟩)
  · have h0 : t.obj.refcnt.start = 0 := not_not.mp hs
    exact .inr (.inr ⟨trivial, not_lt.mp h, h0, by rw [h0]; rfl⟩)

/-- Stopping removes one started user if there is one; the last one stops the pcm. -/
theorem deviceStop_ensures : Prog.Ensures E deviceStop t fun _ t' =>
    (t.obj.refcnt.start = 0 ∧ t'.obj = t.obj) ∨
    (t.obj.refcnt.start = 1 ∧ t'.obj =
      { t.obj with
        state := .devStopped
        refcnt := { t.obj.refcnt with start := 0 }
        trace := .pcmStop :: t.obj.trace }) ∨
    (t.obj.refcnt.start ≠ 0 ∧ t.obj.refcnt.start ≠ 1 ∧ t'.obj =
      { t.obj with refcnt := { t.obj.refcnt with start := t.obj.refcnt.start - 1 } }) := by
  simp only [deviceStop, Prog.ensures_bind, ensures_obj, Prog.ensures_ite, ensures_put,
    Prog.ensures_pure, ensures_ask]
  refine ⟨fun h => ?_, fun h => ⟨fun h1 => ?_, fun h1 => ?_⟩⟩
  · exact .inl ⟨h, trivial⟩
  · exact .inr (.inl ⟨by omega, by rw [h1]⟩)
  · exact .inr (.inr ⟨h, by omega, trivial⟩)

/-- Closing removes one user; the last one closes the pcm and clears the other counters. -/
theorem deviceClose_ensures : Prog.Ensures E deviceClose t fun _ t' =>
    (t.obj.refcnt.open = 1 ∧ t'.obj =
      { t.obj with
        state := .devClosed
        refcnt := { «open» := 0, prepare := 0, start := 0 }
        trace := .pcmClose :: t.obj.trace }) ∨
    (t.obj.refcnt.open ≠ 1 ∧ t'.obj =
      { t.obj with refcnt := { t.obj.refcnt with «open» := t.obj.refcnt.open - 1 } }) := by
  simp only [deviceClose, Prog.ensures_bind, ensures_obj, Prog.ensures_ite, ensures_put,
    Prog.ensures_pure, ensures_ask]
  refine ⟨fun h => ?_, fun h => ?_⟩
  · exact .inl ⟨by omega, by rw [h]⟩
  · exact .inr ⟨by omega, trivial⟩

end specs

end Agm
