import Agm.Refine

/-! # The locks of the devices

Each `device_obj` has a mutex.  The functions of `device.c` take it before they look at the
counters, the state or the cached parameters, and `session_connect_aif` is to hold it while it
sends the cached parameters.  Here those functions are written out with their calls of
`pthread_mutex_lock` and `pthread_mutex_unlock`: releasing a lock that is not held, taking one that
is, and touching the guarded fields without it are faults (`LockFault`).  No other function of the
service names a device lock, so a run of the service is a sequence of such calls with arbitrary
changes in between (`LockCall`).

`device_set_params` and the last part of `session_connect_aif` begin with an unlock.
`locks_disciplined_iff`: the discipline is kept along a run if and only if it gets to neither. -/

namespace Agm

open Prog

/-- Why a call stops: a breach of the discipline, or a crash that has nothing to do with it. -/
inductive LockFault where
  | deadlock (d : ℕ)
  | unlockFree (d : ℕ)
  | unguarded (d : ℕ)
  | service (f : Fault)
deriving DecidableEq, Repr

/-- The service and the locks that are held. -/
structure LockState where
  world : World
  held : ℕ → Bool

abbrev LockM := Prog LockState LockFault

namespace Locked

/-- `pthread_mutex_lock` by the only thread. -/
def lock (d : ℕ) : LockM Unit := do
  let held ← Prog.gets fun g => g.held d
  if held then Prog.fault (.deadlock d)
  else Prog.modify fun g => { g with held := Function.update g.held d true }

/-- `pthread_mutex_unlock`. -/
def unlock (d : ℕ) : LockM Unit := do
  let held ← Prog.gets fun g => g.held d
  if held then Prog.modify fun g => { g with held := Function.update g.held d false }
  else Prog.fault (.unlockFree d)

/-- A read of the guarded fields. -/
def readDev (d : ℕ) : LockM DeviceObj := do
  let held ← Prog.gets fun g => g.held d
  if held then Prog.gets fun g => g.world.dev d else Prog.fault (.unguarded d)

/-- A write of the guarded fields. -/
def writeDev (d : ℕ) (dev : DeviceObj) : LockM Unit := do
  let held ← Prog.gets fun g => g.held d
  if held then
    Prog.modify fun g =>
      { g with world := { g.world with dev := Function.update g.world.dev d dev } }
  else Prog.fault (.unguarded d)

/-- Code that names no device lock. -/
def service {α : Type} (m : AgmM α) : LockM α :=
  Prog.zoom LockState.world (fun w g => { g with world := w }) LockFault.service m

def ask : LockM Answer := service (env answer)

/-- The label `done` of the functions of `device.c`. -/
def done (d : ℕ) (ret : ℤ) : LockM ℤ := do
  unlock d
  pure ret

/-! ### `device.c` -/

/-- `device_open`. -/
def deviceOpen : Option ℕ → LockM ℤ
  | none => pure (-EINVAL)
  | some d => do
      lock d
      let dev ← readDev d
      if dev.refcnt.open ≠ 0 then do
        writeDev d { dev with refcnt := { dev.refcnt with «open» := dev.refcnt.open + 1 } }
        done d 0
      else
        let pcm ← ask
        if pcm.code ≠ 0 then done d (- EIO)
        else do
          writeDev d
            { dev with
              state := .devOpened
              refcnt := { dev.refcnt with «open» := dev.refcnt.open + 1 }
              trace := .pcmOpen :: dev.trace }
          done d 0

/-- `device_prepare`; a device that is prepared already does not go to `done`. -/
def devicePrepare : Option ℕ → LockM ℤ
  | none => pure (-EINVAL)
  | some d => do
      lock d
      let dev ← readDev d
      if dev.refcnt.prepare ≠ 0 then do
        writeDev d { dev with refcnt := { dev.refcnt with prepare := dev.refcnt.prepare + 1 } }
        unlock d
        pure 0
      else
        let r ← ask
        if r.code ≠ 0 then do
          writeDev d { dev with trace := .pcmPrepare :: dev.trace }
          done d r.code
        else do
          writeDev d
            { dev with
              state := .devPrepared
              refcnt := { dev.refcnt with prepare := dev.refcnt.prepare + 1 }
              trace := .pcmPrepare :: dev.trace }
          done d 0

/-- `device_start`. -/
def deviceStart : Option ℕ → LockM ℤ
  | none => pure (-EINVAL)
  | some d => do
      lock d
      let dev ← readDev d
      if dev.state.toNat < DeviceState.devPrepared.toNat then done d (-1)
      else if dev.refcnt.start ≠ 0 then do
        writeDev d { dev with refcnt := { dev.refcnt with start := dev.refcnt.start + 1 } }
        done d 0
      else do
        writeDev d
          { dev with
            state := .devStarted
            refcnt := { dev.refcnt with start := dev.refcnt.start + 1 } }
        done d 0

/-- `device_stop`. -/
def deviceStop : Option ℕ → LockM ℤ
  | none => pure (-EINVAL)
  | some d => do
      lock d
      let dev ← readDev d
      if dev.refcnt.start = 0 then done d 0
      else if dev.refcnt.start - 1 = 0 then do
        let r ← ask
        writeDev d
          { dev with
            state := .devStopped
            refcnt := { dev.refcnt with start := dev.refcnt.start - 1 }
            trace := .pcmStop :: dev.trace }
        done d r.code
      else do
        writeDev d { dev with refcnt := { dev.refcnt with start := dev.refcnt.start - 1 } }
        done d 0

/-- `device_close`. -/
def deviceClose : Option ℕ → LockM ℤ
  | none => pure (-EINVAL)
  | some d => do
      lock d
      let dev ← readDev d
      if dev.refcnt.open - 1 = 0 then do
        let r ← ask
        writeDev d
          { dev with
            state := .devClosed
            refcnt := { «open» := dev.refcnt.open - 1, prepare := 0, start := 0 }
            trace := .pcmClose :: dev.trace }
        done d r.code
      else do
        writeDev d { dev with refcnt := { dev.refcnt with «open» := dev.refcnt.open - 1 } }
        done d 0

/-- `device_set_params`: the first call is an unlock, and nothing checks for `NULL`. -/
def deviceSetParams (payload : Payload) : Option ℕ → LockM ℤ
  | none => Prog.fault (.service (.crash .nullDeref))
  | some d => do
      unlock d
      let dev ← readDev d
      let block ← service (env calloc)
      if !block then do
        writeDev d { dev with params := none }
        done d (-EINVAL)
      else do
        writeDev d { dev with params := some payload }
        done d 0

/-! ### `session_connect_aif` -/

/-- Step 2.c for the device; it begins with an unlock. -/
def sendDeviceParams (s i : ℕ) : LockM ℤ := do
  let sess ← service (getSess s)
  let aif ← service (getAif s i)
  match aif.devObj with
  | none => Prog.fault (.service (.crash .nullDeref))
  | some d => do
      unlock d
      let dev ← readDev d
      match dev.params with
      | none => done d 0
      | some payload =>
          if dev.state = .devOpened then do
            let ret ← service (graphSetConfig sess.graph (.device d) payload)
            if ret ≠ 0 then done d ret
            else do
              let dev ← readDev d
              writeDev d { dev with params := none }
              done d 0
          else done d 0

/-- Everything before the labels. -/
def connectSteps (s i openedCount : ℕ) : LockM ConnectExit := do
  let merged ← service (mergeAif s i)
  match merged with
  | none => pure (.done (-ENOMEM))
  | some md =>
      let aif ← service (getAif s i)
      let ret ← deviceOpen aif.devObj
      if ret ≠ 0 then pure (.done ret) else
      let exit ← service (connectGraph s i openedCount md)
      match exit with
      | .done _ => do
          let ret ← service (sendSessionParams s)
          if ret ≠ 0 then pure (.graphCleanup ret md) else
          let ret ← service (sendAifParams s i)
          if ret ≠ 0 then pure (.graphCleanup ret md) else
          let ret ← sendDeviceParams s i
          if ret ≠ 0 then pure (.graphCleanup ret md) else pure (.done 0)
      | _ => pure exit

/-- `session_connect_aif`. -/
def sessionConnectAif (s i openedCount : ℕ) : LockM ℤ := do
  let exit ← connectSteps s i openedCount
  let aif ← service (getAif s i)
  match exit with
  | .done ret => pure ret
  | .graphCleanup ret md => do
      let _ ← service (graphCleanup s openedCount md)
      let _ ← deviceClose aif.devObj
      pure ret
  | .closeDevice ret => do
      let _ ← deviceClose aif.devObj
      pure ret

end Locked

/-! ### Runs -/

/-- What names a device lock, and what happens in between. -/
inductive LockCall where
  | deviceOpen (d : Option ℕ)
  | devicePrepare (d : Option ℕ)
  | deviceStart (d : Option ℕ)
  | deviceStop (d : Option ℕ)
  | deviceClose (d : Option ℕ)
  | deviceSetParams (d : Option ℕ) (payload : Payload)
  | sessionConnectAif (s i openedCount : ℕ)
  | other (f : World → World)

namespace LockCall

def run : LockCall → LockM ℤ
  | deviceOpen d => Locked.deviceOpen d
  | devicePrepare d => Locked.devicePrepare d
  | deviceStart d => Locked.deviceStart d
  | deviceStop d => Locked.deviceStop d
  | deviceClose d => Locked.deviceClose d
  | deviceSetParams d payload => Locked.deviceSetParams payload d
  | sessionConnectAif s i openedCount => Locked.sessionConnectAif s i openedCount
  | other f => do
      Prog.modify fun g => { g with world := f g.world }
      pure 0

end LockCall

/-- The fault is no breach of the discipline. -/
def LockFault.IsService : LockFault → Prop
  | .service _ => True
  | _ => False

/-- No lock is held. -/
def LockState.Free (g : LockState) : Prop := ∀ d, g.held d = false

/-- The call unlocks only what it holds, touches the guarded fields only under the lock, and leaves
no lock behind. -/
def LockCall.Disciplined (g : LockState) (c : LockCall) : Prop :=
  Ensures LockFault.IsService c.run g fun _ g' => g'.Free

/-- Whether `session_connect_aif` gets as far as the cached parameters of the device. -/
def reachesDeviceParams (s i openedCount : ℕ) : AgmM Bool := do
  let merged ← mergeAif s i
  match merged with
  | none => pure false
  | some md =>
      let aif ← getAif s i
      let ret ← onDevice aif.devObj deviceOpen
      if ret ≠ 0 then pure false else
      let exit ← connectGraph s i openedCount md
      match exit with
      | .done _ => do
          let ret ← sendSessionParams s
          if ret ≠ 0 then pure false else
          let ret ← sendAifParams s i
          if ret ≠ 0 then pure false else
          let aif ← getAif s i
          pure aif.devObj.isSome
      | _ => pure false

/-- The call is `device_set_params` of a device, or it is a `session_connect_aif` in which nothing
fails before the cached parameters of the device. -/
def LockCall.UnlocksFirst (g : LockState) : LockCall → Prop
  | deviceSetParams d _ => d ≠ none
  | sessionConnectAif s i openedCount =>
      Ensures noFault (reachesDeviceParams s i openedCount) g.world fun b _ => b = true
  | _ => False

/-! ### The functions of `device.c` -/

section primitives
variable {E : LockFault → Prop} {w : World} {h : ℕ → Bool} {d : ℕ}

theorem ensures_lock (hd : h d = false) (Q : Unit → LockState → Prop) :
    Ensures E (Locked.lock d) ⟨w, h⟩ Q ↔ Q () ⟨w, Function.update h d true⟩ := by
  have hnot : ¬ h d = true := by rw [hd]; decide
  unfold Locked.lock
  rw [ensures_bind, ensures_gets, if_neg hnot, ensures_modify]

/-- Releasing the lock leaves what was held before it was taken. -/
theorem ensures_unlock (hd : h d = false) (Q : Unit → LockState → Prop) :
    Ensures E (Locked.unlock d) ⟨w, Function.update h d true⟩ Q ↔ Q () ⟨w, h⟩ := by
  have hheld : Function.update h d true d = true := Function.update_self d true h
  have hback : Function.update (Function.update h d true) d false = h := by
    rw [Function.update_idem, ← hd, Function.update_eq_self]
  unfold Locked.unlock
  rw [ensures_bind, ensures_gets, if_pos hheld, ensures_modify, hback]

theorem ensures_done (hd : h d = false) (ret : ℤ) (Q : ℤ → LockState → Prop) :
    Ensures E (Locked.done d ret) ⟨w, Function.update h d true⟩ Q ↔ Q ret ⟨w, h⟩ := by
  unfold Locked.done
  rw [ensures_bind, ensures_unlock hd, ensures_pure]

theorem ensures_readDev (Q : DeviceObj → LockState → Prop) :
    Ensures E (Locked.readDev d) ⟨w, Function.update h d true⟩ Q ↔
      Q (w.dev d) ⟨w, Function.update h d true⟩ := by
  have hheld : Function.update h d true d = true := Function.update_self d true h
  unfold Locked.readDev
  rw [ensures_bind, ensures_gets, if_pos hheld, ensures_gets]

theorem ensures_writeDev (dev : DeviceObj) (Q : Unit → LockState → Prop) :
    Ensures E (Locked.writeDev d dev) ⟨w, Function.update h d true⟩ Q ↔
      Q () ⟨{ w with dev := Function.update w.dev d dev }, Function.update h d true⟩ := by
  have hheld : Function.update h d true d = true := Function.update_self d true h
  unfold Locked.writeDev
  rw [ensures_bind, ensures_gets, if_pos hheld, ensures_modify]

theorem ensures_lockAsk (Q : Answer → LockState → Prop) :
    Ensures E Locked.ask ⟨w, h⟩ Q ↔ Q (w.ext.headD {}) ⟨{ w with ext := w.ext.tail }, h⟩ := Iff.rfl

theorem ensures_service {α : Type} (m : AgmM α) (Q : α → LockState → Prop) :
    Ensures E (Locked.service m) ⟨w, h⟩ Q ↔
      Ensures (fun e => E (.service e)) m w fun a w' => Q a ⟨w', h⟩ := ensures_zoom m Q

end primitives

/-- The function with its locks does what it does without them, and leaves no lock behind. -/
def Erases (l : LockM ℤ) (m : AgmM ℤ) : Prop :=
  ∀ g : LockState, g.Free → Ensures noFault l g fun r g' =>
    Ensures noFault m g.world (fun r' w' => r' = r ∧ w' = g'.world) ∧ g'.held = g.held

/-- The functions of `device.c` refuse a `NULL` device before they take a lock. -/
theorem erases_none (m : DevM ℤ) : Erases (pure (-EINVAL)) (onDevice none m) :=
  fun _ _ => ⟨⟨rfl, rfl⟩, rfl⟩

theorem deviceOpen_erases (p : Option ℕ) :
    Erases (Locked.deviceOpen p) (onDevice p deviceOpen) := by
  cases p with
  | none => exact erases_none _
  | some d =>
      rintro ⟨w, h⟩ hfree
      have hd : h d = false := hfree d
      unfold Locked.deviceOpen onDevice deviceOpen
      simp only [ensures_bind, ensures_lock hd, ensures_readDev, ensures_ite, ensures_writeDev,
        ensures_done hd, ensures_lockAsk, ensures_zoom, ensures_obj, ensures_put, ensures_pure,
        ensures_ask]
      simp +contextual [Function.update_eq_self]

theorem devicePrepare_erases (p : Option ℕ) :
    Erases (Locked.devicePrepare p) (onDevice p devicePrepare) := by
  cases p with
  | none => exact erases_none _
  | some d =>
      rintro ⟨w, h⟩ hfree
      have hd : h d = false := hfree d
      unfold Locked.devicePrepare onDevice devicePrepare
      simp only [ensures_bind, ensures_lock hd, ensures_readDev, ensures_ite, ensures_writeDev,
        ensures_done hd, ensures_unlock hd, ensures_lockAsk, ensures_zoom, ensures_obj, ensures_put,
        ensures_pure, ensures_ask]
      simp +contextual

theorem deviceStart_erases (p : Option ℕ) :
    Erases (Locked.deviceStart p) (onDevice p deviceStart) := by
  cases p with
  | none => exact erases_none _
  | some d =>
      rintro ⟨w, h⟩ hfree
      have hd : h d = false := hfree d
      unfold Locked.deviceStart onDevice deviceStart
      simp only [ensures_bind, ensures_lock hd, ensures_readDev, ensures_ite, ensures_writeDev,
        ensures_done hd, ensures_zoom, ensures_obj, ensures_put, ensures_pure]
      simp +contextual [Function.update_eq_self]

theorem deviceStop_erases (p : Option ℕ) :
    Erases (Locked.deviceStop p) (onDevice p deviceStop) := by
  cases p with
  | none => exact erases_none _
  | some d =>
      rintro ⟨w, h⟩ hfree
      have hd : h d = false := hfree d
      unfold Locked.deviceStop onDevice deviceStop
      simp only [ensures_bind, ensures_lock hd, ensures_readDev, ensures_ite, ensures_writeDev,
        ensures_done hd, ensures_lockAsk, ensures_zoom, ensures_obj, ensures_put, ensures_pure,
        ensures_ask]
      simp +contextual [Function.update_eq_self]

theorem deviceClose_erases (p : Option ℕ) :
    Erases (Locked.deviceClose p) (onDevice p deviceClose) := by
  cases p with
  | none => exact erases_none _
  | some d =>
      rintro ⟨w, h⟩ hfree
      have hd : h d = false := hfree d
      unfold Locked.deviceClose onDevice deviceClose
      simp only [ensures_bind, ensures_lock hd, ensures_readDev, ensures_ite, ensures_writeDev,
        ensures_done hd, ensures_lockAsk, ensures_zoom, ensures_obj, ensures_put, ensures_pure,
        ensures_ask]
      simp +contextual

theorem Erases.disciplined {l : LockM ℤ} {m : AgmM ℤ} (he : Erases l m) {g : LockState}
    (hg : g.Free) : Ensures LockFault.IsService l g fun _ g' => g'.Free := by
  refine (he g hg).mono (fun e hfault => hfault.elim) ?_
  rintro r g' ⟨-, hheld⟩ d
  rw [hheld]
  exact hg d

/-! ### How far `session_connect_aif` gets -/

/-- The program with locks breaches the discipline exactly if the other one returns `true`, and
holds the locks `h` if it returns. -/
def Tracks {α : Type} (h : ℕ → Bool) (l : LockM α) (m : AgmM Bool) (w : World) : Prop :=
  Ensures (fun e => e.IsService ↔ ¬ Ensures noFault m w fun b _ => b = true) l ⟨w, h⟩
    fun _ g' => g'.held = h ∧ ¬ Ensures noFault m w fun b _ => b = true

section
variable {h : ℕ → Bool} {w : World} {α β : Type}

theorem tracks_pure (a : α) : Tracks h (pure a) (pure false) w :=
  ⟨rfl, fun hb => nomatch hb⟩

theorem tracks_service {m : AgmM β} {f : β → LockM α} {k : β → AgmM Bool}
    (hf : ∀ b w', Tracks h (f b) (k b) w') : Tracks h (Locked.service m >>= f) (m >>= k) w := by
  unfold Tracks
  cases hm : m w with
  | error e =>
      have hl : Locked.service m ⟨w, h⟩ = .error (.service e) := by
        unfold Locked.service Prog.zoom
        rw [hm]
      rw [ensures_bind_error hl, ensures_bind_error hm]
      exact ⟨fun _ hno => hno, fun _ => trivial⟩
  | ok p =>
      have hl : Locked.service m ⟨w, h⟩ = .ok (p.1, ⟨p.2, h⟩) := by
        unfold Locked.service Prog.zoom
        rw [hm]
      rw [ensures_bind_ok hl, ensures_bind_ok hm]
      exact hf p.1 p.2

theorem tracks_erases {m : AgmM ℤ} {l : LockM ℤ} {f : ℤ → LockM α} {k : ℤ → AgmM Bool}
    (hfree : ∀ d, h d = false) (he : Erases l m) (hf : ∀ b w', Tracks h (f b) (k b) w') :
    Tracks h (l >>= f) (m >>= k) w := by
  unfold Tracks
  obtain ⟨r, ⟨w₁, h₁⟩, hl, hsame, hheld⟩ := (he ⟨w, h⟩ hfree).exists_ok
  obtain ⟨r', w', hm, rfl, rfl⟩ := hsame.exists_ok
  obtain rfl : h₁ = h := hheld
  rw [ensures_bind_ok hl, ensures_bind_ok (s := w) hm]
  exact hf r' w'

theorem tracks_ite {c : Prop} [Decidable c] {l l' : LockM α} {m m' : AgmM Bool}
    (hl : Tracks h l m w) (hl' : Tracks h l' m' w) :
    Tracks h (if c then l else l') (if c then m else m') w := by
  split_ifs
  · exact hl
  · exact hl'

/-- The cached parameters of a device are reached with the lock free. -/
theorem sendDeviceParams_tracks (hfree : ∀ d, h d = false) (s i : ℕ) {f : ℤ → LockM α} :
    Tracks h (Locked.sendDeviceParams s i >>= f)
      (do let aif ← getAif s i; pure aif.devObj.isSome) w := by
  unfold Tracks Locked.sendDeviceParams
  simp only [ensures_bind, ensures_service, ensures_getSess, ensures_getAif, ensures_pure]
  cases (w.aif s i).devObj with
  | none => exact ⟨fun _ h => (by cases h), fun _ => trivial⟩
  | some d =>
      have hnot : ¬ h d = true := by rw [hfree d]; decide
      dsimp only
      rw [ensures_bind, Locked.unlock, ensures_bind, ensures_gets, if_neg hnot, ensures_fault]
      exact ⟨fun hno => hno.elim, fun hno => absurd rfl hno⟩

theorem connectSteps_tracks (hfree : ∀ d, h d = false) (s i n : ℕ) :
    Tracks h (Locked.connectSteps s i n) (reachesDeviceParams s i n) w := by
  refine tracks_service fun merged w => ?_
  cases merged with
  | none => exact tracks_pure _
  | some md =>
      refine tracks_service fun aif w => ?_
      refine tracks_erases hfree (deviceOpen_erases _) fun ret w => ?_
      refine tracks_ite (tracks_pure _) ?_
      refine tracks_service fun exit w => ?_
      cases exit with
      | closeDevice ret => exact tracks_pure _
      | graphCleanup ret md => exact tracks_pure _
      | done ret =>
          refine tracks_service fun ret w => tracks_ite (tracks_pure _) ?_
          refine tracks_service fun ret w => tracks_ite (tracks_pure _) ?_
          exact sendDeviceParams_tracks hfree s i

end

/-! ### One call -/

/-- `session_connect_aif` keeps the discipline unless it reaches the parameters of the device. -/
theorem sessionConnectAif_disciplined_iff {g : LockState} (hg : g.Free) (s i n : ℕ) :
    Ensures LockFault.IsService (Locked.sessionConnectAif s i n) g (fun _ g' => g'.Free) ↔
      ¬ Ensures noFault (reachesDeviceParams s i n) g.world fun b _ => b = true := by
  have htracks : Tracks g.held _ _ g.world := connectSteps_tracks hg s i n
  have hclose : ∀ (p : Option ℕ) (ret : ℤ) (g' : LockState), g'.Free →
      Ensures LockFault.IsService (do let _ ← Locked.deviceClose p; pure ret) g'
        fun _ g'' => g''.Free := by
    intro p ret g' hg'
    rw [ensures_bind]
    exact ((deviceClose_erases p).disciplined hg').imp fun _ _ h => h
  unfold Tracks at htracks
  unfold Locked.sessionConnectAif
  cases hsteps : Locked.connectSteps s i n g with
  | error e =>
      rw [ensures_bind_error hsteps]
      simpa only [Ensures, hsteps] using htracks
  | ok p =>
      obtain ⟨exit, ⟨w', h'⟩⟩ := p
      obtain ⟨rfl, hnot⟩ := htracks.of_ok hsteps
      rw [ensures_bind_ok hsteps, ensures_bind, ensures_service]
      refine ⟨fun _ => hnot, fun _ => ?_⟩
      rw [ensures_getAif]
      cases exit with
      | done ret => exact hg
      | closeDevice ret => exact hclose _ ret _ hg
      | graphCleanup ret md =>
          dsimp only
          rw [ensures_bind, ensures_service]
          exact ensures_of_forall (fun _ => trivial) fun _ w'' => hclose _ ret _ hg

/-- A call made with all locks free is disciplined exactly if it does not begin with an unlock. -/
theorem LockCall.disciplined_iff {g : LockState} (hg : g.Free) (c : LockCall) :
    c.Disciplined g ↔ ¬ c.UnlocksFirst g := by
  have herases : ∀ {l : LockM ℤ} {m : AgmM ℤ}, Erases l m →
      (Ensures LockFault.IsService l g (fun _ g' => g'.Free) ↔ ¬ False) := fun he =>
    ⟨fun _ => id, fun _ => he.disciplined hg⟩
  cases c with
  | deviceOpen d => exact herases (deviceOpen_erases d)
  | devicePrepare d => exact herases (devicePrepare_erases d)
  | deviceStart d => exact herases (deviceStart_erases d)
  | deviceStop d => exact herases (deviceStop_erases d)
  | deviceClose d => exact herases (deviceClose_erases d)
  | sessionConnectAif s i n => exact sessionConnectAif_disciplined_iff hg s i n
  | other f => exact ⟨fun _ => id, fun _ => hg⟩
  | deviceSetParams d payload =>
      cases d with
      | none => exact ⟨fun _ hno => hno rfl, fun _ => trivial⟩
      | some d =>
          have hnot : ¬ g.held d = true := by rw [hg d]; decide
          unfold LockCall.Disciplined LockCall.run Locked.deviceSetParams Locked.unlock
          dsimp only
          rw [ensures_bind, ensures_bind, ensures_gets, if_neg hnot, ensures_fault]
          exact ⟨fun hno => hno.elim, fun hno => absurd nofun hno⟩

/-- Along every run from a state in which no lock is held, all calls are disciplined if and only if
none of them is `device_set_params` of a device or a `session_connect_aif` that gets as far as the
cached parameters of the device. -/
theorem locks_disciplined_iff {g : LockState} (hg : g.Free) (calls : List LockCall) :
    Admits LockCall.run (fun g c => c.Disciplined g) calls g ↔
      Admits LockCall.run (fun g c => ¬ c.UnlocksFirst g) calls g := by
  apply admits_congr LockCall.run (I := LockState.Free) (fun g c hg => c.disciplined_iff hg) _ calls
    g hg
  intro g c _ hc
  exact hc.mono (fun _ _ => trivial) fun _ _ h => h

/-- The service after start-up, with all locks free. -/
def LockState.startUp (num : ℕ) : LockState := ⟨Agm.startUp num, fun _ => false⟩

/-- Two sessions use a device, and a third one fails to open it. -/
theorem locks_disciplined_iff_shared :
    Admits LockCall.run (fun g c => c.Disciplined g)
      [.deviceOpen (some 1), .deviceOpen (some 1), .devicePrepare (some 1), .deviceStart (some 1),
        .deviceStop (some 1), .deviceClose (some 1), .deviceClose (some 1),
        .other fun w => { w with ext := [{ code := 1 }] }, .deviceOpen (some 1)] (.startUp 4) :=
  (locks_disciplined_iff (fun _ => rfl) _).mpr
    ⟨id, id, id, id, id, id, id, id, id, trivial⟩

/-- Caching parameters on a device that nobody uses. -/
theorem locks_disciplined_iff_setParams :
    ¬ Admits LockCall.run (fun g c => c.Disciplined g) [.deviceSetParams (some 0) [7]]
      (.startUp 4) :=
  fun h => h.1

end Agm
