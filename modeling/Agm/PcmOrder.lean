import Agm.Device
import Agm.Lib.Run

/-! # The order of the pcm calls on one device

Any number of sessions use one device, each through its own pair.  `Users` holds the device and
the states of the pairs; `Users.step` is one device call of one pair, made only where the test
of the session function that issues it lets the pair through.  Every pcm call succeeds.

`device_stop` leaves `refcnt.prepare` alone, so a pair that prepares a stopped device counts
itself in and calls no `pcm_prepare`; and `device_start` lets `DEV_STOPPED` pass, which is above
`DEV_PREPARED`.  `pcm_prepared_iff`: the device starts right after a `pcm_prepare` in exactly
the runs in which no pair starts it while it is `DEV_STOPPED`. -/

namespace Agm

open Prog Run

/-- The device calls that sessions make. -/
inductive DevOp where
  | open | prepare | start | stop
  /-- The `device_stop` at the label `unwind` of `session_start`. -/
  | undo
  | close
deriving DecidableEq, Repr

namespace DevOp

def run : DevOp → DevM ℤ
  | .open => deviceOpen
  | prepare => devicePrepare
  | start => deviceStart
  | stop => deviceStop
  | undo => deviceStop
  | close => deviceClose

/-- The test a pair passes before the call, in `session_connect_aif`, `session_prepare`,
`session_start`, `session_stop` and `session_close`. -/
def lets : DevOp → AifState → Bool
  | .open, st => !st.isOpened
  | prepare, st => st = .aifOpened || st = .aifStopped
  | start, st => st = .aifOpened || st = .aifPrepared || st = .aifStopped
  | stop, st => st = .aifStarted
  | undo, st => st = .aifStarted
  | close, st => st.isOpened

/-- The state of the pair after the call. -/
def next : DevOp → AifState
  | .open => .aifOpened
  | prepare => .aifPrepared
  | start => .aifStarted
  | stop => .aifStopped
  | undo => .aifOpened
  | close => .aifClosed

end DevOp

/-- One device and the pairs of the sessions that use it. -/
structure Users (U : Type) where
  dev : DeviceObj := {}
  pair : U → AifState := fun _ => .aifClosed

/-- The device after a call in which every pcm call succeeds, and the code the call returns. -/
def DevOp.on (op : DevOp) (dev : DeviceObj) : ℤ × DeviceObj :=
  match op.run ⟨dev, []⟩ with
  | .ok (r, t) => (r, t.obj)
  | .error _ => (-EINVAL, dev)

section
variable {U : Type} [DecidableEq U]

/-- One call of one user; a user that may not make the call does not make it. -/
def Users.step (x : Users U) (call : U × DevOp) : Users U :=
  if call.2.lets (x.pair call.1) then
    let (r, dev) := call.2.on x.dev
    { dev, pair := if r = 0 then Function.update x.pair call.1 call.2.next else x.pair }
  else x

/-- The call takes `refcnt.start` from 0 to 1. -/
def Users.Starts (x : Users U) (call : U × DevOp) : Prop :=
  x.dev.refcnt.start = 0 ∧ (x.step call).dev.refcnt.start = 1

instance (x : Users U) (call : U × DevOp) : Decidable (x.Starts call) :=
  inferInstanceAs (Decidable (_ ∧ _))

/-- The latest operation on the open pcm is `pcm_prepare`. -/
def DeviceObj.PcmPrepared (dev : DeviceObj) : Prop := dev.trace.head? = some .pcmPrepare

instance (dev : DeviceObj) : Decidable dev.PcmPrepared :=
  inferInstanceAs (Decidable (_ = _))

/-- The call starts a device that is `DEV_STOPPED`. -/
def Users.StartsStopped (x : Users U) (call : U × DevOp) : Prop :=
  call.2 = .start ∧ call.2.lets (x.pair call.1) = true ∧ x.dev.state = .devStopped

end

/-! ### What the state of a device says of its pcm -/

/-- The state names the latest pcm call; a device that is not prepared has no started users. -/
structure PcmOk (dev : DeviceObj) : Prop where
  prepareNonneg : 0 ≤ dev.refcnt.prepare
  startNonneg : 0 ≤ dev.refcnt.start
  idle : dev.refcnt.prepare = 0 →
    dev.state.toNat < DeviceState.devPrepared.toNat ∧ dev.refcnt.start = 0
  prepared : dev.state = .devPrepared → dev.trace.head? = some .pcmPrepare
  stopped : dev.state = .devStopped → dev.trace.head? = some .pcmStop ∧ dev.refcnt.start = 0
  started : dev.state = .devStarted → dev.refcnt.start ≠ 0

/-- A device below `DEV_PREPARED` says nothing about its pcm. -/
theorem PcmOk.of_low {dev : DeviceObj} (hlow : dev.state.toNat < DeviceState.devPrepared.toNat)
    (hp : 0 ≤ dev.refcnt.prepare) (hn : 0 ≤ dev.refcnt.start)
    (hi : dev.refcnt.prepare = 0 → dev.refcnt.start = 0) : PcmOk dev := by
  refine ⟨hp, hn, fun h => ⟨hlow, hi h⟩, fun h => ?_, fun h => ?_, fun h => ?_⟩ <;>
    · rw [h] at hlow
      exact absurd hlow (by decide)

theorem PcmOk.init : PcmOk {} := PcmOk.of_low (by decide) le_rfl le_rfl fun _ => rfl

section ops
variable {dev : DeviceObj} (h : PcmOk dev)
include h

theorem PcmOk.open : Ensures noFault deviceOpen ⟨dev, []⟩ fun _ t => PcmOk t.obj := by
  refine (deviceOpen_ensures _).imp ?_
  rintro r t (⟨-, -, ht⟩ | ⟨-, -, ht⟩ | ⟨-, -, ht⟩) <;> rw [ht]
  · exact h
  · exact ⟨h.prepareNonneg, h.startNonneg, h.idle, h.prepared, h.stopped, h.started⟩
  · exact PcmOk.of_low (Nat.lt_of_sub_eq_succ rfl) h.prepareNonneg h.startNonneg
      fun h0 => (h.idle h0).2

theorem PcmOk.prepare : Ensures noFault devicePrepare ⟨dev, []⟩ fun _ t => PcmOk t.obj := by
  refine (devicePrepare_ensures _).imp ?_
  rintro r t (⟨-, hne, ht⟩ | ⟨-, h0, ht⟩ | ⟨-, h0, ht⟩) <;> rw [ht]
  · have hp : 0 < dev.refcnt.prepare + 1 := Int.lt_add_one_of_le h.prepareNonneg
    exact ⟨hp.le, h.startNonneg, fun h1 => absurd h1 hp.ne', h.prepared, h.stopped, h.started⟩
  · exact PcmOk.of_low (h.idle h0).1 h.prepareNonneg h.startNonneg fun h0 => (h.idle h0).2
  · exact ⟨Int.one_nonneg, h.startNonneg, fun h1 => absurd h1 one_ne_zero, fun _ => rfl,
      fun h1 => (by cases h1), fun h1 => (by cases h1)⟩

theorem PcmOk.start : Ensures noFault deviceStart ⟨dev, []⟩ fun _ t => PcmOk t.obj := by
  refine (deviceStart_ensures _).imp ?_
  rintro r t (⟨-, -, ht⟩ | ⟨-, hge, hne, ht⟩ | ⟨-, hge, h0, ht⟩) <;> rw [ht]
  · exact h
  · have hn : 0 < dev.refcnt.start + 1 := Int.lt_add_one_of_le h.startNonneg
    exact ⟨h.prepareNonneg, hn.le, fun hp => absurd (h.idle hp).2 hne, h.prepared,
      fun hs => absurd (h.stopped hs).2 hne, fun _ => hn.ne'⟩
  · exact ⟨h.prepareNonneg, Int.one_nonneg, fun hp => absurd (h.idle hp).1 (not_lt.mpr hge),
      fun hs => (by cases hs), fun hs => (by cases hs), fun _ => one_ne_zero⟩

theorem PcmOk.stop : Ensures noFault deviceStop ⟨dev, []⟩ fun _ t => PcmOk t.obj := by
  refine (deviceStop_ensures _).imp ?_
  rintro r t (⟨-, ht⟩ | ⟨h1, ht⟩ | ⟨h0, h1, ht⟩) <;> rw [ht]
  · exact h
  · refine ⟨h.prepareNonneg, le_rfl, fun hp => ?_, fun hs => (by cases hs), fun _ => ⟨rfl, rfl⟩,
      fun hs => (by cases hs)⟩
    exact absurd (h1.symm.trans (h.idle hp).2) (by decide)
  · have hn : 0 ≤ dev.refcnt.start := h.startNonneg
    have h2 : 0 < dev.refcnt.start - 1 := by
      simp only at h0 h1
      omega
    exact ⟨h.prepareNonneg, h2.le, fun hp => absurd (h.idle hp).2 h0, h.prepared,
      fun hs => absurd (h.stopped hs).2 h0, fun _ => h2.ne'⟩

theorem PcmOk.close : Ensures noFault deviceClose ⟨dev, []⟩ fun _ t => PcmOk t.obj := by
  refine (deviceClose_ensures _).imp ?_
  rintro r t (⟨-, ht⟩ | ⟨-, ht⟩) <;> rw [ht]
  · exact PcmOk.of_low (Nat.lt_of_sub_eq_succ rfl) le_rfl le_rfl fun _ => rfl
  · exact ⟨h.prepareNonneg, h.startNonneg, h.idle, h.prepared, h.stopped, h.started⟩

/-- A device without started users that starts is prepared or stopped. -/
theorem PcmOk.of_start : Ensures noFault deviceStart ⟨dev, []⟩ fun _ t =>
    dev.refcnt.start = 0 → t.obj.refcnt.start = 1 →
      dev.state = .devPrepared ∨ dev.state = .devStopped := by
  refine (deviceStart_ensures _).imp ?_
  rintro r t (⟨-, -, ht⟩ | ⟨-, -, hne, -⟩ | ⟨-, hge, -, -⟩) h0 h1
  · rw [ht] at h1
    exact absurd (h0.symm.trans h1) (by decide)
  · exact absurd h0 hne
  · have hne : dev.state ≠ .devStarted := fun hs => h.started hs h0
    simp only at hge
    cases hs : dev.state with
    | devPrepared => exact .inl rfl
    | devStopped => exact .inr rfl
    | devStarted => exact absurd hs hne
    | devOpened => rw [hs] at hge; exact absurd hge (by decide)
    | devClosed => rw [hs] at hge; exact absurd hge (by decide)

end ops

theorem DevOp.on_of_ensures {op : DevOp} {dev : DeviceObj} {Q : DeviceObj → Prop}
    (h : Ensures noFault op.run ⟨dev, []⟩ fun _ t => Q t.obj) : Q (op.on dev).2 := by
  obtain ⟨r, t, hrun, hq⟩ := h.exists_ok
  unfold DevOp.on
  rw [hrun]
  exact hq

theorem DevOp.on_pcmOk (op : DevOp) {dev : DeviceObj} (h : PcmOk dev) : PcmOk (op.on dev).2 := by
  refine DevOp.on_of_ensures ?_
  cases op with
  | «open» => exact h.open
  | prepare => exact h.prepare
  | start => exact h.start
  | stop => exact h.stop
  | undo => exact h.stop
  | close => exact h.close

/-- Only `device_start` adds a started user. -/
theorem DevOp.start_le {op : DevOp} {dev : DeviceObj} (hne : op ≠ .start)
    (hn : 0 ≤ dev.refcnt.start) : (op.on dev).2.refcnt.start ≤ dev.refcnt.start := by
  have hstop : Ensures noFault deviceStop ⟨dev, []⟩ fun _ t =>
      t.obj.refcnt.start ≤ dev.refcnt.start := by
    refine (deviceStop_ensures _).imp ?_
    rintro r t (⟨-, ht⟩ | ⟨h1, ht⟩ | ⟨h0, h1, ht⟩) <;> rw [ht]
    · exact hn
    · exact Int.sub_le_self _ (by decide)
  refine DevOp.on_of_ensures (Q := fun dev' => dev'.refcnt.start ≤ dev.refcnt.start) ?_
  cases op with
  | start => exact absurd rfl hne
  | «open» =>
      refine (deviceOpen_ensures _).imp ?_
      rintro r t (⟨-, -, ht⟩ | ⟨-, -, ht⟩ | ⟨-, -, ht⟩) <;> rw [ht]
  | prepare =>
      refine (devicePrepare_ensures _).imp ?_
      rintro r t (⟨-, -, ht⟩ | ⟨-, -, ht⟩ | ⟨-, -, ht⟩) <;> rw [ht]
  | stop => exact hstop
  | undo => exact hstop
  | close =>
      refine (deviceClose_ensures _).imp ?_
      rintro r t (⟨-, ht⟩ | ⟨-, ht⟩) <;> rw [ht]
      exact hn

/-! ### Runs -/

section
variable {U : Type} [DecidableEq U] {x : Users U} {call : U × DevOp}

theorem Users.step_dev (x : Users U) (call : U × DevOp) :
    (x.step call).dev = x.dev ∨
      call.2.lets (x.pair call.1) = true ∧ (x.step call).dev = (call.2.on x.dev).2 := by
  unfold Users.step
  split_ifs with h
  · exact .inr ⟨h, rfl⟩
  · exact .inl rfl

theorem Users.step_pcmOk (x : Users U) (call : U × DevOp) (h : PcmOk x.dev) :
    PcmOk (x.step call).dev := by
  obtain hd | ⟨-, hd⟩ := x.step_dev call
  · rw [hd]
    exact h
  · rw [hd]
    exact DevOp.on_pcmOk call.2 h

/-- The call that starts the device is a `device_start` let through on a prepared or a stopped
device. -/
theorem Users.Starts.cases (h : PcmOk x.dev) (hs : x.Starts call) :
    call.2 = .start ∧ call.2.lets (x.pair call.1) = true ∧
      (x.dev.state = .devPrepared ∨ x.dev.state = .devStopped) := by
  obtain ⟨h0, h1⟩ := hs
  obtain hd | ⟨hl, hd⟩ := x.step_dev call
  · rw [hd] at h1
    exact absurd (h0.symm.trans h1) zero_ne_one
  · rw [hd] at h1
    have hop : call.2 = .start := by
      by_contra hne
      have hle := DevOp.start_le hne h.startNonneg
      omega
    rw [hop] at h1
    refine ⟨hop, hl, ?_⟩
    exact @DevOp.on_of_ensures .start x.dev (fun dev' => x.dev.refcnt.start = 0 →
      dev'.refcnt.start = 1 → x.dev.state = .devPrepared ∨ x.dev.state = .devStopped)
      h.of_start h0 h1

theorem Users.starts_of_stopped (h : PcmOk x.dev) (hs : x.StartsStopped call) : x.Starts call := by
  obtain ⟨hop, hl, hstop⟩ := hs
  obtain ⟨-, h0⟩ := h.stopped hstop
  have hon : (DevOp.start.on x.dev).2.refcnt.start = 1 := by
    refine @DevOp.on_of_ensures .start x.dev (fun dev' => dev'.refcnt.start = 1) ?_
    refine (deviceStart_ensures _).imp ?_
    rintro r t (⟨-, hlt, -⟩ | ⟨-, -, hne, -⟩ | ⟨-, -, -, ht⟩)
    · rw [show (DevState.mk x.dev []).obj.state = .devStopped from hstop] at hlt
      exact absurd hlt (by decide)
    · exact absurd h0 hne
    · rw [ht]
  refine ⟨h0, ?_⟩
  unfold Users.step
  rw [if_pos hl, hop]
  exact hon

/-- At a step that starts the device, the latest pcm call is `pcm_prepare` unless the device is
`DEV_STOPPED`. -/
theorem Users.prepared_iff (h : PcmOk x.dev) :
    (x.Starts call → x.dev.PcmPrepared) ↔ ¬ x.StartsStopped call := by
  constructor
  · intro hp hs
    have hhead : x.dev.trace.head? = some .pcmPrepare := hp (Users.starts_of_stopped h hs)
    rw [(h.stopped hs.2.2).1] at hhead
    cases hhead
  · intro hn hs
    obtain ⟨hop, hl, hprep | hstop⟩ := hs.cases h
    · exact h.prepared hprep
    · exact absurd ⟨hop, hl, hstop⟩ hn

end

/-- In every interleaving of the users' calls the device starts right after a `pcm_prepare` if
and only if no user starts it while it is `DEV_STOPPED`. -/
theorem pcm_prepared_iff {U : Type} [DecidableEq U] (calls : List (U × DevOp)) :
    Along Users.step (fun x call => x.Starts call → x.dev.PcmPrepared) calls {} ↔
      Along Users.step (fun x call => ¬ x.StartsStopped call) calls {} :=
  along_congr (I := fun x => PcmOk x.dev) (fun x call h => x.step_pcmOk call h)
    (fun _ _ h => Users.prepared_iff h) calls PcmOk.init

/-- One session that stops its device, prepares it and starts it again. -/
theorem pcm_prepared_restart :
    ¬ Along Users.step (fun x call => x.Starts call → x.dev.PcmPrepared)
      [((), .open), ((), .prepare), ((), .start), ((), .stop), ((), .prepare), ((), .start)]
      ({} : Users Unit) := by
  decide +kernel

end Agm
