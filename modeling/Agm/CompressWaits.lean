import Agm.CompressCapture

/-! # The waits of the compress plugin (`agm_compress_plugin.c`)

`agm_compress_poll` waits for `poll_cond` and `agm_compress_drain` for `eos_cond`; neither tests a
predicate.  `agm_compress_event_cb` and `agm_compress_stop` signal the conditions, each in a critical
section of its own.  A step of the two systems below is one critical section of one thread; a wait
gives up its lock and blocks in one step, a signal without a waiter is lost, and a waiter may wake up
by itself.

* `PollSystem`: one poller against writes, reads, callbacks and stops.  `poll_wakes_iff`: the poller
  never sleeps beside an available fragment without a signal to come, exactly if none of four steps
  is taken.
* `DrainSystem`: one drainer against callbacks and stops.  `drain_hears_eos`: while it waits, the flag
  is set that makes the next event or stop signal it. -/

namespace Agm

open Run

/-! ### The critical sections -/

/-- The section under `eos_lock` of the callback and of the stop. -/
def CompressPriv.signalEos (priv : CompressPriv) : CompressPriv :=
  if priv.eos then { priv with eos := false }.signal .eos else priv

/-- `agm_compress_event_cb` under `lock`, and whether it goes on to signal `poll_cond`. -/
def agmCompressEventCbLocked (event : DataEvent) (priv : CompressPriv) : CompressPriv × Bool :=
  match event with
  | .writeDone =>
      let priv := { priv with bytesAvail := priv.bytesAvail + priv.size }
      if (priv.totalBufSize : ℤ) < priv.bytesAvail % 2 ^ 64 then (priv, false)
      else
        (if priv.startDrain ∧ priv.bytesAvail % 2 ^ 64 = priv.totalBufSize then priv.signal .drain
          else priv, true)
  | .readDone =>
      ({ priv with
          bytesAvail := priv.bytesAvail + priv.size
          bytesReceived := priv.bytesReceived + priv.size }, true)
  | .eosRendered => (priv.signalEos, true)

/-- `agm_compress_stop` after its signals, when `agm_session_stop` returns `ret`. -/
def agmCompressStopReset (ret : ℤ) (priv : CompressPriv) : CompressPriv :=
  if ret ≠ 0 then priv else { priv with bytesAvail := priv.totalBufSize, bytesCopied := 0 }

theorem agmCompressEventCb_sections (event : DataEvent) (priv : CompressPriv) :
    agmCompressEventCb event priv =
      if (agmCompressEventCbLocked event priv).2 then
        (agmCompressEventCbLocked event priv).1.signal .poll
      else (agmCompressEventCbLocked event priv).1 := by
  cases event with
  | eosRendered => rfl
  | readDone => rfl
  | writeDone =>
      unfold agmCompressEventCb agmCompressEventCbLocked
      dsimp only
      by_cases hmany : (priv.totalBufSize : ℤ) < (priv.bytesAvail + priv.size) % 2 ^ 64
      · rw [if_pos hmany, if_pos hmany]
        rfl
      · rw [if_neg hmany, if_neg hmany]
        rfl

theorem agmCompressStop_sections (ret : ℤ) (priv : CompressPriv) :
    agmCompressStop ret priv = agmCompressStopReset ret (priv.signalEos.signal .poll) := rfl

/-- A `WRITE_DONE` callback finds more bytes available than the buffer has. -/
def CompressPriv.TooMany (priv : CompressPriv) : Prop :=
  (priv.totalBufSize : ℤ) < (priv.bytesAvail + priv.size) % 2 ^ 64

instance : DecidablePred CompressPriv.TooMany := fun _ => inferInstanceAs (Decidable (_ < _))

/-- Only a callback that finds too many bytes does not go on to signal. -/
theorem eventCbLocked_polls (event : DataEvent) (priv : CompressPriv) :
    (agmCompressEventCbLocked event priv).2 = false ↔ event = .writeDone ∧ priv.TooMany := by
  unfold agmCompressEventCbLocked CompressPriv.TooMany
  cases event with
  | eosRendered => exact ⟨nofun, nofun⟩
  | readDone => exact ⟨nofun, nofun⟩
  | writeDone =>
      dsimp only
      split_ifs with h
      · exact ⟨fun _ => ⟨rfl, h⟩, fun _ => rfl⟩
      · exact ⟨nofun, fun hmany => absurd hmany.2 h⟩

theorem eventCbLocked_tooMany {priv : CompressPriv} (h : priv.TooMany) :
    (agmCompressEventCbLocked .writeDone priv).1 =
      { priv with bytesAvail := priv.bytesAvail + priv.size } := by
  unfold CompressPriv.TooMany at h
  unfold agmCompressEventCbLocked
  dsimp only
  rw [if_pos h]

/-! ### Waiters -/

/-- A thread that waits for a condition: before the wait, blocked in it, or woken up in it. -/
inductive Waiter where
  | idle | waiting | woken
deriving DecidableEq, Repr

/-- `pthread_cond_signal`, or a wake-up without a signal. -/
def Waiter.signal : Waiter → Waiter
  | waiting => woken
  | w => w

theorem Waiter.signal_ne_waiting (w : Waiter) : w.signal ≠ .waiting := by
  cases w with
  | idle => exact nofun
  | waiting => exact nofun
  | woken => exact nofun

/-! ### Polling -/

/-- The plugin, the poller, the callbacks and stops that have still to signal `poll_cond`, and the
stops that have signalled it and have not reset the buffer yet. -/
structure PollSystem where
  priv : CompressPriv
  poller : Waiter := .idle
  callbacks : ℕ := 0
  stops : ℕ := 0
  stopping : ℕ := 0
deriving DecidableEq, Repr

inductive PollStep where
  | poll | wake | pollReturn
  /-- A callback up to the release of `lock`. -/
  | event (e : DataEvent)
  | callbackSignal
  /-- The locked part of a write or of a read. -/
  | write (size : ℕ)
  | read (count : ℕ)
  /-- The section of a stop under `eos_lock`. -/
  | stop
  | stopSignal
  | stopReset (ret : ℤ)
deriving DecidableEq, Repr

namespace PollSystem

def step (x : PollSystem) : PollStep → PollSystem
  | .poll => if x.poller = .idle then { x with poller := .waiting } else x
  | .wake => { x with poller := x.poller.signal }
  | .pollReturn => if x.poller = .woken then { x with poller := .idle } else x
  | .event e =>
      let (priv, polls) := agmCompressEventCbLocked e x.priv
      { x with priv, callbacks := if polls then x.callbacks + 1 else x.callbacks }
  | .callbackSignal =>
      if x.callbacks = 0 then x
      else
        { x with
          priv := x.priv.signal .poll
          poller := x.poller.signal
          callbacks := x.callbacks - 1 }
  | .write size => { x with priv := (agmCompressWriteEnd size x.priv).2 }
  | .read count => { x with priv := agmCompressReadEnd count x.priv }
  | .stop => { x with priv := x.priv.signalEos, stops := x.stops + 1 }
  | .stopSignal =>
      if x.stops = 0 then x
      else
        { x with
          priv := x.priv.signal .poll
          poller := x.poller.signal
          stops := x.stops - 1
          stopping := x.stopping + 1 }
  | .stopReset ret =>
      if x.stopping = 0 then x
      else { x with priv := agmCompressStopReset ret x.priv, stopping := x.stopping - 1 }

/-- At least one fragment is available. -/
def Available (priv : CompressPriv) : Prop := (priv.size : ℤ) ≤ priv.bytesAvail

instance : DecidablePred Available := fun _ => inferInstanceAs (Decidable (_ ≤ _))

/-- Some callback or stop has still to execute its signal. -/
def Signals (x : PollSystem) : Prop := 0 < x.callbacks + x.stops

instance : DecidablePred Signals := fun _ => inferInstanceAs (Decidable (_ < _))

/-- The poller does not sleep beside an available fragment, unless a signal is to come. -/
def Wakes (x : PollSystem) : Prop := x.poller = .waiting → Available x.priv → x.Signals

/-- The poller sleeps and no signal is to come. -/
def Sleeps (x : PollSystem) : Prop := x.poller = .waiting ∧ ¬ x.Signals

instance : DecidablePred Sleeps := fun _ => inferInstanceAs (Decidable (_ ∧ _))

/-- The fragments of a read of `count` bytes are so many that their number is negative as an `int`:
instead of taking fragments off, the read gives back what is missing to `2 ^ 32` of them, and these
make a fragment available. -/
def GivesBack (priv : CompressPriv) (count : ℕ) : Prop :=
  2 ^ 31 ≤ priv.fragments count % 2 ^ 32 ∧
    (priv.size : ℤ) ≤
      priv.bytesAvail + (2 ^ 32 - (priv.fragments count % 2 ^ 32 : ℕ)) * priv.size

instance (priv : CompressPriv) : DecidablePred (GivesBack priv) :=
  fun _ => inferInstanceAs (Decidable (_ ∧ _))

/-- The steps that lose a wake-up: `poll` when a fragment is available; a callback that returns early
because there are too many bytes; a read that gives a fragment back; and the reset of a stop, which
comes after its signal. -/
def Loses (x : PollSystem) : PollStep → Prop
  | .poll => x.poller = .idle ∧ ¬ x.Signals ∧ Available x.priv
  | .event .writeDone => x.Sleeps ∧ x.priv.TooMany ∧ 0 ≤ x.priv.bytesAvail
  | .read count => x.Sleeps ∧ GivesBack x.priv count
  | .stopReset ret => x.Sleeps ∧ ret = 0 ∧ 0 < x.stopping ∧ x.priv.size ≤ x.priv.totalBufSize
  | _ => False

theorem wakes_iff (x : PollSystem) : x.Wakes ↔ ¬ (x.Sleeps ∧ Available x.priv) := by
  unfold Wakes Sleeps
  tauto

/-- A step that signals the poller or wakes it up. -/
theorem wakes_of_signal (x : PollSystem) {priv : CompressPriv} {callbacks stops stopping : ℕ} :
    Wakes ⟨priv, x.poller.signal, callbacks, stops, stopping⟩ := by
  intro hw
  exact absurd hw x.poller.signal_ne_waiting

theorem event_wakes_iff (x : PollSystem) (e : DataEvent) :
    (x.step (.event e)).Wakes ↔ ¬ x.Loses (.event e) := by
  by_cases hmany : e = .writeDone ∧ x.priv.TooMany
  · obtain ⟨rfl, hmany⟩ := hmany
    have hpolls := (eventCbLocked_polls .writeDone x.priv).mpr ⟨rfl, hmany⟩
    have hstep : x.step (.event .writeDone) =
        { x with priv := { x.priv with bytesAvail := x.priv.bytesAvail + x.priv.size } } := by
      unfold step
      dsimp only
      rw [hpolls, eventCbLocked_tooMany hmany]
      rfl
    rw [hstep, wakes_iff]
    unfold Loses Available
    have hav : (x.priv.size : ℤ) ≤ x.priv.bytesAvail + x.priv.size ↔ 0 ≤ x.priv.bytesAvail := by
      constructor <;> intro h <;> omega
    dsimp only
    rw [hav]
    exact not_congr ⟨fun hs => ⟨hs.1, hmany, hs.2⟩, fun hl => ⟨hl.1, hl.2.2⟩⟩
  · -- any other callback has still to signal
    have hpolls : (agmCompressEventCbLocked e x.priv).2 = true := by
      rw [← Bool.not_eq_false, eventCbLocked_polls]
      exact hmany
    constructor
    · intro _ hl
      cases e with
      | writeDone => exact hmany ⟨rfl, hl.2.1⟩
      | readDone => exact hl
      | eosRendered => exact hl
    · intro _ _ _
      unfold step Signals
      dsimp only
      rw [hpolls, if_pos rfl]
      omega

/-- A read takes off as many fragments as `buf_cnt`, an `int`, says. -/
theorem readEnd_available_iff {priv : CompressPriv} {count : ℕ} (hfew : ¬ Available priv) :
    Available (agmCompressReadEnd count priv) ↔ GivesBack priv count := by
  unfold Available at hfew
  unfold Available GivesBack agmCompressReadEnd
  dsimp only
  generalize priv.fragments count = n
  have hsize : (0 : ℤ) ≤ priv.size := Int.natCast_nonneg _
  rw [Int.bmod_def]
  norm_num only
  by_cases hneg : 2 ^ 31 ≤ n % 2 ^ 32
  · -- the number is negative
    have hhalf : ¬ ((n : ℤ) % 4294967296 < 2147483648) := by omega
    rw [if_neg hhalf]
    have hn : (2 ^ 32 - (n % 2 ^ 32 : ℕ) : ℤ) = -((n : ℤ) % 4294967296 - 4294967296) := by omega
    norm_num only at hn hneg ⊢
    rw [hn]
    constructor
    · intro hav
      exact ⟨hneg, by linarith⟩
    · rintro ⟨-, hav⟩
      linarith
  · have hhalf : (n : ℤ) % 4294967296 < 2147483648 := by omega
    rw [if_pos hhalf]
    norm_num only at hneg ⊢
    constructor
    · intro hav
      have htaken : 0 ≤ (n : ℤ) % 4294967296 * priv.size := mul_nonneg (by omega) hsize
      exact absurd (hav.trans (by linarith)) hfew
    · rintro ⟨hge, -⟩
      exact absurd hge hneg

section
variable {x : PollSystem} (h : x.Wakes)
include h

/-- A step that makes nothing available. -/
theorem Wakes.of_le {priv : CompressPriv} (hsize : priv.size = x.priv.size)
    (havail : priv.bytesAvail ≤ x.priv.bytesAvail) : Wakes { x with priv := priv } := by
  intro hw hav
  apply h hw
  unfold Available at hav ⊢
  dsimp only at hav
  rw [hsize] at hav
  exact hav.trans havail

theorem Wakes.poll_iff : (x.step .poll).Wakes ↔ ¬ x.Loses .poll := by
  unfold step Loses
  dsimp only
  split_ifs with hidle
  · rw [wakes_iff]
    unfold Sleeps
    simp only [hidle, true_and]
    rfl
  · exact ⟨fun _ hl => hidle hl.1, fun _ => h⟩

theorem Wakes.write (size : ℕ) : (x.step (.write size)).Wakes := by
  obtain ⟨hg, havail⟩ := CompressStream.writeEnd_spec size x.priv
  apply h.of_le hg.2.1
  have hnonneg : (0 : ℤ) ≤ x.priv.fragments size * x.priv.size :=
    mul_nonneg (Int.natCast_nonneg _) (Int.natCast_nonneg _)
  rw [havail]
  linarith

theorem Wakes.read_iff (count : ℕ) :
    (x.step (.read count)).Wakes ↔ ¬ x.Loses (.read count) := by
  rw [wakes_iff]
  apply not_congr
  constructor
  · rintro ⟨hs, hav⟩
    exact ⟨hs, (readEnd_available_iff fun hav => hs.2 (h hs.1 hav)).mp hav⟩
  · rintro ⟨hs, hback⟩
    exact ⟨hs, (readEnd_available_iff fun hav => hs.2 (h hs.1 hav)).mpr hback⟩

theorem Wakes.stopReset_iff (ret : ℤ) :
    (x.step (.stopReset ret)).Wakes ↔ ¬ x.Loses (.stopReset ret) := by
  unfold step Loses
  dsimp only
  split_ifs with h0
  · exact ⟨fun _ hl => hl.2.2.1.ne' h0, fun _ => h⟩
  · by_cases hret : ret = 0
    · rw [wakes_iff]
      unfold agmCompressStopReset Available
      rw [if_neg (not_not.mpr hret)]
      dsimp only
      have hpos := Nat.pos_of_ne_zero h0
      exact not_congr ⟨fun hs => ⟨hs.1, hret, hpos, Int.ofNat_le.mp hs.2⟩,
        fun hl => ⟨hl.1, Int.ofNat_le.mpr hl.2.2.2⟩⟩
    · unfold agmCompressStopReset
      rw [if_pos hret]
      exact ⟨fun _ hl => hret hl.2.1, fun _ => h⟩

/-- One step. -/
theorem Wakes.step_iff (a : PollStep) : (x.step a).Wakes ↔ ¬ x.Loses a := by
  cases a with
  | poll => exact h.poll_iff
  | wake => exact ⟨fun _ => id, fun _ => x.wakes_of_signal⟩
  | pollReturn =>
      refine ⟨fun _ => id, fun _ => ?_⟩
      unfold step
      dsimp only
      split_ifs
      · exact nofun
      · exact h
  | event e => exact x.event_wakes_iff e
  | callbackSignal =>
      refine ⟨fun _ => id, fun _ => ?_⟩
      unfold step
      dsimp only
      split_ifs
      · exact h
      · exact x.wakes_of_signal
  | write size => exact ⟨fun _ => id, fun _ => h.write size⟩
  | read count => exact h.read_iff count
  | stop =>
      refine ⟨fun _ => id, fun _ _ _ => ?_⟩
      show 0 < x.callbacks + (x.stops + 1)
      omega
  | stopSignal =>
      refine ⟨fun _ => id, fun _ => ?_⟩
      unfold step
      dsimp only
      split_ifs
      · exact h
      · exact x.wakes_of_signal
  | stopReset ret => exact h.stopReset_iff ret

end

end PollSystem

/-- From a state of the plugin in which nobody polls and no callback or stop runs, the poller never
sleeps beside an available fragment without a signal to come, in all states of a run, if and only if
no step of the run loses a wake-up. -/
theorem poll_wakes_iff (priv : CompressPriv) (steps : List PollStep) :
    Along PollSystem.step (fun x a => (x.step a).Wakes) steps { priv } ↔
      Along PollSystem.step (fun x a => ¬ x.Loses a) steps { priv } := by
  have hinit : PollSystem.Wakes { priv } := nofun
  constructor
  · apply Along.imp (I := PollSystem.Wakes) (fun _ _ _ hw => hw)
    · intro x a hx hw
      exact (hx.step_iff a).mp hw
    · exact hinit
  · apply Along.imp (I := PollSystem.Wakes) (fun _ a hx hl => (hx.step_iff a).mpr hl)
    · intro x a hx hl
      exact (hx.step_iff a).mpr hl
    · exact hinit

/-- A full buffer is polled after the callback for its first fragment has signalled. -/
theorem poll_wakes_iff_late :
    ¬ Along PollSystem.step (fun x a => (x.step a).Wakes)
      [.write 32768, .event .writeDone, .callbackSignal, .poll]
      { priv := agmCompressSetParams 4 8192 } := by
  intro h
  have hsleeps := h.2.2.2.1 (by decide) (by decide)
  exact absurd hsleeps (by decide)

/-! ### Draining -/

/-- Where the drainer is: outside of `agm_compress_drain`, inside `agm_session_eos` with `eos_lock`
held, blocked in `pthread_cond_wait`, or woken up in it. -/
inductive Drainer where
  | idle | calling | waiting | woken
deriving DecidableEq, Repr

/-- `pthread_cond_signal`, or a wake-up without a signal. -/
def Drainer.signal : Drainer → Drainer
  | waiting => woken
  | d => d

/-- The plugin, the drainer, the number of drains begun, the callback thread and the record of the
events handled.  The callback thread has taken `lock` for an `AGM_EVENT_EOS_RENDERED` that was caused
by the given drain.  The record has, for each event, the drain that caused it and where the event
left the drainer. -/
structure DrainSystem where
  priv : CompressPriv
  drainer : Drainer := .idle
  drains : ℕ := 0
  callback : Option ℕ := none
  handled : List (ℕ × Drainer) := []
deriving DecidableEq, Repr

inductive DrainStep where
  /-- `agm_compress_drain` up to the call of `agm_session_eos`. -/
  | drain
  | eosReturns (ret : ℤ)
  | wake | drainReturn
  /-- An event of a drain that has called `agm_session_eos`: the callback takes `lock`. -/
  | event (d : ℕ)
  /-- The section of the callback under `eos_lock`. -/
  | eosRendered
  /-- The section of a stop under `eos_lock`. -/
  | stop
deriving DecidableEq, Repr

namespace DrainSystem

/-- `eos_lock` is held by the drainer. -/
def EosLocked (x : DrainSystem) : Prop := x.drainer = .calling

instance : DecidablePred EosLocked := fun _ => inferInstanceAs (Decidable (_ = _))

/-- The section under `eos_lock` that signals `eos_cond`. -/
def signalEos (x : DrainSystem) : DrainSystem :=
  { x with
    priv := x.priv.signalEos
    drainer := if x.priv.eos then x.drainer.signal else x.drainer }

/-- A thread that wants `eos_lock` while it is held makes no step. -/
def step (x : DrainSystem) : DrainStep → DrainSystem
  | .drain =>
      if x.drainer = .idle then
        { x with
          priv := { x.priv with eos := true }
          drainer := .calling
          drains := x.drains + 1 }
      else x
  | .eosReturns ret =>
      if x.drainer = .calling then { x with drainer := if ret ≠ 0 then .idle else .waiting } else x
  | .wake => { x with drainer := x.drainer.signal }
  | .drainReturn => if x.drainer = .woken then { x with drainer := .idle } else x
  | .event d =>
      if x.callback = none ∧ 0 < d ∧ d ≤ x.drains then { x with callback := some d } else x
  | .eosRendered =>
      match x.callback with
      | none => x
      | some d =>
          if x.EosLocked then x
          else
            { x.signalEos with callback := none, handled := (d, x.signalEos.drainer) :: x.handled }
  | .stop => if x.EosLocked then x else x.signalEos

/-- The drain cannot miss its event. -/
structure Hears (x : DrainSystem) : Prop where
  /-- The flag is set while the drainer waits. -/
  armed : x.drainer = .waiting → x.priv.eos = true
  /-- The next event wakes it up. -/
  event : x.drainer = .waiting → ∀ d ∈ x.callback, (x.step .eosRendered).drainer = .woken
  /-- The next stop wakes it up. -/
  stop : x.drainer = .waiting → (x.step .stop).drainer = .woken
  /-- No event of the current drain was handled before the wait, or left the drainer waiting. -/
  heard : ∀ e ∈ x.handled, e.1 = x.drains → e.2 ≠ .calling ∧ e.2 ≠ .waiting

/-- The flag is set from the call of `agm_session_eos` on until somebody signals. -/
structure Armed (x : DrainSystem) : Prop where
  eos : x.drainer = .calling ∨ x.drainer = .waiting → x.priv.eos = true
  handled : ∀ e ∈ x.handled, e.2 ≠ .calling ∧ e.2 ≠ .waiting

section
variable {x : DrainSystem} (h : x.Armed)
include h

/-- The section of the callback and of the stop leaves the drainer outside of its wait. -/
theorem Armed.signalEos_drainer (hlock : ¬ x.EosLocked) :
    x.signalEos.drainer ≠ .calling ∧ x.signalEos.drainer ≠ .waiting := by
  have heos := h.eos
  unfold signalEos EosLocked at *
  dsimp only
  cases hd : x.drainer with
  | idle => split_ifs <;> exact ⟨nofun, nofun⟩
  | calling => exact absurd hd hlock
  | waiting =>
      rw [if_pos (heos (.inr hd))]
      exact ⟨nofun, nofun⟩
  | woken => split_ifs <;> exact ⟨nofun, nofun⟩

/-- A waiting drainer is woken up by the section. -/
theorem Armed.signalEos_wakes (hw : x.drainer = .waiting) : x.signalEos.drainer = .woken := by
  unfold signalEos
  dsimp only
  rw [if_pos (h.eos (.inr hw)), hw]
  rfl

/-- The drainer is outside of its wait. -/
theorem Armed.of_outside {priv : CompressPriv} {drainer : Drainer} {drains : ℕ}
    {callback : Option ℕ} (hout : drainer ≠ .calling ∧ drainer ≠ .waiting) :
    Armed ⟨priv, drainer, drains, callback, x.handled⟩ :=
  ⟨fun hin => absurd hin (not_or.mpr hout), h.handled⟩

theorem Armed.eosRendered : (x.step .eosRendered).Armed := by
  unfold step
  dsimp only
  cases x.callback with
  | none => exact h
  | some d =>
      dsimp only
      split_ifs with hlock
      · exact h
      · have hout := h.signalEos_drainer hlock
        refine ⟨fun hin => absurd hin (not_or.mpr hout), fun e he => ?_⟩
        rcases List.mem_cons.mp he with rfl | he
        · exact hout
        · exact h.handled e he

/-- One step. -/
theorem Armed.step (a : DrainStep) : (x.step a).Armed := by
  cases a with
  | drain =>
      unfold DrainSystem.step
      dsimp only
      split_ifs
      · exact ⟨fun _ => rfl, h.handled⟩
      · exact h
  | eosReturns ret =>
      unfold DrainSystem.step
      dsimp only
      split_ifs with hcall hret
      · exact h.of_outside ⟨nofun, nofun⟩
      · exact ⟨fun _ => h.eos (.inl hcall), h.handled⟩
      · exact h
  | wake =>
      unfold DrainSystem.step
      dsimp only
      cases hd : x.drainer with
      | idle => exact h.of_outside ⟨nofun, nofun⟩
      | calling => exact ⟨fun _ => h.eos (.inl hd), h.handled⟩
      | waiting => exact h.of_outside ⟨nofun, nofun⟩
      | woken => exact h.of_outside ⟨nofun, nofun⟩
  | drainReturn =>
      unfold DrainSystem.step
      dsimp only
      split_ifs
      · exact h.of_outside ⟨nofun, nofun⟩
      · exact h
  | event d =>
      unfold DrainSystem.step
      dsimp only
      split_ifs
      · exact ⟨h.eos, h.handled⟩
      · exact h
  | eosRendered => exact h.eosRendered
  | stop =>
      unfold DrainSystem.step
      dsimp only
      split_ifs with hlock
      · exact h
      · exact h.of_outside (h.signalEos_drainer hlock)

theorem Armed.hears : x.Hears := by
  have hfree : x.drainer = .waiting → ¬ x.EosLocked := by
    intro hw hlock
    exact absurd (hw.symm.trans hlock) nofun
  refine ⟨fun hw => h.eos (.inr hw), fun hw d hd => ?_, fun hw => ?_, fun e he _ => h.handled e he⟩
  · unfold DrainSystem.step
    dsimp only
    rw [Option.mem_def.mp hd]
    dsimp only
    rw [if_neg (hfree hw)]
    exact h.signalEos_wakes hw
  · unfold DrainSystem.step
    dsimp only
    rw [if_neg (hfree hw)]
    exact h.signalEos_wakes hw

end

end DrainSystem

/-- In every state that the drainer, the callback and the stops reach, whatever `agm_session_eos`
returns and whenever its events come: while the drainer waits, the flag is set, so that the next event
or stop wakes it up; and no event of the current drain was handled without doing so. -/
theorem drain_hears_eos (priv : CompressPriv) (steps : List DrainStep) :
    (steps.foldl DrainSystem.step { priv }).Hears := by
  have hinit : DrainSystem.Armed { priv } := ⟨nofun, nofun⟩
  have harmed : (steps.foldl DrainSystem.step { priv }).Armed :=
    List.foldlRecOn steps DrainSystem.step hinit fun _ hx a _ => hx.step a
  exact harmed.hears

/-- The drainer waits after its call of `agm_session_eos`, and the event of the drain wakes it up. -/
example :
    let waits : DrainSystem := { priv := agmCompressSetParams 4 8192 }
    ([.drain, .eosReturns 0].foldl DrainSystem.step waits).drainer = .waiting ∧
      ([.drain, .eosReturns 0, .event 1, .eosRendered].foldl DrainSystem.step waits).handled =
        [(1, .woken)] := by
  decide

end Agm
