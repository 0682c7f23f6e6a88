import Agm.Core

/-! # What the calls can do to the abstract service

One relation for each function of the session layer, with one constructor for each way the
function can end: `Connect`, `Disconnect`, `Prepare`, `Start`, `Stop`, `Close`, `Open`,
`HotConnect` and `AifDisconnect`.  The loops are the `Prog.Until` and `Prog.Chain` of a relation
for one turn.

Some ways to end are told apart by an event that the core does not show (a merge that failed, a
label that was taken).  Such an event is a proposition the relation carries as a parameter;
`Agm.Refine` and `Agm.RefineSession` give these parameters their meaning in the code. -/

namespace Agm

open Prog

/-- The states in which `session_start` starts a pair. -/
def AifState.isStartable (st : AifState) : Bool :=
  decide (st = .aifOpened ∨ st = .aifPrepared ∨ st = .aifStopped)

namespace Core

variable (c : Core)

/-- A device operation on the device of a pair, if it has one. -/
def onRowDev (s i : ℕ) (f : DevCore → DevCore) : Core :=
  match (c.row s i).dev with
  | none => c
  | some d => c.onDev d f

/-- The positions of a session's pool. -/
def rowRange (s : ℕ) : List ℕ := List.range (c.sess s).rows.length

/-- The first pair of a session that waits to be opened. -/
def firstOpen (s : ℕ) : Option ℕ :=
  (c.sess s).rows.findIdx? fun r => decide (r.state = .aifOpen)

/-- The position of an interface id in a session's pool. -/
def findAif (s aif : ℕ) : Option ℕ :=
  (c.sess s).rows.findIdx? fun r => decide (r.aifId = aif)

/-- The pair that `aif_obj_create` makes. -/
def newRow (aif : ℕ) : Row :=
  if aif < c.numAudioIntfs then { aifId := aif, dev := some aif }
  else if aif = c.numAudioIntfs ∧ c.pastEnd ≠ none then { aifId := aif, dev := c.pastEnd }
  else {}

end Core

/-! ### Pools -/

/-- `session_obj_get`. -/
inductive Lookup (s : ℕ) (c : Core) : ℤ → Core → Prop
  | found (h : s ∈ c.pool) : Lookup s c 0 c
  | noMemory {r : ℤ} (hr : r ≠ 0) : Lookup s c r c
  | created (h : s ∉ c.pool) : Lookup s c 0 (c.addSess s)

/-- `aif_obj_get`. -/
inductive GetAif (s aif : ℕ) (c : Core) : ℤ × ℕ → Core → Prop
  | found {i : ℕ} (h : c.findAif s aif = some i) : GetAif s aif c (0, i) c
  | noMemory {r : ℤ × ℕ} (hr : r.1 ≠ 0) : GetAif s aif c r c
  | created (h : c.findAif s aif = none) :
      GetAif s aif c (0, (c.sess s).rows.length) (c.addRow s (c.newRow aif))

/-! ### One interface -/

/-- `graph_close`. -/
inductive CloseGraph (p : Option ℕ) (c : Core) : ℤ → Core → Prop
  | null {r : ℤ} (hp : p = none) (hr : r ≠ 0) : CloseGraph p c r c
  | closed {r : ℤ} {g : ℕ} (hp : p = some g) : CloseGraph p c r (c.killGraph g)

/-- `session_disconnect_aif`; `lost` when a merge fails before the device is reached. -/
inductive Disconnect (lost : Prop) (s i : ℕ) (c : Core) : ℤ → Core → Prop
  | lost {r : ℤ} (h : lost) (hr : r ≠ 0) : Disconnect lost s i c r c
  | closed {r : ℤ} {d : ℕ} (h : ¬ lost) (hd : (c.row s i).dev = some d) :
      Disconnect lost s i c r (c.closeDev d)

/-- The graph step of `session_connect_aif` when it does not fail: a closed session that has no
interface open yet opens a graph. -/
inductive Joined (s n : ℕ) (c : Core) : Core → Prop
  | same : Joined s n c c
  | opened (hn : n = 0) (hs : (c.sess s).state = .sessionClosed) : Joined s n c (c.newGraph s)

/-- `session_connect_aif`; `cleans` when it closes a graph at `graph_cleanup`. -/
inductive Connect (cleans : Prop) (s i n : ℕ) (c : Core) : ℤ → Core → Prop
  | refused {r : ℤ} (hr : r ≠ 0) (h : ¬ cleans) : Connect cleans s i n c r c
  | undone {r : ℤ} {d : ℕ} (hr : r ≠ 0) (h : ¬ cleans) (hd : (c.row s i).dev = some d) :
      Connect cleans s i n c r ((c.openDev d).closeDev d)
  | cleaned {r : ℤ} {d g : ℕ} {c₁ : Core} (hr : r ≠ 0) (h : cleans)
      (hd : (c.row s i).dev = some d) (hn : n = 0) (hj : Joined s n (c.openDev d) c₁)
      (hg : (c₁.sess s).graph = some g) : Connect cleans s i n c r ((c₁.killGraph g).closeDev d)
  | connected {d : ℕ} {c₁ : Core} (h : ¬ cleans) (hd : (c.row s i).dev = some d)
      (hj : Joined s n (c.openDev d) c₁) (hg : (c₁.sess s).graph ≠ none) :
      Connect cleans s i n c 0 c₁

/-! ### Preparing, starting, stopping and closing -/

/-- A turn of the loop of `session_prepare`. -/
inductive PrepareTurn (s i : ℕ) (c : Core) : ℤ → Core → Prop
  | skip (h : ¬ ((c.row s i).state = .aifOpened ∨ (c.row s i).state = .aifStopped)) :
      PrepareTurn s i c 0 c
  | fail {r : ℤ} (h : (c.row s i).state = .aifOpened ∨ (c.row s i).state = .aifStopped)
      (hr : r ≠ 0) : PrepareTurn s i c r (c.onRowDev s i DevCore.notPrepared)
  | next {d : ℕ} (h : (c.row s i).state = .aifOpened ∨ (c.row s i).state = .aifStopped)
      (hd : (c.row s i).dev = some d) :
      PrepareTurn s i c 0 ((c.onDev d DevCore.prepared).setRow s i .aifPrepared)

/-- `session_prepare`. -/
inductive Prepare (s : ℕ) (c : Core) : ℤ → Core → Prop
  | early {r : ℤ} (hr : r ≠ 0) : Prepare s c r c
  | late {r r' : ℤ} {c' : Core} (hn : c.openedCount s ≠ 0) (hr : r ≠ 0)
      (hu : Until (PrepareTurn s) (c.rowRange s) c r' c') : Prepare s c r c'
  | prepared {c' : Core} (hn : c.openedCount s ≠ 0)
      (hu : Until (PrepareTurn s) (c.rowRange s) c 0 c') :
      Prepare s c 0 (c'.setState s .sessionPrepared)

/-- The checks of `session_start` may create the playback session. -/
inductive Peek (c : Core) : Core → Prop
  | same : Peek c c
  | created {pb : ℕ} (h : pb ∉ c.pool) : Peek c (c.addSess pb)

/-- A turn of the loop of `session_start`. -/
inductive StartTurn (s i : ℕ) (c : Core) : ℤ → Core → Prop
  | skip (h : (c.row s i).state.isStartable = false) : StartTurn s i c 0 c
  | fail {r : ℤ} (h : (c.row s i).state.isStartable) (hr : r ≠ 0) : StartTurn s i c r c
  | next {d : ℕ} (h : (c.row s i).state.isStartable) (hd : (c.row s i).dev = some d)
      (hp : DeviceState.devPrepared.toNat ≤ (c.dev d).state.toNat) :
      StartTurn s i c 0 ((c.onDev d DevCore.started).setRow s i .aifStarted)

/-- A turn of a loop that stops what is started. -/
inductive StopTurn (st : AifState) (s i : ℕ) (c : Core) : Core → Prop
  | skip (h : (c.row s i).state ≠ .aifStarted) : StopTurn st s i c c
  | stop (h : (c.row s i).state = .aifStarted) :
      StopTurn st s i c ((c.onRowDev s i DevCore.stopped).setRow s i st)

/-- `session_start`; `gate` when a check or the early start of the graph fails. -/
inductive Start (gate : Prop) (s : ℕ) (c : Core) : ℤ → Core → Prop
  | early {r : ℤ} {c₁ : Core} (h : gate) (hr : r ≠ 0) (hp : Peek c c₁) : Start gate s c r c₁
  | unwound {r r' : ℤ} {c₁ c₂ c' : Core} (h : ¬ gate) (hn : c.openedCount s ≠ 0) (hr : r ≠ 0)
      (hp : Peek c c₁) (hu : Until (StartTurn s) (c.rowRange s) c₁ r' c₂)
      (hs : Chain (StopTurn .aifOpened s) (c.rowRange s) c₂ c') : Start gate s c r c'
  | started {c₁ c' : Core} (h : ¬ gate) (hn : c.openedCount s ≠ 0) (hp : Peek c c₁)
      (hu : Until (StartTurn s) (c.rowRange s) c₁ 0 c') :
      Start gate s c 0 (c'.setState s .sessionStarted)

/-- `session_stop`. -/
inductive Stop (s : ℕ) (c : Core) : ℤ → Core → Prop
  | early {r : ℤ} (hr : r ≠ 0) : Stop s c r c
  | stopped {r : ℤ} {c' : Core} (hs : (c.sess s).state = .sessionStarted)
      (hc : Chain (StopTurn .aifStopped s) (c.rowRange s) c c') :
      Stop s c r (c'.setState s .sessionStopped)

/-- A turn of the loop of `session_close`. -/
inductive CloseTurn (s i : ℕ) (c : Core) : Core → Prop
  | skip (h : (c.row s i).state.isOpened = false) : CloseTurn s i c c
  | close (h : (c.row s i).state.isOpened) :
      CloseTurn s i c ((c.onRowDev s i DevCore.closed).setRow s i .aifClosed)

/-- `session_close`. -/
inductive Close (s : ℕ) (c : Core) : ℤ → Core → Prop
  | already {r : ℤ} (hr : r ≠ 0) : Close s c r c
  | closed {r r' : ℤ} {c₁ c' : Core} (hs : (c.sess s).state ≠ .sessionClosed)
      (hg : CloseGraph (c.sess s).graph c r' c₁)
      (hc : Chain (CloseTurn s) (c.rowRange s) (c₁.setGraph s none) c') :
      Close s c r (c'.setState s .sessionClosed)

/-! ### Edges -/

/-- `session_set_loopback` and `session_set_ec_ref`. -/
inductive SetEdge (s : ℕ) (kind : EdgeKind) (id : ℕ) (enable : Bool) (c : Core) :
    ℤ → Core → Prop
  | early {r : ℤ} {c₁ : Core} (hr : r ≠ 0) (hp : Peek c c₁) : SetEdge s kind id enable c r c₁
  | called {r : ℤ} {c₁ : Core} (hp : Peek c c₁) (hg : r = 0 → (c.sess s).graph ≠ none) :
      SetEdge s kind id enable c r (c₁.addEdge ⟨(c.sess s).graph, kind, id, enable, r⟩)

/-- One of the two edge steps of `session_obj_open`. -/
inductive OpenEdge (s : ℕ) (kind : EdgeKind) (setting : ℕ × Bool) (c : Core) : ℤ → Core → Prop
  | off (h : setting.2 = false) : OpenEdge s kind setting c 0 c
  | on {r : ℤ} {c' : Core} (h : setting.2 = true) (he : SetEdge s kind setting.1 true c r c') :
      OpenEdge s kind setting c r c'

/-- Both edge steps of `session_obj_open`. -/
inductive OpenEdges (s : ℕ) (c : Core) : ℤ → Core → Prop
  | loopback {r : ℤ} {c₁ : Core} (hr : r ≠ 0)
      (hl : OpenEdge s .loopback (c.sess s).loopback c r c₁) : OpenEdges s c r c₁
  | ecRef {r : ℤ} {c₁ c₂ : Core} (hl : OpenEdge s .loopback (c.sess s).loopback c 0 c₁)
      (he : OpenEdge s .ecRef (c₁.sess s).ecRef c₁ r c₂) : OpenEdges s c r c₂

/-! ### Opening -/

/-- `session_open_with_first_device`. -/
inductive OpenFirst (cleans : Prop) (s : ℕ) (c : Core) : ℤ → Core → Prop
  | noAif {r : ℤ} (hr : r ≠ 0) (hi : c.firstOpen s = none) (h : ¬ cleans) : OpenFirst cleans s c r c
  | failed {r : ℤ} {i : ℕ} {c' : Core} (hr : r ≠ 0) (hi : c.firstOpen s = some i)
      (hc : Connect cleans s i 0 c r c') : OpenFirst cleans s c r c'
  | opened {i : ℕ} {c₁ : Core} (hi : c.firstOpen s = some i) (hc : Connect cleans s i 0 c 0 c₁) :
      OpenFirst cleans s c 0 (c₁.setRow s i .aifOpened)

/-- The loop of `session_connect_reminder_devices`. -/
inductive Reminders (s : ℕ) : List ℕ → ℕ → Core → ℤ → Core → Prop
  | nil {n c} : Reminders s [] n c 0 c
  | skip {i is n c r c'} (h : (c.row s i).state ≠ .aifOpen) (hs : Reminders s is n c r c') :
      Reminders s (i :: is) n c r c'
  | fail {i is n c r c'} (h : (c.row s i).state = .aifOpen) (hr : r ≠ 0)
      (hc : Connect False s i n c r c') : Reminders s (i :: is) n c r c'
  | next {i is n c c₁ r c'} (h : (c.row s i).state = .aifOpen) (hc : Connect False s i n c 0 c₁)
      (hs : Reminders s is (n + 1) (c₁.setRow s i .aifOpened) r c') :
      Reminders s (i :: is) n c r c'

/-- A turn of the loop at `unwind` in `session_connect_reminder_devices`. -/
inductive UnwindTurn (lost : Prop) (s i : ℕ) (c : Core) : Core → Prop
  | skip (h : (c.row s i).state ≠ .aifOpened) (hl : ¬ lost) : UnwindTurn lost s i c c
  | close {r : ℤ} {c₁ : Core} (h : (c.row s i).state = .aifOpened)
      (hd : Disconnect lost s i c r c₁) : UnwindTurn lost s i c (c₁.setRow s i .aifOpen)

/-- The label `unwind` of `session_connect_reminder_devices`. -/
inductive Unwind (lost : ℕ → Prop) (s : ℕ) (c : Core) : ℤ → Core → Prop
  | intro {r : ℤ} {c₁ c₂ : Core} (hc : Chain (fun i => UnwindTurn (lost i) s i) (c.rowRange s) c c₁)
      (hg : CloseGraph (c₁.sess s).graph c₁ r c₂) : Unwind lost s c r (c₂.setGraph s none)

/-- The branches that `session_obj_open` takes. -/
structure OpenBranches where
  /-- The first connection closes its graph at `graph_cleanup`. -/
  cleans : Prop
  /-- The loop over the other interfaces goes to `unwind`. -/
  unwinds : Prop
  /-- The turns of that loop in which a device stays open. -/
  lost : ℕ → Prop
  /-- The graph is closed there without an error. -/
  silent : Prop
  /-- An edge cannot be added to the connected session. -/
  edgesFail : Prop

/-- `session_obj_open` from the first connection on. -/
inductive OpenSteps (b : OpenBranches) (s : ℕ) (c : Core) : ℤ → Core → Prop
  | first {r : ℤ} {c' : Core} (hr : r ≠ 0) (h₁ : OpenFirst b.cleans s c r c')
      (hu : ¬ b.unwinds) (he : ¬ b.edgesFail) : OpenSteps b s c r c'
  | unwound {r r₂ : ℤ} {c₁ c₂ c₃ : Core} (hr : r ≠ 0) (h₁ : OpenFirst b.cleans s c 0 c₁)
      (h₂ : Reminders s (c.rowRange s) 1 c₁ r₂ c₂) (hr₂ : r₂ ≠ 0)
      (h₃ : Unwind b.lost s c₂ r c₃) (hu : b.unwinds) (hs : ¬ b.silent) (he : ¬ b.edgesFail) :
      OpenSteps b s c r c₃
  | resumed {r r₂ : ℤ} {c₁ c₂ c₃ c₄ : Core} (h₁ : OpenFirst b.cleans s c 0 c₁)
      (h₂ : Reminders s (c.rowRange s) 1 c₁ r₂ c₂) (hr₂ : r₂ ≠ 0)
      (h₃ : Unwind b.lost s c₂ 0 c₃) (hu : b.unwinds) (hs : b.silent) (he : ¬ b.edgesFail)
      (h₄ : OpenEdges s c₃ r c₄) :
      OpenSteps b s c r (if r = 0 then c₄.setState s .sessionOpened else c₄)
  | edges {r : ℤ} {c₁ c₂ c₃ : Core} (hr : r ≠ 0) (h₁ : OpenFirst b.cleans s c 0 c₁)
      (h₂ : Reminders s (c.rowRange s) 1 c₁ 0 c₂) (h₃ : OpenEdges s c₂ r c₃)
      (hu : ¬ b.unwinds) (he : b.edgesFail) : OpenSteps b s c r c₃
  | opened {c₁ c₂ c₃ : Core} (h₁ : OpenFirst b.cleans s c 0 c₁)
      (h₂ : Reminders s (c.rowRange s) 1 c₁ 0 c₂) (h₃ : OpenEdges s c₂ 0 c₃)
      (hu : ¬ b.unwinds) (he : ¬ b.edgesFail) :
      OpenSteps b s c 0 (c₃.setState s .sessionOpened)

/-! ### Connecting and disconnecting an interface -/

/-- Where `session_obj_sess_aif_connect` goes for `aif_state == true`, once the interface is at
hand: `none` for `done`, else the code that it goes to `unwind` with. -/
inductive HotConnect (cleans gate : Prop) (s i : ℕ) (c : Core) : ℤ → Bool → Core → Prop
  | already {r : ℤ} (hr : r ≠ 0) : HotConnect cleans gate s i c r false c
  | waiting (hs : (c.sess s).state = .sessionClosed)
      (hi : (c.row s i).state.toNat ≤ AifState.aifOpened.toNat) :
      HotConnect cleans gate s i c 0 false (c.setRow s i .aifOpen)
  | failed {r : ℤ} {c' : Core} (hs : (c.sess s).state ≠ .sessionClosed)
      (hi : (c.row s i).state.toNat ≤ AifState.aifOpened.toNat) (hr : r ≠ 0)
      (hc : Connect cleans s i (c.openedCount s) c r c') :
      HotConnect cleans gate s i c r false c'
  | opened {c₁ : Core} (hs : (c.sess s).state = .sessionOpened)
      (hi : (c.row s i).state.toNat ≤ AifState.aifOpened.toNat)
      (hc : Connect cleans s i (c.openedCount s) c 0 c₁) :
      HotConnect cleans gate s i c 0 false (c₁.setRow s i .aifOpened)
  | prepareFailed {r : ℤ} {c₁ c₂ : Core} (hs : (c.sess s).state ≠ .sessionClosed)
      (hi : (c.row s i).state.toNat ≤ AifState.aifOpened.toNat)
      (hc : Connect cleans s i (c.openedCount s) c 0 c₁) (hr : r ≠ 0)
      (hp : Prepare s (c₁.setRow s i .aifOpened) r c₂) : HotConnect cleans gate s i c r true c₂
  | prepared {c₁ c₂ : Core}
      (hs : (c.sess s).state = .sessionPrepared ∨ (c.sess s).state = .sessionStopped)
      (hi : (c.row s i).state.toNat ≤ AifState.aifOpened.toNat)
      (hc : Connect cleans s i (c.openedCount s) c 0 c₁)
      (hp : Prepare s (c₁.setRow s i .aifOpened) 0 c₂) : HotConnect cleans gate s i c 0 false c₂
  | startFailed {r : ℤ} {c₁ c₂ c₃ : Core} (hs : (c.sess s).state = .sessionStarted)
      (hi : (c.row s i).state.toNat ≤ AifState.aifOpened.toNat)
      (hc : Connect cleans s i (c.openedCount s) c 0 c₁)
      (hp : Prepare s (c₁.setRow s i .aifOpened) 0 c₂) (hr : r ≠ 0)
      (hst : Start gate s c₂ r c₃) : HotConnect cleans gate s i c r true c₃
  | started {c₁ c₂ c₃ : Core} (hs : (c.sess s).state = .sessionStarted)
      (hi : (c.row s i).state.toNat ≤ AifState.aifOpened.toNat)
      (hc : Connect cleans s i (c.openedCount s) c 0 c₁)
      (hp : Prepare s (c₁.setRow s i .aifOpened) 0 c₂) (hst : Start gate s c₂ 0 c₃) :
      HotConnect cleans gate s i c 0 false c₃

/-- `session_obj_sess_aif_connect` for `aif_state == false`, once the interface is at hand. -/
inductive AifDisconnect (lost : Prop) (s i : ℕ) (c : Core) : ℤ → Core → Prop
  | already {r : ℤ} (hr : r ≠ 0) : AifDisconnect lost s i c r c
  | forgotten (hs : (c.sess s).state = .sessionClosed)
      (hi : AifState.aifOpen.toNat ≤ (c.row s i).state.toNat) :
      AifDisconnect lost s i c 0 ((c.setRow s i .aifClose).setRow s i .aifClosed)
  | disconnected {r : ℤ} {c₁ : Core} (hs : (c.sess s).state ≠ .sessionClosed)
      (hi : AifState.aifOpen.toNat ≤ (c.row s i).state.toNat)
      (hd : Disconnect lost s i (c.setRow s i .aifClose) r c₁) :
      AifDisconnect lost s i c r (if r = 0 then c₁.setRow s i .aifClosed else c₁)

/-! ### Frames of the loops -/

section frames
variable {s i : ℕ} {c c' : Core} {r : ℤ} {l : List ℕ}

theorem Frame.onRowDev (c : Core) (i : ℕ) (f : DevCore → DevCore) :
    Frame s c (c.onRowDev s i f) := by
  unfold Core.onRowDev
  cases (c.row s i).dev with
  | none => exact .refl s c
  | some d => exact .onDev c d f

theorem PrepareTurn.frame (h : PrepareTurn s i c r c') : Frame s c c' := by
  cases h with
  | skip h => exact .refl s c
  | fail h hr => exact .onRowDev c i _
  | next h hd => exact (Frame.onDev c _ _).trans (.setRow _ i _)

theorem StartTurn.frame (h : StartTurn s i c r c') : Frame s c c' := by
  cases h with
  | skip h => exact .refl s c
  | fail h hr => exact .refl s c
  | next h hd hp => exact (Frame.onDev c _ _).trans (.setRow _ i _)

theorem StopTurn.frame {st : AifState} (h : StopTurn st s i c c') : Frame s c c' := by
  cases h with
  | skip h => exact .refl s c
  | stop h => exact (Frame.onRowDev c i _).trans (.setRow _ i _)

theorem CloseTurn.frame (h : CloseTurn s i c c') : Frame s c c' := by
  cases h with
  | skip h => exact .refl s c
  | close h => exact (Frame.onRowDev c i _).trans (.setRow _ i _)

theorem Disconnect.frame {lost : Prop} (h : Disconnect lost s i c r c') : Frame s c c' := by
  cases h with
  | lost h hr => exact .refl s c
  | closed h hd => exact .onDev c _ _

theorem UnwindTurn.frame {lost : Prop} (h : UnwindTurn lost s i c c') : Frame s c c' := by
  cases h with
  | skip h hl => exact .refl s c
  | close h hd => exact hd.frame.trans (.setRow _ i _)

/-- A loop of framed turns is framed. -/
theorem frame_of_until {T : ℕ → Core → ℤ → Core → Prop}
    (hT : ∀ i c r c', T i c r c' → Frame s c c') (h : Until T l c r c') : Frame s c c' :=
  h.invariant (I := fun x => Frame s c x) (fun i _ r _ hf ht => hf.trans (hT i _ r _ ht)) (.refl s c)

/-- A loop of framed turns is framed. -/
theorem frame_of_chain {T : ℕ → Core → Core → Prop}
    (hT : ∀ i c c', T i c c' → Frame s c c') (h : Chain T l c c') : Frame s c c' :=
  h.invariant (I := fun x => Frame s c x) (fun i _ _ hf ht => hf.trans (hT i _ _ ht)) (.refl s c)

end frames

end Agm
