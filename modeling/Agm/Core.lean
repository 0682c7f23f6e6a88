import Agm.SessionApi

/-! # The abstract service

Most of what the service promises is about a small part of its state: the states of the
sessions and of their interfaces, the counters of the devices, and which graphs are open.
`Core` is that part, and `World.core` forgets the rest (metadata, cached parameters, the
objects of the graph layer, the external results).

On a `Core` every operation of the layers below is a plain function: `openDev`, `closeDev` and
their like move one device, `newGraph` and `killGraph` open and close a graph, `setRow` and
`setSess` assign to a session.  `Agm.Refine` shows that the functions of the source do nothing
else. -/

namespace Agm

/-! ### The state -/

/-- A session-interface pair. -/
structure Row where
  aifId : ℕ := 0
  dev : Option ℕ := none
  state : AifState := .aifClosed
deriving DecidableEq, Repr

/-- A session. -/
structure SessCore where
  state : SessionState := .sessionClosed
  graph : Option ℕ := none
  rows : List Row := []
  loopback : ℕ × Bool := (0, false)
  ecRef : ℕ × Bool := (0, false)
deriving DecidableEq, Repr

/-- A device. -/
structure DevCore where
  refcnt : Refcount
  state : DeviceState
  trace : List DevEvent
deriving DecidableEq, Repr

/-- The abstract service. -/
structure Core where
  pool : List ℕ
  sess : ℕ → SessCore
  dev : ℕ → DevCore
  live : ℕ → Bool
  nextGraph : ℕ
  edges : List EdgeCall
  numAudioIntfs : ℕ
  pastEnd : Option ℕ

def Aif.row (a : Aif) : Row := ⟨a.aifId, a.devObj, a.state⟩

def SessionObj.core (sess : SessionObj) : SessCore where
  state := sess.state
  graph := sess.graph
  rows := sess.aifPool.map Aif.row
  loopback := (sess.loopbackSessId, sess.loopbackState)
  ecRef := (sess.ecRefAifId, sess.ecRefState)

def DeviceObj.core (dev : DeviceObj) : DevCore := ⟨dev.refcnt, dev.state, dev.trace⟩

/-- What a state of the service is to the abstract service. -/
def World.core (w : World) : Core where
  pool := w.pool
  sess := fun s => (w.sess s).core
  dev := fun d => (w.dev d).core
  live := fun g => (w.heap g).isSome
  nextGraph := w.nextGraph
  edges := w.edges
  numAudioIntfs := w.numAudioIntfs
  pastEnd := w.pastEnd

/-! ### Devices -/

namespace DevCore

/-- `device_open`, when it succeeds. -/
def opened (x : DevCore) : DevCore :=
  if x.refcnt.open = 0 then
    { x with
      state := .devOpened
      refcnt := { x.refcnt with «open» := 1 }
      trace := .pcmOpen :: x.trace }
  else { x with refcnt := { x.refcnt with «open» := x.refcnt.open + 1 } }

/-- `device_prepare`, when it succeeds. -/
def prepared (x : DevCore) : DevCore :=
  if x.refcnt.prepare = 0 then
    { x with
      state := .devPrepared
      refcnt := { x.refcnt with prepare := 1 }
      trace := .pcmPrepare :: x.trace }
  else { x with refcnt := { x.refcnt with prepare := x.refcnt.prepare + 1 } }

/-- `device_prepare`, when the pcm refuses. -/
def notPrepared (x : DevCore) : DevCore := { x with trace := .pcmPrepare :: x.trace }

/-- `device_start`, when it succeeds. -/
def started (x : DevCore) : DevCore :=
  if x.refcnt.start = 0 then
    { x with state := .devStarted, refcnt := { x.refcnt with start := 1 } }
  else { x with refcnt := { x.refcnt with start := x.refcnt.start + 1 } }

/-- `device_stop`. -/
def stopped (x : DevCore) : DevCore :=
  if x.refcnt.start = 0 then x
  else if x.refcnt.start = 1 then
    { x with
      state := .devStopped
      refcnt := { x.refcnt with start := 0 }
      trace := .pcmStop :: x.trace }
  else { x with refcnt := { x.refcnt with start := x.refcnt.start - 1 } }

/-- `device_close`. -/
def closed (x : DevCore) : DevCore :=
  if x.refcnt.open = 1 then
    { state := .devClosed
      refcnt := { «open» := 0, prepare := 0, start := 0 }
      trace := .pcmClose :: x.trace }
  else { x with refcnt := { x.refcnt with «open» := x.refcnt.open - 1 } }

/-- Observations on a device. -/
def observed (evs : List DevEvent) (x : DevCore) : DevCore := { x with trace := evs ++ x.trace }

end DevCore

/-! ### Operations -/

namespace Core

variable (c : Core)

/-- Replace a session. -/
def setSess (s : ℕ) (x : SessCore) : Core := { c with sess := Function.update c.sess s x }

/-- Apply an operation to a device. -/
def onDev (d : ℕ) (f : DevCore → DevCore) : Core :=
  { c with dev := Function.update c.dev d (f (c.dev d)) }

def openDev (d : ℕ) : Core := c.onDev d DevCore.opened
def closeDev (d : ℕ) : Core := c.onDev d DevCore.closed

/-- The pair at a position of a session. -/
def row (s i : ℕ) : Row := (c.sess s).rows.getD i {}

/-- Assign the state of a pair without observing it. -/
def putRow (s i : ℕ) (st : AifState) : Core :=
  c.setSess s { c.sess s with rows := (c.sess s).rows.modify i fun r => { r with state := st } }

/-- Observations on the device of a pair. -/
def observe (d : Option ℕ) (evs : List DevEvent) : Core :=
  match d with
  | none => c
  | some d => c.onDev d (DevCore.observed evs)

/-- Assign the state of a pair. -/
def setRow (s i : ℕ) (st : AifState) : Core :=
  (c.putRow s i st).observe (c.row s i).dev (pairEvents (c.row s i).state st)

/-- Assign the state of a session. -/
def setState (s : ℕ) (st : SessionState) : Core := c.setSess s { c.sess s with state := st }

/-- Assign the graph pointer of a session. -/
def setGraph (s : ℕ) (g : Option ℕ) : Core := c.setSess s { c.sess s with graph := g }

/-- Open a graph for a session. -/
def newGraph (s : ℕ) : Core :=
  { c.setGraph s (some c.nextGraph) with
    live := Function.update c.live c.nextGraph true
    nextGraph := c.nextGraph + 1 }

/-- Close a graph. -/
def killGraph (g : ℕ) : Core := { c with live := Function.update c.live g false }

/-- Create a session. -/
def addSess (s : ℕ) : Core := { c.setSess s {} with pool := c.pool ++ [s] }

/-- Append a pair to a session. -/
def addRow (s : ℕ) (r : Row) : Core :=
  c.setSess s { c.sess s with rows := (c.sess s).rows ++ [r] }

/-- Record a call made for an edge. -/
def addEdge (e : EdgeCall) : Core := { c with edges := e :: c.edges }

/-- `aif_obj_get_count_with_state(.., AIF_OPENED, false)`. -/
def openedCount (s : ℕ) : ℕ := (c.sess s).rows.countP fun r => r.state.isOpened

/-! ### Reading an updated state -/

@[simp] theorem sess_setSess_self (s : ℕ) (x : SessCore) : (c.setSess s x).sess s = x :=
  Function.update_self ..

theorem sess_setSess_of_ne {s t : ℕ} (h : t ≠ s) (x : SessCore) :
    (c.setSess s x).sess t = c.sess t := Function.update_of_ne h ..

@[simp] theorem dev_onDev_self (d : ℕ) (f : DevCore → DevCore) :
    (c.onDev d f).dev d = f (c.dev d) := Function.update_self ..

theorem dev_onDev_of_ne {d d' : ℕ} (h : d' ≠ d) (f : DevCore → DevCore) :
    (c.onDev d f).dev d' = c.dev d' := Function.update_of_ne h ..

theorem sess_setRow (s i : ℕ) (st : AifState) (t : ℕ) :
    (c.setRow s i st).sess t = (c.putRow s i st).sess t := by
  unfold setRow observe
  cases (c.row s i).dev with
  | none => rfl
  | some d => rfl

/-- The state of a pair that exists is the assigned one. -/
theorem row_setRow_self {s i : ℕ} (st : AifState) (hi : i < (c.sess s).rows.length) :
    (c.setRow s i st).row s i = { c.row s i with state := st } := by
  simp only [row, sess_setRow, putRow, sess_setSess_self, List.getD_eq_getElem?_getD,
    List.getElem?_modify_eq, List.getElem?_eq_getElem hi, Option.map_eq_map, Option.map_some,
    Option.getD_some]

/-- The other pairs stay. -/
theorem row_setRow_of_ne {s i t j : ℕ} (st : AifState) (h : t ≠ s ∨ j ≠ i) :
    (c.setRow s i st).row t j = c.row t j := by
  simp only [row, sess_setRow, putRow]
  by_cases ht : t = s
  · subst ht
    have hj : i ≠ j := fun e => h.elim (fun h => h rfl) fun h => h e.symm
    simp only [sess_setSess_self, List.getD_eq_getElem?_getD, List.getElem?_modify_ne _ _ hj]
  · rw [sess_setSess_of_ne _ ht]

theorem rows_setState (s : ℕ) (st : SessionState) (t : ℕ) :
    ((c.setState s st).sess t).rows = (c.sess t).rows := by
  by_cases ht : t = s
  · subst ht
    simp [setState]
  · rw [setState, sess_setSess_of_ne _ ht]

theorem rows_setGraph (s : ℕ) (g : Option ℕ) (t : ℕ) :
    ((c.setGraph s g).sess t).rows = (c.sess t).rows := by
  by_cases ht : t = s
  · subst ht
    simp [setGraph]
  · rw [setGraph, sess_setSess_of_ne _ ht]

/-- A pair in any state but the zeroed one is an entry of the pool. -/
theorem lt_of_row_ne {s i : ℕ} (h : (c.row s i).state ≠ .aifClosed) :
    i < (c.sess s).rows.length := by
  by_contra hge
  rw [row, List.getD_eq_default _ _ (not_lt.mp hge)] at h
  exact h rfl

theorem mem_of_row {s i : ℕ} (hi : i < (c.sess s).rows.length) :
    c.row s i ∈ (c.sess s).rows := by
  rw [row, List.getD_eq_getElem _ _ hi]
  exact List.getElem_mem hi

theorem exists_row_of_mem {s : ℕ} {r : Row} (h : r ∈ (c.sess s).rows) :
    ∃ i, i < (c.sess s).rows.length ∧ c.row s i = r := by
  obtain ⟨i, hi, rfl⟩ := List.getElem_of_mem h
  exact ⟨i, hi, List.getD_eq_getElem _ _ hi⟩

end Core

/-! ### Frames -/

/-- From `c` to `c'` nothing moved but devices and the states of the pairs of session `s`. -/
structure Frame (s : ℕ) (c c' : Core) : Prop where
  pool : c'.pool = c.pool
  live : c'.live = c.live
  nextGraph : c'.nextGraph = c.nextGraph
  edges : c'.edges = c.edges
  numAudioIntfs : c'.numAudioIntfs = c.numAudioIntfs
  pastEnd : c'.pastEnd = c.pastEnd
  others : ∀ t, t ≠ s → c'.sess t = c.sess t
  state : (c'.sess s).state = (c.sess s).state
  graph : (c'.sess s).graph = (c.sess s).graph
  loopback : (c'.sess s).loopback = (c.sess s).loopback
  ecRef : (c'.sess s).ecRef = (c.sess s).ecRef
  keys : (c'.sess s).rows.map (fun r => (r.aifId, r.dev)) =
    (c.sess s).rows.map (fun r => (r.aifId, r.dev))

namespace Frame

variable {s : ℕ} {c c' c'' : Core}

theorem refl (s : ℕ) (c : Core) : Frame s c c :=
  ⟨rfl, rfl, rfl, rfl, rfl, rfl, fun _ _ => rfl, rfl, rfl, rfl, rfl, rfl⟩

theorem trans (h : Frame s c c') (h' : Frame s c' c'') : Frame s c c'' where
  pool := h'.pool.trans h.pool
  live := h'.live.trans h.live
  nextGraph := h'.nextGraph.trans h.nextGraph
  edges := h'.edges.trans h.edges
  numAudioIntfs := h'.numAudioIntfs.trans h.numAudioIntfs
  pastEnd := h'.pastEnd.trans h.pastEnd
  others t ht := (h'.others t ht).trans (h.others t ht)
  state := h'.state.trans h.state
  graph := h'.graph.trans h.graph
  loopback := h'.loopback.trans h.loopback
  ecRef := h'.ecRef.trans h.ecRef
  keys := h'.keys.trans h.keys

theorem onDev (c : Core) (d : ℕ) (f : DevCore → DevCore) : Frame s c (c.onDev d f) :=
  ⟨rfl, rfl, rfl, rfl, rfl, rfl, fun _ _ => rfl, rfl, rfl, rfl, rfl, rfl⟩

theorem observe (c : Core) (d : Option ℕ) (evs : List DevEvent) :
    Frame s c (c.observe d evs) := by
  cases d with
  | none => exact refl s c
  | some d => exact onDev c d _

theorem setRow (c : Core) (i : ℕ) (st : AifState) : Frame s c (c.setRow s i st) := by
  have hput : Frame s c (c.putRow s i st) := by
    refine ⟨rfl, rfl, rfl, rfl, rfl, rfl, fun t ht => c.sess_setSess_of_ne ht _, ?_, ?_, ?_, ?_, ?_⟩
    all_goals simp only [Core.putRow, Core.sess_setSess_self]
    refine List.ext_getElem? fun j => ?_
    simp only [List.getElem?_map, List.getElem?_modify]
    cases (c.sess s).rows[j]? with
    | none => rfl
    | some r =>
        by_cases h : i = j
        · simp [h]
        · simp [h]
  exact hput.trans (observe _ _ _)

theorem length (h : Frame s c c') : (c'.sess s).rows.length = (c.sess s).rows.length := by
  simpa using congrArg List.length h.keys

/-- A pair keeps its interface and its device. -/
theorem row_dev (h : Frame s c c') (i : ℕ) : (c'.row s i).dev = (c.row s i).dev := by
  have hi := congrArg (fun l => (l[i]?.map Prod.snd).getD none) h.keys
  simp only [List.getElem?_map, Option.map_map] at hi
  simp only [Core.row, List.getD_eq_getElem?_getD]
  cases h₁ : (c'.sess s).rows[i]? <;> cases h₂ : (c.sess s).rows[i]? <;>
    simp_all

end Frame

end Agm
