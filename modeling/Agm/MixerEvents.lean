import Agm.SndParser
import Agm.Lib.Codec

/-! # The event queues of the mixer (`agm_mixer_plugin.c`)

An event of a session is put into two queues: `events_list` tells the client which control to read,
`events_paramlist` keeps what the control gives.  The client drains them with different calls.

* **Buffers.**  `amp_read_event` moves through the client's buffer in steps of a `struct
  snd_ctl_event`, so the buffer is a list of such structures, and what is left of it is not
  reached.  Their size is a parameter, as the structure is that of the kernel.
* **Controls.**  The bytes that a control gives are those written to `value.bytes.data`.
* **The client** is told of an event by `event_cb`; what it does then is a further call.

`ampEvents_iff`: in which runs every call keeps the order of the queues and stays in the bounds of
what it fills. -/

namespace Agm

open Prog

/-! ### The data model -/

/-- `struct agm_event_cb_params`; `event_payload_size` is the length of the payload. -/
structure AgmEventCbParams where
  sourceModuleId : ℕ
  eventId : ℕ
  eventPayload : List UInt8
deriving DecidableEq, Repr

def SIZEOF_AGM_EVENT_CB_PARAMS : ℕ := 12

/-- The bytes of the structure and of its payload. -/
def AgmEventCbParams.bytes (p : AgmEventCbParams) : List UInt8 :=
  Codec.leBytes 4 p.sourceModuleId ++ Codec.leBytes 4 p.eventId ++
    Codec.leBytes 4 p.eventPayload.length ++ p.eventPayload

/-- `struct event_params_node`. -/
structure EventParamsNode where
  sessionId : ℕ
  eventParams : AgmEventCbParams
deriving DecidableEq, Repr

def SNDRV_CTL_EVENT_ELEM : ℕ := 0

/-- The fields of a `struct snd_ctl_event` that are set. -/
structure SndCtlEvent where
  type : ℕ
  name : CStr
deriving DecidableEq, Repr

/-- The queues, and what the last calls have written for the client: the structures of the buffer,
`none` where it was left as it is, and the bytes of the control. -/
structure AmpEvents where
  eventsList : List SndCtlEvent := []
  eventsParamlist : List EventParamsNode := []
  subscribed : Bool := true
  buffer : List (Option SndCtlEvent) := []
  value : List UInt8 := []
deriving DecidableEq, Repr

abbrev AmpEventM := Prog AmpEvents Crash

/-- Which allocations of `amp_event_cb` succeed. -/
structure EventMem where
  node : Bool := true
  mixerStr : Bool := true
  data : Bool := true
deriving DecidableEq, Repr

/-- `pcm_event_bytes`. -/
def PCM_EVENT_BYTES : ℕ := 512 - 16

/-! ### Arriving events -/

/-- `amp_add_event_params`. -/
def ampAddEventParams (sessionId : ℕ) (eventParams : AgmEventCbParams) (mem : Bool) :
    AmpEventM Unit :=
  if !mem then pure ()
  else Prog.modify fun g =>
    { g with eventsParamlist := g.eventsParamlist ++ [⟨sessionId, eventParams⟩] }

/-- The text of `snprintf`, cut to the length of the block: the session is printed as an `int`. -/
def ampMixerStr (sessionId : ℕ) : CStr :=
  let stream := "PCM".toList
  let ctlName := "event".toList
  let ctlLen := stream.length + 4 + ctlName.length + 1
  (stream ++ (toString ((sessionId : ℤ).bmod (2 ^ 32))).toList ++ " ".toList ++ ctlName).take
    (ctlLen - 1)

/-- `amp_event_cb`. -/
def ampEventCb (sessionId : ℕ) (eventParams : AgmEventCbParams) (mem : EventMem) :
    AmpEventM Unit := do
  let g ← gets id
  if !g.subscribed then pure ()
  else do
    ampAddEventParams sessionId eventParams mem.node
    if !mem.mixerStr then pure ()
    else if !mem.data then pure ()
    else
      let event : SndCtlEvent := { type := SNDRV_CTL_EVENT_ELEM, name := ampMixerStr sessionId }
      Prog.modify fun g => { g with eventsList := g.eventsList ++ [event] }

/-! ### Draining the queues -/

/-- `memcpy` of an event to the structure with a number. -/
def writeEvent (i : ℕ) (event : SndCtlEvent) : AmpEventM Unit := fun g =>
  if i < g.buffer.length then .ok ((), { g with buffer := g.buffer.set i (some event) })
  else .error .outOfBounds

/-- The loop of `amp_read_event`.  The pointer to a structure is moved on by its size in bytes. -/
def ampReadLoop (evSize : ℕ) : List SndCtlEvent → ℕ → ℕ → ℕ → AmpEventM ℕ
  | [], _, _, result => pure result
  | data :: eventsList, size, ev, result =>
      if size < evSize then pure result
      else do
        writeEvent ev data
        Prog.modify fun g => { g with eventsList }
        ampReadLoop evSize eventsList (size - evSize) (ev + evSize) (result + evSize)

/-- `amp_read_event`. -/
def ampReadEvent (evSize size : ℕ) : AmpEventM ℕ := do
  Prog.modify fun g => { g with buffer := List.replicate (size / evSize) none }
  let eventsList ← gets AmpEvents.eventsList
  ampReadLoop evSize eventsList size 0 0

/-- `amp_pcm_event_get`.  The session of an entry is compared with the `int` of the control. -/
def ampPcmEventGet (privateValue : ℤ) : AmpEventM ℕ := do
  let nodes ← gets AmpEvents.eventsParamlist
  match nodes.find? fun node => node.sessionId = toUnsigned privateValue with
  | none => pure 0
  | some node => do
      Prog.modify fun g =>
        { g with
          value := node.eventParams.bytes
          eventsParamlist := nodes.eraseP fun node => node.sessionId = toUnsigned privateValue }
      pure 0

/-! ### Runs -/

inductive EventCall where
  | event (sessionId : ℕ) (eventParams : AgmEventCbParams) (mem : EventMem)
  | read (size : ℕ)
  | get (privateValue : ℤ)
deriving DecidableEq, Repr

/-- Execute a call; what is returned is 0 for a callback. -/
def ampHandle (evSize : ℕ) : EventCall → AmpEventM ℕ
  | .event sessionId eventParams mem => do
      ampEventCb sessionId eventParams mem
      pure 0
  | .read size => ampReadEvent evSize size
  | .get privateValue => ampPcmEventGet privateValue

/-- A queue after an arrival: as before, or with the new entry at its end. -/
def Arrives {α : Type} (queue : List α) (x : α) (queue' : List α) : Prop :=
  queue' = queue ∨ queue' = queue ++ [x]

/-- What is expected of a call. -/
def EventCall.Right (evSize : ℕ) (g : AmpEvents) (c : EventCall) : Prop :=
  Ensures noFault (ampHandle evSize c) g fun r g' =>
    match c with
    | .event sessionId eventParams mem =>
        Arrives g.eventsList ⟨SNDRV_CTL_EVENT_ELEM, ampMixerStr sessionId⟩ g'.eventsList ∧
        Arrives g.eventsParamlist ⟨sessionId, eventParams⟩ g'.eventsParamlist ∧
        (g.subscribed = true → mem = {} →
          g'.eventsList = g.eventsList ++ [⟨SNDRV_CTL_EVENT_ELEM, ampMixerStr sessionId⟩] ∧
          g'.eventsParamlist = g.eventsParamlist ++ [⟨sessionId, eventParams⟩])
    | .read size =>
        let k := size / evSize
        let n := min k g.eventsList.length
        r = n * evSize ∧
        g'.buffer = (g.eventsList.take n).map some ++ List.replicate (k - n) none ∧
        g'.eventsList = g.eventsList.drop n ∧ g'.eventsParamlist = g.eventsParamlist
    | .get privateValue =>
        r = 0 ∧
        ((∀ node ∈ g.eventsParamlist, node.sessionId ≠ toUnsigned privateValue) ∧ g' = g ∨
        ∃ older node newer, g.eventsParamlist = older ++ node :: newer ∧
          (∀ node ∈ older, node.sessionId ≠ toUnsigned privateValue) ∧
          node.sessionId = toUnsigned privateValue ∧
          g' = { g with value := node.eventParams.bytes, eventsParamlist := older ++ newer } ∧
          node.eventParams.bytes.length ≤ PCM_EVENT_BYTES)

/-- A read moves at most one event, and the event that a control gives is not longer than its
bytes. -/
def EventCall.Sound (evSize : ℕ) (g : AmpEvents) : EventCall → Prop
  | event _ _ _ => True
  | read size => size / evSize ≤ 1 ∨ g.eventsList.length ≤ 1
  | get privateValue =>
      ∀ node ∈ g.eventsParamlist.find? fun node => node.sessionId = toUnsigned privateValue,
        SIZEOF_AGM_EVENT_CB_PARAMS + node.eventParams.eventPayload.length ≤ PCM_EVENT_BYTES

/-! ### Arrivals -/

section
variable {evSize : ℕ} {g : AmpEvents}

theorem ampAddEventParams_run (sessionId : ℕ) (eventParams : AgmEventCbParams) (mem : Bool) :
    ∃ nodes, ampAddEventParams sessionId eventParams mem g =
        .ok ((), { g with eventsParamlist := nodes }) ∧
      Arrives g.eventsParamlist ⟨sessionId, eventParams⟩ nodes ∧
      (mem = true → nodes = g.eventsParamlist ++ [⟨sessionId, eventParams⟩]) := by
  cases mem with
  | false => exact ⟨g.eventsParamlist, rfl, .inl rfl, Bool.noConfusion⟩
  | true => exact ⟨_, rfl, .inr rfl, fun _ => rfl⟩

theorem event_right (sessionId : ℕ) (eventParams : AgmEventCbParams) (mem : EventMem) :
    (EventCall.event sessionId eventParams mem).Right evSize g := by
  unfold EventCall.Right ampHandle ampEventCb
  rw [ensures_bind, ensures_bind, ensures_gets, ensures_ite]
  refine ⟨fun h => ⟨.inl rfl, .inl rfl, fun hsub => ?_⟩, fun _ => ?_⟩
  · rw [id_eq, hsub] at h
    exact Bool.noConfusion h
  · obtain ⟨nodes, hrun, harrives, hmem⟩ := ampAddEventParams_run (g := g) sessionId eventParams
      mem.node
    rw [ensures_bind_ok hrun, ensures_ite]
    refine ⟨fun h => ⟨.inl rfl, harrives, ?_⟩, fun _ => ?_⟩
    · rintro - rfl
      exact Bool.noConfusion h
    rw [ensures_ite]
    refine ⟨fun h => ⟨.inl rfl, harrives, ?_⟩, fun _ => ⟨.inr rfl, harrives, ?_⟩⟩
    · rintro - rfl
      exact Bool.noConfusion h
    · rintro - rfl
      exact ⟨rfl, hmem rfl⟩

/-! ### Reads -/

theorem writeEvent_ok {i : ℕ} (h : i < g.buffer.length) (event : SndCtlEvent) :
    writeEvent i event g = .ok ((), { g with buffer := g.buffer.set i (some event) }) := if_pos h

/-- What lies before the pointer is not written again. -/
theorem ampReadLoop_keeps {i : ℕ} (events : List SndCtlEvent) {size ev result : ℕ} (hi : i < ev) :
    Ensures anyFault (ampReadLoop evSize events size ev result) g fun _ g' =>
      g'.buffer[i]? = g.buffer[i]? := by
  induction events generalizing size ev result g with
  | nil => exact rfl
  | cons data events ih =>
      unfold ampReadLoop
      rw [ensures_ite]
      refine ⟨fun _ => rfl, fun _ => ?_⟩
      by_cases hev : ev < g.buffer.length
      · rw [ensures_bind_ok (writeEvent_ok hev data), ensures_bind, ensures_modify]
        refine (ih (by omega)).imp fun _ g' h => ?_
        rw [h]
        exact List.getElem?_set_ne (by omega)
      · have hrun : writeEvent ev data g = .error .outOfBounds := if_neg hev
        rw [ensures_bind_error hrun]
        trivial

/-- The loop stops when the buffer is full. -/
theorem ampReadLoop_full {events : List SndCtlEvent} {size ev result : ℕ}
    (h : events = [] ∨ size < evSize) :
    ampReadLoop evSize events size ev result g = .ok (result, g) := by
  cases events with
  | nil => rfl
  | cons data events =>
      obtain h | h := h
      · exact absurd h (List.cons_ne_nil _ _)
      · unfold ampReadLoop
        rw [if_pos h]
        rfl

/-- The first turn of the loop. -/
theorem ampReadLoop_first {data : SndCtlEvent} {events : List SndCtlEvent} {size : ℕ}
    (hsize : evSize ≤ size) (hbuf : 0 < g.buffer.length) :
    ampReadLoop evSize (data :: events) size 0 0 g =
      ampReadLoop evSize events (size - evSize) evSize evSize
        { g with buffer := g.buffer.set 0 (some data), eventsList := events } := by
  conv_lhs => unfold ampReadLoop
  rw [if_neg (not_lt.mpr hsize), bind_of_ok (writeEvent_ok hbuf data), bind_modify, Nat.zero_add]

theorem ensures_readLoop_first {E : Crash → Prop} {Q : ℕ → AmpEvents → Prop} {data : SndCtlEvent}
    {events : List SndCtlEvent} {size : ℕ} (hsize : evSize ≤ size) (hbuf : 0 < g.buffer.length) :
    Ensures E (ampReadLoop evSize (data :: events) size 0 0) g Q ↔
      Ensures E (ampReadLoop evSize events (size - evSize) evSize evSize)
        { g with buffer := g.buffer.set 0 (some data), eventsList := events } Q := by
  unfold Ensures
  rw [ampReadLoop_first hsize hbuf]

theorem read_right_iff (hev : 1 < evSize) (size : ℕ) :
    (EventCall.read size).Right evSize g ↔ (EventCall.read size).Sound evSize g := by
  obtain ⟨events, nodes, subscribed, buffer, value⟩ := g
  unfold EventCall.Right EventCall.Sound ampHandle ampReadEvent
  rw [ensures_bind, ensures_modify, ensures_bind, ensures_gets]
  dsimp only
  rcases Nat.lt_or_ge size evSize with hsmall | hsize
  · -- no room
    have hk : size / evSize = 0 := Nat.div_eq_of_lt hsmall
    rw [ensures_iff_of_ok (ampReadLoop_full (.inr hsmall)), hk]
    simp
  have hk : 1 ≤ size / evSize := Nat.div_pos hsize (by omega)
  cases events with
  | nil =>
      rw [ensures_iff_of_ok (ampReadLoop_full (.inl rfl))]
      simp
  | cons data events =>
      rw [ensures_readLoop_first hsize (by rwa [List.length_replicate])]
      obtain ⟨k, hk'⟩ : ∃ k, size / evSize = k + 1 := ⟨_, (Nat.sub_add_cancel hk).symm⟩
      rw [hk', List.length_cons]
      by_cases hfull : events = [] ∨ size - evSize < evSize
      · have hone : k = 0 ∨ events.length = 0 := by
          rcases hfull with rfl | hlt
          · exact .inr rfl
          · have hlt : size / evSize < 2 := Nat.div_lt_of_lt_mul (by omega)
            exact .inl (by omega)
        have hmin : min (k + 1) (events.length + 1) = 1 := by omega
        rw [ensures_iff_of_ok (ampReadLoop_full hfull), hmin]
        exact iff_of_true ⟨(Nat.one_mul _).symm, rfl, rfl, rfl⟩ (by omega)
      · -- the second event is not written behind the first
        rw [not_or] at hfull
        obtain ⟨next, events, rfl⟩ := List.exists_cons_of_ne_nil hfull.1
        have hroom : 2 ≤ size / evSize := (Nat.le_div_iff_mul_le (by omega)).mpr (by omega)
        refine iff_of_false (fun h => ?_) (by rw [List.length_cons]; omega)
        obtain ⟨_, g', -, ⟨-, hbuf, -, -⟩, hkeeps⟩ :=
          (h.and (ampReadLoop_keeps (i := 1) (next :: events) hev)).exists_ok
        obtain ⟨n, hn⟩ : ∃ n, min (k + 1) ((next :: events).length + 1) = n + 2 :=
          ⟨min (k - 1) events.length, by rw [List.length_cons]; omega⟩
        obtain ⟨k, rfl⟩ : ∃ k', k = k' + 1 := ⟨k - 1, by omega⟩
        rw [hbuf, hn] at hkeeps
        exact absurd hkeeps (by simp)

/-! ### The control of a session -/

theorem AgmEventCbParams.length_bytes (p : AgmEventCbParams) :
    p.bytes.length = SIZEOF_AGM_EVENT_CB_PARAMS + p.eventPayload.length := by
  unfold AgmEventCbParams.bytes
  rw [List.length_append, List.length_append, List.length_append, Codec.length_leBytes,
    Codec.length_leBytes, Codec.length_leBytes]
  rfl

/-- The first entry that passes a test, with what lies before and behind it. -/
theorem find?_eraseP {α : Type} {q : α → Bool} {l : List α} {x : α} (h : l.find? q = some x) :
    ∃ before after, l = before ++ x :: after ∧ (∀ y ∈ before, ¬ q y) ∧ q x ∧
      l.eraseP q = before ++ after := by
  obtain ⟨hx, before, after, rfl, hbefore⟩ := List.find?_eq_some_iff_append.mp h
  have hbefore : ∀ y ∈ before, ¬ q y := fun y hy => by simpa using hbefore y hy
  refine ⟨before, after, rfl, hbefore, hx, ?_⟩
  rw [List.eraseP_append_right _ hbefore, List.eraseP_cons_of_pos hx]

theorem get_right_iff (privateValue : ℤ) :
    (EventCall.get privateValue).Right evSize g ↔ (EventCall.get privateValue).Sound evSize g := by
  unfold EventCall.Right EventCall.Sound ampHandle ampPcmEventGet
  rw [ensures_bind, ensures_gets]
  cases hfind : g.eventsParamlist.find? fun node => node.sessionId = toUnsigned privateValue with
  | none =>
      refine iff_of_true ⟨rfl, .inl ⟨fun node hnode => ?_, rfl⟩⟩ fun node hnode =>
        absurd (hfind.symm.trans hnode) nofun
      simpa using List.find?_eq_none.mp hfind node hnode
  | some node =>
      obtain ⟨older, newer, hnodes, holder, hsession, herase⟩ := find?_eraseP hfind
      have holder : ∀ x ∈ older, x.sessionId ≠ toUnsigned privateValue := fun x hx => by
        simpa using holder x hx
      have hsession : node.sessionId = toUnsigned privateValue := by simpa using hsession
      dsimp only
      rw [ensures_bind, ensures_modify, ensures_pure]
      constructor
      · rintro ⟨-, ⟨hnone, -⟩ | ⟨older', node', newer', hnodes', holder', hsession', hg', hlen⟩⟩
        · exact absurd hsession (hnone node (hnodes ▸ by simp))
        · intro x hx
          obtain rfl : node = x := Option.some.inj (hfind.symm.trans hx)
          have hvalue : node.eventParams.bytes = node'.eventParams.bytes :=
            congrArg AmpEvents.value hg'
          rw [← AgmEventCbParams.length_bytes, hvalue]
          exact hlen
      · intro hlen
        refine ⟨rfl, .inr ⟨older, node, newer, hnodes, holder, hsession, ?_, ?_⟩⟩
        · rw [herase]
        · rw [AgmEventCbParams.length_bytes]
          exact hlen node hfind

theorem EventCall.right_iff (hev : 1 < evSize) (c : EventCall) :
    c.Right evSize g ↔ c.Sound evSize g := by
  cases c with
  | event sessionId eventParams mem => exact iff_of_true (event_right sessionId eventParams mem) trivial
  | read size => exact read_right_iff hev size
  | get privateValue => exact get_right_iff privateValue

end

/-- In every run the calls keep the order of the queues and stay in the bounds of what they fill
exactly if no read has room for two events while two are pending, and no session's oldest event is
longer than the bytes of its control when it is got. -/
theorem ampEvents_iff {evSize : ℕ} (hev : 1 < evSize) (calls : List EventCall) (g : AmpEvents) :
    Admits (ampHandle evSize) (fun g c => c.Right evSize g) calls g ↔
      Admits (ampHandle evSize) (fun g c => c.Sound evSize g) calls g :=
  admits_congr (I := fun _ => True) (ampHandle evSize) (fun _ c _ => c.right_iff hev)
    (fun g c _ _ => by rw [ensures_anyFault_iff]; exact fun _ _ _ => trivial) calls g trivial

/-- Two events of 72 bytes are pending and the buffer has room for two: the second one is written
72 structures further on. -/
theorem second_event_leaves_buffer :
    ¬ Admits (ampHandle 72) (fun g c => c.Right 72 g)
      [.event 100 ⟨1, 2, []⟩ {}, .event 101 ⟨1, 2, []⟩ {}, .read 144] {} := by
  rintro ⟨-, -, hread, -⟩
  exact hread

theorem ampEvents_iff_one :
    Admits (ampHandle 72) (fun g c => c.Right 72 g)
        [.event 100 ⟨1, 2, [7]⟩ {}, .read 144, .get 100] {} ↔
      Admits (ampHandle 72) (fun g c => c.Sound 72 g)
        [.event 100 ⟨1, 2, [7]⟩ {}, .read 144, .get 100] {} :=
  ampEvents_iff (by decide) _ _

end Agm
