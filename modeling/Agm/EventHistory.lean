import Agm.MixerEvents

/-! # What a client sees of the events

Over a whole run the queues of the mixer lose nothing and keep the order: what has been queued
since they were last cleared is what the client was given, followed by what is still pending.  For
`events_list` this holds of the events in all; an entry of `events_paramlist` is fetched by its
session, so there it holds of each session alone.

`EventHistory` keeps beside the queues what was queued, and what the client found in its buffer
and in the value of the control.  `eventHistory_fifo` is the run theorem. -/

namespace Agm

open Prog

/-- `amp_subscribe_events`: without a callback the queues are cleared.  The flag that
`amp_event_cb` looks at is stored by tinyalsa, behind the call. -/
def ampSubscribeEvents (eventCb subscribed : Bool) : AmpEventM ℕ := do
  if !eventCb then Prog.modify fun g => { g with eventsParamlist := [], eventsList := [] }
  else pure ()
  Prog.modify fun g => { g with subscribed }
  pure 0

/-- The calls of the mixer that touch the queues. -/
inductive EventOp where
  | call (c : EventCall)
  | subscribe (eventCb subscribed : Bool)
deriving DecidableEq, Repr

/-- The queues, what was put into them since they were last cleared, and what was taken out. -/
structure EventHistory where
  queues : AmpEvents := {}
  posted : List SndCtlEvent := []
  given : List SndCtlEvent := []
  arrived : List EventParamsNode := []
  fetched : List (ℕ × List UInt8) := []
deriving DecidableEq, Repr

abbrev HistoryM := Prog EventHistory Crash

/-- An event is put into `events_list`. -/
def AmpEvents.Posts (g : AmpEvents) (mem : EventMem) : Bool :=
  g.subscribed && mem.mixerStr && mem.data

/-- An event is put into `events_paramlist`. -/
def AmpEvents.Files (g : AmpEvents) (mem : EventMem) : Bool := g.subscribed && mem.node

/-- An entry for the session of a control is pending. -/
def AmpEvents.Pending (g : AmpEvents) (privateValue : ℤ) : Bool :=
  g.eventsParamlist.any fun node => node.sessionId = toUnsigned privateValue

/-- Note what a call did, from the state before it and what it wrote for the client. -/
def EventHistory.note (before : AmpEvents) (c : EventCall) (h : EventHistory) : EventHistory :=
  match c with
  | .event sessionId eventParams mem =>
      { h with
        posted := h.posted ++
          if before.Posts mem then [⟨SNDRV_CTL_EVENT_ELEM, ampMixerStr sessionId⟩] else []
        arrived := h.arrived ++ if before.Files mem then [⟨sessionId, eventParams⟩] else [] }
  | .read _ => { h with given := h.given ++ h.queues.buffer.filterMap id }
  | .get privateValue =>
      { h with
        fetched := h.fetched ++
          if before.Pending privateValue then [(toUnsigned privateValue, h.queues.value)] else [] }

def onQueues (m : AmpEventM ℕ) : HistoryM ℕ :=
  zoom EventHistory.queues (fun queues h => { h with queues }) id m

/-- Execute a call and note what it did. -/
def historyHandle (evSize : ℕ) : EventOp → HistoryM ℕ
  | .call c => do
      let before ← gets EventHistory.queues
      let r ← onQueues (ampHandle evSize c)
      Prog.modify fun h => h.note before c
      pure r
  | .subscribe eventCb subscribed => do
      let r ← onQueues (ampSubscribeEvents eventCb subscribed)
      if !eventCb then
        Prog.modify fun h => { h with posted := [], given := [], arrived := [], fetched := [] }
      else pure ()
      pure r

/-- The condition on a call, as in `ampEvents_iff`. -/
def EventOp.Sound (evSize : ℕ) (h : EventHistory) : EventOp → Prop
  | call c => c.Sound evSize h.queues
  | subscribe _ _ => True

instance (evSize : ℕ) (h : EventHistory) : (op : EventOp) → Decidable (op.Sound evSize h)
  | .call (.event _ _ _) => isTrue trivial
  | .call (.read _) => inferInstanceAs (Decidable (_ ∨ _))
  | .call (.get _) => inferInstanceAs (Decidable (∀ node ∈ List.find? _ _, _ ≤ _))
  | .subscribe _ _ => isTrue trivial

/-- The entries of a session. -/
def ofSession (sessionId : ℕ) (nodes : List EventParamsNode) : List EventParamsNode :=
  nodes.filter fun node => node.sessionId = sessionId

/-- What was fetched for a session. -/
def fetchedFor (sessionId : ℕ) (fetched : List (ℕ × List UInt8)) : List (List UInt8) :=
  (fetched.filter fun f => f.1 = sessionId).map Prod.snd

/-- Nothing is lost, doubled or put in another order. -/
structure EventHistory.Fifo (h : EventHistory) : Prop where
  events : h.posted = h.given ++ h.queues.eventsList
  params : ∀ sessionId, (ofSession sessionId h.arrived).map (fun node => node.eventParams.bytes) =
    fetchedFor sessionId h.fetched ++
      (ofSession sessionId h.queues.eventsParamlist).map fun node => node.eventParams.bytes

/-- Either an event gets into both queues or into none. -/
def EventOp.Whole : EventOp → Prop
  | call (.event _ _ mem) => mem.node = (mem.mixerStr && mem.data)
  | _ => True

instance : DecidablePred EventOp.Whole
  | .call (.event _ _ _) => inferInstanceAs (Decidable (_ = _))
  | .call (.read _) => isTrue trivial
  | .call (.get _) => isTrue trivial
  | .subscribe _ _ => isTrue trivial

/-- Both queues have got the same events. -/
def EventHistory.Paired (h : EventHistory) : Prop :=
  h.posted = h.arrived.map fun node => ⟨SNDRV_CTL_EVENT_ELEM, ampMixerStr node.sessionId⟩

/-! ### What the calls do to the queues -/

section calls
variable {evSize : ℕ} {g : AmpEvents}

theorem event_run (sessionId : ℕ) (eventParams : AgmEventCbParams) (mem : EventMem) :
    ampHandle evSize (.event sessionId eventParams mem) g = .ok (0,
      { g with
        eventsParamlist :=
          g.eventsParamlist ++ if g.Files mem then [⟨sessionId, eventParams⟩] else []
        eventsList := g.eventsList ++
          if g.Posts mem then [⟨SNDRV_CTL_EVENT_ELEM, ampMixerStr sessionId⟩] else [] }) := by
  obtain ⟨events, nodes, subscribed, buffer, value⟩ := g
  obtain ⟨node, mixerStr, data⟩ := mem
  unfold AmpEvents.Files AmpEvents.Posts
  dsimp only
  cases subscribed with
  | false =>
      rw [Bool.false_and, Bool.false_and, Bool.false_and, if_neg Bool.false_ne_true,
        if_neg Bool.false_ne_true, List.append_nil, List.append_nil]
      rfl
  | true =>
      cases node <;> cases mixerStr <;> cases data <;> simp <;> rfl

theorem read_run (hev : 1 < evSize) {size : ℕ} (h : (EventCall.read size).Sound evSize g) :
    Ensures noFault (ampHandle evSize (.read size)) g fun _ g' =>
      g.eventsList = g'.buffer.filterMap id ++ g'.eventsList ∧
        g'.eventsParamlist = g.eventsParamlist := by
  refine Ensures.imp ((read_right_iff hev size).mpr h) fun r g' h' => ?_
  obtain ⟨-, hbuf, hlist, hparams⟩ := h'
  refine ⟨?_, hparams⟩
  rw [hbuf, hlist, List.filterMap_append, List.filterMap_replicate_of_none rfl, List.append_nil,
    List.filterMap_map, Function.id_comp, List.filterMap_some, List.take_append_drop]

/-- A control takes the oldest entry of its session, and no other. -/
theorem get_run {privateValue : ℤ} (h : (EventCall.get privateValue).Sound evSize g) :
    Ensures noFault (ampHandle evSize (.get privateValue)) g fun _ g' =>
      g'.eventsList = g.eventsList ∧
      ∀ sessionId, (ofSession sessionId g.eventsParamlist).map (fun n => n.eventParams.bytes) =
        (if g.Pending privateValue ∧ sessionId = toUnsigned privateValue then [g'.value] else []) ++
          (ofSession sessionId g'.eventsParamlist).map fun n => n.eventParams.bytes := by
  refine Ensures.imp ((get_right_iff privateValue).mpr h) fun r g' h' => ?_
  obtain ⟨-, ⟨hnone, rfl⟩ | ⟨older, node, newer, hnodes, holder, hsession, rfl, -⟩⟩ := h'
  · refine ⟨rfl, fun sessionId => ?_⟩
    rw [if_neg, List.nil_append]
    rintro ⟨hpending, -⟩
    obtain ⟨node, hnode, hsession⟩ := List.any_eq_true.mp hpending
    exact hnone node hnode (of_decide_eq_true hsession)
  · refine ⟨rfl, fun sessionId => ?_⟩
    have hpending : g.Pending privateValue = true :=
      List.any_eq_true.mpr ⟨node, by rw [hnodes]; simp, decide_eq_true hsession⟩
    dsimp only
    rw [hnodes]
    unfold ofSession
    rw [List.filter_append, List.filter_cons, List.filter_append]
    by_cases hsame : sessionId = toUnsigned privateValue
    · have hnone : older.filter (fun n => n.sessionId = sessionId) = [] := by
        rw [List.filter_eq_nil_iff]
        intro n hn
        simpa [hsame] using holder n hn
      rw [hnone, if_pos (decide_eq_true (hsession.trans hsame.symm)), if_pos ⟨hpending, hsame⟩]
      rfl
    · rw [if_neg, if_neg fun hboth => hsame hboth.2]
      · rfl
      · rw [decide_eq_true_iff]
        exact fun heq => hsame (heq.symm.trans hsession)

end calls

/-! ### Runs -/

section runs
variable {evSize : ℕ} {h : EventHistory}

theorem ensures_onQueues {E : Crash → Prop} {m : AmpEventM ℕ} {Q : ℕ → EventHistory → Prop} :
    Ensures E (onQueues m) h Q ↔
      Ensures E m h.queues fun r queues => Q r { h with queues } := by
  unfold onQueues
  rw [ensures_zoom]
  rfl

/-- Every call keeps the order, and whole events keep the queues paired. -/
theorem historyHandle_fifo (hev : 1 < evSize) (hfifo : h.Fifo) {op : EventOp}
    (hsound : op.Sound evSize h) :
    Ensures noFault (historyHandle evSize op) h fun _ h' =>
      h'.Fifo ∧ (op.Whole → h.Paired → h'.Paired) := by
  cases op with
  | subscribe eventCb subscribed =>
      cases eventCb with
      | false => exact ⟨⟨rfl, fun _ => rfl⟩, fun _ _ => rfl⟩
      | true => exact ⟨⟨hfifo.events, hfifo.params⟩, fun _ hpaired => hpaired⟩
  | call c =>
      unfold historyHandle
      rw [ensures_bind, ensures_gets, ensures_bind, ensures_onQueues]
      cases c with
      | event sessionId eventParams mem =>
          rw [ensures_iff_of_ok (event_run sessionId eventParams mem), ensures_bind, ensures_modify]
          refine ⟨⟨?_, fun s => ?_⟩, fun hwhole hpaired => ?_⟩
          · dsimp only [EventHistory.note]
            rw [hfifo.events, List.append_assoc]
          · dsimp only [EventHistory.note]
            unfold ofSession
            rw [List.filter_append, List.filter_append, List.map_append, List.map_append,
              ← List.append_assoc]
            exact congrArg (· ++ _) (hfifo.params s)
          · have hboth : h.queues.Files mem = h.queues.Posts mem := by
              unfold AmpEvents.Files AmpEvents.Posts
              rw [show mem.node = (mem.mixerStr && mem.data) from hwhole, Bool.and_assoc]
            unfold EventHistory.Paired at hpaired ⊢
            dsimp only [EventHistory.note]
            rw [hboth, List.map_append, hpaired]
            split_ifs <;> rfl
      | read size =>
          refine (read_run hev hsound).imp fun r g' hread => ?_
          rw [ensures_bind, ensures_modify, ensures_pure]
          refine ⟨⟨?_, fun s => ?_⟩, fun _ hpaired => hpaired⟩
          · dsimp only [EventHistory.note]
            rw [hfifo.events, hread.1, List.append_assoc]
          · dsimp only [EventHistory.note]
            rw [hread.2]
            exact hfifo.params s
      | get privateValue =>
          refine (get_run hsound).imp fun r g' hget => ?_
          rw [ensures_bind, ensures_modify, ensures_pure]
          refine ⟨⟨?_, fun s => ?_⟩, fun _ hpaired => hpaired⟩
          · dsimp only [EventHistory.note]
            rw [hget.1]
            exact hfifo.events
          · dsimp only [EventHistory.note]
            rw [hfifo.params s, hget.2 s, ← List.append_assoc]
            congr 1
            unfold fetchedFor
            rw [List.filter_append, List.map_append]
            congr 1
            by_cases hpending : h.queues.Pending privateValue = true
            · rw [if_pos hpending]
              by_cases hsame : s = toUnsigned privateValue
              · rw [if_pos ⟨hpending, hsame⟩, hsame]
                simp
              · rw [if_neg fun hboth => hsame hboth.2]
                have hne : ¬ toUnsigned privateValue = s := fun heq => hsame heq.symm
                simp [hne]
            · rw [if_neg hpending, if_neg fun hboth => hpending hboth.1]
              rfl

/-- What holds of every call of a list may be added to the condition on the calls. -/
theorem admits_and {σ ε ι α : Type} {step : ι → Prog σ ε α} {C : σ → ι → Prop} {D : ι → Prop}
    {cs : List ι} {s : σ} (h : Admits step C cs s) (hD : ∀ c ∈ cs, D c) :
    Admits step (fun s c => C s c ∧ D c) cs s := by
  induction cs generalizing s with
  | nil => exact trivial
  | cons c cs ih =>
      refine ⟨⟨h.1, hD c List.mem_cons_self⟩, ?_⟩
      have hrest := h.2
      cases hrun : step c s with
      | error e => exact trivial
      | ok r =>
          rw [hrun] at hrest
          exact ih hrest fun c' hc' => hD c' (List.mem_cons_of_mem _ hc')

/-- In every run in which no read has room for two events while two are pending, and every fetched
event fits its control: what was queued since the queues were last cleared is what the client was
given, in this order, followed by what is pending.  If no allocation ever separates the two queues,
they have got the same events. -/
theorem eventHistory_fifo (hev : 1 < evSize) (ops : List EventOp)
    (hsound : Admits (historyHandle evSize) (fun h op => op.Sound evSize h) ops {}) :
    Ensures noFault (runAll (historyHandle evSize) ops) {} fun _ h =>
      h.Fifo ∧ ((∀ op ∈ ops, op.Whole) → h.Paired) := by
  have hstart : EventHistory.Fifo {} := ⟨rfl, fun _ => rfl⟩
  by_cases hwhole : ∀ op ∈ ops, op.Whole
  · have hboth := runAll_invariant (historyHandle evSize) (E := noFault)
      (I := fun h => h.Fifo ∧ h.Paired)
      (fun h op hh hc => (historyHandle_fifo hev hh.1 hc.1).imp fun _ _ h' =>
        ⟨h'.1, h'.2 hc.2 hh.2⟩) ops {} ⟨hstart, rfl⟩ (admits_and hsound hwhole)
    exact hboth.imp fun _ _ h => ⟨h.1, fun _ => h.2⟩
  · have hfifo := runAll_invariant (historyHandle evSize) (E := noFault) (I := EventHistory.Fifo)
      (fun h op hh hs => (historyHandle_fifo hev hh hs).imp fun _ _ h' => h'.1) ops {} hstart hsound
    exact hfifo.imp fun _ _ h => ⟨h, fun hall => absurd hall hwhole⟩

/-- Two sessions, whose events are fetched in the other order than they came. -/
theorem eventHistory_fifo_two :
    Ensures noFault (runAll (historyHandle 72)
        [.call (.event 100 ⟨1, 2, [7]⟩ {}), .call (.event 101 ⟨1, 3, []⟩ {}), .call (.read 72),
          .call (.get 101), .call (.read 72), .call (.get 100)]) {} fun _ h =>
      h.Fifo ∧ ((∀ op ∈ [EventOp.call (.event 100 ⟨1, 2, [7]⟩ {}), .call (.event 101 ⟨1, 3, []⟩ {}),
        .call (.read 72), .call (.get 101), .call (.read 72), .call (.get 100)], op.Whole) →
          h.Paired) :=
  eventHistory_fifo (by decide) _ (by decide)

end runs

end Agm
