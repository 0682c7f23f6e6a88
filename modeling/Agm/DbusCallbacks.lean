import Agm.Events
import Agm.Lib.Run

/-! # Callbacks over DBus

A registration is mirrored on two sides.

* **The service** (`agm_server_wrapper_dbus.cpp`) registers `agmevent_cb` with the session, with
  its own data of the session as `client_data`: all registrations of a session and type look the
  same to the session.  Each of them emits a signal on the path of the session for every event it
  hears; the signal does not say for which type.
* **The client** (`agm_client_wrapper_dbus.cpp`) subscribes to the path of the session and calls
  its callback for every signal.  To end a subscription it compares the type and the subscription
  id, neither of which a removal fills in.

* **Requests** succeed: a registration that fails makes none.  What it does to the record of the
  session is looked at in `Agm.DbusSessions`.

`registered` holds what has been registered and not removed by its own process.
`deliveries_exact`: in which runs every event reaches exactly those callbacks, once each. -/

namespace Agm.Dbus

open Run

/-- `agm_callback_data` of the client. -/
structure Subscription (P : Type) where
  proc : P
  sessionId : ℕ
  clientData : ℕ
  cb : ℕ
  evtType : EventType
  subIdCallbackEvent : ℕ
deriving DecidableEq, Repr

/-- A registration as its process means it. -/
structure Registration (P : Type) where
  proc : P
  sessionId : ℕ
  evtType : EventType
  clientData : ℕ
  cb : ℕ
deriving DecidableEq, Repr

/-- One call of a client's callback. -/
structure Delivery (P : Type) where
  proc : P
  cb : ℕ
  clientData : ℕ
deriving DecidableEq, Repr

/-- `agm_session_register_cb` of the client wrapper, with a callback and with `NULL`; a removal
comes with what is in its `agm_callback_data` before it is filled in. -/
inductive Call (P : Type) where
  | register (p : P) (sessionId cb : ℕ) (evtType : EventType) (clientData : ℕ)
  | deregister (p : P) (sessionId : ℕ) (evtType : EventType) (clientData : ℕ)
      (uninitEvtType : EventType) (uninitSubId : ℕ)
deriving DecidableEq, Repr

/-- The callback pools of the sessions, the subscriptions of the clients, the latest one first, and
the next subscription id of each. -/
structure System (P : Type) where
  pool : ℕ → List SessionCb := fun _ => []
  subs : List (Subscription P) := []
  nextSubId : P → ℕ := fun _ => 1
  registered : List (Registration P) := []

/-- The address of `agmevent_cb`. -/
def agmeventCbAddr : ℕ := 1

section
variable {P : Type}

/-- The session is given the service's data of the session, which the session's id stands for. -/
def sesData (s : ℕ) : ℕ := s

/-- `ipc_agm_session_register_cb` and, for `none`, `ipc_agm_session_deregister_cb`. -/
def serverRegisterCb (pool : ℕ → List SessionCb) (s : ℕ) (cb : Option ℕ) (evt : EventType) :
    ℕ → List SessionCb :=
  Function.update pool s (cbPoolAfter (pool s) ⟨cb, evt, sesData s⟩)

/-- What a removal names. -/
def Registration.key (r : Registration P) : P × ℕ × EventType × ℕ :=
  (r.proc, r.sessionId, r.evtType, r.clientData)

/-- The subscriptions to the path of a session. -/
def System.subsOf (x : System P) (s : ℕ) : List (Subscription P) :=
  x.subs.filter fun sub => sub.sessionId = s

/-- The callbacks of a type that the service has registered with a session. -/
def System.regs (x : System P) (s : ℕ) (evt : EventType) : List SessionCb :=
  (x.pool s).filter fun c => c.evtType = evt

/-- What is registered for a session and type. -/
def System.live (x : System P) (s : ℕ) (evt : EventType) : List (Registration P) :=
  x.registered.filter fun r => r.sessionId = s ∧ r.evtType = evt

/-- `on_emit_signal_callback`. -/
def Subscription.invoke (sub : Subscription P) : Delivery P := ⟨sub.proc, sub.cb, sub.clientData⟩

/-- What an event of a session does: every callback that hears it emits a signal, and every
signal reaches every subscription to the session's path. -/
def System.deliveries (x : System P) (s : ℕ) (ev : EventParams) : List (Delivery P) :=
  (deliverAll s ev (x.pool s)).flatMap fun _ => (x.subsOf s).map Subscription.invoke

/-- What it should do. -/
def System.meant (x : System P) (s : ℕ) (ev : EventParams) : List (Delivery P) :=
  (x.registered.filter fun r => r.sessionId = s ∧ ev.eventType? = some r.evtType).map fun r =>
    ⟨r.proc, r.cb, r.clientData⟩

variable [DecidableEq P]

/-- The node that `subscribe_callback_event` ends the subscription of. -/
def Subscription.Hit (sub : Subscription P) (p : P) (s : ℕ) (evt : EventType) (subId : ℕ) : Prop :=
  sub.proc = p ∧ sub.sessionId = s ∧ sub.evtType = evt ∧ sub.subIdCallbackEvent = subId

instance (sub : Subscription P) (p : P) (s : ℕ) (evt : EventType) (subId : ℕ) :
    Decidable (sub.Hit p s evt subId) :=
  inferInstanceAs (Decidable (_ ∧ _))

def System.step (x : System P) : Call P → System P
  | .register p s cb evt client =>
      { pool := serverRegisterCb x.pool s (some agmeventCbAddr) evt
        subs := ⟨p, s, client, cb, evt, x.nextSubId p⟩ :: x.subs
        nextSubId := Function.update x.nextSubId p (x.nextSubId p + 1)
        registered := Registry.after Registration.key x.registered (.add ⟨p, s, evt, client, cb⟩) }
  | .deregister p s evt client uninitEvt uninitSub =>
      { x with
        pool := serverRegisterCb x.pool s none evt
        subs := x.subs.eraseP fun sub => sub.Hit p s uninitEvt uninitSub
        registered := Registry.after Registration.key x.registered (.drop (p, s, evt, client)) }

/-- The types of callback that events are meant for. -/
def heard : List EventType := [.dataPath, .module]

/-- A callback is registered on a session for which no callback is that hears events, and one
that hears events itself only when no client is subscribed to the session.  What is registered
for the type that a removal names was registered by the same process with the same `client_data`;
and the uninitialised values of a removal fit no subscription, if there is a callback of the
session of another type that hears events. -/
def OneAtATime (x : System P) : Call P → Prop
  | .register _ s _ evt _ =>
      (∀ e ∈ heard, x.regs s e = []) ∧ (evt ∈ heard → x.subsOf s = [])
  | .deregister p s evt client uninitEvt uninitSub =>
      (evt ∈ heard → ∀ r ∈ x.live s evt, r.proc = p ∧ r.clientData = client) ∧
        ((∃ sub ∈ x.subs, sub.Hit p s uninitEvt uninitSub) →
          ∀ e ∈ heard, e ≠ evt → x.regs s e = [])

instance (x : System P) : ∀ c, Decidable (OneAtATime x c)
  | .register .. => inferInstanceAs (Decidable (_ ∧ _))
  | .deregister .. => inferInstanceAs (Decidable (_ ∧ _))

/-! ### What an event does -/

omit [DecidableEq P] in
theorem deliveries_eq (x : System P) (s : ℕ) (ev : EventParams) :
    x.deliveries s ev =
      ((x.pool s).filter fun c => ev.eventType? = some c.evtType).flatMap fun _ =>
        (x.subsOf s).map Subscription.invoke := by
  unfold System.deliveries
  rw [deliverAll_eq, List.flatMap_map]

omit [DecidableEq P] in
theorem deliveries_of_type {x : System P} {s : ℕ} {ev : EventParams} {evt : EventType}
    (h : ev.eventType? = some evt) :
    x.deliveries s ev = (x.regs s evt).flatMap fun _ => (x.subsOf s).map Subscription.invoke := by
  rw [deliveries_eq, h]
  unfold System.regs
  congr 1
  refine List.filter_congr fun c _ => ?_
  simp [eq_comm]

omit [DecidableEq P] in
theorem meant_of_type {x : System P} {s : ℕ} {ev : EventParams} {evt : EventType}
    (h : ev.eventType? = some evt) :
    x.meant s ev = (x.live s evt).map fun r => ⟨r.proc, r.cb, r.clientData⟩ := by
  unfold System.meant System.live
  rw [h]
  congr 1
  refine List.filter_congr fun r _ => ?_
  simp [eq_comm]

/-! ### The invariant -/

/-- No callback of the session hears events, or there is one that does, with one subscription, and
it is what is registered. -/
def SessionRight (x : System P) (s : ℕ) : Prop :=
  (∀ e ∈ heard, x.regs s e = [] ∧ x.live s e = []) ∨
    ∃ e ∈ heard, ∃ c sub, x.regs s e = [c] ∧ x.subsOf s = [sub] ∧
      x.live s e = [⟨sub.proc, s, e, sub.clientData, sub.cb⟩] ∧
      ∀ e' ∈ heard, e' ≠ e → x.regs s e' = [] ∧ x.live s e' = []

omit [DecidableEq P] in
theorem eventType?_mem_heard {ev : EventParams} {evt : EventType}
    (h : ev.eventType? = some evt) : evt ∈ heard := by
  unfold EventParams.eventType? at h
  split_ifs at h
  · rw [← Option.some.inj h]
    decide
  · rw [← Option.some.inj h]
    decide

omit [DecidableEq P] in
theorem SessionRight.deliveries {x : System P} {s : ℕ} (h : SessionRight x s) (ev : EventParams) :
    x.deliveries s ev = x.meant s ev := by
  cases hev : ev.eventType? with
  | none =>
      rw [deliveries_eq, System.meant, hev]
      simp
  | some evt =>
      rw [deliveries_of_type hev, meant_of_type hev]
      obtain h | ⟨e, he, c, sub, hregs, hsubs, hlive, hother⟩ := h
      · obtain ⟨hregs, hlive⟩ := h evt (eventType?_mem_heard hev)
        rw [hregs, hlive]
        rfl
      · by_cases hevt : evt = e
        · subst hevt
          rw [hregs, hsubs, hlive]
          rfl
        · obtain ⟨hregs, hlive⟩ := hother evt (eventType?_mem_heard hev) hevt
          rw [hregs, hlive]
          rfl

/-! ### One call -/

section register
variable (x : System P) (p : P) (s cb : ℕ) (evt : EventType) (client : ℕ)

theorem regs_register (t : ℕ) (e : EventType) :
    (x.step (.register p s cb evt client)).regs t e =
      x.regs t e ++ if t = s ∧ e = evt then [⟨agmeventCbAddr, evt, sesData s⟩] else [] := by
  show (serverRegisterCb x.pool s (some agmeventCbAddr) evt t).filter _ = _
  unfold serverRegisterCb System.regs
  by_cases ht : t = s
  · subst ht
    rw [Function.update_self]
    show (x.pool t ++ [_]).filter _ = _
    rw [List.filter_append]
    by_cases he : e = evt
    · simp [he]
    · have he' : evt ≠ e := fun h => he h.symm
      simp [he, he']
  · rw [Function.update_of_ne ht]
    simp [ht]

theorem live_register (t : ℕ) (e : EventType) :
    (x.step (.register p s cb evt client)).live t e =
      x.live t e ++ if t = s ∧ e = evt then [⟨p, s, evt, client, cb⟩] else [] := by
  show (x.registered ++ [_]).filter _ = _
  rw [List.filter_append]
  by_cases h : t = s ∧ e = evt
  · obtain ⟨rfl, rfl⟩ := h
    simp [System.live]
  · have h' : ¬ (s = t ∧ evt = e) := fun ⟨ht, he⟩ => h ⟨ht.symm, he.symm⟩
    simp [System.live, h, h']

theorem subsOf_register (t : ℕ) :
    (x.step (.register p s cb evt client)).subsOf t =
      if t = s then ⟨p, s, client, cb, evt, x.nextSubId p⟩ :: x.subsOf s else x.subsOf t := by
  show (_ :: x.subs).filter _ = _
  by_cases h : t = s
  · subst h
    simp [System.subsOf]
  · have h' : s ≠ t := fun hs => h hs.symm
    simp [System.subsOf, h, h']

end register

section deregister
variable (x : System P) (p : P) (s : ℕ) (evt : EventType) (client : ℕ) (uninitEvt : EventType)
  (uninitSub : ℕ)

/-- The service drops every callback of the session and type, whoever it was registered for. -/
theorem regs_deregister (hours : ∀ t, ∀ c ∈ x.pool t, c.clientData = sesData t) (t : ℕ)
    (e : EventType) :
    (x.step (.deregister p s evt client uninitEvt uninitSub)).regs t e =
      if t = s ∧ e = evt then [] else x.regs t e := by
  show (serverRegisterCb x.pool s none evt t).filter _ = _
  unfold serverRegisterCb System.regs
  by_cases ht : t = s
  · subst ht
    rw [Function.update_self]
    show ((x.pool t).filter fun c => c.key ≠ (evt, sesData t)).filter _ = _
    rw [List.filter_filter]
    by_cases he : e = evt
    · subst he
      rw [if_pos ⟨rfl, rfl⟩, List.filter_eq_nil_iff]
      intro c hc
      simp [SessionCb.key, hours t c hc]
    · rw [if_neg fun h => he h.2]
      refine List.filter_congr fun c _ => ?_
      by_cases hc : c.evtType = e
      · simp [SessionCb.key, hc, he]
      · simp [hc]
  · rw [Function.update_of_ne ht, if_neg fun h => ht h.1]

theorem live_deregister (t : ℕ) (e : EventType) :
    (x.step (.deregister p s evt client uninitEvt uninitSub)).live t e =
      (x.live t e).filter fun r => r.key ≠ (p, s, evt, client) := by
  show (x.registered.filter fun r => r.key ≠ (p, s, evt, client)).filter _ = _
  unfold System.live
  rw [List.filter_filter, List.filter_filter]
  exact List.filter_congr fun r _ => Bool.and_comm _ _

theorem live_deregister_of_ne {t : ℕ} {e : EventType} (h : t ≠ s ∨ e ≠ evt) :
    (x.step (.deregister p s evt client uninitEvt uninitSub)).live t e = x.live t e := by
  rw [live_deregister]
  refine List.filter_eq_self.mpr fun r hr => decide_eq_true fun hkey => ?_
  obtain ⟨hs, he⟩ := of_decide_eq_true (List.mem_filter.mp hr).2
  injection hkey with _ hkey
  injection hkey with hks hkey
  injection hkey with hke _
  exact h.elim (fun h => h (hs.symm.trans hks)) fun h => h (he.symm.trans hke)

theorem subsOf_deregister {t : ℕ}
    (h : t ≠ s ∨ ¬ ∃ sub ∈ x.subs, sub.Hit p s uninitEvt uninitSub) :
    (x.step (.deregister p s evt client uninitEvt uninitSub)).subsOf t = x.subsOf t := by
  show (x.subs.eraseP fun sub => sub.Hit p s uninitEvt uninitSub).filter _ = x.subs.filter _
  obtain ht | hnone := h
  · generalize x.subs = l
    induction l with
    | nil => rfl
    | cons sub l ih =>
        by_cases hhit : sub.Hit p s uninitEvt uninitSub
        · have hne : sub.sessionId ≠ t := fun hs => ht (hs.symm.trans hhit.2.1)
          rw [List.eraseP_cons_of_pos (by simpa using hhit),
            List.filter_cons_of_neg (by simpa using hne)]
        · rw [List.eraseP_cons_of_neg (by simp [hhit]), List.filter_cons, List.filter_cons, ih]
  · rw [List.eraseP_of_forall_not fun sub hsub hhit => hnone ⟨sub, hsub, of_decide_eq_true hhit⟩]

end deregister

/-! ### Every call keeps the sessions right -/

structure SystemRight (x : System P) : Prop where
  ours : ∀ t, ∀ c ∈ x.pool t, c.clientData = sesData t
  session : ∀ t, SessionRight x t

theorem ours_serverRegisterCb {pool : ℕ → List SessionCb}
    (h : ∀ t, ∀ c ∈ pool t, c.clientData = sesData t) (s : ℕ) (cb : Option ℕ) (evt : EventType) :
    ∀ t, ∀ c ∈ serverRegisterCb pool s cb evt t, c.clientData = sesData t := by
  intro t c hc
  unfold serverRegisterCb at hc
  by_cases ht : t = s
  · subst ht
    rw [Function.update_self] at hc
    cases cb with
    | some cb =>
        obtain hc | hc := List.mem_append.mp hc
        · exact h t c hc
        · rw [List.mem_singleton.mp hc]
    | none => exact h t c (List.mem_filter.mp hc).1
  · rw [Function.update_of_ne ht] at hc
    exact h t c hc

variable {x : System P}

omit [DecidableEq P] in
/-- A session that a call does not touch. -/
theorem SessionRight.congr {x x' : System P} {t : ℕ} (h : SessionRight x t)
    (hregs : ∀ e ∈ heard, x'.regs t e = x.regs t e) (hsubs : x'.subsOf t = x.subsOf t)
    (hlive : ∀ e ∈ heard, x'.live t e = x.live t e) : SessionRight x' t := by
  obtain h | ⟨e, he, c, sub, hr, hs, hl, hother⟩ := h
  · exact .inl fun e he => ⟨(hregs e he).trans (h e he).1, (hlive e he).trans (h e he).2⟩
  · refine .inr ⟨e, he, c, sub, (hregs e he).trans hr, hsubs.trans hs, (hlive e he).trans hl,
      fun e' he' hne => ?_⟩
    obtain ⟨hr', hl'⟩ := hother e' he' hne
    exact ⟨(hregs e' he').trans hr', (hlive e' he').trans hl'⟩

theorem SystemRight.register (h : SystemRight x) {p : P} {s cb : ℕ} {evt : EventType}
    {client : ℕ} (hone : OneAtATime x (.register p s cb evt client)) :
    SystemRight (x.step (.register p s cb evt client)) := by
  refine ⟨ours_serverRegisterCb h.ours s _ evt, fun t => ?_⟩
  obtain ⟨hnone, hnosubs⟩ := hone
  by_cases ht : t = s
  · subst ht
    have hquiet : ∀ e ∈ heard, x.regs t e = [] ∧ x.live t e = [] := by
      obtain hq | ⟨e, he, c, sub, hregs, -⟩ := h.session t
      · exact hq
      · rw [hnone e he] at hregs
        cases hregs
    by_cases hevt : evt ∈ heard
    · refine .inr ⟨evt, hevt, ⟨agmeventCbAddr, evt, sesData t⟩,
        ⟨p, t, client, cb, evt, x.nextSubId p⟩, ?_, ?_, ?_, ?_⟩
      · rw [regs_register, (hquiet evt hevt).1, if_pos ⟨rfl, rfl⟩]
        rfl
      · rw [subsOf_register, if_pos rfl, hnosubs hevt]
      · rw [live_register, (hquiet evt hevt).2, if_pos ⟨rfl, rfl⟩]
        rfl
      · intro e he hne
        rw [regs_register, live_register, if_neg fun h => hne h.2, if_neg fun h => hne h.2,
          (hquiet e he).1, (hquiet e he).2]
        exact ⟨rfl, rfl⟩
    · refine .inl fun e he => ?_
      have hne : e ≠ evt := by
        rintro rfl
        exact hevt he
      rw [regs_register, live_register, if_neg fun h => hne h.2, if_neg fun h => hne h.2,
        (hquiet e he).1, (hquiet e he).2]
      exact ⟨rfl, rfl⟩
  · refine (h.session t).congr (fun e _ => ?_) ?_ fun e _ => ?_
    · rw [regs_register, if_neg fun h => ht h.1, List.append_nil]
    · rw [subsOf_register, if_neg ht]
    · rw [live_register, if_neg fun h => ht h.1, List.append_nil]

theorem SystemRight.deregister (h : SystemRight x) {p : P} {s : ℕ} {evt : EventType}
    {client : ℕ} {uninitEvt : EventType} {uninitSub : ℕ}
    (hone : OneAtATime x (.deregister p s evt client uninitEvt uninitSub)) :
    SystemRight (x.step (.deregister p s evt client uninitEvt uninitSub)) := by
  refine ⟨ours_serverRegisterCb h.ours s none evt, fun t => ?_⟩
  obtain ⟨hown, hmiss⟩ := hone
  by_cases ht : t = s
  · subst ht
    obtain hq | ⟨e, he, c, sub, hregs, hsubs, hlive, hother⟩ := h.session t
    · -- nothing of the session hears events, and nothing will
      refine .inl fun e he => ?_
      rw [regs_deregister x p t evt client uninitEvt uninitSub h.ours, live_deregister,
        (hq e he).1, (hq e he).2, ite_self]
      exact ⟨rfl, rfl⟩
    · by_cases hevt : evt = e
      · -- the callback of the session is the one that is removed
        subst hevt
        refine .inl fun e' he' => ?_
        rw [regs_deregister x p t evt client uninitEvt uninitSub h.ours]
        by_cases hne : e' = evt
        · subst hne
          refine ⟨if_pos ⟨rfl, rfl⟩, ?_⟩
          rw [live_deregister, List.filter_eq_nil_iff]
          intro r hr
          obtain ⟨hp, hclient⟩ := hown he r hr
          obtain ⟨hs, hevt⟩ := of_decide_eq_true (List.mem_filter.mp hr).2
          simp [Registration.key, hp, hs, hevt, hclient]
        · rw [if_neg fun h => hne h.2, live_deregister_of_ne _ _ _ _ _ _ _ (.inr hne)]
          exact hother e' he' hne
      · -- the callback stays, and so does its subscription
        have hnohit : ¬ ∃ sub ∈ x.subs, sub.Hit p t uninitEvt uninitSub := by
          intro hhit
          have hnil := hmiss hhit e he fun h => hevt h.symm
          rw [hregs] at hnil
          cases hnil
        refine .inr ⟨e, he, c, sub, ?_, ?_, ?_, fun e' he' hne => ?_⟩
        · rw [regs_deregister x p t evt client uninitEvt uninitSub h.ours,
            if_neg fun h => hevt h.2.symm]
          exact hregs
        · rw [subsOf_deregister x p t evt client uninitEvt uninitSub (.inr hnohit)]
          exact hsubs
        · rw [live_deregister_of_ne _ _ _ _ _ _ _ (.inr fun h => hevt h.symm)]
          exact hlive
        · rw [regs_deregister x p t evt client uninitEvt uninitSub h.ours, live_deregister,
            (hother e' he' hne).1, (hother e' he' hne).2, ite_self]
          exact ⟨rfl, rfl⟩
  · refine (h.session t).congr (fun e _ => ?_) ?_ fun e _ => ?_
    · rw [regs_deregister x p s evt client uninitEvt uninitSub h.ours, if_neg fun h => ht h.1]
    · exact subsOf_deregister x p s evt client uninitEvt uninitSub (.inl ht)
    · exact live_deregister_of_ne x p s evt client uninitEvt uninitSub (.inl ht)

theorem SystemRight.step (h : SystemRight x) {c : Call P} (hone : OneAtATime x c) :
    SystemRight (x.step c) := by
  cases c with
  | register p s cb evt client => exact h.register hone
  | deregister p s evt client uninitEvt uninitSub => exact h.deregister hone

end

/-- After every run in which a session has one callback at a time, an event calls exactly the
registered callbacks of its session and type, once each and with their own `client_data`. -/
theorem deliveries_exact {P : Type} [DecidableEq P] (calls : List (Call P))
    (h : Along System.step OneAtATime calls {}) (s : ℕ) (ev : EventParams) :
    List.Perm ((calls.foldl System.step {}).deliveries s ev)
      ((calls.foldl System.step {}).meant s ev) := by
  have hstart : SystemRight ({} : System P) :=
    ⟨nofun, fun _ => .inl fun _ _ => ⟨rfl, rfl⟩⟩
  have hright : SystemRight (calls.foldl System.step {}) :=
    run_invariant (fun x c hx hc => hx.step hc) calls _ hstart h
  exact List.Perm.of_eq ((hright.session s).deliveries ev)

/-- Two clients on two sessions, one of which removes its callback. -/
theorem deliveries_exact_twoSessions :
    let calls : List (Call ℕ) := [.register 0 3 10 .dataPath 7, .register 1 4 11 .module 7,
      .deregister 0 3 .dataPath 7 (.other 99) 0]
    List.Perm
        ((calls.foldl System.step {}).deliveries 3 ⟨gslEventSrcModuleIdGsl, agmEventReadDone, []⟩)
        [] ∧
      List.Perm ((calls.foldl System.step {}).deliveries 4 ⟨1, 0, []⟩) [⟨1, 11, 7⟩] := by
  intro calls
  have hone : Along System.step OneAtATime calls {} := by decide
  exact ⟨(deliveries_exact calls hone 3 _).trans (by decide),
    (deliveries_exact calls hone 4 _).trans (by decide)⟩

/-- Two clients register for the same events: each callback is called twice. -/
theorem deliveries_exact_twoClients :
    let calls : List (Call ℕ) := [.register 0 3 10 .dataPath 7, .register 1 3 11 .dataPath 8]
    ¬ ∀ s ev, List.Perm ((calls.foldl System.step {}).deliveries s ev)
      ((calls.foldl System.step {}).meant s ev) := by
  intro calls h
  exact absurd (h 3 ⟨gslEventSrcModuleIdGsl, agmEventReadDone, []⟩) (by decide)

end Agm.Dbus
