import Agm.Lib.Run
import Agm.Handles
import Mathlib.Data.List.Nodup
import Mathlib.Data.List.Flatten

/-! # Clients of the SwBinder service and their deaths (`agm_death_notifier.cpp`)

The service keeps a `client_info` for every registration of a client, with the handles of the
sessions the client has opened; when the client's binder dies, `binderDied` closes them.

* **The books.**  A handle is filed with the first registration of the calling process and taken
  out of the books of the calling process only, whoever opened the session.
* **Shared sessions.**  Any client may close a session it has a handle of, and a session has the
  same handle each time it is opened.
* **Memory.**  A client is linked to its death before there is memory for its `client_info`, and a
  session stays open when there is none for its handle.

A client that unregisters (`UNREG_CLIENT`, sent by the destructor of its proxy) is left out.

`openedBy` records who has a session open.  `binderDied_closes_own`: in a run in which clients
register with no session open and close only what they have opened, and there is memory for the
books, a death closes the sessions of the client that died and no others. -/

namespace Agm.SwBinder

open Run

/-- `client_info`.  A binder is named by the process that owns it and a number. -/
structure ClientInfo (P : Type) where
  pid : P
  binder : P × ℕ
  agmClientHndlList : List ℕ := []
deriving DecidableEq, Repr

/-- `g_client_list`, the binders that are linked to `binderDied`, and the sessions. -/
structure ClientBooks (P : Type) extends Sessions P where
  gClientListInit : Bool := false
  gClientList : List (ClientInfo P) := []
  linked : List (P × ℕ) := []

/-- What reaches the service; `mem` is whether there is memory for the `client_info`, and for the
handle. -/
inductive ClientEvent (P : Type) where
  | regClient (p : P) (binder : ℕ) (mem : Bool)
  | open (p : P) (session : ℕ) (answer : OpenAnswer) (mem : Bool)
  | close (p : P) (handle : ℕ)
  | died (p : P) (binder : ℕ)
deriving DecidableEq, Repr

section
variable {P : Type} [DecidableEq P]

/-! ### The service

`none` is the service after a crash: it has followed a pointer that is no session, or gone
through `g_client_list` before the first registration, when its links are `NULL`. -/

/-- `agm_register_client`: the binder is linked first. -/
def agmRegisterClient (p : P) (binder : ℕ) (mem : Bool) (x : ClientBooks P) : ClientBooks P :=
  let x := { x with linked := x.linked ++ [(p, binder)], gClientListInit := true }
  if mem then
    { x with gClientList := x.gClientList ++ [{ pid := p, binder := (p, binder) }] }
  else x

/-- The entry that `get_client_handle_from_list` finds is changed. -/
def onClientHandle (p : P) (f : ClientInfo P → ClientInfo P) :
    List (ClientInfo P) → List (ClientInfo P)
  | [] => []
  | c :: cs => if c.pid = p then f c :: cs else c :: onClientHandle p f cs

def ClientInfo.file (h : ℕ) (c : ClientInfo P) : ClientInfo P :=
  { c with agmClientHndlList := c.agmClientHndlList ++ [h] }

def ClientInfo.unfile (h : ℕ) (c : ClientInfo P) : ClientInfo P :=
  { c with agmClientHndlList := c.agmClientHndlList.erase h }

/-- `agm_add_session_obj_handle`; without memory nothing is filed. -/
def agmAddSessionObjHandle (p : P) (h : ℕ) (mem : Bool) (x : ClientBooks P) :
    Option (ClientBooks P) :=
  if x.gClientListInit then
    if mem then some { x with gClientList := onClientHandle p (ClientInfo.file h) x.gClientList }
    else some x
  else none

/-- `agm_remove_session_obj_handle`. -/
def agmRemoveSessionObjHandle (p : P) (h : ℕ) (x : ClientBooks P) : Option (ClientBooks P) :=
  if x.gClientListInit then
    some { x with gClientList := onClientHandle p (ClientInfo.unfile h) x.gClientList }
  else none

variable (A : SessAddr)

/-- `OPEN`. -/
def transactOpen (p : P) (s : ℕ) (answer : OpenAnswer) (mem : Bool) (x : ClientBooks P) :
    Option (ClientBooks P) :=
  match agmSessionOpen A p s answer x.toSessions with
  | (none, y) => some { x with toSessions := y }
  | (some h, y) => agmAddSessionObjHandle p h mem { x with toSessions := y }

/-- `CLOSE`. -/
def transactClose (p : P) (h : ℕ) (x : ClientBooks P) : Option (ClientBooks P) :=
  (agmSessionClose A h x.toSessions).bind fun y =>
    agmRemoveSessionObjHandle p h { x with toSessions := y }

/-- The handles that `binderDied` gives to `agm_session_close`. -/
def diedCloses (who : P × ℕ) (x : ClientBooks P) : List ℕ :=
  ((x.gClientList.filter fun c => c.binder = who).flatMap ClientInfo.agmClientHndlList).filter
    fun h => h ≠ 0

/-- `binderDied`; the links of the binder are gone with it. -/
def binderDied (who : P × ℕ) (x : ClientBooks P) : Option (ClientBooks P) :=
  (closeHandles A (diedCloses who x) x.toSessions).map fun y =>
    { x with
      toSessions := y
      gClientList := x.gClientList.filter fun c => c.binder ≠ who
      linked := x.linked.filter fun b => b ≠ who }

/-- One request or notification, which comes only for a linked binder; a service that has crashed
stays so. -/
def ClientBooks.step (x : Option (ClientBooks P)) (e : ClientEvent P) : Option (ClientBooks P) :=
  x.bind fun x =>
    match e with
    | .regClient p b mem => some (agmRegisterClient p b mem x)
    | .open p s answer mem => transactOpen A p s answer mem x
    | .close p h => transactClose A p h x
    | .died p b => if (p, b) ∈ x.linked then binderDied A (p, b) x else some x

/-! ### What is asked of a death, and when it is given -/

/-- The notification for a client that has registered closes only sessions of the client; and if it
is for its last registration, it closes all of them. -/
def DeathExact (x : Option (ClientBooks P)) (e : ClientEvent P) : Prop :=
  match x, e with
  | none, _ => False
  | some x, .died p b => (p, b) ∈ x.linked →
      (∀ h ∈ diedCloses (p, b) x, ∃ s, A.addr s = h ∧ x.openedBy s = some p) ∧
        ((∀ r ∈ x.linked, r.1 = p → r = (p, b)) →
          ∀ s, A.addr s ∈ diedCloses (p, b) x ↔ x.openedBy s = some p)
  | some _, _ => True

/-- A client that is not registered yet has no session open when it registers, and there is memory
for its `client_info`; some client has registered before a session is opened or closed, and there is
memory for the handle of a session that a registered client opens; a handle that is closed is zero
or a session's; and an open session is closed by the client that opened it. -/
def Orderly (x : Option (ClientBooks P)) (e : ClientEvent P) : Prop :=
  match x, e with
  | none, _ => True
  | some x, .regClient p _ mem =>
      mem = true ∧ ((∀ r ∈ x.linked, r.1 ≠ p) → ∀ s, x.openedBy s ≠ some p)
  | some x, .open p s answer mem =>
      x.openedBy s = none → answer = .opens →
        x.gClientListInit = true ∧ ((∃ r ∈ x.linked, r.1 = p) → mem = true)
  | some x, .close p h =>
      x.gClientListInit = true ∧ (h ≠ 0 → ∃ s ∈ x.sessionPool, A.addr s = h) ∧
        ∀ s q, A.addr s = h → x.openedBy s = some q → q = p
  | some _, .died _ _ => True

/-! ### The registrations of a process -/

/-- The registrations of a process, in order. -/
def mine (p : P) (l : List (ClientInfo P)) : List (ClientInfo P) := l.filter fun c => c.pid = p

/-- The handles filed for a process. -/
def held (p : P) (l : List (ClientInfo P)) : List ℕ :=
  (mine p l).flatMap ClientInfo.agmClientHndlList

theorem mine_onClientHandle (p : P) {f : ClientInfo P → ClientInfo P}
    (hf : ∀ c, (f c).pid = c.pid) (l : List (ClientInfo P)) :
    mine p (onClientHandle p f l) = (mine p l).modifyHead f := by
  induction l with
  | nil => rfl
  | cons c cs ih =>
      unfold onClientHandle
      by_cases hc : c.pid = p
      · rw [if_pos hc]
        simp [mine, hc, hf]
      · rw [if_neg hc]
        simpa [mine, hc] using ih

theorem mine_onClientHandle_of_ne {p q : P} (hne : q ≠ p) {f : ClientInfo P → ClientInfo P}
    (hf : ∀ c, (f c).pid = c.pid) (l : List (ClientInfo P)) :
    mine q (onClientHandle p f l) = mine q l := by
  induction l with
  | nil => rfl
  | cons c cs ih =>
      unfold onClientHandle
      by_cases hc : c.pid = p
      · have hq : c.pid ≠ q := fun h => hne (h.symm.trans hc)
        rw [if_pos hc]
        simp [mine, hq, hf]
      · rw [if_neg hc]
        by_cases hq : c.pid = q
        · simpa [mine, hq] using ih
        · simpa [mine, hq] using ih

theorem map_binder_onClientHandle (p : P) {f : ClientInfo P → ClientInfo P}
    (hf : ∀ c, (f c).binder = c.binder) (l : List (ClientInfo P)) :
    (onClientHandle p f l).map ClientInfo.binder = l.map ClientInfo.binder := by
  induction l with
  | nil => rfl
  | cons c cs ih =>
      unfold onClientHandle
      split
      · rw [List.map_cons, List.map_cons, hf]
      · rw [List.map_cons, List.map_cons, ih]

theorem mem_onClientHandle_binder {p : P} {f : ClientInfo P → ClientInfo P}
    (hf : ∀ c, (f c).pid = c.pid ∧ (f c).binder = c.binder) {l : List (ClientInfo P)}
    {c : ClientInfo P} (h : c ∈ onClientHandle p f l) :
    ∃ c' ∈ l, c.pid = c'.pid ∧ c.binder = c'.binder := by
  induction l with
  | nil => cases h
  | cons d ds ih =>
      unfold onClientHandle at h
      split at h
      · obtain rfl | h := List.mem_cons.mp h
        · exact ⟨d, List.mem_cons_self, hf d⟩
        · exact ⟨c, List.mem_cons_of_mem _ h, rfl, rfl⟩
      · obtain rfl | h := List.mem_cons.mp h
        · exact ⟨c, List.mem_cons_self, rfl, rfl⟩
        · obtain ⟨c', hc', heq⟩ := ih h
          exact ⟨c', List.mem_cons_of_mem _ hc', heq⟩

/-! ### The invariant -/

/-- The books agree with who has which session open: every binder that is linked has its entry, what
is filed for a process it has open, a registered process has what it has open filed, each handle
once, and only its first registration has handles. -/
structure BooksRight (x : ClientBooks P) : Prop where
  init : x.gClientList ≠ [] → x.gClientListInit = true
  linked : x.linked = x.gClientList.map ClientInfo.binder
  owner : ∀ c ∈ x.gClientList, c.binder.1 = c.pid
  filed : ∀ p s, A.addr s ∈ held p x.gClientList → x.openedBy s = some p
  complete : ∀ p s, (∃ c ∈ x.gClientList, c.pid = p) → x.openedBy s = some p →
    A.addr s ∈ held p x.gClientList
  nodup : ∀ p, (held p x.gClientList).Nodup
  first : ∀ p, ∀ c ∈ (mine p x.gClientList).tail, c.agmClientHndlList = []
  object : ∀ p, ∀ h ∈ held p x.gClientList, ∃ s ∈ x.sessionPool, A.addr s = h

/-! ### Filing and taking out -/

theorem mem_held {p : P} {l : List (ClientInfo P)} {h : ℕ} :
    h ∈ held p l ↔ ∃ c ∈ l, c.pid = p ∧ h ∈ c.agmClientHndlList := by
  simp [held, mine, and_assoc]

omit [DecidableEq P] in
/-- Where only the first registration has handles, they are all there are. -/
theorem flatMap_handles_eq {c : ClientInfo P} {cs : List (ClientInfo P)}
    (h : ∀ d ∈ cs, d.agmClientHndlList = []) :
    (c :: cs).flatMap ClientInfo.agmClientHndlList = c.agmClientHndlList := by
  rw [List.flatMap_cons, List.flatMap_eq_nil_iff.mpr h, List.append_nil]

variable {p : P} {l : List (ClientInfo P)}

theorem held_file (h : ℕ) (hfirst : ∀ c ∈ (mine p l).tail, c.agmClientHndlList = [])
    (hreg : ∃ c ∈ l, c.pid = p) :
    held p (onClientHandle p (ClientInfo.file h) l) = held p l ++ [h] := by
  unfold held
  rw [mine_onClientHandle p (f := ClientInfo.file h) (fun _ => rfl)]
  obtain ⟨c₀, hc₀, hp₀⟩ := hreg
  have hmem : c₀ ∈ mine p l := List.mem_filter.mpr ⟨hc₀, decide_eq_true hp₀⟩
  cases hm : mine p l with
  | nil =>
      rw [hm] at hmem
      cases hmem
  | cons c cs =>
      rw [hm, List.tail_cons] at hfirst
      rw [List.modifyHead_cons, flatMap_handles_eq hfirst, flatMap_handles_eq hfirst]
      rfl

theorem held_unfile (h : ℕ) (hfirst : ∀ c ∈ (mine p l).tail, c.agmClientHndlList = []) :
    held p (onClientHandle p (ClientInfo.unfile h) l) = (held p l).erase h := by
  unfold held
  rw [mine_onClientHandle p (f := ClientInfo.unfile h) (fun _ => rfl)]
  cases hm : mine p l with
  | nil => rfl
  | cons c cs =>
      rw [hm, List.tail_cons] at hfirst
      rw [List.modifyHead_cons, flatMap_handles_eq hfirst, flatMap_handles_eq hfirst]
      rfl

theorem onClientHandle_of_unregistered {f : ClientInfo P → ClientInfo P}
    (hreg : ¬ ∃ c ∈ l, c.pid = p) : onClientHandle p f l = l := by
  induction l with
  | nil => rfl
  | cons c cs ih =>
      unfold onClientHandle
      rw [if_neg fun hc => hreg ⟨c, List.mem_cons_self, hc⟩, ih]
      rintro ⟨d, hd, hdp⟩
      exact hreg ⟨d, List.mem_cons_of_mem _ hd, hdp⟩

theorem onClientHandle_unfile_of_not_mem {h : ℕ} (hh : h ∉ held p l) :
    onClientHandle p (ClientInfo.unfile h) l = l := by
  induction l with
  | nil => rfl
  | cons c cs ih =>
      unfold onClientHandle
      split_ifs with hc
      · have hnot : h ∉ c.agmClientHndlList :=
          fun hmem => hh (mem_held.mpr ⟨c, List.mem_cons_self, hc, hmem⟩)
        unfold ClientInfo.unfile
        rw [List.erase_of_not_mem hnot]
      · rw [ih]
        intro hmem
        obtain ⟨d, hd, hdp, hdh⟩ := mem_held.mp hmem
        exact hh (mem_held.mpr ⟨d, List.mem_cons_of_mem _ hd, hdp, hdh⟩)

theorem held_of_ne {q : P} (hne : q ≠ p) {f : ClientInfo P → ClientInfo P}
    (hf : ∀ c, (f c).pid = c.pid) : held q (onClientHandle p f l) = held q l := by
  unfold held
  rw [mine_onClientHandle_of_ne hne hf]

/-- Filing a handle adds it for the process, and nothing else. -/
theorem mem_held_file {q : P} {k : ℕ} (h : ℕ)
    (hfirst : ∀ c ∈ (mine p l).tail, c.agmClientHndlList = []) (hreg : ∃ c ∈ l, c.pid = p) :
    k ∈ held q (onClientHandle p (ClientInfo.file h) l) ↔ k ∈ held q l ∨ q = p ∧ k = h := by
  by_cases hq : q = p
  · subst hq
    rw [held_file h hfirst hreg, List.mem_append, List.mem_singleton, and_iff_right rfl]
  · rw [held_of_ne hq (f := ClientInfo.file h) fun _ => rfl, or_iff_left fun hk => hq hk.1]

/-- Taking a handle out removes it for the process, and nothing else. -/
theorem mem_held_unfile {q : P} {k : ℕ} (h : ℕ)
    (hfirst : ∀ c ∈ (mine p l).tail, c.agmClientHndlList = []) (hnodup : (held p l).Nodup) :
    k ∈ held q (onClientHandle p (ClientInfo.unfile h) l) ↔
      k ∈ held q l ∧ ¬ (q = p ∧ k = h) := by
  by_cases hq : q = p
  · subst hq
    rw [held_unfile h hfirst, hnodup.mem_erase_iff, and_iff_right rfl, and_comm]
  · rw [held_of_ne hq (f := ClientInfo.unfile h) fun _ => rfl, and_iff_left fun hk => hq hk.1]

theorem tail_mine_onClientHandle {q : P} {f : ClientInfo P → ClientInfo P}
    (hf : ∀ c, (f c).pid = c.pid) :
    (mine q (onClientHandle p f l)).tail = (mine q l).tail := by
  by_cases hq : q = p
  · subst hq
    rw [mine_onClientHandle q hf, List.tail_modifyHead]
  · rw [mine_onClientHandle_of_ne hq hf]

variable {A} {x : ClientBooks P}

/-! ### Every step keeps the books -/

/-- A process is registered if one of its binders is linked. -/
theorem BooksRight.registered_iff (h : BooksRight A x) (q : P) :
    (∃ r ∈ x.linked, r.1 = q) ↔ ∃ c ∈ x.gClientList, c.pid = q := by
  rw [h.linked]
  constructor
  · rintro ⟨r, hr, rfl⟩
    obtain ⟨c, hc, rfl⟩ := List.mem_map.mp hr
    exact ⟨c, hc, (h.owner c hc).symm⟩
  · rintro ⟨c, hc, rfl⟩
    exact ⟨c.binder, List.mem_map_of_mem hc, h.owner c hc⟩

/-- A process is registered before the books of a client change, if it is afterwards. -/
theorem registered_onClientHandle {q : P} {f : ClientInfo P → ClientInfo P}
    (hf : ∀ c, (f c).pid = c.pid ∧ (f c).binder = c.binder)
    (hreg : ∃ c ∈ onClientHandle p f l, c.pid = q) : ∃ c ∈ l, c.pid = q := by
  obtain ⟨c, hc, hcq⟩ := hreg
  obtain ⟨c', hc', hpid, -⟩ := mem_onClientHandle_binder hf hc
  exact ⟨c', hc', hpid.symm.trans hcq⟩

theorem BooksRight.owner_onClientHandle (h : BooksRight A x) {f : ClientInfo P → ClientInfo P}
    (hf : ∀ c, (f c).pid = c.pid ∧ (f c).binder = c.binder) :
    ∀ c ∈ onClientHandle p f x.gClientList, c.binder.1 = c.pid := by
  intro c hc
  obtain ⟨c', hc', hpid, hbinder⟩ := mem_onClientHandle_binder hf hc
  rw [hpid, hbinder]
  exact h.owner c' hc'

theorem BooksRight.regClient (h : BooksRight A x) (q : P) (b : ℕ)
    (hnone : (∀ r ∈ x.linked, r.1 ≠ q) → ∀ s, x.openedBy s ≠ some q) :
    BooksRight A (agmRegisterClient q b true x) := by
  have hmine : ∀ r, mine r (agmRegisterClient q b true x).gClientList =
      mine r x.gClientList ++ mine r [{ pid := q, binder := (q, b) }] :=
    fun r => List.filter_append _ _
  have hnew : ∀ r, ∀ c ∈ mine r [({ pid := q, binder := (q, b) } : ClientInfo P)],
      c.agmClientHndlList = [] := by
    intro r c hc
    rw [List.mem_singleton.mp (List.mem_filter.mp hc).1]
  have hheld : ∀ r, held r (agmRegisterClient q b true x).gClientList = held r x.gClientList := by
    intro r
    unfold held
    rw [hmine, List.flatMap_append, List.flatMap_eq_nil_iff.mpr (hnew r), List.append_nil]
  constructor
  case init => exact fun _ => rfl
  case linked =>
    show x.linked ++ [(q, b)] = (x.gClientList ++ [_]).map ClientInfo.binder
    rw [h.linked, List.map_append]
    rfl
  case owner =>
    intro c hc
    obtain hc | hc := List.mem_append.mp hc
    · exact h.owner c hc
    · rw [List.mem_singleton.mp hc]
  case filed =>
    intro r s
    rw [hheld]
    exact h.filed r s
  case complete =>
    rintro r s ⟨c, hc, rfl⟩ hs
    rw [hheld]
    obtain hc | hc := List.mem_append.mp hc
    · exact h.complete _ s ⟨c, hc, rfl⟩ hs
    · rw [List.mem_singleton.mp hc] at hs ⊢
      by_contra hnot
      refine hnone (fun r hr hrq => hnot ?_) s hs
      exact h.complete q s ((h.registered_iff q).mp ⟨r, hr, hrq⟩) hs
  case nodup =>
    intro r
    rw [hheld]
    exact h.nodup r
  case first =>
    intro r c hc
    rw [hmine] at hc
    cases hm : mine r x.gClientList with
    | nil =>
        rw [hm, List.nil_append] at hc
        exact hnew r c (List.mem_of_mem_tail hc)
    | cons d ds =>
        rw [hm, List.cons_append, List.tail_cons] at hc
        obtain hc | hc := List.mem_append.mp hc
        · exact h.first r c (by rw [hm]; exact hc)
        · exact hnew r c hc
  case object =>
    intro r k hk
    rw [hheld] at hk
    exact h.object r k hk

/-- A new object changes nothing in the books. -/
theorem BooksRight.newObject (h : BooksRight A x) (s : ℕ) :
    BooksRight A { x with sessionPool := s :: x.sessionPool } where
  init := h.init
  linked := h.linked
  owner := h.owner
  filed := h.filed
  complete := h.complete
  nodup := h.nodup
  first := h.first
  object q k hk := by
    obtain ⟨t, ht, heq⟩ := h.object q k hk
    exact ⟨t, List.mem_cons_of_mem _ ht, heq⟩

theorem BooksRight.opened (h : BooksRight A x) {s : ℕ} (hs : x.openedBy s = none)
    (hreg : ∃ c ∈ x.gClientList, c.pid = p) :
    BooksRight A { x with
      gClientList := onClientHandle p (ClientInfo.file (A.addr s)) x.gClientList
      sessionPool := s :: x.sessionPool
      openedBy := Function.update x.openedBy s (some p) } := by
  have hfile : ∀ c : ClientInfo P,
      (c.file (A.addr s)).pid = c.pid ∧ (c.file (A.addr s)).binder = c.binder :=
    fun _ => ⟨rfl, rfl⟩
  have hmem : ∀ q k, k ∈ held q (onClientHandle p (ClientInfo.file (A.addr s)) x.gClientList) ↔
      k ∈ held q x.gClientList ∨ q = p ∧ k = A.addr s :=
    fun q k => mem_held_file (A.addr s) (h.first p) hreg
  have hnot : ∀ q, A.addr s ∉ held q x.gClientList := by
    intro q hq
    have hopen := h.filed q s hq
    rw [hs] at hopen
    cases hopen
  constructor <;> dsimp only
  case init =>
    obtain ⟨c, hc, -⟩ := hreg
    exact fun _ => h.init (List.ne_nil_of_mem hc)
  case linked => rw [map_binder_onClientHandle p fun c => (hfile c).2, h.linked]
  case owner => exact h.owner_onClientHandle hfile
  case filed =>
    intro q t ht
    obtain hold | ⟨rfl, heq⟩ := (hmem q _).mp ht
    · have hts : t ≠ s := by
        rintro rfl
        exact hnot q hold
      rw [Function.update_of_ne hts]
      exact h.filed q t hold
    · rw [A.addr_inj heq, Function.update_self]
  case complete =>
    intro q t hregq ht
    by_cases hts : t = s
    · subst hts
      rw [Function.update_self] at ht
      exact (hmem q _).mpr (.inr ⟨(Option.some.inj ht).symm, rfl⟩)
    · rw [Function.update_of_ne hts] at ht
      exact (hmem q _).mpr (.inl (h.complete q t (registered_onClientHandle hfile hregq) ht))
  case nodup =>
    intro q
    by_cases hq : q = p
    · subst hq
      rw [held_file (A.addr s) (h.first q) hreg]
      exact List.nodup_append.mpr ⟨h.nodup q, List.nodup_singleton _, fun a ha b hb hab =>
        hnot q (by rw [← List.mem_singleton.mp hb, ← hab]; exact ha)⟩
    · rw [held_of_ne hq fun c => (hfile c).1]
      exact h.nodup q
  case first =>
    intro q
    rw [tail_mine_onClientHandle fun c => (hfile c).1]
    exact h.first q
  case object =>
    intro q k hk
    obtain hold | ⟨-, rfl⟩ := (hmem q k).mp hk
    · obtain ⟨t, ht, heq⟩ := h.object q k hold
      exact ⟨t, List.mem_cons_of_mem _ ht, heq⟩
    · exact ⟨s, List.mem_cons_self, rfl⟩

/-- The handle of a session that an unregistered process opens is not filed. -/
theorem BooksRight.openedUnregistered (h : BooksRight A x) {s : ℕ} (hs : x.openedBy s = none)
    (hreg : ¬ ∃ c ∈ x.gClientList, c.pid = p) :
    BooksRight A { x with
      sessionPool := s :: x.sessionPool
      openedBy := Function.update x.openedBy s (some p) } where
  init := h.init
  linked := h.linked
  owner := h.owner
  filed q t hmem := by
    have hopen := h.filed q t hmem
    have hts : t ≠ s := by
      rintro rfl
      rw [hs] at hopen
      cases hopen
    exact (Function.update_of_ne hts _ _).trans hopen
  complete q t hregq ht := by
    have hts : t ≠ s := by
      rintro rfl
      have heq := (Function.update_self t (some p) x.openedBy).symm.trans ht
      obtain rfl := Option.some.inj heq
      exact hreg hregq
    exact h.complete q t hregq ((Function.update_of_ne hts _ _).symm.trans ht)
  nodup := h.nodup
  first := h.first
  object q k hk := by
    obtain ⟨t, ht, heq⟩ := h.object q k hk
    exact ⟨t, List.mem_cons_of_mem _ ht, heq⟩

/-- A process takes out a handle of its own, and the session is closed. -/
theorem BooksRight.closed (h : BooksRight A x) {s : ℕ}
    (hown : ∀ q, x.openedBy s = some q → q = p) :
    BooksRight A { x with
      gClientList := onClientHandle p (ClientInfo.unfile (A.addr s)) x.gClientList
      openedBy := Function.update x.openedBy s none } := by
  have hunfile : ∀ c : ClientInfo P,
      (c.unfile (A.addr s)).pid = c.pid ∧ (c.unfile (A.addr s)).binder = c.binder :=
    fun _ => ⟨rfl, rfl⟩
  have hmem : ∀ q k, k ∈ held q (onClientHandle p (ClientInfo.unfile (A.addr s)) x.gClientList) ↔
      k ∈ held q x.gClientList ∧ ¬ (q = p ∧ k = A.addr s) :=
    fun q k => mem_held_unfile (A.addr s) (h.first p) (h.nodup p)
  constructor <;> dsimp only
  case init =>
    intro hne
    refine h.init fun hnil => hne ?_
    show onClientHandle p _ x.gClientList = []
    rw [hnil]
    rfl
  case linked => rw [map_binder_onClientHandle p fun c => (hunfile c).2, h.linked]
  case owner => exact h.owner_onClientHandle hunfile
  case filed =>
    intro q t ht
    obtain ⟨hold, hnot⟩ := (hmem q _).mp ht
    have hopen := h.filed q t hold
    have hts : t ≠ s := by
      rintro rfl
      exact hnot ⟨hown q hopen, rfl⟩
    rw [Function.update_of_ne hts]
    exact hopen
  case complete =>
    intro q t hregq ht
    have hts : t ≠ s := by
      rintro rfl
      rw [Function.update_self] at ht
      cases ht
    rw [Function.update_of_ne hts] at ht
    have hold := h.complete q t (registered_onClientHandle hunfile hregq) ht
    exact (hmem q _).mpr ⟨hold, fun heq => hts (A.addr_inj heq.2)⟩
  case nodup =>
    intro q
    by_cases hq : q = p
    · subst hq
      rw [held_unfile (A.addr s) (h.first q)]
      exact (h.nodup q).erase _
    · rw [held_of_ne hq fun c => (hunfile c).1]
      exact h.nodup q
  case first =>
    intro q
    rw [tail_mine_onClientHandle fun c => (hunfile c).1]
    exact h.first q
  case object => exact fun q k hk => h.object q k ((hmem q k).mp hk).1

/-! ### Deaths -/

/-- What a notification closes is filed for the client. -/
theorem BooksRight.diedCloses_held (h : BooksRight A x) {b k : ℕ}
    (hk : k ∈ diedCloses (p, b) x) : k ∈ held p x.gClientList := by
  obtain ⟨c, hc, hkc⟩ := List.mem_flatMap.mp (List.mem_filter.mp hk).1
  obtain ⟨hc, hb⟩ := List.mem_filter.mp hc
  refine mem_held.mpr ⟨c, hc, ?_, hkc⟩
  rw [← h.owner c hc, of_decide_eq_true hb]

theorem mem_diedCloses {b s : ℕ} :
    A.addr s ∈ diedCloses (p, b) x ↔
      ∃ c ∈ x.gClientList, c.binder = (p, b) ∧ A.addr s ∈ c.agmClientHndlList := by
  unfold diedCloses
  rw [List.mem_filter, List.mem_flatMap]
  constructor
  · rintro ⟨⟨c, hc, hs⟩, -⟩
    obtain ⟨hc, hb⟩ := List.mem_filter.mp hc
    exact ⟨c, hc, of_decide_eq_true hb, hs⟩
  · rintro ⟨c, hc, hb, hs⟩
    exact ⟨⟨c, List.mem_filter.mpr ⟨hc, decide_eq_true hb⟩, hs⟩,
      decide_eq_true (A.addr_ne_zero s)⟩

theorem tail_filter_subset {α : Type} (f : α → Bool) (l : List α) {a : α}
    (h : a ∈ (l.filter f).tail) : a ∈ l.tail := by
  cases l with
  | nil => cases h
  | cons b l =>
      rw [List.filter_cons] at h
      split at h
      · exact (List.mem_filter.mp h).1
      · exact (List.mem_filter.mp (List.mem_of_mem_tail h)).1

/-- Two registrations of one process do not both have handles. -/
theorem BooksRight.eq_of_handles (h : BooksRight A x) {c d : ClientInfo P}
    (hc : c ∈ mine p x.gClientList) (hd : d ∈ mine p x.gClientList)
    (hcne : c.agmClientHndlList ≠ []) (hdne : d.agmClientHndlList ≠ []) : c = d := by
  have hfirst := h.first p
  cases hm : mine p x.gClientList with
  | nil =>
      rw [hm] at hc
      cases hc
  | cons e es =>
      rw [hm] at hc hd hfirst
      have hhead : ∀ a ∈ e :: es, a.agmClientHndlList ≠ [] → a = e := by
        intro a ha hne
        obtain rfl | ha := List.mem_cons.mp ha
        · rfl
        · exact absurd (hfirst a ha) hne
      rw [hhead c hc hcne, hhead d hd hdne]

theorem mine_filter (q : P) (f : ClientInfo P → Bool) :
    mine q (l.filter f) = (mine q l).filter f := by
  unfold mine
  rw [List.filter_filter, List.filter_filter]
  exact List.filter_congr fun c _ => Bool.and_comm _ _

/-- Registrations that go take their handles along, and no others. -/
theorem held_filter_sublist (q : P) (f : ClientInfo P → Bool) :
    (held q (l.filter f)).Sublist (held q l) := by
  unfold held
  rw [mine_filter]
  exact List.filter_sublist.flatMap _

theorem BooksRight.died (h : BooksRight A x) (b : ℕ) :
    ∃ x', binderDied A (p, b) x = some x' ∧ BooksRight A x' := by
  have hobj : ∀ k ∈ diedCloses (p, b) x, ∃ s ∈ x.sessionPool, A.addr s = k :=
    fun k hk => h.object p k (h.diedCloses_held hk)
  refine ⟨_, by unfold binderDied; rw [closeHandles_eq hobj]; rfl, ?_⟩
  have hsub : ∀ q, List.Sublist (held q (x.gClientList.filter fun c => c.binder ≠ (p, b)))
      (held q x.gClientList) := fun q => held_filter_sublist q _
  constructor
  case init =>
    intro hne
    refine h.init fun hnil => hne ?_
    show x.gClientList.filter _ = []
    rw [hnil]
    rfl
  case linked =>
    show x.linked.filter _ = (x.gClientList.filter _).map ClientInfo.binder
    rw [h.linked, List.filter_map]
    rfl
  case owner => exact fun c hc => h.owner c (List.mem_filter.mp hc).1
  case filed =>
    intro q s hmem
    have hopen := h.filed q s ((hsub q).subset hmem)
    show (if A.addr s ∈ diedCloses (p, b) x then none else x.openedBy s) = some q
    rw [if_neg, hopen]
    -- otherwise the handle is filed with the registration that goes, and with another one
    intro hs
    obtain ⟨c, hc, hb, hsc⟩ := mem_diedCloses.mp hs
    obtain ⟨d, hdf, hdq, hsd⟩ := mem_held.mp hmem
    have hd : d ∈ x.gClientList := (List.mem_filter.mp hdf).1
    have hdb := (List.mem_filter.mp hdf).2
    have hcp : c.pid = p := by rw [← h.owner c hc, hb]
    have hcopen := h.filed p s (mem_held.mpr ⟨c, hc, hcp, hsc⟩)
    obtain rfl := Option.some.inj (hopen.symm.trans hcopen)
    have heq : c = d := h.eq_of_handles
      (List.mem_filter.mpr ⟨hc, decide_eq_true hcp⟩)
      (List.mem_filter.mpr ⟨hd, decide_eq_true hdq⟩)
      (List.ne_nil_of_mem hsc) (List.ne_nil_of_mem hsd)
    rw [← heq] at hdb
    exact of_decide_eq_true hdb hb
  case complete =>
    rintro q s ⟨c, hc, hcq⟩ hs
    have hs' : (if A.addr s ∈ diedCloses (p, b) x then none else x.openedBy s) = some q := hs
    split_ifs at hs' with hclosed
    have hmem := h.complete q s ⟨c, (List.mem_filter.mp hc).1, hcq⟩ hs'
    obtain ⟨d, hd, hdq, hsd⟩ := mem_held.mp hmem
    refine mem_held.mpr ⟨d, List.mem_filter.mpr ⟨hd, decide_eq_true fun hb => ?_⟩, hdq, hsd⟩
    exact hclosed (mem_diedCloses.mpr ⟨d, hd, hb, hsd⟩)
  case nodup => exact fun q => (h.nodup q).sublist (hsub q)
  case first =>
    intro q c hc
    rw [mine_filter] at hc
    exact h.first q c (tail_filter_subset _ _ hc)
  case object => exact fun q k hk => h.object q k ((hsub q).subset hk)

theorem BooksRight.step (h : BooksRight A x) {e : ClientEvent P} (ho : Orderly A (some x) e) :
    ∃ x', ClientBooks.step A (some x) e = some x' ∧ BooksRight A x' := by
  cases e with
  | regClient q b mem =>
      obtain ⟨rfl, hnone⟩ := ho
      exact ⟨_, rfl, h.regClient q b hnone⟩
  | «open» q s answer mem =>
      show ∃ x', transactOpen A q s answer mem x = some x' ∧ _
      unfold transactOpen agmSessionOpen
      cases hs : x.openedBy s with
      | some r => exact ⟨_, rfl, h⟩
      | none =>
          cases answer with
          | noObject => exact ⟨_, rfl, h⟩
          | fails => exact ⟨_, rfl, h.newObject s⟩
          | opens =>
              obtain ⟨hinit, hmem⟩ := ho hs rfl
              dsimp only
              unfold agmAddSessionObjHandle
              rw [if_pos hinit]
              by_cases hreg : ∃ c ∈ x.gClientList, c.pid = q
              · rw [if_pos (hmem ((h.registered_iff q).mpr hreg))]
                exact ⟨_, rfl, h.opened hs hreg⟩
              · dsimp only
                rw [onClientHandle_of_unregistered hreg, ite_self]
                exact ⟨_, rfl, h.openedUnregistered hs hreg⟩
  | close q k =>
      obtain ⟨hinit, hobj, hown⟩ := ho
      show ∃ x', transactClose A q k x = some x' ∧ _
      unfold transactClose
      by_cases hk : k = 0
      · -- zero is no handle, so there is nothing to take out
        subst hk
        have hnot : 0 ∉ held q x.gClientList := by
          intro hmem
          obtain ⟨s, -, hs⟩ := h.object q 0 hmem
          exact A.addr_ne_zero s hs
        refine ⟨x, ?_, h⟩
        show agmRemoveSessionObjHandle q 0 x = some x
        unfold agmRemoveSessionObjHandle
        rw [if_pos hinit, onClientHandle_unfile_of_not_mem hnot]
      · obtain ⟨s, hs, rfl⟩ := hobj hk
        rw [agmSessionClose_eq hs, Option.bind_some]
        exact ⟨_, if_pos hinit, h.closed fun r hr => hown s r rfl hr⟩
  | died q b =>
      show ∃ x', (if (q, b) ∈ x.linked then binderDied A (q, b) x else some x) = some x' ∧ _
      split
      · exact h.died b
      · exact ⟨x, rfl, h⟩

/-- With the books in order a death closes what it should. -/
theorem BooksRight.deathExact (h : BooksRight A x) (e : ClientEvent P) :
    DeathExact A (some x) e := by
  cases e with
  | regClient q b mem => trivial
  | «open» q s answer mem => trivial
  | close q k => trivial
  | died q b =>
      intro hlinked
      refine ⟨fun k hk => ?_, fun honly s => ?_⟩
      · have hheld := h.diedCloses_held hk
        obtain ⟨s, -, rfl⟩ := h.object q k hheld
        exact ⟨s, rfl, h.filed q s hheld⟩
      · refine ⟨fun hk => h.filed q s (h.diedCloses_held hk), fun hopen => ?_⟩
        have hreg := (h.registered_iff q).mp ⟨(q, b), hlinked, rfl⟩
        obtain ⟨c, hc, hcq, hsc⟩ := mem_held.mp (h.complete q s hreg hopen)
        have hbinder : c.binder ∈ x.linked := h.linked ▸ List.mem_map_of_mem hc
        exact mem_diedCloses.mpr ⟨c, hc, honly _ hbinder ((h.owner c hc).trans hcq), hsc⟩

theorem booksRight_start : BooksRight A ({} : ClientBooks P) where
  init h := absurd rfl h
  linked := rfl
  owner := nofun
  filed := nofun
  complete := nofun
  nodup _ := List.nodup_nil
  first := nofun
  object := nofun

end

/-- In every run from the start of the service in which clients register with no session open and
close only sessions that they have opened, and there is memory for the books, a death closes only
sessions of the client that died, and all of them when its last registration goes. -/
theorem binderDied_closes_own {P : Type} [DecidableEq P] (A : SessAddr) (es : List (ClientEvent P))
    (h : Along (ClientBooks.step A) (Orderly A) es (some {})) :
    Along (ClientBooks.step A) (DeathExact A) es (some {}) := by
  refine h.imp (I := fun o => ∃ x, o = some x ∧ BooksRight A x) ?_ ?_ ⟨_, rfl, booksRight_start⟩
  · rintro _ e ⟨x, rfl, hx⟩ ho
    obtain ⟨x', hx', hbooks⟩ := hx.step ho
    exact ⟨x', hx', hbooks⟩
  · rintro _ e ⟨x, rfl, hx⟩ -
    exact hx.deathExact e

/-- Two clients take turns with a session, and then one of them dies. -/
theorem binderDied_closes_own_takeTurns :
    Along (ClientBooks.step .successive) (DeathExact .successive)
      [.regClient 0 0 true, .regClient 1 0 true, .open 0 7 .opens true, .close 0 8,
        .open 1 7 .opens true, .open 0 3 .opens true, .died 0 0] (some ({} : ClientBooks ℕ)) := by
  refine binderDied_closes_own _ _ ⟨⟨rfl, fun _ _ => nofun⟩, ⟨rfl, fun _ _ => nofun⟩,
    fun _ _ => ⟨rfl, fun _ => rfl⟩, ?_, fun _ _ => ⟨rfl, fun _ => rfl⟩,
    fun _ _ => ⟨rfl, fun _ => rfl⟩, trivial, trivial⟩
  refine ⟨rfl, fun _ => ⟨7, by decide, rfl⟩, fun s q hs hq => ?_⟩
  obtain rfl : s = 7 := Nat.succ.inj hs
  exact (Option.some.inj hq).symm

/-- A session that another client has closed and opened again is closed when its first owner
dies; and a session whose handle there was no memory for stays open when its owner dies. -/
theorem binderDied_closes_own_closedByAnother :
    ¬ Along (ClientBooks.step .successive) (DeathExact .successive)
      [.regClient 0 0 true, .regClient 1 0 true, .open 0 7 .opens true, .close 1 8,
        .open 1 7 .opens true, .died 0 0] (some ({} : ClientBooks ℕ)) ∧
    ¬ Along (ClientBooks.step .successive) (DeathExact .successive)
      [.regClient 0 0 true, .open 0 7 .opens false, .died 0 0] (some ({} : ClientBooks ℕ)) := by
  constructor
  · rintro ⟨-, -, -, -, -, hexact, -⟩
    obtain ⟨s, hs, howner⟩ := (hexact (by decide)).1 8 (by decide)
    obtain rfl : s = 7 := Nat.succ.inj hs
    exact absurd howner (by decide)
  · rintro ⟨-, -, hexact, -⟩
    have hclosed := ((hexact (by decide)).2 (by decide) 7).mpr (by decide)
    exact absurd hclosed (by decide)

end Agm.SwBinder
