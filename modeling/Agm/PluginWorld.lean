import Agm.CardCache
import Agm.CardQueries
import Agm.Lib.Ledger

/-! # The process of a client of tinyalsa

The plugins of a client share its process: one heap, one cache of card definitions, the sessions
that were opened and the callbacks that were registered.  All of it is a ledger (`Holding`): what is
freed, closed or put back has to be held, so that a second time is a fault.

A reference to a definition is held together with what the definition says (`Holding.card`); the
invariant ties it to the cache, where `refcnt` counts the references that are held. -/

namespace Agm

open Prog

/-- What a plugin can hold. -/
inductive Holding where
  | block (id : ℕ)
  | mapping (id : ℕ)
  | session (handle : ℕ)
  /-- A callback for a session, with the plugin as `client_data`. -/
  | callback (sessionId plugin : ℕ)
  | card (a : ℕ) (contents : SndDevDefCard)
deriving DecidableEq, Repr

/-- Blocks and mappings are numbered by one counter. -/
def Holding.id? : Holding → Option ℕ
  | block id => some id
  | mapping id => some id
  | _ => none

inductive PluginFault where
  /-- In `snd_card_def_get_card`. -/
  | inGetCard (f : SndFault)
  /-- In another function of the parser library. -/
  | inCards (f : SndFault)
  /-- Given back, or used, without being held. -/
  | notHeld (h : Holding)
  | crash (c : Crash)
  | divByZero
  /-- A loop that does not end. -/
  | hang
deriving DecidableEq, Repr

/-- The process. -/
structure ClientProc where
  cards : SndState := {}
  held : Multiset Holding := 0
  next : ℕ := 0
deriving DecidableEq

abbrev ClientM := Prog ClientProc PluginFault

/-! ### Taking and giving back -/

def onCache {α : Type} (err : SndFault → PluginFault) (m : SndM α) : ClientM α :=
  Prog.zoom ClientProc.cards (fun g w => { w with cards := g }) err m

def takeHolding (h : Holding) : ClientM Unit :=
  Prog.modify fun w => { w with held := {h} + w.held }

def giveHolding (h : Holding) : ClientM Unit := do
  let held ← Prog.gets ClientProc.held
  if h ∈ held then Prog.modify fun w => { w with held := w.held.erase h }
  else Prog.fault (.notHeld h)

/-- `calloc`, which the caller answers with `-ENOMEM` when it fails. -/
def clientCalloc (mem : Bool) : ClientM (Except ℤ ℕ) :=
  if mem then do
    let id ← Prog.gets ClientProc.next
    Prog.modify fun w => { w with held := {.block id} + w.held, next := id + 1 }
    pure (.ok id)
  else pure (.error (-ENOMEM))

def clientFree (id : ℕ) : ClientM Unit := giveHolding (.block id)

/-- `mmap`; `MAP_FAILED` is `none`. -/
def clientMmap (mapped : Bool) : ClientM (Option ℕ) :=
  if mapped then do
    let id ← Prog.gets ClientProc.next
    Prog.modify fun w => { w with held := {.mapping id} + w.held, next := id + 1 }
    pure (some id)
  else pure none

/-- `munmap`; an address that is not mapped is refused. -/
def clientMunmap : Option ℕ → ClientM Unit
  | none => pure ()
  | some id => giveHolding (.mapping id)

/-- What is behind an address is read; `MAP_FAILED` is no address of the process. -/
def clientReadMapping : Option ℕ → ClientM Unit
  | none => Prog.fault (.crash .outOfBounds)
  | some id => do
      let held ← Prog.gets ClientProc.held
      if .mapping id ∈ held then pure () else Prog.fault (.notHeld (.mapping id))

/-- `snd_card_def_get_card`, which the caller answers with `-EINVAL` when it finds nothing. -/
def clientGetCard (card : ℕ) (e : CardEnv) : ClientM (Except ℤ (ℕ × SndDevDefCard)) := do
  let r ← onCache .inGetCard (sndCardDefGetCard card e)
  match r with
  | none => pure (.error (-EINVAL))
  | some a => do
      let c ← onCache .inCards (derefCard a)
      takeHolding (.card a c.contents)
      pure (.ok (a, c.contents))

/-- `snd_card_def_put_card`. -/
def clientPutCard (r : ℕ × SndDevDefCard) : ClientM Unit := do
  onCache .inCards (sndCardDefPutCard (some r.1))
  giveHolding (.card r.1 r.2)

/-- `agm_session_open`, with its code and the handle that it stores. -/
def clientSessionOpen (answer : ℤ × ℕ) : ClientM (Except ℤ ℕ) :=
  if answer.1 ≠ 0 then pure (.error answer.1)
  else do
    takeHolding (.session answer.2)
    pure (.ok answer.2)

/-- `agm_session_close`. -/
def clientSessionClose (handle : ℕ) : ClientM Unit := giveHolding (.session handle)

/-- Any other call on a session. -/
def clientSessionCall (handle : ℕ) (ret : ℤ) : ClientM ℤ := do
  let held ← Prog.gets ClientProc.held
  if .session handle ∈ held then pure ret else Prog.fault (.notHeld (.session handle))

/-! ### The references to the definitions -/

/-- The counts of the cache are those of the references that are held. -/
structure References (cards : List (ℕ × SndDevDefCard)) (held : Multiset Holding) : Prop where
  nodup : (cards.map Prod.fst).Nodup
  refcnt : ∀ node ∈ cards,
    node.2.refcnt = held.count (.card node.1 node.2.contents) ∧ 0 < node.2.refcnt
  cached : ∀ a c, .card a c ∈ held → ∃ d, (a, d) ∈ cards ∧ d.contents = c

section references
variable {cards : List (ℕ × SndDevDefCard)} {held : Multiset Holding} {a : ℕ}
  {c d : SndDevDefCard}

/-- What is behind a reference. -/
theorem References.lookup (h : References cards held) (hmem : .card a c ∈ held) :
    ∃ d, cards.lookup a = some d ∧ d.contents = c := by
  obtain ⟨d, hd, hc⟩ := h.cached a c hmem
  exact ⟨d, lookup_of_mem h.nodup hd, hc⟩

theorem References.unique (h : References cards held) (hd : (a, d) ∈ cards)
    (hmem : .card a c ∈ held) : d.contents = c := by
  obtain ⟨d', hd', hc⟩ := h.cached a c hmem
  have hsame := (lookup_of_mem h.nodup hd).symm.trans (lookup_of_mem h.nodup hd')
  rw [Option.some.inj hsame, hc]

/-- What is held besides references does not matter. -/
theorem References.congr (h : References cards held) {held' : Multiset Holding}
    (hcount : ∀ a c, held'.count (.card a c) = held.count (.card a c)) :
    References cards held' where
  nodup := h.nodup
  refcnt node hnode := by
    rw [hcount]
    exact h.refcnt node hnode
  cached a c hmem := by
    refine h.cached a c ?_
    rw [← Multiset.count_pos, ← hcount]
    exact Multiset.count_pos.mpr hmem

theorem References.empty : References [] 0 where
  nodup := List.nodup_nil
  refcnt _ h := absurd h List.not_mem_nil
  cached _ _ h := absurd h (Multiset.notMem_zero _)

/-- One more reference to a cached definition. -/
theorem References.hit (h : References cards held) {node : ℕ × SndDevDefCard}
    (hnode : node ∈ cards) :
    References
      (cards.map fun n => if n.1 = node.1 then (node.1, { n.2 with refcnt := n.2.refcnt + 1 }) else n)
      ({.card node.1 node.2.contents} + held) where
  nodup := by
    rw [map_fst_hit _ _ fun c => { c with refcnt := c.refcnt + 1 }]
    exact h.nodup
  refcnt n hn := by
    obtain ⟨m, hm, rfl⟩ := List.mem_map.mp hn
    obtain ⟨hcount, hpos⟩ := h.refcnt m hm
    rw [Multiset.count_add, Multiset.count_singleton]
    by_cases heq : m.1 = node.1
    · have hsame : m.2.contents = node.2.contents := by
        have hd := lookup_of_mem h.nodup (show (node.1, m.2) ∈ cards from heq ▸ hm)
        rw [Option.some.inj (hd.symm.trans (lookup_of_mem h.nodup hnode))]
      rw [if_pos heq]
      dsimp only
      rw [heq] at hcount
      rw [show ({ m.2 with refcnt := m.2.refcnt + 1 } : SndDevDefCard).contents = m.2.contents
        from rfl, if_pos (by rw [hsame]), hcount]
      omega
    · have hne : ¬ Holding.card m.1 m.2.contents = .card node.1 node.2.contents :=
        fun hcard => heq (Holding.card.inj hcard).1
      rw [if_neg heq, if_neg hne, zero_add]
      exact ⟨hcount, hpos⟩
  cached a c hmem := by
    rcases Multiset.mem_add.mp hmem with hmem | hmem
    · obtain ⟨rfl, rfl⟩ := Holding.card.inj (Multiset.mem_singleton.mp hmem)
      exact ⟨_, List.mem_map.mpr ⟨node, hnode, if_pos rfl⟩, rfl⟩
    · obtain ⟨d, hd, rfl⟩ := h.cached a c hmem
      by_cases heq : a = node.1
      · subst heq
        exact ⟨_, List.mem_map.mpr ⟨_, hd, if_pos rfl⟩, rfl⟩
      · exact ⟨d, List.mem_map.mpr ⟨_, hd, if_neg heq⟩, rfl⟩

/-- The first reference to a new definition. -/
theorem References.fresh (h : References cards held) (ha : a ∉ cards.map Prod.fst)
    (hnew : c.refcnt = 0) :
    References (cards ++ [(a, { c with refcnt := c.refcnt + 1 })])
      ({.card a c.contents} + held) where
  nodup := by
    rw [List.map_append]
    exact List.Nodup.append h.nodup (List.nodup_singleton a) (by simpa using ha)
  refcnt n hn := by
    rw [Multiset.count_add, Multiset.count_singleton]
    rcases List.mem_append.mp hn with hn | hn
    · have hne : ¬ Holding.card n.1 n.2.contents = .card a c.contents := fun hcard =>
        ha ((Holding.card.inj hcard).1 ▸ List.mem_map_of_mem hn)
      rw [if_neg hne, zero_add]
      exact h.refcnt n hn
    · obtain rfl := List.mem_singleton.mp hn
      have hnone : held.count (.card a c.contents) = 0 := by
        refine Multiset.count_eq_zero_of_notMem fun hmem => ha ?_
        obtain ⟨d, hd, -⟩ := h.cached a _ hmem
        exact List.mem_map_of_mem hd
      dsimp only
      rw [show ({ c with refcnt := c.refcnt + 1 } : SndDevDefCard).contents = c.contents from rfl,
        if_pos rfl, hnone, hnew]
      exact ⟨rfl, Int.one_pos⟩
  cached b x hmem := by
    rcases Multiset.mem_add.mp hmem with hmem | hmem
    · obtain ⟨rfl, rfl⟩ := Holding.card.inj (Multiset.mem_singleton.mp hmem)
      exact ⟨_, List.mem_append_right _ (List.mem_singleton_self _), rfl⟩
    · obtain ⟨d, hd, hx⟩ := h.cached b x hmem
      exact ⟨d, List.mem_append_left _ hd, hx⟩

/-- A reference is put back. -/
theorem References.put (h : References cards held) (hmem : .card a c ∈ held) :
    References (sndPutLoop a cards) (held.erase (.card a c)) where
  nodup := h.nodup.sublist (sndPutLoop_sublist a cards)
  refcnt n hn := by
    rcases mem_sndPutLoop.mp hn with ⟨hn, hne⟩ | ⟨d, hd, hlast, rfl⟩
    · have hcard : Holding.card n.1 n.2.contents ≠ .card a c :=
        fun hcard => hne (Holding.card.inj hcard).1
      rw [Multiset.count_erase_of_ne hcard]
      exact h.refcnt n hn
    · obtain ⟨hcount, hpos⟩ := h.refcnt _ hd
      have hc : d.contents = c := h.unique hd hmem
      dsimp only at hcount hpos ⊢
      rw [show ({ d with refcnt := d.refcnt - 1 } : SndDevDefCard).contents = d.contents from rfl,
        hc, Multiset.count_erase_self]
      rw [hc] at hcount
      omega
  cached b x hx := by
    have hheld := Multiset.mem_of_mem_erase hx
    obtain ⟨d, hd, hdx⟩ := h.cached b x hheld
    by_cases hb : b = a
    · subst hb
      obtain ⟨hcount, -⟩ := h.refcnt _ hd
      have hc : d.contents = c := h.unique hd hmem
      obtain rfl : x = c := hdx.symm.trans hc
      have htwo : 1 < held.count (.card b x) := by
        have herase := Multiset.count_pos.mpr hx
        rw [Multiset.count_erase_self] at herase
        omega
      dsimp only at hcount
      rw [hdx] at hcount
      exact ⟨_, mem_sndPutLoop.mpr (.inr ⟨d, hd, by omega, rfl⟩), hdx⟩
    · exact ⟨d, mem_sndPutLoop.mpr (.inl ⟨hd, hb⟩), hdx⟩

end references

/-! ### The ledger -/

/-- The lock is free, the counts are right, and no block or mapping is held twice. -/
structure ClientProc.Inv (w : ClientProc) : Prop where
  free : w.cards.Free
  initialised : w.cards.Initialised
  references : References w.cards.sndCardList w.held
  once : ∀ h ∈ w.held, ∀ id ∈ h.id?, id < w.next ∧ w.held.count h = 1

/-- Only `snd_card_def_get_card` may fault. -/
def PluginFault.InGetCard : PluginFault → Prop
  | .inGetCard _ => True
  | _ => False

instance : DecidablePred PluginFault.InGetCard
  | .inGetCard _ => isTrue trivial
  | .inCards _ => isFalse id
  | .notHeld _ => isFalse id
  | .crash _ => isFalse id
  | .divByZero => isFalse id
  | .hang => isFalse id

def clientLedger : Ledger ClientProc PluginFault Holding where
  held := ClientProc.held
  Inv := ClientProc.Inv
  Allowed := PluginFault.InGetCard

theorem ClientProc.Inv.init : ClientProc.Inv {} where
  free := rfl
  initialised _ := rfl
  references := .empty
  once _ h := absurd h (Multiset.notMem_zero _)

section specs
variable {w : ClientProc}

/-- Something that is no reference is added. -/
theorem ClientProc.Inv.take (h : w.Inv) {x : Holding} (hcard : ∀ a c, x ≠ .card a c)
    {next : ℕ} (hnext : w.next ≤ next) (hid : ∀ id ∈ x.id?, w.next ≤ id ∧ id < next) :
    ClientProc.Inv { w with held := {x} + w.held, next } where
  free := h.free
  initialised := h.initialised
  references := h.references.congr fun a c => by
    rw [Multiset.count_add, Multiset.count_singleton, if_neg (Ne.symm (hcard a c)), zero_add]
  once y hy id hyid := by
    rw [Multiset.count_add, Multiset.count_singleton]
    rcases Multiset.mem_add.mp hy with hy | hy
    · obtain rfl := Multiset.mem_singleton.mp hy
      obtain ⟨hge, hlt⟩ := hid id hyid
      have hnew : w.held.count y = 0 := Multiset.count_eq_zero_of_notMem fun hmem =>
        absurd (h.once y hmem id hyid).1 (not_lt.mpr hge)
      exact ⟨hlt, by rw [if_pos rfl, hnew]⟩
    · obtain ⟨hlt, hone⟩ := h.once y hy id hyid
      have hne : y ≠ x := by
        rintro rfl
        exact absurd hlt (not_lt.mpr (hid id hyid).1)
      exact ⟨hlt.trans_le hnext, by rw [if_neg hne, hone]⟩

/-- Something that is no reference is given back. -/
theorem ClientProc.Inv.give (h : w.Inv) {x : Holding} (hcard : ∀ a c, x ≠ .card a c) :
    ClientProc.Inv { w with held := w.held.erase x } where
  free := h.free
  initialised := h.initialised
  references := h.references.congr fun a c => by
    rw [Multiset.count_erase_of_ne (Ne.symm (hcard a c))]
  once y hy id hyid := by
    have hmem := Multiset.mem_of_mem_erase hy
    obtain ⟨hlt, hone⟩ := h.once y hmem id hyid
    refine ⟨hlt, ?_⟩
    have hne : y ≠ x := by
      rintro rfl
      have hcount := Multiset.count_pos.mpr hy
      rw [Multiset.count_erase_self, hone] at hcount
      exact absurd hcount (by decide)
    rw [Multiset.count_erase_of_ne hne, hone]

theorem swaps_take {x : Holding} (hcard : ∀ a c, x ≠ .card a c) (hid : x.id? = none) :
    clientLedger.Swaps 0 (takeHolding x) (fun _ => True) fun _ => {x} := by
  intro w F hw hheld
  have hheld : w.held = F := hheld.trans (zero_add F)
  refine ⟨trivial, hw.take hcard le_rfl fun id h => ?_, congrArg ({x} + ·) hheld⟩
  rw [hid] at h
  cases h

theorem swaps_give {x : Holding} (hcard : ∀ a c, x ≠ .card a c) :
    clientLedger.Swaps {x} (giveHolding x) (fun _ => True) fun _ => 0 := by
  intro w F hw hheld
  have hheld : w.held = {x} + F := hheld
  have hmem : x ∈ w.held := hheld ▸ Multiset.mem_add.mpr (.inl (Multiset.mem_singleton_self x))
  unfold giveHolding
  rw [ensures_bind, ensures_gets, if_pos hmem, ensures_modify]
  refine ⟨trivial, hw.give hcard, ?_⟩
  change w.held.erase x = 0 + F
  rw [hheld, Multiset.singleton_add, Multiset.erase_cons_head, zero_add]

theorem opens_calloc (mem : Bool) :
    clientLedger.Opens 0 (clientCalloc mem) (fun _ => True) fun id => {.block id} := by
  refine opens_ite (fun _ => ?_) fun _ => opens_error
  intro w F hw hheld
  have hheld : w.held = F := hheld.trans (zero_add F)
  refine ⟨fun _ _ => trivial, hw.take (by rintro a c ⟨⟩) (Nat.le_succ _) fun id h => ?_,
    congrArg ({Holding.block w.next} + ·) hheld⟩
  obtain rfl := Option.some.inj h
  exact ⟨le_rfl, Nat.lt_succ_self _⟩

theorem swaps_free (id : ℕ) :
    clientLedger.Swaps {.block id} (clientFree id) (fun _ => True) fun _ => 0 :=
  swaps_give (by rintro a c ⟨⟩)

/-- What is held of a mapping. -/
def mappingOf (o : Option ℕ) : Multiset Holding := o.elim 0 fun id => {.mapping id}

theorem swaps_mmap (mapped : Bool) :
    clientLedger.Swaps 0 (clientMmap mapped) (fun _ => True) mappingOf := by
  refine swaps_ite (fun _ => ?_) fun _ => swaps_pure trivial rfl
  intro w F hw hheld
  have hheld : w.held = F := hheld.trans (zero_add F)
  refine ⟨trivial, hw.take (by rintro a c ⟨⟩) (Nat.le_succ _) fun id h => ?_,
    congrArg ({Holding.mapping w.next} + ·) hheld⟩
  obtain rfl := Option.some.inj h
  exact ⟨le_rfl, Nat.lt_succ_self _⟩

theorem swaps_munmap (o : Option ℕ) :
    clientLedger.Swaps (mappingOf o) (clientMunmap o) (fun _ => True) fun _ => 0 := by
  cases o with
  | none => exact swaps_pure trivial rfl
  | some id => exact swaps_give (by rintro a c ⟨⟩)

theorem swaps_readMapping (id : ℕ) :
    clientLedger.Swaps {.mapping id} (clientReadMapping (some id)) (fun _ => True) fun _ =>
      {.mapping id} := by
  intro w F hw hheld
  have hheld : w.held = {.mapping id} + F := hheld
  have hmem : .mapping id ∈ w.held :=
    hheld ▸ Multiset.mem_add.mpr (.inl (Multiset.mem_singleton_self _))
  unfold clientReadMapping
  rw [ensures_bind, ensures_gets, if_pos hmem]
  exact ⟨trivial, hw, hheld⟩

theorem opens_session (answer : ℤ × ℕ) :
    clientLedger.Opens 0 (clientSessionOpen answer) (fun _ => True) fun h => {.session h} := by
  refine opens_ite (fun _ => opens_error) fun _ => ?_
  exact swaps_bind (swaps_take (by rintro a c ⟨⟩) rfl) fun _ _ =>
    swaps_pure (fun _ _ => trivial) rfl

theorem swaps_closeSession (handle : ℕ) :
    clientLedger.Swaps {.session handle} (clientSessionClose handle) (fun _ => True) fun _ => 0 :=
  swaps_give (by rintro a c ⟨⟩)

theorem swaps_sessionCall (handle : ℕ) (ret : ℤ) :
    clientLedger.Swaps {.session handle} (clientSessionCall handle ret) (fun r => r = ret) fun _ =>
      {.session handle} := by
  intro w F hw hheld
  have hheld : w.held = {.session handle} + F := hheld
  have hmem : .session handle ∈ w.held :=
    hheld ▸ Multiset.mem_add.mpr (.inl (Multiset.mem_singleton_self _))
  unfold clientSessionCall
  rw [ensures_bind, ensures_gets, if_pos hmem]
  exact ⟨rfl, hw, hheld⟩

/-- What is read behind a reference. -/
theorem swaps_read {α : Type} {m : SndM α} {x : α} {a : ℕ} {c : SndDevDefCard}
    (h : ∀ (g : SndState) (d : SndDevDefCard), g.Free → g.sndCardList.lookup a = some d →
      d.contents = c → Answers m g x) :
    clientLedger.Swaps {.card a c} (onCache .inCards m) (fun y => y = x) fun _ => {.card a c} := by
  intro w F hw hheld
  have hheld : w.held = {.card a c} + F := hheld
  have hmem : .card a c ∈ w.held :=
    hheld ▸ Multiset.mem_add.mpr (.inl (Multiset.mem_singleton_self _))
  obtain ⟨d, hd, hc⟩ := hw.references.lookup hmem
  unfold onCache
  rw [ensures_zoom, ensures_iff_of_ok (h w.cards d hw.free hd hc)]
  exact ⟨rfl, hw, hheld⟩

/-- The cache after a call with its three outcomes. -/
theorem getCard_references {g : SndState} {held : Multiset Holding} (hg : g.Free)
    (hinit : g.Initialised) (h : References g.sndCardList held) (card : ℕ) {e : CardEnv}
    (he : e.parsed = true) :
    Ensures anyFault (sndCardDefGetCard card e) g fun r g' =>
      g'.Free ∧ g'.Initialised ∧
        ((r = none ∧ References g'.sndCardList held) ∨
          ∃ a d, r = some a ∧ g'.sndCardList.lookup a = some d ∧
            References g'.sndCardList ({.card a d.contents} + held)) := by
  have hfree : Ensures anyFault (sndCardDefGetCard card e) g fun _ g' => g'.Free := by
    obtain ⟨cards, init, lock⟩ := g
    obtain rfl : lock = {} := hg
    exact (sndCardDefGetCard_ensures card e).mono (fun _ _ => trivial) fun _ _ h => h
  refine ((sndCardDefGetCard_cases hinit card e).and hfree).imp ?_
  rintro r g' ⟨⟨hget, hinit'⟩, hfree'⟩
  refine ⟨hfree', hinit', ?_⟩
  generalize g'.sndCardList = cards at hget ⊢
  have hfound : ∀ {a : ℕ} {d : SndDevDefCard}, References cards ({.card a d.contents} + held) →
      (a, d) ∈ cards → ∃ a' d', some a = some a' ∧ cards.lookup a' = some d' ∧
        References cards ({.card a' d'.contents} + held) :=
    fun href hmem => ⟨_, _, rfl, lookup_of_mem href.nodup hmem, href⟩
  cases hget with
  | nothing _ => exact .inl ⟨rfl, h⟩
  | hit node hfind =>
      have hmem := List.mem_of_find?_eq_some hfind
      exact .inr (hfound (d := { node.2 with refcnt := node.2.refcnt + 1 }) (h.hit hmem)
        (List.mem_map.mpr ⟨node, hmem, if_pos rfl⟩))
  | failed _ _ _ hfailed => exact absurd (he.symm.trans hfailed) (by decide)
  | fresh c _ hparse _ =>
      exact .inr (hfound (d := { c with refcnt := c.refcnt + 1 })
        (h.fresh (sndNewAddr_not_mem e.addr _) (sndParseCard_refcnt hparse))
        (List.mem_append_right _ (List.mem_singleton_self _)))

theorem opens_getCard (card : ℕ) {e : CardEnv} (he : e.parsed = true) :
    clientLedger.Opens 0 (clientGetCard card e) (fun _ => True) fun r => {.card r.1 r.2} := by
  intro w F hw hheld
  have hheld : w.held = F := hheld.trans (zero_add F)
  unfold clientGetCard onCache
  rw [ensures_bind, ensures_zoom]
  refine (getCard_references hw.free hw.initialised hw.references card he).mono
    (fun _ _ => trivial) ?_
  rintro r g ⟨hfree, hinit, ⟨rfl, href⟩ | ⟨a, d, rfl, hlookup, href⟩⟩
  · exact ⟨by rintro _ ⟨⟩, ⟨hfree, hinit, href, hw.once⟩, hheld.trans (zero_add F).symm⟩
  · have hderef : derefCard a g = .ok (d, g) := derefCard_found hlookup g.sndCardListInit g.sndRwlock
    dsimp only
    rw [ensures_bind, ensures_zoom, ensures_iff_of_ok hderef]
    refine ⟨fun _ _ => trivial, ⟨hfree, hinit, href, fun x hx id hid => ?_⟩,
      congrArg ({Holding.card a d.contents} + ·) hheld⟩
    rcases Multiset.mem_add.mp hx with hx | hx
    · rw [Multiset.mem_singleton.mp hx] at hid
      cases hid
    · have hne : x ≠ .card a d.contents := by
        rintro rfl
        cases hid
      obtain ⟨hlt, hone⟩ := hw.once x hx id hid
      refine ⟨hlt, ?_⟩
      change ({Holding.card a d.contents} + w.held).count x = 1
      rw [Multiset.count_add, Multiset.count_singleton, if_neg hne, hone]

theorem swaps_putCard (r : ℕ × SndDevDefCard) :
    clientLedger.Swaps {.card r.1 r.2} (clientPutCard r) (fun _ => True) fun _ => 0 := by
  intro w F hw hheld
  have hheld : w.held = {.card r.1 r.2} + F := hheld
  have hmem : .card r.1 r.2 ∈ w.held :=
    hheld ▸ Multiset.mem_add.mpr (.inl (Multiset.mem_singleton_self _))
  obtain ⟨⟨cards, init, lock⟩, held, next⟩ := w
  obtain rfl : lock = {} := hw.free
  unfold clientPutCard onCache giveHolding
  have hrun : sndCardDefPutCard (some r.1) ⟨cards, init, {}⟩ =
      .ok ((), ⟨sndPutLoop r.1 cards, init, {}⟩) := rfl
  rw [ensures_bind, ensures_zoom, ensures_iff_of_ok hrun, ensures_bind, ensures_gets, if_pos hmem,
    ensures_modify]
  refine ⟨trivial, ⟨rfl, fun hi => ?_, hw.references.put hmem, fun x hx id hid => ?_⟩, ?_⟩
  · change sndPutLoop r.1 cards = []
    rw [show cards = [] from hw.initialised hi]
    rfl
  · have hne : x ≠ .card r.1 r.2 := by
      rintro rfl
      cases hid
    obtain ⟨hlt, hone⟩ := hw.once x (Multiset.mem_of_mem_erase hx) id hid
    exact ⟨hlt, (Multiset.count_erase_of_ne hne _).trans hone⟩
  · change held.erase (.card r.1 r.2) = 0 + F
    rw [show held = {.card r.1 r.2} + F from hheld, Multiset.singleton_add,
      Multiset.erase_cons_head, zero_add]

end specs

end Agm
