import Agm.SndCards

/-! # The lock of the card parser

The seven functions of `snd-card-parser.c` take `snd_rwlock` for reading or for writing and are to
release it on every path.  `card_locks_iff`: they do, along a run, if and only if
`snd_card_def_get_nodes_for_type` is never asked for more nodes than there are. -/

namespace Agm

open Prog

/-- The calls of the card parser. -/
inductive SndCall where
  | getCard (card : ℕ) (e : CardEnv)
  | putCard (defs : Option ℕ)
  | getNode (cardNode : Option ℕ) (id type : ℕ)
  | getNumNode (cardNode : Option ℕ) (type : ℕ)
  | getNodesForType (cardNode : Option ℕ) (type : ℕ) (numNodes : ℤ)
  | getInt (node : Option DevPtr) (prop : CStr)
  | getStr (node : Option DevPtr) (prop : CStr)
deriving DecidableEq, Repr

/-- Run a call and forget what it returns. -/
def SndCall.run : SndCall → SndM Unit
  | getCard card e => do let _ ← sndCardDefGetCard card e
  | putCard defs => sndCardDefPutCard defs
  | getNode cardNode id type => do let _ ← sndCardDefGetNode cardNode id type
  | getNumNode cardNode type => do let _ ← sndCardDefGetNumNode cardNode type
  | getNodesForType cardNode type numNodes => do
      let _ ← sndCardDefGetNodesForType cardNode type numNodes
  | getInt node prop => do let _ ← sndCardDefGetInt node prop
  | getStr node prop => do let _ ← sndCardDefGetStr node prop

/-- `snd_rwlock` has neither a reader nor a writer. -/
def SndState.Free (g : SndState) : Prop := g.sndRwlock = {}

instance : DecidablePred SndState.Free := fun _ => inferInstanceAs (Decidable (_ = _))

/-- The fault has nothing to do with the lock. -/
def SndFault.NotLock (f : SndFault) : Prop := f ≠ .blocked ∧ f ≠ .unlockFree

instance : DecidablePred SndFault.NotLock := fun _ => inferInstanceAs (Decidable (_ ∧ _))

/-- The call does not wait for the lock, and leaves it free when it returns. -/
def SndCall.LeavesFree (g : SndState) (c : SndCall) : Prop :=
  Ensures SndFault.NotLock c.run g fun _ g' => g'.Free

instance (g : SndState) (c : SndCall) : Decidable (c.LeavesFree g) :=
  inferInstanceAs (Decidable (Ensures _ _ _ _))

/-- `snd_card_def_get_nodes_for_type` is asked for more nodes of a type than the card has. -/
def SndCall.AsksTooMany (g : SndState) : SndCall → Prop
  | getNodesForType (some a) type numNodes =>
      type < SND_NODE_TYPE_MAX ∧ ∃ c ∈ g.sndCardList.lookup a,
        ((c.devs (sndDevsList type)).length : ℤ) < numNodes
  | _ => False

instance (g : SndState) : DecidablePred (SndCall.AsksTooMany g)
  | .getNodesForType (some a) type _ =>
      inferInstanceAs (Decidable (type < SND_NODE_TYPE_MAX ∧ ∃ c ∈ g.sndCardList.lookup a, _))
  | .getNodesForType none _ _ => .isFalse id
  | .getCard _ _ => .isFalse id
  | .putCard _ => .isFalse id
  | .getNode _ _ _ => .isFalse id
  | .getNumNode _ _ => .isFalse id
  | .getInt _ _ => .isFalse id
  | .getStr _ _ => .isFalse id

/-! ### Taking and releasing the lock -/

section primitives
variable {E : SndFault → Prop} {cards : List (ℕ × SndDevDefCard)} {init : Bool}

theorem ensures_wrlock (Q : Unit → SndState → Prop) :
    Ensures E wrlock ⟨cards, init, {}⟩ Q ↔ Q () ⟨cards, init, ⟨0, true⟩⟩ := Iff.rfl

theorem ensures_rdlock (Q : Unit → SndState → Prop) :
    Ensures E rdlock ⟨cards, init, {}⟩ Q ↔ Q () ⟨cards, init, ⟨1, false⟩⟩ := Iff.rfl

end primitives

/-! ### The functions -/

section
variable {cards : List (ℕ × SndDevDefCard)} {init : Bool} {g : SndState}

theorem sndReadProcId_ensures (card : ℕ) (e : CardEnv) :
    Ensures SndFault.NotLock (sndReadProcId card e) g fun _ g' => g' = g := by
  unfold sndReadProcId
  cases e.procId with
  | missing => rfl
  | unreadable => rfl
  | unopenable =>
      dsimp only
      rw [ensures_ite]
      exact ⟨fun _ => ⟨nofun, nofun⟩, fun _ => rfl⟩
  | line s =>
      dsimp only
      rw [ensures_ite, ensures_ite]
      exact ⟨fun _ => rfl, fun _ => ⟨fun _ => ⟨nofun, nofun⟩, fun _ => rfl⟩⟩

theorem sndCardMatches_ensures (req : CardRequest) (c : SndDevDefCard) :
    Ensures SndFault.NotLock (sndCardMatches req c) g fun _ g' => g' = g := by
  unfold sndCardMatches
  cases req.name with
  | none => rfl
  | some n =>
      cases c.name with
      | none => exact ⟨nofun, nofun⟩
      | some name => rfl

theorem sndFindCard_ensures (req : CardRequest) (nodes : List (ℕ × SndDevDefCard)) :
    Ensures SndFault.NotLock (sndFindCard req nodes) g fun _ g' => g' = g := by
  induction nodes with
  | nil => rfl
  | cons node nodes ih =>
      unfold sndFindCard
      rw [ensures_bind]
      refine (sndCardMatches_ensures req node.2).imp ?_
      rintro found _ rfl
      rw [ensures_ite]
      exact ⟨fun _ => rfl, fun _ => ih⟩

theorem sndReadCard_ensures (req : CardRequest) (e : CardEnv) :
    Ensures SndFault.NotLock (sndReadCard req e) ⟨cards, init, ⟨0, true⟩⟩ fun _ g' => g'.Free := by
  unfold sndReadCard
  rw [ensures_bind, ensures_gets]
  cases sndParseCard req e.events e.mem with
  | error f => exact ⟨nofun, nofun⟩
  | ok cardDef =>
      dsimp only
      rw [ensures_ite]
      refine ⟨fun _ => rfl, fun _ => ?_⟩
      cases cardDef with
      | none => rfl
      | some cardDef => rfl

theorem sndCardDefGetCard_ensures (card : ℕ) (e : CardEnv) :
    Ensures SndFault.NotLock (sndCardDefGetCard card e) ⟨cards, init, {}⟩ fun _ g' => g'.Free := by
  unfold sndCardDefGetCard
  rw [ensures_bind]
  refine (sndReadProcId_ensures card e).imp ?_
  rintro req _ rfl
  cases req with
  | none => rfl
  | some req =>
      dsimp only
      rw [ensures_bind, ensures_wrlock, ensures_bind, ensures_modify]
      rw [SndState.initList_mk, ensures_bind, ensures_gets, ensures_bind]
      refine (sndFindCard_ensures req _).imp ?_
      rintro hit _ rfl
      cases hit with
      | some node =>
          dsimp only
          rw [ensures_ite]
          exact ⟨fun _ => ⟨nofun, nofun⟩, fun _ => rfl⟩
      | none =>
          dsimp only
          rw [ensures_ite, ensures_ite]
          exact ⟨fun _ => rfl, fun _ => ⟨fun _ => rfl, fun _ => sndReadCard_ensures req e⟩⟩

theorem sndCardDefPutCard_ensures (defs : Option ℕ) :
    Ensures SndFault.NotLock (sndCardDefPutCard defs) ⟨cards, init, {}⟩ fun _ g' => g'.Free := by
  cases defs with
  | none => rfl
  | some a => rfl

theorem derefCard_ensures (a : ℕ) :
    Ensures SndFault.NotLock (derefCard a) g fun c g' =>
      g.sndCardList.lookup a = some c ∧ g' = g := by
  unfold derefCard
  rw [ensures_bind, ensures_gets]
  cases g.sndCardList.lookup a with
  | none => exact ⟨nofun, nofun⟩
  | some c => exact ⟨rfl, rfl⟩

theorem derefDev_ensures (p : DevPtr) :
    Ensures SndFault.NotLock (derefDev p) g fun _ g' => g' = g := by
  unfold derefDev
  rw [ensures_bind]
  refine (derefCard_ensures p.card).imp ?_
  rintro c _ ⟨-, rfl⟩
  cases (c.devs p.nodeType)[p.index]? with
  | none => exact ⟨nofun, nofun⟩
  | some dev => rfl

theorem sndCardDefGetNode_ensures (cardNode : Option ℕ) (id type : ℕ) :
    Ensures SndFault.NotLock (sndCardDefGetNode cardNode id type) ⟨cards, init, {}⟩
      fun _ g' => g'.Free := by
  unfold sndCardDefGetNode
  cases cardNode with
  | none => rfl
  | some a =>
      dsimp only
      rw [ensures_ite]
      refine ⟨fun _ => rfl, fun _ => ?_⟩
      rw [ensures_bind, ensures_rdlock, ensures_bind]
      refine (derefCard_ensures a).imp ?_
      rintro c _ ⟨-, rfl⟩
      cases (c.devs (sndDevsList type)).findIdx? fun dev => decide (dev.device = id) with
      | none => rfl
      | some i => rfl

theorem sndCardDefGetNumNode_ensures (cardNode : Option ℕ) (type : ℕ) :
    Ensures SndFault.NotLock (sndCardDefGetNumNode cardNode type) ⟨cards, init, {}⟩
      fun _ g' => g'.Free := by
  unfold sndCardDefGetNumNode
  cases cardNode with
  | none => rfl
  | some a =>
      dsimp only
      rw [ensures_ite]
      refine ⟨fun _ => rfl, fun _ => ?_⟩
      rw [ensures_bind, ensures_rdlock, ensures_bind]
      refine (derefCard_ensures a).imp ?_
      rintro c _ ⟨-, rfl⟩
      rfl

/-- The two functions that read a property release the lock on every path. -/
theorem ensures_property {α : Type} {p : DevPtr} {f : SndDevDef → SndM α}
    (hf : ∀ dev, Ensures SndFault.NotLock (f dev) ⟨cards, init, ⟨1, false⟩⟩ fun _ g' => g'.Free) :
    Ensures SndFault.NotLock (do rdlock; let dev ← derefDev p; f dev) ⟨cards, init, {}⟩
      fun _ g' => g'.Free := by
  rw [ensures_bind, ensures_rdlock, ensures_bind]
  refine (derefDev_ensures p).imp ?_
  rintro dev _ rfl
  exact hf dev

theorem sndCardDefGetInt_ensures (node : Option DevPtr) (prop : CStr) :
    Ensures SndFault.NotLock (sndCardDefGetInt node prop) ⟨cards, init, {}⟩
      fun _ g' => g'.Free := by
  cases node with
  | none => rfl
  | some p =>
      refine ensures_property fun dev => ?_
      rw [ensures_ite, ensures_ite]
      refine ⟨fun _ => rfl, fun _ => ⟨fun _ => rfl, fun _ => ?_⟩⟩
      cases dev.propValList.find? fun pv => decide (pv.prop = prop) with
      | none => rfl
      | some pv => rfl

theorem sndCardDefGetStr_ensures (node : Option DevPtr) (prop : CStr) :
    Ensures SndFault.NotLock (sndCardDefGetStr node prop) ⟨cards, init, {}⟩
      fun _ g' => g'.Free := by
  cases node with
  | none => rfl
  | some p =>
      refine ensures_property fun dev => ?_
      rw [ensures_ite, ensures_ite]
      refine ⟨fun _ => rfl, fun _ => ⟨fun _ => rfl, fun _ => ?_⟩⟩
      cases dev.propValList.find? fun pv => decide (pv.prop = prop) with
      | none => rfl
      | some pv => rfl

/-- The error for too many nodes is the one path on which the lock stays taken. -/
theorem sndCardDefGetNodesForType_free_iff (cardNode : Option ℕ) (type : ℕ) (numNodes : ℤ) :
    Ensures SndFault.NotLock (sndCardDefGetNodesForType cardNode type numNodes)
        ⟨cards, init, {}⟩ (fun _ g' => g'.Free) ↔
      ¬ (SndCall.getNodesForType cardNode type numNodes).AsksTooMany ⟨cards, init, {}⟩ := by
  unfold sndCardDefGetNodesForType
  cases cardNode with
  | none => exact ⟨fun _ => id, fun _ => rfl⟩
  | some a =>
      unfold SndCall.AsksTooMany
      dsimp only
      rw [ensures_ite, ensures_bind, ensures_rdlock, derefCard]
      by_cases ht : SND_NODE_TYPE_MAX ≤ type
      · exact ⟨fun _ h => absurd h.1 (not_lt.mpr ht), fun _ => ⟨fun _ => rfl, fun h => absurd ht h⟩⟩
      rw [ensures_bind, ensures_bind, ensures_gets]
      cases cards.lookup a with
      | none =>
          exact ⟨fun _ h => (by simp at h), fun _ => ⟨fun h => absurd h ht, fun _ => ⟨nofun, nofun⟩⟩⟩
      | some c =>
          simp only [ensures_pure, ensures_ite]
          constructor
          · rintro ⟨-, h⟩ ⟨-, c', hc', hmany⟩
            obtain rfl : c = c' := Option.some.inj hc'
            have hlock : (⟨1, false⟩ : RwLock) = {} := (h ht).1 hmany
            exact absurd hlock (by decide)
          · intro h
            refine ⟨fun h => absurd h ht, fun _ => ⟨fun hmany => ?_, fun _ => rfl⟩⟩
            exact absurd ⟨not_le.mp ht, c, rfl, hmany⟩ h

end

/-! ### Runs -/

theorem SndCall.leavesFree_iff {g : SndState} (hg : g.Free) (c : SndCall) :
    c.LeavesFree g ↔ ¬ c.AsksTooMany g := by
  obtain ⟨cards, init, lock⟩ := g
  obtain rfl : lock = {} := hg
  have hforget : ∀ {α : Type} (m : SndM α),
      Ensures SndFault.NotLock (do let _ ← m) ⟨cards, init, {}⟩ (fun _ g' => g'.Free) ↔
        Ensures SndFault.NotLock m ⟨cards, init, {}⟩ fun _ g' => g'.Free :=
    fun m => ensures_bind m _ _
  unfold LeavesFree run
  cases c with
  | getCard card e => exact ⟨fun _ => id, fun _ => (hforget _).mpr (sndCardDefGetCard_ensures card e)⟩
  | putCard defs => exact ⟨fun _ => id, fun _ => sndCardDefPutCard_ensures defs⟩
  | getNode p id' type =>
      exact ⟨fun _ => id, fun _ => (hforget _).mpr (sndCardDefGetNode_ensures p id' type)⟩
  | getNumNode p type =>
      exact ⟨fun _ => id, fun _ => (hforget _).mpr (sndCardDefGetNumNode_ensures p type)⟩
  | getNodesForType p type n =>
      exact (hforget _).trans (sndCardDefGetNodesForType_free_iff p type n)
  | getInt node prop =>
      exact ⟨fun _ => id, fun _ => (hforget _).mpr (sndCardDefGetInt_ensures node prop)⟩
  | getStr node prop =>
      exact ⟨fun _ => id, fun _ => (hforget _).mpr (sndCardDefGetStr_ensures node prop)⟩

/-- Along every run from a state in which `snd_rwlock` is free, no call waits for it and every call
that returns leaves it free, if and only if `snd_card_def_get_nodes_for_type` is never asked for more
nodes than the card has. -/
theorem card_locks_iff {g : SndState} (hg : g.Free) (calls : List SndCall) :
    Admits SndCall.run (fun g c => c.LeavesFree g) calls g ↔
      Admits SndCall.run (fun g c => ¬ c.AsksTooMany g) calls g := by
  apply admits_congr SndCall.run (I := SndState.Free) (fun g c hg => c.leavesFree_iff hg) _ calls g hg
  intro g c _ hc
  exact hc.mono (fun _ _ => trivial) fun _ _ h => h

/-- The only pcm device of the card is found, and one more is asked for at another type. -/
theorem card_locks_iff_oneDevice :
    Admits SndCall.run (fun g c => c.LeavesFree g)
      [.getCard 100 { events := xmlCard "100".toList "snd".toList "7".toList },
        .getNodesForType (some 0) SND_NODE_TYPE_PCM 1, .getNode (some 0) 7 SND_NODE_TYPE_PCM,
        .getInt (some ⟨0, .pcm, 0⟩) "id".toList, .getNodesForType none 1 3, .putCard (some 0)] {} :=
  (card_locks_iff (g := {}) rfl _).mpr (by decide +kernel)

/-- After a call that asks for two pcm devices of a card with one, the card cannot be put back. -/
theorem card_locks_iff_tooMany :
    ¬ Admits SndCall.run (fun g c => c.LeavesFree g)
      [.getCard 100 { events := xmlCard "100".toList "snd".toList "7".toList },
        .getNodesForType (some 0) SND_NODE_TYPE_PCM 2] {} := by
  decide +kernel

end Agm
