import Agm.GraphOpen
import Agm.Lib.Moves
import Agm.Refine

/-! # Histories of the graph layer

The functions of `graph.c` are called in any order on any graphs, each with whatever the sessions
and devices are at the time and with whatever GSL answers (`GraphCall`).  All graphs copy their
modules from the same static arrays, into which the calls write.

`moduleLists_history`: nothing of that shows in the list of a new graph, which is made of one entry
for each supported tag unless an entry was dropped for lack of memory; and no key vector is shared
unless a `graph_change` gave up after it had entered the copied module. -/

namespace Agm

open Prog

/-! ### Calls -/

inductive GraphOp where
  | graphOpen (md : MetaData) (s : ℕ) (dev : Option ℕ)
  | graphClose (g : ℕ)
  | graphPrepare (g : ℕ)
  | graphStart (g : ℕ)
  | graphStop (g : ℕ) (md : Option MetaData)
  | graphAdd (g : ℕ) (md : MetaData) (dev : Option ℕ)
  | graphChange (g : ℕ) (md : MetaData) (dev : Option ℕ)
  | graphRemove (g : ℕ) (md : MetaData)

def GraphOp.run : GraphOp → AgmM ℤ
  | .graphOpen md s dev => Agm.graphOpen md s dev
  | .graphClose g => Agm.graphClose (some g)
  | .graphPrepare g => Agm.graphPrepare (some g)
  | .graphStart g => Agm.graphStart (some g)
  | .graphStop g md => Agm.graphStop (some g) md
  | .graphAdd g md dev => Agm.graphAdd (some g) md dev
  | .graphChange g md dev => Agm.graphChange (some g) md dev
  | .graphRemove g md => Agm.graphRemove (some g) md

/-- A call with what it finds: the sessions and devices, and the answers to come. -/
structure GraphCall where
  op : GraphOp
  view : View
  ext : List Answer

/-- The world in which a call is made. -/
def GraphCall.before (c : GraphCall) (w : World) : World :=
  { w with sess := c.view.sess, dev := c.view.dev, ext := c.ext }

def GraphCall.run (c : GraphCall) : AgmM ℤ := do
  Prog.modify c.before
  c.op.run

/-! ### What the functions move along -/

/-- The primitive steps of the functions on a graph move along the preorder `R`. -/
structure GraphRoutine (R : GraphSt → GraphSt → Prop) : Prop where
  preorder : IsPreorder GraphSt R
  ask : ∀ handle cmd, Moves R (GraphM.ofMem (gsl handle cmd))
  alloc : Moves R (GraphM.ofMem (MemM.call calloc))
  latch : ∀ k b, Moves R (setConfigured k b)
  record : ∀ f : GraphObj → GraphObj, (∀ obj, (f obj).taggedModList = obj.taggedModList) →
    Moves R (GraphM.modifyObj f)

section routine
variable {R : GraphSt → GraphSt → Prop} (hR : GraphRoutine R)
include hR

theorem ioctl_moves (cmd : GslCmd) : Moves R (ioctl cmd) := by
  have := hR.preorder
  apply moves_bind (moves_gets _)
  intro g
  exact hR.ask _ _

theorem configureSpr_moves (spr : ModuleInfo) : Moves R (configureSpr spr) := by
  have := hR.preorder
  apply moves_bind
  · exact hR.record _ fun _ => rfl
  intro _
  apply moves_bind hR.alloc
  intro block
  apply moves_ite (moves_pure _)
  apply moves_bind (moves_gets _)
  intro g
  refine moves_forAll (fun mod ret => ?_) g.taggedModList 0
  apply moves_ite
  · exact moves_bind (ioctl_moves hR _) fun _ => moves_pure _
  · exact moves_pure ret

theorem sendParam_moves (mod : ModuleInfo) (param : ModuleParam) : Moves R (sendParam mod param) := by
  have := hR.preorder
  exact moves_bind (ioctl_moves hR _) fun _ => moves_pure _

theorem sendOutputFormat_moves (mod : ModuleInfo) (sess : SessionObj) :
    Moves R (sendOutputFormat mod sess) := by
  have := hR.preorder
  apply moves_bind hR.alloc
  intro payload
  apply moves_ite (moves_pure _)
  cases outputFormat sess with
  | none => exact moves_pure _
  | some fmt => exact sendParam_moves hR mod _

theorem sendMediaFormat_moves (mod : ModuleInfo) (sess : SessionObj) :
    Moves R (sendMediaFormat mod sess) := by
  have := hR.preorder
  apply moves_ite
  · apply moves_bind hR.alloc
    intro payload
    exact moves_ite (moves_pure _) (sendParam_moves hR mod _)
  · unfold sendCodecFormat
    cases sharedFmt sess.mediaConfig.format with
    | none => exact moves_pure _
    | some fmt =>
        apply moves_bind hR.alloc
        intro payload
        exact moves_ite (moves_fault _) (sendParam_moves hR mod _)

theorem sendRealId_moves (mod : ModuleInfo) (sess : SessionObj) : Moves R (sendRealId mod sess) := by
  have := hR.preorder
  unfold sendRealId
  cases realFmtId sess.mediaConfig.format with
  | none => exact moves_pure _
  | some id =>
      apply moves_bind hR.alloc
      intro kvp
      apply moves_ite (moves_fault _)
      apply moves_bind (sendParam_moves hR mod _)
      intro ret
      exact moves_ite (moves_pure _) (sendOutputFormat_moves hR mod sess)

theorem configureModule_moves (v : View) (mod : ModuleInfo) (conf : Configure) :
    Moves R (configureModule v mod conf) := by
  have := hR.preorder
  apply moves_bind (moves_gets _)
  intro g
  cases conf with
  | outputMediaFormat => exact sendOutputFormat_moves hR mod _
  | placeholderDec => exact sendRealId_moves hR mod _
  | sharedMemEp => exact sendMediaFormat_moves hR mod _
  | spr => exact configureSpr_moves hR mod
  | hwEp => exact sendParam_moves hR mod _

theorem configureBufferParams_moves (sess : SessionObj) : Moves R (configureBufferParams sess) := by
  have := hR.preorder
  apply moves_bind (moves_gets _)
  intro g
  apply moves_ite (moves_pure 0)
  apply moves_bind (ioctl_moves hR _)
  intro a
  apply moves_ite (moves_pure _)
  exact moves_bind (hR.record _ fun _ => rfl) fun _ => moves_pure 0

/-- The end of every configuration step. -/
theorem latched_moves (v : View) (mod : ModuleInfo) (conf : Configure) (k : ℕ) :
    Moves R (do
      let ret ← configureModule v mod conf
      if ret ≠ 0 then pure ret
      else do
        setConfigured k true
        pure 0) := by
  have := hR.preorder
  apply moves_bind (configureModule_moves hR v mod conf)
  intro ret
  apply moves_ite (moves_pure ret)
  exact moves_bind (hR.latch k true) fun _ => moves_pure 0

theorem prepareModule_moves (v : View) (stream : SessionConfig) (k : ℕ) :
    Moves R (prepareModule v stream k) := by
  have := hR.preorder
  apply moves_bind (moves_gets _)
  intro g
  apply moves_ite (moves_pure 0)
  apply moves_ite (moves_pure _)
  apply moves_ite (moves_pure _)
  cases (g.taggedModList.getD k noModule).configure with
  | none => exact moves_pure 0
  | some conf =>
      apply moves_ite
      · exact moves_bind (hR.latch k true) fun _ => moves_pure 0
      · exact latched_moves hR v _ conf k

theorem graphPrepareBody_moves (v : View) : Moves R (graphPrepareBody v) := by
  have := hR.preorder
  apply moves_bind (moves_gets _)
  intro g
  cases g.sessObj with
  | none => exact moves_pure _
  | some s =>
      apply moves_ite (moves_pure 0)
      apply moves_bind (moves_forEach (prepareModule_moves hR v _) _)
      intro ret
      apply moves_ite (moves_pure ret)
      apply moves_bind (moves_ite (moves_pure 0) (configureBufferParams_moves hR _))
      intro ret
      apply moves_ite (moves_pure ret)
      apply moves_bind (ioctl_moves hR _)
      intro a
      apply moves_ite (moves_pure _)
      exact moves_bind (hR.record _ fun _ => rfl) fun _ => moves_pure 0

theorem graphStartBody_moves : Moves R graphStartBody := by
  have := hR.preorder
  apply moves_bind (ioctl_moves hR _)
  intro a
  apply moves_ite (moves_pure _)
  exact moves_bind (hR.record _ fun _ => rfl) fun _ => moves_pure 0

theorem graphStopBody_moves (md : Option MetaData) : Moves R (graphStopBody md) := by
  have := hR.preorder
  apply moves_bind (moves_gets _)
  intro g
  apply moves_ite (moves_pure 0)
  apply moves_ite (moves_pure _)
  cases md with
  | some md => exact moves_bind (ioctl_moves hR _) fun _ => moves_pure _
  | none =>
      apply moves_bind (ioctl_moves hR _)
      intro a
      exact moves_bind (hR.record _ fun _ => rfl) fun _ => moves_pure _

theorem graphRemoveBody_moves (md : MetaData) : Moves R (graphRemoveBody md) := by
  have := hR.preorder
  exact moves_bind (ioctl_moves hR _) fun _ => moves_pure _

theorem addConfigureModule_moves (v : View) (k : ℕ) : Moves R (addConfigureModule v k) := by
  have := hR.preorder
  apply moves_bind (moves_gets _)
  intro g
  apply moves_ite (moves_pure 0)
  apply moves_ite (moves_bind (hR.latch k true) fun _ => moves_pure 0)
  cases (g.taggedModList.getD k noModule).configure with
  | none => exact moves_pure 0
  | some conf => exact latched_moves hR v _ conf k

theorem changeConfigureModule_moves (v : View) (k : ℕ) : Moves R (changeConfigureModule v k) := by
  have := hR.preorder
  apply moves_bind (moves_gets _)
  intro g
  dsimp only
  split
  · exact moves_ite (latched_moves hR v _ _ k) (moves_pure 0)
  · exact moves_pure 0

/-- `graph_add` moves along what entering the endpoint moves along. -/
theorem graphAddBody_moves (v : View) (md : MetaData) (dev : Option ℕ)
    (hadd : ∀ d, Moves R (addEndpoint v md d)) : Moves R (graphAddBody v md dev) := by
  have := hR.preorder
  apply moves_bind (moves_gets _)
  intro g
  apply moves_ite (moves_pure _)
  apply moves_bind (ioctl_moves hR _)
  intro a
  apply moves_ite (moves_pure _)
  apply moves_bind
  · cases dev with
    | none => exact moves_pure 0
    | some d => exact hadd d
  intro ret
  apply moves_ite (moves_pure ret)
  apply moves_bind (moves_gets _)
  intro g
  exact moves_ite (moves_forEach (addConfigureModule_moves hR v) _) (moves_pure 0)

/-- `graph_change` gets where replacing the endpoints gets. -/
theorem graphChangeBody_reaches (v : View) (md : MetaData) (dev : Option ℕ) (t : GraphSt)
    (hchange : ∀ d, dev = some d → Ensures anyFault (changeEndpoint v md d) t fun _ t' => R t t') :
    Ensures anyFault (graphChangeBody v md dev) t fun _ t' => R t t' := by
  have := hR.preorder
  unfold graphChangeBody
  rw [ensures_bind]
  refine Ensures.imp (?_ : Ensures anyFault _ t fun _ t' => R t t') fun ret t₁ h₁ => ?_
  · cases dev with
    | none => exact moves_pure 0 t
    | some d => exact hchange d rfl
  rw [ensures_ite]
  refine ⟨fun _ => h₁, fun _ => ?_⟩
  refine Moves.after ?_ h₁
  apply moves_bind (ioctl_moves hR _)
  intro a
  apply moves_ite (moves_pure _)
  apply moves_bind (moves_gets _)
  intro g
  exact moves_forEach (changeConfigureModule_moves hR v) _

end routine

theorem ensures_ofMem {α : Type} {E : Crash → Prop} {t : GraphSt} (m : MemM α)
    (Q : α → GraphSt → Prop) :
    Ensures E (GraphM.ofMem m) t Q ↔
      Ensures E m ⟨t.mem, t.ext⟩ fun a u => Q a { t with mem := u.mem, ext := u.ext } := by
  unfold GraphM.ofMem
  rw [ensures_zoom]
  exact Iff.rfl

/-! ### The static arrays -/

/-- What the arrays keep is kept. -/
def KeepsTemplates (t t' : GraphSt) : Prop := Templates t.mem → Templates t'.mem

instance : IsPreorder GraphSt KeepsTemplates where
  refl _ := id
  trans _ _ _ h h' := h' ∘ h

theorem keepsTemplates_routine : GraphRoutine KeepsTemplates where
  preorder := inferInstance
  ask _ _ _ ht := ht.congr rfl rfl
  alloc _ := (ensures_ofMem _ _).mpr ((ensures_memCalloc _).mpr id)
  latch _ _ _ := id
  record _ _ _ := id

/-- Copying a key vector writes no array. -/
theorem copyGkv_keepsTemplates (gkv : KeyVector) :
    Moves KeepsTemplates (GraphM.ofMem (copyGkv gkv)) := by
  intro _
  rw [ensures_ofMem, ensures_copyGkv]
  exact ⟨fun _ => id, fun _ _ => id, fun _ _ ht => ht.congr rfl rfl⟩

/-- A module that differs from an endpoint in ids and key vector takes its place. -/
theorem setEndpoint_keepsTemplates (k : ℕ) {m : ModuleInfo}
    (hm : m.reset = hwEpModule.getD k noModule) :
    Moves KeepsTemplates (GraphM.ofMem (MemM.modifyMem fun mem =>
      { mem with hwEpModule := mem.hwEpModule.set k m })) :=
  fun _ ht => ht.set_endpoint k (hm.trans (ht.endpoint_getD k).symm)

theorem addModule_keepsTemplates (mod : ModuleInfo) (dev : Option ℕ) (mods : List ModuleInfo) :
    Moves KeepsTemplates (GraphM.ofMem (addModule mod dev mods)) := by
  intro _
  rw [ensures_ofMem, ensures_addModule]
  exact id

theorem addEndpoint_keepsTemplates (v : View) (md : MetaData) (d : ℕ) :
    Moves KeepsTemplates (addEndpoint v md d) := by
  intro t
  have hR := keepsTemplates_routine
  by_cases ht : Templates t.mem
  swap
  · exact ensures_of_forall (fun _ => trivial) fun _ _ h => absurd h ht
  unfold addEndpoint
  rw [ensures_bind, ensures_gets]
  have hreset := ht.endpoint_getD (endpointIndex v d)
  refine (moves_bind (hR.ask _ _) fun info => ?_ : Moves KeepsTemplates _) t
  apply moves_ite (moves_pure _)
  apply moves_bind
  · exact setEndpoint_keepsTemplates _ hreset
  intro _
  apply moves_bind (moves_gets _)
  intro g
  dsimp only
  cases g.taggedModList.findIdx? _ with
  | some k => exact moves_bind (hR.latch k false) fun _ => moves_pure 0
  | none =>
      apply moves_bind (copyGkv_keepsTemplates _)
      intro gkv
      cases gkv with
      | none => exact moves_pure _
      | some copy =>
          apply moves_bind
          · exact setEndpoint_keepsTemplates _ hreset
          intro _
          apply moves_bind (addModule_keepsTemplates _ _ _)
          intro mods
          exact moves_bind (fun _ => id) fun _ => moves_pure 0

theorem changeEndpoint_keepsTemplates (v : View) (md : MetaData) (d : ℕ) :
    Moves KeepsTemplates (changeEndpoint v md d) := by
  have hR := keepsTemplates_routine
  apply moves_bind (moves_gets _)
  intro mem
  apply moves_bind (hR.ask _ _)
  intro info
  apply moves_ite (moves_pure _)
  apply moves_bind (moves_gets _)
  intro g
  dsimp only
  cases g.taggedModList.findIdx? _ with
  | some k => exact moves_bind (hR.latch k false) fun _ => moves_pure 0
  | none =>
      apply moves_bind (fun _ => id)
      intro _
      apply moves_bind hR.alloc
      intro block
      apply moves_ite (moves_pure _)
      apply moves_bind (fun _ => id)
      intro _
      apply moves_bind (copyGkv_keepsTemplates _)
      intro gkv
      cases gkv with
      | none => exact moves_pure _
      | some copy => exact moves_bind (fun _ => id) fun _ => moves_pure 0

/-! ### Key vectors -/

/-- The modules have key vectors of their own, with numbers below `n`. -/
def OwnGkvs (mods : List ModuleInfo) (n : ℕ) : Prop :=
  (gkvBlocks mods).Nodup ∧ ∀ i ∈ gkvBlocks mods, i < n

/-- A graph keeps its key vectors or gets new ones. -/
structure GkvStep (t t' : GraphSt) : Prop where
  next : t.mem.nextGkv ≤ t'.mem.nextGkv
  own : OwnGkvs t.obj.taggedModList t.mem.nextGkv → OwnGkvs t'.obj.taggedModList t'.mem.nextGkv
  source : ∀ i ∈ gkvBlocks t'.obj.taggedModList,
    i ∈ gkvBlocks t.obj.taggedModList ∨ t.mem.nextGkv ≤ i

section gkv
variable {t t' : GraphSt}

theorem GkvStep.of_sublist (hnext : t.mem.nextGkv ≤ t'.mem.nextGkv)
    (hsub : (gkvBlocks t'.obj.taggedModList).Sublist (gkvBlocks t.obj.taggedModList)) :
    GkvStep t t' where
  next := hnext
  own h := ⟨h.1.sublist hsub, fun i hi => (h.2 i (hsub.subset hi)).trans_le hnext⟩
  source _ hi := .inl (hsub.subset hi)

theorem GkvStep.of_eq (hnext : t.mem.nextGkv ≤ t'.mem.nextGkv)
    (heq : gkvBlocks t'.obj.taggedModList = gkvBlocks t.obj.taggedModList) : GkvStep t t' :=
  .of_sublist hnext (heq ▸ List.Sublist.refl _)

instance : IsPreorder GraphSt GkvStep where
  refl _ := .of_eq le_rfl rfl
  trans _ _ _ h h' :=
    { next := h.next.trans h'.next
      own := h'.own ∘ h.own
      source := fun i hi => (h'.source i hi).elim (h.source i) fun hn => .inr (h.next.trans hn) }

/-- A module with the next key vector is added to some of the modules. -/
theorem GkvStep.push {gkv : KeyVector} {m : ModuleInfo} {mods : List ModuleInfo}
    (hnext : t'.mem.nextGkv = t.mem.nextGkv + 1)
    (hsub : (gkvBlocks mods).Sublist (gkvBlocks t.obj.taggedModList))
    (hmods : t'.obj.taggedModList = mods ++ [m]) (hm : m.gkv = some ⟨t.mem.nextGkv, gkv⟩) :
    GkvStep t t' := by
  have hblocks : gkvBlocks t'.obj.taggedModList = gkvBlocks mods ++ [t.mem.nextGkv] := by
    unfold gkvBlocks
    rw [hmods, List.filterMap_append, List.filterMap_cons, hm]
    rfl
  refine ⟨by omega, fun h => ?_, fun i hi => ?_⟩
  · unfold OwnGkvs
    rw [hblocks]
    constructor
    · refine List.Nodup.append (h.1.sublist hsub) (List.nodup_singleton _) fun i hi hi' => ?_
      rw [List.mem_singleton] at hi'
      have hlt := h.2 i (hsub.subset hi)
      omega
    · intro i hi
      rw [List.mem_append, List.mem_singleton] at hi
      rcases hi with hi | rfl
      · have hlt := h.2 i (hsub.subset hi)
        omega
      · omega
  · rw [hblocks, List.mem_append, List.mem_singleton] at hi
    exact hi.imp (fun hi => hsub.subset hi) fun hi => hi.ge

theorem gkvBlocks_modify (mods : List ModuleInfo) (k : ℕ) (f : ModuleInfo → ModuleInfo)
    (hf : ∀ m, (f m).gkv = m.gkv) : gkvBlocks (mods.modify k f) = gkvBlocks mods := by
  unfold gkvBlocks
  induction mods generalizing k with
  | nil => rw [List.modify_nil]
  | cons m mods ih =>
      cases k with
      | zero => rw [List.modify_zero_cons, List.filterMap_cons, List.filterMap_cons, hf]
      | succ k => rw [List.modify_succ_cons, List.filterMap_cons, List.filterMap_cons, ih]

/-- A module without a key vector is added to some of the modules. -/
theorem GkvStep.keyless {m : ModuleInfo} {mods : List ModuleInfo}
    (hnext : t.mem.nextGkv ≤ t'.mem.nextGkv)
    (hsub : (gkvBlocks mods).Sublist (gkvBlocks t.obj.taggedModList))
    (hmods : t'.obj.taggedModList = mods ++ [m]) (hm : m.gkv = none) : GkvStep t t' := by
  refine .of_sublist hnext ?_
  have hblocks : gkvBlocks t'.obj.taggedModList = gkvBlocks mods := by
    unfold gkvBlocks
    rw [hmods, List.filterMap_append, List.filterMap_cons, hm]
    exact List.append_nil _
  rw [hblocks]
  exact hsub

theorem gkvStep_routine : GraphRoutine GkvStep where
  preorder := inferInstance
  ask _ _ _ := .of_eq le_rfl rfl
  alloc _ := (ensures_ofMem _ _).mpr ((ensures_memCalloc _).mpr (.of_eq le_rfl rfl))
  latch k _ _ := .of_eq le_rfl (gkvBlocks_modify _ k _ fun _ => rfl)
  record _ hf t := .of_eq le_rfl (congrArg gkvBlocks (hf t.obj))

theorem addEndpoint_gkvStep (v : View) (md : MetaData) (d : ℕ) :
    Moves GkvStep (addEndpoint v md d) := by
  intro t
  unfold addEndpoint
  rw [ensures_bind, ensures_gets, ensures_bind, ensures_ofMem, ensures_gsl, ensures_ite]
  refine ⟨fun _ => .of_eq le_rfl rfl, fun _ => ?_⟩
  dsimp only
  rw [ensures_bind, ensures_ofMem, MemM.modifyMem, ensures_modify, ensures_bind, GraphM.obj,
    ensures_gets]
  dsimp only
  cases t.obj.taggedModList.findIdx? _ with
  | some k => exact .of_eq le_rfl (gkvBlocks_modify _ k _ fun _ => rfl)
  | none =>
      dsimp only
      rw [ensures_bind, ensures_ofMem, ensures_copyGkv]
      refine ⟨fun _ => .of_eq le_rfl rfl, fun _ _ => .of_eq le_rfl rfl, fun _ _ => ?_⟩
      rw [ensures_bind, ensures_ofMem, MemM.modifyMem, ensures_modify, ensures_bind, ensures_ofMem,
        ensures_addModule]
      unfold appended
      split
      · exact GkvStep.of_eq (Nat.le_succ _) rfl
      · exact GkvStep.push rfl (List.Sublist.refl _) rfl rfl

/-- `graph_change` gives up after it has entered a module with the key vector of the static
entry. -/
def LeavesTemplateGkv (v : View) (d : ℕ) (t : GraphSt) : Prop :=
  ¬ nextFails t.ext ∧ (∀ m ∈ t.obj.taggedModList, m.miid ≠ (t.ext.headD {}).moduleIid) ∧
    ¬ nextFails (t.ext.drop 1) ∧ (nextFails (t.ext.drop 2) ∨ nextFails (t.ext.drop 3)) ∧
    (t.mem.hwEpModule.getD (endpointIndex v d) noModule).gkv ≠ none

theorem changeEndpoint_gkvStep (v : View) (md : MetaData) (d : ℕ)
    (h : ¬ LeavesTemplateGkv v d t) :
    Ensures anyFault (changeEndpoint v md d) t fun _ t' => GkvStep t t' := by
  unfold changeEndpoint
  rw [ensures_bind, ensures_gets, ensures_bind, ensures_ofMem, ensures_gsl, ensures_ite]
  refine ⟨fun _ => .of_eq le_rfl rfl, fun hinfo => ?_⟩
  rw [ensures_bind, GraphM.obj, ensures_gets]
  dsimp only
  cases hfind : t.obj.taggedModList.findIdx? _ with
  | some k => exact .of_eq le_rfl (gkvBlocks_modify _ k _ fun _ => rfl)
  | none =>
      have hkept : ∀ p : ModuleInfo → Bool,
          (gkvBlocks (t.obj.taggedModList.filter p)).Sublist (gkvBlocks t.obj.taggedModList) :=
        fun p => List.Sublist.filterMap _ List.filter_sublist
      dsimp only
      rw [ensures_bind, GraphM.modifyObj, ensures_modify, ensures_bind, ensures_ofMem,
        ensures_memCalloc, ensures_ite, refused_iff]
      refine ⟨fun _ => .of_sublist le_rfl (hkept _), fun hblock => ?_⟩
      have hfresh : ∀ m ∈ t.obj.taggedModList, m.miid ≠ (t.ext.headD {}).moduleIid := by
        intro m hm
        simpa using List.findIdx?_eq_none_iff.mp hfind m hm
      -- a refused copy is harmless when the static entry has no key vector
      have hnone : nextFails (t.ext.drop 2) ∨ nextFails (t.ext.drop 3) →
          (t.mem.hwEpModule.getD (endpointIndex v d) noModule).gkv = none := by
        intro hgone
        by_contra hne
        exact h ⟨hinfo, hfresh, by rwa [List.drop_one], hgone, hne⟩
      rw [ensures_bind, GraphM.modifyObj, ensures_modify, ensures_bind, ensures_ofMem,
        ensures_copyGkv]
      simp only [← List.drop_one, List.drop_drop, Nat.reduceAdd]
      refine ⟨fun hgone => ?_, fun _ hgone => ?_, fun _ _ => ?_⟩
      · exact GkvStep.keyless le_rfl (hkept _) rfl (hnone (.inl hgone))
      · exact GkvStep.keyless le_rfl (hkept _) rfl (hnone (.inr hgone))
      · exact GkvStep.push rfl (hkept _) rfl rfl

end gkv

/-! ### Steps -/

/-- No two modules of open graphs have the same key vector. -/
structure SoleGkvs (w : World) : Prop where
  within : ∀ g obj, w.heap g = some obj → (gkvBlocks obj.taggedModList).Nodup
  apart : ∀ g g' obj obj', g ≠ g' → w.heap g = some obj → w.heap g' = some obj' →
    ∀ i ∈ gkvBlocks obj.taggedModList, i ∉ gkvBlocks obj'.taggedModList

/-- Moreover their numbers are below the next one. -/
structure GkvInv (w : World) : Prop extends SoleGkvs w where
  below : ∀ g obj, w.heap g = some obj → ∀ i ∈ gkvBlocks obj.taggedModList, i < w.mem.nextGkv

section step
variable {w w' : World} {g : ℕ}

/-- A graph appears or changes, with key vectors that it had or that are new. -/
theorem GkvInv.update (h : GkvInv w) {obj' : GraphObj}
    (hheap : w'.heap = Function.update w.heap g (some obj'))
    (hnext : w.mem.nextGkv ≤ w'.mem.nextGkv) (hown : OwnGkvs obj'.taggedModList w'.mem.nextGkv)
    (hsource : ∀ i ∈ gkvBlocks obj'.taggedModList,
      (∃ obj, w.heap g = some obj ∧ i ∈ gkvBlocks obj.taggedModList) ∨ w.mem.nextGkv ≤ i) :
    GkvInv w' := by
  have hsplit : ∀ {g₁ obj₁}, w'.heap g₁ = some obj₁ →
      g₁ = g ∧ obj₁ = obj' ∨ g₁ ≠ g ∧ w.heap g₁ = some obj₁ := by
    intro g₁ obj₁ h₁
    rw [hheap] at h₁
    by_cases hg : g₁ = g
    · rw [hg, Function.update_self] at h₁
      exact .inl ⟨hg, (Option.some.inj h₁).symm⟩
    · rw [Function.update_of_ne hg] at h₁
      exact .inr ⟨hg, h₁⟩
  have hother : ∀ {g₁ obj₁}, g₁ ≠ g → w.heap g₁ = some obj₁ →
      ∀ i ∈ gkvBlocks obj'.taggedModList, i ∉ gkvBlocks obj₁.taggedModList := by
    intro g₁ obj₁ hg h₁ i hi hi₁
    rcases hsource i hi with ⟨obj, hobj, hold⟩ | hnew
    · exact h.apart g g₁ obj obj₁ (Ne.symm hg) hobj h₁ i hold hi₁
    · exact absurd (h.below g₁ obj₁ h₁ i hi₁) (not_lt.mpr hnew)
  refine ⟨⟨fun g₁ obj₁ h₁ => ?_, fun g₁ g₂ obj₁ obj₂ hne h₁ h₂ i hi₁ hi₂ => ?_⟩,
    fun g₁ obj₁ h₁ i hi => ?_⟩
  · rcases hsplit h₁ with ⟨-, rfl⟩ | ⟨-, h₁⟩
    · exact hown.1
    · exact h.within g₁ obj₁ h₁
  · rcases hsplit h₁ with ⟨rfl, rfl⟩ | ⟨hg₁, h₁⟩
    · rcases hsplit h₂ with ⟨rfl, -⟩ | ⟨hg₂, h₂⟩
      · exact hne rfl
      · exact hother hg₂ h₂ i hi₁ hi₂
    · rcases hsplit h₂ with ⟨rfl, rfl⟩ | ⟨-, h₂⟩
      · exact hother hg₁ h₁ i hi₂ hi₁
      · exact h.apart g₁ g₂ obj₁ obj₂ hne h₁ h₂ i hi₁ hi₂
  · rcases hsplit h₁ with ⟨-, rfl⟩ | ⟨-, h₁⟩
    · exact hown.2 i hi
    · exact (h.below g₁ obj₁ h₁ i hi).trans_le hnext

theorem GkvInv.close (h : GkvInv w) (g : ℕ) :
    GkvInv { w with heap := Function.update w.heap g none } := by
  have hold : ∀ {g₁ obj₁}, Function.update w.heap g none g₁ = some obj₁ →
      w.heap g₁ = some obj₁ := by
    intro g₁ obj₁ h₁
    by_cases hg : g₁ = g
    · rw [hg, Function.update_self] at h₁
      exact nomatch h₁
    · rwa [Function.update_of_ne hg] at h₁
  exact ⟨⟨fun g₁ obj₁ h₁ => h.within g₁ obj₁ (hold h₁),
    fun g₁ g₂ obj₁ obj₂ hne h₁ h₂ => h.apart g₁ g₂ obj₁ obj₂ hne (hold h₁) (hold h₂)⟩,
    fun g₁ obj₁ h₁ => h.below g₁ obj₁ (hold h₁)⟩

/-- A function on a graph, with what it does to the graph layer. -/
theorem onGraph_layer {m : View → GraphM ℤ} {Q : GraphSt → GraphSt → Prop}
    (hm : ∀ obj, w.heap g = some obj →
      Ensures anyFault (m ⟨w.sess, w.dev⟩) ⟨obj, w.mem, w.ext⟩ fun _ t' => Q ⟨obj, w.mem, w.ext⟩ t') :
    Ensures anyFault (onGraph (some g) m) w fun _ w' => ∃ obj t', w.heap g = some obj ∧
      Q ⟨obj, w.mem, w.ext⟩ t' ∧
      w' = { w with heap := Function.update w.heap g (some t'.obj), mem := t'.mem, ext := t'.ext } := by
  rw [onGraph]
  cases hg : w.heap g with
  | none =>
      rw [ensures_onLiveGraph_dead hg]
      exact trivial
  | some obj =>
      apply ensures_onLiveGraph hg
      exact (hm obj hg).mono (fun _ _ => trivial) fun _ t' h => ⟨obj, t', rfl, h, rfl⟩

theorem onGraph_templates {m : View → GraphM ℤ} (hm : ∀ v, Moves KeepsTemplates (m v))
    (ht : Templates w.mem) :
    Ensures anyFault (onGraph (some g) m) w fun _ w' => Templates w'.mem := by
  refine (onGraph_layer (Q := KeepsTemplates) fun obj _ => hm _ _).imp ?_
  rintro _ _ ⟨obj, t', -, h, rfl⟩
  exact h ht

theorem onGraph_gkvInv {m : View → GraphM ℤ} (h : GkvInv w)
    (hm : ∀ obj, w.heap g = some obj → Ensures anyFault (m ⟨w.sess, w.dev⟩)
      ⟨obj, w.mem, w.ext⟩ fun _ t' => GkvStep ⟨obj, w.mem, w.ext⟩ t') :
    Ensures anyFault (onGraph (some g) m) w fun _ w' => GkvInv w' := by
  refine (onGraph_layer (Q := GkvStep) hm).imp ?_
  rintro _ _ ⟨obj, t', hobj, hstep, rfl⟩
  refine h.update rfl hstep.next (hstep.own ⟨h.within g obj hobj, h.below g obj hobj⟩) fun i hi => ?_
  exact (hstep.source i hi).imp (fun hi => ⟨obj, hobj, hi⟩) id

theorem onGraph_gkvStep {m : View → GraphM ℤ} (h : GkvInv w) (hm : ∀ v, Moves GkvStep (m v)) :
    Ensures anyFault (onGraph (some g) m) w fun _ w' => GkvInv w' :=
  onGraph_gkvInv h fun _ _ => hm _ _

theorem graphOpen_templates (md : MetaData) (s : ℕ) (dev : Option ℕ) (ht : Templates w.mem) :
    Ensures anyFault (graphOpen md s dev) w fun _ w' => Templates w'.mem := by
  unfold graphOpen
  rw [ensures_bind, onMem, ensures_zoom]
  refine (graphOpenBody_builtFrom md s dev ⟨w.mem, w.ext⟩ ht).mono (fun _ _ => trivial) ?_
  intro r t' h
  dsimp only
  cases r.2 with
  | none => exact h.templates
  | some obj => exact h.templates

theorem graphOpen_gkvInv (md : MetaData) (s : ℕ) (dev : Option ℕ) (ht : Templates w.mem)
    (hw : GkvInv w) : Ensures anyFault (graphOpen md s dev) w fun _ w' => GkvInv w' := by
  unfold graphOpen
  rw [ensures_bind, onMem, ensures_zoom]
  refine (graphOpenBody_builtFrom md s dev ⟨w.mem, w.ext⟩ ht).mono (fun _ _ => trivial) ?_
  intro r t' h
  dsimp only
  cases hr : r.2 with
  | none =>
      exact ⟨⟨hw.within, hw.apart⟩, fun g obj hg i hi =>
        (hw.below g obj hg i hi).trans_le h.nextGkv⟩
  | some obj =>
      obtain ⟨hplan, hnext⟩ := h.modules obj hr
      obtain ⟨new, hnew, hsub, -⟩ := openPlan_found _ _ _ _ _ _ _ hplan
      rw [List.nil_append] at hnew
      have hblocks : (gkvBlocks obj.taggedModList).Sublist
          (List.range' w.mem.nextGkv (endpointCount (takenEntries dev w.ext))) := by
        rw [hnew, ← gkvBlocks_modulesOf md.gkv dev]
        exact hsub.filterMap _
      have hnodup : (gkvBlocks obj.taggedModList).Nodup := hblocks.nodup List.nodup_range'
      dsimp only
      rw [ensures_bind, ensures_modify, ensures_pure]
      refine hw.update rfl h.nextGkv ⟨hnodup, fun i hi => ?_⟩ fun i hi => ?_
      · rw [hnext]
        exact (List.mem_range'_1.mp (hblocks.subset hi)).2
      · exact .inr (List.mem_range'_1.mp (hblocks.subset hi)).1

end step

/-- The call is no `graph_change` that leaves a module with the key vector of the static entry. -/
def CopiesGkv (w : World) (c : GraphCall) : Prop :=
  match c.op with
  | .graphChange g _ (some d) => ∀ obj, w.heap g = some obj →
      ¬ LeavesTemplateGkv c.view d ⟨obj, w.mem, c.ext⟩
  | _ => True

section run
variable {w : World}

theorem run_templates (c : GraphCall) (ht : Templates w.mem) :
    Ensures anyFault c.run w fun _ w' => Templates w'.mem := by
  have hR := keepsTemplates_routine
  unfold GraphCall.run
  rw [ensures_bind, ensures_modify]
  have ht' : Templates (c.before w).mem := ht
  cases c.op with
  | graphOpen md s dev => exact graphOpen_templates md s dev ht'
  | graphClose g =>
      unfold GraphOp.run graphClose
      rw [ensures_bind]
      refine (onGraph_templates (fun v => ?_) ht').imp fun _ _ h => h
      exact moves_bind (ioctl_moves hR _) fun _ => moves_pure _
  | graphPrepare g => exact onGraph_templates (graphPrepareBody_moves hR) ht'
  | graphStart g => exact onGraph_templates (fun _ => graphStartBody_moves hR) ht'
  | graphStop g md => exact onGraph_templates (fun _ => graphStopBody_moves hR md) ht'
  | graphAdd g md dev =>
      exact onGraph_templates
        (fun v => graphAddBody_moves hR v md dev (addEndpoint_keepsTemplates v md)) ht'
  | graphChange g md dev =>
      exact onGraph_templates (fun v t => graphChangeBody_reaches hR v md dev t fun d _ =>
        changeEndpoint_keepsTemplates v md d t) ht'
  | graphRemove g md => exact onGraph_templates (fun _ => graphRemoveBody_moves hR md) ht'

theorem run_gkvInv (c : GraphCall) (ht : Templates w.mem) (hw : GkvInv w) (hc : CopiesGkv w c) :
    Ensures anyFault c.run w fun _ w' => GkvInv w' := by
  have hR := gkvStep_routine
  unfold GraphCall.run
  rw [ensures_bind, ensures_modify]
  have ht' : Templates (c.before w).mem := ht
  have hw' : GkvInv (c.before w) := ⟨⟨hw.within, hw.apart⟩, hw.below⟩
  unfold CopiesGkv at hc
  cases hop : c.op with
  | graphOpen md s dev => exact graphOpen_gkvInv md s dev ht' hw'
  | graphClose g =>
      unfold GraphOp.run graphClose
      rw [ensures_bind]
      refine (onGraph_gkvStep hw' fun v => ?_).imp fun _ _ h => h.close g
      exact moves_bind (ioctl_moves hR _) fun _ => moves_pure _
  | graphPrepare g => exact onGraph_gkvStep hw' (graphPrepareBody_moves hR)
  | graphStart g => exact onGraph_gkvStep hw' fun _ => graphStartBody_moves hR
  | graphStop g md => exact onGraph_gkvStep hw' fun _ => graphStopBody_moves hR md
  | graphAdd g md dev =>
      exact onGraph_gkvStep hw' fun v => graphAddBody_moves hR v md dev (addEndpoint_gkvStep v md)
  | graphChange g md dev =>
      refine onGraph_gkvInv (m := fun v => graphChangeBody v md dev) hw' fun obj hobj =>
        graphChangeBody_reaches hR _ md dev _ fun d hd => ?_
      rw [hop, hd] at hc
      exact changeEndpoint_gkvStep _ md d (hc obj hobj)
  | graphRemove g md => exact onGraph_gkvStep hw' fun _ => graphRemoveBody_moves hR md

theorem templates_startUp (num : ℕ) : Templates (startUp num).mem := ⟨rfl, rfl⟩

/-- The same of the whole service. -/
def KeepsArrays (w w' : World) : Prop := Templates w.mem → Templates w'.mem

instance : IsPreorder World KeepsArrays where
  refl _ := id
  trans _ _ _ h h' := h' ∘ h

theorem run_keepsArrays (c : GraphCall) : Moves KeepsArrays c.run := by
  intro w
  by_cases ht : Templates w.mem
  · exact (run_templates c ht).imp fun _ _ h _ => h
  · exact ensures_of_forall (fun _ => trivial) fun _ _ h => absurd h ht

/-- In every history the arrays keep what they keep. -/
theorem history_templates (calls : List GraphCall) (ht : Templates w.mem) :
    Ensures anyFault (runAll GraphCall.run calls) w fun _ w' => Templates w'.mem :=
  (moves_runAll run_keepsArrays calls w).imp fun _ _ h => h ht

end run

/-! ### The lists -/

/-- The list of a new graph has one entry for each supported tag, in the order of the tags, with the
ids of the tag's module, exactly if each of the tags has a module and no entry was dropped for lack of
memory; no history changes that.  And the graphs share no key vector unless a `graph_change` left one
with the static entry's. -/
theorem moduleLists_history {num : ℕ} {calls : List GraphCall} {w : World}
    (hrun : runAll GraphCall.run calls (startUp num) = .ok ((), w)) :
    (∀ (md : MetaData) (s : ℕ) (dev : Option ℕ) (ext : List Answer),
      SingleModules dev (tagBlob ext) →
      Ensures anyFault (graphOpenBody md s dev) ⟨w.mem, ext⟩ fun r _ => r.1 = 0 →
        ∃ obj, r.2 = some obj ∧
          (obj.taggedModList.map some =
              ownModulesOf md.gkv dev (takenEntries dev ext) w.mem.nextGkv ↔
            (∀ e ∈ takenEntries dev ext, e.modules ≠ []) ∧
              NoneDropped (takenEntries dev ext) (loopAnswers ext))) ∧
    (Admits GraphCall.run CopiesGkv calls (startUp num) → SoleGkvs w) := by
  have hstart := templates_startUp num
  have htempl : Templates w.mem := (history_templates calls hstart).of_ok hrun
  refine ⟨fun md s dev ext hsingle => ?_, fun hcopies => ?_⟩
  · refine (graphOpenBody_builtFrom md s dev ⟨w.mem, ext⟩ htempl).imp fun r t' h hr => ?_
    cases hobj : r.2 with
    | none => exact absurd (h.unstored hr hobj) (openPlan_single _ _ _ _ _ _ hsingle.taken)
    | some obj =>
        obtain ⟨new, hnew, -, hiff⟩ := openPlan_found _ _ _ _ _ _ _ (h.modules obj hobj).1
        rw [List.nil_append] at hnew
        refine ⟨obj, rfl, ?_⟩
        rw [ownModulesOf_iff (takenEntries_first dev ext), hnew, hiff]
        exact and_comm
  · have hinv := runAll_invariant GraphCall.run (E := anyFault) (C := CopiesGkv)
      (I := fun w => Templates w.mem ∧ GkvInv w) fun w c h hc =>
        (run_templates c h.1).and (run_gkvInv c h.1 h.2 hc)
    have hempty : GkvInv (startUp num) :=
      ⟨⟨fun _ _ h => (nomatch h), fun _ _ _ _ _ h => (nomatch h)⟩, fun _ _ h => (nomatch h)⟩
    exact ((hinv calls _ ⟨hstart, hempty⟩ hcopies).of_ok hrun).2.toSoleGkvs

instance (v : View) (d : ℕ) (t : GraphSt) : Decidable (LeavesTemplateGkv v d t) :=
  inferInstanceAs (Decidable (_ ∧ _ ∧ _ ∧ _ ∧ _))

instance decidableCopiesGkv : ∀ w c, Decidable (CopiesGkv w c)
  | w, ⟨.graphChange g _ (some d), view, ext⟩ =>
      match h : w.heap g with
      | none => isTrue fun _ hobj => absurd (h.symm.trans hobj) nofun
      | some obj =>
          decidable_of_iff (¬ LeavesTemplateGkv view d ⟨obj, w.mem, ext⟩) (by simp [CopiesGkv, h])
  | _, ⟨.graphChange _ _ none, _, _⟩ => isTrue trivial
  | _, ⟨.graphOpen _ _ _, _, _⟩ => isTrue trivial
  | _, ⟨.graphClose _, _, _⟩ => isTrue trivial
  | _, ⟨.graphPrepare _, _, _⟩ => isTrue trivial
  | _, ⟨.graphStart _, _, _⟩ => isTrue trivial
  | _, ⟨.graphStop _ _, _, _⟩ => isTrue trivial
  | _, ⟨.graphAdd _ _ _, _, _⟩ => isTrue trivial
  | _, ⟨.graphRemove _ _, _, _⟩ => isTrue trivial

/-- A `graph_open` of a graph whose only tag is that of the RX endpoint; `rest` are the answers for
the endpoint's entry. -/
def openRx (s : ℕ) (rest : List Answer) : GraphCall where
  op := .graphOpen {} s (some 0)
  view := ⟨fun _ => {}, fun _ => {}⟩
  ext := [{}, {}, {}, { tags := [⟨.deviceHwEndpointRx, 0, [{ moduleId := 1, moduleIid := 7 }]⟩] }] ++
    List.replicate 9 {} ++ rest

/-- A `graph_change` to another RX endpoint; `rest` are the answers to `ADD_MODULE` and to the copy
of the key vector. -/
def changeRx (g : ℕ) (rest : List Answer) : GraphCall where
  op := .graphChange g {} (some 0)
  view := ⟨fun _ => {}, fun _ => {}⟩
  ext := { moduleIid := 9 } :: rest

theorem moduleLists_history_changeRx :
    ∃ w, runAll GraphCall.run [openRx 0 [], openRx 1 [], changeRx 0 []] (startUp 1) = .ok ((), w) ∧
      SoleGkvs w ∧
      Ensures anyFault (graphOpenBody {} 2 (some 0)) ⟨w.mem, (openRx 2 []).ext⟩ fun r _ => r.1 = 0 →
        ∃ obj, r.2 = some obj ∧ obj.taggedModList.map some =
          ownModulesOf {} (some 0) (takenEntries (some 0) (openRx 2 []).ext) w.mem.nextGkv := by
  obtain ⟨_, w, hrun, -⟩ := Ensures.exists_ok (Q := fun _ _ => True) (s := startUp 1)
    (m := runAll GraphCall.run [openRx 0 [], openRx 1 [], changeRx 0 []]) (by decide +kernel)
  obtain ⟨hopen, hsole⟩ := moduleLists_history hrun
  refine ⟨w, hrun, hsole (by decide +kernel), ?_⟩
  refine (hopen {} 2 (some 0) (openRx 2 []).ext (by decide)).imp fun r _ h hr => ?_
  obtain ⟨obj, hobj, hlist⟩ := h hr
  exact ⟨obj, hobj, hlist.mpr (by decide)⟩

/-- The blocks of the key vectors of a graph. -/
def blocksAt (w : World) (g : ℕ) : Option (List ℕ) :=
  (w.heap g).map fun obj => gkvBlocks obj.taggedModList

theorem not_soleGkvs {w : World} {i : ℕ} (h : blocksAt w 0 = some [i])
    (h' : blocksAt w 1 = some [i]) : ¬ SoleGkvs w := by
  intro hw
  obtain ⟨obj, hobj, hblocks⟩ := Option.map_eq_some_iff.mp h
  obtain ⟨obj', hobj', hblocks'⟩ := Option.map_eq_some_iff.mp h'
  refine hw.apart 0 1 obj obj' (by decide) hobj hobj' i ?_ ?_
  · rw [hblocks]
    exact List.mem_singleton_self i
  · rw [hblocks']
    exact List.mem_singleton_self i

/-- GSL reports the tag of SPR without a module, and an unknown tag behind it. -/
def noModules : List Answer :=
  [{}, {}, {}, { tags := [⟨.streamSpr, 3, []⟩, ⟨.other 0, 5, [{}]⟩] }]

/-- A graph is changed to a new endpoint without memory for its key vector, and then shares that of
another graph; without memory for the entry of its endpoint a graph is opened without it; and a tag
without a module gets an entry with the head of the next tag for its ids. -/
theorem moduleLists_history_noMemory :
    (∃ w, runAll GraphCall.run [openRx 0 [], openRx 1 [], changeRx 0 [{}, { code := 1 }]]
      (startUp 1) = .ok ((), w) ∧ ¬ SoleGkvs w) ∧
    SingleModules (some 0) (tagBlob (openRx 0 [{}, {}, { code := 1 }]).ext) ∧
    (Ensures noFault (graphOpenBody {} 0 (some 0))
      ⟨(startUp 1).mem, (openRx 0 [{}, {}, { code := 1 }]).ext⟩ fun r _ => r.1 = 0 ∧
        r.2.map (fun obj => obj.taggedModList.map some) ≠ some (ownModulesOf {} (some 0)
          (takenEntries (some 0) (openRx 0 [{}, {}, { code := 1 }]).ext) 0)) ∧
    SingleModules none (tagBlob noModules) ∧
    Ensures noFault (graphOpenBody {} 0 none) ⟨(startUp 1).mem, noModules⟩ fun r _ => r.1 = 0 ∧
      r.2.map GraphObj.taggedModList = some [streamEntry .streamSpr ⟨5, 1⟩] := by
  refine ⟨?_, by decide, by decide +kernel, by decide, by decide +kernel⟩
  obtain ⟨_, w, hrun, hblocks⟩ := Ensures.exists_ok (s := startUp 1)
    (m := runAll GraphCall.run [openRx 0 [], openRx 1 [], changeRx 0 [{}, { code := 1 }]])
    (Q := fun _ w => blocksAt w 0 = some [1] ∧ blocksAt w 1 = some [1]) (by decide +kernel)
  exact ⟨w, hrun, not_soleGkvs hblocks.1 hblocks.2⟩

end Agm
