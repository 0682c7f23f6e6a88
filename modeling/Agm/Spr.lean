import Agm.GraphHistory
import Agm.Configuration

/-! # SPR and the endpoints

The SPR module of a graph is told with `PARAM_ID_SPR_DELAY_PATH_END` in which RX endpoints its delay
paths end.  Which calls tell it depends on its configuration latch, on the state of the graph and on
the call that enters an endpoint: `graph_add` tells it again on a prepared or started graph,
`graph_prepare` tells it once, and `graph_change` never does.

A ghost component keeps, for each graph, the RX endpoints that SPR was not told of since they were
added (`SprWorld`).  `spr_follows`: when endpoints are entered only while SPR will still be told,
none is left after a prepare, an add or a change. -/

namespace Agm

open Prog

/-! ### Announcements -/

/-- The RX endpoints of a module list. -/
def rxIds (mods : List ModuleInfo) : List ℕ :=
  (mods.filter fun m => decide (m.tag = .deviceHwEndpointRx)).map ModuleInfo.miid

/-- The call names the endpoint `i` to an SPR module on the handle `h`. -/
def GslCall.names (h i : ℕ) (c : GslCall) : Bool :=
  match c.cmd with
  | .sprDelayPathEnd _ miid => decide (c.handle = some h ∧ miid = i)
  | _ => false

def named (h : ℕ) (calls : List GslCall) (i : ℕ) : Bool := calls.any (GslCall.names h i)

/-- Every RX endpoint of the graph is named. -/
def Told (obj : GraphObj) (calls : List GslCall) : Prop :=
  ∀ i ∈ rxIds obj.taggedModList, named obj.handle calls i = true

def HasSpr (obj : GraphObj) : Prop := ∃ m ∈ obj.taggedModList, m.tag = .streamSpr

/-- An SPR module is marked as configured. -/
def SprLatched (obj : GraphObj) : Prop :=
  ∃ m ∈ obj.taggedModList, m.tag = .streamSpr ∧ m.isConfigured = true

/-- The modules have the configuration functions of their tags. -/
def ConfiguredByTag (mods : List ModuleInfo) : Prop := ∀ m ∈ mods, m.configure = configureOf m.tag

theorem configureOf_eq_spr {tag : Tag} : configureOf tag = some .spr ↔ tag = .streamSpr := by
  cases tag <;> simp [configureOf, streamModuleList, hwEpModule]

theorem rxIds_append (mods mods' : List ModuleInfo) :
    rxIds (mods ++ mods') = rxIds mods ++ rxIds mods' := by
  unfold rxIds
  rw [List.filter_append, List.map_append]

theorem named_append {h : ℕ} {calls calls' : List GslCall} {i : ℕ} :
    named h (calls ++ calls') i = (named h calls i || named h calls' i) := List.any_append

/-! ### Requests -/

/-- Requests were made and the module list was left alone. -/
structure Requests (new : List GslCall) (t t' : GraphSt) : Prop where
  calls : t'.mem.calls = new ++ t.mem.calls
  handle : t'.obj.handle = t.obj.handle
  state : t'.obj.state = t.obj.state
  sess : t'.obj.sessObj = t.obj.sessObj
  mods : t'.obj.taggedModList = t.obj.taggedModList

section sent
variable {t t' t'' : GraphSt} {new new' : List GslCall}

theorem Requests.refl (t : GraphSt) : Requests [] t t := ⟨rfl, rfl, rfl, rfl, rfl⟩

theorem Requests.trans (h : Requests new t t') (h' : Requests new' t' t'') : Requests (new' ++ new) t t'' where
  calls := by rw [h'.calls, h.calls, List.append_assoc]
  handle := h'.handle.trans h.handle
  state := h'.state.trans h.state
  sess := h'.sess.trans h.sess
  mods := h'.mods.trans h.mods

/-- The request that is made next on the handle of the graph. -/
def GraphSt.request (t : GraphSt) (cmd : GslCmd) : GslCall :=
  ⟨some t.obj.handle, cmd, (t.ext.headD {}).code⟩

/-- The state after a request. -/
def GraphSt.requested (t : GraphSt) (cmd : GslCmd) : GraphSt :=
  { t with mem := { t.mem with calls := t.request cmd :: t.mem.calls }, ext := t.ext.tail }

theorem ensures_ioctl {E : Crash → Prop} (cmd : GslCmd) (Q : Answer → GraphSt → Prop) :
    Ensures E (ioctl cmd) t Q ↔ Q (t.ext.headD {}) (t.requested cmd) := Iff.rfl

theorem sent_requested (t : GraphSt) (cmd : GslCmd) :
    Requests [t.request cmd] t (t.requested cmd) := ⟨rfl, rfl, rfl, rfl, rfl⟩

theorem ensures_graphCalloc {E : Crash → Prop} (Q : Bool → GraphSt → Prop) :
    Ensures E (GraphM.ofMem (MemM.call calloc)) t Q ↔
      Q (decide ((t.ext.headD {}).code = 0)) { t with ext := t.ext.tail } := by
  rw [ensures_ofMem, ensures_memCalloc]

/-- The loop of `configure_spr` names the RX endpoints it meets. -/
theorem nameEndpoints_spec (spr : ModuleInfo) :
    ∀ (mods : List ModuleInfo) (ret : ℤ) (t : GraphSt),
      Ensures anyFault (Prog.forAll (fun (mod : ModuleInfo) (ret : ℤ) =>
        if mod.tag = .deviceHwEndpointRx then do
          let a ← ioctl (.sprDelayPathEnd spr.miid mod.miid)
          pure (arErrGetLnxErrCode a.code)
        else pure ret) mods ret) t fun _ t' =>
          ∃ new, Requests new t t' ∧ ∀ i ∈ rxIds mods, named t.obj.handle new i = true
  | [], ret, t => ⟨[], .refl t, nofun⟩
  | m :: mods, ret, t => by
      rw [Prog.forAll, ensures_bind, ensures_ite]
      refine ⟨fun htag => ?_, fun htag => ?_⟩
      · rw [ensures_bind, ensures_ioctl, ensures_pure]
        refine (nameEndpoints_spec spr mods _ _).imp ?_
        rintro _ t' ⟨new, hsent, hnamed⟩
        refine ⟨_, (sent_requested t _).trans hsent, fun i hi => ?_⟩
        have hcons : rxIds (m :: mods) = m.miid :: rxIds mods := by
          unfold rxIds
          rw [List.filter_cons_of_pos (by simpa using htag), List.map_cons]
        rw [hcons, List.mem_cons] at hi
        rw [named_append, Bool.or_eq_true]
        rcases hi with rfl | hi
        · exact .inr (by simp [named, GslCall.names, GraphSt.request])
        · exact .inl (hnamed i hi)
      · rw [ensures_pure]
        have hcons : rxIds (m :: mods) = rxIds mods := by
          unfold rxIds
          rw [List.filter_cons_of_neg (by simpa using htag)]
        rw [hcons]
        exact nameEndpoints_spec spr mods _ t

/-- `configure_spr` names every RX endpoint of the graph, unless there is no memory for it. -/
theorem configureSpr_spec (spr : ModuleInfo) :
    Ensures anyFault (configureSpr spr) t fun r t' => ∃ new, Requests new t t' ∧
      (¬ nextFails t.ext → Told t.obj new) ∧ (nextFails t.ext → r ≠ 0) := by
  unfold configureSpr
  rw [ensures_bind, GraphM.modifyObj, ensures_modify, ensures_bind, ensures_graphCalloc, ensures_ite,
    refused_iff]
  refine ⟨fun hf => ?_, fun hok => ?_⟩
  · refine ⟨[], ⟨rfl, rfl, rfl, rfl, rfl⟩, fun h => absurd hf h, fun _ => ?_⟩
    decide
  · rw [ensures_bind, GraphM.obj, ensures_gets]
    refine (nameEndpoints_spec spr _ 0 _).imp ?_
    rintro r t' ⟨new, hsent, hnamed⟩
    exact ⟨new, ⟨hsent.calls, hsent.handle, hsent.state, hsent.sess, hsent.mods⟩, fun _ => hnamed,
      fun hf => absurd hf hok⟩

/-- Requests were made; with the answers to `n` of them, if that is a number, they end with `0`. -/
def Answered (n : Option ℕ) (t : GraphSt) (r : ℤ) (t' : GraphSt) : Prop :=
  ∃ new, Requests new t t' ∧ ∀ k, n = some k → Granted k t.ext → r = 0 ∧ t'.ext = t.ext.drop k

section answered
variable {n : Option ℕ} {j : ℕ} {r : ℤ}

theorem Answered.failed (h : Requests new t t') : Answered none t r t' := ⟨new, h, nofun⟩

/-- What is answered after the answers to `j` calls. -/
theorem Answered.after (h : Answered n t' r t'') (hsent : Requests new t t')
    (hext : Granted j t.ext → t'.ext = t.ext.drop j) : Answered (n.map (j + ·)) t r t'' := by
  obtain ⟨new', hsent', hok⟩ := h
  refine ⟨_, hsent.trans hsent', fun k hk hgrant => ?_⟩
  obtain ⟨i, hi, rfl⟩ := Option.map_eq_some_iff.mp hk
  obtain ⟨hj, hrest⟩ := (granted_add _ _ _).mp hgrant
  rw [← hext hj] at hrest
  obtain ⟨hr, hleft⟩ := hok i hi hrest
  refine ⟨hr, ?_⟩
  rw [hleft, hext hj, List.drop_drop]

/-- Where the first of two parts fails the second has no part in it. -/
theorem Answered.stopped (h : Answered (some j) t r t') (hr : r ≠ 0) :
    Answered (n.map (j + ·)) t r t' := by
  obtain ⟨new, hsent, hok⟩ := h
  refine ⟨new, hsent, fun k hk hgrant => ?_⟩
  obtain ⟨i, -, rfl⟩ := Option.map_eq_some_iff.mp hk
  exact absurd (hok j rfl ((granted_add _ _ _).mp hgrant).1).1 hr

theorem sendParam_answered (mod : ModuleInfo) (param : ModuleParam) :
    Ensures anyFault (sendParam mod param) t (Answered (some 1) t) := by
  unfold sendParam
  rw [ensures_bind, ensures_ioctl, ensures_pure]
  refine ⟨_, sent_requested t _, fun k hk hgrant => ?_⟩
  cases hk
  exact ⟨arErrGetLnxErrCode_eq_zero.mpr ((granted_succ _ _).mp hgrant).1, List.drop_one.symm⟩

/-- A part that begins with an allocation, which is answered first. -/
theorem allocated_answered {refused m : GraphM ℤ}
    (hrefused : Ensures anyFault refused { t with ext := t.ext.tail } fun r t' =>
      nextFails t.ext → Answered (n.map (1 + ·)) t r t')
    (hm : Ensures anyFault m { t with ext := t.ext.tail } (Answered n { t with ext := t.ext.tail })) :
    Ensures anyFault (do
      let block ← GraphM.ofMem (MemM.call calloc)
      if !block then refused else m) t (Answered (n.map (1 + ·)) t) := by
  rw [ensures_bind, ensures_graphCalloc, ensures_ite, refused_iff]
  have hnothing : Requests [] t { t with ext := t.ext.tail } := ⟨rfl, rfl, rfl, rfl, rfl⟩
  exact ⟨fun hf => hrefused.imp fun _ _ h => h hf,
    fun _ => hm.imp fun _ _ h => h.after hnothing fun _ => List.drop_one.symm⟩

/-- Without memory a part has not got its answers. -/
theorem Answered.refused (hf : nextFails t.ext) :
    Answered (n.map (1 + ·)) t r { t with ext := t.ext.tail } := by
  refine ⟨[], ⟨rfl, rfl, rfl, rfl, rfl⟩, fun k hk hgrant => ?_⟩
  obtain ⟨i, -, rfl⟩ := Option.map_eq_some_iff.mp hk
  exact absurd ((granted_succ _ _).mp ((granted_add 1 _ _).mp hgrant).1).1 hf

end answered

/-- How many external calls a configuration function makes that succeeds; `none` if it does not
succeed whatever they give.  SPR is told apart. -/
def builderCalls (sess : SessionObj) : Configure → Option ℕ
  | .outputMediaFormat => (outputFormat sess).map fun _ => 2
  | .placeholderDec =>
      match realFmtId sess.mediaConfig.format with
      | none => some 0
      | some _ => (outputFormat sess).map fun _ => 4
  | .sharedMemEp =>
      if isFormatPcm sess.mediaConfig.format then some 2
      else some (if (sharedFmt sess.mediaConfig.format).isNone then 0 else 2)
  | .spr => none
  | .hwEp => some 1

section builders
variable (mod : ModuleInfo) (sess : SessionObj)

theorem sendOutputFormat_answered :
    Ensures anyFault (sendOutputFormat mod sess) t
      (Answered ((outputFormat sess).map fun _ => 2) t) := by
  have hcount : ((outputFormat sess).map fun _ => 2) =
      ((outputFormat sess).map fun _ => 1).map (1 + ·) := by
    rw [Option.map_map]
    rfl
  unfold sendOutputFormat
  rw [hcount]
  refine allocated_answered (fun hf => .refused hf) ?_
  cases outputFormat sess with
  | none => exact .failed (.refl _)
  | some fmt => exact sendParam_answered mod _

theorem sendMediaFormat_answered :
    Ensures anyFault (sendMediaFormat mod sess) t (Answered (builderCalls sess .sharedMemEp) t) := by
  unfold sendMediaFormat builderCalls
  cases isFormatPcm sess.mediaConfig.format with
  | true =>
      rw [if_pos rfl, if_pos rfl]
      exact allocated_answered (n := some 1) (fun hf => .refused hf) (sendParam_answered mod _)
  | false =>
      rw [if_neg (by decide), if_neg (by decide), sendCodecFormat]
      cases sharedFmt sess.mediaConfig.format with
      | none => exact ⟨[], .refl t, fun k hk _ => by cases hk; exact ⟨rfl, rfl⟩⟩
      | some fmt => exact allocated_answered (n := some 1) trivial (sendParam_answered mod _)

theorem sendRealId_answered :
    Ensures anyFault (sendRealId mod sess) t (Answered (builderCalls sess .placeholderDec) t) := by
  unfold sendRealId builderCalls
  cases realFmtId sess.mediaConfig.format with
  | none => exact ⟨[], .refl t, fun k hk _ => by cases hk; exact ⟨rfl, rfl⟩⟩
  | some id =>
      have hcount : ((outputFormat sess).map fun _ => 4) =
          (((outputFormat sess).map fun _ => 2).map (1 + ·)).map (1 + ·) := by
        rw [Option.map_map, Option.map_map]
        rfl
      dsimp only
      rw [hcount]
      refine allocated_answered trivial ?_
      rw [ensures_bind]
      refine (sendParam_answered mod _).imp fun r t' h => ?_
      rw [ensures_ite]
      refine ⟨fun hr => h.stopped hr, fun _ => ?_⟩
      obtain ⟨new, hsent, hok⟩ := h
      exact (sendOutputFormat_answered mod sess).imp fun _ _ h =>
        h.after hsent fun hgrant => (hok 1 rfl hgrant).2

end builders

/-- The SPR module is told of the endpoints; the other builders succeed with their answers. -/
theorem configureModule_spec (v : View) (mod : ModuleInfo) (conf : Configure) :
    Ensures anyFault (configureModule v mod conf) t fun r t' => ∃ new, Requests new t t' ∧
      (conf = .spr → (¬ nextFails t.ext → Told t.obj new) ∧ (nextFails t.ext → r ≠ 0)) ∧
      ∀ n, builderCalls (v.sess (t.obj.sessObj.getD 0)) conf = some n → Granted n t.ext →
        r = 0 ∧ t'.ext = t.ext.drop n := by
  have hother : ∀ {m : GraphM ℤ}, conf ≠ .spr →
      Ensures anyFault m t (Answered (builderCalls (v.sess (t.obj.sessObj.getD 0)) conf) t) →
      Ensures anyFault m t fun r t' => ∃ new, Requests new t t' ∧
        (conf = .spr → (¬ nextFails t.ext → Told t.obj new) ∧ (nextFails t.ext → r ≠ 0)) ∧
        ∀ n, builderCalls (v.sess (t.obj.sessObj.getD 0)) conf = some n → Granted n t.ext →
          r = 0 ∧ t'.ext = t.ext.drop n := by
    intro m hconf hm
    refine hm.imp ?_
    rintro r t' ⟨new, hsent, hok⟩
    exact ⟨new, hsent, fun h => absurd h hconf, hok⟩
  unfold configureModule
  rw [ensures_bind, GraphM.obj, ensures_gets]
  cases conf with
  | spr =>
      refine (configureSpr_spec mod).imp ?_
      rintro r t' ⟨new, hsent, htold⟩
      refine ⟨new, hsent, fun _ => htold, fun n hn => ?_⟩
      cases hn
  | outputMediaFormat => exact hother (by decide) (sendOutputFormat_answered mod _)
  | placeholderDec => exact hother (by decide) (sendRealId_answered mod _)
  | sharedMemEp => exact hother (by decide) (sendMediaFormat_answered mod _)
  | hwEp => exact hother (by decide) (sendParam_answered mod _)

end sent

/-! ### Configuration steps -/

/-- A module without its mark. -/
def ModuleInfo.unmarked (m : ModuleInfo) : ModuleInfo := { m with isConfigured := false }

/-- Requests were made and marks were set; an SPR module is marked only when it was told. -/
structure SprKept (new : List GslCall) (t t' : GraphSt) : Prop where
  calls : t'.mem.calls = new ++ t.mem.calls
  handle : t'.obj.handle = t.obj.handle
  state : t'.obj.state = t.obj.state
  sess : t'.obj.sessObj = t.obj.sessObj
  entries : t'.obj.taggedModList.map ModuleInfo.unmarked = t.obj.taggedModList.map ModuleInfo.unmarked
  latched : SprLatched t'.obj → SprLatched t.obj ∨ Told t.obj new

section entries
variable {mods mods' : List ModuleInfo}
  (h : mods'.map ModuleInfo.unmarked = mods.map ModuleInfo.unmarked)
include h

theorem rxIds_of_entries : rxIds mods' = rxIds mods := by
  have hunmarked : ∀ l : List ModuleInfo, rxIds (l.map ModuleInfo.unmarked) = rxIds l := by
    intro l
    unfold rxIds
    rw [List.filter_map, List.map_map]
    rfl
  rw [← hunmarked mods', h, hunmarked]

/-- What does not depend on the mark holds of the modules of one list if of those of the other. -/
theorem entries_forall {P : ModuleInfo → Prop} (hP : ∀ m, P m.unmarked ↔ P m)
    (hmods : ∀ m ∈ mods, P m) : ∀ m ∈ mods', P m := by
  intro m hm
  have hmem : m.unmarked ∈ mods.map ModuleInfo.unmarked := h ▸ List.mem_map_of_mem hm
  obtain ⟨m₀, hm₀, heq⟩ := List.mem_map.mp hmem
  rw [← hP, ← heq, hP]
  exact hmods m₀ hm₀

theorem entries_length : mods'.length = mods.length := by
  simpa using congrArg List.length h

end entries

theorem entries_exists {mods mods' : List ModuleInfo}
    (h : mods'.map ModuleInfo.unmarked = mods.map ModuleInfo.unmarked) {P : ModuleInfo → Prop}
    (hP : ∀ m, P m.unmarked ↔ P m) (hmods : ∃ m ∈ mods, P m) : ∃ m ∈ mods', P m := by
  by_contra hnone
  push Not at hnone
  obtain ⟨m, hm, hPm⟩ := hmods
  exact entries_forall h.symm (P := fun m => ¬ P m) (fun m => not_congr (hP m)) hnone m hm hPm

theorem told_of_entries {obj obj' : GraphObj} {new : List GslCall} (hhandle : obj'.handle = obj.handle)
    (h : obj'.taggedModList.map ModuleInfo.unmarked = obj.taggedModList.map ModuleInfo.unmarked) :
    Told obj' new ↔ Told obj new := by
  unfold Told
  rw [rxIds_of_entries h, hhandle]

theorem Told.append {obj : GraphObj} {new : List GslCall} (h : Told obj new) (new' : List GslCall) :
    Told obj (new' ++ new) := by
  intro i hi
  rw [named_append, h i hi, Bool.or_true]

theorem Told.append_left {obj : GraphObj} {new : List GslCall} (h : Told obj new)
    (new' : List GslCall) : Told obj (new ++ new') := by
  intro i hi
  rw [named_append, h i hi, Bool.true_or]

section kept
variable {t t' t'' : GraphSt} {new new' : List GslCall} {v : View}

theorem Requests.kept (h : Requests new t t') : SprKept new t t' where
  calls := h.calls
  handle := h.handle
  state := h.state
  sess := h.sess
  entries := by rw [h.mods]
  latched hl := by
    unfold SprLatched at hl
    rw [h.mods] at hl
    exact .inl hl

theorem SprKept.refl (t : GraphSt) : SprKept [] t t := (Requests.refl t).kept

theorem SprKept.told (h : SprKept new t t') (calls : List GslCall) :
    Told t'.obj calls ↔ Told t.obj calls := told_of_entries h.handle h.entries

theorem SprKept.trans (h : SprKept new t t') (h' : SprKept new' t' t'') :
    SprKept (new' ++ new) t t'' where
  calls := by rw [h'.calls, h.calls, List.append_assoc]
  handle := h'.handle.trans h.handle
  state := h'.state.trans h.state
  sess := h'.sess.trans h.sess
  entries := h'.entries.trans h.entries
  latched hl := by
    rcases h'.latched hl with hl | htold
    · exact (h.latched hl).imp id fun htold => htold.append new'
    · exact .inr (((h.told new').mp htold).append_left new)

theorem mem_modify {l : List ModuleInfo} {k : ℕ} {f : ModuleInfo → ModuleInfo} {m : ModuleInfo}
    (h : m ∈ l.modify k f) : m ∈ l ∨ k < l.length ∧ m = f (l.getD k noModule) := by
  obtain ⟨j, hj⟩ := List.mem_iff_getElem?.mp h
  rw [List.getElem?_modify] at hj
  cases hjl : l[j]? with
  | none =>
      rw [hjl] at hj
      exact nomatch hj
  | some a =>
      rw [hjl] at hj
      have heq : (if k = j then f a else a) = m := Option.some.inj hj
      by_cases hk : k = j
      · subst hk
        rw [if_pos rfl] at heq
        rw [List.getD_eq_getElem?_getD, hjl]
        exact .inr ⟨(List.getElem?_eq_some_iff.mp hjl).1, heq.symm⟩
      · rw [if_neg hk] at heq
        exact .inl (heq ▸ List.mem_of_getElem? hjl)

theorem map_unmarked_modify (l : List ModuleInfo) (k : ℕ) (b : Bool) :
    (l.modify k fun m => { m with isConfigured := b }).map ModuleInfo.unmarked =
      l.map ModuleInfo.unmarked := by
  induction l generalizing k with
  | nil => rw [List.modify_nil]
  | cons m l ih =>
      cases k with
      | zero => rw [List.modify_zero_cons, List.map_cons, List.map_cons]; rfl
      | succ k => rw [List.modify_succ_cons, List.map_cons, List.map_cons, ih]

/-- The mark of a module is set or taken away. -/
def GraphObj.mark (obj : GraphObj) (k : ℕ) (b : Bool) : GraphObj :=
  { obj with taggedModList := obj.taggedModList.modify k fun m => { m with isConfigured := b } }

/-- After requests a mark is set or taken away. -/
theorem Requests.marked (h : Requests new t t') {k : ℕ} {b : Bool}
    (hspr : b = true → (t.obj.modAt k).tag = .streamSpr → Told t.obj new) :
    SprKept new t { t' with obj := t'.obj.mark k b } where
  calls := h.calls
  handle := h.handle
  state := h.state
  sess := h.sess
  entries := by
    unfold GraphObj.mark
    rw [map_unmarked_modify, h.mods]
  latched hl := by
    obtain ⟨m, hm, htag, hconf⟩ := hl
    dsimp only [GraphObj.mark] at hm
    rw [h.mods] at hm
    rcases mem_modify hm with hm | ⟨-, rfl⟩
    · exact .inl ⟨m, hm, htag, hconf⟩
    · exact .inr (hspr hconf htag)

/-- After requests a mark is taken away. -/
theorem SprKept.unmark {k : ℕ} (hcalls : t'.mem.calls = new ++ t.mem.calls)
    (hobj : t'.obj = t.obj.mark k false) : SprKept new t t' := by
  have hsent : Requests new t { t' with obj := t.obj } := ⟨hcalls, rfl, rfl, rfl, rfl⟩
  have hkept := hsent.marked (k := k) (b := false) nofun
  dsimp only at hkept
  rwa [← hobj] at hkept

/-- A configuration step at position `k`: the module is configured, and marked if that succeeds. -/
theorem marked_spec (v : View) (k : ℕ) {conf : Configure} (hk : k < t.obj.taggedModList.length)
    (htags : ConfiguredByTag t.obj.taggedModList) (hconf : (t.obj.modAt k).configure = some conf) :
    Ensures anyFault (do
      let ret ← configureModule v (t.obj.modAt k) conf
      if ret ≠ 0 then pure ret
      else do
        setConfigured k true
        pure 0) t fun r t' => ∃ new, SprKept new t t' ∧
      t'.obj.taggedModList = (if r = 0 then (t.obj.latch k).taggedModList else t.obj.taggedModList) ∧
      ((t.obj.modAt k).tag = .streamSpr → r = 0 ∨ ¬ nextFails t.ext → Told t.obj new) ∧
      ∀ n, builderCalls (v.sess (t.obj.sessObj.getD 0)) conf = some n → Granted n t.ext →
        r = 0 ∧ t'.ext = t.ext.drop n := by
  have hspr : conf = .spr ↔ (t.obj.modAt k).tag = .streamSpr := by
    rw [← configureOf_eq_spr, ← htags _ (modAt_mem hk), hconf, Option.some.injEq]
  rw [ensures_bind]
  refine (configureModule_spec v _ conf).imp ?_
  rintro r t' ⟨new, hsent, htold, hcode⟩
  have htold' : (t.obj.modAt k).tag = .streamSpr → r = 0 ∨ ¬ nextFails t.ext → Told t.obj new := by
    intro htag hok
    obtain ⟨h₁, h₂⟩ := htold (hspr.mpr htag)
    exact h₁ fun hf => hok.elim (h₂ hf) fun hn => hn hf
  rw [ensures_ite]
  refine ⟨fun hr => ⟨new, hsent.kept, ?_, htold', hcode⟩, fun hr => ?_⟩
  · rw [if_neg hr]
    exact hsent.mods
  rw [not_not] at hr
  subst hr
  refine ⟨new, hsent.marked fun _ htag => htold' htag (.inl rfl), ?_, htold', hcode⟩
  rw [if_pos rfl]
  exact congrArg (fun l => List.modify l k fun m => { m with isConfigured := true }) hsent.mods

theorem SprKept.modAt (h : SprKept new t t') (k : ℕ) :
    (t'.obj.modAt k).unmarked = (t.obj.modAt k).unmarked := by
  have hmap : ∀ l : List ModuleInfo,
      (l.map ModuleInfo.unmarked).getD k noModule = (l.getD k noModule).unmarked :=
    fun l => List.getD_map (d := noModule) l ModuleInfo.unmarked
  unfold GraphObj.modAt
  rw [← hmap, h.entries, hmap]

theorem SprKept.tagAt (h : SprKept new t t') (k : ℕ) :
    (t'.obj.modAt k).tag = (t.obj.modAt k).tag := by
  have htag : (t'.obj.modAt k).unmarked.tag = (t.obj.modAt k).unmarked.tag := by rw [h.modAt]
  exact htag

theorem SprKept.length (h : SprKept new t t') :
    t'.obj.taggedModList.length = t.obj.taggedModList.length := entries_length h.entries

theorem SprKept.tags (h : SprKept new t t') (htags : ConfiguredByTag t.obj.taggedModList) :
    ConfiguredByTag t'.obj.taggedModList :=
  entries_forall h.entries (P := fun m => m.configure = configureOf m.tag) (fun _ => Iff.rfl) htags

/-- A started endpoint is no SPR module. -/
theorem endpointStarted_not_spr {mod : ModuleInfo} (h : endpointStarted v mod = true) :
    mod.tag ≠ .streamSpr := by
  intro htag
  unfold endpointStarted at h
  cases hdev : mod.devObj with
  | none => simp [hdev] at h
  | some d => simp [hdev, htag] at h

/-- Without a configuration function it is none either. -/
theorem configure_none_not_spr {k : ℕ} (htags : ConfiguredByTag t.obj.taggedModList)
    (hk : k < t.obj.taggedModList.length) (h : (t.obj.modAt k).configure = none) :
    (t.obj.modAt k).tag ≠ .streamSpr := by
  intro htag
  rw [htags _ (modAt_mem hk), configureOf_eq_spr.mpr htag] at h
  exact nomatch h

/-- A started endpoint is marked without being configured. -/
theorem started_kept {k : ℕ} (h : endpointStarted v (t.obj.modAt k) = true) :
    SprKept [] t { t with obj := t.obj.mark k true } :=
  (Requests.refl t).marked fun _ htag => absurd htag (endpointStarted_not_spr h)

/-! ### Preparing -/

theorem prepareModule_spec (v : View) (stream : SessionConfig) {k : ℕ}
    (hk : k < t.obj.taggedModList.length) (htags : ConfiguredByTag t.obj.taggedModList) :
    Ensures anyFault (prepareModule v stream k) t fun r t' => ∃ new, SprKept new t t' ∧
      (t'.obj.taggedModList = t.obj.taggedModList ∨
        t'.obj.taggedModList = (t.obj.latch k).taggedModList) ∧
      (r = 0 → (t.obj.modAt k).tag = .streamSpr → (t'.obj.modAt k).isConfigured = true) := by
  have hkept : ∀ r : ℤ, r ≠ 0 → ∃ new, SprKept new t t ∧
      (t.obj.taggedModList = t.obj.taggedModList ∨
        t.obj.taggedModList = (t.obj.latch k).taggedModList) ∧
      (r = 0 → (t.obj.modAt k).tag = .streamSpr → (t.obj.modAt k).isConfigured = true) :=
    fun r hr => ⟨[], .refl t, .inl rfl, fun h => absurd h hr⟩
  unfold prepareModule
  rw [ensures_bind, GraphM.obj, ensures_gets]
  dsimp only
  rw [← GraphObj.modAt, ensures_ite]
  refine ⟨fun hconf => ⟨[], .refl t, .inl rfl, fun _ _ => hconf⟩, fun _ => ?_⟩
  rw [ensures_ite]
  refine ⟨fun _ => hkept (-EINVAL) (by decide), fun _ => ?_⟩
  rw [ensures_ite]
  refine ⟨fun _ => hkept (-EINVAL) (by decide), fun _ => ?_⟩
  cases hconf : (t.obj.modAt k).configure with
  | none =>
      exact ⟨[], .refl t, .inl rfl, fun _ htag =>
        absurd htag (configure_none_not_spr htags hk hconf)⟩
  | some conf =>
      dsimp only
      rw [ensures_ite]
      refine ⟨fun hstarted => ?_, fun _ => ?_⟩
      · exact ⟨[], started_kept hstarted, .inr rfl, fun _ htag =>
          absurd htag (endpointStarted_not_spr hstarted)⟩
      refine (marked_spec v k hk htags hconf).imp ?_
      rintro r t' ⟨new, hnew, hmods, -, -⟩
      refine ⟨new, hnew, ?_, fun hr _ => ?_⟩
      · by_cases hr : r = 0
        · rw [hmods, if_pos hr]
          exact .inr rfl
        · rw [hmods, if_neg hr]
          exact .inl rfl
      · rw [if_pos hr] at hmods
        have hat : t'.obj.modAt k = (t.obj.latch k).modAt k :=
          congrArg (fun l => List.getD l k noModule) hmods
        rw [hat, modAt_latch hk, if_pos rfl]

/-- After a loop without failure each SPR module is marked. -/
theorem prepareLoop_spec (v : View) (stream : SessionConfig)
    (htags : ConfiguredByTag t.obj.taggedModList) :
    Ensures anyFault (Prog.forEach (prepareModule v stream) (List.range t.obj.taggedModList.length)) t
      fun r t' => ∃ new, SprKept new t t' ∧ (r = 0 → HasSpr t.obj → SprLatched t'.obj) := by
  have hloop : Ensures anyFault (Prog.forEach (prepareModule v stream)
      (List.range t.obj.taggedModList.length)) t _ := ensures_forEach (E := anyFault)
    (I := fun rest t' => (∃ new, SprKept new t t') ∧ (∀ j ∈ rest, j < t.obj.taggedModList.length) ∧
      ∀ j < t.obj.taggedModList.length, j ∉ rest → (t.obj.modAt j).tag = .streamSpr →
        (t'.obj.modAt j).isConfigured = true)
    (J := fun _ t' => ∃ new, SprKept new t t') ?_ (List.range t.obj.taggedModList.length) t
    ⟨⟨[], .refl t⟩, fun j hj => List.mem_range.mp hj, fun j hj hnot =>
      absurd (List.mem_range.mpr hj) hnot⟩
  · refine hloop.imp fun r t' ⟨hok, hfail⟩ => ?_
    by_cases hr : r = 0
    · obtain ⟨⟨new, hnew⟩, -, hdone⟩ := hok hr
      refine ⟨new, hnew, fun _ hspr => ?_⟩
      obtain ⟨m, hm, htag⟩ := hspr
      obtain ⟨j, hj, rfl⟩ := List.getElem_of_mem hm
      have hat : t.obj.modAt j = t.obj.taggedModList[j] := List.getD_eq_getElem _ _ hj
      rw [← hat] at htag
      refine ⟨t'.obj.modAt j, modAt_mem (hnew.length ▸ hj), ?_, hdone j hj (List.not_mem_nil) htag⟩
      rw [hnew.tagAt, htag]
    · obtain ⟨new, hnew⟩ := hfail hr
      exact ⟨new, hnew, fun h => absurd h hr⟩
  · rintro k rest t₁ ⟨⟨new, hnew⟩, hlt, hdone⟩
    have hk := hlt k List.mem_cons_self
    refine (prepareModule_spec v stream (hnew.length ▸ hk) (hnew.tags htags)).imp ?_
    rintro r t₂ ⟨new', hnew', hmods, hmark⟩
    have htrans := hnew.trans hnew'
    refine ⟨fun hr => ⟨⟨_, htrans⟩, fun j hj => hlt j (List.mem_cons_of_mem _ hj), ?_⟩,
      fun _ => ⟨_, htrans⟩⟩
    intro j hj hnot htag
    by_cases hjk : j = k
    · subst hjk
      exact hmark hr (by rw [hnew.tagAt, htag])
    · have hold := hdone j hj (List.not_mem_cons_of_ne_of_not_mem hjk hnot) htag
      rcases hmods with hmods | hmods
      · have hat : t₂.obj.modAt j = t₁.obj.modAt j :=
          congrArg (fun l => List.getD l j noModule) hmods
        rw [hat, hold]
      · have hat : t₂.obj.modAt j = (t₁.obj.latch k).modAt j :=
          congrArg (fun l => List.getD l j noModule) hmods
        rw [hat, modAt_latch (hnew.length ▸ hj), if_neg (Ne.symm hjk), hold]

/-- As `SprKept`, but the state may change: a graph is prepared only with its SPR module marked. -/
structure SprMoved (new : List GslCall) (t t' : GraphSt) : Prop where
  calls : t'.mem.calls = new ++ t.mem.calls
  handle : t'.obj.handle = t.obj.handle
  entries : t'.obj.taggedModList.map ModuleInfo.unmarked = t.obj.taggedModList.map ModuleInfo.unmarked
  latched : SprLatched t'.obj → SprLatched t.obj ∨ Told t.obj new
  prepared : t'.obj.state = .prepared → t.obj.state = .prepared ∨ (HasSpr t.obj → SprLatched t'.obj)

theorem SprKept.moved (h : SprKept new t t') : SprMoved new t t' :=
  ⟨h.calls, h.handle, h.entries, h.latched, fun hst => .inl (h.state ▸ hst)⟩

/-- A last request, after which the state is assigned. -/
theorem SprKept.assigned (h : SprKept new t t') (cmd : GslCmd) {st : GraphState}
    (hst : st = .prepared → HasSpr t.obj → SprLatched t'.obj) :
    SprMoved (t'.request cmd :: new) t
      { t'.requested cmd with obj := { t'.obj with state := st } } where
  calls := congrArg (t'.request cmd :: ·) h.calls
  handle := h.handle
  entries := h.entries
  latched hl := (h.latched hl).imp id fun htold => htold.append [t'.request cmd]
  prepared h' := .inr (hst h')

theorem SprKept.requested (h : SprKept new t t') (cmd : GslCmd) :
    SprKept (t'.request cmd :: new) t (t'.requested cmd) :=
  h.trans (sent_requested t' cmd).kept

theorem configureBufferParams_spec (sess : SessionObj) :
    Ensures anyFault (configureBufferParams sess) t fun _ t' => ∃ new, Requests new t t' := by
  unfold configureBufferParams
  rw [ensures_bind, GraphM.obj, ensures_gets, ensures_ite]
  refine ⟨fun _ => ⟨[], .refl t⟩, fun _ => ?_⟩
  dsimp only
  rw [ensures_bind, ensures_ioctl, ensures_ite]
  exact ⟨fun _ => ⟨_, sent_requested t _⟩, fun _ => ⟨[_], ⟨rfl, rfl, rfl, rfl, rfl⟩⟩⟩

/-- A graph is prepared with its SPR module marked, or was prepared before. -/
theorem graphPrepareBody_spec (v : View) (htags : ConfiguredByTag t.obj.taggedModList) :
    Ensures anyFault (graphPrepareBody v) t fun r t' => (∃ new, SprMoved new t t') ∧
      (r = 0 → HasSpr t.obj → t.obj.state = .prepared ∨ SprLatched t'.obj) := by
  have hfail : ∀ {r : ℤ} {t₁ : GraphSt}, r ≠ 0 → (∃ new, SprKept new t t₁) →
      (∃ new, SprMoved new t t₁) ∧
        (r = 0 → HasSpr t.obj → t.obj.state = .prepared ∨ SprLatched t₁.obj) :=
    fun hr ⟨new, h⟩ => ⟨⟨new, h.moved⟩, fun h => absurd h hr⟩
  have hrefl : ∃ new, SprKept new t t := ⟨[], .refl t⟩
  unfold graphPrepareBody
  rw [ensures_bind, GraphM.obj, ensures_gets]
  cases t.obj.sessObj with
  | none => exact hfail (by decide) hrefl
  | some s =>
      dsimp only
      rw [ensures_ite]
      refine ⟨fun hprep => ⟨⟨[], (SprKept.refl t).moved⟩, fun _ _ => .inl hprep⟩, fun _ => ?_⟩
      rw [ensures_bind]
      refine (prepareLoop_spec v _ htags).imp ?_
      rintro ret t₁ ⟨new₁, h₁, hmark⟩
      rw [ensures_ite]
      refine ⟨fun hr => hfail hr ⟨new₁, h₁⟩, fun hr => ?_⟩
      have hlatched := hmark (not_not.mp hr)
      rw [ensures_bind]
      have hbufs : Ensures anyFault (if (v.sess s).streamConfig.isHostless = true then pure 0
          else configureBufferParams (v.sess s)) t₁ fun _ t₂ => ∃ new, Requests new t₁ t₂ := by
        rw [ensures_ite]
        exact ⟨fun _ => ⟨[], .refl t₁⟩, fun _ => configureBufferParams_spec _⟩
      refine hbufs.imp ?_
      rintro ret t₂ ⟨new₂, h₂⟩
      have h₁₂ := h₁.trans h₂.kept
      rw [ensures_ite]
      refine ⟨fun hr => hfail hr ⟨_, h₁₂⟩, fun _ => ?_⟩
      rw [ensures_bind, ensures_ioctl, ensures_ite]
      refine ⟨fun hr => hfail (fun h => hr (arErrGetLnxErrCode_eq_zero.mp h))
        ⟨_, h₁₂.requested .prepare⟩, fun _ => ?_⟩
      have hlatched₂ : HasSpr t.obj → SprLatched t₂.obj := by
        intro hspr
        unfold SprLatched
        rw [h₂.mods]
        exact hlatched hspr
      exact ⟨⟨_, h₁₂.assigned .prepare fun _ => hlatched₂⟩, fun _ hspr => .inr (hlatched₂ hspr)⟩

theorem graphStartBody_spec :
    Ensures anyFault graphStartBody t fun _ t' => ∃ new, SprMoved new t t' := by
  unfold graphStartBody
  rw [ensures_bind, ensures_ioctl, ensures_ite]
  refine ⟨fun _ => ⟨_, ((SprKept.refl t).requested .start).moved⟩, fun _ => ?_⟩
  exact ⟨_, (SprKept.refl t).assigned .start nofun⟩

theorem graphStopBody_spec (md : Option MetaData) :
    Ensures anyFault (graphStopBody md) t fun _ t' => ∃ new, SprMoved new t t' := by
  have hrefl : ∃ new, SprMoved new t t := ⟨[], (SprKept.refl t).moved⟩
  unfold graphStopBody
  rw [ensures_bind, GraphM.obj, ensures_gets, ensures_ite]
  refine ⟨fun _ => hrefl, fun _ => ?_⟩
  rw [ensures_ite]
  refine ⟨fun _ => hrefl, fun _ => ?_⟩
  cases md with
  | some md => exact ⟨_, ((SprKept.refl t).requested _).moved⟩
  | none => exact ⟨_, (SprKept.refl t).assigned (.stop none) fun h => by cases h⟩

theorem graphRemoveBody_spec (md : MetaData) :
    Ensures anyFault (graphRemoveBody md) t fun _ t' => ∃ new, SprMoved new t t' :=
  ⟨_, ((SprKept.refl t).requested (.removeGraph md.gkv)).moved⟩

/-! ### Configuration after a change -/

/-- The configuration loop of `graph_add` passes over the module without a request. -/
def Skips (v : View) (m : ModuleInfo) : Prop :=
  m.isConfigured = true ∨ endpointStarted v m = true ∨ m.configure = none

instance (v : View) : DecidablePred (Skips v) := fun _ => inferInstanceAs (Decidable (_ ∨ _ ∨ _))

/-- The configuration loop of `graph_add` gets to the SPR module, and there is memory to tell it. -/
def ReachesSpr (v : View) (sess : SessionObj) : List ModuleInfo → List Answer → Prop
  | [], _ => False
  | m :: mods, ext =>
      if m.tag = .streamSpr then ¬ nextFails ext
      else if Skips v m then ReachesSpr v sess mods ext
      else
        match m.configure.bind (builderCalls sess) with
        | none => False
        | some n => Granted n ext ∧ ReachesSpr v sess mods (ext.drop n)

instance decidableReachesSpr (v : View) (sess : SessionObj) :
    ∀ mods ext, Decidable (ReachesSpr v sess mods ext)
  | [], _ => isFalse id
  | m :: mods, ext =>
      have := fun ext => decidableReachesSpr v sess mods ext
      match h : m.configure.bind (builderCalls sess) with
      | none => decidable_of_iff (if m.tag = .streamSpr then ¬ nextFails ext
          else if Skips v m then ReachesSpr v sess mods ext else False) (by rw [ReachesSpr, h])
      | some n => decidable_of_iff (if m.tag = .streamSpr then ¬ nextFails ext
          else if Skips v m then ReachesSpr v sess mods ext
          else Granted n ext ∧ ReachesSpr v sess mods (ext.drop n)) (by rw [ReachesSpr, h])

theorem addConfigureModule_spec (v : View) {k : ℕ} (hk : k < t.obj.taggedModList.length)
    (htags : ConfiguredByTag t.obj.taggedModList) :
    Ensures anyFault (addConfigureModule v k) t fun r t' => ∃ new, SprKept new t t' ∧
      t'.obj.taggedModList.drop (k + 1) = t.obj.taggedModList.drop (k + 1) ∧
      ((t.obj.modAt k).tag = .streamSpr → r = 0 ∨ ¬ nextFails t.ext → Told t.obj new) ∧
      ((t.obj.modAt k).tag ≠ .streamSpr → if Skips v (t.obj.modAt k) then r = 0 ∧ t'.ext = t.ext
        else ∀ n, (t.obj.modAt k).configure.bind (builderCalls (v.sess (t.obj.sessObj.getD 0))) =
          some n → Granted n t.ext → r = 0 ∧ t'.ext = t.ext.drop n) := by
  have hlatch : (t.obj.latch k).taggedModList.drop (k + 1) = t.obj.taggedModList.drop (k + 1) :=
    List.drop_modify_of_lt _ _ _ _ (Nat.lt_succ_self k)
  unfold addConfigureModule
  rw [ensures_bind, GraphM.obj, ensures_gets]
  dsimp only
  rw [← GraphObj.modAt, ensures_ite]
  refine ⟨fun hskip => ?_, fun hconf => ?_⟩
  · refine ⟨[], .refl t, rfl, fun htag => absurd htag hskip.2, fun _ => ?_⟩
    rw [if_pos (.inl hskip.1)]
    exact ⟨rfl, rfl⟩
  rw [ensures_ite]
  refine ⟨fun hstarted => ?_, fun hstarted => ?_⟩
  · refine ⟨[], started_kept hstarted, hlatch,
      fun htag => absurd htag (endpointStarted_not_spr hstarted), fun _ => ?_⟩
    rw [if_pos (.inr (.inl hstarted))]
    exact ⟨rfl, rfl⟩
  cases hcfg : (t.obj.modAt k).configure with
  | none =>
      refine ⟨[], .refl t, rfl, fun htag => absurd htag (configure_none_not_spr htags hk hcfg),
        fun _ => ?_⟩
      rw [if_pos (.inr (.inr hcfg))]
      exact ⟨rfl, rfl⟩
  | some conf =>
      refine (marked_spec v k hk htags hcfg).imp ?_
      rintro r t' ⟨new, hnew, hmods, hspr, hother⟩
      refine ⟨new, hnew, ?_, hspr, fun htag => ?_⟩
      · rw [hmods]
        split
        · exact hlatch
        · rfl
      · have hno : ¬ Skips v (t.obj.modAt k) := by
          rintro (h | h | h)
          · exact hconf ⟨h, htag⟩
          · exact hstarted h
          · rw [hcfg] at h
            cases h
        rw [if_neg hno]
        exact hother

/-- Where SPR is reached past another module, that one is configured, and SPR is reached with the
answers that are left. -/
theorem ReachesSpr.past {v : View} {sess : SessionObj} {m : ModuleInfo} {mods : List ModuleInfo}
    {ext ext' : List Answer} {r : ℤ} (h : ReachesSpr v sess (m :: mods) ext)
    (htag : m.tag ≠ .streamSpr)
    (hstep : if Skips v m then r = 0 ∧ ext' = ext
      else ∀ n, m.configure.bind (builderCalls sess) = some n → Granted n ext →
        r = 0 ∧ ext' = ext.drop n) :
    r = 0 ∧ ReachesSpr v sess mods ext' := by
  unfold ReachesSpr at h
  rw [if_neg htag] at h
  by_cases hskip : Skips v m
  · rw [if_pos hskip] at hstep h
    rw [hstep.2]
    exact ⟨hstep.1, h⟩
  rw [if_neg hskip] at hstep h
  cases hcalls : m.configure.bind (builderCalls sess) with
  | none =>
      rw [hcalls] at h
      exact h.elim
  | some n =>
      rw [hcalls] at h
      obtain ⟨hr, hext⟩ := hstep n hcalls h.1
      rw [hext]
      exact ⟨hr, h.2⟩

/-- The loop of `graph_add` over the modules from position `k` on. -/
theorem addLoop_spec (v : View) :
    ∀ (n k : ℕ) (t : GraphSt), ConfiguredByTag t.obj.taggedModList →
      k + n = t.obj.taggedModList.length →
      Ensures anyFault (Prog.forEach (addConfigureModule v) (List.range' k n)) t fun r t' =>
        ∃ new, SprKept new t t' ∧
          ((r = 0 ∧ ∃ m ∈ t.obj.taggedModList.drop k, m.tag = .streamSpr) ∨
            ReachesSpr v (v.sess (t.obj.sessObj.getD 0)) (t.obj.taggedModList.drop k) t.ext →
              Told t.obj new)
  | 0, k, t, _, hlen => by
      have hnil : t.obj.taggedModList.drop k = [] := List.drop_eq_nil_of_le (by omega)
      refine ⟨[], .refl t, ?_⟩
      rw [hnil]
      rintro (⟨-, m, hm, -⟩ | h)
      · exact nomatch hm
      · exact h.elim
  | n + 1, k, t, htags, hlen => by
      have hk : k < t.obj.taggedModList.length := by omega
      have hdrop : t.obj.taggedModList.drop k =
          t.obj.modAt k :: t.obj.taggedModList.drop (k + 1) := by
        rw [List.drop_eq_getElem_cons hk]
        exact congrArg (· :: _) (List.getD_eq_getElem _ _ hk).symm
      rw [List.range'_succ, Prog.forEach, ensures_bind, hdrop]
      refine (addConfigureModule_spec v hk htags).imp ?_
      rintro r₁ t₁ ⟨new₁, h₁, hdrop₁, hspr, hother⟩
      rw [ensures_ite]
      refine ⟨fun hr => ⟨new₁, h₁, ?_⟩, fun hr => ?_⟩
      · rintro (⟨h, -⟩ | hreach)
        · exact absurd h hr
        by_cases htag : (t.obj.modAt k).tag = .streamSpr
        · unfold ReachesSpr at hreach
          rw [if_pos htag] at hreach
          exact hspr htag (.inr hreach)
        · exact absurd (hreach.past htag (hother htag)).1 hr
      rw [not_not] at hr
      refine (addLoop_spec v n (k + 1) t₁ (h₁.tags htags) (by rw [h₁.length]; omega)).imp ?_
      rintro r t' ⟨new₂, h₂, htold₂⟩
      refine ⟨new₂ ++ new₁, h₁.trans h₂, fun hcase => ?_⟩
      by_cases htag : (t.obj.modAt k).tag = .streamSpr
      · exact (hspr htag (.inl hr)).append new₂
      refine ((h₁.told new₂).mp (htold₂ ?_)).append_left new₁
      rw [hdrop₁, h₁.sess]
      rcases hcase with ⟨hr, m, hm, hmtag⟩ | hreach
      · rcases List.mem_cons.mp hm with rfl | hm
        · exact absurd hmtag htag
        · exact .inl ⟨hr, m, hm, hmtag⟩
      · exact .inr (hreach.past htag (hother htag)).2

theorem changeConfigureModule_spec (v : View) {k : ℕ} (hk : k < t.obj.taggedModList.length)
    (htags : ConfiguredByTag t.obj.taggedModList) :
    Ensures anyFault (changeConfigureModule v k) t fun _ t' => ∃ new, SprKept new t t' := by
  have hrefl : ∃ new, SprKept new t t := ⟨[], .refl t⟩
  unfold changeConfigureModule
  rw [ensures_bind, GraphM.obj, ensures_gets]
  dsimp only
  rw [← GraphObj.modAt]
  cases hcfg : (t.obj.modAt k).configure with
  | none => exact hrefl
  | some conf =>
      cases (t.obj.modAt k).devObj with
      | none => exact hrefl
      | some d =>
          dsimp only
          rw [ensures_ite]
          refine ⟨fun _ => ?_, fun _ => hrefl⟩
          exact (marked_spec v k hk htags hcfg).imp fun _ _ h => h.imp fun _ hnew => hnew.1

theorem changeLoop_spec (v : View) (htags : ConfiguredByTag t.obj.taggedModList) :
    Ensures anyFault (Prog.forEach (changeConfigureModule v)
      (List.range t.obj.taggedModList.length)) t fun _ t' => ∃ new, SprKept new t t' := by
  have hloop : Ensures anyFault (Prog.forEach (changeConfigureModule v)
      (List.range t.obj.taggedModList.length)) t _ := ensures_forEach (E := anyFault)
    (I := fun rest t' => (∃ new, SprKept new t t') ∧ ∀ j ∈ rest, j < t.obj.taggedModList.length)
    (J := fun _ t' => ∃ new, SprKept new t t') ?_ (List.range t.obj.taggedModList.length) t
    ⟨⟨[], .refl t⟩, fun j hj => List.mem_range.mp hj⟩
  · refine hloop.imp fun r t' ⟨hok, hfail⟩ => ?_
    by_cases hr : r = 0
    · exact (hok hr).1
    · exact hfail hr
  · rintro k rest t₁ ⟨⟨new, hnew⟩, hlt⟩
    have hk : k < t₁.obj.taggedModList.length := hnew.length ▸ hlt k List.mem_cons_self
    refine (changeConfigureModule_spec v hk (hnew.tags htags)).imp ?_
    rintro r t₂ ⟨new', hnew'⟩
    exact ⟨fun _ => ⟨⟨_, hnew.trans hnew'⟩, fun j hj => hlt j (List.mem_cons_of_mem _ hj)⟩,
      fun _ => ⟨_, hnew.trans hnew'⟩⟩

/-! ### Entering an endpoint -/

/-- The tag of the endpoint for a device. -/
def endpointTag (v : View) (d : ℕ) : Tag := (hwEpModule.getD (endpointIndex v d) noModule).tag

theorem endpointTag_cases (v : View) (d : ℕ) :
    (v.dev d).hwEpDir = .audioOutput ∧ endpointTag v d = .deviceHwEndpointRx ∨
      (v.dev d).hwEpDir = .audioInput ∧ endpointTag v d = .deviceHwEndpointTx := by
  unfold endpointTag endpointIndex
  cases (v.dev d).hwEpDir with
  | audioOutput => exact .inl ⟨rfl, rfl⟩
  | audioInput => exact .inr ⟨rfl, rfl⟩

/-- The endpoint of the device was put behind some of the modules. -/
structure Entered (v : View) (d : ℕ) (mods : List ModuleInfo) (new : List GslCall)
    (t t' : GraphSt) : Prop where
  calls : t'.mem.calls = new ++ t.mem.calls
  handle : t'.obj.handle = t.obj.handle
  state : t'.obj.state = t.obj.state
  sess : t'.obj.sessObj = t.obj.sessObj
  entry : ∃ m, t'.obj.taggedModList = mods ++ [m] ∧ m.tag = endpointTag v d ∧
    m.configure = configureOf m.tag

theorem endpointEntry_configure {mem : GraphMem} (ht : Templates mem) (v : View) (d : ℕ) :
    (mem.hwEpModule.getD (endpointIndex v d) noModule).tag = endpointTag v d ∧
    (mem.hwEpModule.getD (endpointIndex v d) noModule).configure = configureOf (endpointTag v d) := by
  have hlt : endpointIndex v d < hwEpModule.length := by
    unfold endpointIndex
    cases (v.dev d).hwEpDir <;> decide
  refine ⟨ht.endpoint_tag _, ?_⟩
  have hreset := ht.endpoint_getD (endpointIndex v d)
  have hconf : (mem.hwEpModule.getD (endpointIndex v d) noModule).reset.configure =
      (hwEpModule.getD (endpointIndex v d) noModule).configure := by rw [hreset]
  exact hconf.trans (congrArg ModuleInfo.configure (endpointModule_eq _ hlt))

/-- `graph_add` enters a new endpoint: GSL knows it, the list does not, and there is memory. -/
def AddEnters (mods : List ModuleInfo) (ext : List Answer) : Prop :=
  ¬ nextFails ext ∧ (∀ m ∈ mods, m.miid ≠ (ext.headD {}).moduleIid) ∧ Granted 3 ext.tail

/-- `graph_change` enters a new endpoint. -/
def ChangeEnters (mods : List ModuleInfo) (ext : List Answer) : Prop :=
  ¬ nextFails ext ∧ (∀ m ∈ mods, m.miid ≠ (ext.headD {}).moduleIid) ∧ ¬ nextFails ext.tail

/-- `graph_change` finds the endpoint in the list. -/
def ChangeFinds (mods : List ModuleInfo) (ext : List Answer) : Prop :=
  ¬ nextFails ext ∧ ∃ m ∈ mods, m.miid = (ext.headD {}).moduleIid

theorem addEndpoint_spec (v : View) (md : MetaData) (d : ℕ) (ht : Templates t.mem) :
    Ensures anyFault (addEndpoint v md d) t fun r t' => (∃ new, SprKept new t t') ∨
      r = 0 ∧ AddEnters t.obj.taggedModList t.ext ∧ t'.ext = t.ext.drop 4 ∧
        ∃ new, Entered v d t.obj.taggedModList new t t' := by
  obtain ⟨htag, hconf⟩ := endpointEntry_configure ht v d
  unfold addEndpoint
  rw [ensures_bind, ensures_gets, ensures_bind, ensures_ofMem, ensures_gsl, ensures_ite]
  refine ⟨fun _ => .inl ⟨[_], Requests.kept ⟨rfl, rfl, rfl, rfl, rfl⟩⟩, fun hinfo => ?_⟩
  dsimp only
  rw [ensures_bind, ensures_ofMem, MemM.modifyMem, ensures_modify, ensures_bind, GraphM.obj,
    ensures_gets]
  dsimp only
  cases hfind : t.obj.taggedModList.findIdx? _ with
  | some k => exact .inl ⟨[_], .unmark rfl rfl⟩
  | none =>
      have hfresh : ∀ m ∈ t.obj.taggedModList, m.miid ≠ (t.ext.headD {}).moduleIid := by
        intro m hm
        simpa using List.findIdx?_eq_none_iff.mp hfind m hm
      dsimp only
      rw [ensures_bind, ensures_ofMem, ensures_copyGkv]
      refine ⟨fun _ => .inl ⟨[_], Requests.kept ⟨rfl, rfl, rfl, rfl, rfl⟩⟩,
        fun _ _ => .inl ⟨[_], Requests.kept ⟨rfl, rfl, rfl, rfl, rfl⟩⟩, fun hgkv hkv => ?_⟩
      rw [ensures_bind, ensures_ofMem, MemM.modifyMem, ensures_modify, ensures_bind, ensures_ofMem,
        ensures_addModule]
      unfold appended
      split
      · exact .inl ⟨[_], Requests.kept ⟨rfl, rfl, rfl, rfl, rfl⟩⟩
      · refine .inr ⟨rfl, ⟨hinfo, hfresh, ?_⟩, ?_, [_], rfl, rfl, rfl, rfl, _, rfl, htag, ?_⟩
        · simp only [granted_succ, granted_zero, and_true]
          exact ⟨not_nextFails.mp hgkv, not_nextFails.mp hkv, not_nextFails.mp ‹_›⟩
        · simp only [← List.drop_one, List.drop_drop]
        · dsimp only
          rw [htag]
          exact hconf

/-- The modules that `graph_change` keeps for a new endpoint. -/
def withoutEndpoints (mods : List ModuleInfo) : List ModuleInfo :=
  mods.filter fun m => !decide (m.tag = .deviceHwEndpointTx ∨ m.tag = .deviceHwEndpointRx)

/-- The endpoint is in the list already, or the query fails; or the endpoints are replaced. -/
theorem changeEndpoint_spec (v : View) (md : MetaData) (d : ℕ) (ht : Templates t.mem) :
    Ensures anyFault (changeEndpoint v md d) t fun r t' =>
      (∃ new, SprKept new t t') ∧
        (r = 0 → ChangeFinds t.obj.taggedModList t.ext) ∨
      r ≠ 0 ∧ (∃ new, t'.mem.calls = new ++ t.mem.calls) ∧ t'.obj.state = t.obj.state ∧
        t'.obj.taggedModList = withoutEndpoints t.obj.taggedModList ∨
      ChangeEnters t.obj.taggedModList t.ext ∧
        ∃ new, Entered v d (withoutEndpoints t.obj.taggedModList) new t t' := by
  obtain ⟨htag, hconf⟩ := endpointEntry_configure ht v d
  unfold changeEndpoint
  rw [ensures_bind, ensures_gets, ensures_bind, ensures_ofMem, ensures_gsl, ensures_ite]
  refine ⟨fun hf => .inl ⟨⟨[_], Requests.kept ⟨rfl, rfl, rfl, rfl, rfl⟩⟩, fun h => ?_⟩, fun hinfo => ?_⟩
  · exact absurd (arErrGetLnxErrCode_eq_zero.mp h) hf
  rw [ensures_bind, GraphM.obj, ensures_gets]
  dsimp only
  cases hfind : t.obj.taggedModList.findIdx? _ with
  | some k =>
      refine .inl ⟨⟨[_], .unmark rfl rfl⟩, fun _ => ?_⟩
      obtain ⟨hk, hmiid, -⟩ := List.findIdx?_eq_some_iff_getElem.mp hfind
      exact ⟨hinfo, _, List.getElem_mem hk, by simpa using hmiid⟩
  | none =>
      have hfresh : ∀ m ∈ t.obj.taggedModList, m.miid ≠ (t.ext.headD {}).moduleIid := by
        intro m hm
        simpa using List.findIdx?_eq_none_iff.mp hfind m hm
      dsimp only
      rw [ensures_bind, GraphM.modifyObj, ensures_modify, ensures_bind, ensures_ofMem,
        ensures_memCalloc, ensures_ite, refused_iff]
      refine ⟨fun _ => .inr (.inl ⟨by decide, ⟨[_], rfl⟩, rfl, rfl⟩), fun hblock => ?_⟩
      have hentered : ChangeEnters t.obj.taggedModList t.ext := ⟨hinfo, hfresh, hblock⟩
      rw [ensures_bind, GraphM.modifyObj, ensures_modify, ensures_bind, ensures_ofMem,
        ensures_copyGkv]
      refine ⟨fun _ => ?_, fun _ _ => ?_, fun _ _ => ?_⟩
      · exact .inr (.inr ⟨hentered, [_], rfl, rfl, rfl, rfl, _, rfl, htag, hconf.trans (htag ▸ rfl)⟩)
      · exact .inr (.inr ⟨hentered, [_], rfl, rfl, rfl, rfl, _, rfl, htag, hconf.trans (htag ▸ rfl)⟩)
      · exact .inr (.inr ⟨hentered, [_], rfl, rfl, rfl, rfl, _, rfl, htag, hconf.trans (htag ▸ rfl)⟩)

/-! ### The ghost component -/

/-- The RX endpoints of a graph that were not named since they were added: `p` are those before a
call, and `new` are the requests of the call. -/
def unannounced (p : List ℕ) (old : List ModuleInfo) (obj : GraphObj) (new : List GslCall) :
    List ℕ :=
  (rxIds obj.taggedModList).filter fun i =>
    (decide (i ∈ p) || !decide (i ∈ rxIds old)) && !named obj.handle new i

theorem unannounced_told {p : List ℕ} {old : List ModuleInfo} {obj : GraphObj}
    (h : Told obj new) : unannounced p old obj new = [] := by
  refine List.filter_eq_nil_iff.mpr fun i hi => ?_
  simp [h i hi]

/-- Nothing is left when nothing was left before and no endpoint was added. -/
theorem unannounced_nil {old : List ModuleInfo} {obj : GraphObj}
    (h : ∀ i ∈ rxIds obj.taggedModList, i ∈ rxIds old) : unannounced [] old obj new = [] := by
  refine List.filter_eq_nil_iff.mpr fun i hi => ?_
  simp [h i hi]

theorem unannounced_trans {p : List ℕ} {old : List ModuleInfo} {obj obj' : GraphObj}
    (hhandle : obj'.handle = obj.handle)
    (hrx : rxIds obj'.taggedModList = rxIds obj.taggedModList) :
    unannounced (unannounced p old obj new) obj.taggedModList obj' new' =
      unannounced p old obj' (new' ++ new) := by
  unfold unannounced
  rw [hrx, hhandle]
  refine List.filter_congr fun i hi => ?_
  simp only [List.mem_filter, hi, named_append]
  cases named obj.handle new i <;> cases named obj.handle new' i <;> simp

/-- Nothing is left on a graph whose SPR module is marked, or that is prepared. -/
structure SprInv (p : List ℕ) (obj : GraphObj) : Prop where
  tags : ConfiguredByTag obj.taggedModList
  told : HasSpr obj → SprLatched obj ∨ obj.state = .prepared → p = []

/-- A part of a call keeps the invariant. -/
structure Stage (p : List ℕ) (t : GraphSt) (new : List GslCall) (t' : GraphSt) : Prop where
  calls : t'.mem.calls = new ++ t.mem.calls
  inv : SprInv (unannounced p t.obj.taggedModList t'.obj new) t'.obj

section stage
variable {p : List ℕ}

theorem stage_told (hcalls : t'.mem.calls = new ++ t.mem.calls)
    (htags : ConfiguredByTag t'.obj.taggedModList) (h : Told t'.obj new) : Stage p t new t' :=
  ⟨hcalls, htags, fun _ _ => unannounced_told h⟩

theorem SprMoved.hasSpr (h : SprMoved new t t') : HasSpr t'.obj ↔ HasSpr t.obj :=
  ⟨entries_exists h.entries.symm (P := fun m => m.tag = .streamSpr) fun _ => Iff.rfl,
    entries_exists h.entries (P := fun m => m.tag = .streamSpr) fun _ => Iff.rfl⟩

theorem SprMoved.told (h : SprMoved new t t') (calls : List GslCall) :
    Told t'.obj calls ↔ Told t.obj calls := told_of_entries h.handle h.entries

/-- The entries stay, so that nothing new is to be announced. -/
theorem SprMoved.nil (h : SprMoved new t t') (hp : p = []) :
    unannounced p t.obj.taggedModList t'.obj new = [] := by
  rw [hp]
  exact unannounced_nil fun i hi => rxIds_of_entries h.entries ▸ hi

theorem SprMoved.stage (h : SprMoved new t t') (hinv : SprInv p t.obj) : Stage p t new t' := by
  refine ⟨h.calls, entries_forall h.entries (P := fun m => m.configure = configureOf m.tag)
    (fun _ => Iff.rfl) hinv.tags, fun hspr hcase => ?_⟩
  have hspr₀ := h.hasSpr.mp hspr
  have hlatched : SprLatched t'.obj → unannounced p t.obj.taggedModList t'.obj new = [] := by
    intro hl
    rcases h.latched hl with hl | htold
    · exact h.nil (hinv.told hspr₀ (.inl hl))
    · exact unannounced_told ((h.told new).mpr htold)
  rcases hcase with hl | hprep
  · exact hlatched hl
  · rcases h.prepared hprep with hprep | hl
    · exact h.nil (hinv.told hspr₀ (.inr hprep))
    · exact hlatched (hl hspr₀)

theorem Stage.moved {t'' : GraphSt} (h : Stage p t new t') (h' : SprMoved new' t' t'') :
    Stage p t (new' ++ new) t'' := by
  have hstage := h'.stage h.inv
  refine ⟨?_, ?_⟩
  · rw [h'.calls, h.calls, List.append_assoc]
  · rw [← unannounced_trans h'.handle (rxIds_of_entries h'.entries)]
    exact hstage.inv

theorem Entered.tags {v : View} {d : ℕ} {mods : List ModuleInfo} (h : Entered v d mods new t t')
    (htags : ConfiguredByTag mods) : ConfiguredByTag t'.obj.taggedModList := by
  obtain ⟨m, hlist, -, hconf⟩ := h.entry
  rw [hlist]
  intro x hx
  rcases List.mem_append.mp hx with hx | hx
  · exact htags x hx
  · rw [List.mem_singleton.mp hx]
    exact hconf

theorem Entered.hasSpr {v : View} {d : ℕ} {mods : List ModuleInfo} (h : Entered v d mods new t t')
    (P : ModuleInfo → Prop) (hspr : ∃ m ∈ t'.obj.taggedModList, m.tag = .streamSpr ∧ P m) :
    ∃ m ∈ mods, m.tag = .streamSpr ∧ P m := by
  obtain ⟨m, hlist, htag, -⟩ := h.entry
  obtain ⟨x, hx, hxtag, hP⟩ := hspr
  rw [hlist, List.mem_append, List.mem_singleton] at hx
  rcases hx with hx | rfl
  · exact ⟨x, hx, hxtag, hP⟩
  · rcases endpointTag_cases v d with ⟨-, he⟩ | ⟨-, he⟩ <;> rw [htag, he] at hxtag <;> cases hxtag

/-- A TX endpoint leaves the RX endpoints as they are. -/
theorem Entered.rxIds_tx {v : View} {d : ℕ} {mods : List ModuleInfo}
    (h : Entered v d mods new t t') (htx : endpointTag v d ≠ .deviceHwEndpointRx) :
    rxIds t'.obj.taggedModList = rxIds mods := by
  obtain ⟨m, hlist, htag, -⟩ := h.entry
  have hm : ¬ m.tag = .deviceHwEndpointRx := htag ▸ htx
  rw [hlist, rxIds_append]
  simp [rxIds, hm]

/-- An endpoint is entered while SPR will still be told of the RX ones. -/
theorem Entered.stage {v : View} {d : ℕ} {mods : List ModuleInfo} (h : Entered v d mods new t t')
    (hinv : SprInv p t.obj) (hsub : mods.Sublist t.obj.taggedModList)
    (hrx : endpointTag v d = .deviceHwEndpointRx → HasSpr t.obj →
      ¬ SprLatched t.obj ∧ t.obj.state ≠ .prepared) : Stage p t new t' := by
  refine ⟨h.calls, h.tags fun m hm => hinv.tags m (hsub.subset hm), fun hspr hcase => ?_⟩
  have hspr₀ : HasSpr t.obj := by
    obtain ⟨m, hm, htag⟩ := hspr
    obtain ⟨m, hm, htag, -⟩ := h.hasSpr (fun _ => True) ⟨m, hm, htag, trivial⟩
    exact ⟨m, hsub.subset hm, htag⟩
  have hcase₀ : SprLatched t.obj ∨ t.obj.state = .prepared := by
    rcases hcase with hl | hprep
    · obtain ⟨m, hm, hmark⟩ := h.hasSpr (fun m => m.isConfigured = true) hl
      exact .inl ⟨m, hsub.subset hm, hmark⟩
    · exact .inr (h.state ▸ hprep)
  by_cases htx : endpointTag v d = .deviceHwEndpointRx
  · obtain ⟨hl, hprep⟩ := hrx htx hspr₀
    exact absurd hcase₀ (not_or.mpr ⟨hl, hprep⟩)
  · rw [hinv.told hspr₀ hcase₀]
    refine unannounced_nil fun i hi => ?_
    rw [h.rxIds_tx htx] at hi
    exact (List.Sublist.map _ (hsub.filter _)).subset hi

end stage

/-! ### The calls on a graph -/

/-- The invariant is kept, and where it must the call leaves nothing unannounced. -/
def Followed (must : Prop) (p : List ℕ) (t : GraphSt) (r : ℤ) (t' : GraphSt) : Prop :=
  ∃ new, Stage p t new t' ∧ (must → r = 0 → HasSpr t'.obj →
    unannounced p t.obj.taggedModList t'.obj new = [])

/-- A new RX endpoint is added before SPR is told for the first time, or the call tells it. -/
def AddTimely (v : View) (d : ℕ) (obj : GraphObj) (ext : List Answer) : Prop :=
  endpointTag v d = .deviceHwEndpointRx → HasSpr obj → obj.state ≠ .closed → ¬ nextFails ext →
    AddEnters obj.taggedModList ext.tail →
    (¬ SprLatched obj ∧ obj.state ≠ .prepared) ∨
      (obj.state = .started ∨ obj.state = .prepared) ∧
        ReachesSpr v (v.sess (obj.sessObj.getD 0)) obj.taggedModList (ext.drop 5)

/-- A new RX endpoint is changed to before SPR is told for the first time and while the graph does
not run; and a started graph is not changed to an endpoint that it has while one is unannounced. -/
def ChangeTimely (v : View) (d : ℕ) (obj : GraphObj) (p : List ℕ) (ext : List Answer) : Prop :=
  HasSpr obj →
    (endpointTag v d = .deviceHwEndpointRx → ChangeEnters obj.taggedModList ext →
      ¬ SprLatched obj ∧ obj.state ≠ .prepared ∧ obj.state ≠ .started) ∧
    (obj.state = .started → ChangeFinds obj.taggedModList ext → p = [])

section bodies
variable {p : List ℕ}

theorem SprMoved.followed {must : Prop} {r : ℤ} (h : SprMoved new t t') (hinv : SprInv p t.obj)
    (hmust : must → r = 0 → HasSpr t.obj → p = [] ∨ SprLatched t'.obj ∨ Told t.obj new) :
    Followed must p t r t' := by
  refine ⟨new, h.stage hinv, fun hm hr hspr => ?_⟩
  rcases hmust hm hr (h.hasSpr.mp hspr) with hp | hl | htold
  · exact h.nil hp
  · exact (h.stage hinv).inv.told hspr (.inl hl)
  · exact unannounced_told ((h.told new).mpr htold)

theorem Stage.failed {must : Prop} {r : ℤ} (h : Stage p t new t') (hr : r ≠ 0) :
    Followed must p t r t' :=
  ⟨new, h, fun _ h0 => absurd h0 hr⟩

theorem graphPrepareBody_followed (v : View) (hinv : SprInv p t.obj) :
    Ensures anyFault (graphPrepareBody v) t fun r t' => Followed True p t r t' := by
  refine (graphPrepareBody_spec v hinv.tags).imp ?_
  rintro r t' ⟨⟨new, h⟩, hr⟩
  refine h.followed hinv fun _ h0 hspr => ?_
  exact (hr h0 hspr).imp (fun hprep => hinv.told hspr (.inr hprep)) .inl

theorem reachesSpr_append {v : View} {sess : SessionObj} {mods : List ModuleInfo}
    (mods' : List ModuleInfo) :
    ∀ {ext : List Answer}, ReachesSpr v sess mods ext → ReachesSpr v sess (mods ++ mods') ext := by
  induction mods with
  | nil => exact fun h => h.elim
  | cons m mods ih =>
      intro ext h
      unfold ReachesSpr at h
      rw [List.cons_append, ReachesSpr]
      by_cases htag : m.tag = .streamSpr
      · rwa [if_pos htag] at h ⊢
      rw [if_neg htag] at h ⊢
      by_cases hskip : Skips v m
      · rw [if_pos hskip] at h ⊢
        exact ih h
      · rw [if_neg hskip] at h ⊢
        cases hcalls : m.configure.bind (builderCalls sess) with
        | none =>
            rw [hcalls] at h
            exact h.elim
        | some n =>
            rw [hcalls] at h
            exact ⟨h.1, ih h.2⟩

/-- The loop of `graph_add` when the graph is configured. -/
theorem addConfigure_spec (v : View) (htags : ConfiguredByTag t.obj.taggedModList) :
    Ensures anyFault (do
      let g ← GraphM.obj
      if g.state = .started ∨ g.state = .prepared then
        Prog.forEach (addConfigureModule v) (List.range g.taggedModList.length)
      else pure 0) t fun r t' => ∃ new, SprKept new t t' ∧
        (t.obj.state = .started ∨ t.obj.state = .prepared →
          r = 0 ∧ HasSpr t.obj ∨
              ReachesSpr v (v.sess (t.obj.sessObj.getD 0)) t.obj.taggedModList t.ext →
            Told t.obj new) := by
  rw [ensures_bind, GraphM.obj, ensures_gets, ensures_ite]
  refine ⟨fun _ => ?_, fun hno => ⟨[], .refl t, fun h => absurd h hno⟩⟩
  rw [List.range_eq_range']
  have hloop := addLoop_spec v t.obj.taggedModList.length 0 t htags (Nat.zero_add _)
  rw [List.drop_zero] at hloop
  refine hloop.imp ?_
  rintro r t' ⟨new, h, htold⟩
  exact ⟨new, h, fun _ => htold⟩

theorem graphAddBody_followed (v : View) (md : MetaData) (dev : Option ℕ) (ht : Templates t.mem)
    (hinv : SprInv p t.obj) (htimely : ∀ d, dev = some d → AddTimely v d t.obj t.ext) :
    Ensures anyFault (graphAddBody v md dev) t fun r t' =>
      Followed (dev ≠ none ∧ (t.obj.state = .started ∨ t.obj.state = .prepared)) p t r t' := by
  have hstart := SprKept.refl t
  unfold graphAddBody
  rw [ensures_bind, GraphM.obj, ensures_gets, ensures_ite]
  refine ⟨fun _ => (hstart.moved.stage hinv).failed (by decide), fun hclosed => ?_⟩
  rw [ensures_bind, ensures_ioctl, ensures_ite]
  have hasked := hstart.requested (.addGraph md.gkv md.ckv)
  refine ⟨fun hf => (hasked.moved.stage hinv).failed fun h => hf (arErrGetLnxErrCode_eq_zero.mp h),
    fun hok => ?_⟩
  cases dev with
  | none =>
      rw [ensures_bind, ensures_pure, if_neg (by decide)]
      refine (addConfigure_spec v (hasked.tags hinv.tags)).imp ?_
      rintro r t' ⟨new, h, -⟩
      exact (hasked.trans h).moved.followed hinv fun hm => absurd rfl hm.1
  | some d =>
      dsimp only
      rw [ensures_bind]
      have ht₁ : Templates (t.requested (.addGraph md.gkv md.ckv)).mem := ht.congr rfl rfl
      refine (addEndpoint_spec v md d ht₁).imp ?_
      rintro ret t₂ (⟨new₂, h₂⟩ | ⟨rfl, henters, hext₂, new₂, h₂⟩)
      · have h₁₂ := hasked.trans h₂
        rw [ensures_ite]
        refine ⟨fun hr => (h₁₂.moved.stage hinv).failed hr, fun _ => ?_⟩
        refine (addConfigure_spec v (h₁₂.tags hinv.tags)).imp ?_
        rintro r t' ⟨new, h, htold⟩
        refine (h₁₂.trans h).moved.followed hinv fun hm hr hspr => .inr (.inr ?_)
        rw [h₁₂.state] at htold
        have hspr₂ : HasSpr t₂.obj := h₁₂.moved.hasSpr.mpr hspr
        exact ((h₁₂.told new).mp (htold hm.2 (.inl ⟨hr, hspr₂⟩))).append_left _
      · rw [if_neg (by decide)]
        have hentered : Entered v d t.obj.taggedModList
            (new₂ ++ [t.request (.addGraph md.gkv md.ckv)]) t t₂ :=
          ⟨by rw [h₂.calls, List.append_assoc]; rfl, h₂.handle, h₂.state, h₂.sess, h₂.entry⟩
        have htags₂ := h₂.tags hinv.tags
        refine (addConfigure_spec v htags₂).imp ?_
        rintro r t' ⟨new, h, htold⟩
        rw [h₂.state] at htold
        have hall : Told t₂.obj new →
            Told t'.obj (new ++ (new₂ ++ [t.request (.addGraph md.gkv md.ckv)])) :=
          fun htold => ((h.told new).mpr htold).append_left _
        have hsafe : Stage p t (new ++ (new₂ ++ [t.request (.addGraph md.gkv md.ckv)])) t' := by
          by_cases hrx : endpointTag v d = .deviceHwEndpointRx ∧ HasSpr t.obj
          · rcases htimely d rfl hrx.1 hrx.2 hclosed hok henters with hnew | ⟨hst, hreach⟩
            · exact (hentered.stage hinv (List.Sublist.refl _) fun _ _ => hnew).moved h.moved
            · refine stage_told ?_ (h.tags htags₂) (hall (htold hst (.inr ?_)))
              · rw [h.calls, hentered.calls, ← List.append_assoc]
              · obtain ⟨m, hlist, -⟩ := h₂.entry
                rw [hext₂, hlist, h₂.sess]
                have hdrop : (t.requested (.addGraph md.gkv md.ckv)).ext.drop 4 = t.ext.drop 5 := by
                  unfold GraphSt.requested
                  dsimp only
                  rw [← List.drop_one, List.drop_drop]
                rw [hdrop]
                exact reachesSpr_append _ hreach
          · exact (hentered.stage hinv (List.Sublist.refl _) fun h₁ h₂ =>
              absurd ⟨h₁, h₂⟩ hrx).moved h.moved
        refine ⟨_, hsafe, fun hm hr hspr => unannounced_told (hall (htold hm.2 (.inl ⟨hr, ?_⟩)))⟩
        exact h.moved.hasSpr.mp hspr

theorem rxIds_withoutEndpoints (mods : List ModuleInfo) : rxIds (withoutEndpoints mods) = [] := by
  unfold rxIds withoutEndpoints
  rw [List.filter_filter, List.map_eq_nil_iff, List.filter_eq_nil_iff]
  intro m _
  simp only [Bool.and_eq_true, decide_eq_true_eq, Bool.not_eq_true', decide_eq_false_iff_not, not_or]
  rintro ⟨hrx, -, hno⟩
  exact hno hrx

theorem unannounced_withoutRx {old : List ModuleInfo} {obj : GraphObj}
    (h : rxIds obj.taggedModList = []) : unannounced p old obj new = [] := by
  unfold unannounced
  rw [h]
  rfl

/-- The end of `graph_change`. -/
theorem changeConfigure_spec (v : View) (md : MetaData) (htags : ConfiguredByTag t.obj.taggedModList) :
    Ensures anyFault (do
      let a ← ioctl (.changeGraph md.gkv md.ckv)
      if a.code ≠ 0 then pure (arErrGetLnxErrCode a.code) else
      let g ← GraphM.obj
      Prog.forEach (changeConfigureModule v) (List.range g.taggedModList.length)) t
      fun _ t' => ∃ new, SprKept new t t' := by
  have hasked := (SprKept.refl t).requested (.changeGraph md.gkv md.ckv)
  rw [ensures_bind, ensures_ioctl, ensures_ite]
  refine ⟨fun _ => ⟨_, hasked⟩, fun _ => ?_⟩
  rw [ensures_bind, GraphM.obj, ensures_gets]
  refine (changeLoop_spec v (hasked.tags htags)).imp ?_
  rintro r t' ⟨new, h⟩
  exact ⟨_, hasked.trans h⟩

theorem graphChangeBody_followed (v : View) (md : MetaData) (dev : Option ℕ) (ht : Templates t.mem)
    (hinv : SprInv p t.obj) (htimely : ∀ d, dev = some d → ChangeTimely v d t.obj p t.ext) :
    Ensures anyFault (graphChangeBody v md dev) t fun r t' =>
      Followed (dev ≠ none ∧ (t.obj.state = .started ∨ t.obj.state = .prepared)) p t r t' := by
  unfold graphChangeBody
  cases dev with
  | none =>
      rw [ensures_bind, ensures_pure, if_neg (by decide)]
      refine (changeConfigure_spec v md hinv.tags).imp ?_
      rintro r t' ⟨new, h⟩
      exact h.moved.followed hinv fun hm => absurd rfl hm.1
  | some d =>
      have hkept : (withoutEndpoints t.obj.taggedModList).Sublist t.obj.taggedModList :=
        List.filter_sublist
      dsimp only
      rw [ensures_bind]
      refine (changeEndpoint_spec v md d ht).imp ?_
      rintro ret t₁ (⟨⟨new₁, h₁⟩, hfinds⟩ | ⟨hr, ⟨new₁, hcalls⟩, -, hlist⟩ | ⟨henters, new₁, h₁⟩)
      · rw [ensures_ite]
        refine ⟨fun hr => (h₁.moved.stage hinv).failed hr, fun hr => ?_⟩
        refine (changeConfigure_spec v md (h₁.tags hinv.tags)).imp ?_
        rintro r t' ⟨new, h⟩
        refine (h₁.trans h).moved.followed hinv fun hm _ hspr => .inl ?_
        rcases hm.2 with hst | hst
        · exact (htimely d rfl hspr).2 hst (hfinds (not_not.mp hr))
        · exact hinv.told hspr (.inr hst)
      · rw [if_pos hr, ensures_pure]
        have hnil : unannounced p t.obj.taggedModList t₁.obj new₁ = [] :=
          unannounced_withoutRx (by rw [hlist, rxIds_withoutEndpoints])
        refine Stage.failed ⟨hcalls, ?_, fun _ _ => hnil⟩ hr
        rw [hlist]
        exact fun m hm => hinv.tags m (hkept.subset hm)
      · have hstage : Stage p t new₁ t₁ := h₁.stage hinv hkept fun hrx hspr =>
          have htime := (htimely d rfl hspr).1 hrx henters
          ⟨htime.1, htime.2.1⟩
        rw [ensures_ite]
        refine ⟨fun hr => hstage.failed hr, fun _ => ?_⟩
        refine (changeConfigure_spec v md hstage.inv.tags).imp ?_
        rintro r t' ⟨new, h⟩
        refine ⟨_, hstage.moved h.moved, fun hm _ hspr => ?_⟩
        by_cases hrx : endpointTag v d = .deviceHwEndpointRx
        · obtain ⟨m, hm', htag, -⟩ := h₁.hasSpr (fun _ => True) (by
            obtain ⟨m, hm', htag⟩ := h.moved.hasSpr.mp hspr
            exact ⟨m, hm', htag, trivial⟩)
          obtain ⟨-, hprep, hstarted⟩ := (htimely d rfl ⟨m, hkept.subset hm', htag⟩).1 hrx henters
          exact absurd hm.2 (not_or.mpr ⟨hstarted, hprep⟩)
        · refine unannounced_withoutRx ?_
          rw [rxIds_of_entries h.entries, h₁.rxIds_tx hrx, rxIds_withoutEndpoints]

end bodies

end kept

/-! ### Runs -/

/-- The service with, for each graph, the RX endpoints that were not announced since they were
added. -/
structure SprWorld where
  world : World
  unannounced : ℕ → List ℕ

/-- The entries of a graph; none if it is closed. -/
def World.modsOf (w : World) (g : ℕ) : List ModuleInfo :=
  match w.heap g with
  | none => []
  | some obj => obj.taggedModList

/-- The requests of a call. -/
def newCalls (w w' : World) : List GslCall :=
  w'.mem.calls.take (w'.mem.calls.length - w.mem.calls.length)

def SprWorld.after (x : SprWorld) (w' : World) : SprWorld where
  world := w'
  unannounced g :=
    match w'.heap g with
    | none => []
    | some obj =>
        Agm.unannounced (x.unannounced g) (x.world.modsOf g) obj (newCalls x.world w')

/-- A call, with the ghost component. -/
def GraphCall.follow (c : GraphCall) : Prog SprWorld Fault ℤ :=
  Prog.zoom SprWorld.world (fun w' x => x.after w') id c.run

/-- The graph is named by a call after which SPR knows every endpoint. -/
def GraphOp.tells (w : World) (g : ℕ) : GraphOp → Prop
  | .graphPrepare g' => g' = g
  | .graphAdd g' _ (some _) | .graphChange g' _ (some _) =>
      g' = g ∧ ∃ obj, w.heap g = some obj ∧ (obj.state = .started ∨ obj.state = .prepared)
  | _ => False

/-- When the call succeeds, SPR was told of every RX endpoint since it was added. -/
def Announces (x : SprWorld) (c : GraphCall) : Prop :=
  Ensures anyFault c.follow x fun r x' => r = 0 → ∀ g obj, c.op.tells x.world g →
    x'.world.heap g = some obj → HasSpr obj → x'.unannounced g = []

/-- The call enters an RX endpoint only while SPR will be told of it. -/
def Timely (x : SprWorld) (c : GraphCall) : Prop :=
  match c.op with
  | .graphAdd g _ (some d) => ∀ obj, x.world.heap g = some obj → AddTimely c.view d obj c.ext
  | .graphChange g _ (some d) => ∀ obj, x.world.heap g = some obj →
      ChangeTimely c.view d obj (x.unannounced g) c.ext
  | _ => True

structure SprWorldInv (x : SprWorld) : Prop where
  templates : Templates x.world.mem
  graphs : ∀ g obj, x.world.heap g = some obj → SprInv (x.unannounced g) obj

section run
variable {x : SprWorld} {w' : World} {g : ℕ} {obj : GraphObj}

theorem after_unannounced (h : w'.heap g = some obj) :
    (x.after w').unannounced g =
      unannounced (x.unannounced g) (x.world.modsOf g) obj (newCalls x.world w') := by
  unfold SprWorld.after
  dsimp only
  rw [h]

theorem modsOf_eq {w : World} (h : w.heap g = some obj) : w.modsOf g = obj.taggedModList := by
  unfold World.modsOf
  rw [h]

/-- A graph that the call is not about. -/
theorem SprWorldInv.idle (hx : SprWorldInv x) (h : x.world.heap g = some obj)
    (h' : w'.heap g = some obj) : SprInv ((x.after w').unannounced g) obj := by
  have hinv := hx.graphs g obj h
  refine ⟨hinv.tags, fun hspr hcase => ?_⟩
  rw [after_unannounced h', modsOf_eq h, hinv.told hspr hcase]
  exact unannounced_nil fun i hi => hi

theorem newCalls_eq {w w' : World} {new : List GslCall} (h : w'.mem.calls = new ++ w.mem.calls) :
    newCalls w w' = new := by
  unfold newCalls
  rw [h, List.length_append, Nat.add_sub_cancel, List.take_left']
  rfl

/-- A call on a graph keeps the invariant, and what it must. -/
theorem onGraph_follows {m : View → GraphM ℤ} {P : GraphObj → Prop} {w : World}
    (hx : SprWorldInv x) (hheap : w.heap = x.world.heap) (hmem : w.mem = x.world.mem)
    (hkeeps : ∀ v, Moves KeepsTemplates (m v))
    (hm : ∀ obj, x.world.heap g = some obj → SprInv (x.unannounced g) obj →
      Ensures anyFault (m ⟨w.sess, w.dev⟩) ⟨obj, w.mem, w.ext⟩ fun r t' =>
        Followed (P obj) (x.unannounced g) ⟨obj, w.mem, w.ext⟩ r t') :
    Ensures anyFault (onGraph (some g) m) w fun r w' => SprWorldInv (x.after w') ∧
      ∃ obj, x.world.heap g = some obj ∧ (P obj → r = 0 → ∀ obj', w'.heap g = some obj' →
        HasSpr obj' → (x.after w').unannounced g = []) := by
  have ht : Templates w.mem := hmem ▸ hx.templates
  rw [onGraph]
  cases hg : w.heap g with
  | none =>
      rw [ensures_onLiveGraph_dead hg]
      exact trivial
  | some obj =>
      apply ensures_onLiveGraph hg
      have hg' : x.world.heap g = some obj := hheap ▸ hg
      have hbody := (hm obj hg' (hx.graphs g obj hg')).and (hkeeps ⟨w.sess, w.dev⟩ _)
      refine hbody.mono (fun _ _ => trivial) ?_
      rintro r t' ⟨⟨new, hstage, hmust⟩, htempl⟩
      have hself : Function.update w.heap g (some t'.obj) g = some t'.obj := Function.update_self ..
      have hnew : newCalls x.world { w with
          heap := Function.update w.heap g (some t'.obj), mem := t'.mem, ext := t'.ext } = new :=
        newCalls_eq (hmem ▸ hstage.calls)
      have hghost : (x.after { w with
          heap := Function.update w.heap g (some t'.obj), mem := t'.mem, ext := t'.ext }).unannounced g =
          unannounced (x.unannounced g) obj.taggedModList t'.obj new := by
        rw [after_unannounced hself, modsOf_eq hg', hnew]
      refine ⟨⟨htempl ht, fun g₁ obj₁ h₁ => ?_⟩, obj, hg', fun hmust₀ hr obj' hobj' hspr => ?_⟩
      · have hheap₁ : Function.update w.heap g (some t'.obj) g₁ = some obj₁ := h₁
        by_cases hne : g₁ = g
        · subst hne
          rw [hself] at hheap₁
          cases hheap₁
          rw [hghost]
          exact hstage.inv
        · rw [Function.update_of_ne hne] at hheap₁
          exact hx.idle (hheap ▸ hheap₁) h₁
      · have hobj₁ : Function.update w.heap g (some t'.obj) g = some obj' := hobj'
        rw [hself] at hobj₁
        cases hobj₁
        rw [hghost]
        exact hmust hmust₀ hr hspr

theorem modulesOf_fresh (gkv : KeyVector) (dev : Option ℕ) (es : List TagSlot) (n : ℕ) :
    ∀ m ∈ modulesOf gkv dev es n, m.configure = configureOf m.tag ∧ m.isConfigured = false := by
  induction es generalizing n with
  | nil => exact nofun
  | cons e es ih =>
      unfold modulesOf moduleFor
      refine List.forall_mem_cons.mpr ⟨?_, ih _⟩
      split
      · exact ⟨rfl, rfl⟩
      · exact ⟨rfl, rfl⟩

/-- Nothing is to be said of a new graph. -/
theorem graphOpen_sprInv {w : World} (md : MetaData) (s : ℕ) (dev : Option ℕ)
    (hx : SprWorldInv x) (hheap : w.heap = x.world.heap) (hmem : w.mem = x.world.mem) :
    Ensures anyFault (graphOpen md s dev) w fun _ w' => SprWorldInv (x.after w') := by
  unfold graphOpen
  rw [ensures_bind, onMem, ensures_zoom]
  refine (graphOpenBody_builtFrom md s dev ⟨w.mem, w.ext⟩ (hmem ▸ hx.templates)).mono
    (fun _ _ => trivial) ?_
  intro r t' h
  dsimp only
  cases hr : r.2 with
  | none => exact ⟨h.templates, fun g obj hg => hx.idle (hheap ▸ hg) hg⟩
  | some obj =>
      obtain ⟨new, hnew, hsub, -⟩ := openPlan_found _ _ _ _ _ _ _ (h.modules obj hr).1
      rw [List.nil_append] at hnew
      have hfresh : ∀ m ∈ obj.taggedModList, m.configure = configureOf m.tag ∧
          m.isConfigured = false := by
        rw [hnew]
        exact fun m hm => modulesOf_fresh _ _ _ _ m (hsub.subset hm)
      dsimp only
      rw [ensures_bind, ensures_modify, ensures_pure]
      refine ⟨h.templates, fun g obj₁ hg => ?_⟩
      have hg' : Function.update w.heap w.nextGraph (some obj) g = some obj₁ := hg
      by_cases hne : g = w.nextGraph
      · rw [hne, Function.update_self] at hg'
        cases hg'
        refine ⟨fun m hm => (hfresh m hm).1, fun _ hcase => ?_⟩
        rcases hcase with ⟨m, hm, -, hmark⟩ | hprep
        · rw [(hfresh m hm).2] at hmark
          cases hmark
        · rw [h.opened obj hr] at hprep
          cases hprep
      · rw [Function.update_of_ne hne] at hg'
        exact hx.idle (hheap ▸ hg') hg

theorem SprWorldInv.close (h : SprWorldInv (x.after w')) (g : ℕ) :
    SprWorldInv (x.after { w' with heap := Function.update w'.heap g none }) := by
  refine ⟨h.templates, fun g₁ obj₁ h₁ => ?_⟩
  have hold : w'.heap g₁ = some obj₁ := by
    have h₁' : Function.update w'.heap g none g₁ = some obj₁ := h₁
    by_cases hne : g₁ = g
    · rw [hne, Function.update_self] at h₁'
      cases h₁'
    · rwa [Function.update_of_ne hne] at h₁'
  have hnow : ({ w' with heap := Function.update w'.heap g none } : World).heap g₁ = some obj₁ := h₁
  rw [after_unannounced hnow]
  have hinv := h.graphs g₁ obj₁ hold
  rw [after_unannounced hold] at hinv
  exact hinv

/-- A call on a graph that announces nothing. -/
theorem onGraph_moved {m : View → GraphM ℤ} {w : World} (hx : SprWorldInv x)
    (hheap : w.heap = x.world.heap) (hmem : w.mem = x.world.mem)
    (hkeeps : ∀ v, Moves KeepsTemplates (m v))
    (hm : ∀ v t, Ensures anyFault (m v) t fun _ t' => ∃ new, SprMoved new t t') :
    Ensures anyFault (onGraph (some g) m) w fun _ w' => SprWorldInv (x.after w') := by
  refine (onGraph_follows (P := fun _ => False) hx hheap hmem hkeeps fun obj _ hinv => ?_).imp
    fun _ _ h => h.1
  refine (hm _ _).imp ?_
  rintro r t' ⟨new, h⟩
  exact h.followed hinv fun hfalse => hfalse.elim

theorem tells_graphAdd {w : World} {g g' : ℕ} {md : MetaData} {dev : Option ℕ} :
    (GraphOp.graphAdd g md dev).tells w g' ↔ dev ≠ none ∧ g = g' ∧
      ∃ obj, w.heap g' = some obj ∧ (obj.state = .started ∨ obj.state = .prepared) := by
  cases dev with
  | none => exact ⟨False.elim, fun h => absurd rfl h.1⟩
  | some d => exact (and_iff_right (Option.some_ne_none d)).symm

theorem tells_graphChange {w : World} {g g' : ℕ} {md : MetaData} {dev : Option ℕ} :
    (GraphOp.graphChange g md dev).tells w g' ↔ dev ≠ none ∧ g = g' ∧
      ∃ obj, w.heap g' = some obj ∧ (obj.state = .started ∨ obj.state = .prepared) := by
  cases dev with
  | none => exact ⟨False.elim, fun h => absurd rfl h.1⟩
  | some d => exact (and_iff_right (Option.some_ne_none d)).symm

/-- What a call announces that enters an endpoint while the graph is prepared or started. -/
theorem entered_announced {g : ℕ} {dev : Option ℕ} {P : GraphObj → Prop} {Q : Prop}
    (h : ∃ obj, x.world.heap g = some obj ∧ ((dev ≠ none ∧ P obj) → Q)) {g' : ℕ}
    (htells : dev ≠ none ∧ g = g' ∧ ∃ obj, x.world.heap g' = some obj ∧ P obj) : Q := by
  obtain ⟨obj, hobj, hmust⟩ := h
  obtain ⟨hdev, rfl, obj', hobj', hst⟩ := htells
  rw [hobj] at hobj'
  cases hobj'
  exact hmust ⟨hdev, hst⟩

/-- A call that meets the condition keeps the invariant and announces what it must. -/
theorem follow_spec (c : GraphCall) (hx : SprWorldInv x) (hc : Timely x c) :
    Ensures anyFault c.follow x fun r x' => SprWorldInv x' ∧
      (r = 0 → ∀ g obj, c.op.tells x.world g → x'.world.heap g = some obj → HasSpr obj →
        x'.unannounced g = []) := by
  have hR := keepsTemplates_routine
  have hquiet : ∀ {r : ℤ} {w' : World}, SprWorldInv (x.after w') → (∀ g, ¬ c.op.tells x.world g) →
      SprWorldInv (x.after w') ∧ (r = 0 → ∀ g obj, c.op.tells x.world g → w'.heap g = some obj →
        HasSpr obj → (x.after w').unannounced g = []) :=
    fun h hno => ⟨h, fun _ g _ htells => absurd htells (hno g)⟩
  unfold GraphCall.follow
  rw [ensures_zoom]
  unfold GraphCall.run
  rw [ensures_bind, ensures_modify]
  have hheap : (c.before x.world).heap = x.world.heap := rfl
  have hmem : (c.before x.world).mem = x.world.mem := rfl
  unfold Timely at hc
  cases hop : c.op with
  | graphOpen md s dev =>
      rw [hop] at hquiet
      exact (graphOpen_sprInv md s dev hx hheap hmem).imp fun _ _ h => hquiet h fun _ => id
  | graphClose g =>
      rw [hop] at hquiet
      unfold GraphOp.run graphClose
      rw [ensures_bind]
      refine (onGraph_moved hx hheap hmem (fun v => ?_) fun v t => ?_).imp fun _ _ h =>
        hquiet (h.close g) fun _ => id
      · exact moves_bind (ioctl_moves hR _) fun _ => moves_pure _
      · exact ⟨_, ((SprKept.refl t).requested .graphClose).moved⟩
  | graphPrepare g =>
      refine (onGraph_follows (P := fun _ => True) hx hheap hmem (graphPrepareBody_moves hR)
        fun obj _ hinv => graphPrepareBody_followed _ hinv).imp ?_
      rintro r w' ⟨hinv, obj, -, hmust⟩
      refine ⟨hinv, fun hr g₁ obj' htells hobj' hspr => ?_⟩
      cases htells
      exact hmust trivial hr obj' hobj' hspr
  | graphStart g =>
      rw [hop] at hquiet
      exact (onGraph_moved hx hheap hmem (fun _ => graphStartBody_moves hR) fun _ _ =>
        graphStartBody_spec).imp fun _ _ h => hquiet h fun _ => id
  | graphStop g md =>
      rw [hop] at hquiet
      exact (onGraph_moved hx hheap hmem (fun _ => graphStopBody_moves hR md) fun _ _ =>
        graphStopBody_spec md).imp fun _ _ h => hquiet h fun _ => id
  | graphAdd g md dev =>
      rw [hop] at hc
      refine (onGraph_follows (m := fun v => graphAddBody v md dev)
        (P := fun obj => dev ≠ none ∧ (obj.state = .started ∨ obj.state = .prepared)) hx hheap hmem
        (fun v => graphAddBody_moves hR v md dev (addEndpoint_keepsTemplates v md))
        fun obj hobj hinv => graphAddBody_followed _ md dev (hmem ▸ hx.templates) hinv ?_).imp ?_
      · rintro d rfl
        exact hc obj hobj
      · rintro r w' ⟨hinv, hmust⟩
        refine ⟨hinv, fun hr g₁ obj' htells hobj' hspr => ?_⟩
        have hentered := tells_graphAdd.mp htells
        obtain rfl := hentered.2.1
        exact entered_announced hmust hentered hr obj' hobj' hspr
  | graphChange g md dev =>
      rw [hop] at hc
      refine (onGraph_follows (m := fun v => graphChangeBody v md dev)
        (P := fun obj => dev ≠ none ∧ (obj.state = .started ∨ obj.state = .prepared)) hx hheap hmem
        (fun v t => graphChangeBody_reaches hR v md dev t fun d _ =>
          changeEndpoint_keepsTemplates v md d t)
        fun obj hobj hinv => graphChangeBody_followed _ md dev (hmem ▸ hx.templates) hinv ?_).imp ?_
      · rintro d rfl
        exact hc obj hobj
      · rintro r w' ⟨hinv, hmust⟩
        refine ⟨hinv, fun hr g₁ obj' htells hobj' hspr => ?_⟩
        have hentered := tells_graphChange.mp htells
        obtain rfl := hentered.2.1
        exact entered_announced hmust hentered hr obj' hobj' hspr
  | graphRemove g md =>
      rw [hop] at hquiet
      exact (onGraph_moved hx hheap hmem (fun _ => graphRemoveBody_moves hR md) fun _ _ =>
        graphRemoveBody_spec md).imp fun _ _ h => hquiet h fun _ => id

/-- **SPR follows the endpoints.**  In a run whose calls enter RX endpoints only while SPR will be
told of them, each successful prepare, and each successful add or change with a device on a prepared
or started graph, leaves no RX endpoint of which SPR was not told since it was added. -/
theorem spr_follows (num : ℕ) (calls : List GraphCall)
    (h : Admits GraphCall.follow Timely calls ⟨startUp num, fun _ => []⟩) :
    Admits GraphCall.follow Announces calls ⟨startUp num, fun _ => []⟩ := by
  have hstart : SprWorldInv ⟨startUp num, fun _ => []⟩ :=
    ⟨templates_startUp num, fun _ _ hg => nomatch hg⟩
  exact Admits.imp GraphCall.follow (fun x c hx hc => (follow_spec c hx hc).imp fun _ _ h => h.1)
    (fun x c hx hc => (follow_spec c hx hc).imp fun _ _ h => h.2) hstart h

end run

/-! ### Runs on one graph -/

instance : DecidablePred HasSpr := fun obj =>
  inferInstanceAs (Decidable (∃ m ∈ obj.taggedModList, m.tag = .streamSpr))

instance : DecidablePred SprLatched := fun obj =>
  inferInstanceAs (Decidable (∃ m ∈ obj.taggedModList, m.tag = .streamSpr ∧ m.isConfigured = true))

instance (mods : List ModuleInfo) (ext : List Answer) : Decidable (AddEnters mods ext) :=
  inferInstanceAs (Decidable (_ ∧ _ ∧ _))

instance (mods : List ModuleInfo) (ext : List Answer) : Decidable (ChangeEnters mods ext) :=
  inferInstanceAs (Decidable (_ ∧ _ ∧ _))

instance (mods : List ModuleInfo) (ext : List Answer) : Decidable (ChangeFinds mods ext) :=
  inferInstanceAs (Decidable (_ ∧ _))

instance (v : View) (d : ℕ) (obj : GraphObj) (ext : List Answer) :
    Decidable (AddTimely v d obj ext) :=
  inferInstanceAs (Decidable (_ → _ → _ → _ → _ → _ ∨ _))

instance (v : View) (d : ℕ) (obj : GraphObj) (p : List ℕ) (ext : List Answer) :
    Decidable (ChangeTimely v d obj p ext) :=
  inferInstanceAs (Decidable (_ → _ ∧ _))

instance decidableTimely : ∀ x c, Decidable (Timely x c)
  | x, ⟨.graphAdd g _ (some d), view, ext⟩ =>
      match h : x.world.heap g with
      | none => isTrue fun _ hobj => absurd (h.symm.trans hobj) nofun
      | some obj => decidable_of_iff (AddTimely view d obj ext) (by simp [Timely, h])
  | x, ⟨.graphChange g _ (some d), view, ext⟩ =>
      match h : x.world.heap g with
      | none => isTrue fun _ hobj => absurd (h.symm.trans hobj) nofun
      | some obj =>
          decidable_of_iff (ChangeTimely view d obj (x.unannounced g) ext) (by simp [Timely, h])
  | _, ⟨.graphAdd _ _ none, _, _⟩ => isTrue trivial
  | _, ⟨.graphChange _ _ none, _, _⟩ => isTrue trivial
  | _, ⟨.graphOpen _ _ _, _, _⟩ => isTrue trivial
  | _, ⟨.graphClose _, _, _⟩ => isTrue trivial
  | _, ⟨.graphPrepare _, _, _⟩ => isTrue trivial
  | _, ⟨.graphStart _, _, _⟩ => isTrue trivial
  | _, ⟨.graphStop _ _, _, _⟩ => isTrue trivial
  | _, ⟨.graphRemove _ _, _, _⟩ => isTrue trivial

/-- A playback graph with an SPR module and the RX endpoint `7` is opened, prepared and started;
everything succeeds. -/
def startSpr : List GraphCall :=
  [⟨.graphOpen {} 0 (some 0), ⟨fun _ => {}, fun _ => {}⟩, [{}, {}, {},
      { tags := [{ tag := .streamSpr, modules := [{ moduleIid := 5 }] },
        { tag := .deviceHwEndpointRx, modules := [{ moduleIid := 7 }] }] }]⟩,
    ⟨.graphPrepare 0, ⟨fun _ => {}, fun _ => {}⟩, []⟩, ⟨.graphStart 0, ⟨fun _ => {}, fun _ => {}⟩, []⟩]

/-- The RX endpoint `9` is added. -/
def addRx : GraphCall := ⟨.graphAdd 0 {} (some 1), ⟨fun _ => {}, fun _ => {}⟩, [{}, { moduleIid := 9 }]⟩

theorem spr_follows_addRx :
    Admits GraphCall.follow Announces (startSpr ++ [addRx]) ⟨startUp 1, fun _ => []⟩ :=
  spr_follows 1 (startSpr ++ [addRx]) (by decide +kernel)

/-- Changed to the RX endpoint `9` instead, the running graph does not tell SPR of it. -/
theorem spr_follows_changeRx :
    ∃ x, runAll GraphCall.follow startSpr ⟨startUp 1, fun _ => []⟩ = .ok ((), x) ∧
      ¬ Announces x (changeRx 0 []) := by
  obtain ⟨_, x, hrun, hstate, hchange⟩ := Ensures.exists_ok (m := runAll GraphCall.follow startSpr)
    (s := ⟨startUp 1, fun _ => []⟩)
    (Q := fun _ x => (x.world.heap 0).map GraphObj.state = some .started ∧
      Ensures noFault (changeRx 0 []).follow x fun r x' => r = 0 ∧ x'.unannounced 0 = [9] ∧
        (x'.world.heap 0).map (fun obj => decide (HasSpr obj)) = some true) (by decide +kernel)
  refine ⟨x, hrun, fun h => ?_⟩
  obtain ⟨r, x', -, ⟨hr, hleft, hspr⟩, hnone⟩ := Ensures.exists_ok (hchange.and h)
  obtain ⟨obj, hobj, hst⟩ := Option.map_eq_some_iff.mp hstate
  obtain ⟨obj', hobj', hspr⟩ := Option.map_eq_some_iff.mp hspr
  have hempty := hnone hr 0 obj' ⟨rfl, obj, hobj, .inl hst⟩ hobj' (of_decide_eq_true hspr)
  rw [hleft] at hempty
  exact nomatch hempty

end Agm
