import Agm.MetadataMerge

/-! # Calibration

`metadata_update_cal` gives each calibration pair the value of the last entry of a vector with its
key.  It leaves the keys alone, so it makes no difference whether it runs before a merge or after
(`updateCal_commutes`). -/

namespace Agm

open Prog FirstWins

/-! ### The last entry wins -/

/-- The value of the last entry of a key. -/
def lastValue (k : ℕ) (c : List KeyValue) : Option ℕ :=
  (c.reverse.find? fun e => decide (e.key = k)).map KeyValue.value

/-- A pair with the value that a calibration vector has for its key. -/
def KeyValue.override (c : List KeyValue) (e : KeyValue) : KeyValue :=
  { e with value := (lastValue e.key c).getD e.value }

theorem updatedValue_eq (e : KeyValue) (c : List KeyValue) : updatedValue e c = e.override c := by
  induction c generalizing e with
  | nil => rfl
  | cons x c ih =>
      have hlast : lastValue e.key (x :: c) =
          (lastValue e.key c).or (if x.key = e.key then some x.value else none) := by
        unfold lastValue
        rw [List.reverse_cons, List.find?_append, Option.map_or]
        by_cases hx : x.key = e.key
        · simp [hx]
        · simp [hx]
      rw [updatedValue, ih]
      unfold KeyValue.override
      rw [hlast]
      by_cases hx : e.key = x.key
      · rw [if_pos hx, if_pos hx.symm]
        cases lastValue e.key c with
        | none => rfl
        | some v => rfl
      · rw [if_neg hx, if_neg fun h => hx h.symm, Option.or_none]

/-- The value after the update. -/
def MetaData.updated (c : List KeyValue) (m : MetaData) : MetaData :=
  { m with
    ckv :=
      { m.ckv with
        kv := m.ckv.kv.map fun a =>
          (a.take m.ckv.numKvs).map (KeyValue.override c) ++ a.drop m.ckv.numKvs } }

def MetaLists.override (c : List KeyValue) (x : MetaLists) : MetaLists :=
  { x with ckv := x.ckv.map (KeyValue.override c) }

section update
variable {m : MetaData} (c : List KeyValue)

theorem metadataUpdateCal_ensures (h : m.Readable) (ext : List Answer) :
    Ensures noFault (metadataUpdateCal m c) ext fun m' ext' => m' = m.updated c ∧ ext' = ext := by
  unfold metadataUpdateCal
  rw [ensures_bind]
  refine (readArray_take h.ckv ext).imp ?_
  rintro l _ ⟨rfl, rfl⟩
  rw [ensures_pure]
  refine ⟨?_, rfl⟩
  simp only [updatedValue_eq, MetaData.updated]
  cases m.ckv.kv with
  | none => rfl
  | some a => rfl

theorem readable_updated (h : m.Readable) : (m.updated c).Readable := by
  refine ⟨h.gkv, ?_, h.sgProps⟩
  have hckv := h.ckv
  unfold MetaData.updated
  cases hkv : m.ckv.kv with
  | none => rwa [hkv] at hckv
  | some a =>
      rw [hkv] at hckv
      dsimp only [Option.getD_some, Option.map_some] at hckv ⊢
      rw [List.length_append, List.length_map, List.length_take, List.length_drop]
      omega

theorem lists_updated (h : m.Readable) : (m.updated c).lists = m.lists.override c := by
  have hckv := h.ckv
  unfold MetaData.updated MetaData.lists MetaLists.override KeyVector.list
  dsimp only
  rw [MetaLists.mk.injEq]
  refine ⟨rfl, ?_, rfl, rfl⟩
  cases hkv : m.ckv.kv with
  | none => simp
  | some a =>
      rw [hkv] at hckv
      dsimp only [Option.getD_some, Option.map_some] at hckv ⊢
      have hlen : ((a.take m.ckv.numKvs).map (KeyValue.override c)).length = m.ckv.numKvs := by
        rw [List.length_map, List.length_take]
        omega
      rw [List.take_append_of_le_length hlen.ge, List.take_of_length_le hlen.le]

/-- A merge of updated values is the update of the merge. -/
theorem MetaLists.merge_override (ls : List MetaLists) :
    MetaLists.merge (ls.map (override c)) = (MetaLists.merge ls).override c := by
  have hckv : (ls.map (override c)).flatMap ckv =
      (ls.flatMap ckv).map (KeyValue.override c) := by
    rw [List.flatMap_map, List.map_flatMap]
    rfl
  unfold MetaLists.merge
  rw [hckv, firstWins_map KeyValue.key (KeyValue.override c) fun _ => rfl, List.flatMap_map,
    List.flatMap_map, List.getLast?_map, Option.map_map]
  rfl

theorem merge_lists_gkv (ms : List MetaData) : (MetaLists.merge (ms.map MetaData.lists)).gkv =
    firstWins KeyValue.key (ms.flatMap fun m => m.gkv.list) := by
  unfold MetaLists.merge
  dsimp only
  rw [List.flatMap_map]
  rfl

theorem merge_lists_ckv (ms : List MetaData) : (MetaLists.merge (ms.map MetaData.lists)).ckv =
    firstWins KeyValue.key (ms.flatMap fun m => m.ckv.list) := by
  unfold MetaLists.merge
  dsimp only
  rw [List.flatMap_map]
  rfl

/-- Update each value. -/
def updateCals (c : List KeyValue) : List MetaData → EnvM (List MetaData)
  | [] => pure []
  | m :: ms => do
      let m' ← metadataUpdateCal m c
      let rest ← updateCals c ms
      pure (m' :: rest)

theorem updateCals_ensures {ms : List MetaData} (h : ∀ m ∈ ms, m.Readable) (ext : List Answer) :
    Ensures noFault (updateCals c ms) ext fun us ext' =>
      us = ms.map (MetaData.updated c) ∧ ext' = ext := by
  induction ms with
  | nil => exact ⟨rfl, rfl⟩
  | cons m ms ih =>
      obtain ⟨hm, hms⟩ := List.forall_mem_cons.mp h
      rw [updateCals, ensures_bind]
      refine (metadataUpdateCal_ensures c hm ext).imp ?_
      rintro m' _ ⟨rfl, rfl⟩
      rw [ensures_bind]
      refine (ih hms).imp ?_
      rintro rest _ ⟨rfl, rfl⟩
      exact ⟨rfl, rfl⟩

/-- A merge of values, none of them missing. -/
theorem metadataMerge_some_ensures {ms : List MetaData} (h : ∀ m ∈ ms, m.Readable)
    (ext : List Answer) :
    Ensures noFault (metadataMerge (ms.map some)) ext fun r ext' =>
      (Granted 4 ext → ext' = ext.drop 4 ∧ ∃ md, r = some md ∧ md.Readable ∧
        md.lists = MetaLists.merge (ms.map MetaData.lists)) ∧ (¬ Granted 4 ext → r = none) := by
  have hargs : ∀ m, some m ∈ ms.map some → m.Readable := by
    intro m hm
    obtain ⟨m', hm', he⟩ := List.mem_map.mp hm
    cases he
    exact h m hm'
  refine (metadataMerge_ensures hargs ext).imp fun r ext' hr => ⟨fun hext => ?_, hr.2⟩
  obtain ⟨rfl, rfl⟩ := hr.1 hext
  refine ⟨rfl, _, rfl, mergedValue_readable _ _ _ _, ?_⟩
  rw [mergedArgs_lists, reduceOption_map_some]

end update

/-! ### Calibrating an interface -/

/-- Faults other than crashes. -/
def noCrash (f : Fault) : Prop := ∃ g, f = .useAfterClose g

/-- A call that makes external calls only and does not crash. -/
theorem ensures_env {α : Type} {m : EnvM α} {w : World} {Q : α → List Answer → Prop}
    (h : Ensures noFault m w.ext Q) :
    Ensures noCrash (env m) w fun a w' => ∃ ext, Q a ext ∧ w' = { w with ext := ext } := by
  unfold env
  rw [ensures_zoom]
  exact h.mono (fun _ he => he.elim) fun _ ext hq => ⟨ext, hq, rfl⟩

section calibrate
variable {w : World} {s i : ℕ} (c : List KeyValue)

theorem ensures_env_updateCal {m : MetaData} (h : m.Readable) {E : Fault → Prop}
    {Q : MetaData → World → Prop} :
    Ensures E (env (metadataUpdateCal m c)) w Q ↔ Q (m.updated c) w := by
  obtain ⟨m', ext, hok, rfl, rfl⟩ := (metadataUpdateCal_ensures c h w.ext).exists_ok
  unfold env
  rw [ensures_zoom, ensures_iff_of_ok hok]

/-- The interface is there with a device, and the metadata to be merged is readable. -/
structure World.Calibrates (w : World) (s i d : ℕ) : Prop where
  pos : i < (w.sess s).aifPool.length
  device : (w.aif s i).devObj = some d
  sess : (w.sess s).sessMeta.Readable
  aif : (w.aif s i).sessAifMeta.Readable
  dev : (w.dev d).metadata.Readable

/-- The state after the three updates. -/
def calibrated (c : List KeyValue) (s i d : ℕ) (w : World) : World :=
  { w with
    sess := Function.update w.sess s { w.sess s with
      sessMeta := (w.sess s).sessMeta.updated c
      aifPool := (w.sess s).aifPool.modify i fun a =>
        { a with sessAifMeta := (w.aif s i).sessAifMeta.updated c } }
    dev := Function.update w.dev d { w.dev d with metadata := (w.dev d).metadata.updated c } }

/-- The values that are merged for an interface. -/
def World.aifValues (w : World) (s i d : ℕ) : List MetaData :=
  [(w.sess s).sessMeta, (w.aif s i).sessAifMeta, (w.dev d).metadata]

theorem calibrated_aif {d : ℕ} (h : w.Calibrates s i d) :
    (calibrated c s i d w).aif s i =
      { w.aif s i with sessAifMeta := (w.aif s i).sessAifMeta.updated c } := by
  have hpos := h.pos
  unfold calibrated World.aif
  dsimp only
  rw [Function.update_self, List.getD_eq_getElem?_getD, List.getElem?_modify_eq,
    List.getElem?_eq_getElem hpos, List.getD_eq_getElem _ _ hpos]
  rfl

theorem calibrated_values {d : ℕ} (h : w.Calibrates s i d) :
    (calibrated c s i d w).aifValues s i d = (w.aifValues s i d).map (MetaData.updated c) := by
  unfold World.aifValues
  rw [calibrated_aif c h]
  unfold calibrated
  dsimp only
  rw [Function.update_self, Function.update_self]
  rfl

theorem World.Calibrates.values {d : ℕ} (h : w.Calibrates s i d) :
    ∀ m ∈ w.aifValues s i d, m.Readable := by
  intro m hm
  rcases List.mem_cons.mp hm with rfl | hm
  · exact h.sess
  rcases List.mem_pair.mp hm with rfl | rfl
  · exact h.aif
  · exact h.dev

theorem mergeAif_values {d : ℕ} {E : Fault → Prop} {Q : Option MetaData → World → Prop}
    (hd : (w.aif s i).devObj = some d) :
    Ensures E (mergeAif s i) w Q ↔
      Ensures E (env (metadataMerge ((w.aifValues s i d).map some))) w Q := by
  unfold mergeAif devMetadata
  simp only [ensures_bind, ensures_getSess, ensures_getAif, hd, ensures_gets]
  exact Iff.rfl

/-- Updated values, merged. -/
theorem metadataMerge_updated {ms : List MetaData} (h : ∀ m ∈ ms, m.Readable) (ext : List Answer) :
    Ensures noFault (metadataMerge ((ms.map (MetaData.updated c)).map some)) ext fun r _ =>
      (Granted 4 ext → ∃ md, r = some md ∧
        md.lists = (MetaLists.merge (ms.map MetaData.lists)).override c) ∧
      (¬ Granted 4 ext → r = none) := by
  have hread : ∀ m ∈ ms.map (MetaData.updated c), m.Readable := by
    intro m hm
    obtain ⟨m', hm', rfl⟩ := List.mem_map.mp hm
    exact readable_updated c (h m' hm')
  have hlists : (ms.map (MetaData.updated c)).map MetaData.lists =
      (ms.map MetaData.lists).map (MetaLists.override c) := by
    rw [List.map_map, List.map_map]
    exact List.map_congr_left fun m hm => lists_updated c (h m hm)
  refine (metadataMerge_some_ensures hread ext).imp fun r _ hr => ⟨fun hext => ?_, hr.2⟩
  obtain ⟨-, md, rfl, -, hmd⟩ := hr.1 hext
  refine ⟨md, rfl, ?_⟩
  rw [hmd, hlists, MetaLists.merge_override]

/-- A calibration is sent as it is, on the handle of the graph. -/
theorem graphSetCal_sends {p : Option ℕ} {md : MetaData} :
    Ensures noCrash (graphSetCal p md) w fun r w' =>
      (p = none → r ≠ 0 ∧ w'.mem.calls = w.mem.calls) ∧
      ∀ g, p = some g → ∃ obj code, w.heap g = some obj ∧ r = arErrGetLnxErrCode code ∧
        w'.mem.calls = ⟨some obj.handle, .setCal md.gkv md.ckv, code⟩ :: w.mem.calls := by
  unfold graphSetCal onGraph
  cases p with
  | none =>
      rw [ensures_pure]
      exact ⟨fun _ => ⟨by decide, rfl⟩, nofun⟩
  | some g =>
      cases hg : w.heap g with
      | none => exact (ensures_onLiveGraph_dead hg).mpr ⟨g, rfl⟩
      | some obj =>
          apply ensures_onLiveGraph hg
          refine ⟨nofun, ?_⟩
          rintro _ ⟨⟩
          exact ⟨obj, _, hg, rfl, rfl⟩

/-- A calibration is sent: the call is not refused, its merge has memory and there is a graph. -/
def CalSent (w : World) (s i : ℕ) : Prop :=
  (w.sess s).state ≠ .sessionClosed ∧ (w.aif s i).state.isOpened = true ∧ Granted 4 w.ext ∧
    (w.sess s).graph ≠ none

/-- What the calibration of an interface sends: the merge of the values of the session, the
interface and the device, its calibration pairs overridden. -/
def SendsCal (c : List KeyValue) (w : World) (s i d : ℕ) (r : ℤ) (w' : World) : Prop :=
  ∃ g obj gkv ckv code, (w.sess s).graph = some g ∧ w.heap g = some obj ∧
    r = arErrGetLnxErrCode code ∧
    w'.mem.calls = ⟨some obj.handle, .setCal gkv ckv, code⟩ :: w.mem.calls ∧
    gkv.list = firstWins KeyValue.key ((w.aifValues s i d).flatMap fun m => m.gkv.list) ∧
    ckv.list = (firstWins KeyValue.key ((w.aifValues s i d).flatMap fun m => m.ckv.list)).map
      (KeyValue.override c)

theorem withAif_found {aif : ℕ} {m : ℕ → AgmM ℤ} {E : Fault → Prop} {Q : ℤ → World → Prop}
    (hfind : aifObjGetFromPool (w.sess s) aif = some i) :
    Ensures E (withAif s aif m) w Q ↔ Ensures E (m i) w Q := by
  unfold withAif aifObjGet
  simp only [ensures_bind, ensures_getSess]
  rw [hfind]
  simp only [ensures_pure, ne_eq, not_true_eq_false, if_false]

theorem sessionObjSetSessAifCal_ensures {aif d : ℕ} (h : w.Calibrates s i d)
    (hfind : aifObjGetFromPool (w.sess s) aif = some i) :
    Ensures noCrash (sessionObjSetSessAifCal s aif c) w fun r w' =>
      (CalSent w s i → SendsCal c w s i d r w') ∧
        (¬ CalSent w s i → r ≠ 0 ∧ w'.mem.calls = w.mem.calls) := by
  unfold sessionObjSetSessAifCal
  rw [withAif_found hfind]
  simp only [ensures_bind, ensures_getSess, ensures_getAif, h.device]
  rw [ensures_ite]
  refine ⟨fun hbad => ?_, fun hok => ?_⟩
  · have hnot : ¬ CalSent w s i := by
      rintro ⟨hstate, hopened, -⟩
      rcases hbad with hclosed | hclosed
      · exact hstate hclosed
      · simp [hopened] at hclosed
    rw [ensures_pure]
    exact ⟨fun hs => absurd hs hnot, fun _ => ⟨by decide, rfl⟩⟩
  rw [not_or] at hok
  have hopened : (w.aif s i).state.isOpened = true := by simpa using hok.2
  have hdev : ((calibrated c s i d w).aif s i).devObj = some d := by
    rw [calibrated_aif c h]
    exact h.device
  unfold modifyAif modifySess
  simp only [ensures_bind, ensures_env_updateCal c h.sess, ensures_modify,
    ensures_env_updateCal c h.aif, ensures_gets]
  rw [ensures_env_updateCal c h.dev]
  -- the three updates together
  suffices hsend : Ensures noCrash _ (calibrated c s i d w) _ by
    refine Eq.mp (congrArg (Ensures noCrash _ · _) ?_) hsend
    unfold calibrated
    simp only [Function.update_self, Function.update_idem]
  rw [mergeAif_values hdev, calibrated_values c h]
  refine (ensures_env (metadataMerge_updated c h.values _)).imp ?_
  rintro merged _ ⟨ext, hmerge, rfl⟩
  by_cases hext : Granted 4 w.ext
  · obtain ⟨md, rfl, hlists⟩ := hmerge.1 hext
    refine graphSetCal_sends.imp fun r w' hsend => ⟨fun hs => ?_, fun hns => ?_⟩
    · obtain ⟨g, hg⟩ := Option.ne_none_iff_exists'.mp hs.2.2.2
      obtain ⟨obj, code, hobj, hr, hcalls⟩ := hsend.2 g hg
      exact ⟨g, obj, md.gkv, md.ckv, code, hg, hobj, hr, hcalls,
        (congrArg MetaLists.gkv hlists).trans (merge_lists_gkv _),
        (congrArg MetaLists.ckv hlists).trans (congrArg _ (merge_lists_ckv _))⟩
    · have hnone : (w.sess s).graph = none := by
        by_contra hg
        exact hns ⟨hok.1, hopened, hext, hg⟩
      exact hsend.1 hnone
  · obtain rfl := hmerge.2 hext
    rw [ensures_pure]
    exact ⟨fun hs => absurd hs.2.2.1 hext, fun _ => ⟨by decide, rfl⟩⟩

/-- An interface that is not in the pool is created closed, and the call is refused. -/
theorem sessionObjSetSessAifCal_unknown {aif : ℕ}
    (hfind : aifObjGetFromPool (w.sess s) aif = none) :
    Ensures noCrash (sessionObjSetSessAifCal s aif c) w fun r w' =>
      r ≠ 0 ∧ w'.mem.calls = w.mem.calls := by
  unfold sessionObjSetSessAifCal withAif aifObjGet
  simp only [ensures_bind, ensures_getSess]
  rw [hfind]
  dsimp only
  rw [ensures_bind]
  have hcreate : Ensures noCrash (aifObjCreate aif) w fun obj w' =>
      (∀ a, obj = some a → a.state = .aifClosed) ∧ w' = { w with ext := w.ext.tail } := by
    unfold aifObjCreate env
    rw [ensures_bind, ensures_zoom, ensures_calloc, ensures_ite]
    refine ⟨fun _ => ⟨fun a h => (by cases h), rfl⟩, fun _ => ?_⟩
    rw [ensures_bind, ensures_deviceGetObj, ensures_ite]
    refine ⟨fun _ => ⟨?_, rfl⟩, fun _ => ⟨?_, rfl⟩⟩
    · rintro a ⟨⟩
      rfl
    · rintro a ⟨⟩
      rfl
  refine hcreate.imp ?_
  rintro obj _ ⟨hclosed, rfl⟩
  cases obj with
  | none => exact ⟨by decide, rfl⟩
  | some obj =>
      dsimp only
      unfold modifySess
      rw [ensures_bind, ensures_modify, ensures_pure, if_neg (not_not.mpr rfl)]
      simp only [ensures_bind, ensures_getSess, ensures_getAif]
      rw [ensures_ite]
      refine ⟨fun _ => ⟨by decide, rfl⟩, fun hok => absurd (.inr ?_) hok⟩
      rw [World.aif]
      dsimp only
      rw [Function.update_self, List.getD_append_right _ _ _ _ le_rfl, Nat.sub_self,
        List.getD_cons_zero, hclosed obj rfl]
      rfl

end calibrate

/-- `metadata_update_cal` before a merge or after it gives the same value; it changes only values of
calibration pairs, each to that of the last entry with its key; and the calibration of an interface
sends the merge, overridden. -/
theorem updateCal_commutes (c : List KeyValue) :
    (∀ (ms : List MetaData) (ext : List Answer), (∀ m ∈ ms, m.Readable) →
      Ensures noFault (do
        let us ← updateCals c ms
        metadataMerge (us.map some)) ext fun r₁ _ =>
      Ensures noFault (do
        let merged ← metadataMerge (ms.map some)
        match merged with
        | none => pure none
        | some md => do
            let md' ← metadataUpdateCal md c
            pure (some md')) ext fun r₂ _ =>
      r₁.map MetaData.lists = r₂.map MetaData.lists) ∧
    (∀ (m : MetaData) (ext : List Answer), m.Readable →
      Ensures noFault (metadataUpdateCal m c) ext fun m' _ =>
        m'.gkv = m.gkv ∧ m'.sgProps = m.sgProps ∧ m'.ckv.numKvs = m.ckv.numKvs ∧
        m'.ckv.list = m.ckv.list.map fun e => ⟨e.key, (lastValue e.key c).getD e.value⟩) ∧
    ∀ (w : World) (s aif : ℕ),
      (∀ i d, aifObjGetFromPool (w.sess s) aif = some i → w.Calibrates s i d →
        Ensures noCrash (sessionObjSetSessAifCal s aif c) w fun r w' =>
          (CalSent w s i → SendsCal c w s i d r w') ∧
            (¬ CalSent w s i → r ≠ 0 ∧ w'.mem.calls = w.mem.calls)) ∧
      (aifObjGetFromPool (w.sess s) aif = none →
        Ensures noCrash (sessionObjSetSessAifCal s aif c) w fun r w' =>
          r ≠ 0 ∧ w'.mem.calls = w.mem.calls) := by
  refine ⟨fun ms ext h => ?_, fun m ext h => ?_, fun w s aif => ⟨fun i d hfind h => ?_, ?_⟩⟩
  · rw [ensures_bind]
    refine (updateCals_ensures c h ext).imp ?_
    rintro _ _ ⟨rfl, rfl⟩
    refine (metadataMerge_updated c h _).imp fun r₁ _ h₁ => ?_
    rw [ensures_bind]
    refine (metadataMerge_some_ensures h _).imp fun r₂ ext₂ h₂ => ?_
    rename_i ext _
    by_cases hext : Granted 4 ext
    · obtain ⟨md₁, rfl, hl₁⟩ := h₁.1 hext
      obtain ⟨-, md₂, rfl, hr₂, hl₂⟩ := h₂.1 hext
      dsimp only
      rw [ensures_bind]
      refine (metadataUpdateCal_ensures c hr₂ _).imp ?_
      rintro _ _ ⟨rfl, rfl⟩
      rw [ensures_pure, Option.map_some, Option.map_some, hl₁, lists_updated c hr₂, hl₂]
    · rw [h₁.2 hext, h₂.2 hext]
      rfl
  · refine (metadataUpdateCal_ensures c h ext).imp ?_
    rintro _ _ ⟨rfl, rfl⟩
    exact ⟨rfl, rfl, rfl, congrArg MetaLists.ckv (lists_updated c h)⟩
  · exact sessionObjSetSessAifCal_ensures c h hfind
  · exact sessionObjSetSessAifCal_unknown c

end Agm
