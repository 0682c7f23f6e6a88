import Agm.MetadataMerge

/-! # The merges over the pool of a session

`session_get_merged_metadata` and its variant without the devices fold `metadata_merge` over the
pool and add the metadata of the session at every turn.  Since a merged value absorbs what is in it
already, the fold is one merge (`sessionMerge_closed`). -/

namespace Agm

open Prog FirstWins

/-- The metadata of the device of an interface. -/
def World.deviceMeta (w : World) (a : Aif) : MetaData :=
  match a.devObj with
  | none => {}
  | some d => (w.dev d).metadata

/-- The session, its interfaces and their devices hold readable metadata. -/
structure World.Mergeable (w : World) (s : ℕ) : Prop where
  sess : (w.sess s).sessMeta.Readable
  aif : ∀ a ∈ (w.sess s).aifPool, a.sessAifMeta.Readable
  device : ∀ a ∈ (w.sess s).aifPool, a.devObj ≠ none
  dev : ∀ a ∈ (w.sess s).aifPool, (w.deviceMeta a).Readable

instance (w : World) (s : ℕ) : Decidable (w.Mergeable s) :=
  decidable_of_iff ((w.sess s).sessMeta.Readable ∧
      (∀ a ∈ (w.sess s).aifPool, a.sessAifMeta.Readable) ∧
      (∀ a ∈ (w.sess s).aifPool, a.devObj ≠ none) ∧
      ∀ a ∈ (w.sess s).aifPool, (w.deviceMeta a).Readable)
    ⟨fun h => ⟨h.1, h.2.1, h.2.2.1, h.2.2.2⟩, fun h => ⟨h.sess, h.aif, h.device, h.dev⟩⟩

/-- What a merge over values of which the first one is `base` leaves, before its first turn and
after. -/
def Accumulates (base : MetaLists) (temp : Option MetaData) (ls : List MetaLists) : Prop :=
  match temp with
  | none => ls = []
  | some md => md.Readable ∧ md.lists = MetaLists.merge (base :: ls)

/-- One turn of the fold. -/
theorem accumulates_merge {base : MetaData} {temp : Option MetaData} {ls : List MetaLists}
    {ms : List MetaData} (hms : ms ≠ []) (hbase : base.Readable) (hread : ∀ m ∈ ms, m.Readable)
    (htemp : Accumulates base.lists temp ls) {ext : List Answer} (hext : Granted 4 ext) :
    Ensures noFault (metadataMerge (temp :: some base :: ms.map some)) ext fun r ext' =>
      r ≠ none ∧ Accumulates base.lists r (ls ++ ms.map MetaData.lists) ∧ ext' = ext.drop 4 := by
  have hargs : ∀ m, some m ∈ temp :: some base :: ms.map some → m.Readable := by
    intro m hm
    rcases List.mem_cons.mp hm with rfl | hm
    · exact htemp.1
    rcases List.mem_cons.mp hm with hm | hm
    · cases hm
      exact hbase
    · obtain ⟨m', hm', he⟩ := List.mem_map.mp hm
      cases he
      exact hread m hm'
  refine (metadataMerge_ensures hargs ext).imp fun r ext' h => ?_
  obtain ⟨rfl, rfl⟩ := h.1 hext
  refine ⟨Option.some_ne_none _, ⟨mergedValue_readable _ _ _ _, ?_⟩, rfl⟩
  rw [mergedArgs_lists]
  cases temp with
  | none =>
      obtain rfl : ls = [] := htemp
      rw [List.reduceOption_cons_of_none, List.reduceOption_cons_of_some,
        reduceOption_map_some, List.map_cons,
        List.nil_append]
  | some md =>
      rw [List.reduceOption_cons_of_some, List.reduceOption_cons_of_some, reduceOption_map_some,
        List.map_cons, List.map_cons, htemp.2, MetaLists.merge_again _ _ _ (by simpa using hms)]

/-- The fold over the positions of a pool, by what one turn adds. -/
theorem accumulates_forAll {w : World} {base : MetaLists} {parts : ℕ → List MetaLists}
    {body : ℕ → Option MetaData → AgmM (Option MetaData)} (is : List ℕ)
    (hbody : ∀ i ∈ is, ∀ temp ls ext, Accumulates base temp ls → Granted 4 ext →
      Ensures noFault (body i temp) { w with ext := ext } fun r w' =>
        r ≠ none ∧ Accumulates base r (ls ++ parts i) ∧ w' = { w with ext := ext.drop 4 })
    (temp : Option MetaData) (ls : List MetaLists) (ext : List Answer)
    (htemp : Accumulates base temp ls) (hext : Granted (4 * is.length) ext) :
    Ensures noFault (forAll body is temp) { w with ext := ext } fun r _ =>
      Accumulates base r (ls ++ is.flatMap parts) ∧ (r = none ↔ temp = none ∧ is = []) := by
  induction is generalizing temp ls ext with
  | nil =>
      rw [forAll, ensures_pure, List.flatMap_nil, List.append_nil]
      exact ⟨htemp, by simp⟩
  | cons i is ih =>
      have hlen : 4 * (i :: is).length = 4 + 4 * is.length := by
        rw [List.length_cons]
        omega
      rw [hlen, granted_add] at hext
      obtain ⟨hfirst, hrest⟩ := List.forall_mem_cons.mp hbody
      rw [forAll, ensures_bind]
      refine (hfirst temp ls ext htemp hext.1).imp ?_
      rintro r _ ⟨hr, hacc, rfl⟩
      refine (ih hrest r _ _ hacc hext.2).imp fun r' _ h => ?_
      rw [List.flatMap_cons, ← List.append_assoc]
      refine ⟨h.1, ?_⟩
      rw [h.2]
      simp [hr]

section session
variable {w : World} {s : ℕ}

theorem aif_mem {i : ℕ} (hi : i ∈ List.range (w.sess s).aifPool.length) :
    w.aif s i ∈ (w.sess s).aifPool := by
  have hlt := List.mem_range.mp hi
  rw [World.aif, List.getD_eq_getElem _ _ hlt]
  exact List.getElem_mem hlt

/-- The positions of a pool, read one after the other. -/
theorem flatMap_aif {α : Type} (f : Aif → List α) :
    (List.range (w.sess s).aifPool.length).flatMap (fun i => f (w.aif s i)) =
      (w.sess s).aifPool.flatMap f := by
  have hpool : (List.range (w.sess s).aifPool.length).map (w.aif s) = (w.sess s).aifPool := by
    apply List.ext_getElem
    · simp
    · intro i h₁ h₂
      rw [List.getElem_map, List.getElem_range, World.aif, List.getD_eq_getElem _ _ h₂]
  calc (List.range (w.sess s).aifPool.length).flatMap (fun i => f (w.aif s i))
      = ((List.range (w.sess s).aifPool.length).map (w.aif s)).flatMap f := by
        rw [List.flatMap_map]
    _ = (w.sess s).aifPool.flatMap f := by rw [hpool]

theorem ensures_devMetadata {a : Aif} (ha : a.devObj ≠ none) {Q : MetaData → World → Prop} :
    Ensures noFault (devMetadata a.devObj) w Q ↔ Q (w.deviceMeta a) w := by
  unfold devMetadata World.deviceMeta
  cases hd : a.devObj with
  | none => exact absurd hd ha
  | some d => exact Iff.rfl

/-- What the merge over the pool returns: one merge of all values, `NULL` for an empty pool. -/
def MergeOf (r : Option MetaData) (base : MetaLists) (ls : List MetaLists) : Prop :=
  (r = none ↔ ls = []) ∧ ∀ md, r = some md → md.Readable ∧ md.lists = MetaLists.merge (base :: ls)

/-- The values of the interfaces of a session, each with the one of its device. -/
def World.aifDevLists (w : World) (s : ℕ) : List MetaLists :=
  (w.sess s).aifPool.flatMap fun a => [a.sessAifMeta.lists, (w.deviceMeta a).lists]

/-- The values of the interfaces of a session. -/
def World.aifLists (w : World) (s : ℕ) : List MetaLists :=
  (w.sess s).aifPool.map fun a => a.sessAifMeta.lists

theorem aifDevLists_eq_nil : w.aifDevLists s = [] ↔ (w.sess s).aifPool = [] := by
  rw [World.aifDevLists, List.flatMap_eq_nil_iff, List.eq_nil_iff_forall_not_mem]
  simp

theorem aifLists_eq_nil : w.aifLists s = [] ↔ (w.sess s).aifPool = [] := List.map_eq_nil_iff

/-- A turn adds at least one value, so that nothing was merged only if there was no turn. -/
theorem mergeOf_of_accumulates {base : MetaLists} {r : Option MetaData} {ls : List MetaLists}
    (hacc : Accumulates base r ls)
    (hr : r = none ↔ (none : Option MetaData) = none ∧
      List.range (w.sess s).aifPool.length = [])
    (hls : ls = [] ↔ (w.sess s).aifPool = []) : MergeOf r base ls := by
  refine ⟨?_, ?_⟩
  · rw [hr, hls]
    simp
  · rintro md rfl
    exact hacc

theorem sessionGetMergedMetadata_ensures (h : w.Mergeable s)
    (hext : Granted (4 * (w.sess s).aifPool.length) w.ext) :
    Ensures noFault (sessionGetMergedMetadata s) w fun r _ =>
      MergeOf r (w.sess s).sessMeta.lists (w.aifDevLists s) := by
  unfold sessionGetMergedMetadata
  rw [ensures_bind, ensures_poolRange]
  have hlen : (List.range (w.sess s).aifPool.length).length = (w.sess s).aifPool.length :=
    List.length_range
  refine (@accumulates_forAll w (w.sess s).sessMeta.lists
    (fun i => [(w.aif s i).sessAifMeta.lists, (w.deviceMeta (w.aif s i)).lists]) _
    (List.range (w.sess s).aifPool.length) ?_ none [] w.ext rfl (by rwa [hlen])).imp fun r _ hr => ?_
  · intro i hi temp ls ext htemp hext
    have ha := aif_mem hi
    simp only [ensures_bind, ensures_getSess, ensures_getAif]
    refine (ensures_devMetadata (w := { w with ext := ext }) (h.device _ ha)).mpr ?_
    unfold env
    rw [ensures_zoom]
    refine (@accumulates_merge _ _ _ [(w.aif s i).sessAifMeta, w.deviceMeta (w.aif s i)]
      (by simp) h.sess ?_ htemp _ hext).imp ?_
    · intro m hm
      rcases List.mem_pair.mp hm with rfl | rfl
      · exact h.aif _ ha
      · exact h.dev _ ha
    · rintro r _ ⟨hr, hacc, rfl⟩
      exact ⟨hr, hacc, rfl⟩
  · rw [List.nil_append, flatMap_aif fun a => [a.sessAifMeta.lists, (w.deviceMeta a).lists]] at hr
    exact mergeOf_of_accumulates hr.1 hr.2 aifDevLists_eq_nil

theorem sessionGetMergedMetadataWithoutAif_ensures (h : w.Mergeable s)
    (hext : Granted (4 * (w.sess s).aifPool.length) w.ext) :
    Ensures noFault (sessionGetMergedMetadataWithoutAif s) w fun r _ =>
      MergeOf r (w.sess s).sessMeta.lists (w.aifLists s) := by
  unfold sessionGetMergedMetadataWithoutAif
  rw [ensures_bind, ensures_poolRange]
  have hlen : (List.range (w.sess s).aifPool.length).length = (w.sess s).aifPool.length :=
    List.length_range
  refine (@accumulates_forAll w (w.sess s).sessMeta.lists
    (fun i => [(w.aif s i).sessAifMeta.lists]) _ (List.range (w.sess s).aifPool.length) ?_ none [] w.ext rfl (by rwa [hlen])).imp fun r _ hr => ?_
  · intro i hi temp ls ext htemp hext
    simp only [ensures_bind, ensures_getSess, ensures_getAif]
    unfold env
    rw [ensures_zoom]
    refine (@accumulates_merge _ _ _ [(w.aif s i).sessAifMeta] (by simp) h.sess ?_ htemp _
      hext).imp ?_
    · intro m hm
      rw [List.mem_singleton.mp hm]
      exact h.aif _ (aif_mem hi)
    · rintro r _ ⟨hr, hacc, rfl⟩
      exact ⟨hr, hacc, rfl⟩
  · rw [List.nil_append, flatMap_aif fun a => [a.sessAifMeta.lists]] at hr
    rw [← List.map_eq_flatMap] at hr
    exact mergeOf_of_accumulates hr.1 hr.2 aifLists_eq_nil

end session

/-- The pool of session `s` in another order, everything else of what is merged being the same. -/
structure World.Reordered (w w' : World) (s : ℕ) : Prop where
  pool : ((w'.sess s).aifPool).Perm (w.sess s).aifPool
  sess : (w'.sess s).sessMeta = (w.sess s).sessMeta
  dev : ∀ d, (w'.dev d).metadata = (w.dev d).metadata

theorem World.Reordered.deviceMeta {w w' : World} {s : ℕ} (h : w.Reordered w' s) :
    w'.deviceMeta = w.deviceMeta := by
  funext a
  unfold World.deviceMeta
  cases a.devObj with
  | none => rfl
  | some d => exact h.dev d

theorem World.Reordered.mergeable {w w' : World} {s : ℕ} (h : w.Reordered w' s)
    (hw : w.Mergeable s) : w'.Mergeable s := by
  constructor
  · rw [h.sess]
    exact hw.sess
  · exact fun a ha => hw.aif a (h.pool.mem_iff.mp ha)
  · exact fun a ha => hw.device a (h.pool.mem_iff.mp ha)
  · intro a ha
    rw [h.deviceMeta]
    exact hw.dev a (h.pool.mem_iff.mp ha)

/-- Two results hold the same keys. -/
def SameKeys (r r' : Option MetaData) : Prop :=
  (r = none ↔ r' = none) ∧
    ∀ md md', r = some md → r' = some md' → MetaLists.SameKeys md.lists md'.lists

theorem sameKeys_of_perm {r r' : Option MetaData} {base : MetaLists} {ls ls' : List MetaLists}
    (h : MergeOf r base ls) (h' : MergeOf r' base ls') (hp : ls'.Perm ls) : SameKeys r r' := by
  constructor
  · rw [h.1, h'.1]
    constructor
    · rintro rfl
      exact hp.eq_nil
    · rintro rfl
      exact hp.symm.eq_nil
  · intro md md' hr hr'
    rw [(h.2 md hr).2, (h'.2 md' hr').2]
    exact MetaLists.merge_perm (hp.symm.cons base)

/-- The fold over the pool is one merge: of the metadata of the session and, for each interface in
the order of the pool, of its metadata and that of its device; in the second function without the
devices.  Nothing is returned exactly for an empty pool, and the keys of the result do not depend
on the order of the pool. -/
theorem sessionMerge_closed {w : World} {s : ℕ} (h : w.Mergeable s)
    (hext : Granted (4 * (w.sess s).aifPool.length) w.ext) :
    (Ensures noFault (sessionGetMergedMetadata s) w fun r _ =>
      (r = none ↔ (w.sess s).aifPool = []) ∧
      (∀ md, r = some md → md.lists = MetaLists.merge ((w.sess s).sessMeta.lists ::
        (w.sess s).aifPool.flatMap fun a => [a.sessAifMeta.lists, (w.deviceMeta a).lists])) ∧
      ∀ w', w.Reordered w' s → Granted (4 * (w'.sess s).aifPool.length) w'.ext →
        Ensures noFault (sessionGetMergedMetadata s) w' fun r' _ => SameKeys r r') ∧
    Ensures noFault (sessionGetMergedMetadataWithoutAif s) w fun r _ =>
      (r = none ↔ (w.sess s).aifPool = []) ∧
      (∀ md, r = some md → md.lists = MetaLists.merge ((w.sess s).sessMeta.lists ::
        (w.sess s).aifPool.map fun a => a.sessAifMeta.lists)) ∧
      ∀ w', w.Reordered w' s → Granted (4 * (w'.sess s).aifPool.length) w'.ext →
        Ensures noFault (sessionGetMergedMetadataWithoutAif s) w' fun r' _ => SameKeys r r' := by
  constructor
  · refine (sessionGetMergedMetadata_ensures h hext).imp fun r _ hr => ⟨?_, ?_, ?_⟩
    · exact hr.1.trans aifDevLists_eq_nil
    · exact fun md hmd => (hr.2 md hmd).2
    · intro w' hw hext'
      refine (sessionGetMergedMetadata_ensures (hw.mergeable h) hext').imp fun r' _ hr' => ?_
      rw [hw.sess] at hr'
      refine sameKeys_of_perm hr hr' ?_
      unfold World.aifDevLists
      rw [hw.deviceMeta]
      exact hw.pool.flatMap_right _
  · refine (sessionGetMergedMetadataWithoutAif_ensures h hext).imp fun r _ hr => ⟨?_, ?_, ?_⟩
    · exact hr.1.trans aifLists_eq_nil
    · exact fun md hmd => (hr.2 md hmd).2
    · intro w' hw hext'
      refine (sessionGetMergedMetadataWithoutAif_ensures (hw.mergeable h) hext').imp
        fun r' _ hr' => ?_
      rw [hw.sess] at hr'
      exact sameKeys_of_perm hr hr' (hw.pool.map _)

/-- A session with two interfaces, whose metadata and that of the devices share keys. -/
def twoInterfaces : World :=
  { startUp 4 with
    sess := fun _ =>
      { sessMeta := ⟨⟨1, some [⟨1, 10⟩]⟩, {}, {}⟩
        aifPool :=
          [{ aifId := 0, devObj := some 0, sessAifMeta := ⟨⟨1, some [⟨2, 20⟩]⟩, {}, {}⟩ },
            { aifId := 1, devObj := some 1, sessAifMeta := ⟨⟨1, some [⟨2, 21⟩]⟩, {}, {}⟩ }] }
    dev := fun d => { metadata := ⟨⟨1, some [⟨3 + d, 30⟩]⟩, {}, { propId := d }⟩ } }

theorem sessionMerge_closed_twoInterfaces :
    Ensures noFault (sessionGetMergedMetadata 0) twoInterfaces fun r _ => ∀ md, r = some md →
      md.gkv.list = [⟨1, 10⟩, ⟨2, 20⟩, ⟨3, 30⟩, ⟨4, 30⟩] ∧ md.sgProps.propId = 1 := by
  refine (sessionMerge_closed (w := twoInterfaces) (s := 0) (by decide) (by decide)).1.imp ?_
  rintro r _ ⟨-, hmd, -⟩ md hr
  exact ⟨(congrArg MetaLists.gkv (hmd md hr)).trans (by decide),
    (congrArg MetaLists.propId (hmd md hr)).trans (by decide)⟩

end Agm
