import Agm.MetadataMerge

/-! # What `graph_open` builds

The module list of a new graph is made of copies of entries of the static arrays, into which every
earlier open, add and change has written.  What the arrays keep (`Templates`) is enough for the
list to depend on the tags, the device and the memory alone: the loop over the tags is the function
`openPlan` of the first entries of the tags that are offered (`openTags_plan`).  An entry comes with
what `module_entry[0]` is there (`TagSlot`), which need not be a module of the entry. -/

namespace Agm

open Prog FirstWins

/-! ### The static arrays -/

/-- A module without the ids that were written into it. -/
def ModuleInfo.resetIds (m : ModuleInfo) : ModuleInfo := { m with mid := 0, miid := 0 }

/-- A module without the ids and the key vector that were written into it. -/
def ModuleInfo.reset (m : ModuleInfo) : ModuleInfo := { m.resetIds with gkv := none }

/-- Up to ids, and to the key vectors of the endpoints, the arrays are what they were initialised
to. -/
structure Templates (mem : GraphMem) : Prop where
  stream : mem.streamModuleList.map ModuleInfo.resetIds = streamModuleList
  endpoint : mem.hwEpModule.map ModuleInfo.reset = hwEpModule

/-- The configuration function of a tag. -/
def configureOf (tag : Tag) : Option Configure :=
  ((streamModuleList ++ hwEpModule).find? fun m => decide (m.tag = tag)).bind ModuleInfo.configure

def streamTags : List Tag := streamModuleList.map ModuleInfo.tag

def endpointTags : List Tag := hwEpModule.map ModuleInfo.tag

/-- An entry of the tags in its place: with what `module_entry[0]` is there. -/
structure TagSlot extends TagEntry where
  first : Option ModuleIdInfo
deriving DecidableEq, Repr

/-- The entries of a blob in their places. -/
def slots : List TagEntry → List TagSlot
  | [] => []
  | e :: es => { e with first := e.moduleEntry es } :: slots es

/-- The entry of the module list for a stream tag and a module. -/
def streamEntry (tag : Tag) (ids : ModuleIdInfo) : ModuleInfo :=
  { tag, configure := configureOf tag, mid := ids.moduleId, miid := ids.moduleIid }

/-- The entry of the module list for the tag of an endpoint and a module. -/
def endpointEntry (tag : Tag) (ids : ModuleIdInfo) (dev : Option ℕ) (copy : GkvCopy) : ModuleInfo :=
  { tag, configure := configureOf tag, mid := ids.moduleId, miid := ids.moduleIid
    devObj := dev, gkv := some copy }

theorem tags_disjoint : ∀ t ∈ streamTags, t ∉ endpointTags := by decide

theorem streamModule_eq : ∀ k < streamModuleList.length,
    streamModuleList.getD k noModule =
      { tag := (streamModuleList.getD k noModule).tag
        configure := configureOf (streamModuleList.getD k noModule).tag } := by decide

theorem endpointModule_eq : ∀ k < hwEpModule.length,
    hwEpModule.getD k noModule =
      { tag := (hwEpModule.getD k noModule).tag
        configure := configureOf (hwEpModule.getD k noModule).tag } := by decide

theorem set_getD_self {α : Type} (l : List α) (k : ℕ) (d : α) : l.set k (l.getD k d) = l := by
  by_cases hk : k < l.length
  · rw [List.getD_eq_getElem _ _ hk, List.set_getElem_self]
  · exact List.set_eq_of_length_le (not_lt.mp hk)

namespace Templates
variable {mem : GraphMem} (h : Templates mem)
include h

theorem stream_length : mem.streamModuleList.length = streamModuleList.length := by
  have hlen := congrArg List.length h.stream
  rwa [List.length_map] at hlen

theorem endpoint_length : mem.hwEpModule.length = hwEpModule.length := by
  have hlen := congrArg List.length h.endpoint
  rwa [List.length_map] at hlen

theorem stream_getD (k : ℕ) :
    (mem.streamModuleList.getD k noModule).resetIds = streamModuleList.getD k noModule := by
  rw [← h.stream]
  exact (List.getD_map (d := noModule) mem.streamModuleList ModuleInfo.resetIds).symm

theorem endpoint_getD (k : ℕ) :
    (mem.hwEpModule.getD k noModule).reset = hwEpModule.getD k noModule := by
  rw [← h.endpoint]
  exact (List.getD_map (d := noModule) mem.hwEpModule ModuleInfo.reset).symm

theorem stream_tag (k : ℕ) : (mem.streamModuleList.getD k noModule).tag =
    (streamModuleList.getD k noModule).tag := by
  rw [← h.stream_getD]
  rfl

theorem endpoint_tag (k : ℕ) : (mem.hwEpModule.getD k noModule).tag =
    (hwEpModule.getD k noModule).tag := by
  rw [← h.endpoint_getD]
  rfl

theorem findStream (nodes : List ℕ) (tag : Tag) :
    findTag mem.streamModuleList nodes tag = findTag streamModuleList nodes tag := by
  unfold findTag
  simp only [h.stream_tag]

theorem findEndpoint (nodes : List ℕ) (tag : Tag) :
    findTag mem.hwEpModule nodes tag = findTag hwEpModule nodes tag := by
  unfold findTag
  simp only [h.endpoint_tag]

/-- A stream module with the ids of a module is the entry for it. -/
theorem stream_copy {k : ℕ} {tag : Tag} (hk : k < streamModuleList.length)
    (htag : (streamModuleList.getD k noModule).tag = tag) (ids : ModuleIdInfo) :
    { mem.streamModuleList.getD k noModule with miid := ids.moduleIid, mid := ids.moduleId } =
      streamEntry tag ids := by
  have hmod := (h.stream_getD k).trans (streamModule_eq k hk)
  rw [htag] at hmod
  unfold streamEntry
  unfold ModuleInfo.resetIds at hmod
  rw [ModuleInfo.mk.injEq] at hmod ⊢
  exact ⟨hmod.1, hmod.2.1, rfl, rfl, hmod.2.2.2.2⟩

theorem endpoint_copy {k : ℕ} {tag : Tag} (hk : k < hwEpModule.length)
    (htag : (hwEpModule.getD k noModule).tag = tag) (ids : ModuleIdInfo) (d : ℕ) (copy : GkvCopy) :
    { mem.hwEpModule.getD k noModule with
      miid := ids.moduleIid, mid := ids.moduleId, gkv := some copy, devObj := some d } =
      endpointEntry tag ids (some d) copy := by
  have hmod := (h.endpoint_getD k).trans (endpointModule_eq k hk)
  rw [htag] at hmod
  unfold endpointEntry
  unfold ModuleInfo.reset ModuleInfo.resetIds at hmod
  rw [ModuleInfo.mk.injEq] at hmod ⊢
  exact ⟨hmod.1, hmod.2.1, rfl, rfl, hmod.2.2.2.2.1, rfl, rfl⟩

theorem congr {mem' : GraphMem} (hs : mem'.streamModuleList = mem.streamModuleList)
    (he : mem'.hwEpModule = mem.hwEpModule) : Templates mem' :=
  ⟨(congrArg _ hs).trans h.stream, (congrArg _ he).trans h.endpoint⟩

theorem set_stream (k : ℕ) {m : ModuleInfo}
    (hm : m.resetIds = (mem.streamModuleList.getD k noModule).resetIds) :
    Templates { mem with streamModuleList := mem.streamModuleList.set k m } := by
  refine ⟨?_, h.endpoint⟩
  dsimp only
  rw [List.map_set, h.stream, hm, h.stream_getD]
  exact set_getD_self streamModuleList k noModule

theorem set_endpoint (k : ℕ) {m : ModuleInfo}
    (hm : m.reset = (mem.hwEpModule.getD k noModule).reset) :
    Templates { mem with hwEpModule := mem.hwEpModule.set k m } := by
  refine ⟨h.stream, ?_⟩
  dsimp only
  rw [List.map_set, h.endpoint, hm, h.endpoint_getD]
  exact set_getD_self hwEpModule k noModule

end Templates

/-! ### The tags that are taken -/

/-- The tags of some positions of an array. -/
def offered (mods : List ModuleInfo) (nodes : List ℕ) : List Tag :=
  nodes.map fun k => (mods.getD k noModule).tag

section offered
variable {mods : List ModuleInfo} {nodes : List ℕ} {tag : Tag} {k : ℕ}

theorem findTag_some (h : findTag mods nodes tag = some k) :
    k ∈ nodes ∧ (mods.getD k noModule).tag = tag := by
  unfold findTag at h
  exact ⟨List.mem_of_find?_eq_some h, by simpa using List.find?_some h⟩

theorem findTag_none (h : findTag mods nodes tag = none) : tag ∉ offered mods nodes := by
  intro hmem
  obtain ⟨k, hk, htag⟩ := List.mem_map.mp hmem
  unfold findTag at h
  rw [List.find?_eq_none] at h
  exact h k hk (by simpa using htag)

theorem offered_subset (h : ∀ k ∈ nodes, k < mods.length) (hmem : tag ∈ offered mods nodes) :
    tag ∈ mods.map ModuleInfo.tag := by
  obtain ⟨k, hk, rfl⟩ := List.mem_map.mp hmem
  rw [List.getD_eq_getElem _ _ (h k hk)]
  exact List.mem_map_of_mem (List.getElem_mem _)

theorem mem_offered_of_findTag (h : findTag mods nodes tag = some k) : tag ∈ offered mods nodes := by
  obtain ⟨hk, htag⟩ := findTag_some h
  exact List.mem_map.mpr ⟨k, hk, htag⟩

theorem nodup_offered_erase (h : (offered mods nodes).Nodup) (k : ℕ) :
    (offered mods (nodes.erase k)).Nodup :=
  h.sublist (List.erase_sublist.map _)

/-- Without the position of a tag the other tags are offered. -/
theorem mem_offered_erase (h : (offered mods nodes).Nodup) (hfind : findTag mods nodes tag = some k)
    (t : Tag) : t ∈ offered mods (nodes.erase k) ↔ t ∈ offered mods nodes ∧ t ≠ tag := by
  obtain ⟨hk, htag⟩ := findTag_some hfind
  have hnodes : nodes.Nodup := List.Nodup.of_map _ h
  constructor
  · intro hmem
    obtain ⟨j, hj, hjt⟩ := List.mem_map.mp hmem
    obtain ⟨hne, hj⟩ := (hnodes.mem_erase_iff).mp hj
    refine ⟨List.mem_map.mpr ⟨j, hj, hjt⟩, ?_⟩
    rintro rfl
    exact hne (List.inj_on_of_nodup_map h hj hk (hjt.trans htag.symm))
  · rintro ⟨hmem, hne⟩
    obtain ⟨j, hj, hjt⟩ := List.mem_map.mp hmem
    refine List.mem_map.mpr ⟨j, (hnodes.mem_erase_iff).mpr ⟨?_, hj⟩, hjt⟩
    rintro rfl
    exact hne (hjt.symm.trans htag)

end offered

/-- The first entry of each tag that is offered. -/
def matched (avail : Tag → Bool) (es : List TagSlot) : List TagSlot :=
  firstWins (fun e => e.tag) (es.filter fun e => avail e.tag)

theorem matched_take {avail avail' : Tag → Bool} {e : TagSlot} (es : List TagSlot)
    (he : avail e.tag = true) (h : ∀ t, avail' t = (avail t && decide (t ≠ e.tag))) :
    matched avail (e :: es) = e :: matched avail' es := by
  unfold matched
  rw [List.filter_cons_of_pos (by simpa using he), firstWins_cons, List.filter_filter]
  congr 2
  refine List.filter_congr fun x _ => ?_
  rw [h, Bool.and_comm]

theorem matched_skip {avail : Tag → Bool} {e : TagSlot} (es : List TagSlot)
    (he : avail e.tag = false) : matched avail (e :: es) = matched avail es := by
  unfold matched
  rw [List.filter_cons_of_neg (by simp [he])]

/-- The tags of the remaining nodes; those of endpoints only with a device. -/
def available (dev : Option ℕ) (sessNodes hwNodes : List ℕ) (t : Tag) : Bool :=
  decide (t ∈ offered streamModuleList sessNodes) ||
    (dev.isSome && decide (t ∈ offered hwEpModule hwNodes))

/-- What the loop keeps of the two lists of nodes: they name positions of the arrays, with different
tags. -/
structure Nodes (sessNodes hwNodes : List ℕ) : Prop where
  sess : ∀ k ∈ sessNodes, k < streamModuleList.length
  hw : ∀ k ∈ hwNodes, k < hwEpModule.length
  sessNodup : (offered streamModuleList sessNodes).Nodup
  hwNodup : (offered hwEpModule hwNodes).Nodup

section nodes
variable {sessNodes hwNodes : List ℕ} {k : ℕ} {tag : Tag}

theorem Nodes.range : Nodes (List.range streamModuleList.length) (List.range hwEpModule.length) :=
  ⟨fun _ hk => List.mem_range.mp hk, fun _ hk => List.mem_range.mp hk, by decide, by decide⟩

theorem Nodes.eraseSess (h : Nodes sessNodes hwNodes) (k : ℕ) : Nodes (sessNodes.erase k) hwNodes :=
  ⟨fun j hj => h.sess j (List.mem_of_mem_erase hj), h.hw, nodup_offered_erase h.sessNodup k, h.hwNodup⟩

theorem Nodes.eraseHw (h : Nodes sessNodes hwNodes) (k : ℕ) : Nodes sessNodes (hwNodes.erase k) :=
  ⟨h.sess, fun j hj => h.hw j (List.mem_of_mem_erase hj), h.sessNodup, nodup_offered_erase h.hwNodup k⟩

theorem Nodes.stream_tag (h : Nodes sessNodes hwNodes)
    (hfind : findTag streamModuleList sessNodes tag = some k) : tag ∈ streamTags := by
  rw [← (findTag_some hfind).2]
  exact offered_subset h.sess (List.mem_map_of_mem (findTag_some hfind).1)

theorem Nodes.endpoint_tag (h : Nodes sessNodes hwNodes)
    (hfind : findTag hwEpModule hwNodes tag = some k) : tag ∉ streamTags := by
  intro hstream
  exact tags_disjoint _ hstream (offered_subset h.hw (mem_offered_of_findTag hfind))

/-- The tag of a stream module that is taken is offered no more. -/
theorem available_eraseSess (h : Nodes sessNodes hwNodes) (dev : Option ℕ)
    (hfind : findTag streamModuleList sessNodes tag = some k) (x : Tag) :
    available dev (sessNodes.erase k) hwNodes x =
      (available dev sessNodes hwNodes x && decide (x ≠ tag)) := by
  have herase := mem_offered_erase h.sessNodup hfind x
  have hother : x = tag → x ∉ offered hwEpModule hwNodes := by
    rintro rfl hx
    exact tags_disjoint _ (h.stream_tag hfind) (offered_subset h.hw hx)
  unfold available
  obtain rfl | hx := eq_or_ne x tag
  · have hgone : x ∉ offered streamModuleList (sessNodes.erase k) := fun h => (herase.mp h).2 rfl
    simp [hgone, hother rfl]
  · simp [herase, hx]

/-- The same for an endpoint. -/
theorem available_eraseHw (h : Nodes sessNodes hwNodes) (dev : Option ℕ)
    (hno : tag ∉ offered streamModuleList sessNodes)
    (hfind : findTag hwEpModule hwNodes tag = some k) (x : Tag) :
    available dev sessNodes (hwNodes.erase k) x =
      (available dev sessNodes hwNodes x && decide (x ≠ tag)) := by
  have herase := mem_offered_erase h.hwNodup hfind x
  unfold available
  obtain rfl | hx := eq_or_ne x tag
  · have hgone : x ∉ offered hwEpModule (hwNodes.erase k) := fun h => (herase.mp h).2 rfl
    simp [hgone, hno]
  · simp [herase, hx]

/-- A tag that is not offered, or is that of an endpoint and there is no device. -/
theorem available_skip {dev : Option ℕ} (hno : tag ∉ offered streamModuleList sessNodes)
    (h : dev ≠ none → findTag hwEpModule hwNodes tag = none) :
    available dev sessNodes hwNodes tag = false := by
  unfold available
  cases dev with
  | none => simp [hno]
  | some d => simp [hno, findTag_none (h (Option.some_ne_none d))]

end nodes

/-! ### The loop over the tags -/

/-- The next external call fails. -/
def nextFails (ext : List Answer) : Prop := (ext.headD {}).code ≠ 0

instance : DecidablePred nextFails := fun _ => inferInstanceAs (Decidable (_ ≠ _))

/-- Append an entry unless there is no memory for it. -/
def appended (ext : List Answer) (m : ModuleInfo) (mods : List ModuleInfo) : List ModuleInfo :=
  if nextFails ext then mods else mods ++ [m]

/-- What the loop over the tags does with the entries it takes, one after the other: the static
arrays have no part in it.  `n` is the number of the next key vector; `none` stands for an access
behind the block of the tags. -/
def openPlan (gkv : KeyVector) (dev : Option ℕ) :
    List TagSlot → List Answer → ℕ → List ModuleInfo → Option TagsExit
  | [], _, _, mods => some (.found mods)
  | e :: es, ext, n, mods =>
      if 1 < e.numModules then some (.free 0)
      else
        match e.first with
        | none => none
        | some ids =>
            if e.tag ∈ streamTags then
              openPlan gkv dev es ext.tail n (appended ext (streamEntry e.tag ids) mods)
            else if nextFails ext ∨ nextFails ext.tail then some (.free (-ENOMEM))
            else
              openPlan gkv dev es ext.tail.tail.tail (n + 1)
                (appended ext.tail.tail (endpointEntry e.tag ids dev ⟨n, gkv⟩) mods)

/-- How many of the entries are those of endpoints, which get a key vector. -/
def endpointCount (es : List TagSlot) : ℕ := es.countP fun e => decide (e.tag ∉ streamTags)

/-- What `graph_open` leaves alone before it opens the GSL graph. -/
structure OpenKept (t t' : MemState) : Prop where
  templates : Templates t'.mem
  calls : t'.mem.calls = t.mem.calls
  nextHandle : t'.mem.nextHandle = t.mem.nextHandle
  nextGkv : t.mem.nextGkv ≤ t'.mem.nextGkv

section loop
variable {E : Crash → Prop} {t : MemState}

theorem ensures_memCalloc (Q : Bool → MemState → Prop) :
    Ensures E (MemM.call calloc) t Q ↔
      Q (decide ((t.ext.headD {}).code = 0)) { t with ext := t.ext.tail } := by
  unfold MemM.call
  rw [ensures_zoom]
  exact ensures_calloc (E := fun e => E (id e)) t.ext _

theorem ensures_addModule (mod : ModuleInfo) (dev : Option ℕ) (mods : List ModuleInfo)
    (Q : List ModuleInfo → MemState → Prop) :
    Ensures E (addModule mod dev mods) t Q ↔
      Q (appended t.ext (match dev with | none => mod | some d => { mod with devObj := some d }) mods)
        { t with ext := t.ext.tail } := by
  unfold addModule appended nextFails
  rw [ensures_bind, ensures_memCalloc]
  by_cases h : (t.ext.headD {}).code = 0
  · simp only [h, decide_true, if_true, ne_eq, not_true_eq_false, if_false]
    exact Iff.rfl
  · simp only [h, decide_false, Bool.false_eq_true, if_false, ne_eq, not_false_eq_true, if_true]
    exact Iff.rfl

/-- A key vector is copied with two allocations; the copy has the next number. -/
theorem ensures_copyGkv (gkv : KeyVector) (Q : Option GkvCopy → MemState → Prop) :
    Ensures E (copyGkv gkv) t Q ↔
      (nextFails t.ext → Q none { t with ext := t.ext.tail }) ∧
      (¬ nextFails t.ext → nextFails t.ext.tail → Q none { t with ext := t.ext.tail.tail }) ∧
      (¬ nextFails t.ext → ¬ nextFails t.ext.tail → Q (some ⟨t.mem.nextGkv, gkv⟩)
        { mem := { t.mem with nextGkv := t.mem.nextGkv + 1 }, ext := t.ext.tail.tail }) := by
  unfold copyGkv
  rw [ensures_bind, ensures_memCalloc, ensures_ite, refused_iff]
  refine and_congr Iff.rfl ?_
  rw [ensures_bind, ensures_memCalloc, ensures_ite, refused_iff]
  exact imp_and

/-- The loop over the tags does what the plan says for the entries `es` to come. -/
def TagsPlanned (md : MetaData) (dev : Option ℕ) (es : List TagEntry) (sessNodes hwNodes : List ℕ)
    (mods : List ModuleInfo) (t : MemState) : Prop :=
  Ensures (fun _ => openPlan md.gkv dev (matched (available dev sessNodes hwNodes) (slots es)) t.ext
      t.mem.nextGkv mods = none)
    (openTags md dev es sessNodes hwNodes mods) t fun exit t' =>
      openPlan md.gkv dev (matched (available dev sessNodes hwNodes) (slots es)) t.ext
        t.mem.nextGkv mods = some exit ∧ OpenKept t t' ∧
      ∀ mods', exit = .found mods' → t'.mem.nextGkv = t.mem.nextGkv +
        endpointCount (matched (available dev sessNodes hwNodes) (slots es))

section cases
variable {md : MetaData} {dev : Option ℕ} {e : TagEntry} {es : List TagEntry}
  {sessNodes hwNodes : List ℕ} {mods : List ModuleInfo}

/-- An entry with a tag for which there is no module. -/
theorem planned_skip (ht : Templates t.mem)
    (hno : findTag streamModuleList sessNodes e.tag = none)
    (hskip : dev ≠ none → findTag hwEpModule hwNodes e.tag = none)
    (h : TagsPlanned md dev es sessNodes hwNodes mods t) :
    TagsPlanned md dev (e :: es) sessNodes hwNodes mods t := by
  unfold TagsPlanned at h ⊢
  rw [slots, matched_skip _ (available_skip (findTag_none hno) hskip), openTags, ensures_bind,
    ensures_gets, ht.findStream, hno]
  dsimp only
  cases dev with
  | none => exact h
  | some d =>
      rw [ht.findEndpoint, hskip (Option.some_ne_none d)]
      exact h

/-- An entry for a module of the stream. -/
theorem planned_stream {k : ℕ} (ht : Templates t.mem) (hn : Nodes sessNodes hwNodes)
    (hfind : findTag streamModuleList sessNodes e.tag = some k)
    (h : ∀ mods t, Templates t.mem → TagsPlanned md dev es (sessNodes.erase k) hwNodes mods t) :
    TagsPlanned md dev (e :: es) sessNodes hwNodes mods t := by
  have hstream := hn.stream_tag hfind
  obtain ⟨hk, htag⟩ := findTag_some hfind
  have havail : available dev sessNodes hwNodes e.tag = true := by
    simp [available, mem_offered_of_findTag hfind]
  unfold TagsPlanned
  rw [slots, matched_take _ havail (available_eraseSess hn dev hfind), openPlan, openTags,
    ensures_bind, ensures_gets, ht.findStream, hfind]
  dsimp only
  rw [ensures_ite]
  refine ⟨fun hmany => ?_, fun hmany => ?_⟩
  · rw [ensures_pure]
    exact ⟨if_pos hmany, ⟨ht, rfl, rfl, le_rfl⟩, nofun⟩
  have hone : ¬ 1 < TagEntry.numModules e := hmany
  rw [if_neg hone]
  cases hids : e.moduleEntry es with
  | none => rfl
  | some ids =>
      dsimp only
      rw [if_pos hstream, ensures_bind, MemM.modifyMem, ensures_modify, ensures_bind,
        ensures_addModule]
      rw [← ht.stream_copy (hn.sess k hk) htag ids]
      refine (h _ _ ?_).imp ?_
      · exact ht.set_stream k rfl
      rintro exit t' ⟨hexit, hkept, hnext⟩
      have hcount : ∀ es', endpointCount ({ e with first := some ids } :: es') = endpointCount es' :=
        fun es' => List.countP_cons_of_neg (by simpa using hstream)
      rw [hcount]
      exact ⟨hexit, ⟨hkept.templates, hkept.calls, hkept.nextHandle, hkept.nextGkv⟩, hnext⟩

/-- An entry for an endpoint. -/
theorem planned_endpoint {k d : ℕ} (ht : Templates t.mem) (hn : Nodes sessNodes hwNodes)
    (hno : findTag streamModuleList sessNodes e.tag = none)
    (hfind : findTag hwEpModule hwNodes e.tag = some k)
    (h : ∀ mods t, Templates t.mem →
      TagsPlanned md (some d) es sessNodes (hwNodes.erase k) mods t) :
    TagsPlanned md (some d) (e :: es) sessNodes hwNodes mods t := by
  have hstream := hn.endpoint_tag hfind
  obtain ⟨hk, htag⟩ := findTag_some hfind
  have havail : available (some d) sessNodes hwNodes e.tag = true := by
    simp [available, mem_offered_of_findTag hfind]
  unfold TagsPlanned
  rw [slots, matched_take _ havail (available_eraseHw hn _ (findTag_none hno) hfind), openPlan,
    openTags, ensures_bind, ensures_gets, ht.findStream, hno]
  dsimp only
  rw [ht.findEndpoint, hfind]
  dsimp only
  rw [ensures_ite]
  refine ⟨fun hmany => ?_, fun hmany => ?_⟩
  · rw [ensures_pure]
    exact ⟨if_pos hmany, ⟨ht, rfl, rfl, le_rfl⟩, nofun⟩
  have hone : ¬ 1 < TagEntry.numModules e := hmany
  rw [if_neg hone]
  cases hids : e.moduleEntry es with
  | none => rfl
  | some ids =>
      dsimp only
      rw [if_neg hstream, ensures_bind, MemM.modifyMem, ensures_modify, ensures_bind,
        ensures_copyGkv]
      have hset := ht.set_endpoint k (m := { t.mem.hwEpModule.getD k noModule with
        miid := ids.moduleIid, mid := ids.moduleId }) rfl
      refine ⟨fun hf => ?_, fun hok hf => ?_, fun hok hok' => ?_⟩
      · rw [if_pos (.inl hf)]
        exact ⟨rfl, ⟨hset, rfl, rfl, le_rfl⟩, nofun⟩
      · rw [if_pos (.inr hf)]
        exact ⟨rfl, ⟨hset, rfl, rfl, le_rfl⟩, nofun⟩
      rw [if_neg (not_or.mpr ⟨hok, hok'⟩)]
      dsimp only
      rw [ensures_bind, MemM.modifyMem, ensures_modify, ensures_bind, ensures_addModule]
      have hset' := ht.set_endpoint k (m := { t.mem.hwEpModule.getD k noModule with
        miid := ids.moduleIid, mid := ids.moduleId, gkv := some ⟨t.mem.nextGkv, md.gkv⟩ }) rfl
      rw [← ht.endpoint_copy (hn.hw k hk) htag ids d ⟨t.mem.nextGkv, md.gkv⟩]
      refine (h _ _ ?_).imp ?_
      · exact hset'.congr rfl (List.set_set _)
      · rintro exit t' ⟨hexit, hkept, hnext⟩
        have hcount : ∀ es', endpointCount ({ e with first := some ids } :: es') =
            endpointCount es' + 1 := fun es' => List.countP_cons_of_pos (by simpa using hstream)
        rw [hcount]
        refine ⟨hexit, ⟨hkept.templates, hkept.calls, hkept.nextHandle,
          (Nat.le_succ _).trans hkept.nextGkv⟩, fun mods' h => ?_⟩
        rw [hnext mods' h]
        exact Nat.add_right_comm _ _ _

end cases

theorem openTags_plan (md : MetaData) (dev : Option ℕ) :
    ∀ (es : List TagEntry) (sessNodes hwNodes : List ℕ) (mods : List ModuleInfo) (t : MemState),
      Templates t.mem → Nodes sessNodes hwNodes → TagsPlanned md dev es sessNodes hwNodes mods t
  | [], _, _, mods, t, ht, _ => by
      unfold TagsPlanned
      rw [openTags, ensures_pure]
      exact ⟨rfl, ⟨ht, rfl, rfl, le_rfl⟩, fun _ _ => rfl⟩
  | e :: es, sessNodes, hwNodes, mods, t, ht, hn => by
      cases hfind : findTag streamModuleList sessNodes e.tag with
      | some k =>
          refine planned_stream ht hn hfind fun mods t ht => ?_
          exact openTags_plan md dev es _ hwNodes mods t ht (hn.eraseSess k)
      | none =>
          have hrest := openTags_plan md dev es sessNodes hwNodes mods t ht hn
          cases hdev : dev with
          | none => exact planned_skip ht hfind (fun h => absurd rfl h) (hdev ▸ hrest)
          | some d =>
              cases hfindHw : findTag hwEpModule hwNodes e.tag with
              | none => exact planned_skip ht hfind (fun _ => hfindHw) (hdev ▸ hrest)
              | some k =>
                  refine planned_endpoint ht hn hfind hfindHw fun mods t ht => ?_
                  exact openTags_plan md (some d) es sessNodes _ mods t ht (hn.eraseHw k)

end loop

/-! ### The parts of `graph_open` -/

section parts
variable {t : MemState}

/-- Only questions were put to GSL, which name no graph. -/
def OnlyAsked (t t' : MemState) : Prop :=
  ∃ new : List GslCall, (∀ c ∈ new, c.handle = none) ∧
    t'.mem = { t.mem with calls := new ++ t.mem.calls }

theorem OnlyAsked.templates {t' : MemState} (h : OnlyAsked t t') (ht : Templates t.mem) :
    Templates t'.mem := by
  obtain ⟨new, -, hmem⟩ := h
  rw [hmem]
  exact ht.congr rfl rfl

theorem ensures_gsl {E : Crash → Prop} (handle : Option ℕ) (cmd : GslCmd)
    (Q : Answer → MemState → Prop) :
    Ensures E (gsl handle cmd) t Q ↔ Q (t.ext.headD {})
      { mem := { t.mem with calls := ⟨handle, cmd, (t.ext.headD {}).code⟩ :: t.mem.calls }
        ext := t.ext.tail } := Iff.rfl

theorem not_nextFails {ext : List Answer} : ¬ nextFails ext ↔ (ext.headD {}).code = 0 := not_not

/-- The query for the tags: its allocation is not looked at. -/
theorem getTagsWithModuleInfo_spec (gkv : KeyVector) :
    Ensures noFault (getTagsWithModuleInfo gkv) t fun info t' =>
      OnlyAsked t t' ∧ (info.1 = 0 ↔ ¬ nextFails t.ext ∧ ¬ nextFails (t.ext.drop 2)) ∧
      (info.1 = 0 → t'.ext = t.ext.drop 3 ∧
        info.2 = if nextFails (t.ext.drop 1) then none else some ((t.ext.drop 2).headD {}).tags) := by
  have hdrop : t.ext.tail.tail = t.ext.drop 2 := by
    simp only [← List.drop_one, List.drop_drop]
  have hcode : ∀ c : ℤ, c ≠ 0 → arErrGetLnxErrCode (arErrGetLnxErrCode c) ≠ 0 := fun c hc =>
    fun h => hc (arErrGetLnxErrCode_eq_zero.mp (arErrGetLnxErrCode_eq_zero.mp h))
  unfold getTagsWithModuleInfo
  rw [ensures_bind, ensures_gsl, ensures_ite]
  refine ⟨fun hf => ?_, fun hok => ?_⟩
  · rw [ensures_pure]
    refine ⟨⟨[_], List.forall_mem_singleton.mpr rfl, rfl⟩, ?_, fun h => absurd h (hcode _ hf)⟩
    exact ⟨fun h => absurd h (hcode _ hf), fun h => absurd (not_nextFails.mp h.1) hf⟩
  have hfirst : ¬ nextFails t.ext := hok
  rw [ensures_bind, ensures_memCalloc, ensures_bind, ensures_gsl]
  dsimp only
  rw [hdrop, ensures_ite]
  refine ⟨fun hf => ?_, fun hok' => ?_⟩
  · rw [ensures_pure]
    refine ⟨⟨[_, _], by simp, rfl⟩, ?_, fun h => absurd h (hcode _ hf)⟩
    exact ⟨fun h => absurd h (hcode _ hf), fun h => absurd (not_nextFails.mp h.2) hf⟩
  · have hthird : ¬ nextFails (t.ext.drop 2) := hok'
    rw [ensures_pure]
    refine ⟨⟨[_, _], by simp, rfl⟩, ⟨fun _ => ⟨hfirst, hthird⟩, fun _ => rfl⟩, fun _ => ⟨?_, ?_⟩⟩
    · rw [← hdrop]
      simp only [← List.drop_one, List.drop_drop]
    · rw [List.drop_one]
      by_cases hb : nextFails t.ext.tail
      · rw [if_pos hb, decide_eq_false hb]
        rfl
      · rw [if_neg hb, decide_eq_true (not_nextFails.mp hb)]
        rfl

theorem addToList_spec (n : ℕ) (t : MemState) :
    Ensures noFault (addToList n) t fun r t' =>
      t'.mem = t.mem ∧ (r = 0 ↔ Granted n t.ext) ∧ (r = 0 → t'.ext = t.ext.drop n) := by
  induction n generalizing t with
  | zero =>
      rw [addToList, ensures_pure]
      exact ⟨rfl, ⟨fun _ => granted_zero _, fun _ => rfl⟩, fun _ => rfl⟩
  | succ n ih =>
      unfold addToList
      rw [ensures_bind, ensures_memCalloc, ensures_ite, refused_iff, granted_succ]
      refine ⟨fun hf => ?_, fun hok => ?_⟩
      · rw [ensures_pure]
        have hne : (-ENOMEM : ℤ) ≠ 0 := by decide
        exact ⟨rfl, ⟨fun h => absurd h hne, fun h => absurd h.1 hf⟩, fun h => absurd h hne⟩
      · refine (ih { t with ext := t.ext.tail }).imp fun r t' h => ⟨h.1, ?_, fun hr => ?_⟩
        · rw [h.2.1]
          exact ⟨fun hg => ⟨not_not.mp hok, hg⟩, fun hg => hg.2⟩
        · rw [h.2.2 hr, ← List.drop_one, List.drop_drop, Nat.add_comm]

end parts

/-! ### The list of a new graph -/

/-- The tags for which the service has a module; those of endpoints only with a device. -/
def supported (dev : Option ℕ) (t : Tag) : Bool :=
  decide (t ∈ streamTags) || (dev.isSome && decide (t ∈ endpointTags))

/-- At the start of the loop the tags of all modules are offered. -/
theorem available_range (dev : Option ℕ) :
    available dev (List.range streamModuleList.length) (List.range hwEpModule.length) =
      supported dev := by
  have hstream : offered streamModuleList (List.range streamModuleList.length) = streamTags := by
    decide
  have hendpoint : offered hwEpModule (List.range hwEpModule.length) = endpointTags := by decide
  funext t
  unfold available supported
  rw [hstream, hendpoint]

/-- The tags with their modules that GSL reports to `graph_open`. -/
def tagBlob (ext : List Answer) : List TagEntry := ((ext.drop 3).headD {}).tags

/-- The entries that the loop takes: the first of each supported tag. -/
def takenEntries (dev : Option ℕ) (ext : List Answer) : List TagSlot :=
  matched (supported dev) (slots (tagBlob ext))

/-- The answers left for the loop over the tags, after those for the graph object, the tags and the
list nodes. -/
def loopAnswers (ext : List Answer) : List Answer :=
  ext.drop (4 + (streamModuleList.length + hwEpModule.length))

/-- The entry of the module list for a tag and a module; `n` is the number of the next key vector. -/
def moduleFor (gkv : KeyVector) (dev : Option ℕ) (tag : Tag) (n : ℕ) (ids : ModuleIdInfo) :
    ModuleInfo :=
  if tag ∈ streamTags then streamEntry tag ids else endpointEntry tag ids dev ⟨n, gkv⟩

/-- The number of the next key vector after an entry. -/
def nextVector (tag : Tag) (n : ℕ) : ℕ := if tag ∈ streamTags then n else n + 1

/-- One entry for each tag, in their order, with the ids that are read for it; the key vectors are
numbered from `n` on. -/
def modulesOf (gkv : KeyVector) (dev : Option ℕ) : List TagSlot → ℕ → List ModuleInfo
  | [], _ => []
  | e :: es, n =>
      moduleFor gkv dev e.tag n (e.first.getD {}) :: modulesOf gkv dev es (nextVector e.tag n)

/-- One entry for each tag with the ids of its own module; `none` for a tag without a module. -/
def ownModulesOf (gkv : KeyVector) (dev : Option ℕ) : List TagSlot → ℕ → List (Option ModuleInfo)
  | [], _ => []
  | e :: es, n =>
      e.modules.head?.map (moduleFor gkv dev e.tag n) :: ownModulesOf gkv dev es (nextVector e.tag n)

/-- What is read for an entry that has a module is this module. -/
theorem first_of_mem {e : TagSlot} {m : ModuleIdInfo} (hm : e.modules.head? = some m) :
    ∀ {es : List TagEntry}, e ∈ slots es → e.first = some m
  | [], he => absurd he List.not_mem_nil
  | e' :: es, he => by
      rcases List.mem_cons.mp he with rfl | he
      · unfold TagEntry.moduleEntry
        cases hmods : e'.modules with
        | nil =>
            dsimp only at hm
            rw [hmods] at hm
            exact absurd hm (Option.some_ne_none m).symm
        | cons m' ms =>
            dsimp only at hm
            rw [hmods] at hm
            exact hm
      · exact first_of_mem hm he

theorem mem_of_mem_slots {e : TagSlot} :
    ∀ {es : List TagEntry}, e ∈ slots es → e.toTagEntry ∈ es
  | [], he => absurd he List.not_mem_nil
  | e' :: es, he => by
      rcases List.mem_cons.mp he with rfl | he
      · exact List.mem_cons_self
      · exact List.mem_cons_of_mem _ (mem_of_mem_slots he)

/-- The tags have the entries with the ids of their own modules when each has a module. -/
theorem ownModulesOf_iff {gkv : KeyVector} {dev : Option ℕ} {es : List TagSlot}
    (hfirst : ∀ e ∈ es, ∀ m, e.modules.head? = some m → e.first = some m) (n : ℕ)
    (mods : List ModuleInfo) :
    mods.map some = ownModulesOf gkv dev es n ↔
      mods = modulesOf gkv dev es n ∧ ∀ e ∈ es, e.modules ≠ [] := by
  induction es generalizing n mods with
  | nil => simp [ownModulesOf, modulesOf]
  | cons e es ih =>
      obtain ⟨he, hes⟩ := List.forall_mem_cons.mp hfirst
      cases mods with
      | nil => simp [ownModulesOf, modulesOf]
      | cons m mods =>
          rw [List.map_cons, ownModulesOf, modulesOf, List.cons.injEq, List.cons.injEq, ih hes,
            List.forall_mem_cons]
          cases hmods : e.modules with
          | nil => simp
          | cons ids rest =>
              rw [he ids (by rw [hmods]; rfl)]
              simp [and_assoc]

/-- There is memory for each entry of the list. -/
def NoneDropped : List TagSlot → List Answer → Prop
  | [], _ => True
  | e :: es, ext =>
      if e.tag ∈ streamTags then ¬ nextFails ext ∧ NoneDropped es ext.tail
      else ¬ nextFails ext.tail.tail ∧ NoneDropped es ext.tail.tail.tail

instance decidableNoneDropped : ∀ es ext, Decidable (NoneDropped es ext)
  | [], _ => isTrue trivial
  | e :: es, ext =>
      have := decidableNoneDropped es ext.tail
      have := decidableNoneDropped es ext.tail.tail.tail
      inferInstanceAs (Decidable (if e.tag ∈ streamTags then ¬ nextFails ext ∧ NoneDropped es ext.tail
        else ¬ nextFails ext.tail.tail ∧ NoneDropped es ext.tail.tail.tail))

/-- The blocks of the key vectors of a module list. -/
def gkvBlocks (mods : List ModuleInfo) : List ℕ := mods.filterMap fun m => m.gkv.map GkvCopy.block

theorem gkvBlocks_modulesOf (gkv : KeyVector) (dev : Option ℕ) (es : List TagSlot) (n : ℕ) :
    gkvBlocks (modulesOf gkv dev es n) = List.range' n (endpointCount es) := by
  induction es generalizing n with
  | nil => rfl
  | cons e es ih =>
      unfold modulesOf moduleFor nextVector
      by_cases hs : e.tag ∈ streamTags
      · have hcount : endpointCount (e :: es) = endpointCount es :=
          List.countP_cons_of_neg (by simpa using hs)
        rw [if_pos hs, if_pos hs, hcount, ← ih]
        rfl
      · have hcount : endpointCount (e :: es) = endpointCount es + 1 :=
          List.countP_cons_of_pos (by simpa using hs)
        rw [if_neg hs, if_neg hs, hcount, List.range'_succ, ← ih]
        rfl

/-- One more entry, or none for lack of memory. -/
theorem appended_sublist {P : Prop} (ext : List Answer) (m : ModuleInfo)
    (mods new rest : List ModuleInfo) (hsub : new.Sublist rest) (hiff : new = rest ↔ P) :
    ∃ new', appended ext m mods ++ new = mods ++ new' ∧ new'.Sublist (m :: rest) ∧
      (new' = m :: rest ↔ ¬ nextFails ext ∧ P) := by
  unfold appended
  by_cases hf : nextFails ext
  · rw [if_pos hf]
    refine ⟨new, rfl, hsub.cons m, fun h => ?_, fun h => absurd hf h.1⟩
    have hlen := hsub.length_le
    rw [h, List.length_cons] at hlen
    omega
  · rw [if_neg hf]
    refine ⟨m :: new, List.append_assoc _ _ _, hsub.cons_cons m, ?_⟩
    rw [List.cons.injEq, hiff]
    exact ⟨fun h => ⟨hf, h.2⟩, fun h => ⟨rfl, h.2⟩⟩

/-- A list that was built is made of the entries for the tags, without those there was no memory
for. -/
theorem openPlan_found (gkv : KeyVector) (dev : Option ℕ) (es : List TagSlot) (ext : List Answer)
    (n : ℕ) (mods mods' : List ModuleInfo)
    (h : openPlan gkv dev es ext n mods = some (.found mods')) :
    ∃ new, mods' = mods ++ new ∧ new.Sublist (modulesOf gkv dev es n) ∧
      (new = modulesOf gkv dev es n ↔ NoneDropped es ext) := by
  induction es generalizing ext n mods with
  | nil =>
      cases h
      exact ⟨[], (List.append_nil _).symm, List.Sublist.refl _, fun _ => trivial, fun _ => rfl⟩
  | cons e es ih =>
      unfold openPlan at h
      unfold modulesOf moduleFor nextVector NoneDropped
      by_cases hn : 1 < e.numModules
      · rw [if_pos hn] at h
        exact nomatch h
      rw [if_neg hn] at h
      cases hids : e.first with
      | none =>
          rw [hids] at h
          exact nomatch h
      | some ids =>
          rw [hids] at h
          dsimp only [Option.getD_some] at h ⊢
          by_cases hs : e.tag ∈ streamTags
          · rw [if_pos hs] at h
            rw [if_pos hs, if_pos hs, if_pos hs]
            obtain ⟨new, rfl, hsub, hiff⟩ := ih _ _ _ h
            exact appended_sublist ext (streamEntry e.tag ids) mods new _ hsub hiff
          rw [if_neg hs] at h
          rw [if_neg hs, if_neg hs, if_neg hs]
          by_cases hf : nextFails ext ∨ nextFails ext.tail
          · rw [if_pos hf] at h
            exact nomatch h
          rw [if_neg hf] at h
          obtain ⟨new, rfl, hsub, hiff⟩ := ih _ _ _ h
          exact appended_sublist ext.tail.tail (endpointEntry e.tag ids dev ⟨n, gkv⟩) mods new _ hsub
            hiff

/-- Each supported tag comes with at most one module. -/
def SingleModules (dev : Option ℕ) (es : List TagEntry) : Prop :=
  ∀ e ∈ es, supported dev e.tag = true → e.numModules ≤ 1

instance (dev : Option ℕ) : DecidablePred (SingleModules dev) := fun es =>
  inferInstanceAs (Decidable (∀ e ∈ es, supported dev e.tag = true → e.numModules ≤ 1))

/-- The entries that are taken are entries of the blob in their places. -/
theorem takenEntries_subset (dev : Option ℕ) (ext : List Answer) :
    ∀ e ∈ takenEntries dev ext, e ∈ slots (tagBlob ext) ∧ supported dev e.tag = true := by
  intro e he
  have hsub : (takenEntries dev ext).Sublist _ := firstWins_sublist (fun e : TagSlot => e.tag) _
  exact List.mem_filter.mp (hsub.subset he)

theorem takenEntries_first (dev : Option ℕ) (ext : List Answer) :
    ∀ e ∈ takenEntries dev ext, ∀ m, e.modules.head? = some m → e.first = some m :=
  fun e he _ hm => first_of_mem hm (takenEntries_subset dev ext e he).1

theorem SingleModules.taken {dev : Option ℕ} {ext : List Answer}
    (h : SingleModules dev (tagBlob ext)) : ∀ e ∈ takenEntries dev ext, e.numModules ≤ 1 := by
  intro e he
  obtain ⟨hmem, hsupp⟩ := takenEntries_subset dev ext e he
  exact h _ (mem_of_mem_slots hmem) hsupp

/-- Then the loop does not leave without a code. -/
theorem openPlan_single (gkv : KeyVector) (dev : Option ℕ) (es : List TagSlot) (ext : List Answer)
    (n : ℕ) (mods : List ModuleInfo) (h : ∀ e ∈ es, e.numModules ≤ 1) :
    openPlan gkv dev es ext n mods ≠ some (.free 0) := by
  induction es generalizing ext n mods with
  | nil => exact nofun
  | cons e es ih =>
      obtain ⟨he, hes⟩ := List.forall_mem_cons.mp h
      unfold openPlan
      rw [if_neg (not_lt.mpr he)]
      cases e.first with
      | none => exact nofun
      | some ids =>
          dsimp only
          by_cases hs : e.tag ∈ streamTags
          · rw [if_pos hs]
            exact ih _ _ _ hes
          rw [if_neg hs]
          by_cases hf : nextFails ext ∨ nextFails ext.tail
          · rw [if_pos hf]
            exact fun h => absurd (TagsExit.free.inj (Option.some.inj h)) (by decide)
          · rw [if_neg hf]
            exact ih _ _ _ hes

/-! ### `graph_open` -/

/-- What a `graph_open` does to the graph layer, and the list of the graph it builds. -/
structure BuiltFrom (md : MetaData) (dev : Option ℕ) (t : MemState) (r : ℤ × Option GraphObj)
    (t' : MemState) : Prop where
  templates : Templates t'.mem
  nextGkv : t.mem.nextGkv ≤ t'.mem.nextGkv
  modules : ∀ obj, r.2 = some obj →
    openPlan md.gkv dev (takenEntries dev t.ext) (loopAnswers t.ext) t.mem.nextGkv [] =
        some (.found obj.taggedModList) ∧
      t'.mem.nextGkv = t.mem.nextGkv + endpointCount (takenEntries dev t.ext)
  unstored : r.1 = 0 → r.2 = none →
    openPlan md.gkv dev (takenEntries dev t.ext) (loopAnswers t.ext) t.mem.nextGkv [] =
      some (.free 0)
  opened : ∀ obj, r.2 = some obj → obj.state = .opened

section build
variable {md : MetaData} {dev : Option ℕ} {t t' : MemState}

theorem builtFrom_failed {ret : ℤ} (hret : ret ≠ 0) (ht : Templates t'.mem)
    (hn : t.mem.nextGkv ≤ t'.mem.nextGkv) : BuiltFrom md dev t (ret, none) t' :=
  ⟨ht, hn, nofun, fun h => absurd h hret, nofun⟩

theorem drop_drop_ext (m n : ℕ) (ext : List Answer) : (ext.drop m).drop n = ext.drop (m + n) :=
  List.drop_drop

/-- Opening the GSL graph does not touch the lists. -/
theorem openGsl_modules (md : MetaData) (s : ℕ) (mods : List ModuleInfo) (ht : Templates t.mem) :
    Ensures noFault (openGsl md s mods) t fun r t' =>
      Templates t'.mem ∧ t'.mem.nextGkv = t.mem.nextGkv ∧
        (∀ obj, r.2 = some obj → obj.taggedModList = mods ∧ obj.state = .opened) ∧
        (r.1 = 0 → r.2 ≠ none) := by
  have hkept : ∀ (calls : List GslCall) (n : ℕ),
      Templates { t.mem with nextHandle := n, calls := calls } := fun _ _ => ht.congr rfl rfl
  unfold openGsl
  rw [ensures_bind, ensures_gets, ensures_bind, MemM.modifyMem, ensures_modify, ensures_bind,
    ensures_gsl, ensures_ite]
  refine ⟨fun hf => ⟨hkept _ _, rfl, nofun, fun h => ?_⟩, fun _ => ?_⟩
  · exact absurd (arErrGetLnxErrCode_eq_zero.mp h) hf
  rw [ensures_bind, ensures_gsl, ensures_ite]
  refine ⟨fun hf => ⟨hkept _ _, rfl, nofun, fun h => ?_⟩, fun _ => ⟨hkept _ _, rfl, ?_, nofun⟩⟩
  · exact absurd (arErrGetLnxErrCode_eq_zero.mp h) hf
  · rintro obj hobj
    rw [← Option.some.inj hobj]
    exact ⟨rfl, rfl⟩

theorem graphOpenBody_builtFrom (md : MetaData) (s : ℕ) (dev : Option ℕ) (t : MemState)
    (ht : Templates t.mem) :
    Ensures anyFault (graphOpenBody md s dev) t (BuiltFrom md dev t) := by
  unfold graphOpenBody
  rw [ensures_bind, ensures_memCalloc, ensures_ite, refused_iff]
  refine ⟨fun _ => builtFrom_failed (by decide) ht le_rfl, fun _ => ?_⟩
  rw [ensures_bind]
  refine (getTagsWithModuleInfo_spec md.gkv).mono nofun fun info t₁ ⟨hasked, _, hok⟩ => ?_
  dsimp only at hasked hok
  have ht₁ : Templates t₁.mem := hasked.templates ht
  have hn₁ : t₁.mem.nextGkv = t.mem.nextGkv := by
    obtain ⟨new, -, hmem⟩ := hasked
    rw [hmem]
  rw [ensures_ite]
  refine ⟨fun hne => builtFrom_failed hne ht₁ hn₁.ge, fun hinfo => ?_⟩
  obtain ⟨hext₁, htags⟩ := hok (not_not.mp hinfo)
  simp only [← List.drop_one, drop_drop_ext, Nat.reduceAdd] at hext₁ htags
  rw [ensures_bind, ensures_gets, ht₁.stream_length, ht₁.endpoint_length, ensures_bind]
  refine (addToList_spec _ t₁).mono nofun fun ret t₂ ⟨hmem₂, _, hext₂⟩ => ?_
  rw [ensures_ite]
  refine ⟨fun hne => ?_, fun hret => ?_⟩
  · apply builtFrom_failed hne
    · rw [hmem₂]
      exact ht₁
    · rw [hmem₂]
      exact hn₁.ge
  rw [ensures_bind]
  refine (addToList_spec _ t₂).mono nofun fun ret t₃ ⟨hmem₃, _, hext₃⟩ => ?_
  rw [hext₂ (not_not.mp hret), hext₁, drop_drop_ext, drop_drop_ext] at hext₃
  rw [hmem₂] at hmem₃
  have ht₃ : Templates t₃.mem := by
    rw [hmem₃]
    exact ht₁
  have hn₃ : t₃.mem.nextGkv = t.mem.nextGkv := by
    rw [hmem₃]
    exact hn₁
  rw [ensures_ite]
  refine ⟨fun hne => builtFrom_failed hne ht₃ hn₃.ge, fun hret' => ?_⟩
  have hext : t₃.ext = loopAnswers t.ext := hext₃ (not_not.mp hret')
  rw [htags]
  by_cases hbuf : nextFails (t.ext.drop 2)
  · rw [if_pos hbuf]
    exact trivial
  rw [if_neg hbuf]
  dsimp only
  rw [ensures_bind]
  refine Ensures.mono (openTags_plan md dev (tagBlob t.ext) _ _ [] t₃ ht₃ .range)
    (fun _ _ => trivial) ?_
  rintro exit t₄ ⟨hexit, hkept, hnext⟩
  rw [available_range] at hexit hnext
  rw [hn₃, hext] at hexit
  rw [hn₃] at hnext
  have hn₄ : t.mem.nextGkv ≤ t₄.mem.nextGkv := hn₃.ge.trans hkept.nextGkv
  cases exit with
  | free ret =>
      refine ⟨hkept.templates, hn₄, nofun, fun hret _ => ?_, nofun⟩
      exact hexit.trans (congrArg (fun c => some (TagsExit.free c)) hret)
  | found mods =>
      refine (openGsl_modules md s mods hkept.templates).mono nofun ?_
      rintro r t' ⟨ht', hn', hobj, hsome⟩
      refine ⟨ht', hn₄.trans hn'.ge, fun obj hr => ?_, fun hr hnone => absurd hnone (hsome hr),
        fun obj hr => (hobj obj hr).2⟩
      rw [(hobj obj hr).1, hn']
      exact ⟨hexit, hnext mods rfl⟩

end build

end Agm
