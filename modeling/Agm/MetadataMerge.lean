import Agm.RemoveDup
import Agm.MetadataUpdate
import Agm.RefineCalls

/-! # What a merge is

A metadata value says which pairs and properties it holds (`MetaData.lists`), whatever lies in its
arrays behind the counts.  On these, `metadata_merge` is concatenation with the first entry of
each key kept (`MetaLists.merge`).

* `metadataMerge_firstWins`: the merge of any number of arguments, and the loops that it runs.
* `metadataMerge_ensures`: the specification that the callers use. -/

namespace Agm

open Prog FirstWins DupConfig

/-! ### What a value holds -/

/-- The pairs of a key vector. -/
def KeyVector.list (v : KeyVector) : List KeyValue := (v.kv.getD []).take v.numKvs

/-- The values of a property list. -/
def SgProp.list (p : SgProp) : List ℕ := (p.values.getD []).take p.numValues

/-- There is an array of at least the counted length behind each pointer. -/
structure MetaData.Readable (m : MetaData) : Prop where
  gkv : m.gkv.numKvs ≤ (m.gkv.kv.getD []).length
  ckv : m.ckv.numKvs ≤ (m.ckv.kv.getD []).length
  sgProps : m.sgProps.numValues ≤ (m.sgProps.values.getD []).length

instance (m : MetaData) : Decidable m.Readable :=
  decidable_of_iff (m.gkv.numKvs ≤ (m.gkv.kv.getD []).length ∧
      m.ckv.numKvs ≤ (m.ckv.kv.getD []).length ∧
      m.sgProps.numValues ≤ (m.sgProps.values.getD []).length)
    ⟨fun h => ⟨h.1, h.2.1, h.2.2⟩, fun h => ⟨h.gkv, h.ckv, h.sgProps⟩⟩

/-- What a metadata value holds. -/
structure MetaLists where
  gkv : List KeyValue
  ckv : List KeyValue
  props : List ℕ
  propId : ℕ
deriving DecidableEq, Repr

def MetaData.lists (m : MetaData) : MetaLists :=
  { gkv := m.gkv.list, ckv := m.ckv.list, props := m.sgProps.list, propId := m.sgProps.propId }

namespace MetaLists

/-- The first entry of each key of all values, and the property id of the last value. -/
def merge (ls : List MetaLists) : MetaLists :=
  { gkv := firstWins KeyValue.key (ls.flatMap gkv)
    ckv := firstWins KeyValue.key (ls.flatMap ckv)
    props := firstWins id (ls.flatMap props)
    propId := (ls.getLast?.map propId).getD 0 }

/-- A merged value that is merged again, together with one that is in it already, can be replaced
by the values it was made of. -/
theorem merge_again (base : MetaLists) (ls ms : List MetaLists) (hms : ms ≠ []) :
    merge (merge (base :: ls) :: base :: ms) = merge (base :: (ls ++ ms)) := by
  have hlist : ∀ {α κ : Type} [DecidableEq κ] (key : α → κ) (f : MetaLists → List α),
      firstWins key (firstWins key (f base ++ ls.flatMap f) ++ (f base ++ ms.flatMap f)) =
        firstWins key (f base ++ (ls ++ ms).flatMap f) := by
    intro α κ _ key f
    rw [firstWins_absorb, firstWins_again, List.flatMap_append, List.append_assoc]
    intro a ha
    rw [List.map_append, List.mem_append]
    exact .inl (List.mem_map_of_mem ha)
  have hlast : ∀ l : List MetaLists, (l ++ ms).getLast? = ms.getLast? := fun l => by
    rw [List.getLast?_append, Option.or_of_isSome (by simpa using hms)]
  simp only [merge, MetaLists.mk.injEq, List.flatMap_cons]
  refine ⟨hlist KeyValue.key gkv, hlist KeyValue.key ckv, hlist id props, ?_⟩
  rw [show ∀ x y : MetaLists, x :: y :: ms = [x, y] ++ ms from fun _ _ => rfl, hlast,
    ← List.cons_append, hlast]

/-- The keys that a value holds. -/
def SameKeys (x y : MetaLists) : Prop :=
  (∀ k, k ∈ x.gkv.map KeyValue.key ↔ k ∈ y.gkv.map KeyValue.key) ∧
    (∀ k, k ∈ x.ckv.map KeyValue.key ↔ k ∈ y.ckv.map KeyValue.key) ∧
    ∀ v, v ∈ x.props ↔ v ∈ y.props

/-- The keys of a merge do not depend on the order of the values. -/
theorem merge_perm {ls ms : List MetaLists} (h : ls.Perm ms) : SameKeys (merge ls) (merge ms) := by
  have hkeys : ∀ {α κ : Type} [DecidableEq κ] (key : α → κ) (f : MetaLists → List α) (k : κ),
      k ∈ (firstWins key (ls.flatMap f)).map key ↔ k ∈ (firstWins key (ms.flatMap f)).map key := by
    intro α κ _ key f k
    rw [mem_keys_firstWins, mem_keys_firstWins]
    exact ((h.flatMap_right f).map key).mem_iff
  refine ⟨hkeys KeyValue.key gkv, hkeys KeyValue.key ckv, fun v => ?_⟩
  have hprops := hkeys id props v
  rw [List.map_id, List.map_id] at hprops
  exact hprops

end MetaLists

/-! ### The merge -/

/-- The next `n` allocations succeed. -/
def Granted (n : ℕ) (ext : List Answer) : Prop := ∀ a ∈ ext.take n, a.code = 0

instance (n : ℕ) : DecidablePred (Granted n) := fun ext =>
  inferInstanceAs (Decidable (∀ a ∈ ext.take n, a.code = 0))

theorem granted_zero (ext : List Answer) : Granted 0 ext := by
  intro a ha
  simp at ha

theorem granted_succ (n : ℕ) (ext : List Answer) :
    Granted (n + 1) ext ↔ (ext.headD {}).code = 0 ∧ Granted n ext.tail := by
  unfold Granted
  cases ext with
  | nil => simp
  | cons a ext => simp

theorem granted_add (m n : ℕ) (ext : List Answer) :
    Granted (m + n) ext ↔ Granted m ext ∧ Granted n (ext.drop m) := by
  unfold Granted
  rw [List.take_add]
  simp only [List.mem_append, or_imp, forall_and]

theorem readAll_lists {α : Type} {f : MetaData → ℕ × Option (List α)} {ms : List (Option MetaData)}
    (h : ∀ m, some m ∈ ms → (f m).1 ≤ ((f m).2.getD []).length) (ext : List Answer) :
    Ensures noFault (readAll f ms) ext fun l ext' =>
      l = ms.reduceOption.flatMap (fun m => ((f m).2.getD []).take (f m).1) ∧ ext' = ext := by
  induction ms with
  | nil => exact ⟨rfl, rfl⟩
  | cons m ms ih =>
      have hrest := ih fun m' hm' => h m' (List.mem_cons_of_mem m hm')
      cases m with
      | none => exact hrest
      | some m =>
          unfold readAll
          rw [ensures_bind]
          refine (readArray_take (h m List.mem_cons_self) ext).imp ?_
          rintro l _ ⟨rfl, rfl⟩
          rw [ensures_bind]
          refine hrest.imp ?_
          rintro rest _ ⟨rfl, rfl⟩
          rw [ensures_pure, List.reduceOption_cons_of_some, List.flatMap_cons]
          exact ⟨rfl, rfl⟩

theorem reduceOption_map_some {α : Type} (l : List α) : (l.map some).reduceOption = l := by
  rw [List.reduceOption, List.filterMap_map]
  exact List.filterMap_some

theorem lastPropId_eq (ms : List (Option MetaData)) (p : ℕ) :
    lastPropId ms p = (ms.reduceOption.getLast?.map fun m => m.sgProps.propId).getD p := by
  induction ms generalizing p with
  | nil => rfl
  | cons m ms ih =>
      cases m with
      | none => exact ih p
      | some m =>
          rw [lastPropId, ih, List.reduceOption_cons_of_some, List.getLast?_cons]
          cases ms.reduceOption.getLast? with
          | none => rfl
          | some m' => rfl

/-- What `metadata_merge` makes of the arrays it concatenated. -/
def mergedValue (gkv ckv : List KeyValue) (props : List ℕ) (propId : ℕ) : MetaData :=
  let g := removeDup KeyValue.key gkv
  let c := removeDup KeyValue.key ckv
  let p := removeDup id props
  { gkv := { numKvs := g.2, kv := some g.1 }
    ckv := { numKvs := c.2, kv := some c.1 }
    sgProps := { propId := propId, numValues := p.2, values := some p.1 } }

theorem mergedValue_lists (gkv ckv : List KeyValue) (props : List ℕ) (propId : ℕ) :
    (mergedValue gkv ckv props propId).lists =
      ⟨firstWins KeyValue.key gkv, firstWins KeyValue.key ckv, firstWins id props, propId⟩ := by
  have hg := (removeDup_eq_firstWins KeyValue.key gkv).1
  have hc := (removeDup_eq_firstWins KeyValue.key ckv).1
  have hp := (removeDup_eq_firstWins id props).1
  rw [← hg, ← hc, ← hp]
  rfl

theorem removeDup_count_le {α κ : Type} [Inhabited α] [DecidableEq κ] (key : α → κ) (a : List α) :
    (removeDup key a).2 ≤ (removeDup key a).1.length := by
  have h := removeDup_eq_firstWins key a
  have hlen := congrArg List.length h.1
  rw [List.length_take, ← h.2] at hlen
  omega

theorem mergedValue_readable (gkv ckv : List KeyValue) (props : List ℕ) (propId : ℕ) :
    (mergedValue gkv ckv props propId).Readable :=
  ⟨removeDup_count_le _ gkv, removeDup_count_le _ ckv, removeDup_count_le _ props⟩

/-- The concatenations that a merge works on. -/
def mergedArgs (ms : List (Option MetaData)) : MetaData :=
  mergedValue (ms.reduceOption.flatMap fun m => m.gkv.list)
    (ms.reduceOption.flatMap fun m => m.ckv.list)
    (ms.reduceOption.flatMap fun m => m.sgProps.list)
    ((ms.reduceOption.getLast?.map fun m => m.sgProps.propId).getD 0)

theorem mergedArgs_lists (ms : List (Option MetaData)) :
    (mergedArgs ms).lists = MetaLists.merge (ms.reduceOption.map MetaData.lists) := by
  rw [mergedArgs, mergedValue_lists]
  unfold MetaLists.merge
  simp only [List.flatMap_map, List.getLast?_map, Option.map_map]
  rfl

/-- A merge of readable values: it returns the merged value if its four blocks can be had. -/
theorem metadataMerge_ensures {ms : List (Option MetaData)} (h : ∀ m, some m ∈ ms → m.Readable)
    (ext : List Answer) :
    Ensures noFault (metadataMerge ms) ext fun r ext' =>
      (Granted 4 ext → r = some (mergedArgs ms) ∧ ext' = ext.drop 4) ∧
        (¬ Granted 4 ext → r = none) := by
  have hg := readAll_lists (f := fun m => (m.gkv.numKvs, m.gkv.kv)) fun m hm => (h m hm).gkv
  have hc := readAll_lists (f := fun m => (m.ckv.numKvs, m.ckv.kv)) fun m hm => (h m hm).ckv
  have hp := readAll_lists (f := fun m => (m.sgProps.numValues, m.sgProps.values))
    fun m hm => (h m hm).sgProps
  have hgranted : Granted 4 ext ↔ (ext.headD {}).code = 0 ∧ (ext.tail.headD {}).code = 0 ∧
      (ext.tail.tail.headD {}).code = 0 ∧ (ext.tail.tail.tail.headD {}).code = 0 := by
    simp only [granted_succ, granted_zero, and_true]
  have hdrop : ext.tail.tail.tail.tail = ext.drop 4 := by
    simp only [← List.drop_one, List.drop_drop]
  rw [hgranted]
  unfold metadataMerge
  simp only [ensures_bind, ensures_calloc, ensures_ite, ensures_pure, refused_iff]
  refine ⟨fun hne => ⟨fun hok => absurd hok.1 hne, fun _ => trivial⟩, fun h1 => ?_⟩
  refine ⟨fun hne => ⟨fun hok => absurd hok.2.1 hne, fun _ => trivial⟩, fun h2 => ?_⟩
  refine ⟨fun hne => ⟨fun hok => absurd hok.2.2.1 hne, fun _ => trivial⟩, fun h3 => ?_⟩
  refine ⟨fun hne => ⟨fun hok => absurd hok.2.2.2 hne, fun _ => trivial⟩, fun h4 => ?_⟩
  rw [not_not] at h1 h2 h3 h4
  refine (hg _).imp ?_
  rintro gkv _ ⟨rfl, rfl⟩
  refine (hc _).imp ?_
  rintro ckv _ ⟨rfl, rfl⟩
  refine (hp _).imp ?_
  rintro props _ ⟨rfl, rfl⟩
  refine ⟨fun _ => ⟨?_, hdrop⟩, fun hno => absurd ⟨h1, h2, h3, h4⟩ hno⟩
  rw [lastPropId_eq]
  rfl

/-- `metadata_merge` of any number of arguments.  Of the pairs of the non-`NULL` arguments, one
after the other, the first one of each key is kept; the loops that remove the others end, and no
step of them leaves the concatenated arrays. -/
theorem metadataMerge_firstWins {ms : List (Option MetaData)} {ext : List Answer}
    (hread : ∀ m, some m ∈ ms → m.Readable)
    (hgkv : (ms.reduceOption.flatMap fun m => m.gkv.list).length < 2 ^ 31)
    (hckv : (ms.reduceOption.flatMap fun m => m.ckv.list).length < 2 ^ 31)
    (hprops : (ms.reduceOption.flatMap fun m => m.sgProps.list).length < 2 ^ 31)
    (hgranted : Granted 4 ext) :
    Ensures noFault (metadataMerge ms) ext fun r _ => ∃ md, r = some md ∧
      (md.gkv.list = firstWins KeyValue.key (ms.reduceOption.flatMap fun m => m.gkv.list) ∧
        md.gkv.numKvs = md.gkv.list.length) ∧
      (md.ckv.list = firstWins KeyValue.key (ms.reduceOption.flatMap fun m => m.ckv.list) ∧
        md.ckv.numKvs = md.ckv.list.length) ∧
      (md.sgProps.list = firstWins id (ms.reduceOption.flatMap fun m => m.sgProps.list) ∧
        md.sgProps.numValues = md.sgProps.list.length) ∧
      (∀ m, ms.reduceOption.getLast? = some m → md.sgProps.propId = m.sgProps.propId) ∧
      Reaches KeyValue.key (start (ms.reduceOption.flatMap fun m => m.gkv.list))
        ⟨md.gkv.kv.getD [], md.gkv.numKvs, .done⟩ ∧
      Reaches KeyValue.key (start (ms.reduceOption.flatMap fun m => m.ckv.list))
        ⟨md.ckv.kv.getD [], md.ckv.numKvs, .done⟩ ∧
      Reaches id (start (ms.reduceOption.flatMap fun m => m.sgProps.list))
        ⟨md.sgProps.values.getD [], md.sgProps.numValues, .done⟩ := by
  refine (metadataMerge_ensures hread ext).imp fun r _ h => ⟨mergedArgs ms, (h.1 hgranted).1, ?_⟩
  have hlists : (mergedArgs ms).lists = ⟨_, _, _, _⟩ := mergedValue_lists _ _ _ _
  have hcount := mergedValue_readable
    (ms.reduceOption.flatMap fun m => m.gkv.list) (ms.reduceOption.flatMap fun m => m.ckv.list)
    (ms.reduceOption.flatMap fun m => m.sgProps.list)
    ((ms.reduceOption.getLast?.map fun m => m.sgProps.propId).getD 0)
  refine ⟨⟨congrArg MetaLists.gkv hlists, ?_⟩, ⟨congrArg MetaLists.ckv hlists, ?_⟩,
    ⟨congrArg MetaLists.props hlists, ?_⟩, ?_, removeDup_reaches _ _ hgkv,
    removeDup_reaches _ _ hckv, removeDup_reaches _ _ hprops⟩
  · rw [KeyVector.list, List.length_take]
    exact (min_eq_left hcount.gkv).symm
  · rw [KeyVector.list, List.length_take]
    exact (min_eq_left hcount.ckv).symm
  · rw [SgProp.list, List.length_take]
    exact (min_eq_left hcount.sgProps).symm
  · intro m hm
    show ((ms.reduceOption.getLast?.map fun m => m.sgProps.propId).getD 0) = _
    rw [hm]
    rfl

/-- A key that is there twice, an argument that is missing and two values of one property. -/
def mergeArgs : List (Option MetaData) :=
  [some ⟨⟨2, some [⟨1, 10⟩, ⟨1, 11⟩]⟩, {}, ⟨5, 1, some [7]⟩⟩, none,
    some ⟨⟨2, some [⟨2, 20⟩, ⟨1, 12⟩]⟩, ⟨1, some [⟨3, 30⟩]⟩, ⟨6, 2, some [7, 8]⟩⟩]

theorem metadataMerge_firstWins_mergeArgs :
    Ensures noFault (metadataMerge mergeArgs) [] fun r _ => ∃ md, r = some md ∧
      md.gkv.list = [⟨1, 10⟩, ⟨2, 20⟩] ∧ md.sgProps.list = [7, 8] ∧ md.sgProps.propId = 6 := by
  refine (@metadataMerge_firstWins mergeArgs [] ?_ (by decide) (by decide)
    (by decide) (by decide)).imp ?_
  · intro m hm
    have hall : ∀ m ∈ mergeArgs.reduceOption, m.Readable := by decide
    exact hall m (List.reduceOption_mem_iff.mpr hm)
  · rintro r _ ⟨md, rfl, ⟨hg, -⟩, -, ⟨hp, -⟩, hid, -⟩
    exact ⟨md, rfl, hg.trans (by decide), hp.trans (by decide), hid _ rfl⟩

end Agm
