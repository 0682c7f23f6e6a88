import Agm.GraphHistory

/-! # What a failed `graph_open` leaves

`graph_open` has exits with which it reports a failure and releases what it took.  They are looked
at with a ledger of the module entries (`graphOpenLedger`) and of the GSL handles (`openHandles`).

Some of the ways out do not do what the caller relies on.  A tag with more than one module leaves at
`free_graph_obj` while the code is still `0`; the first module of a tag without modules is looked
for behind the block if the tag is the last; and a failed allocation of the tag buffer is not
noticed, since the test is on the address of the pointer.  Without them the code says whether there
is a graph, and nothing is left behind if there is none (`graphOpen_reports_iff`). -/

namespace Agm

open Prog

/-! ### GSL handles -/

/-- The handles that were opened and not closed. -/
def openHandles : List GslCall → List ℕ
  | [] => []
  | c :: cs =>
      match c.cmd, c.handle with
      | .graphOpen _ _, some h => if c.code = 0 then h :: openHandles cs else openHandles cs
      | .graphClose, some h => (openHandles cs).erase h
      | _, _ => openHandles cs

/-- The handles with a registered callback. -/
def callbackHandles : List GslCall → List ℕ
  | [] => []
  | c :: cs =>
      match c.cmd, c.handle with
      | .registerEventCb, some h => if c.code = 0 then h :: callbackHandles cs else callbackHandles cs
      | .graphClose, some h => (callbackHandles cs).filter fun h' => h' ≠ h
      | _, _ => callbackHandles cs

/-! ### Module entries -/

/-- The graph layer with the ids of the live module entries. -/
structure LedgerSt where
  st : MemState
  live : List ℕ
  next : ℕ

abbrev LedgerM := Prog LedgerSt Crash

def LedgerM.mem {α : Type} (m : MemM α) : LedgerM α :=
  Prog.zoom LedgerSt.st (fun t l => { l with st := t }) id m

/-- `ADD_MODULE`: the copy is a block of its own. -/
def addEntry (mod : ModuleInfo) (dev : Option ℕ) (mods : List (ℕ × ModuleInfo)) :
    LedgerM (List (ℕ × ModuleInfo)) := do
  let block ← LedgerM.mem (MemM.call calloc)
  let copy := match dev with
    | none => mod
    | some d => { mod with devObj := some d }
  if block then do
    let id ← Prog.gets LedgerSt.next
    Prog.modify fun l => { l with live := l.live ++ [id], next := id + 1 }
    pure (mods ++ [(id, copy)])
  else pure mods

/-- The loop at `free_graph_obj`; freeing what is not live is a fault. -/
def freeEntries : List (ℕ × ModuleInfo) → LedgerM Unit
  | [] => pure ()
  | m :: mods => do
      let live ← Prog.gets LedgerSt.live
      if m.1 ∈ live then do
        Prog.modify fun l => { l with live := l.live.erase m.1 }
        freeEntries mods
      else Prog.fault .outOfBounds

/-- How the loop over the tags ends, with the entries made so far. -/
inductive LedgerExit where
  | found (mods : List (ℕ × ModuleInfo))
  | free (ret : ℤ) (mods : List (ℕ × ModuleInfo))

namespace LedgerExit

def mods : LedgerExit → List (ℕ × ModuleInfo)
  | found mods => mods
  | free _ mods => mods

/-- Without the ledger. -/
def forget : LedgerExit → TagsExit
  | found mods => .found (mods.map Prod.snd)
  | free ret _ => .free ret

end LedgerExit

/-- The loop of `graph_open` over the tags. -/
def openTagsLedger (md : MetaData) (dev : Option ℕ) :
    List TagEntry → List ℕ → List ℕ → List (ℕ × ModuleInfo) → LedgerM LedgerExit
  | [], _, _, mods => pure (.found mods)
  | e :: es, sessNodes, hwNodes, mods => do
      let l ← Prog.gets LedgerSt.st
      match findTag l.mem.streamModuleList sessNodes e.tag with
      | some k =>
          if 1 < e.numModules then pure (.free 0 mods) else
          match e.moduleEntry es with
          | none => Prog.fault .outOfBounds
          | some ids =>
              let mod := { l.mem.streamModuleList.getD k noModule with
                miid := ids.moduleIid, mid := ids.moduleId }
              LedgerM.mem (MemM.modifyMem fun m =>
                { m with streamModuleList := m.streamModuleList.set k mod })
              let mods ← addEntry mod none mods
              openTagsLedger md dev es (sessNodes.erase k) hwNodes mods
      | none =>
          match dev, findTag l.mem.hwEpModule hwNodes e.tag with
          | some d, some k =>
              if 1 < e.numModules then pure (.free 0 mods) else
              match e.moduleEntry es with
              | none => Prog.fault .outOfBounds
              | some ids =>
                  let mod := { l.mem.hwEpModule.getD k noModule with
                    miid := ids.moduleIid, mid := ids.moduleId }
                  LedgerM.mem (MemM.modifyMem fun m =>
                    { m with hwEpModule := m.hwEpModule.set k mod })
                  let gkv ← LedgerM.mem (copyGkv md.gkv)
                  match gkv with
                  | none => pure (.free (-ENOMEM) mods)
                  | some copy =>
                      let mod := { mod with gkv := some copy }
                      LedgerM.mem (MemM.modifyMem fun m =>
                        { m with hwEpModule := m.hwEpModule.set k mod })
                      let mods ← addEntry mod (some d) mods
                      openTagsLedger md dev es sessNodes (hwNodes.erase k) mods
          | _, _ => openTagsLedger md dev es sessNodes hwNodes mods

/-- `graph_open`, with the ledger. -/
def graphOpenLedger (md : MetaData) (s : ℕ) (dev : Option ℕ) : LedgerM (ℤ × Option GraphObj) := do
  let block ← LedgerM.mem (MemM.call calloc)
  if !block then pure (-ENOMEM, none) else
  let info ← LedgerM.mem (getTagsWithModuleInfo md.gkv)
  if info.1 ≠ 0 then pure (info.1, none) else
  let l ← Prog.gets LedgerSt.st
  let ret ← LedgerM.mem (addToList l.mem.streamModuleList.length)
  if ret ≠ 0 then pure (ret, none) else
  let ret ← LedgerM.mem (addToList l.mem.hwEpModule.length)
  if ret ≠ 0 then pure (ret, none) else
  match info.2 with
  | none => Prog.fault .nullDeref
  | some tags =>
      let exit ← openTagsLedger md dev tags (List.range l.mem.streamModuleList.length)
        (List.range l.mem.hwEpModule.length) []
      match exit with
      | .free ret mods => do
          freeEntries mods
          pure (ret, none)
      | .found mods => do
          let r ← LedgerM.mem (openGsl md s (mods.map Prod.snd))
          if r.2.isNone then do
            freeEntries mods
            pure r
          else pure r

section ledger
variable {E : Crash → Prop} {l : LedgerSt}

theorem ensures_mem {α : Type} (m : MemM α) (Q : α → LedgerSt → Prop) :
    Ensures E (LedgerM.mem m) l Q ↔ Ensures E m l.st fun a t => Q a { l with st := t } := by
  unfold LedgerM.mem
  rw [ensures_zoom]
  exact Iff.rfl

/-- Between two states entries were made, which were appended to a list. -/
def Made (l : LedgerSt) (mods mods' : List (ℕ × ModuleInfo)) (l' : LedgerSt) : Prop :=
  ∃ new, mods' = mods ++ new ∧ l'.live = l.live ++ new.map Prod.fst ∧ l.next ≤ l'.next ∧
    (new.map Prod.fst).Nodup ∧ ∀ i ∈ new.map Prod.fst, l.next ≤ i ∧ i < l'.next

theorem Made.refl (l : LedgerSt) (mods : List (ℕ × ModuleInfo)) (t : MemState) :
    Made l mods mods { l with st := t } :=
  ⟨[], (List.append_nil _).symm, (List.append_nil _).symm, le_rfl, List.nodup_nil, nofun⟩

theorem Made.trans {l' l'' : LedgerSt} {mods mods' mods'' : List (ℕ × ModuleInfo)}
    (h : Made l mods mods' l') (h' : Made l' mods' mods'' l'') : Made l mods mods'' l'' := by
  obtain ⟨new, rfl, hlive, hle, hnd, hnew⟩ := h
  obtain ⟨new', rfl, hlive', hle', hnd', hnew'⟩ := h'
  refine ⟨new ++ new', List.append_assoc _ _ _, ?_, hle.trans hle', ?_, ?_⟩
  · rw [hlive', hlive, List.map_append, List.append_assoc]
  · rw [List.map_append, List.nodup_append']
    refine ⟨hnd, hnd', fun i hi hi' => ?_⟩
    have h₁ := (hnew i hi).2
    have h₂ := (hnew' i hi').1
    omega
  · intro i hi
    rw [List.map_append, List.mem_append] at hi
    rcases hi with hi | hi
    · exact ⟨(hnew i hi).1, (hnew i hi).2.trans_le hle'⟩
    · exact ⟨hle.trans (hnew' i hi).1, (hnew' i hi).2⟩

/-- What `ADD_MODULE` ensures without the ledger. -/
theorem addEntry_ensures {mod : ModuleInfo} {dev : Option ℕ} {mods : List (ℕ × ModuleInfo)}
    {Q : List ModuleInfo → MemState → Prop}
    (h : Ensures E (addModule mod dev (mods.map Prod.snd)) l.st Q) :
    Ensures E (addEntry mod dev mods) l fun mods' l' =>
      Q (mods'.map Prod.snd) l'.st ∧ Made l mods mods' l' := by
  rw [ensures_addModule] at h
  unfold addEntry
  rw [ensures_bind, ensures_mem, ensures_memCalloc]
  unfold appended at h
  by_cases hok : (l.st.ext.headD {}).code = 0
  · have hgiven : ¬ nextFails l.st.ext := not_not.mpr hok
    rw [if_neg hgiven] at h
    simp only [hok, decide_true, if_true]
    rw [ensures_bind, ensures_gets, ensures_bind, ensures_modify, ensures_pure]
    refine ⟨?_, [(l.next, _)], rfl, rfl, Nat.le_succ _, List.nodup_singleton _, ?_⟩
    · rw [List.map_append]
      exact h
    · intro i hi
      rw [List.map_singleton, List.mem_singleton] at hi
      subst hi
      exact ⟨le_rfl, Nat.lt_succ_self _⟩
  · rw [if_pos (show nextFails l.st.ext from hok)] at h
    simp only [hok, decide_false, Bool.false_eq_true, if_false]
    rw [ensures_pure]
    exact ⟨h, .refl l mods _⟩

/-- What the loop over the tags ensures without the ledger. -/
theorem openTagsLedger_ensures (md : MetaData) (dev : Option ℕ) {Q : TagsExit → MemState → Prop} :
    ∀ (es : List TagEntry) (sessNodes hwNodes : List ℕ) (mods : List (ℕ × ModuleInfo))
      (l : LedgerSt),
      Ensures E (openTags md dev es sessNodes hwNodes (mods.map Prod.snd)) l.st Q →
      Ensures E (openTagsLedger md dev es sessNodes hwNodes mods) l fun exit l' =>
        Q exit.forget l'.st ∧ Made l mods exit.mods l'
  | [], _, _, mods, l, h => ⟨h, .refl l mods l.st⟩
  | e :: es, sessNodes, hwNodes, mods, l, h => by
      unfold openTags at h
      unfold openTagsLedger
      rw [ensures_bind, ensures_gets] at h ⊢
      cases hfind : findTag l.st.mem.streamModuleList sessNodes e.tag with
      | some k =>
          rw [hfind] at h
          dsimp only at h ⊢
          rw [ensures_ite] at h ⊢
          refine ⟨fun hn => ⟨h.1 hn, .refl l mods l.st⟩, fun hn => ?_⟩
          have hgo := h.2 hn
          cases hids : e.moduleEntry es with
          | none =>
              rw [hids] at hgo
              exact hgo
          | some ids =>
              rw [hids] at hgo
              dsimp only at hgo ⊢
              rw [ensures_bind, MemM.modifyMem, ensures_modify, ensures_bind] at hgo
              rw [ensures_bind, ensures_mem, MemM.modifyMem, ensures_modify, ensures_bind]
              refine (addEntry_ensures hgo).imp fun mods₁ l₁ h₁ => ?_
              refine (openTagsLedger_ensures md dev es _ _ mods₁ l₁ h₁.1).imp fun exit l' h' => ?_
              exact ⟨h'.1, Made.trans h₁.2 h'.2⟩
      | none =>
          rw [hfind] at h
          dsimp only at h ⊢
          cases dev with
          | none => exact openTagsLedger_ensures md none es _ _ mods l h
          | some d =>
              cases hfindHw : findTag l.st.mem.hwEpModule hwNodes e.tag with
              | none =>
                  rw [hfindHw] at h
                  exact openTagsLedger_ensures md (some d) es _ _ mods l h
              | some k =>
                  rw [hfindHw] at h
                  dsimp only at h ⊢
                  rw [ensures_ite] at h ⊢
                  refine ⟨fun hn => ⟨h.1 hn, .refl l mods l.st⟩, fun hn => ?_⟩
                  have hgo := h.2 hn
                  cases hids : e.moduleEntry es with
                  | none =>
                      rw [hids] at hgo
                      exact hgo
                  | some ids =>
                      rw [hids] at hgo
                      dsimp only at hgo ⊢
                      rw [ensures_bind, MemM.modifyMem, ensures_modify, ensures_bind] at hgo
                      rw [ensures_bind, ensures_mem, MemM.modifyMem, ensures_modify, ensures_bind,
                        ensures_mem]
                      refine hgo.imp fun gkv t₁ h₁ => ?_
                      cases gkv with
                      | none => exact ⟨h₁, .refl l mods t₁⟩
                      | some copy =>
                          dsimp only at h₁ ⊢
                          rw [ensures_bind, MemM.modifyMem, ensures_modify, ensures_bind] at h₁
                          rw [ensures_bind, ensures_mem, MemM.modifyMem, ensures_modify,
                            ensures_bind]
                          refine (addEntry_ensures h₁).imp fun mods₂ l₂ h₂ => ?_
                          refine (openTagsLedger_ensures md (some d) es _ _ mods₂ l₂ h₂.1).imp
                            fun exit l' h' => ?_
                          exact ⟨h'.1, Made.trans h₂.2 h'.2⟩

/-- The entries of a list are freed, each once. -/
theorem freeEntries_ensures (mods : List (ℕ × ModuleInfo)) (base : List ℕ) (l : LedgerSt)
    (hlive : l.live = base ++ mods.map Prod.fst) (hfresh : ∀ i ∈ mods.map Prod.fst, i ∉ base) :
    Ensures noFault (freeEntries mods) l fun _ l' => l' = { l with live := base } := by
  induction mods generalizing l with
  | nil =>
      rw [List.map_nil, List.append_nil] at hlive
      rw [freeEntries, ensures_pure, ← hlive]
  | cons m mods ih =>
      rw [List.map_cons] at hlive hfresh
      have hmem : m.1 ∈ l.live := by
        rw [hlive]
        simp
      unfold freeEntries
      rw [ensures_bind, ensures_gets, if_pos hmem, ensures_bind, ensures_modify]
      have herase : l.live.erase m.1 = base ++ mods.map Prod.fst := by
        rw [hlive, List.erase_append_right _ (hfresh m.1 List.mem_cons_self), List.erase_cons_head]
      refine (ih { l with live := l.live.erase m.1 } herase fun i hi =>
        hfresh i (List.mem_cons_of_mem _ hi)).imp ?_
      rintro _ _ rfl
      rfl

/-- What was made since a state can be freed. -/
theorem Made.free {mods : List (ℕ × ModuleInfo)} {l' : LedgerSt} (h : Made l [] mods l')
    (hl : ∀ i ∈ l.live, i < l.next) :
    Ensures noFault (freeEntries mods) l' fun _ l'' => l'' = { l' with live := l.live } := by
  obtain ⟨new, rfl, hlive, -, -, hnew⟩ := h
  refine freeEntries_ensures _ l.live l' hlive fun i hi hold => ?_
  have h₁ := (hnew i hi).1
  have h₂ := hl i hold
  omega

/-- The ledger takes part in nothing: whatever `graph_open` ensures, it does. -/
theorem graphOpenLedger_refines (md : MetaData) (s : ℕ) (dev : Option ℕ)
    (hl : ∀ i ∈ l.live, i < l.next) {Q : ℤ × Option GraphObj → MemState → Prop}
    (h : Ensures E (graphOpenBody md s dev) l.st Q) :
    Ensures E (graphOpenLedger md s dev) l fun r l' => Q r l'.st := by
  unfold graphOpenBody at h
  unfold graphOpenLedger
  rw [ensures_bind, ensures_memCalloc, ensures_ite] at h
  rw [ensures_bind, ensures_mem, ensures_memCalloc, ensures_ite]
  refine ⟨h.1, fun hblock => ?_⟩
  have hinfo := h.2 hblock
  rw [ensures_bind] at hinfo
  rw [ensures_bind, ensures_mem]
  refine hinfo.imp fun info t₁ h₁ => ?_
  rw [ensures_ite] at h₁ ⊢
  refine ⟨h₁.1, fun hcode => ?_⟩
  have hstream := h₁.2 hcode
  rw [ensures_bind, ensures_gets, ensures_bind] at hstream
  rw [ensures_bind, ensures_gets, ensures_bind, ensures_mem]
  refine hstream.imp fun ret t₂ h₂ => ?_
  rw [ensures_ite] at h₂ ⊢
  refine ⟨h₂.1, fun hret => ?_⟩
  have hendpoint := h₂.2 hret
  rw [ensures_bind] at hendpoint
  rw [ensures_bind, ensures_mem]
  refine hendpoint.imp fun ret t₃ h₃ => ?_
  rw [ensures_ite] at h₃ ⊢
  refine ⟨h₃.1, fun hret => ?_⟩
  have hloop := h₃.2 hret
  cases hbuf : info.2 with
  | none =>
      rw [hbuf] at hloop
      exact hloop
  | some tags =>
      rw [hbuf] at hloop
      dsimp only at hloop ⊢
      rw [ensures_bind] at hloop ⊢
      refine (openTagsLedger_ensures md dev _ _ _ [] { l with st := t₃ } hloop).imp ?_
      rintro exit l' ⟨hexit, hmade⟩
      cases exit with
      | free ret mods =>
          dsimp only
          rw [ensures_bind]
          refine (Made.free hmade hl).mono nofun ?_
          rintro _ _ rfl
          exact hexit
      | found mods =>
          dsimp only
          rw [ensures_bind, ensures_mem]
          refine Ensures.imp hexit fun r t' hr => ?_
          rw [ensures_ite]
          refine ⟨fun _ => ?_, fun _ => hr⟩
          have hmade' : Made l [] mods { l' with st := t' } := hmade
          rw [ensures_bind]
          refine (hmade'.free hl).mono nofun ?_
          rintro _ _ rfl
          exact hr

end ledger

/-! ### What is reported -/

/-- The loop over the tags takes an entry with more than one module, or one whose first module is
behind the block, before it runs out of memory for a key vector. -/
def MeetsUncoded : List TagSlot → List Answer → Prop
  | [], _ => False
  | e :: es, ext =>
      1 < e.numModules ∨ e.first = none ∨
        if e.tag ∈ streamTags then MeetsUncoded es ext.tail
        else ¬ nextFails ext ∧ ¬ nextFails ext.tail ∧ MeetsUncoded es ext.tail.tail.tail

instance decidableMeetsUncoded : ∀ es ext, Decidable (MeetsUncoded es ext)
  | [], _ => isFalse id
  | e :: es, ext =>
      have := decidableMeetsUncoded es ext.tail
      have := decidableMeetsUncoded es ext.tail.tail.tail
      inferInstanceAs (Decidable (1 < e.numModules ∨ e.first = none ∨
        if e.tag ∈ streamTags then MeetsUncoded es ext.tail
        else ¬ nextFails ext ∧ ¬ nextFails ext.tail ∧ MeetsUncoded es ext.tail.tail.tail))

/-- The loop has left with the code `0`, or has read behind the block. -/
def Uncoded (exit : Option TagsExit) : Prop := exit = none ∨ exit = some (.free 0)

theorem openPlan_uncoded (gkv : KeyVector) (dev : Option ℕ) (es : List TagSlot)
    (ext : List Answer) (n : ℕ) (mods : List ModuleInfo) :
    Uncoded (openPlan gkv dev es ext n mods) ↔ MeetsUncoded es ext := by
  induction es generalizing ext n mods with
  | nil => simp [openPlan, MeetsUncoded, Uncoded]
  | cons e es ih =>
      unfold openPlan MeetsUncoded
      by_cases hn : 1 < e.numModules
      · simp [hn, Uncoded]
      rw [if_neg hn, or_iff_right hn]
      cases e.first with
      | none => simp [Uncoded]
      | some ids =>
          rw [or_iff_right (Option.some_ne_none ids)]
          dsimp only
          by_cases hs : e.tag ∈ streamTags
          · rw [if_pos hs, if_pos hs]
            exact ih _ _ _
          rw [if_neg hs, if_neg hs]
          by_cases hf : nextFails ext ∨ nextFails ext.tail
          · rw [if_pos hf]
            constructor
            · rintro (h | h)
              · cases h
              · exact absurd (TagsExit.free.inj (Option.some.inj h)) (by decide)
            · rintro ⟨h₁, h₂, -⟩
              exact absurd hf (not_or.mpr ⟨h₁, h₂⟩)
          · rw [if_neg hf, ih]
            rw [not_or] at hf
            exact ⟨fun h => ⟨hf.1, hf.2, h⟩, fun h => h.2.2⟩

/-- The loop over the tags is reached: there is memory for the graph object and the list nodes, and
both queries for the tags are answered. -/
def ReachesTags (ext : List Answer) : Prop :=
  ¬ nextFails ext ∧ ¬ nextFails ext.tail ∧ ¬ nextFails (ext.drop 3) ∧
    Granted (streamModuleList.length + hwEpModule.length) (ext.drop 4)

/-- When the loop over the tags is reached there is a tag buffer; no tag has more modules, and none
is without modules at the end of the buffer. -/
def CodedExits (dev : Option ℕ) (ext : List Answer) : Prop :=
  ReachesTags ext → ¬ nextFails (ext.drop 2) ∧
    ¬ MeetsUncoded (takenEntries dev ext) (loopAnswers ext)

/-- The graph is new and open: its handle is open and has the callback. -/
def IsOpen (obj : GraphObj) (calls : List GslCall) : Prop :=
  obj.state = .opened ∧ obj.handle ∈ openHandles calls ∧ obj.handle ∈ callbackHandles calls

/-- The code is `0` exactly when a new open graph is stored, and otherwise nothing is stored and the
handles and the module entries are those of before. -/
def Reported (l : LedgerSt) (r : ℤ × Option GraphObj) (l' : LedgerSt) : Prop :=
  (r.1 = 0 ↔ ∃ obj, r.2 = some obj ∧ IsOpen obj l'.st.mem.calls) ∧
  (r.1 ≠ 0 → r.2 = none ∧ openHandles l'.st.mem.calls = openHandles l.st.mem.calls ∧
    l'.live = l.live)

/-- `graph_open` reports what it did. -/
def OpenReported (md : MetaData) (s : ℕ) (dev : Option ℕ) (l : LedgerSt) : Prop :=
  Ensures noFault (graphOpenLedger md s dev) l (Reported l)

/-! ### The parts of `graph_open` -/

section parts
variable {t : MemState}

theorem openHandles_onlyAsked (new calls : List GslCall) (h : ∀ c ∈ new, c.handle = none) :
    openHandles (new ++ calls) = openHandles calls := by
  induction new with
  | nil => rfl
  | cons c new ih =>
      obtain ⟨hc, hnew⟩ := List.forall_mem_cons.mp h
      rw [List.cons_append, openHandles, hc]
      cases c.cmd <;> exact ih hnew

theorem OnlyAsked.openHandles {t' : MemState} (h : OnlyAsked t t') :
    openHandles t'.mem.calls = openHandles t.mem.calls := by
  obtain ⟨new, hnew, hmem⟩ := h
  rw [hmem]
  exact openHandles_onlyAsked new _ hnew

/-- Opening the GSL graph: what is opened is closed again if the callback is refused. -/
theorem openGsl_spec (md : MetaData) (s : ℕ) (mods : List ModuleInfo) :
    Ensures noFault (openGsl md s mods) t fun r t' =>
      (r.1 = 0 → ∃ obj, r.2 = some obj ∧ IsOpen obj t'.mem.calls) ∧
      (r.1 ≠ 0 → r.2 = none ∧ openHandles t'.mem.calls = openHandles t.mem.calls) := by
  unfold openGsl
  rw [ensures_bind, ensures_gets, ensures_bind, MemM.modifyMem, ensures_modify, ensures_bind,
    ensures_gsl, ensures_ite]
  refine ⟨fun hf => ?_, fun hok => ?_⟩
  · rw [ensures_pure]
    refine ⟨fun h => absurd (arErrGetLnxErrCode_eq_zero.mp h) hf, fun _ => ⟨rfl, ?_⟩⟩
    dsimp only [openHandles]
    rw [if_neg hf]
  rw [not_not] at hok
  rw [ensures_bind, ensures_gsl, ensures_ite]
  refine ⟨fun hf => ?_, fun hok' => ?_⟩
  · rw [ensures_bind, ensures_gsl, ensures_pure]
    refine ⟨fun h => absurd (arErrGetLnxErrCode_eq_zero.mp h) hf, fun _ => ⟨rfl, ?_⟩⟩
    dsimp only [openHandles]
    rw [if_pos hok, List.erase_cons_head]
  · rw [not_not] at hok'
    rw [ensures_pure]
    refine ⟨fun _ => ⟨_, rfl, rfl, ?_, ?_⟩, fun h => absurd rfl h⟩
    · dsimp only [openHandles]
      rw [if_pos hok]
      exact List.mem_cons_self
    · dsimp only [callbackHandles]
      rw [if_pos hok']
      exact List.mem_cons_self

end parts

/-! ### `graph_open` -/

section report
variable {l l' : LedgerSt}

/-- A failure after which nothing is left. -/
theorem reported_failed {ret : ℤ} (hret : ret ≠ 0)
    (hcalls : openHandles l'.st.mem.calls = openHandles l.st.mem.calls)
    (hlive : l'.live = l.live) : Reported l (ret, none) l' :=
  ⟨⟨fun h => absurd h hret, fun ⟨_, h, _⟩ => nomatch h⟩, fun _ => ⟨rfl, hcalls, hlive⟩⟩

/-- After the loop the entries are freed, unless the graph is opened. -/
theorem finish_ensures (md : MetaData) (s : ℕ) (exit : LedgerExit) (hmade : Made l [] exit.mods l')
    (hl : ∀ i ∈ l.live, i < l.next)
    (hcalls : openHandles l'.st.mem.calls = openHandles l.st.mem.calls) :
    Ensures noFault (match exit with
      | .free ret mods => do
          freeEntries mods
          pure (ret, none)
      | .found mods => do
          let r ← LedgerM.mem (openGsl md s (mods.map Prod.snd))
          if r.2.isNone then do
            freeEntries mods
            pure r
          else pure r) l' fun r l'' =>
      (exit.forget = .free 0 → r = (0, none)) ∧ (exit.forget ≠ .free 0 → Reported l r l'') := by
  cases exit with
  | free ret mods =>
      dsimp only
      rw [ensures_bind]
      refine (hmade.free hl).imp ?_
      rintro _ _ rfl
      refine ⟨fun h => ?_, fun h => reported_failed ?_ hcalls rfl⟩
      · rw [TagsExit.free.inj h]
      · rintro rfl
        exact h rfl
  | found mods =>
      dsimp only
      rw [ensures_bind, ensures_mem]
      refine (openGsl_spec md s _).imp fun r t' ⟨hok, hfail⟩ => ?_
      have hexit : (LedgerExit.found mods).forget ≠ .free 0 := nofun
      rw [ensures_ite]
      by_cases hr : r.1 = 0
      · obtain ⟨obj, hobj, hopen⟩ := hok hr
        have hsome : ¬ r.2.isNone = true := by
          rw [hobj]
          exact Bool.false_ne_true
        refine ⟨fun h => absurd h hsome, fun _ => ⟨fun h => absurd h hexit, fun _ => ?_⟩⟩
        exact ⟨⟨fun _ => ⟨obj, hobj, hopen⟩, fun _ => hr⟩, fun h => absurd hr h⟩
      · obtain ⟨hnone, hsame⟩ := hfail hr
        refine ⟨fun _ => ?_, fun h => absurd (by rw [hnone]; rfl) h⟩
        have hpair : r = (r.1, none) := by
          rw [← hnone]
        have hmade' : Made l [] mods { l' with st := t' } := hmade
        rw [ensures_bind]
        refine (hmade'.free hl).imp ?_
        rintro _ _ rfl
        refine ⟨fun h => absurd h hexit, fun _ => ?_⟩
        rw [hpair]
        exact reported_failed hr (hsame.trans hcalls) rfl

/-- What the loop over the tags ends with, once it is reached with a tag buffer. -/
theorem openTagsLedger_exit (md : MetaData) (dev : Option ℕ) {l : LedgerSt} {t : MemState}
    (hreach : ReachesTags l.st.ext) (hbuf : ¬ nextFails (l.st.ext.drop 2)) (ht : Templates t.mem)
    (hext : t.ext = loopAnswers l.st.ext) :
    Ensures (fun _ => ¬ CodedExits dev l.st.ext)
      (openTagsLedger md dev (tagBlob l.st.ext) (List.range streamModuleList.length)
        (List.range hwEpModule.length) []) { l with st := t } fun exit l' =>
      Made l [] exit.mods l' ∧ l'.st.mem.calls = t.mem.calls ∧
        (exit.forget = .free 0 ↔ ¬ CodedExits dev l.st.ext) := by
  have hplan := openTags_plan md dev (tagBlob l.st.ext) _ _ [] t ht .range
  unfold TagsPlanned at hplan
  rw [available_range, hext] at hplan
  have huncoded : Uncoded (openPlan md.gkv dev (takenEntries dev l.st.ext) (loopAnswers l.st.ext)
      t.mem.nextGkv []) ↔ ¬ CodedExits dev l.st.ext := by
    rw [openPlan_uncoded]
    exact ⟨fun h hc => (hc hreach).2 h, fun h => not_not.mp fun hn => h fun _ => ⟨hbuf, hn⟩⟩
  refine (openTagsLedger_ensures md dev _ _ _ [] { l with st := t } hplan).mono
    (fun _ h => huncoded.mp (.inl h)) ?_
  rintro exit l' ⟨⟨hexit, hkept, -⟩, hmade⟩
  refine ⟨hmade, hkept.calls, ?_⟩
  rw [← huncoded]
  unfold Uncoded
  rw [show openPlan md.gkv dev (takenEntries dev l.st.ext) (loopAnswers l.st.ext)
    t.mem.nextGkv [] = some exit.forget from hexit, or_iff_right (Option.some_ne_none _),
    Option.some.injEq]

/-- The way out of `graph_open`; it faults only where the tag buffer is missing. -/
theorem graphOpenLedger_ensures (md : MetaData) (s : ℕ) (dev : Option ℕ) (l : LedgerSt)
    (ht : Templates l.st.mem) (hl : ∀ i ∈ l.live, i < l.next) :
    Ensures (fun _ => ¬ CodedExits dev l.st.ext) (graphOpenLedger md s dev) l fun r l' =>
      (CodedExits dev l.st.ext → Reported l r l') ∧ (¬ CodedExits dev l.st.ext → r = (0, none)) := by
  have hnomem : (-ENOMEM : ℤ) ≠ 0 := by decide
  have hnever : ¬ ReachesTags l.st.ext → CodedExits dev l.st.ext := fun h h' => absurd h' h
  unfold graphOpenLedger
  rw [ensures_bind, ensures_mem, ensures_memCalloc, ensures_ite, refused_iff]
  refine ⟨fun hf => ?_, fun hblock => ?_⟩
  · rw [ensures_pure]
    have hh := hnever fun h => h.1 hf
    exact ⟨fun _ => reported_failed hnomem rfl rfl, fun h => absurd hh h⟩
  rw [ensures_bind, ensures_mem]
  refine (getTagsWithModuleInfo_spec md.gkv).mono nofun fun info t₁ ⟨hsame, hcode, hok⟩ => ?_
  dsimp only at hsame hcode hok
  rw [ensures_ite]
  refine ⟨fun hne => ?_, fun hinfo => ?_⟩
  · rw [ensures_pure]
    have hh : CodedExits dev l.st.ext := hnever fun h => hne (hcode.mpr ⟨h.2.1, by
      rw [← List.drop_one, drop_drop_ext]
      exact h.2.2.1⟩)
    exact ⟨fun _ => reported_failed hne hsame.openHandles rfl, fun h => absurd hh h⟩
  rw [not_not] at hinfo
  obtain ⟨hq₁, hq₂⟩ := hcode.mp hinfo
  obtain ⟨hext₁, htags⟩ := hok hinfo
  simp only [← List.drop_one, drop_drop_ext, Nat.reduceAdd] at hq₂ hext₁ htags
  have ht₁ : Templates t₁.mem := hsame.templates ht
  rw [ensures_bind, ensures_gets, ht₁.stream_length, ht₁.endpoint_length, ensures_bind, ensures_mem]
  refine (addToList_spec _ t₁).mono nofun fun ret t₂ ⟨hmem₂, hgrant, hext₂⟩ => ?_
  rw [hext₁] at hgrant hext₂
  rw [ensures_ite]
  refine ⟨fun hne => ?_, fun hret => ?_⟩
  · rw [ensures_pure]
    have hh : CodedExits dev l.st.ext :=
      hnever fun h => hne (hgrant.mpr ((granted_add _ _ _).mp h.2.2.2).1)
    exact ⟨fun _ => reported_failed hne (by rw [hmem₂]; exact hsame.openHandles) rfl,
      fun h => absurd hh h⟩
  rw [not_not] at hret
  rw [drop_drop_ext] at hext₂
  rw [ensures_bind, ensures_mem]
  refine (addToList_spec _ t₂).mono nofun fun ret t₃ ⟨hmem₃, hgrant', hext₃⟩ => ?_
  rw [hext₂ hret] at hgrant' hext₃
  rw [ensures_ite]
  refine ⟨fun hne => ?_, fun hret' => ?_⟩
  · rw [ensures_pure]
    have hh : CodedExits dev l.st.ext := hnever fun h => hne (hgrant'.mpr (by
      rw [← drop_drop_ext]
      exact ((granted_add _ _ _).mp h.2.2.2).2))
    exact ⟨fun _ => reported_failed hne (by rw [hmem₃, hmem₂]; exact hsame.openHandles) rfl,
      fun h => absurd hh h⟩
  rw [not_not] at hret'
  have hreach : ReachesTags l.st.ext := by
    refine ⟨hblock, hq₁, hq₂, (granted_add _ _ _).mpr ⟨hgrant.mp hret, ?_⟩⟩
    rw [drop_drop_ext]
    exact hgrant'.mp hret'
  have hcalls₃ : openHandles t₃.mem.calls = openHandles l.st.mem.calls := by
    rw [hmem₃, hmem₂]
    exact hsame.openHandles
  have ht₃ : Templates t₃.mem := by
    rw [hmem₃, hmem₂]
    exact ht₁
  by_cases hbuf : nextFails (l.st.ext.drop 2)
  · rw [htags, if_pos hbuf]
    exact fun h => (h hreach).1 hbuf
  rw [htags, if_neg hbuf]
  dsimp only
  rw [ensures_bind]
  have hext : t₃.ext = loopAnswers l.st.ext := by
    rw [hext₃ hret', drop_drop_ext, Nat.add_assoc]
    rfl
  refine (openTagsLedger_exit md dev hreach hbuf ht₃ hext).mono (fun _ h => h) ?_
  rintro exit l₄ ⟨hmade, hcalls₄, hfree⟩
  refine (finish_ensures md s exit (l := l) hmade hl ?_).mono nofun fun r l' h => ?_
  · rw [hcalls₄]
    exact hcalls₃
  · exact ⟨fun hc => h.2 fun hz => hfree.mp hz hc, fun hc => h.1 (hfree.mpr hc)⟩

/-- `graph_open` reports what it did exactly when it is not led to an exit without a code. -/
theorem graphOpenLedger_reports_iff (md : MetaData) (s : ℕ) (dev : Option ℕ) (l : LedgerSt)
    (ht : Templates l.st.mem) (hl : ∀ i ∈ l.live, i < l.next) :
    OpenReported md s dev l ↔ CodedExits dev l.st.ext := by
  have hopen := graphOpenLedger_ensures md s dev l ht hl
  constructor
  · intro h
    by_contra hnot
    obtain ⟨r, l', -, hr, hout⟩ := Ensures.exists_ok (h.and hopen)
    have hzero := hout.2 hnot
    rw [hzero] at hr
    obtain ⟨obj, hobj, -⟩ := hr.1.mp rfl
    exact nomatch hobj
  · intro h
    exact hopen.mono (fun _ hnot => hnot h) fun r l' hout => hout.1 h

end report

instance : DecidablePred ReachesTags := fun ext =>
  inferInstanceAs (Decidable (¬ nextFails ext ∧ ¬ nextFails ext.tail ∧ ¬ nextFails (ext.drop 3) ∧
    Granted (streamModuleList.length + hwEpModule.length) (ext.drop 4)))

instance (dev : Option ℕ) : DecidablePred (CodedExits dev) := fun ext =>
  inferInstanceAs (Decidable (ReachesTags ext → ¬ nextFails (ext.drop 2) ∧
    ¬ MeetsUncoded (takenEntries dev ext) (loopAnswers ext)))

/-- In every history a `graph_open` reports what it did, unless it is led to an exit without a
code. -/
theorem graphOpen_reports_iff {num : ℕ} {calls : List GraphCall} {w : World}
    (hrun : runAll GraphCall.run calls (startUp num) = .ok ((), w)) (md : MetaData) (s : ℕ)
    (dev : Option ℕ) (ext : List Answer) :
    OpenReported md s dev ⟨⟨w.mem, ext⟩, [], 0⟩ ↔ CodedExits dev ext :=
  graphOpenLedger_reports_iff md s dev ⟨⟨w.mem, ext⟩, [], 0⟩
    ((history_templates calls (templates_startUp num)).of_ok hrun) (List.forall_mem_nil _)

theorem graphOpen_reports_openRx :
    ∃ w, runAll GraphCall.run [openRx 0 []] (startUp 1) = .ok ((), w) ∧
      OpenReported {} 1 (some 0) ⟨⟨w.mem, (openRx 1 []).ext⟩, [], 0⟩ := by
  obtain ⟨_, w, hrun, -⟩ := Ensures.exists_ok (Q := fun _ _ => True) (s := startUp 1)
    (m := runAll GraphCall.run [openRx 0 []]) (by decide +kernel)
  exact ⟨w, hrun, (graphOpen_reports_iff hrun {} 1 (some 0) _).mpr (by decide)⟩

/-- GSL reports two modules for a stream tag. -/
def twoModules : List Answer :=
  [{}, {}, {}, { tags := [{ tag := .streamSpr, modules := [{}, {}] }] }]

/-- GSL reports the tag of SPR without a module, at the end of the tags. -/
def lastWithout : List Answer := [{}, {}, {}, { tags := [⟨.streamSpr, 3, []⟩] }]

/-- With two modules `graph_open` returns `0` and stores no graph; without a module at the end it
reads behind the tags. -/
theorem graphOpen_reports_twoModules :
    Ensures noFault (graphOpenLedger {} 0 none) ⟨⟨(startUp 1).mem, twoModules⟩, [], 0⟩
      (fun r _ => r.1 = 0 ∧ r.2.isNone = true) ∧
    ¬ OpenReported {} 0 none ⟨⟨(startUp 1).mem, twoModules⟩, [], 0⟩ ∧
    Ensures anyFault (graphOpenLedger {} 0 none) ⟨⟨(startUp 1).mem, lastWithout⟩, [], 0⟩
      (fun _ _ => False) ∧
    ¬ OpenReported {} 0 none ⟨⟨(startUp 1).mem, lastWithout⟩, [], 0⟩ := by
  have hopen : Ensures noFault (graphOpenLedger {} 0 none)
      ⟨⟨(startUp 1).mem, twoModules⟩, [], 0⟩ fun r _ => r.1 = 0 ∧ r.2.isNone = true := by
    decide +kernel
  have hbehind : Ensures anyFault (graphOpenLedger {} 0 none)
      ⟨⟨(startUp 1).mem, lastWithout⟩, [], 0⟩ fun _ _ => False := by
    decide +kernel
  refine ⟨hopen, fun h => ?_, hbehind, fun h => ?_⟩
  · obtain ⟨r, l', -, ⟨hcode, hnone⟩, hreport⟩ := Ensures.exists_ok (hopen.and h)
    obtain ⟨obj, hobj, -⟩ := hreport.1.mp hcode
    rw [hobj] at hnone
    exact nomatch hnone
  · obtain ⟨_, _, -, -, hfalse⟩ := Ensures.exists_ok (h.and hbehind)
    exact hfalse

end Agm
