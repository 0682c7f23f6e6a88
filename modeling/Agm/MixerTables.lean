import Agm.SndCards
import Agm.MixerControls
import Agm.Lib.Latch

/-! # The PCM tables of the mixer plugin (`agm_mixer_plugin.c`)

`amp_get_pcm_info` makes the two PCM tables from the definition of the card: it counts the nodes of
each direction, allocates the arrays and fills them.  Both passes read the property of the direction
into a variable that they keep from node to node.

* **Tables.**  `PcmDevInfo` has the arrays of a table as `calloc` returns them; a name can be `NULL`.
* **Stores** into an array are checked: one behind its end is a fault.
* **The card** is read through the functions of the parser, under its lock.

`pcmTables_iff`: when the tables agree with the card definition.  `ampGetPcmInfo_filled`: they have
the form that the forming of the controls asks of every table (`AmpDevInfo.Filled`), whatever the
card says. -/

namespace Agm

open Prog

/-! ### Filling a table -/

/-- The arrays of `struct amp_dev_info`, with its counter. -/
structure PcmDevInfo where
  names : List (Option CStr) := []
  idxArr : List ℤ := []
  count : ℕ := 0
deriving DecidableEq, Repr

/-- A store into an array. -/
def storeAt {α : Type} (arr : List α) (i : ℕ) (x : α) : SndM (List α) :=
  if i < arr.length then pure (arr.set i x) else Prog.fault (.crash .outOfBounds)

/-- A store through a pointer into an array, by a function that may leave it alone. -/
def storeSome {α β : Type} (arr : List α) (i : ℕ) (f : β → α) : Option β → SndM (List α)
  | none => pure arr
  | some x => storeAt arr i (f x)

/-- The loop of `amp_create_pcm_info_from_card`. -/
def ampFillNodes (dir : CStr) : List DevPtr → ℤ → ℕ → PcmDevInfo → SndM (ℤ × PcmDevInfo)
  | [], _, idx, adi => pure (0, { adi with count := idx })
  | pcmNode :: nodes, val, idx, adi => do
      let (_, v) ← sndCardDefGetInt (some pcmNode) dir
      let val := v.getD val
      if val = 0 then ampFillNodes dir nodes val idx adi
      else do
        let (ret, name) ← sndCardDefGetStr (some pcmNode) "name".toList
        let names ← storeSome adi.names idx some name
        if ret ≠ 0 then pure (-EINVAL, { adi with names })
        else do
          let (ret, id) ← sndCardDefGetInt (some pcmNode) "id".toList
          let idxArr ← storeSome adi.idxArr idx (fun i => i) id
          if ret ≠ 0 then pure (-EINVAL, { adi with names, idxArr })
          else ampFillNodes dir nodes val (idx + 1) { adi with names, idxArr }

/-- `amp_create_pcm_info_from_card`. -/
def ampCreatePcmInfoFromCard (adi : PcmDevInfo) (dir : CStr) (pcmNodeList : List DevPtr) :
    SndM (ℤ × PcmDevInfo) := do
  let names ← storeAt adi.names 0 (some "ZERO".toList)
  let idxArr ← storeAt adi.idxArr 0 0
  ampFillNodes dir pcmNodeList 0 1 { adi with names, idxArr }

/-! ### Making the tables -/

/-- Which allocations of `amp_get_pcm_info` succeed: the list of the nodes, and the four arrays. -/
structure PcmInfoMem where
  nodeList : Bool := true
  tables : Bool := true
deriving DecidableEq, Repr

/-- One of the two loops that count. -/
def ampCountNodes (dir : CStr) : List DevPtr → ℤ → ℕ → SndM ℕ
  | [], _, count => pure count
  | pcmNode :: nodes, val, count => do
      let (_, v) ← sndCardDefGetInt (some pcmNode) dir
      let val := v.getD val
      ampCountNodes dir nodes val (if val = 1 then count + 1 else count)

/-- The part of the node list for one type. -/
def ampNodesForType (cardNode : Option ℕ) (type num : ℕ) : SndM (ℤ × List DevPtr) :=
  if 0 < num then sndCardDefGetNodesForType cardNode type num else pure (0, [])

/-- The arrays that are allocated for `count` nodes. -/
def callocTable (count : ℕ) : PcmDevInfo where
  names := List.replicate (count + 1) none
  idxArr := List.replicate (count + 1) 0
  count := count

/-- `amp_get_pcm_info`, from the counting. -/
def ampCountAndFill (mem : PcmInfoMem) (rxAdi txAdi : PcmDevInfo) (pcmNodeList : List DevPtr) :
    SndM (ℤ × PcmDevInfo × PcmDevInfo) := do
  let rxCount ← ampCountNodes "playback".toList pcmNodeList 0 rxAdi.count
  let txCount ← ampCountNodes "capture".toList pcmNodeList 0 txAdi.count
  if !mem.tables then pure (-ENOMEM, {}, {})
  else do
    let (ret, rxAdi) ← ampCreatePcmInfoFromCard (callocTable rxCount) "playback".toList pcmNodeList
    if ret ≠ 0 then pure (ret, {}, {})
    else do
      let (ret, txAdi) ← ampCreatePcmInfoFromCard (callocTable txCount) "capture".toList pcmNodeList
      if ret ≠ 0 then pure (ret, {}, {})
      else pure (0, rxAdi, txAdi)

/-- `amp_get_pcm_info`, with the two tables.  The numbers of nodes are never negative. -/
def ampGetPcmInfo (cardNode : Option ℕ) (mem : PcmInfoMem) (rxAdi txAdi : PcmDevInfo) :
    SndM (ℤ × PcmDevInfo × PcmDevInfo) := do
  let numPcms ← sndCardDefGetNumNode cardNode SND_NODE_TYPE_PCM
  let numCompr ← sndCardDefGetNumNode cardNode SND_NODE_TYPE_COMPR
  if numPcms = 0 ∧ numCompr = 0 then pure (-EINVAL, rxAdi, txAdi)
  else if !mem.nodeList then pure (-ENOMEM, rxAdi, txAdi)
  else do
    let (ret, pcms) ← ampNodesForType cardNode SND_NODE_TYPE_PCM numPcms
    if ret ≠ 0 then pure (ret, rxAdi, txAdi)
    else do
      let (ret, comprs) ← ampNodesForType cardNode SND_NODE_TYPE_COMPR numCompr
      if ret ≠ 0 then pure (ret, rxAdi, txAdi)
      else ampCountAndFill mem rxAdi txAdi (pcms ++ comprs)

/-! ### What the tables should be -/

/-- The value of a property of a device, when the device has it. -/
def SndDevDef.own (prop : CStr) (dev : SndDevDef) : Option ℤ :=
  (dev.propValList.find? fun pv => decide (pv.prop = prop)).map fun pv => atoi pv.val

/-- The property is set. -/
def isSet (v : ℤ) : Bool := decide (v ≠ 0)

/-- The name and the id of a device. -/
def SndDevDef.entry (dev : SndDevDef) : Option CStr × ℤ :=
  (dev.name, (dev.device : ℤ).bmod (2 ^ 32))

def zeroEntry : Option CStr × ℤ := (some "ZERO".toList, 0)

/-- The PCM nodes of a card and its compress nodes behind them. -/
def SndDevDefCard.pcmNodes (c : SndDevDefCard) : List SndDevDef := c.pcmDevsList ++ c.comprDevsList

/-- `ZERO` and the nodes whose property is set. -/
def SndDevDefCard.table (c : SndDevDefCard) (prop : CStr) : List (Option CStr × ℤ) :=
  zeroEntry :: (c.pcmNodes.filter fun dev => (dev.own prop).any isSet).map SndDevDef.entry

/-- The entries of a table. -/
def PcmDevInfo.entries (adi : PcmDevInfo) : List (Option CStr × ℤ) :=
  (adi.names.zip adi.idxArr).take adi.count

/-- Every node that has the property has it with the value 0 or 1, and before a node that does not
have it the last node that has it, if there is one, has it with 0. -/
structure PlainProp (nodes : List SndDevDef) (prop : CStr) : Prop where
  bool : ∀ dev ∈ nodes, ∀ v ∈ dev.own prop, v = 0 ∨ v = 1
  reset : ∀ pre dev post, nodes = pre ++ dev :: post → dev.own prop = none →
    ∀ v ∈ (pre.filterMap (SndDevDef.own prop)).getLast?, v = 0

/-! ### Reading the card -/

/-- A pointer to a device of a cached card. -/
def SndState.Points (g : SndState) (p : DevPtr) (dev : SndDevDef) : Prop :=
  ∃ c, g.sndCardList.lookup p.card = some c ∧ (c.devs p.nodeType)[p.index]? = some dev

section reading
variable {cards : List (ℕ × SndDevDefCard)} {init : Bool} {r : ℕ} {a : ℕ} {c : SndDevDefCard}
  {p : DevPtr} {dev : SndDevDef} {prop : CStr}

theorem derefCard_run {l : RwLock} (hc : cards.lookup a = some c) :
    derefCard a ⟨cards, init, l⟩ = .ok (c, ⟨cards, init, l⟩) := by
  unfold derefCard
  rw [Prog.bind_of_ok rfl]
  dsimp only
  rw [hc]
  rfl

theorem derefDev_run {l : RwLock} (hp : SndState.Points ⟨cards, init, l⟩ p dev) :
    derefDev p ⟨cards, init, l⟩ = .ok (dev, ⟨cards, init, l⟩) := by
  obtain ⟨c, hc, hdev⟩ := hp
  unfold derefDev
  rw [Prog.bind_of_ok (derefCard_run hc), hdev]
  rfl

/-- The two functions that read a property leave the state as it was. -/
theorem property_run {α : Type} {f : SndDevDef → SndM α} {x : α}
    (hp : SndState.Points ⟨cards, init, ⟨r, false⟩⟩ p dev)
    (hf : f dev ⟨cards, init, ⟨r + 1, false⟩⟩ = .ok (x, ⟨cards, init, ⟨r, false⟩⟩)) :
    (do rdlock; let dev ← derefDev p; f dev : SndM α) ⟨cards, init, ⟨r, false⟩⟩ =
      .ok (x, ⟨cards, init, ⟨r, false⟩⟩) := by
  have hlock : rdlock ⟨cards, init, ⟨r, false⟩⟩ = .ok ((), ⟨cards, init, ⟨r + 1, false⟩⟩) := rfl
  have hread : SndState.Points ⟨cards, init, ⟨r + 1, false⟩⟩ p dev := hp
  rw [Prog.bind_of_ok hlock, Prog.bind_of_ok (derefDev_run hread)]
  exact hf

theorem sndCardDefGetInt_own (hp : SndState.Points ⟨cards, init, ⟨r, false⟩⟩ p dev)
    (htype : prop ≠ "type".toList) (hid : prop ≠ "id".toList) :
    ∃ ret, sndCardDefGetInt (some p) prop ⟨cards, init, ⟨r, false⟩⟩ =
      .ok ((ret, dev.own prop), ⟨cards, init, ⟨r, false⟩⟩) := by
  unfold SndDevDef.own
  cases hv : dev.propValList.find? fun pv => decide (pv.prop = prop) with
  | none =>
      refine ⟨-EINVAL, property_run hp ?_⟩
      rw [if_neg htype, if_neg hid, hv]
      rfl
  | some pv =>
      refine ⟨0, property_run hp ?_⟩
      rw [if_neg htype, if_neg hid, hv]
      rfl

theorem sndCardDefGetInt_id (hp : SndState.Points ⟨cards, init, ⟨r, false⟩⟩ p dev) :
    sndCardDefGetInt (some p) "id".toList ⟨cards, init, ⟨r, false⟩⟩ =
      .ok ((0, some dev.entry.2), ⟨cards, init, ⟨r, false⟩⟩) := by
  have hne : "id".toList ≠ "type".toList := by decide
  unfold SndDevDef.entry
  refine property_run hp ?_
  rw [if_neg hne, if_pos rfl]
  generalize (dev.device : ℤ).bmod (2 ^ 32) = id
  rfl

theorem sndCardDefGetStr_name (hp : SndState.Points ⟨cards, init, ⟨r, false⟩⟩ p dev) :
    sndCardDefGetStr (some p) "name".toList ⟨cards, init, ⟨r, false⟩⟩ =
      .ok ((0, dev.entry.1), ⟨cards, init, ⟨r, false⟩⟩) := by
  refine property_run hp ?_
  rw [if_neg (by decide), if_pos rfl]
  rfl

/-- The same for the functions that read a card. -/
theorem card_run {α : Type} {f : SndDevDefCard → SndM α} {x : α} (hc : cards.lookup a = some c)
    (hf : f c ⟨cards, init, ⟨r + 1, false⟩⟩ = .ok (x, ⟨cards, init, ⟨r, false⟩⟩)) :
    (do rdlock; let c ← derefCard a; f c : SndM α) ⟨cards, init, ⟨r, false⟩⟩ =
      .ok (x, ⟨cards, init, ⟨r, false⟩⟩) := by
  have hlock : rdlock ⟨cards, init, ⟨r, false⟩⟩ = .ok ((), ⟨cards, init, ⟨r + 1, false⟩⟩) := rfl
  rw [Prog.bind_of_ok hlock, Prog.bind_of_ok (derefCard_run hc)]
  exact hf

theorem sndCardDefGetNumNode_run (hc : cards.lookup a = some c) {type : ℕ}
    (ht : ¬ SND_NODE_TYPE_MAX ≤ type) :
    sndCardDefGetNumNode (some a) type ⟨cards, init, ⟨r, false⟩⟩ =
      .ok ((c.devs (sndDevsList type)).length, ⟨cards, init, ⟨r, false⟩⟩) := by
  unfold sndCardDefGetNumNode
  dsimp only
  rw [if_neg ht]
  exact card_run hc rfl

/-- The pointers to the devices of a list. -/
def nodePtrs (a : ℕ) (t : SndNodeType) (n : ℕ) : List DevPtr :=
  (List.range n).map fun i => ⟨a, t, i⟩

theorem ampNodesForType_run (hc : cards.lookup a = some c) {type : ℕ}
    (ht : ¬ SND_NODE_TYPE_MAX ≤ type) :
    ampNodesForType (some a) type (c.devs (sndDevsList type)).length ⟨cards, init, ⟨r, false⟩⟩ =
      .ok ((0, nodePtrs a (sndDevsList type) (c.devs (sndDevsList type)).length),
        ⟨cards, init, ⟨r, false⟩⟩) := by
  unfold ampNodesForType
  split_ifs with hpos
  · unfold sndCardDefGetNodesForType
    dsimp only
    rw [if_neg ht]
    refine card_run hc ?_
    rw [if_neg (lt_irrefl _), if_pos (by exact_mod_cast hpos)]
    unfold nodePtrs
    rw [List.take_of_length_le (by simp)]
    rfl
  · have hzero : (c.devs (sndDevsList type)).length = 0 := by omega
    rw [hzero]
    rfl

theorem points_nodePtrs {g : SndState} (hc : g.sndCardList.lookup a = some c) (t : SndNodeType) :
    List.Forall₂ g.Points (nodePtrs a t (c.devs t).length) (c.devs t) := by
  rw [List.forall₂_iff_get]
  refine ⟨by simp [nodePtrs], fun i h₁ h₂ => ⟨c, ?_, ?_⟩⟩
  · simpa [nodePtrs] using hc
  · simp [nodePtrs, h₂]

end reading

/-! ### Filling -/

section filling
variable {cards : List (ℕ × SndDevDefCard)} {init : Bool} {r : ℕ} {prop : CStr}
  {nodes : List DevPtr} {devs : List SndDevDef}

/-- A table with some entries filled and room for `k` more. -/
def partlyFilled (ents : List (Option CStr × ℤ)) (k count : ℕ) : PcmDevInfo where
  names := ents.map Prod.fst ++ List.replicate k none
  idxArr := ents.map Prod.snd ++ List.replicate k 0
  count := count

theorem storeAt_room {α : Type} {arr : List α} {i k : ℕ} (hi : i = arr.length) (b x : α)
    (g : SndState) : storeAt (arr ++ List.replicate (k + 1) b) i x g =
      .ok ((arr ++ [x]) ++ List.replicate k b, g) := by
  subst hi
  unfold storeAt
  rw [if_pos (by simp), List.set_append_right _ _ le_rfl, Nat.sub_self, List.replicate_succ,
    List.set_cons_zero, List.append_assoc]
  rfl

theorem storeAt_full {α : Type} {arr : List α} {i : ℕ} (hi : i = arr.length) (x : α)
    (g : SndState) : storeAt arr i x g = .error (.crash .outOfBounds) := by
  unfold storeAt
  rw [if_neg (by omega)]
  rfl

/-- A name that is missing leaves `NULL` in its slot. -/
theorem storeSome_room {arr : List (Option CStr)} {i k : ℕ} (hi : i = arr.length)
    (name : Option CStr) (g : SndState) :
    storeSome (arr ++ List.replicate (k + 1) none) i some name g =
      .ok ((arr ++ [name]) ++ List.replicate k none, g) := by
  cases name with
  | none =>
      unfold storeSome
      rw [List.replicate_succ, ← List.append_cons]
      rfl
  | some s => exact storeAt_room hi none (some s) g

theorem storeSome_full {arr : List (Option CStr)} {i : ℕ} (hi : i = arr.length)
    (name : Option CStr) (g : SndState) :
    storeSome arr i some name g = .ok (arr, g) ∨
      storeSome arr i some name g = .error (.crash .outOfBounds) := by
  cases name with
  | none => exact .inl rfl
  | some s => exact .inr (storeAt_full hi (some s) g)

/-- The table when the loop has taken some devices. -/
def filledWith (ents : List (Option CStr × ℤ)) (sel : List SndDevDef) (k : ℕ) : PcmDevInfo :=
  partlyFilled (ents ++ sel.map SndDevDef.entry) (k - sel.length) (ents.length + sel.length)

theorem filledWith_cons (ents : List (Option CStr × ℤ)) (dev : SndDevDef) (sel : List SndDevDef)
    (k : ℕ) : filledWith ents (dev :: sel) (k + 1) = filledWith (ents ++ [dev.entry]) sel k := by
  unfold filledWith
  rw [List.map_cons, List.append_cons, List.length_cons, Nat.add_sub_add_right,
    List.length_append, List.length_singleton, Nat.add_right_comm, Nat.add_assoc]

/-- Filling takes the nodes at which the variable is not 0, and goes behind the arrays when they
have no room for all of them. -/
theorem ampFillNodes_run
    (hpts : List.Forall₂ (SndState.Points ⟨cards, init, ⟨r, false⟩⟩) nodes devs)
    (htype : prop ≠ "type".toList) (hid : prop ≠ "id".toList) (v : ℤ)
    (ents : List (Option CStr × ℤ)) (k n : ℕ) :
    ampFillNodes prop nodes v ents.length (partlyFilled ents k n) ⟨cards, init, ⟨r, false⟩⟩ =
      if (latched (SndDevDef.own prop) isSet v devs).length ≤ k then
        .ok ((0, filledWith ents (latched (SndDevDef.own prop) isSet v devs) k),
          ⟨cards, init, ⟨r, false⟩⟩)
      else .error (.crash .outOfBounds) := by
  induction hpts generalizing v ents k with
  | nil =>
      have hfits : (latched (SndDevDef.own prop) isSet v []).length ≤ k := Nat.zero_le k
      rw [if_pos hfits]
      simp [ampFillNodes, latched, filledWith, partlyFilled, pure]
  | @cons p dev nodes devs hp _ ih =>
      obtain ⟨ret, hget⟩ := sndCardDefGetInt_own hp htype hid
      unfold ampFillNodes
      rw [Prog.bind_of_ok hget]
      dsimp only
      by_cases hv : (dev.own prop).getD v = 0
      · have hset : isSet ((dev.own prop).getD v) = false := by simp [isSet, hv]
        rw [if_pos hv, ih, latched_cons_of_neg hset]
      · have hset : isSet ((dev.own prop).getD v) = true := by simp [isSet, hv]
        have hlen : ents.length = (ents.map Prod.fst).length := (List.length_map _).symm
        have hlen' : ents.length = (ents.map Prod.snd).length := (List.length_map _).symm
        rw [if_neg hv, Prog.bind_of_ok (sndCardDefGetStr_name hp), latched_cons_of_pos hset,
          List.length_cons]
        dsimp only
        cases k with
        | zero =>
            rw [if_neg (by omega)]
            unfold partlyFilled
            rw [List.replicate_zero, List.append_nil, List.replicate_zero, List.append_nil]
            rcases storeSome_full hlen dev.entry.1 ⟨cards, init, ⟨r, false⟩⟩ with hname | hname
            · rw [Prog.bind_of_ok hname, if_neg (by decide),
                Prog.bind_of_ok (sndCardDefGetInt_id hp)]
              exact Prog.bind_of_error (storeAt_full hlen' _ _)
            · exact Prog.bind_of_error hname
        | succ k =>
            have hstored : partlyFilled (ents ++ [dev.entry]) k n =
                { names := (ents.map Prod.fst ++ [dev.entry.1]) ++ List.replicate k none
                  idxArr := (ents.map Prod.snd ++ [dev.entry.2]) ++ List.replicate k 0
                  count := n } := by
              simp only [partlyFilled, List.map_append, List.map_cons, List.map_nil]
            have hname : storeSome (partlyFilled ents (k + 1) n).names ents.length some dev.entry.1
                ⟨cards, init, ⟨r, false⟩⟩ = _ := storeSome_room hlen dev.entry.1 _
            have hidx : storeSome (partlyFilled ents (k + 1) n).idxArr ents.length (fun i => i)
                (some dev.entry.2) ⟨cards, init, ⟨r, false⟩⟩ = _ := storeAt_room hlen' 0 _ _
            rw [Prog.bind_of_ok hname, if_neg (by decide), Prog.bind_of_ok (sndCardDefGetInt_id hp)]
            dsimp only
            rw [Prog.bind_of_ok hidx, if_neg (by decide), filledWith_cons]
            have hstep := ih ((dev.own prop).getD v) (ents ++ [dev.entry]) k
            rw [hstored, List.length_append, List.length_singleton] at hstep
            simp only [Nat.add_le_add_iff_right]
            exact hstep

/-- The test of the counting pass. -/
def isOne (v : ℤ) : Bool := decide (v = 1)

theorem isSet_of_isOne (v : ℤ) (h : isOne v = true) : isSet v = true := by
  obtain rfl : v = 1 := of_decide_eq_true h
  decide

theorem isOne_eq_isSet_iff (v : ℤ) : isOne v = isSet v ↔ v = 0 ∨ v = 1 := by
  unfold isOne isSet
  rw [decide_eq_decide]
  omega

theorem ampCountNodes_run
    (hpts : List.Forall₂ (SndState.Points ⟨cards, init, ⟨r, false⟩⟩) nodes devs)
    (htype : prop ≠ "type".toList) (hid : prop ≠ "id".toList) (v : ℤ) (count : ℕ) :
    ampCountNodes prop nodes v count ⟨cards, init, ⟨r, false⟩⟩ =
      .ok (count + (latched (SndDevDef.own prop) isOne v devs).length,
        ⟨cards, init, ⟨r, false⟩⟩) := by
  induction hpts generalizing v count with
  | nil => rfl
  | @cons p dev nodes devs hp _ ih =>
      obtain ⟨ret, hget⟩ := sndCardDefGetInt_own hp htype hid
      unfold ampCountNodes
      rw [Prog.bind_of_ok hget]
      dsimp only
      rw [ih]
      by_cases hv : (dev.own prop).getD v = 1
      · have hone : isOne ((dev.own prop).getD v) = true := decide_eq_true hv
        rw [if_pos hv, latched_cons_of_pos hone, List.length_cons, Nat.add_assoc, Nat.add_comm 1]
      · have hone : isOne ((dev.own prop).getD v) = false := decide_eq_false hv
        rw [if_neg hv, latched_cons_of_neg hone]

/-- The devices that the filling pass takes. -/
def takenNodes (prop : CStr) (devs : List SndDevDef) : List SndDevDef :=
  latched (SndDevDef.own prop) isSet 0 devs

/-- How many devices the counting pass counts. -/
def countedNodes (prop : CStr) (devs : List SndDevDef) : ℕ :=
  (latched (SndDevDef.own prop) isOne 0 devs).length

theorem ampCreatePcmInfoFromCard_run
    (hpts : List.Forall₂ (SndState.Points ⟨cards, init, ⟨r, false⟩⟩) nodes devs)
    (htype : prop ≠ "type".toList) (hid : prop ≠ "id".toList) (n : ℕ) :
    ampCreatePcmInfoFromCard (callocTable n) prop nodes ⟨cards, init, ⟨r, false⟩⟩ =
      if (takenNodes prop devs).length ≤ n then
        .ok ((0, filledWith [zeroEntry] (takenNodes prop devs) n), ⟨cards, init, ⟨r, false⟩⟩)
      else .error (.crash .outOfBounds) := by
  have hnames : storeAt (callocTable n).names 0 (some "ZERO".toList) ⟨cards, init, ⟨r, false⟩⟩ =
      .ok ([zeroEntry.1] ++ List.replicate n none, ⟨cards, init, ⟨r, false⟩⟩) :=
    @storeAt_room _ [] 0 n rfl none _ _
  have hidx : storeAt (callocTable n).idxArr 0 0 ⟨cards, init, ⟨r, false⟩⟩ =
      .ok ([zeroEntry.2] ++ List.replicate n 0, ⟨cards, init, ⟨r, false⟩⟩) :=
    @storeAt_room _ [] 0 n rfl 0 _ _
  unfold ampCreatePcmInfoFromCard
  rw [Prog.bind_of_ok hnames, Prog.bind_of_ok hidx]
  exact ampFillNodes_run hpts htype hid 0 [zeroEntry] n n

/-- The counting never counts more nodes than the filling takes. -/
theorem counted_le_taken : countedNodes prop devs ≤ (takenNodes prop devs).length :=
  latched_length_le isSet_of_isOne

/-- The arrays have room for the nodes taken exactly when every value is 0 or 1. -/
theorem taken_fits_iff : (takenNodes prop devs).length ≤ countedNodes prop devs ↔
    ∀ dev ∈ devs, ∀ v ∈ dev.own prop, v = 0 ∨ v = 1 := by
  have heq : (takenNodes prop devs).length ≤ countedNodes prop devs ↔
      countedNodes prop devs = (takenNodes prop devs).length :=
    ⟨fun h => le_antisymm counted_le_taken h, fun h => h.ge⟩
  have hone : isOne 0 = isSet 0 := by decide
  rw [heq]
  refine (latched_length_eq_iff isSet_of_isOne hone).trans ?_
  simp only [isOne_eq_isSet_iff]

theorem isSet_getD_zero (o : Option ℤ) : isSet (o.getD 0) = false ↔ ∀ v ∈ o, v = 0 := by
  cases o with
  | none => exact ⟨fun _ _ hv => absurd hv (Option.not_mem_none _), fun _ => rfl⟩
  | some x => simp [isSet]

theorem entries_filledWith (ents : List (Option CStr × ℤ)) (sel : List SndDevDef) (k : ℕ) :
    (filledWith ents sel k).entries = ents ++ sel.map SndDevDef.entry := by
  have hlen : ents.length + sel.length = (ents ++ sel.map SndDevDef.entry).length := by simp
  unfold PcmDevInfo.entries filledWith partlyFilled
  dsimp only
  rw [List.zip_append (by simp), List.zip_map', hlen]
  exact (List.take_left' (by simp)).trans (List.map_id _)

/-- The nodes taken are those whose property is set when no value is left over from a node
before. -/
theorem entries_eq_table_iff (c : SndDevDefCard) (k : ℕ) :
    (filledWith [zeroEntry] (takenNodes prop c.pcmNodes) k).entries = c.table prop ↔
      ∀ pre dev post, c.pcmNodes = pre ++ dev :: post → dev.own prop = none →
        ∀ v ∈ (pre.filterMap (SndDevDef.own prop)).getLast?, v = 0 := by
  rw [entries_filledWith]
  simp only [← isSet_getD_zero]
  constructor
  · intro h
    refine latched_length_filter_iff.mp ?_
    have hmap := List.cons.inj h
    simpa [takenNodes] using congrArg List.length hmap.2
  · intro h
    exact congrArg (fun l => zeroEntry :: l.map SndDevDef.entry) (latched_eq_filter h)

end filling

/-! ### Both tables -/

section tables
variable {cards : List (ℕ × SndDevDefCard)} {init : Bool} {r : ℕ} {a : ℕ} {c : SndDevDefCard}

/-- What counting and filling give. -/
def tablesResult (mem : PcmInfoMem) (devs : List SndDevDef) (g : SndState) :
    Except SndFault ((ℤ × PcmDevInfo × PcmDevInfo) × SndState) :=
  if mem.tables = false then .ok ((-ENOMEM, {}, {}), g)
  else if (takenNodes "playback".toList devs).length ≤ countedNodes "playback".toList devs ∧
      (takenNodes "capture".toList devs).length ≤ countedNodes "capture".toList devs then
    .ok ((0,
      filledWith [zeroEntry] (takenNodes "playback".toList devs)
        (countedNodes "playback".toList devs),
      filledWith [zeroEntry] (takenNodes "capture".toList devs)
        (countedNodes "capture".toList devs)), g)
  else .error (.crash .outOfBounds)

theorem ampCountAndFill_run {nodes : List DevPtr} {devs : List SndDevDef}
    (hpts : List.Forall₂ (SndState.Points ⟨cards, init, ⟨r, false⟩⟩) nodes devs)
    (mem : PcmInfoMem) : ampCountAndFill mem {} {} nodes ⟨cards, init, ⟨r, false⟩⟩ =
      tablesResult mem devs ⟨cards, init, ⟨r, false⟩⟩ := by
  have hp1 : "playback".toList ≠ "type".toList := by decide
  have hp2 : "playback".toList ≠ "id".toList := by decide
  have hc1 : "capture".toList ≠ "type".toList := by decide
  have hc2 : "capture".toList ≠ "id".toList := by decide
  have hrx := ampCreatePcmInfoFromCard_run hpts hp1 hp2 (countedNodes "playback".toList devs)
  have htx := ampCreatePcmInfoFromCard_run hpts hc1 hc2 (countedNodes "capture".toList devs)
  have hcountRx : ampCountNodes "playback".toList nodes 0 0 ⟨cards, init, ⟨r, false⟩⟩ =
      .ok (countedNodes "playback".toList devs, ⟨cards, init, ⟨r, false⟩⟩) := by
    rw [ampCountNodes_run hpts hp1 hp2, Nat.zero_add]
    rfl
  have hcountTx : ampCountNodes "capture".toList nodes 0 0 ⟨cards, init, ⟨r, false⟩⟩ =
      .ok (countedNodes "capture".toList devs, ⟨cards, init, ⟨r, false⟩⟩) := by
    rw [ampCountNodes_run hpts hc1 hc2, Nat.zero_add]
    rfl
  have hzero : ¬ ((0 : ℤ) ≠ 0) := by decide
  unfold ampCountAndFill tablesResult
  rw [Prog.bind_of_ok hcountRx, Prog.bind_of_ok hcountTx]
  cases mem.tables with
  | false => rfl
  | true =>
      rw [if_neg (by decide), if_neg (by decide)]
      by_cases hfr : (takenNodes "playback".toList devs).length ≤ countedNodes "playback".toList devs
      · rw [if_pos hfr] at hrx
        rw [Prog.bind_of_ok hrx]
        dsimp only
        rw [if_neg hzero]
        by_cases hft : (takenNodes "capture".toList devs).length ≤ countedNodes "capture".toList devs
        · rw [if_pos hft] at htx
          rw [Prog.bind_of_ok htx]
          dsimp only
          rw [if_neg hzero, if_pos ⟨hfr, hft⟩]
          rfl
        · rw [if_neg hft] at htx
          rw [Prog.bind_of_error htx, if_neg fun h => hft h.2]
      · rw [if_neg hfr] at hrx
        rw [Prog.bind_of_error hrx, if_neg fun h => hfr h.1]

/-- For a card with nodes, and with room for their list, the tables are counted and filled. -/
theorem ampGetPcmInfo_run (hc : cards.lookup a = some c) (mem : PcmInfoMem) :
    ampGetPcmInfo (some a) mem {} {} ⟨cards, init, ⟨r, false⟩⟩ =
      if c.pcmNodes = [] then .ok ((-EINVAL, {}, {}), ⟨cards, init, ⟨r, false⟩⟩)
      else if mem.nodeList = false then .ok ((-ENOMEM, {}, {}), ⟨cards, init, ⟨r, false⟩⟩)
      else tablesResult mem c.pcmNodes ⟨cards, init, ⟨r, false⟩⟩ := by
  have hpcmT : ¬ SND_NODE_TYPE_MAX ≤ SND_NODE_TYPE_PCM := by decide
  have hcomprT : ¬ SND_NODE_TYPE_MAX ≤ SND_NODE_TYPE_COMPR := by decide
  have hnil : (c.pcmDevsList.length = 0 ∧ c.comprDevsList.length = 0) ↔ c.pcmNodes = [] := by
    unfold SndDevDefCard.pcmNodes
    rw [List.append_eq_nil_iff, List.length_eq_zero_iff, List.length_eq_zero_iff]
  have hnumPcm : sndCardDefGetNumNode (some a) SND_NODE_TYPE_PCM ⟨cards, init, ⟨r, false⟩⟩ =
      .ok (c.pcmDevsList.length, ⟨cards, init, ⟨r, false⟩⟩) := sndCardDefGetNumNode_run hc hpcmT
  have hnumCompr : sndCardDefGetNumNode (some a) SND_NODE_TYPE_COMPR ⟨cards, init, ⟨r, false⟩⟩ =
      .ok (c.comprDevsList.length, ⟨cards, init, ⟨r, false⟩⟩) := sndCardDefGetNumNode_run hc hcomprT
  have hpcms : ampNodesForType (some a) SND_NODE_TYPE_PCM c.pcmDevsList.length
      ⟨cards, init, ⟨r, false⟩⟩ = .ok ((0, nodePtrs a .pcm c.pcmDevsList.length),
        ⟨cards, init, ⟨r, false⟩⟩) := ampNodesForType_run hc hpcmT
  have hcomprs : ampNodesForType (some a) SND_NODE_TYPE_COMPR c.comprDevsList.length
      ⟨cards, init, ⟨r, false⟩⟩ = .ok ((0, nodePtrs a .compr c.comprDevsList.length),
        ⟨cards, init, ⟨r, false⟩⟩) := ampNodesForType_run hc hcomprT
  have hpts : List.Forall₂ (SndState.Points ⟨cards, init, ⟨r, false⟩⟩)
      (nodePtrs a .pcm c.pcmDevsList.length ++ nodePtrs a .compr c.comprDevsList.length)
      c.pcmNodes :=
    List.rel_append (points_nodePtrs hc .pcm) (points_nodePtrs hc .compr)
  unfold ampGetPcmInfo
  rw [Prog.bind_of_ok hnumPcm, Prog.bind_of_ok hnumCompr]
  by_cases h0 : c.pcmNodes = []
  · rw [if_pos (hnil.mpr h0), if_pos h0]
    rfl
  · rw [if_neg (fun h => h0 (hnil.mp h)), if_neg h0]
    cases mem.nodeList with
    | false => rfl
    | true =>
        have hzero : ¬ ((0 : ℤ) ≠ 0) := by decide
        rw [if_neg (by decide), if_neg (by decide), Prog.bind_of_ok hpcms]
        dsimp only
        rw [if_neg hzero, Prog.bind_of_ok hcomprs]
        dsimp only
        rw [if_neg hzero]
        exact ampCountAndFill_run hpts mem

/-- On success the tables hold `ZERO` and the nodes of their direction. -/
def SndDevDefCard.Fits (c : SndDevDefCard) (res : ℤ × PcmDevInfo × PcmDevInfo) : Prop :=
  res.1 = 0 →
    res.2.1.entries = c.table "playback".toList ∧ res.2.2.entries = c.table "capture".toList

instance (c : SndDevDefCard) (res : ℤ × PcmDevInfo × PcmDevInfo) : Decidable (c.Fits res) :=
  inferInstanceAs (Decidable (_ → _))

/-- The tables are filled within their arrays, and they fit the card. -/
def TablesMatch (a : ℕ) (mem : PcmInfoMem) (c : SndDevDefCard) (g : SndState) : Prop :=
  Ensures noFault (ampGetPcmInfo (some a) mem {} {}) g fun res _ => c.Fits res

instance (a : ℕ) (mem : PcmInfoMem) (c : SndDevDefCard) (g : SndState) :
    Decidable (TablesMatch a mem c g) := inferInstanceAs (Decidable (Ensures _ _ _ _))

theorem plainProp_iff {prop : CStr} {k : ℕ} : PlainProp c.pcmNodes prop ↔
    (takenNodes prop c.pcmNodes).length ≤ countedNodes prop c.pcmNodes ∧
      (filledWith [zeroEntry] (takenNodes prop c.pcmNodes) k).entries = c.table prop := by
  rw [taken_fits_iff, entries_eq_table_iff]
  exact ⟨fun h => ⟨h.bool, h.reset⟩, fun h => ⟨h.1, h.2⟩⟩

/-- The tables match the card definition exactly when both properties are plain, or there is no
memory for the tables. -/
theorem pcmTables_iff (mem : PcmInfoMem) {g : SndState} {a : ℕ} {c : SndDevDefCard}
    (hlock : g.sndRwlock.writer = false) (hc : g.sndCardList.lookup a = some c) :
    TablesMatch a mem c g ↔ mem.nodeList = false ∨ mem.tables = false ∨
      PlainProp c.pcmNodes "playback".toList ∧ PlainProp c.pcmNodes "capture".toList := by
  obtain ⟨cards, init, ⟨r, w⟩⟩ := g
  obtain rfl : w = false := hlock
  have hENOMEM : (-ENOMEM : ℤ) ≠ 0 := by decide
  have hEINVAL : (-EINVAL : ℤ) ≠ 0 := by decide
  unfold TablesMatch Ensures
  rw [ampGetPcmInfo_run hc]
  by_cases h0 : c.pcmNodes = []
  · have hplain : ∀ prop, PlainProp c.pcmNodes prop := by
      intro prop
      rw [h0]
      exact ⟨fun _ h => absurd h List.not_mem_nil, fun pre _ _ e => absurd e (by simp)⟩
    rw [if_pos h0]
    exact ⟨fun _ => .inr (.inr ⟨hplain _, hplain _⟩), fun _ h => absurd h hEINVAL⟩
  rw [if_neg h0]
  by_cases hlist : mem.nodeList = false
  · rw [if_pos hlist]
    exact ⟨fun _ => .inl hlist, fun _ h => absurd h hENOMEM⟩
  rw [if_neg hlist]
  unfold tablesResult
  by_cases htab : mem.tables = false
  · rw [if_pos htab]
    exact ⟨fun _ => .inr (.inl htab), fun _ h => absurd h hENOMEM⟩
  rw [if_neg htab, plainProp_iff, plainProp_iff]
  split_ifs with hfits
  · constructor
    · intro h
      obtain ⟨hrx, htx⟩ := h rfl
      exact .inr (.inr ⟨⟨hfits.1, hrx⟩, hfits.2, htx⟩)
    · rintro (h | h | ⟨hrx, htx⟩) -
      · exact absurd h hlist
      · exact absurd h htab
      · exact ⟨hrx.2, htx.2⟩
  · constructor
    · exact False.elim
    · rintro (h | h | ⟨hrx, htx⟩)
      · exact absurd h hlist
      · exact absurd h htab
      · exact absurd ⟨hrx.1, htx.1⟩ hfits

/-- The arrays of a table, for a table whose names are all there. -/
def PcmDevInfo.adi (t : PcmDevInfo) (dir : Direction) : AmpDevInfo where
  names := t.names.map fun name => name.getD []
  idxArr := t.idxArr
  count := t.count
  dir := dir

theorem filled_filledWith {prop : CStr} {devs : List SndDevDef} (dir : Direction)
    (h : (takenNodes prop devs).length ≤ countedNodes prop devs) :
    ((filledWith [zeroEntry] (takenNodes prop devs) (countedNodes prop devs)).adi dir).Filled := by
  have heq : (takenNodes prop devs).length = countedNodes prop devs := le_antisymm h counted_le_taken
  have hlen : ([zeroEntry] ++ (takenNodes prop devs).map SndDevDef.entry).length =
      1 + countedNodes prop devs := by simp [heq, Nat.add_comm]
  unfold filledWith partlyFilled PcmDevInfo.adi
  rw [heq, Nat.sub_self]
  refine ⟨?_, ?_, Nat.le_add_right 1 _⟩
  · simpa using hlen
  · simpa using hlen

/-- The tables that are returned have the form that the forming of the controls relies on. -/
theorem ampGetPcmInfo_filled (mem : PcmInfoMem) (hc : cards.lookup a = some c) :
    Ensures anyFault (ampGetPcmInfo (some a) mem {} {}) ⟨cards, init, ⟨r, false⟩⟩ fun res _ =>
      res.1 = 0 → (res.2.1.adi .rx).Filled ∧ (res.2.2.adi .tx).Filled := by
  have hENOMEM : (-ENOMEM : ℤ) ≠ 0 := by decide
  have hEINVAL : (-EINVAL : ℤ) ≠ 0 := by decide
  unfold Ensures
  rw [ampGetPcmInfo_run hc]
  unfold tablesResult
  split_ifs with h0 hlist htab hfits
  · exact fun h => absurd h hEINVAL
  · exact fun h => absurd h hENOMEM
  · exact fun h => absurd h hENOMEM
  · exact fun _ => ⟨filled_filledWith .rx hfits.1, filled_filledWith .tx hfits.2⟩
  · exact trivial

end tables

/-! ### Cards -/

/-- A PCM node with a value of `playback`. -/
def playbackDev (name value : String) (id : ℕ) : SndDevDef where
  nodeType := .pcm
  device := id
  name := some name.toList
  propValList := [⟨"playback".toList, value.toList⟩]

/-- A compress node that is used for capture only. -/
def captureDev (name : String) (id : ℕ) : SndDevDef where
  nodeType := .compr
  device := id
  name := some name.toList
  propValList := [⟨"capture".toList, "1".toList⟩]

/-- A node that only captures behind one that plays back. -/
def mixedCard : SndDevDefCard where
  pcmDevsList := [playbackDev "PCM100" "1" 100]
  comprDevsList := [captureDev "COMP101" 101]
  refcnt := 1

/-- A value that is not 0 and not 1. -/
def twoCard : SndDevDefCard where
  pcmDevsList := [playbackDev "PCM100" "2" 100]
  refcnt := 1

/-- The node in between says that it does not play back. -/
def resetCard : SndDevDefCard where
  pcmDevsList := [playbackDev "PCM100" "1" 100, playbackDev "PCM101" "0" 101]
  comprDevsList := [captureDev "COMP102" 102]
  refcnt := 1

/-- The state with one card in the cache. -/
def cached (c : SndDevDefCard) : SndState where
  sndCardList := [(0, c)]
  sndCardListInit := true

/-- The node that only captures stands in the playback table; the node with the value 2 is not
counted, but filled in. -/
theorem pcmTables_fail :
    ¬ TablesMatch 0 {} mixedCard (cached mixedCard) ∧ ¬ TablesMatch 0 {} twoCard (cached twoCard) := by
  decide +kernel

theorem pcmTables_iff_reset : TablesMatch 0 {} resetCard (cached resetCard) ↔
    PcmInfoMem.nodeList {} = false ∨ PcmInfoMem.tables {} = false ∨
      PlainProp resetCard.pcmNodes "playback".toList ∧
        PlainProp resetCard.pcmNodes "capture".toList :=
  pcmTables_iff {} rfl rfl

end Agm
