import Agm.CardNames
import Agm.CardCounts
import Agm.CardLocks

/-! # What a client learns about a card

A client gets a card, puts questions about its devices, and puts the card back.  The reading
functions leave the cache and the lock as they are; what they return depends on the definition
behind the pointer only (`Answers`).

`session_answers` follows a client from the text of the document to its answers: they are the ones
that the document gives, and the cache is afterwards what it was before. -/

namespace Agm

open Prog

/-! ### Answers of a definition -/

/-- What `snd_card_def_get_int` finds at a device. -/
def SndDevDef.getInt (dev : SndDevDef) (prop : CStr) : ℤ × Option ℤ :=
  if prop = "type".toList then (0, some (if dev.type = .hw then 0 else 1))
  else if prop = "id".toList then (0, some ((dev.device : ℤ).bmod (2 ^ 32)))
  else
    match dev.propValList.find? fun pv => decide (pv.prop = prop) with
    | some pv => (0, some (atoi pv.val))
    | none => (-EINVAL, none)

/-- What `snd_card_def_get_str` finds there. -/
def SndDevDef.getStr (dev : SndDevDef) (prop : CStr) : ℤ × Option CStr :=
  if prop = "so-name".toList then (0, dev.soName)
  else if prop = "name".toList then (0, dev.name)
  else
    match dev.propValList.find? fun pv => decide (pv.prop = prop) with
    | some pv => (0, some pv.val)
    | none => (-EINVAL, none)

/-- The pointer that `snd_card_def_get_node` finds in a card. -/
def SndDevDefCard.findNode (c : SndDevDefCard) (a id type : ℕ) : Option DevPtr :=
  if SND_NODE_TYPE_MAX ≤ type then none
  else ((c.devs (sndDevsList type)).findIdx? fun dev => decide (dev.device = id)).map fun i =>
    ⟨a, sndDevsList type, i⟩

/-- The program reads, and `a` comes out. -/
def Answers {α : Type} (m : SndM α) (g : SndState) (a : α) : Prop := m g = .ok (a, g)

section reads
variable {g : SndState} {c : SndDevDefCard} {a : ℕ}

theorem rdlock_free (cards : List (ℕ × SndDevDefCard)) (init : Bool) :
    rdlock ⟨cards, init, {}⟩ = .ok ((), ⟨cards, init, ⟨1, false⟩⟩) := rfl

theorem derefCard_found {cards : List (ℕ × SndDevDefCard)} (h : cards.lookup a = some c)
    (init : Bool) (l : RwLock) : derefCard a ⟨cards, init, l⟩ = .ok (c, ⟨cards, init, l⟩) := by
  unfold derefCard
  rw [bind_gets, h]
  rfl

theorem derefDev_found {cards : List (ℕ × SndDevDefCard)} {p : DevPtr} {dev : SndDevDef}
    (h : cards.lookup p.card = some c) (hdev : (c.devs p.nodeType)[p.index]? = some dev)
    (init : Bool) (l : RwLock) : derefDev p ⟨cards, init, l⟩ = .ok (dev, ⟨cards, init, l⟩) := by
  unfold derefDev
  rw [bind_of_ok (derefCard_found h init l), hdev]
  rfl

/-- The end of a reading function. -/
theorem unlock_answer {α : Type} (x : α) (cards : List (ℕ × SndDevDefCard)) (init : Bool) :
    (do rwUnlock; pure x : SndM α) ⟨cards, init, ⟨1, false⟩⟩ = .ok (x, ⟨cards, init, {}⟩) := rfl

theorem getNode_answers (hfree : g.Free) (h : g.sndCardList.lookup a = some c) (id type : ℕ) :
    Answers (sndCardDefGetNode (some a) id type) g (c.findNode a id type) := by
  obtain ⟨cards, init, lock⟩ := g
  obtain rfl : lock = {} := hfree
  unfold Answers sndCardDefGetNode SndDevDefCard.findNode
  dsimp only
  split_ifs
  · rfl
  · rw [bind_of_ok (rdlock_free cards init), bind_of_ok (derefCard_found h init _)]
    cases (c.devs (sndDevsList type)).findIdx? fun dev => decide (dev.device = id) with
    | none => rfl
    | some i => rfl

theorem getNumNode_answers (hfree : g.Free) (h : g.sndCardList.lookup a = some c) (type : ℕ) :
    Answers (sndCardDefGetNumNode (some a) type) g
      (if SND_NODE_TYPE_MAX ≤ type then 0 else (c.devs (sndDevsList type)).length) := by
  obtain ⟨cards, init, lock⟩ := g
  obtain rfl : lock = {} := hfree
  unfold Answers sndCardDefGetNumNode
  dsimp only
  split_ifs
  · rfl
  · rw [bind_of_ok (rdlock_free cards init), bind_of_ok (derefCard_found h init _)]
    rfl

/-- All the nodes of a type, asked for by their number. -/
theorem getNodesForType_answers (hfree : g.Free) (h : g.sndCardList.lookup a = some c) {type : ℕ}
    (htype : type < SND_NODE_TYPE_MAX) :
    Answers (sndCardDefGetNodesForType (some a) type (c.devs (sndDevsList type)).length) g
      (0, (List.range (c.devs (sndDevsList type)).length).map fun i =>
        ⟨a, sndDevsList type, i⟩) := by
  obtain ⟨cards, init, lock⟩ := g
  obtain rfl : lock = {} := hfree
  unfold Answers sndCardDefGetNodesForType
  dsimp only
  rw [if_neg (not_le.mpr htype), bind_of_ok (rdlock_free cards init),
    bind_of_ok (derefCard_found h init _), if_neg (lt_irrefl _)]
  refine (unlock_answer _ cards init).trans ?_
  split_ifs
  · rw [List.take_of_length_le (by simp)]
  · rfl

variable {p : DevPtr} {dev : SndDevDef}

theorem getInt_answers (hfree : g.Free) (h : g.sndCardList.lookup p.card = some c)
    (hdev : (c.devs p.nodeType)[p.index]? = some dev) (prop : CStr) :
    Answers (sndCardDefGetInt (some p) prop) g (dev.getInt prop) := by
  obtain ⟨cards, init, lock⟩ := g
  obtain rfl : lock = {} := hfree
  unfold Answers sndCardDefGetInt SndDevDef.getInt
  dsimp only
  rw [bind_of_ok (rdlock_free cards init), bind_of_ok (derefDev_found h hdev init _)]
  by_cases htype : prop = "type".toList
  · rw [if_pos htype, if_pos htype]
    rfl
  rw [if_neg htype, if_neg htype]
  split_ifs
  · rfl
  · cases dev.propValList.find? fun pv => decide (pv.prop = prop) with
    | none => rfl
    | some pv => rfl

theorem getStr_answers (hfree : g.Free) (h : g.sndCardList.lookup p.card = some c)
    (hdev : (c.devs p.nodeType)[p.index]? = some dev) (prop : CStr) :
    Answers (sndCardDefGetStr (some p) prop) g (dev.getStr prop) := by
  obtain ⟨cards, init, lock⟩ := g
  obtain rfl : lock = {} := hfree
  unfold Answers sndCardDefGetStr SndDevDef.getStr
  dsimp only
  rw [bind_of_ok (rdlock_free cards init), bind_of_ok (derefDev_found h hdev init _)]
  split_ifs
  · rfl
  · rfl
  · cases dev.propValList.find? fun pv => decide (pv.prop = prop) with
    | none => rfl
    | some pv => rfl

/-- The pointer that is found leads to a device with the number. -/
theorem SndDevDefCard.findNode_dev {id type : ℕ} (h : c.findNode a id type = some p) :
    p.card = a ∧ ∃ dev, (c.devs p.nodeType)[p.index]? = some dev ∧
      (c.devs (sndDevsList type)).find? (fun dev => decide (dev.device = id)) = some dev := by
  unfold SndDevDefCard.findNode at h
  split_ifs at h
  obtain ⟨i, hi, rfl⟩ := Option.map_eq_some_iff.mp h
  obtain ⟨hlt, hid, hfirst⟩ := List.findIdx?_eq_some_iff_getElem.mp hi
  refine ⟨rfl, _, List.getElem?_eq_getElem hlt, ?_⟩
  rw [List.find?_eq_some_iff_getElem]
  exact ⟨hid, i, hlt, rfl, fun j hj => by simpa using hfirst j hj⟩

end reads

/-! ### Answers of a document -/

/-- The text of a property; one without a text is not there. -/
def DevDoc.prop (d : DevDoc) (prop : CStr) : Option CStr :=
  ((d.props.getD []).find? fun p => !p.text.isEmpty && decide (p.tag = prop)).map PropDoc.text

def DevDoc.int (d : DevDoc) (prop : CStr) : ℤ × Option ℤ :=
  if prop = "type".toList then (0, some (if d.plugin.isSome then 1 else 0))
  else if prop = "id".toList then (0, some (decimal d.id.text))
  else ((d.prop prop).map fun s => (0, some (atoi s))).getD (-EINVAL, none)

def DevDoc.str (d : DevDoc) (prop : CStr) : ℤ × Option CStr :=
  if prop = "so-name".toList then (0, d.plugin.map fun p => p.soName.text)
  else if prop = "name".toList then (0, some d.name.text)
  else ((d.prop prop).map fun s => (0, some s)).getD (-EINVAL, none)

/-- The devices of a type. -/
def CardDoc.ofType (c : CardDoc) (type : ℕ) : List DevDoc :=
  if SND_NODE_TYPE_MAX ≤ type then [] else c.devs.filter fun d => d.nodeType = sndDevsList type

/-- The first device of a type with the number. -/
def CardDoc.dev (c : CardDoc) (type id : ℕ) : Option DevDoc :=
  (c.ofType type).find? fun d => decide (decimal d.id.text = id)

theorem propVals_find (props : List PropDoc) (prop : CStr) :
    (propVals props).find? (fun pv => decide (pv.prop = prop)) =
      (props.find? fun p => !p.text.isEmpty && decide (p.tag = prop)).map
        fun p => ⟨p.tag, p.text⟩ := by
  unfold propVals
  rw [List.find?_map, List.find?_filter]
  refine congrArg (Option.map _) (congrArg (fun f => props.find? f) (funext fun p => ?_))
  rw [Bool.decide_and, Bool.decide_eq_true, Bool.decide_eq_true]
  rfl

theorem DevDoc.denote_getInt (d : DevDoc) (prop : CStr) : d.denote.getInt prop = d.int prop := by
  unfold SndDevDef.getInt DevDoc.int
  by_cases htype : prop = "type".toList
  · rw [if_pos htype, if_pos htype]
    cases hplugin : d.plugin <;> simp [DevDoc.denote, hplugin]
  rw [if_neg htype, if_neg htype]
  split_ifs
  · have hfits := d.id.fits
    have hid : ((decimal d.id.text : ℕ) : ℤ).bmod (2 ^ 32) = decimal d.id.text :=
      Int.bmod_eq_of_le (by omega) (by omega)
    change ((0 : ℤ), some (((decimal d.id.text : ℕ) : ℤ).bmod (2 ^ 32))) = _
    rw [hid]
  · unfold DevDoc.prop
    change (match (propVals (d.props.getD [])).find? _ with
      | some pv => ((0 : ℤ), some (atoi pv.val))
      | none => (-EINVAL, none)) = _
    rw [propVals_find]
    cases (d.props.getD []).find? fun p => !p.text.isEmpty && decide (p.tag = prop) with
    | none => rfl
    | some p => rfl

theorem DevDoc.denote_getStr (d : DevDoc) (prop : CStr) : d.denote.getStr prop = d.str prop := by
  unfold SndDevDef.getStr DevDoc.str
  split_ifs
  · rfl
  · rfl
  · unfold DevDoc.prop
    change (match (propVals (d.props.getD [])).find? _ with
      | some pv => ((0 : ℤ), some pv.val)
      | none => (-EINVAL, none)) = _
    rw [propVals_find]
    cases (d.props.getD []).find? fun p => !p.text.isEmpty && decide (p.tag = prop) with
    | none => rfl
    | some p => rfl

/-! ### A client -/

/-- What a client may want to know of a card. -/
inductive CardQuestion where
  | count (type : ℕ)
  | int (type id : ℕ) (prop : CStr)
  | str (type id : ℕ) (prop : CStr)
  /-- A property of all the devices of a type. -/
  | strs (type : ℕ) (prop : CStr)
deriving DecidableEq, Repr

inductive CardAnswer where
  | count (n : ℕ)
  | int (r : ℤ × Option ℤ)
  | str (r : ℤ × Option CStr)
  | strs (l : List (ℤ × Option CStr))
deriving DecidableEq, Repr

/-- One program after the other, with what they return. -/
def askEach {α β : Type} (f : α → SndM β) : List α → SndM (List β)
  | [] => pure []
  | x :: xs => do
      let y ← f x
      let ys ← askEach f xs
      pure (y :: ys)

/-- How a client comes by its answer. -/
def askCard (a : ℕ) : CardQuestion → SndM CardAnswer
  | .count type => do
      let n ← sndCardDefGetNumNode (some a) type
      pure (.count n)
  | .int type id prop => do
      let r ← sndCardDefGetNode (some a) id type >>= fun node => sndCardDefGetInt node prop
      pure (.int r)
  | .str type id prop => do
      let r ← sndCardDefGetNode (some a) id type >>= fun node => sndCardDefGetStr node prop
      pure (.str r)
  | .strs type prop => do
      let n ← sndCardDefGetNumNode (some a) type
      let r ← sndCardDefGetNodesForType (some a) type n
      let l ← askEach (fun node => sndCardDefGetStr (some node) prop) r.2
      pure (.strs l)

/-- The card is got, asked and put back. -/
def cardSession (card : ℕ) (e : CardEnv) (questions : List CardQuestion) :
    SndM (Option (List CardAnswer)) := do
  let cardNode ← sndCardDefGetCard card e
  match cardNode with
  | none => pure none
  | some a => do
      let answers ← askEach (askCard a) questions
      sndCardDefPutCard (some a)
      pure (some answers)

/-- What the document says. -/
def CardDoc.answer (c : CardDoc) : CardQuestion → CardAnswer
  | .count type => .count (c.ofType type).length
  | .int type id prop => .int (((c.dev type id).map fun d => d.int prop).getD (-EINVAL, none))
  | .str type id prop => .str (((c.dev type id).map fun d => d.str prop).getD (-EINVAL, none))
  | .strs type prop => .strs ((c.ofType type).map fun d => d.str prop)

/-- The definition has the devices of the document. -/
def CardDoc.Behind (c : CardDoc) (d : SndDevDefCard) : Prop := ∀ t, d.devs t = devsOf t c.devs

section client
variable {c : CardDoc} {d : SndDevDefCard} {g : SndState} {a : ℕ}

theorem CardDoc.Behind.ofType (h : c.Behind d) {type : ℕ} (htype : type < SND_NODE_TYPE_MAX) :
    d.devs (sndDevsList type) = (c.ofType type).map DevDoc.denote := by
  unfold CardDoc.ofType
  rw [h, if_neg (not_le.mpr htype)]
  rfl

theorem CardDoc.ofType_max {type : ℕ} (htype : SND_NODE_TYPE_MAX ≤ type) : c.ofType type = [] :=
  if_pos htype

/-- The node that is found stands for the device of the document. -/
theorem CardDoc.Behind.findNode (h : c.Behind d) (type id : ℕ) :
    (d.findNode a id type = none ∧ c.dev type id = none) ∨
      ∃ p dev, d.findNode a id type = some p ∧ c.dev type id = some dev ∧ p.card = a ∧
        (d.devs p.nodeType)[p.index]? = some dev.denote := by
  by_cases htype : SND_NODE_TYPE_MAX ≤ type
  · refine .inl ⟨if_pos htype, ?_⟩
    unfold CardDoc.dev
    rw [CardDoc.ofType_max htype]
    rfl
  have hdevs := h.ofType (not_le.mp htype)
  have hfind : (d.devs (sndDevsList type)).find? (fun dev => decide (dev.device = id)) =
      (c.dev type id).map DevDoc.denote := by
    rw [hdevs, List.find?_map]
    rfl
  cases hnode : d.findNode a id type with
  | none =>
      refine .inl ⟨rfl, ?_⟩
      unfold SndDevDefCard.findNode at hnode
      rw [if_neg htype, Option.map_eq_none_iff, List.findIdx?_eq_none_iff] at hnode
      rw [List.find?_eq_none.mpr fun dev hdev => by simpa using hnode dev hdev] at hfind
      exact Option.map_eq_none_iff.mp hfind.symm
  | some p =>
      obtain ⟨hcard, dev, hdev, hfirst⟩ := SndDevDefCard.findNode_dev hnode
      obtain ⟨devDoc, hdoc, rfl⟩ := Option.map_eq_some_iff.mp (hfind.symm.trans hfirst)
      exact .inr ⟨p, devDoc, rfl, hdoc, hcard, hdev⟩

theorem answers_bind {α β : Type} {m : SndM α} {f : α → SndM β} {x : α} {y : β}
    (hm : Answers m g x) (hf : Answers (f x) g y) : Answers (m >>= f) g y :=
  (bind_of_ok hm).trans hf

theorem askEach_answers {α β : Type} {f : α → SndM β} {answer : α → β} {l : List α}
    (h : ∀ x ∈ l, Answers (f x) g (answer x)) : Answers (askEach f l) g (l.map answer) := by
  induction l with
  | nil => exact rfl
  | cons x l ih =>
      refine answers_bind (h x List.mem_cons_self) (answers_bind (ih fun y hy => ?_) rfl)
      exact h y (List.mem_cons_of_mem _ hy)

/-- A question to the first device with a number. -/
theorem atNode_answers {α : Type} {get : Option DevPtr → SndM α} (answer : DevDoc → α) {x : α}
    (hfree : g.Free) (hcard : g.sndCardList.lookup a = some d) (h : c.Behind d) (type id : ℕ)
    (hnull : Answers (get none) g x)
    (hget : ∀ p dev, p.card = a → (d.devs p.nodeType)[p.index]? = some (DevDoc.denote dev) →
      Answers (get (some p)) g (answer dev)) :
    Answers (sndCardDefGetNode (some a) id type >>= get) g
      (((c.dev type id).map answer).getD x) := by
  refine answers_bind (getNode_answers hfree hcard id type) ?_
  obtain ⟨hnode, hdev⟩ | ⟨p, dev, hnode, hdev, hp, hat⟩ := @CardDoc.Behind.findNode c d a h type id
  · rw [hnode, hdev]
    exact hnull
  · rw [hnode, hdev]
    exact hget p dev hp hat

theorem range_map_getElem {α β : Type} (l : List α) (f : α → β) (x : β) :
    (List.range l.length).map (fun i => (l[i]?.map f).getD x) = l.map f := by
  refine List.ext_getElem (by simp) fun i hi hi' => ?_
  rw [List.length_map] at hi'
  rw [List.getElem_map, List.getElem_map, List.getElem_range, List.getElem?_eq_getElem hi']
  rfl

/-- A question to all the devices of a type. -/
theorem allNodes_answers (hfree : g.Free) (hcard : g.sndCardList.lookup a = some d)
    (h : c.Behind d) {type : ℕ} (htype : type < SND_NODE_TYPE_MAX) (prop : CStr) :
    Answers (do
      let r ← sndCardDefGetNodesForType (some a) type (d.devs (sndDevsList type)).length
      let l ← askEach (fun node => sndCardDefGetStr (some node) prop) r.2
      pure (CardAnswer.strs l)) g (.strs ((c.ofType type).map fun dev => dev.str prop)) := by
  refine answers_bind (getNodesForType_answers hfree hcard htype) ?_
  have heach : Answers (askEach (fun node => sndCardDefGetStr (some node) prop)
      ((List.range (d.devs (sndDevsList type)).length).map fun i => ⟨a, sndDevsList type, i⟩)) g
      (((List.range (d.devs (sndDevsList type)).length).map fun i =>
        (⟨a, sndDevsList type, i⟩ : DevPtr)).map fun p =>
          (((d.devs (sndDevsList type))[p.index]?.map fun dev => dev.getStr prop).getD
            (-EINVAL, none))) := by
    refine askEach_answers fun p hp => ?_
    obtain ⟨i, hi, rfl⟩ := List.mem_map.mp hp
    have hat := List.getElem?_eq_getElem (List.mem_range.mp hi)
    dsimp only
    rw [hat]
    exact getStr_answers (p := ⟨a, sndDevsList type, i⟩) hfree hcard hat prop
  refine answers_bind heach ?_
  rw [List.map_map]
  refine (congrArg (fun l => Except.ok (CardAnswer.strs l, g))
    (range_map_getElem (d.devs (sndDevsList type)) _ _)).trans ?_
  rw [h.ofType htype, List.map_map]
  exact congrArg (fun l => Except.ok (CardAnswer.strs l, g))
    (List.map_congr_left fun dev _ => dev.denote_getStr prop)

theorem ask_answers (hfree : g.Free) (hcard : g.sndCardList.lookup a = some d) (h : c.Behind d)
    (q : CardQuestion) : Answers (askCard a q) g (c.answer q) := by
  cases q with
  | count type =>
      refine answers_bind (getNumNode_answers hfree hcard type) ?_
      change Answers (pure _) g (CardAnswer.count _)
      split_ifs with htype
      · rw [CardDoc.ofType_max htype]
        rfl
      · rw [h.ofType (not_le.mp htype), List.length_map]
        rfl
  | int type id prop =>
      refine answers_bind (atNode_answers (fun dev => dev.int prop) hfree hcard h type id
        rfl fun p dev hp hat => ?_) rfl
      subst hp
      rw [← DevDoc.denote_getInt]
      exact getInt_answers hfree hcard hat prop
  | str type id prop =>
      refine answers_bind (atNode_answers (fun dev => dev.str prop) hfree hcard h type id
        rfl fun p dev hp hat => ?_) rfl
      subst hp
      rw [← DevDoc.denote_getStr]
      exact getStr_answers hfree hcard hat prop
  | strs type prop =>
      refine answers_bind (getNumNode_answers hfree hcard type) ?_
      change Answers _ g (CardAnswer.strs _)
      by_cases htype : SND_NODE_TYPE_MAX ≤ type
      · have hnone : Answers (sndCardDefGetNodesForType (some a) type 0) g (-EINVAL, []) := by
          unfold Answers sndCardDefGetNodesForType
          dsimp only
          rw [if_pos htype]
          rfl
        rw [if_pos htype, CardDoc.ofType_max htype]
        exact answers_bind hnone rfl
      · rw [if_neg htype]
        exact allNodes_answers hfree hcard h (not_le.mp htype) prop

/-- The last user of a definition at the end of the cache. -/
theorem putCard_last {cards : List (ℕ × SndDevDefCard)} (ha : a ∉ cards.map Prod.fst)
    (hone : d.refcnt = 1) :
    sndCardDefPutCard (some a) ⟨cards ++ [(a, d)], true, {}⟩ = .ok ((), ⟨cards, true, {}⟩) := by
  have hput : sndPutLoop a (cards ++ [(a, d)]) = cards := by
    induction cards with
    | nil =>
        change sndPutLoop a [(a, d)] = []
        unfold sndPutLoop
        rw [if_pos rfl, hone, if_pos (by decide)]
        rfl
    | cons node cards ih =>
        rw [List.map_cons, List.mem_cons, not_or] at ha
        obtain ⟨b, x⟩ := node
        rw [List.cons_append]
        unfold sndPutLoop
        rw [if_neg (Ne.symm ha.1), ih ha.2]
  refine (bind_of_ok (a := ()) (t := ⟨cards ++ [(a, d)], true, ⟨0, true⟩⟩) rfl).trans ?_
  rw [bind_modify, hput]
  rfl

end client

/-! ### From the document to the answers -/

/-- What a client looks for: a number, or the name that the kernel shows for it. -/
inductive CardKey where
  | number (card : ℕ)
  | name (card : ℕ) (n : CStr) (newline : Char)
deriving DecidableEq, Repr

namespace CardKey

def card : CardKey → ℕ
  | number card => card
  | name card _ _ => card

/-- The environment of a call whose file can be read. -/
def env (key : CardKey) (events : List XmlEvent) (addr : ℕ) : CardEnv :=
  match key with
  | number _ => { events, addr }
  | name _ n newline => { procId := .line (n ++ [newline]), events, addr }

/-- The card of the document. -/
def find (doc : Document) : CardKey → Option CardDoc
  | number card => doc.cards.find? fun c => decimal c.id.text = card
  | name _ n _ => doc.cards.find? fun c => (c.tokenFor n).isSome

/-- A cached definition that a search for the key passes over. -/
def Misses (c : SndDevDefCard) : CardKey → Prop
  | number card => c.card ≠ card
  | name _ n _ => ∃ name, c.name = some name ∧ n.isPrefixOf name = false

instance (c : SndDevDefCard) : (key : CardKey) → Decidable (key.Misses c)
  | number _ => inferInstanceAs (Decidable (_ ≠ _))
  | name _ n _ => inferInstanceAs (Decidable (∃ name ∈ c.name, n.isPrefixOf name = false))

end CardKey

/-- The first card with a token for the name is the one that the document denotes. -/
theorem Document.denoteName_eq (doc : Document) (n : CStr) :
    doc.denoteName n = (doc.cards.find? fun c => (c.tokenFor n).isSome).bind fun c =>
      (c.tokenFor n).map c.denoteAs := by
  unfold Document.denoteName
  induction doc.cards with
  | nil => rfl
  | cons c cards ih =>
      rw [List.findSome?_cons, List.find?_cons]
      cases htoken : c.tokenFor n with
      | none => exact ih
      | some token =>
          dsimp only [Option.isSome_some, Option.bind_some]
          rw [htoken]
          rfl

/-- The call brings the card of the document, and nothing if there is none. -/
theorem getCard_key (doc : Document) {events : List XmlEvent} (hevents : CallsOf doc.events events)
    (key : CardKey) (addr : ℕ) {g : SndState} (hfree : g.Free)
    (hmiss : ∀ node ∈ g.initList.sndCardList, key.Misses node.2) :
    ∃ x : Option SndDevDefCard,
      sndCardDefGetCard key.card (key.env events addr) g = .ok (g.initList.fetch addr x) ∧
      ((x = none ∧ key.find doc = none) ∨
        ∃ d c, x = some d ∧ key.find doc = some c ∧ c.Behind d) := by
  cases key with
  | number card =>
      refine ⟨doc.denote card, ?_, ?_⟩
      · refine getCard_fresh (fun _ => rfl) ⟨rfl, rfl, rfl⟩ (sndParse_denotes doc card hevents)
          (fun c hc => ?_) hfree (sndFindCard_miss hmiss)
        obtain ⟨_, -, rfl⟩ := Option.map_eq_some_iff.mp hc
        rfl
      · unfold Document.denote
        cases hfind : CardKey.find doc (.number card) with
        | none => exact .inl ⟨congrArg (Option.map CardDoc.denote) hfind, rfl⟩
        | some c =>
            exact .inr ⟨c.denote, c, congrArg (Option.map CardDoc.denote) hfind, rfl,
              fun t => by cases t <;> rfl⟩
  | name card n newline =>
      refine ⟨doc.denoteName n, ?_, ?_⟩
      · exact getCard_fresh (sndReadProcId_line rfl rfl card) ⟨rfl, rfl, rfl⟩
          (sndParse_denotesName doc n hevents) (fun _ => Document.denoteName_new) hfree
          (sndFindCard_missName rfl hmiss)
      · rw [Document.denoteName_eq]
        cases hfind : CardKey.find doc (.name card n newline) with
        | none => exact .inl ⟨congrArg (Option.bind · _) hfind, rfl⟩
        | some c =>
            have htoken : (c.tokenFor n).isSome :=
              List.find?_some (p := fun c : CardDoc => (c.tokenFor n).isSome) hfind
            obtain ⟨token, htoken⟩ := Option.isSome_iff_exists.mp htoken
            refine .inr ⟨c.denoteAs token, c, (congrArg (Option.bind · _) hfind).trans ?_, rfl,
              fun t => by cases t <;> rfl⟩
            change (c.tokenFor n).map c.denoteAs = _
            rw [htoken]
            rfl

/-- A client that looks for a card which is not in the cache gets the answers of the document, and
none if the document has no such card; afterwards the cache is what it was before. -/
theorem session_answers (doc : Document) {events : List XmlEvent}
    (hevents : CallsOf doc.events events) (key : CardKey) (addr : ℕ) {g : SndState}
    (hfree : g.Free) (hmiss : ∀ node ∈ g.initList.sndCardList, key.Misses node.2)
    (questions : List CardQuestion) :
    cardSession key.card (key.env events addr) questions g =
      .ok ((key.find doc).map fun c => questions.map c.answer, g.initList) := by
  obtain ⟨x, hget, hx⟩ := getCard_key doc hevents key addr hfree hmiss
  unfold cardSession
  rw [bind_of_ok hget]
  obtain ⟨rfl, hfind⟩ | ⟨d, c, rfl, hfind, hbehind⟩ := hx
  · rw [hfind]
    rfl
  rw [hfind]
  obtain ⟨cards, init, lock⟩ := g
  obtain rfl : lock = {} := hfree
  rw [SndState.initList_mk]
  generalize (if init then cards else []) = cards
  have hnew := sndNewAddr_not_mem addr cards
  change ((askEach (askCard (sndNewAddr addr cards)) questions >>= fun answers => do
    sndCardDefPutCard (some (sndNewAddr addr cards))
    pure (some answers)) ⟨cards ++ [(sndNewAddr addr cards, { d with refcnt := 1 })], true, {}⟩) = _
  generalize sndNewAddr addr cards = a at hnew ⊢
  have hlookup : (cards ++ [(a, { d with refcnt := 1 })]).lookup a =
      some { d with refcnt := 1 } := by
    rw [List.lookup_append, List.lookup_eq_none_iff.mpr fun node hnode => ?_]
    · rw [List.lookup_cons_self]
      rfl
    · rw [bne_iff_ne]
      rintro rfl
      exact hnew (List.mem_map_of_mem hnode)
  have hbehind' : c.Behind { d with refcnt := 1 } := fun t => by
    rw [← hbehind t]
    cases t <;> rfl
  have hfree : SndState.Free ⟨cards ++ [(a, { d with refcnt := 1 })], true, {}⟩ := rfl
  have hanswers : Answers (askEach (askCard a) questions)
      ⟨cards ++ [(a, { d with refcnt := 1 })], true, {}⟩ (questions.map c.answer) :=
    askEach_answers fun q _ => ask_answers hfree hlookup hbehind' q
  rw [bind_of_ok hanswers, bind_of_ok (putCard_last hnew rfl)]
  rfl

/-- A card with a device of a plugin and a property. -/
def lowLatency : Document where
  root := "defs".toList
  cards :=
    [{ id := ⟨"3".toList, by decide, by simp, by decide, by decide⟩
       name := ⟨"c".toList, by decide, by decide⟩
       devs := [{
         nodeType := .pcm
         id := ⟨"6".toList, by decide, by simp, by decide, by decide⟩
         name := ⟨"low".toList, by decide, by decide⟩
         plugin := some ⟨"plugin".toList, ⟨"lib.so".toList, by decide, by decide⟩, by decide⟩
         props := some [⟨"playback".toList, "2".toList, by decide, by decide, by decide,
           by decide⟩] }] }]

theorem session_answers_lowLatency :
    cardSession 3 { events := lowLatency.events, addr := 5 }
        [.count SND_NODE_TYPE_PCM, .int SND_NODE_TYPE_PCM 6 "playback".toList,
          .str SND_NODE_TYPE_PCM 6 "so-name".toList, .int SND_NODE_TYPE_COMPR 6 "id".toList,
          .strs SND_NODE_TYPE_PCM "name".toList] {} =
      .ok (some [.count 1, .int (0, some 2), .str (0, some "lib.so".toList), .int (-22, none),
        .strs [(0, some "low".toList)]], { sndCardListInit := true }) :=
  (session_answers lowLatency
    (.startTag _ [] (by decide) (.startTag _ [] (by decide)
      (.startTag _ [] (by decide) (.text _ _ ["3".toList] rfl
        (.startTag _ [] (by decide) (.text _ _ ["c".toList] rfl
          (.startTag _ [] (by decide)
            (.startTag _ [] (by decide) (.text _ _ ["6".toList] rfl
              (.startTag _ [] (by decide) (.text _ _ ["low".toList] rfl
                (.startTag _ [] (by decide)
                  (.startTag _ [] (by decide) (.text _ _ ["lib.so".toList] rfl
                    (.endTag _ [] (by decide)
                      (.startTag _ [] (by decide)
                        (.startTag _ [] (by decide) (.text _ _ ["2".toList] rfl
                          (.endTag _ [] (by decide) (.endTag _ [] (by decide)
                            (.endTag _ [] (by decide)
                              (.endTag _ [] (by decide) .nil))))))))))))))))))))))
    (.number 3) 5 (show SndState.Free {} from rfl) (by decide) _).trans (by decide)

end Agm
