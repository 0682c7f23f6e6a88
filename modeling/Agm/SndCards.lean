import Agm.SndParser

/-! # The cached card definitions (`snd-card-parser.c`)

`snd_card_def_get_card` looks for the card in `snd_card_list` and parses the file of the card
definitions when it is not there; `snd_card_def_put_card` frees a definition with its last user.
Five more functions read a definition.  All of them run under `snd_rwlock`.

* **Pointers.**  A card definition is named by its address, a device by its card, its list and
  its position there.  `calloc` puts a new definition at any address that is not in use.
* **The environment** of a call of `snd_card_def_get_card` (`CardEnv`) is what it finds under
  `/proc/asound`, what can be opened and allocated, and the run of expat.
* **The lock.**  A call that waits for a lock nobody releases does not return. -/

namespace Agm

open Prog

/-! ### The state -/

/-- Why a call does not return: undefined behaviour, or a lock that nobody releases. -/
inductive SndFault where
  | crash (c : Crash)
  | overflow | dangling
  | unlockFree | blocked
deriving DecidableEq, Repr

/-- `pthread_rwlock_t`. -/
structure RwLock where
  readers : ℕ := 0
  writer : Bool := false
deriving DecidableEq, Repr

/-- The static variables. -/
structure SndState where
  sndCardList : List (ℕ × SndDevDefCard) := []
  sndCardListInit : Bool := false
  sndRwlock : RwLock := {}
deriving DecidableEq, Repr

abbrev SndM := Prog SndState SndFault

/-- `pthread_rwlock_wrlock` by the only thread. -/
def wrlock : SndM Unit := do
  let l ← Prog.gets SndState.sndRwlock
  if l.writer ∨ l.readers ≠ 0 then Prog.fault .blocked
  else Prog.modify fun g => { g with sndRwlock := { l with writer := true } }

/-- `pthread_rwlock_rdlock`. -/
def rdlock : SndM Unit := do
  let l ← Prog.gets SndState.sndRwlock
  if l.writer then Prog.fault .blocked
  else Prog.modify fun g => { g with sndRwlock := { l with readers := l.readers + 1 } }

/-- `pthread_rwlock_unlock`. -/
def rwUnlock : SndM Unit := do
  let l ← Prog.gets SndState.sndRwlock
  if l.writer then Prog.modify fun g => { g with sndRwlock := { l with writer := false } }
  else if l.readers = 0 then Prog.fault .unlockFree
  else Prog.modify fun g => { g with sndRwlock := { l with readers := l.readers - 1 } }

/-! ### Getting a card -/

/-- What a call finds at `/proc/asound/card%d/id`. -/
inductive ProcId where
  | missing
  /-- `access` succeeds and `fopen` returns `NULL`. -/
  | unopenable
  /-- `fgets` returns `NULL`. -/
  | unreadable
  | line (s : CStr)
deriving DecidableEq, Repr

/-- The environment of a call of `snd_card_def_get_card`. -/
structure CardEnv where
  procId : ProcId := .missing
  /-- The block for the name can be had. -/
  nameBlock : Bool := true
  /-- `CARD_DEF_FILE` can be opened. -/
  cardDefFile : Bool := true
  /-- `XML_ParserCreate` succeeds. -/
  parser : Bool := true
  /-- The callbacks of expat. -/
  events : List XmlEvent := []
  /-- `XML_GetBuffer` and `XML_ParseBuffer` succeed until the end of the file. -/
  parsed : Bool := true
  /-- The allocations of the handlers. -/
  mem : List Bool := []
  /-- Where `calloc` would put the definition. -/
  addr : ℕ := 0
deriving DecidableEq, Repr

/-- What a call asks for: the name and the number that it looks for. -/
structure CardRequest where
  name : Option CStr
  card : ℕ
deriving DecidableEq, Repr

/-- The first part of `snd_card_def_get_card`: `none` when there is no memory for the name.  A
call that finds a name looks for the number `UINT_MAX`.  The test `file < 0` is never true. -/
def sndReadProcId (card : ℕ) (e : CardEnv) : SndM (Option CardRequest) :=
  match e.procId with
  | .missing => pure (some ⟨none, card⟩)
  | .unopenable => if e.nameBlock then Prog.fault (.crash .nullDeref) else pure none
  | .unreadable => pure (if e.nameBlock then some ⟨none, card⟩ else none)
  | .line s =>
      if !e.nameBlock then pure none
      else if s = [] then Prog.fault (.crash .outOfBounds)
      else pure (some ⟨some s.dropLast, UINT_MAX⟩)

/-- The test of the loop over `snd_card_list`; a definition without a name cannot be compared. -/
def sndCardMatches (req : CardRequest) (cardDef : SndDevDefCard) : SndM Bool :=
  match req.name with
  | none => pure (decide (cardDef.card = req.card))
  | some sndCardName =>
      match cardDef.name with
      | none => Prog.fault (.crash .nullDeref)
      | some name => pure (sndCardName.isPrefixOf name)

/-- The loop over `snd_card_list`. -/
def sndFindCard (req : CardRequest) : List (ℕ × SndDevDefCard) → SndM (Option (ℕ × SndDevDefCard))
  | [] => pure none
  | node :: nodes => do
      let cardFound ← sndCardMatches req node.2
      if cardFound then pure (some node) else sndFindCard req nodes

def INT_MAX : ℤ := 2 ^ 31 - 1

/-- Assign to fields of a card definition. -/
def modifyCardDef (a : ℕ) (f : SndDevDefCard → SndDevDefCard) : SndM Unit :=
  Prog.modify fun g =>
    { g with sndCardList := g.sndCardList.map fun node =>
        if node.1 = a then (a, f node.2) else node }

/-- The address of a new definition. -/
def sndNewAddr (addr : ℕ) (cards : List (ℕ × SndDevDefCard)) : ℕ :=
  if addr ∈ cards.map Prod.fst then (cards.map Prod.fst).foldr max 0 + 1 else addr

/-- What the XML gives for a request, from `memset(&card_data)` to the end of the parsing. -/
def sndParseCard (req : CardRequest) (events : List XmlEvent) (mem : List Bool) :
    Except Crash (Option SndDevDefCard) :=
  match sndParse events ⟨{ card := req.card, cardName := req.name }, mem⟩ with
  | .ok (_, p) => .ok p.data.curCardDef
  | .error e => .error e

/-- Reading the XML and the label `ret`.  The variable `card_def` still points to the last cached
definition when the parser fails. -/
def sndReadCard (req : CardRequest) (e : CardEnv) : SndM (Option ℕ) := do
  let cards ← Prog.gets SndState.sndCardList
  match sndParseCard req e.events e.mem with
  | .error f => Prog.fault (.crash f)
  | .ok curCardDef => do
      if !e.parsed then do
        rwUnlock
        pure (cards.getLast?.map Prod.fst)
      else
        match curCardDef with
        | none => do
            rwUnlock
            pure none
        | some cardDef => do
            let a := sndNewAddr e.addr cards
            Prog.modify fun g =>
              { g with sndCardList :=
                  g.sndCardList ++ [(a, { cardDef with refcnt := cardDef.refcnt + 1 })] }
            rwUnlock
            pure (some a)

/-- The list is initialised by the first call. -/
def SndState.initList (g : SndState) : SndState :=
  if g.sndCardListInit then g else { g with sndCardList := [], sndCardListInit := true }

theorem SndState.initList_mk (cards : List (ℕ × SndDevDefCard)) (init : Bool) (l : RwLock) :
    SndState.initList ⟨cards, init, l⟩ = ⟨if init then cards else [], true, l⟩ := by
  cases init with
  | false => rfl
  | true => rfl

/-- `snd_card_def_get_card`. -/
def sndCardDefGetCard (card : ℕ) (e : CardEnv) : SndM (Option ℕ) := do
  let req ← sndReadProcId card e
  match req with
  | none => pure none
  | some req => do
      wrlock
      Prog.modify SndState.initList
      let cards ← Prog.gets SndState.sndCardList
      let hit ← sndFindCard req cards
      match hit with
      | some (a, cardDef) =>
          if cardDef.refcnt = INT_MAX then Prog.fault .overflow
          else do
            modifyCardDef a fun c => { c with refcnt := c.refcnt + 1 }
            rwUnlock
            pure (some a)
      | none =>
          if !e.cardDefFile then do
            rwUnlock
            pure none
          else if !e.parser then do
            rwUnlock
            pure none
          else sndReadCard req e

/-! ### Putting a card back -/

/-- The loop of `snd_card_def_put_card`. -/
def sndPutLoop (defs : ℕ) : List (ℕ × SndDevDefCard) → List (ℕ × SndDevDefCard)
  | [] => []
  | (a, c) :: nodes =>
      if a = defs then
        if c.refcnt - 1 = 0 then sndPutLoop defs nodes
        else (a, { c with refcnt := c.refcnt - 1 }) :: sndPutLoop defs nodes
      else (a, c) :: sndPutLoop defs nodes

/-- `snd_card_def_put_card`. -/
def sndCardDefPutCard (defs : Option ℕ) : SndM Unit :=
  match defs with
  | none => pure ()
  | some defs => do
      wrlock
      Prog.modify fun g => { g with sndCardList := sndPutLoop defs g.sndCardList }
      rwUnlock

/-! ### Reading a definition -/

def SND_NODE_TYPE_PCM : ℕ := 0

def SND_NODE_TYPE_COMPR : ℕ := 2

def SND_NODE_TYPE_MAX : ℕ := 3

/-- A pointer to a device: its card, its list and its position there. -/
structure DevPtr where
  card : ℕ
  nodeType : SndNodeType
  index : ℕ
deriving DecidableEq, Repr

/-- Read through a pointer to a card definition. -/
def derefCard (a : ℕ) : SndM SndDevDefCard := do
  let cards ← Prog.gets SndState.sndCardList
  match cards.lookup a with
  | none => Prog.fault .dangling
  | some c => pure c

/-- Read through a pointer to a device. -/
def derefDev (p : DevPtr) : SndM SndDevDef := do
  let c ← derefCard p.card
  match (c.devs p.nodeType)[p.index]? with
  | none => Prog.fault .dangling
  | some dev => pure dev

/-- The choice of the list by the type. -/
def sndDevsList (type : ℕ) : SndNodeType :=
  if type = SND_NODE_TYPE_PCM then .pcm
  else if type = SND_NODE_TYPE_COMPR then .compr
  else .mixer

/-- `snd_card_def_get_node`. -/
def sndCardDefGetNode (cardNode : Option ℕ) (id type : ℕ) : SndM (Option DevPtr) :=
  match cardNode with
  | none => pure none
  | some a =>
      if SND_NODE_TYPE_MAX ≤ type then pure none
      else do
        rdlock
        let c ← derefCard a
        match (c.devs (sndDevsList type)).findIdx? fun dev => decide (dev.device = id) with
        | some i => do
            rwUnlock
            pure (some ⟨a, sndDevsList type, i⟩)
        | none => do
            rwUnlock
            pure none

/-- `snd_card_def_get_num_node`. -/
def sndCardDefGetNumNode (cardNode : Option ℕ) (type : ℕ) : SndM ℕ :=
  match cardNode with
  | none => pure 0
  | some a =>
      if SND_NODE_TYPE_MAX ≤ type then pure 0
      else do
        rdlock
        let c ← derefCard a
        let numDevs := (c.devs (sndDevsList type)).length
        rwUnlock
        pure numDevs

/-- `snd_card_def_get_nodes_for_type`, with what it stores in `list`.  The error for too many
nodes returns with the lock held.  A number that is not positive stores all devices. -/
def sndCardDefGetNodesForType (cardNode : Option ℕ) (type : ℕ) (numNodes : ℤ) :
    SndM (ℤ × List DevPtr) :=
  match cardNode with
  | none => pure (-EINVAL, [])
  | some a =>
      if SND_NODE_TYPE_MAX ≤ type then pure (-EINVAL, [])
      else do
        rdlock
        let c ← derefCard a
        let numDevs := (c.devs (sndDevsList type)).length
        if (numDevs : ℤ) < numNodes then pure (-EINVAL, [])
        else do
          let nodes := (List.range numDevs).map fun i => (⟨a, sndDevsList type, i⟩ : DevPtr)
          rwUnlock
          pure (0, if 0 < numNodes then nodes.take numNodes.toNat else nodes)

/-- `snd_card_def_get_int`, with what it stores in `val`. -/
def sndCardDefGetInt (node : Option DevPtr) (prop : CStr) : SndM (ℤ × Option ℤ) :=
  match node with
  | none => pure (-EINVAL, none)
  | some p => do
      rdlock
      let dev ← derefDev p
      if prop = "type".toList then do
        rwUnlock
        pure (0, some (if dev.type = .hw then 0 else 1))
      else if prop = "id".toList then do
        rwUnlock
        pure (0, some ((dev.device : ℤ).bmod (2 ^ 32)))
      else
        match dev.propValList.find? fun pv => decide (pv.prop = prop) with
        | some pv => do
            rwUnlock
            pure (0, some (atoi pv.val))
        | none => do
            rwUnlock
            pure (-EINVAL, none)

/-- `snd_card_def_get_str`, with what it stores in `val`. -/
def sndCardDefGetStr (node : Option DevPtr) (prop : CStr) : SndM (ℤ × Option CStr) :=
  match node with
  | none => pure (-EINVAL, none)
  | some p => do
      rdlock
      let dev ← derefDev p
      if prop = "so-name".toList then do
        rwUnlock
        pure (0, dev.soName)
      else if prop = "name".toList then do
        rwUnlock
        pure (0, dev.name)
      else
        match dev.propValList.find? fun pv => decide (pv.prop = prop) with
        | some pv => do
            rwUnlock
            pure (0, some pv.val)
        | none => do
            rwUnlock
            pure (-EINVAL, none)

end Agm
