import Agm.Types

/-! # Parsing card definitions (`snd-card-parser.c`)

The card definitions are an XML file with one `card` element for each card.  The parser is driven by
the three callbacks of expat (`sndStartTag`, `sndEndTag`, `sndDataHandler`) and keeps only what
belongs to the first card that fits the request: its number, its name and its devices.

* **Strings** are lists of characters without a terminator; `strncmp` over the length of a string
  is a test for a prefix.
* **Pointers.**  The current card definition is a value of the parser's state, and the current
  device is the last one of one of its three lists.
* **Expat** is not part of the repository: a run of it is the list of callbacks it makes and
  whether the document was parsed to its end.
* **Memory.**  Every `calloc` takes the next entry of `mem`; when the list is used up, they
  succeed. -/

namespace Agm

open Prog

abbrev CStr := List Char

/-! ### The data model -/

/-- `enum snd_node_type`. -/
inductive SndNodeType where
  | pcm | mixer | compr
deriving DecidableEq, Repr

/-- `enum snd_dev_type`. -/
inductive SndDevType where
  | hw | plugin
deriving DecidableEq, Repr

/-- `struct snd_prop_val_pair`. -/
structure SndPropValPair where
  prop : CStr
  val : CStr
deriving DecidableEq, Repr

/-- `struct snd_dev_def`. -/
structure SndDevDef where
  nodeType : SndNodeType
  device : ℕ := 0
  type : SndDevType := .hw
  name : Option CStr := none
  soName : Option CStr := none
  propValList : List SndPropValPair := []
deriving DecidableEq, Repr

/-- `struct snd_dev_def_card`; the default value is the zeroed structure. -/
structure SndDevDefCard where
  card : ℕ := 0
  name : Option CStr := none
  refcnt : ℤ := 0
  pcmDevsList : List SndDevDef := []
  mixerDevsList : List SndDevDef := []
  comprDevsList : List SndDevDef := []
deriving DecidableEq, Repr

/-- The list of the devices of a type. -/
def SndDevDefCard.devs (c : SndDevDefCard) : SndNodeType → List SndDevDef
  | .pcm => c.pcmDevsList
  | .mixer => c.mixerDevsList
  | .compr => c.comprDevsList

def SndDevDefCard.setDevs (c : SndDevDefCard) (l : List SndDevDef) : SndNodeType → SndDevDefCard
  | .pcm => { c with pcmDevsList := l }
  | .mixer => { c with mixerDevsList := l }
  | .compr => { c with comprDevsList := l }

/-- `snd_card_defs_xml_tags_t`. -/
inductive SndTag where
  | root | card | device | plugin | devProps
deriving DecidableEq, Repr

/-- `struct xml_userdata`; `curDevDef` names the list whose last device is the current one. -/
structure XmlUserdata where
  card : ℕ
  cardName : Option CStr
  dataBuf : CStr := []
  offs : ℕ := 0
  curCardDef : Option SndDevDefCard := none
  curDevDef : Option SndNodeType := none
  cardFound : Bool := false
  cardParsed : Bool := false
  currentTag : SndTag := .root
deriving DecidableEq, Repr

/-- The parser's state and the allocations to come. -/
structure ParseState where
  data : XmlUserdata
  mem : List Bool
deriving DecidableEq, Repr

abbrev ParseM := Prog ParseState Crash

def BUF_SIZE : ℕ := 1024

def UINT_MAX : ℕ := 2 ^ 32 - 1

/-! ### The C library -/

def isSpace (c : Char) : Bool := c = ' ' || ('\t'.toNat ≤ c.toNat && c.toNat ≤ '\r'.toNat)

/-- The value of a run of digits. -/
def digitsValue (s : CStr) : ℕ :=
  (s.takeWhile Char.isDigit).foldl (fun n c => 10 * n + (c.toNat - '0'.toNat)) 0

/-- `atoi`: the value is that of `strtol`, which stops at the limits of `long`, cut to an `int`. -/
def atoi (s : CStr) : ℤ :=
  let value : ℤ :=
    match s.dropWhile isSpace with
    | '-' :: s => max (-(digitsValue s : ℤ)) (-2 ^ 63)
    | '+' :: s => min (digitsValue s) (2 ^ 63 - 1)
    | s => min (digitsValue s) (2 ^ 63 - 1)
  value.bmod (2 ^ 32)

/-- An `int` assigned to an `unsigned int`. -/
def toUnsigned (n : ℤ) : ℕ := (n % 2 ^ 32).toNat

/-- The tokens that `strtok_r` finds between the delimiters `", "`. -/
def strtok (s : CStr) : List CStr :=
  (s.splitOnP fun c => c = ',' || c = ' ').filter fun t => !t.isEmpty

/-- `strstr` finds the second string in the first. -/
def strstr (s t : CStr) : Bool := decide (t <:+: s)

/-! ### The primitives of the handlers -/

def sndCalloc : ParseM Bool := fun p => .ok (p.mem.headD true, { p with mem := p.mem.tail })

def getData : ParseM XmlUserdata := Prog.gets ParseState.data

def modifyData (f : XmlUserdata → XmlUserdata) : ParseM Unit :=
  Prog.modify fun p => { p with data := f p.data }

/-- Assign to fields of the current card definition. -/
def XmlUserdata.onCard (f : SndDevDefCard → SndDevDefCard) (data : XmlUserdata) : XmlUserdata :=
  { data with curCardDef := data.curCardDef.map f }

/-- Assign to fields of the last device of a list. -/
def modifyLast (f : SndDevDef → SndDevDef) (l : List SndDevDef) : List SndDevDef :=
  l.modify (l.length - 1) f

/-- Assign to fields of the current device. -/
def XmlUserdata.onDev (f : SndDevDef → SndDevDef) (data : XmlUserdata) : XmlUserdata :=
  match data.curDevDef with
  | none => data
  | some t => data.onCard fun c => c.setDevs (modifyLast f (c.devs t)) t

/-! ### The handlers -/

/-- `snd_reset_data_buf`. -/
def sndResetDataBuf : ParseM Unit := modifyData fun data => { data with dataBuf := [], offs := 0 }

/-- `snd_dev_set_type`. -/
def sndDevSetType (type : SndDevType) : ParseM Unit :=
  modifyData fun data => data.onDev fun dev => { dev with type := type }

/-- `snd_dev_def_init`.  The type is that of the tag, so the test of the tag's name that follows
the choice of the list always passes. -/
def sndDevDefInit (nodeType : Option SndNodeType) : ParseM Unit := do
  let data ← getData
  if data.curCardDef = none then pure () else
  match nodeType with
  | none => pure ()
  | some t =>
      let block ← sndCalloc
      if !block then pure ()
      else modifyData fun data =>
        { data.onCard fun c => c.setDevs (c.devs t ++ [{ nodeType := t }]) t with
          curDevDef := some t }

/-- The type of the devices with a tag. -/
def sndNodeTypeOf (tagName : CStr) : Option SndNodeType :=
  if tagName = "pcm-device".toList then some .pcm
  else if tagName = "compress-device".toList then some .compr
  else if tagName = "mixer".toList then some .mixer
  else none

/-- The tests of `snd_start_tag` for a card. -/
def sndEnterCard (tagName : CStr) : ParseM Unit :=
  if tagName = "card".toList then modifyData fun data => { data with currentTag := .card }
  else pure ()

/-- The tests of `snd_start_tag` for a device and its parts. -/
def sndEnterDevice (tagName : CStr) : ParseM Unit :=
  if sndNodeTypeOf tagName ≠ none then modifyData fun data => { data with currentTag := .device }
  else if strstr tagName "plugin".toList then do
    sndDevSetType .plugin
    modifyData fun data => { data with currentTag := .plugin }
  else if tagName = "props".toList then
    modifyData fun data => { data with currentTag := .devProps }
  else pure ()

/-- `snd_start_tag`. -/
def sndStartTag (tagName : CStr) : ParseM Unit := do
  let data ← getData
  if data.cardParsed then pure () else
  sndResetDataBuf
  sndEnterCard tagName
  sndEnterDevice tagName
  let data ← getData
  if data.currentTag ≠ .card ∧ !data.cardFound then pure ()
  else sndDevDefInit (sndNodeTypeOf tagName)

/-- `snd_parse_initialize_card_def`: whether there is a card definition. -/
def sndParseInitializeCardDef : ParseM Bool := do
  let data ← getData
  if data.curCardDef ≠ none then pure true else
  let block ← sndCalloc
  if !block then pure false
  else do
    modifyData fun data => { data with cardFound := true, curCardDef := some {} }
    pure true

/-- The end of `snd_parse_card_properties`, from the label `card_found` on. -/
def sndSetCardName (name : CStr) : ParseM Unit := do
  let block ← sndCalloc
  modifyData fun data => data.onCard fun c => { c with name := if block then some name else none }

/-- `snd_parse_card_properties`. -/
def sndParseCardProperties (tagName : CStr) : ParseM Unit := do
  let data ← getData
  if tagName = "id".toList then
    let card := toUnsigned (atoi data.dataBuf)
    if card = data.card then do
      let found ← sndParseInitializeCardDef
      if found then modifyData fun data => data.onCard fun c => { c with card := card }
      else pure ()
    else pure ()
  else if tagName = "name".toList then
    if data.curCardDef ≠ none then sndSetCardName data.dataBuf
    else
      match data.cardName with
      | none => pure ()
      | some cardName =>
          match (strtok data.dataBuf).find? fun token => cardName.isPrefixOf token with
          | none => pure ()
          | some token => do
              let found ← sndParseInitializeCardDef
              if found then sndSetCardName token else pure ()
  else pure ()

/-- `snd_parse_plugin_properties`. -/
def sndParsePluginProperties (tagName : CStr) : ParseM Unit := do
  let data ← getData
  if data.curDevDef = none then pure ()
  else if tagName = "so-name".toList then do
    let block ← sndCalloc
    modifyData fun d => d.onDev fun dev =>
      { dev with soName := if block then some data.dataBuf else none }
  else pure ()

/-- `snd_parse_device_properties`. -/
def sndParseDeviceProperties (tagName : CStr) : ParseM Unit := do
  let data ← getData
  if sndNodeTypeOf tagName ≠ none then pure ()
  else if data.curDevDef = none then pure ()
  else if tagName = "id".toList then
    modifyData fun d => d.onDev fun dev => { dev with device := toUnsigned (atoi data.dataBuf) }
  else if tagName = "name".toList then do
    let block ← sndCalloc
    modifyData fun d => d.onDev fun dev =>
      { dev with name := if block then some data.dataBuf else none }
  else pure ()

/-- `snd_parse_device_custom_properties`. -/
def sndParseDeviceCustomProperties (tagName : CStr) : ParseM Unit := do
  let data ← getData
  if tagName = "props".toList then pure ()
  else if data.curDevDef = none then pure ()
  else if data.dataBuf = [] ∨ tagName = [] then pure () else
  let pair ← sndCalloc
  if !pair then pure () else
  let prop ← sndCalloc
  if !prop then pure () else
  let val ← sndCalloc
  if !val then pure ()
  else modifyData fun d => d.onDev fun dev =>
    { dev with propValList := dev.propValList ++ [⟨tagName, data.dataBuf⟩] }

/-- `snd_process_data_buf`.  A text that did not fit the buffer has its length counted all the
same, and the terminator is written there. -/
def sndProcessDataBuf (tagName : CStr) : ParseM Unit := do
  let data ← getData
  if data.offs = 0 then pure ()
  else if BUF_SIZE ≤ data.offs then Prog.fault .outOfBounds
  else if data.cardParsed then pure ()
  else
    match data.currentTag with
    | .root => pure ()
    | .card => sndParseCardProperties tagName
    | .plugin => sndParsePluginProperties tagName
    | .device => sndParseDeviceProperties tagName
    | .devProps => sndParseDeviceCustomProperties tagName

/-- `snd_end_tag`. -/
def sndEndTag (tagName : CStr) : ParseM Unit := do
  let data ← getData
  if data.cardParsed then pure ()
  else if data.currentTag ≠ .card ∧ !data.cardFound then pure ()
  else do
    sndProcessDataBuf tagName
    sndResetDataBuf
    if sndNodeTypeOf tagName ≠ none then modifyData fun data => { data with currentTag := .card }
    else if strstr tagName "plugin".toList ∨ tagName = "props".toList then
      modifyData fun data => { data with currentTag := .device }
    else if tagName = "card".toList then
      modifyData fun data =>
        { data with currentTag := .root, cardParsed := data.cardParsed || data.cardFound }
    else pure ()

/-- `snd_data_handler`. -/
def sndDataHandler (s : CStr) : ParseM Unit :=
  modifyData fun data =>
    if BUF_SIZE ≤ s.length + data.offs then { data with offs := data.offs + s.length }
    else { data with dataBuf := data.dataBuf ++ s, offs := data.offs + s.length }

/-! ### A run of the parser -/

/-- The callbacks of expat. -/
inductive XmlEvent where
  | startTag (tagName : CStr)
  | endTag (tagName : CStr)
  | text (s : CStr)
deriving DecidableEq, Repr

def sndHandle : XmlEvent → ParseM Unit
  | .startTag tagName => sndStartTag tagName
  | .endTag tagName => sndEndTag tagName
  | .text s => sndDataHandler s

/-- The callbacks one after the other. -/
def sndParse (events : List XmlEvent) : ParseM Unit :=
  Prog.forAll (fun e _ => sndHandle e) events ()

/-- The callbacks of expat for an element with a text. -/
def xmlText (tagName s : CStr) : List XmlEvent := [.startTag tagName, .text s, .endTag tagName]

/-- The callbacks for a card with a number, a name and one pcm device. -/
def xmlCard (id name device : CStr) : List XmlEvent :=
  .startTag "card".toList :: xmlText "id".toList id ++ xmlText "name".toList name ++
    .startTag "pcm-device".toList :: xmlText "id".toList device ++
    [.endTag "pcm-device".toList, .endTag "card".toList]

end Agm
