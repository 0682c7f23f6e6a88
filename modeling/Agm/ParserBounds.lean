import Agm.SndParser

/-! # The text buffer of the parser (`snd-card-parser.c`)

`SndParser` works on the text of an element; here it is what lies in `data_buf`.  The data handler
counts a text also when it has no room for it, and at the next end tag the terminator is written at
the count.

* **Words.**  `offs` is a `size_t` of 64 bits; the sum that is compared with the size wraps.
* **Tags.**  What the tag handlers do besides is that of `SndParser`, on the text that the buffer holds.
* `received` and `handed` record the character data since the last tag and the texts that the
  parsers of the properties were called with.

`parserBounds_iff`: in which runs every access lies in the buffer. -/

namespace Agm

open Prog

def NUL : Char := Char.ofNat 0

/-- `struct xml_userdata`, with its buffer. -/
structure BufParser where
  parse : ParseState
  dataBuf : List Char := List.replicate BUF_SIZE NUL
  offs : ℕ := 0
  received : CStr := []
  handed : List CStr := []

abbrev BufM := Prog BufParser Crash

/-! ### The buffer -/

/-- `data_buf[i] = c`. -/
def writeBuf (i : ℕ) (c : Char) : BufM Unit := fun x =>
  if i < BUF_SIZE then .ok ((), { x with dataBuf := x.dataBuf.set i c }) else .error .outOfBounds

def setOffs (offs : ℕ) : BufM Unit := modify fun x => { x with offs }

/-- `memcpy` into the buffer. -/
def copyBuf : ℕ → CStr → BufM Unit
  | _, [] => pure ()
  | i, c :: s => do
      writeBuf i c
      copyBuf (i + 1) s

/-- The text in the buffer, up to its terminator. -/
def readBuf : BufM CStr := fun x =>
  if NUL ∈ x.dataBuf then .ok (x.dataBuf.takeWhile (· ≠ NUL), x) else .error .outOfBounds

/-- `snd_reset_data_buf`. -/
def bufResetDataBuf : BufM Unit := do
  setOffs 0
  writeBuf 0 NUL

/-- `snd_data_handler`. -/
def bufDataHandler (s : CStr) : BufM Unit := do
  let offs ← gets BufParser.offs
  if BUF_SIZE ≤ (s.length + offs) % 2 ^ 64 then setOffs ((offs + s.length) % 2 ^ 64)
  else do
    copyBuf offs s
    setOffs ((offs + s.length) % 2 ^ 64)

/-- `snd_process_data_buf`, up to the call of a parser of properties: the text it is called with. -/
def bufProcessDataBuf : BufM (Option CStr) := do
  let x ← gets id
  if x.offs = 0 then pure none
  else do
    writeBuf x.offs NUL
    if x.parse.data.cardParsed ∨ x.parse.data.currentTag = .root then pure none
    else do
      let text ← readBuf
      pure (some text)

/-! ### The handlers -/

def onParse (m : ParseM Unit) : BufM Unit :=
  zoom BufParser.parse (fun p x => { x with parse := p }) id m

/-- The parser with a text and its length. -/
def withText (text : CStr) (offs : ℕ) : ParseM Unit :=
  modifyData fun data => { data with dataBuf := text, offs }

/-- `snd_start_tag`. -/
def bufStartTag (tagName : CStr) : BufM Unit := do
  let data ← gets fun x => x.parse.data
  if data.cardParsed then pure ()
  else do
    bufResetDataBuf
    onParse (sndStartTag tagName)

/-- The tests at the start of `snd_end_tag` that leave the tag alone. -/
def XmlUserdata.Ignores (data : XmlUserdata) : Prop :=
  data.cardParsed = true ∨ data.currentTag ≠ .card ∧ data.cardFound = false

instance (data : XmlUserdata) : Decidable data.Ignores := inferInstanceAs (Decidable (_ ∨ _))

/-- `snd_end_tag`. -/
def bufEndTag (tagName : CStr) : BufM Unit := do
  let data ← gets fun x => x.parse.data
  if data.Ignores then pure ()
  else do
    let offs ← gets BufParser.offs
    let text ← bufProcessDataBuf
    modify fun x => { x with handed := x.handed ++ text.toList }
    onParse (do
      withText (text.getD []) offs
      sndEndTag tagName)
    bufResetDataBuf

def bufHandle : XmlEvent → BufM Unit
  | .startTag tagName => do
      bufStartTag tagName
      modify fun x => { x with received := [] }
  | .endTag tagName => do
      bufEndTag tagName
      modify fun x => { x with received := [] }
  | .text s => do
      bufDataHandler s
      modify fun x => { x with received := x.received ++ s }

/-! ### What is expected -/

/-- A callback writes into the buffer only, and hands over nothing but the character data since the
last tag. -/
def XmlEvent.Right (x : BufParser) (e : XmlEvent) : Prop :=
  Ensures noFault (bufHandle e) x fun _ x' =>
    x'.handed = x.handed ∨ x'.handed = x.handed ++ [x.received.takeWhile (· ≠ NUL)]

/-- At an end tag that is not ignored the count is below the size; a text does not make the count
wrap round to below the size. -/
def XmlEvent.Sound (x : BufParser) : XmlEvent → Prop
  | startTag _ => True
  | endTag _ => ¬ x.parse.data.Ignores → x.offs < BUF_SIZE
  | text s => (s.length + x.offs) % 2 ^ 64 < BUF_SIZE → s.length + x.offs < BUF_SIZE

/-- As long as the count is below the size, the buffer begins with the text since the last tag.  Where
tags are ignored the text goes on over them. -/
structure BufParser.Holds (x : BufParser) : Prop where
  length : x.dataBuf.length = BUF_SIZE
  offs : x.offs < 2 ^ 64
  text : ¬ x.parse.data.Ignores → x.offs < BUF_SIZE →
    x.received.length = x.offs ∧ x.dataBuf.take x.offs = x.received

/-! ### The handlers of properties do not fault -/

theorem sndCalloc_total : Total sndCalloc := fun _ => trivial

theorem getData_total : Total getData := fun _ => trivial

theorem modifyData_total (f : XmlUserdata → XmlUserdata) : Total (modifyData f) := fun _ => trivial

theorem sndDevDefInit_total (t : Option SndNodeType) : Total (sndDevDefInit t) := by
  apply total_bind getData_total
  intro data
  apply total_ite (total_pure _)
  cases t with
  | none => exact total_pure _
  | some t =>
      apply total_bind sndCalloc_total
      intro block
      exact total_ite (total_pure _) (modifyData_total _)

theorem sndStartTag_total (tagName : CStr) : Total (sndStartTag tagName) := by
  apply total_bind getData_total
  intro data
  apply total_ite (total_pure _)
  apply total_bind (modifyData_total _)
  intro _
  apply total_bind (total_ite (modifyData_total _) (total_pure _))
  intro _
  apply total_bind
  · apply total_ite (modifyData_total _)
    apply total_ite
    · apply total_bind (modifyData_total _)
      intro _
      exact modifyData_total _
    · exact total_ite (modifyData_total _) (total_pure _)
  intro _
  apply total_bind getData_total
  intro data
  exact total_ite (total_pure _) (sndDevDefInit_total _)

theorem sndParseInitializeCardDef_total : Total sndParseInitializeCardDef := by
  apply total_bind getData_total
  intro data
  apply total_ite (total_pure _)
  apply total_bind sndCalloc_total
  intro block
  apply total_ite (total_pure _)
  apply total_bind (modifyData_total _)
  intro _
  exact total_pure _

theorem sndSetCardName_total (name : CStr) : Total (sndSetCardName name) := by
  apply total_bind sndCalloc_total
  intro block
  exact modifyData_total _

theorem sndParseCardProperties_total (tagName : CStr) : Total (sndParseCardProperties tagName) := by
  apply total_bind getData_total
  intro data
  apply total_ite
  · apply total_ite _ (total_pure _)
    apply total_bind sndParseInitializeCardDef_total
    intro found
    exact total_ite (modifyData_total _) (total_pure _)
  · apply total_ite _ (total_pure _)
    apply total_ite (sndSetCardName_total _)
    cases data.cardName with
    | none => exact total_pure _
    | some name =>
        dsimp only
        cases (strtok data.dataBuf).find? fun token => name.isPrefixOf token with
        | none => exact total_pure _
        | some token =>
            apply total_bind sndParseInitializeCardDef_total
            intro found
            exact total_ite (sndSetCardName_total _) (total_pure _)

theorem sndParsePluginProperties_total (tagName : CStr) :
    Total (sndParsePluginProperties tagName) := by
  apply total_bind getData_total
  intro data
  apply total_ite (total_pure _)
  apply total_ite _ (total_pure _)
  apply total_bind sndCalloc_total
  intro block
  exact modifyData_total _

theorem sndParseDeviceProperties_total (tagName : CStr) :
    Total (sndParseDeviceProperties tagName) := by
  apply total_bind getData_total
  intro data
  apply total_ite (total_pure _)
  apply total_ite (total_pure _)
  apply total_ite (modifyData_total _)
  apply total_ite _ (total_pure _)
  apply total_bind sndCalloc_total
  intro block
  exact modifyData_total _

theorem sndParseDeviceCustomProperties_total (tagName : CStr) :
    Total (sndParseDeviceCustomProperties tagName) := by
  apply total_bind getData_total
  intro data
  apply total_ite (total_pure _)
  apply total_ite (total_pure _)
  apply total_ite (total_pure _)
  apply total_bind sndCalloc_total
  intro pair
  apply total_ite (total_pure _)
  apply total_bind sndCalloc_total
  intro prop
  apply total_ite (total_pure _)
  apply total_bind sndCalloc_total
  intro val
  exact total_ite (total_pure _) (modifyData_total _)

theorem sndProcessDataBuf_returns (tagName : CStr) {p : ParseState} (h : p.data.offs < BUF_SIZE) :
    Ensures noFault (sndProcessDataBuf tagName) p fun _ _ => True := by
  unfold sndProcessDataBuf
  rw [ensures_bind, getData, ensures_gets, ensures_ite]
  refine ⟨fun _ => total_pure () p, fun _ => ?_⟩
  rw [if_neg (not_le.mpr h), ensures_ite]
  refine ⟨fun _ => total_pure () p, fun _ => ?_⟩
  cases p.data.currentTag with
  | root => exact total_pure () p
  | card => exact sndParseCardProperties_total tagName p
  | plugin => exact sndParsePluginProperties_total tagName p
  | device => exact sndParseDeviceProperties_total tagName p
  | devProps => exact sndParseDeviceCustomProperties_total tagName p

theorem sndEndTag_returns (tagName text : CStr) {offs : ℕ} (h : offs < BUF_SIZE) (p : ParseState) :
    ∃ p', (do withText text offs; sndEndTag tagName : ParseM Unit) p = .ok ((), p') := by
  have hends : Ensures noFault (sndEndTag tagName)
      { p with data := { p.data with dataBuf := text, offs } } fun _ _ => True := by
    unfold sndEndTag
    rw [ensures_bind, getData, ensures_gets, ensures_ite]
    refine ⟨fun _ => trivial, fun _ => ?_⟩
    rw [ensures_ite]
    refine ⟨fun _ => trivial, fun _ => ?_⟩
    rw [ensures_bind]
    refine (sndProcessDataBuf_returns tagName h).imp fun _ p' _ => ?_
    rw [ensures_bind]
    refine (modifyData_total _ p').imp fun _ p'' _ => ?_
    refine total_ite (modifyData_total _) ?_ p''
    refine total_ite (modifyData_total _) ?_
    exact total_ite (modifyData_total _) (total_pure _)
  obtain ⟨_, p', hrun, -⟩ := hends.exists_ok
  exact ⟨p', hrun⟩

/-! ### Accesses -/

section accesses
variable {x : BufParser} {i : ℕ} {s : CStr}

theorem writeBuf_ok (h : i < BUF_SIZE) (c : Char) :
    writeBuf i c x = .ok ((), { x with dataBuf := x.dataBuf.set i c }) := if_pos h

theorem writeBuf_error (h : BUF_SIZE ≤ i) (c : Char) : writeBuf i c x = .error .outOfBounds :=
  if_neg (not_lt.mpr h)

theorem take_set_succ {l : List Char} (h : i < l.length) (c : Char) :
    (l.set i c).take (i + 1) = l.take i ++ [c] := by
  rw [List.set_eq_take_append_cons_drop, if_pos h]
  have hlen : (l.take i ++ [c]).length = i + 1 := by
    rw [List.length_append, List.length_take, Nat.min_eq_left h.le, List.length_singleton]
  rw [← List.singleton_append, ← List.append_assoc]
  exact List.take_left' hlen

/-- A text that fits is put behind what is there. -/
theorem copyBuf_ok (hlen : x.dataBuf.length = BUF_SIZE) (h : i + s.length ≤ BUF_SIZE) :
    ∃ buf, copyBuf i s x = .ok ((), { x with dataBuf := buf }) ∧ buf.length = BUF_SIZE ∧
      buf.take (i + s.length) = x.dataBuf.take i ++ s := by
  induction s generalizing i x with
  | nil => exact ⟨x.dataBuf, rfl, hlen, (List.append_nil _).symm⟩
  | cons c s ih =>
      rw [List.length_cons] at h
      obtain ⟨buf, hrun, hbuf, htake⟩ := ih (i := i + 1)
        (x := { x with dataBuf := x.dataBuf.set i c }) (by rw [List.length_set, hlen]) (by omega)
      refine ⟨buf, (bind_of_ok (writeBuf_ok (by omega) c)).trans hrun, hbuf, ?_⟩
      rw [List.length_cons, Nat.add_comm s.length 1, ← Nat.add_assoc, htake,
        take_set_succ (by omega), List.append_assoc, List.singleton_append]

/-- Any other copy leaves the buffer. -/
theorem copyBuf_error (hs : s ≠ []) (h : BUF_SIZE < i + s.length) :
    copyBuf i s x = .error .outOfBounds := by
  induction s generalizing i x with
  | nil => exact absurd rfl hs
  | cons c s ih =>
      rw [List.length_cons] at h
      rcases Nat.lt_or_ge i BUF_SIZE with hin | hout
      · refine (bind_of_ok (writeBuf_ok hin c)).trans (ih ?_ (by omega))
        rintro rfl
        rw [List.length_nil] at h
        omega
      · exact bind_of_error (writeBuf_error hout c)

/-- Behind a terminator nothing is read. -/
theorem takeWhile_set {l : List Char} (h : i < l.length) :
    (l.set i NUL).takeWhile (· ≠ NUL) = (l.take i).takeWhile (· ≠ NUL) := by
  have hnil : (NUL :: l.drop (i + 1)).takeWhile (· ≠ NUL) = [] :=
    List.takeWhile_cons_of_neg (by decide)
  rw [List.set_eq_take_append_cons_drop, if_pos h, List.takeWhile_append, hnil, List.append_nil]
  split_ifs with hall
  · exact (List.takeWhile_prefix _).eq_of_length hall |>.symm
  · rfl

theorem readBuf_ok (h : i < x.dataBuf.length) :
    readBuf { x with dataBuf := x.dataBuf.set i NUL } =
      .ok ((x.dataBuf.take i).takeWhile (· ≠ NUL), { x with dataBuf := x.dataBuf.set i NUL }) := by
  unfold readBuf
  dsimp only
  rw [if_pos (List.mem_set h NUL), takeWhile_set h]

theorem bufResetDataBuf_ok :
    bufResetDataBuf x = .ok ((), { x with offs := 0, dataBuf := x.dataBuf.set 0 NUL }) :=
  (bind_of_ok rfl).trans (writeBuf_ok (by decide) NUL)

end accesses

/-! ### The callbacks -/

section callbacks
variable {x : BufParser}

theorem onParse_ok {m : ParseM Unit} {p : ParseState} (h : m x.parse = .ok ((), p)) :
    onParse m x = .ok ((), { x with parse := p }) := by
  unfold onParse zoom
  rw [h]

/-- After a reset the buffer holds the text since the tag, which is empty. -/
theorem holds_reset (hlen : x.dataBuf.length = BUF_SIZE) (p : ParseState) (handed : List CStr) :
    BufParser.Holds ⟨p, x.dataBuf.set 0 NUL, 0, [], handed⟩ where
  length := by rw [List.length_set, hlen]
  offs := (by decide : 0 < 2 ^ 64)
  text _ _ := ⟨rfl, List.take_zero⟩

/-- A tag that is ignored. -/
theorem holds_ignored (hx : x.Holds) (h : x.parse.data.Ignores) :
    BufParser.Holds { x with received := [] } where
  length := hx.length
  offs := hx.offs
  text hn := absurd h hn

theorem startTag_run (hx : x.Holds) (tagName : CStr) :
    ∃ x', bufHandle (.startTag tagName) x = .ok ((), x') ∧ x'.Holds ∧ x'.handed = x.handed := by
  unfold bufHandle bufStartTag
  by_cases hparsed : x.parse.data.cardParsed
  · refine ⟨{ x with received := [] }, ?_, holds_ignored hx (.inl hparsed), rfl⟩
    refine (bind_of_ok (t := x) (a := ()) ?_).trans rfl
    rw [bind_gets, if_pos hparsed]
    rfl
  · obtain ⟨_, p, hp⟩ := (sndStartTag_total tagName).exists_ok x.parse
    refine ⟨⟨p, x.dataBuf.set 0 NUL, 0, [], x.handed⟩, ?_, holds_reset hx.length p _, rfl⟩
    refine (bind_of_ok (t := ⟨p, x.dataBuf.set 0 NUL, 0, x.received, x.handed⟩) (a := ()) ?_).trans
      rfl
    rw [bind_gets, if_neg hparsed, bind_of_ok bufResetDataBuf_ok]
    exact onParse_ok hp

/-- A text without room is counted, and not copied. -/
theorem text_dropped {s : CStr} (h : BUF_SIZE ≤ (s.length + x.offs) % 2 ^ 64) :
    bufHandle (.text s) x =
      .ok ((), { x with
        offs := (x.offs + s.length) % 2 ^ 64
        received := x.received ++ s }) := by
  refine (bind_of_ok (t := { x with offs := (x.offs + s.length) % 2 ^ 64 }) (a := ()) ?_).trans rfl
  unfold bufDataHandler
  rw [bind_gets, if_pos h]
  rfl

/-- At the next end tag its length is the place of the terminator. -/
theorem endTag_leaves (hn : ¬ x.parse.data.Ignores) (h : BUF_SIZE ≤ x.offs) (tagName : CStr) :
    bufHandle (.endTag tagName) x = .error .outOfBounds := by
  have hpos : x.offs ≠ 0 := fun h0 => absurd (h0 ▸ h) (by decide)
  have hproc : bufProcessDataBuf x = .error .outOfBounds := by
    unfold bufProcessDataBuf
    rw [bind_gets, id_eq, if_neg hpos]
    exact bind_of_error (writeBuf_error h NUL)
  unfold bufHandle bufEndTag
  refine bind_of_error ?_
  rw [bind_gets, if_neg hn, bind_gets]
  exact bind_of_error hproc

/-- A text callback stays in the buffer exactly if the count does not wrap round to below the size. -/
theorem text_cases (hx : x.Holds) (s : CStr) :
    (XmlEvent.text s).Sound x ∧ (∃ x', bufHandle (.text s) x = .ok ((), x') ∧ x'.Holds ∧
        x'.handed = x.handed ∧ x'.parse = x.parse) ∨
      ¬ (XmlEvent.text s).Sound x ∧ bufHandle (.text s) x = .error .outOfBounds := by
  have hwrap : (x.offs + s.length) % 2 ^ 64 < 2 ^ 64 := Nat.mod_lt _ (by decide)
  by_cases hdrop : BUF_SIZE ≤ (s.length + x.offs) % 2 ^ 64
  · refine .inl ⟨fun h => absurd h (not_lt.mpr hdrop), _, text_dropped hdrop,
      ⟨hx.length, hwrap, fun _ h => ?_⟩, rfl, rfl⟩
    rw [Nat.add_comm] at hdrop
    exact absurd h (not_lt.mpr hdrop)
  · unfold bufHandle bufDataHandler XmlEvent.Sound
    by_cases hfits : s.length + x.offs < BUF_SIZE
    · obtain ⟨buf, hrun, hbuf, htake⟩ := copyBuf_ok (s := s) (i := x.offs) hx.length (by omega)
      have hoffs : (x.offs + s.length) % 2 ^ 64 = x.offs + s.length :=
        Nat.mod_eq_of_lt (lt_of_lt_of_le (show x.offs + s.length < BUF_SIZE by omega) (by decide))
      refine .inl ⟨fun _ => hfits,
        { x with dataBuf := buf, offs := x.offs + s.length, received := x.received ++ s }, ?_,
        ⟨hbuf, hoffs ▸ hwrap, fun hn _ => ?_⟩, rfl, rfl⟩
      · refine (bind_of_ok (t := { x with dataBuf := buf, offs := x.offs + s.length }) (a := ())
          ?_).trans rfl
        rw [bind_gets, if_neg hdrop, bind_of_ok hrun, hoffs]
        rfl
      · obtain ⟨hlen, htext⟩ := hx.text hn (by omega)
        dsimp only
        rw [List.length_append, hlen, htake, htext]
        exact ⟨rfl, rfl⟩
    · refine .inr ⟨fun h => hfits (h (not_le.mp hdrop)), bind_of_error ?_⟩
      have hsize : BUF_SIZE = 1024 := rfl
      have hne : s ≠ [] := by
        rintro rfl
        have hoffs := hx.offs
        rw [List.length_nil, Nat.zero_add, Nat.mod_eq_of_lt hoffs] at hdrop
        rw [List.length_nil, Nat.zero_add] at hfits
        exact hdrop (not_lt.mp hfits)
      rw [bind_gets, if_neg hdrop]
      exact bind_of_error (copyBuf_error hne (by omega))

/-- The text that is handed over at an end tag. -/
theorem bufProcessDataBuf_ok (hx : x.Holds) (hn : ¬ x.parse.data.Ignores) (h : x.offs < BUF_SIZE) :
    ∃ text buf, bufProcessDataBuf x = .ok (text, { x with dataBuf := buf }) ∧
      buf.length = BUF_SIZE ∧ (text = none ∨ text = some (x.received.takeWhile (· ≠ NUL))) := by
  have hlen := hx.length
  unfold bufProcessDataBuf
  rw [bind_gets]
  dsimp only [id_eq]
  by_cases hzero : x.offs = 0
  · rw [if_pos hzero]
    exact ⟨none, x.dataBuf, rfl, hlen, .inl rfl⟩
  · rw [if_neg hzero, bind_of_ok (writeBuf_ok h NUL)]
    have hset : (x.dataBuf.set x.offs NUL).length = BUF_SIZE := by rw [List.length_set, hlen]
    split
    · exact ⟨none, _, rfl, hset, .inl rfl⟩
    · rw [bind_of_ok (readBuf_ok (by omega))]
      exact ⟨_, _, rfl, hset, .inr (by rw [(hx.text hn h).2])⟩

theorem endTag_cases (hx : x.Holds) (tagName : CStr) :
    (XmlEvent.endTag tagName).Sound x ∧ (∃ x', bufHandle (.endTag tagName) x = .ok ((), x') ∧
        x'.Holds ∧ (x'.handed = x.handed ∨
          x'.handed = x.handed ++ [x.received.takeWhile (· ≠ NUL)])) ∨
      ¬ (XmlEvent.endTag tagName).Sound x ∧
        bufHandle (.endTag tagName) x = .error .outOfBounds := by
  by_cases hn : x.parse.data.Ignores
  · refine .inl ⟨fun h => absurd hn h, { x with received := [] }, ?_, holds_ignored hx hn, .inl rfl⟩
    unfold bufHandle bufEndTag
    refine (bind_of_ok (t := x) (a := ()) ?_).trans rfl
    rw [bind_gets, if_pos hn]
    rfl
  · by_cases h : x.offs < BUF_SIZE
    · obtain ⟨text, buf, hrun, hbuf, htext⟩ := bufProcessDataBuf_ok hx hn h
      obtain ⟨p, hp⟩ := sndEndTag_returns tagName (text.getD []) h x.parse
      refine .inl ⟨fun _ => h, ⟨p, buf.set 0 NUL, 0, [], x.handed ++ text.toList⟩, ?_, ?_, ?_⟩
      · unfold bufHandle bufEndTag
        refine (bind_of_ok (t := ⟨p, buf.set 0 NUL, 0, x.received, x.handed ++ text.toList⟩)
          (a := ()) ?_).trans rfl
        rw [bind_gets, if_neg hn, bind_gets, bind_of_ok hrun, bind_modify]
        exact (bind_of_ok (onParse_ok
          (x := ⟨x.parse, buf, x.offs, x.received, x.handed ++ text.toList⟩) hp)).trans
          (bufResetDataBuf_ok (x := ⟨p, buf, x.offs, x.received, x.handed ++ text.toList⟩))
      · exact holds_reset (x := { x with dataBuf := buf }) hbuf p _
      · rcases htext with rfl | rfl
        · exact .inl (List.append_nil _)
        · exact .inr rfl
    · exact .inr ⟨fun hs => h (hs hn), endTag_leaves hn (not_lt.mp h) tagName⟩

/-- A callback runs as expected if it is sound, and out of the buffer otherwise. -/
theorem XmlEvent.run_cases (hx : x.Holds) (e : XmlEvent) :
    e.Sound x ∧ (∃ x', bufHandle e x = .ok ((), x') ∧ x'.Holds ∧ (x'.handed = x.handed ∨
        x'.handed = x.handed ++ [x.received.takeWhile (· ≠ NUL)])) ∨
      ¬ e.Sound x ∧ bufHandle e x = .error .outOfBounds := by
  cases e with
  | startTag tagName =>
      obtain ⟨x', hrun, hx', hhanded⟩ := startTag_run hx tagName
      exact .inl ⟨trivial, x', hrun, hx', .inl hhanded⟩
  | endTag tagName => exact endTag_cases hx tagName
  | text s =>
      rcases text_cases hx s with ⟨hs, x', hrun, hx', hhanded, -⟩ | h
      · exact .inl ⟨hs, x', hrun, hx', .inl hhanded⟩
      · exact .inr h

theorem XmlEvent.right_iff (hx : x.Holds) (e : XmlEvent) : e.Right x ↔ e.Sound x := by
  unfold XmlEvent.Right
  rcases e.run_cases hx with ⟨hs, x', hrun, -, hhanded⟩ | ⟨hs, hrun⟩
  · rw [ensures_iff_of_ok hrun]
    exact iff_of_true hhanded hs
  · refine iff_of_false (fun h => ?_) hs
    unfold Ensures at h
    rw [hrun] at h
    exact h

theorem XmlEvent.run_holds (hx : x.Holds) {e : XmlEvent} (hs : e.Sound x) :
    Ensures anyFault (bufHandle e) x fun _ x' => x'.Holds := by
  rcases e.run_cases hx with ⟨-, x', hrun, hx', -⟩ | ⟨hn, -⟩
  · rw [ensures_iff_of_ok hrun]
    exact hx'
  · exact absurd hs hn

end callbacks

/-! ### Runs -/

/-- The parser for a request, `card_data` cleared and filled in. -/
def BufParser.start (card : ℕ) (cardName : Option CStr) (mem : List Bool) : BufParser where
  parse := { data := { card, cardName }, mem }

theorem BufParser.holds_start (card : ℕ) (cardName : Option CStr) (mem : List Bool) :
    (BufParser.start card cardName mem).Holds where
  length := List.length_replicate
  offs := (by decide : 0 < 2 ^ 64)
  text _ _ := ⟨rfl, List.take_zero⟩

/-- In every run the callbacks stay inside the buffer, and hand over only the text since the last
tag, exactly if the text before each end tag that is not ignored is shorter than the buffer (and
no count of 2^64 wraps round). -/
theorem parserBounds_iff (card : ℕ) (cardName : Option CStr) (mem : List Bool)
    (events : List XmlEvent) :
    Admits bufHandle (fun x e => e.Right x) events (.start card cardName mem) ↔
      Admits bufHandle (fun x e => e.Sound x) events (.start card cardName mem) :=
  admits_congr (I := BufParser.Holds) bufHandle (fun _ e hx => e.right_iff hx)
    (fun _ e hx hr => XmlEvent.run_holds hx ((e.right_iff hx).mp hr)) events _
    (BufParser.holds_start card cardName mem)

/-- A text of the size of the buffer or more: the terminator is written behind the buffer. -/
theorem long_text_leaves {s : CStr} (hlong : BUF_SIZE ≤ s.length) (hlt : s.length < 2 ^ 64)
    (tagName : CStr) :
    ¬ Admits bufHandle (fun x e => e.Right x)
      [.startTag "card".toList, .text s, .endTag tagName] (.start 0 none []) := by
  rintro ⟨-, hrest⟩
  have hstart : bufHandle (.startTag "card".toList) (.start 0 none []) =
      .ok ((), ⟨⟨{ card := 0, cardName := none, currentTag := .card }, []⟩,
        (List.replicate BUF_SIZE NUL).set 0 NUL, 0, [], []⟩) := rfl
  rw [hstart] at hrest
  obtain ⟨-, hrest⟩ := hrest
  rw [text_dropped (by rwa [Nat.add_zero, Nat.mod_eq_of_lt hlt])] at hrest
  obtain ⟨hend, -⟩ := hrest
  unfold XmlEvent.Right Ensures at hend
  have hcard : ¬ XmlUserdata.Ignores { card := 0, cardName := none, currentTag := .card } := by
    decide
  rw [endTag_leaves hcard (by rwa [Nat.zero_add, Nat.mod_eq_of_lt hlt])] at hend
  exact hend

theorem parser_leaves_buffer :
    ¬ Admits bufHandle (fun x e => e.Right x)
      [.startTag "card".toList, .text (List.replicate 1024 'a'), .endTag "id".toList]
      (.start 0 none []) :=
  long_text_leaves (by rw [List.length_replicate]; exact le_rfl)
    (by rw [List.length_replicate]; decide) _

end Agm
