import Agm.SndCards
import Agm.Lib.Moves

/-! # Reference counts of card definitions

`refcnt` counts the users of a cached definition.  `CardRun` runs `snd_card_def_get_card` and
`snd_card_def_put_card` and keeps two records that the code does not have: how often each
definition was returned and put back, and the element of the file by which its card was taken.

* `Counted`: the counts of the code are those of the record, and a definition is cached exactly
  while its count is positive.
* `Asked`: the definition that is returned is one of the card that was asked for: the element says
  so, or its name does.

`refcnt_counts`: both hold along every run in which no parse fails while a definition is cached, no
request by number meets a definition that was found by its name, and no request by name comes to a
card with the number that stands for none. -/

namespace Agm

open Prog

/-! ### What a parser finds -/

/-- What a parser looks for. -/
def ParseState.request (p : ParseState) : CardRequest := ⟨p.data.cardName, p.data.card⟩

/-- The number and the count of the definition that a parser has made. -/
def ParseState.made (p : ParseState) : Option (ℕ × ℤ) :=
  p.data.curCardDef.map fun c => (c.card, c.refcnt)

/-- The step leaves what is looked for, and the number and the count of the definition. -/
structure CardKept (p p' : ParseState) : Prop where
  request : p'.request = p.request
  made : p'.made = p.made

instance : IsPreorder ParseState CardKept where
  refl _ := ⟨rfl, rfl⟩
  trans _ _ _ h h' := ⟨h'.request.trans h.request, h'.made.trans h.made⟩

theorem sndCalloc_keeps : Moves CardKept sndCalloc := fun _ => ⟨rfl, rfl⟩

theorem modifyData_keeps {f : XmlUserdata → XmlUserdata}
    (hf : ∀ data, (f data).card = data.card ∧ (f data).cardName = data.cardName ∧
      (f data).curCardDef.map (fun c => (c.card, c.refcnt)) =
        data.curCardDef.map fun c => (c.card, c.refcnt)) : Moves CardKept (modifyData f) := by
  intro p
  obtain ⟨hc, hn, hm⟩ := hf p.data
  refine ⟨?_, hm⟩
  unfold ParseState.request
  dsimp only
  rw [hc, hn]

/-- Fields other than the current card. -/
theorem modifyData_keeps_of_eq {f : XmlUserdata → XmlUserdata}
    (hf : ∀ data, (f data).card = data.card ∧ (f data).cardName = data.cardName ∧
      (f data).curCardDef = data.curCardDef) : Moves CardKept (modifyData f) := by
  apply modifyData_keeps
  intro data
  obtain ⟨hc, hn, hd⟩ := hf data
  exact ⟨hc, hn, by rw [hd]⟩

theorem setDevs_card (c : SndDevDefCard) (l : List SndDevDef) (t : SndNodeType) :
    (c.setDevs l t).card = c.card ∧ (c.setDevs l t).refcnt = c.refcnt := by
  cases t <;> exact ⟨rfl, rfl⟩

/-- Fields of the current card other than its number and its count. -/
theorem onCard_keeps {f : SndDevDefCard → SndDevDefCard}
    (hf : ∀ c, (f c).card = c.card ∧ (f c).refcnt = c.refcnt) (data : XmlUserdata) :
    (data.onCard f).card = data.card ∧ (data.onCard f).cardName = data.cardName ∧
      (data.onCard f).curCardDef.map (fun c => (c.card, c.refcnt)) =
        data.curCardDef.map fun c => (c.card, c.refcnt) := by
  refine ⟨rfl, rfl, ?_⟩
  show (data.curCardDef.map f).map _ = _
  rw [Option.map_map]
  congr 1
  funext c
  exact Prod.ext (hf c).1 (hf c).2

theorem onDev_keeps (f : SndDevDef → SndDevDef) :
    Moves CardKept (modifyData fun data => data.onDev f) := by
  apply modifyData_keeps
  intro data
  unfold XmlUserdata.onDev
  cases data.curDevDef with
  | none => exact ⟨rfl, rfl, rfl⟩
  | some t => exact onCard_keeps (fun c => setDevs_card c _ t) data

theorem sndResetDataBuf_keeps : Moves CardKept sndResetDataBuf :=
  modifyData_keeps_of_eq fun _ => ⟨rfl, rfl, rfl⟩

theorem setTag_keeps (tag : SndTag) :
    Moves CardKept (modifyData fun data => { data with currentTag := tag }) :=
  modifyData_keeps_of_eq fun _ => ⟨rfl, rfl, rfl⟩

theorem sndDevDefInit_keeps (t : Option SndNodeType) : Moves CardKept (sndDevDefInit t) := by
  apply moves_bind (moves_gets _)
  intro data
  apply moves_ite (moves_pure _)
  cases t with
  | none => exact moves_pure _
  | some t =>
      apply moves_bind sndCalloc_keeps
      intro block
      apply moves_ite (moves_pure _)
      exact modifyData_keeps fun data => onCard_keeps (fun c => setDevs_card c _ t) data

theorem sndStartTag_keeps (tagName : CStr) : Moves CardKept (sndStartTag tagName) := by
  apply moves_bind (moves_gets _)
  intro data
  apply moves_ite (moves_pure _)
  apply moves_bind sndResetDataBuf_keeps
  intro _
  apply moves_bind (moves_ite (setTag_keeps _) (moves_pure _))
  intro _
  apply moves_bind
  · apply moves_ite (setTag_keeps _)
    apply moves_ite
    · apply moves_bind (onDev_keeps _)
      intro _
      exact setTag_keeps _
    · exact moves_ite (setTag_keeps _) (moves_pure _)
  intro _
  apply moves_bind (moves_gets _)
  intro data
  exact moves_ite (moves_pure _) (sndDevDefInit_keeps _)

theorem sndSetCardName_keeps (name : CStr) : Moves CardKept (sndSetCardName name) := by
  apply moves_bind sndCalloc_keeps
  intro block
  apply modifyData_keeps
  intro data
  apply onCard_keeps
  intro c
  exact ⟨rfl, rfl⟩

theorem sndParsePluginProperties_keeps (tagName : CStr) :
    Moves CardKept (sndParsePluginProperties tagName) := by
  apply moves_bind (moves_gets _)
  intro data
  apply moves_ite (moves_pure _)
  apply moves_ite _ (moves_pure _)
  apply moves_bind sndCalloc_keeps
  intro block
  exact onDev_keeps _

theorem sndParseDeviceProperties_keeps (tagName : CStr) :
    Moves CardKept (sndParseDeviceProperties tagName) := by
  apply moves_bind (moves_gets _)
  intro data
  apply moves_ite (moves_pure _)
  apply moves_ite (moves_pure _)
  apply moves_ite (onDev_keeps _)
  apply moves_ite _ (moves_pure _)
  apply moves_bind sndCalloc_keeps
  intro block
  exact onDev_keeps _

theorem sndParseDeviceCustomProperties_keeps (tagName : CStr) :
    Moves CardKept (sndParseDeviceCustomProperties tagName) := by
  apply moves_bind (moves_gets _)
  intro data
  apply moves_ite (moves_pure _)
  apply moves_ite (moves_pure _)
  apply moves_ite (moves_pure _)
  apply moves_bind sndCalloc_keeps
  intro pair
  apply moves_ite (moves_pure _)
  apply moves_bind sndCalloc_keeps
  intro prop
  apply moves_ite (moves_pure _)
  apply moves_bind sndCalloc_keeps
  intro val
  exact moves_ite (moves_pure _) (onDev_keeps _)

/-! ### The card that is taken -/

/-- An element of a card, with this tag and this text, says that it is the card of the request: one
that is asked for by its number has it for its id, and in the name of one that is asked for by its
name there is a token that begins with it. -/
def CardRequest.Identifies (req : CardRequest) (label : CStr × CStr) : Prop :=
  match req.name with
  | none => label.1 = "id".toList ∧ toUnsigned (atoi label.2) = req.card
  | some n => label.1 = "name".toList ∧ ∃ token ∈ strtok label.2, n.isPrefixOf token = true

/-- A definition without users, made at the end of an element: of an id with the number of the
request, which is then its number, or of a name by which the card is asked for. -/
structure CardRequest.TakenBy (req : CardRequest) (label : CStr × CStr) (made : ℕ × ℤ) : Prop where
  refcnt : made.2 = 0
  byId : label.1 = "id".toList → toUnsigned (atoi label.2) = req.card ∧ made.1 = req.card
  byName : label.1 ≠ "id".toList → req.name ≠ none ∧ req.Identifies label

/-- What is made for an id identifies a card that is asked for by its number. -/
theorem CardRequest.TakenBy.identifies {req : CardRequest} {label : CStr × CStr} {made : ℕ × ℤ}
    (h : req.TakenBy label made) (hid : req.name ≠ none → label.1 ≠ "id".toList) :
    req.Identifies label := by
  by_cases hlabel : label.1 = "id".toList
  · have hname : req.name = none := not_not.mp fun hne => hid hne hlabel
    unfold CardRequest.Identifies
    rw [hname]
    exact ⟨hlabel, (h.byId hlabel).1⟩
  · exact (h.byName hlabel).2

/-- What the end of an element does: the definition stays, but for its number, which may become the
one that is looked for; or a definition is made, in a card, for this element. -/
structure CardTaken (tagName : CStr) (p p' : ParseState) : Prop where
  request : p'.request = p.request
  old : ∀ m ∈ p.made, ∃ k, (k = m.1 ∨ k = p.data.card) ∧ p'.made = some (k, m.2)
  new : p.made = none → ∀ m ∈ p'.made,
    p.data.currentTag = .card ∧ p.request.TakenBy (tagName, p.data.dataBuf) m

section taken
variable {tagName : CStr} {p p' p'' : ParseState}

theorem CardKept.taken (h : CardKept p p') : CardTaken tagName p p' where
  request := h.request
  old m hm := ⟨m.1, .inl rfl, h.made.trans hm⟩
  new hnone m hm := by
    rw [h.made, hnone] at hm
    cases hm

theorem CardTaken.kept (h : CardTaken tagName p p') (h' : CardKept p' p'') :
    CardTaken tagName p p'' where
  request := h'.request.trans h.request
  old m hm := by
    obtain ⟨k, hk, hmade⟩ := h.old m hm
    exact ⟨k, hk, h'.made.trans hmade⟩
  new hnone m hm := h.new hnone m (h'.made ▸ hm)

/-- Whether there is a definition, a new one without a number. -/
theorem sndParseInitializeCardDef_ensures (p : ParseState) :
    Ensures anyFault sndParseInitializeCardDef p fun found p' =>
      p'.request = p.request ∧ p'.made = if found then some (p.made.getD (0, 0)) else p.made := by
  unfold sndParseInitializeCardDef
  rw [ensures_bind, getData, ensures_gets, ensures_ite]
  refine ⟨fun hsome => ⟨rfl, ?_⟩, fun hnone => ?_⟩
  · obtain ⟨c, hc⟩ := Option.ne_none_iff_exists'.mp hsome
    unfold ParseState.made
    rw [hc]
    rfl
  rw [ensures_bind]
  show Ensures anyFault (if !p.mem.headD true then pure false else _)
    ({ p with mem := p.mem.tail } : ParseState) _
  rw [ensures_ite]
  refine ⟨fun _ => ⟨rfl, rfl⟩, fun _ => ⟨rfl, ?_⟩⟩
  unfold ParseState.made
  rw [not_not.mp hnone]
  rfl

/-- The end of an id with the number that is looked for. -/
theorem CardTaken.byId (hid : tagName = "id".toList) (htag : p.data.currentTag = .card)
    (hcard : toUnsigned (atoi p.data.dataBuf) = p.data.card) (hrequest : p'.request = p.request)
    (hmade : p'.made = some (p.data.card, (p.made.getD (0, 0)).2)) : CardTaken tagName p p' where
  request := hrequest
  old m hm := by
    refine ⟨p.data.card, .inr rfl, ?_⟩
    rw [hmade, hm]
    rfl
  new hnone m hm := by
    rw [hmade, hnone] at hm
    obtain rfl := Option.some.inj hm
    exact ⟨htag, rfl, fun _ => ⟨hcard, rfl⟩, fun h => absurd hid h⟩

/-- The end of a name with a token that begins with what is looked for. -/
theorem CardTaken.byName {n token : CStr} (hname : tagName = "name".toList)
    (htag : p.data.currentTag = .card) (hlook : p.data.cardName = some n)
    (htoken : token ∈ strtok p.data.dataBuf) (hbegins : n.isPrefixOf token = true)
    (hrequest : p'.request = p.request) (hmade : p'.made = some (p.made.getD (0, 0))) :
    CardTaken tagName p p' where
  request := hrequest
  old m hm := by
    refine ⟨m.1, .inl rfl, ?_⟩
    rw [hmade, hm]
    rfl
  new hnone m hm := by
    rw [hmade, hnone] at hm
    obtain rfl := Option.some.inj hm
    have hne : tagName ≠ "id".toList := by
      rw [hname]
      decide
    refine ⟨htag, rfl, fun h => absurd h hne, fun _ => ⟨?_, ?_⟩⟩
    · exact fun h => Option.some_ne_none n (hlook.symm.trans h)
    · unfold CardRequest.Identifies ParseState.request
      rw [hlook]
      exact ⟨hname, token, htoken, hbegins⟩

/-- The one handler that makes a card definition. -/
theorem sndParseCardProperties_taken (tagName : CStr) (htag : p.data.currentTag = .card) :
    Ensures anyFault (sndParseCardProperties tagName) p fun _ p' => CardTaken tagName p p' := by
  have hstays : CardTaken tagName p p := CardKept.taken ⟨rfl, rfl⟩
  unfold sndParseCardProperties
  rw [ensures_bind, getData, ensures_gets, ensures_ite]
  refine ⟨fun hid => ?_, fun _ => ?_⟩
  · dsimp only
    rw [ensures_ite]
    refine ⟨fun hcard => ?_, fun _ => hstays⟩
    rw [ensures_bind]
    refine (sndParseInitializeCardDef_ensures p).imp ?_
    rintro found p' ⟨hrequest, hmade⟩
    rw [ensures_ite]
    refine ⟨fun hfound => ?_, fun hfound => ?_⟩
    · rw [if_pos hfound] at hmade
      refine CardTaken.byId hid htag hcard hrequest ?_
      show (p'.data.curCardDef.map _).map _ = _
      obtain ⟨c, hc, hkey⟩ := Option.map_eq_some_iff.mp hmade
      rw [hc, ← hkey, ← hcard]
      rfl
    · rw [if_neg hfound] at hmade
      exact CardKept.taken ⟨hrequest, hmade⟩
  · rw [ensures_ite]
    refine ⟨fun htagName => ?_, fun _ => hstays⟩
    rw [ensures_ite]
    refine ⟨fun _ => (sndSetCardName_keeps _ p).imp fun _ _ h => h.taken, fun _ => ?_⟩
    cases hname : p.data.cardName with
    | none => exact hstays
    | some n =>
        dsimp only
        cases hfind : (strtok p.data.dataBuf).find? fun token => n.isPrefixOf token with
        | none => exact hstays
        | some token =>
            have hbegins : n.isPrefixOf token = true := by simpa using List.find?_some hfind
            dsimp only
            rw [ensures_bind]
            refine (sndParseInitializeCardDef_ensures p).imp ?_
            rintro found p' ⟨hrequest, hmade⟩
            rw [ensures_ite]
            refine ⟨fun hfound => ?_, fun hfound => ?_⟩
            · rw [if_pos hfound] at hmade
              exact (sndSetCardName_keeps token p').imp fun _ _ h => CardTaken.kept
                (.byName htagName htag hname (List.mem_of_find?_eq_some hfind) hbegins hrequest
                  hmade) h
            · rw [if_neg hfound] at hmade
              exact CardKept.taken ⟨hrequest, hmade⟩

theorem sndProcessDataBuf_taken (tagName : CStr) (p : ParseState) :
    Ensures anyFault (sndProcessDataBuf tagName) p fun _ p' => CardTaken tagName p p' := by
  have hstays : CardTaken tagName p p := CardKept.taken ⟨rfl, rfl⟩
  have hkept : ∀ {m : ParseM Unit}, Moves CardKept m →
      Ensures anyFault m p fun _ p' => CardTaken tagName p p' :=
    fun hm => (hm p).imp fun _ _ h => h.taken
  unfold sndProcessDataBuf
  rw [ensures_bind, getData, ensures_gets, ensures_ite]
  refine ⟨fun _ => hstays, fun _ => ?_⟩
  rw [ensures_ite]
  refine ⟨fun _ => trivial, fun _ => ?_⟩
  rw [ensures_ite]
  refine ⟨fun _ => hstays, fun _ => ?_⟩
  cases htag : p.data.currentTag with
  | root => exact hstays
  | card => exact sndParseCardProperties_taken tagName htag
  | plugin => exact hkept (sndParsePluginProperties_keeps tagName)
  | device => exact hkept (sndParseDeviceProperties_keeps tagName)
  | devProps => exact hkept (sndParseDeviceCustomProperties_keeps tagName)

theorem sndEndTag_taken (tagName : CStr) (p : ParseState) :
    Ensures anyFault (sndEndTag tagName) p fun _ p' => CardTaken tagName p p' := by
  have hstays : CardTaken tagName p p := CardKept.taken ⟨rfl, rfl⟩
  unfold sndEndTag
  rw [ensures_bind, getData, ensures_gets, ensures_ite]
  refine ⟨fun _ => hstays, fun _ => ?_⟩
  rw [ensures_ite]
  refine ⟨fun _ => hstays, fun _ => ?_⟩
  rw [ensures_bind]
  refine (sndProcessDataBuf_taken tagName p).imp fun _ p₁ htaken => ?_
  have hrest : Moves CardKept (do
      sndResetDataBuf
      if sndNodeTypeOf tagName ≠ none then modifyData fun data => { data with currentTag := .card }
      else if strstr tagName "plugin".toList ∨ tagName = "props".toList then
        modifyData fun data => { data with currentTag := .device }
      else if tagName = "card".toList then
        modifyData fun data =>
          { data with currentTag := .root, cardParsed := data.cardParsed || data.cardFound }
      else pure ()) := by
    apply moves_bind sndResetDataBuf_keeps
    intro _
    apply moves_ite (setTag_keeps _)
    apply moves_ite (setTag_keeps _)
    apply moves_ite _ (moves_pure _)
    exact modifyData_keeps_of_eq fun _ => ⟨rfl, rfl, rfl⟩
  exact (hrest p₁).imp fun _ _ h => htaken.kept h

theorem sndDataHandler_keeps (s : CStr) : Moves CardKept (sndDataHandler s) := by
  apply modifyData_keeps_of_eq
  intro data
  split_ifs
  · exact ⟨rfl, rfl, rfl⟩
  · exact ⟨rfl, rfl, rfl⟩

/-- Only the end of an element makes a definition. -/
theorem sndHandle_taken (e : XmlEvent) (p : ParseState) : Ensures anyFault (sndHandle e) p
    fun _ p' => CardKept p p' ∨ ∃ tagName, e = .endTag tagName ∧ CardTaken tagName p p' := by
  cases e with
  | startTag tagName => exact (sndStartTag_keeps tagName p).imp fun _ _ h => .inl h
  | endTag tagName => exact (sndEndTag_taken tagName p).imp fun _ _ h => .inr ⟨tagName, rfl, h⟩
  | text s => exact (sndDataHandler_keeps s p).imp fun _ _ h => .inl h

end taken

/-- The state in which a parser starts. -/
def CardRequest.start (req : CardRequest) (mem : List Bool) : ParseState :=
  ⟨{ card := req.card, cardName := req.name }, mem⟩

/-- The element at whose end a parser makes its definition. -/
def cardLabel : List XmlEvent → ParseState → Option (CStr × CStr)
  | [], _ => none
  | e :: es, p =>
      match sndHandle e p with
      | .error _ => none
      | .ok (_, p') =>
          match e, p'.made with
          | .endTag tagName, some _ => some (tagName, p.data.dataBuf)
          | _, _ => cardLabel es p'

/-- Before it has a definition a parser comes to the end of an id, in a card, that is `UINT_MAX`. -/
def meetsMax : List XmlEvent → ParseState → Bool
  | [], _ => false
  | e :: es, p =>
      decide (e = .endTag "id".toList ∧ p.data.currentTag = .card ∧
        toUnsigned (atoi p.data.dataBuf) = UINT_MAX) ||
      match sndHandle e p with
      | .error _ => false
      | .ok (_, p') => !p'.made.isSome && meetsMax es p'

section label
variable {req : CardRequest}

theorem sndParse_cons_ok {e : XmlEvent} {es : List XmlEvent} {p p' : ParseState}
    (h : sndParse (e :: es) p = .ok ((), p')) :
    ∃ p₁, sndHandle e p = .ok ((), p₁) ∧ sndParse es p₁ = .ok ((), p') := by
  change (sndHandle e >>= fun _ => sndParse es) p = _ at h
  cases h₁ : sndHandle e p with
  | error f =>
      rw [bind_of_error h₁] at h
      cases h
  | ok r =>
      rw [bind_of_ok h₁] at h
      exact ⟨r.2, rfl, h⟩

/-- A definition stays one that was made for its element. -/
theorem CardRequest.TakenBy.parse {label : CStr × CStr} {es : List XmlEvent} {p p' : ParseState}
    (hreq : p.request = req) {m : ℕ × ℤ} (hm : p.made = some m) (h : req.TakenBy label m)
    (hparse : sndParse es p = .ok ((), p')) : ∃ m', p'.made = some m' ∧ req.TakenBy label m' := by
  induction es generalizing p m with
  | nil =>
      cases hparse
      exact ⟨m, hm, h⟩
  | cons e es ih =>
      obtain ⟨p₁, h₁, hrest⟩ := sndParse_cons_ok hparse
      rcases (sndHandle_taken e p).of_ok h₁ with hkept | ⟨tagName, -, htaken⟩
      · exact ih (hkept.request.trans hreq) (hkept.made.trans hm) h hrest
      · obtain ⟨k, hk, hmade⟩ := htaken.old m hm
        refine ih (htaken.request.trans hreq) hmade ⟨h.refcnt, fun hid => ?_, h.byName⟩ hrest
        obtain ⟨hnumber, hcard⟩ := h.byId hid
        refine ⟨hnumber, ?_⟩
        rcases hk with rfl | rfl
        · exact hcard
        · rw [← hreq]
          rfl

/-- What a parser makes it makes for its label. -/
theorem sndParse_takenBy {es : List XmlEvent} {p p' : ParseState} (hreq : p.request = req)
    (hnone : p.made = none) (hparse : sndParse es p = .ok ((), p')) {m : ℕ × ℤ}
    (hm : p'.made = some m) : ∃ label, cardLabel es p = some label ∧ req.TakenBy label m ∧
      (label.1 = "id".toList → req.card = UINT_MAX → meetsMax es p = true) := by
  induction es generalizing p with
  | nil =>
      cases hparse
      rw [hnone] at hm
      cases hm
  | cons e es ih =>
      obtain ⟨p₁, h₁, hrest⟩ := sndParse_cons_ok hparse
      unfold cardLabel meetsMax
      rw [h₁]
      dsimp only
      have hstep := (sndHandle_taken e p).of_ok h₁
      have hreq₁ : p₁.request = req := by
        rcases hstep with hkept | ⟨_, -, htaken⟩
        · exact hkept.request.trans hreq
        · exact htaken.request.trans hreq
      cases hmade : p₁.made with
      | none =>
          obtain ⟨label, hlabel, htaken, hmax⟩ := ih hreq₁ hmade hrest
          refine ⟨label, ?_, htaken, fun hid hcard => ?_⟩
          · cases e <;> exact hlabel
          · rw [hmax hid hcard]
            simp
      | some m₁ =>
          rcases hstep with hkept | ⟨tagName, rfl, htaken⟩
          · rw [hkept.made, hnone] at hmade
            cases hmade
          obtain ⟨htag, hby⟩ := htaken.new hnone m₁ hmade
          rw [hreq] at hby
          obtain ⟨m', hm', hby'⟩ := hby.parse hreq₁ hmade hrest
          obtain rfl := Option.some.inj (hm'.symm.trans hm)
          refine ⟨(tagName, p.data.dataBuf), rfl, hby', fun hid hcard => ?_⟩
          have hnumber := (hby.byId hid).1.trans hcard
          rw [Bool.or_eq_true]
          exact .inl (decide_eq_true ⟨congrArg XmlEvent.endTag hid, htag, hnumber⟩)

end label

/-- What the XML gives for a request was made for its label. -/
theorem sndParseCard_takenBy {req : CardRequest} {events : List XmlEvent} {mem : List Bool}
    {c : SndDevDefCard} (h : sndParseCard req events mem = .ok (some c)) :
    ∃ label, cardLabel events (req.start mem) = some label ∧
      req.TakenBy label (c.card, c.refcnt) ∧
      (label.1 = "id".toList → req.card = UINT_MAX → meetsMax events (req.start mem) = true) := by
  unfold sndParseCard at h
  cases hrun : sndParse events ⟨{ card := req.card, cardName := req.name }, mem⟩ with
  | error f =>
      rw [hrun] at h
      cases h
  | ok r =>
      rw [hrun] at h
      refine sndParse_takenBy (p := req.start mem) rfl rfl hrun ?_
      unfold ParseState.made
      rw [Except.ok.inj h]
      rfl

/-- It has no user yet. -/
theorem sndParseCard_refcnt {req : CardRequest} {events : List XmlEvent} {mem : List Bool}
    {c : SndDevDefCard} (h : sndParseCard req events mem = .ok (some c)) : c.refcnt = 0 := by
  obtain ⟨_, -, htaken, -⟩ := sndParseCard_takenBy h
  exact htaken.refcnt

/-! ### Looking in the cache -/

/-- The definition passes the test of the loop over the cache. -/
def CardRequest.fits (req : CardRequest) (c : SndDevDefCard) : Bool :=
  match req.name with
  | none => decide (c.card = req.card)
  | some n =>
      match c.name with
      | none => false
      | some name => n.isPrefixOf name

theorem sndFindCard_find (req : CardRequest) (nodes : List (ℕ × SndDevDefCard)) (g : SndState) :
    Ensures anyFault (sndFindCard req nodes) g fun hit g' =>
      g' = g ∧ hit = nodes.find? fun node => req.fits node.2 := by
  induction nodes with
  | nil => exact ⟨rfl, rfl⟩
  | cons node nodes ih =>
      have hmatch : Ensures anyFault (sndCardMatches req node.2) g fun b g' =>
          b = req.fits node.2 ∧ g' = g := by
        unfold sndCardMatches CardRequest.fits
        cases req.name with
        | none => exact ⟨rfl, rfl⟩
        | some n =>
            cases node.2.name with
            | none => exact trivial
            | some name => exact ⟨rfl, rfl⟩
      unfold sndFindCard
      rw [ensures_bind]
      refine hmatch.imp ?_
      rintro found _ ⟨rfl, rfl⟩
      rw [ensures_ite]
      refine ⟨fun h => ⟨rfl, ?_⟩, fun h => ?_⟩
      · exact (List.find?_cons_of_pos (p := fun node : ℕ × SndDevDefCard => req.fits node.2) h).symm
      · refine ih.imp ?_
        rintro hit g' ⟨rfl, rfl⟩
        exact ⟨rfl,
          (List.find?_cons_of_neg (p := fun node : ℕ × SndDevDefCard => req.fits node.2) h).symm⟩

/-- The request of a call. -/
def CardEnv.request (card : ℕ) (e : CardEnv) : CardRequest :=
  match e.procId with
  | .line s => ⟨some s.dropLast, UINT_MAX⟩
  | _ => ⟨none, card⟩

theorem CardEnv.request_card {card : ℕ} {e : CardEnv} (h : (e.request card).name ≠ none) :
    (e.request card).card = UINT_MAX := by
  unfold CardEnv.request at h ⊢
  split at h
  · rfl
  · exact absurd rfl h

/-- The ways in which `snd_card_def_get_card` returns. -/
inductive GetCard (req : CardRequest) (e : CardEnv) (cards : List (ℕ × SndDevDefCard)) :
    Option ℕ → List (ℕ × SndDevDefCard) → Prop
  /-- No memory, no file, no parser, or nothing in the file. -/
  | nothing (hwhy : e.nameBlock = true → e.cardDefFile = true → e.parser = true →
      cards.find? (fun node => req.fits node.2) = none ∧
        sndParseCard req e.events e.mem = .ok none) : GetCard req e cards none cards
  | hit (node : ℕ × SndDevDefCard) (hfind : cards.find? (fun node => req.fits node.2) = some node) :
      GetCard req e cards (some node.1)
        (cards.map fun n => if n.1 = node.1 then (node.1, { n.2 with refcnt := n.2.refcnt + 1 }) else n)
  | failed (hfind : cards.find? (fun node => req.fits node.2) = none) (hfile : e.cardDefFile = true)
      (hparser : e.parser = true) (hparsed : e.parsed = false) :
      GetCard req e cards (cards.getLast?.map Prod.fst) cards
  | fresh (c : SndDevDefCard) (hfind : cards.find? (fun node => req.fits node.2) = none)
      (hparse : sndParseCard req e.events e.mem = .ok (some c)) (hparsed : e.parsed = true) :
      GetCard req e cards (some (sndNewAddr e.addr cards))
        (cards ++ [(sndNewAddr e.addr cards, { c with refcnt := c.refcnt + 1 })])

theorem sndReadProcId_request (card : ℕ) (e : CardEnv) (g : SndState) :
    Ensures anyFault (sndReadProcId card e) g fun req g' =>
      g' = g ∧ (req = none ∧ e.nameBlock = false ∨ req = some (e.request card)) := by
  unfold sndReadProcId CardEnv.request
  cases e.procId with
  | missing => exact ⟨rfl, .inr rfl⟩
  | unreadable =>
      cases e.nameBlock with
      | false => exact ⟨rfl, .inl ⟨rfl, rfl⟩⟩
      | true => exact ⟨rfl, .inr rfl⟩
  | unopenable =>
      dsimp only
      rw [ensures_ite]
      exact ⟨fun _ => trivial, fun h => ⟨rfl, .inl ⟨rfl, Bool.eq_false_iff.mpr h⟩⟩⟩
  | line s =>
      dsimp only
      rw [ensures_ite, ensures_ite]
      refine ⟨fun h => ⟨rfl, .inl ⟨rfl, by simpa using h⟩⟩, fun _ => ?_⟩
      exact ⟨fun _ => trivial, fun _ => ⟨rfl, .inr rfl⟩⟩

/-- The cache before the first call is empty. -/
def SndState.Initialised (g : SndState) : Prop := g.sndCardListInit = false → g.sndCardList = []

theorem rwUnlock_cards (g : SndState) :
    Ensures anyFault rwUnlock g fun _ g' =>
      g'.sndCardList = g.sndCardList ∧ g'.sndCardListInit = g.sndCardListInit := by
  unfold rwUnlock
  rw [ensures_bind, ensures_gets, ensures_ite, ensures_ite]
  exact ⟨fun _ => ⟨rfl, rfl⟩, fun _ => ⟨fun _ => trivial, fun _ => ⟨rfl, rfl⟩⟩⟩

theorem wrlock_cards (g : SndState) :
    Ensures anyFault wrlock g fun _ g' =>
      g'.sndCardList = g.sndCardList ∧ g'.sndCardListInit = g.sndCardListInit := by
  unfold wrlock
  rw [ensures_bind, ensures_gets, ensures_ite]
  exact ⟨fun _ => trivial, fun _ => ⟨rfl, rfl⟩⟩

theorem initList_cards {g : SndState} (hg : g.Initialised) :
    g.initList.sndCardList = g.sndCardList ∧ g.initList.sndCardListInit = true := by
  unfold SndState.initList
  split_ifs with h
  · exact ⟨rfl, h⟩
  · exact ⟨(hg (Bool.eq_false_iff.mpr h)).symm, rfl⟩

/-- Releasing the lock and returning a value. -/
theorem unlock_returns {α : Type} (a : α) {g : SndState} {Q : α → SndState → Prop}
    (h : ∀ g' : SndState, g'.sndCardList = g.sndCardList → g'.sndCardListInit = g.sndCardListInit →
      Q a g') : Ensures anyFault (do rwUnlock; pure a) g Q := by
  rw [ensures_bind]
  exact (rwUnlock_cards g).imp fun _ g' hg' => h g' hg'.1 hg'.2

theorem sndReadCard_cases {req : CardRequest} {e : CardEnv} {g : SndState}
    (hinit : g.sndCardListInit = true) (hfile : e.cardDefFile = true) (hparser : e.parser = true)
    (hfind : g.sndCardList.find? (fun node => req.fits node.2) = none) :
    Ensures anyFault (sndReadCard req e) g fun r g' =>
      GetCard req e g.sndCardList r g'.sndCardList ∧ g'.sndCardListInit = true := by
  unfold sndReadCard
  rw [ensures_bind, ensures_gets]
  cases hparse : sndParseCard req e.events e.mem with
  | error f => exact trivial
  | ok cardDef =>
      dsimp only
      rw [ensures_ite]
      refine ⟨fun hparsed => ?_, fun hparsed => ?_⟩
      · apply unlock_returns
        intro g' hcards hinit'
        rw [hcards]
        exact ⟨.failed hfind hfile hparser (by simpa using hparsed), hinit'.trans hinit⟩
      cases cardDef with
      | none =>
          apply unlock_returns
          intro g' hcards hinit'
          rw [hcards]
          exact ⟨.nothing fun _ _ _ => ⟨hfind, hparse⟩, hinit'.trans hinit⟩
      | some c =>
          dsimp only
          rw [ensures_bind, ensures_modify]
          apply unlock_returns
          intro g' hcards hinit'
          rw [hcards]
          exact ⟨.fresh c hfind hparse (by simpa using hparsed), hinit'.trans hinit⟩

theorem sndCardDefGetCard_cases {g : SndState} (hg : g.Initialised) (card : ℕ) (e : CardEnv) :
    Ensures anyFault (sndCardDefGetCard card e) g fun r g' =>
      GetCard (e.request card) e g.sndCardList r g'.sndCardList ∧ g'.Initialised := by
  unfold sndCardDefGetCard
  rw [ensures_bind]
  refine (sndReadProcId_request card e g).imp ?_
  rintro req g ⟨rfl, hreq⟩
  obtain ⟨rfl, hblock⟩ | rfl := hreq
  · exact ⟨.nothing fun h => absurd (h.symm.trans hblock) (by decide), hg⟩
  dsimp only
  rw [ensures_bind]
  refine (wrlock_cards g).imp ?_
  rintro _ g₁ ⟨hcards₁, hinit₁⟩
  have hg₁ : g₁.Initialised := fun h => hcards₁.trans (hg (hinit₁.symm.trans h))
  obtain ⟨hcards₂, hinit₂⟩ := initList_cards hg₁
  rw [ensures_bind, ensures_modify, ensures_bind, ensures_gets, ensures_bind]
  refine (sndFindCard_find _ _ g₁.initList).imp ?_
  rintro hit _ ⟨rfl, hhit⟩
  rw [hcards₂, hcards₁] at hhit
  have hstays : ∀ {l : Option ℕ} {g' : SndState}, g'.sndCardList = g₁.initList.sndCardList →
      g'.sndCardListInit = g₁.initList.sndCardListInit → GetCard (e.request card) e g.sndCardList l
        g.sndCardList → GetCard (e.request card) e g.sndCardList l g'.sndCardList ∧ g'.Initialised := by
    intro l g' hcards hinit h
    rw [hcards, hcards₂, hcards₁]
    exact ⟨h, fun h => absurd (h.symm.trans (hinit.trans hinit₂)) (by decide)⟩
  cases hit with
  | some node =>
      dsimp only
      rw [ensures_ite]
      refine ⟨fun _ => trivial, fun _ => ?_⟩
      rw [ensures_bind, modifyCardDef, ensures_modify]
      apply unlock_returns
      intro g' hcards hinit
      refine ⟨?_, fun h => absurd (h.symm.trans (hinit.trans hinit₂)) (by decide)⟩
      rw [hcards]
      dsimp only
      rw [hcards₂, hcards₁]
      exact .hit node hhit.symm
  | none =>
      dsimp only
      rw [ensures_ite, ensures_ite]
      refine ⟨fun hfile => unlock_returns _ fun g' hc hi => hstays hc hi ?_, fun hfile =>
        ⟨fun hparser => unlock_returns _ fun g' hc hi => hstays hc hi ?_, fun hparser => ?_⟩⟩
      · exact .nothing fun _ h => by simp [h] at hfile
      · exact .nothing fun _ _ h => by simp [h] at hparser
      have hfind : g₁.initList.sndCardList.find? (fun node => (e.request card).fits node.2) = none := by
        rw [hcards₂, hcards₁]
        exact hhit.symm
      refine (sndReadCard_cases hinit₂ (by simpa using hfile) (by simpa using hparser) hfind).imp ?_
      rintro r g' ⟨h, hinit⟩
      rw [hcards₂, hcards₁] at h
      exact ⟨h, fun h => absurd (h.symm.trans hinit) (by decide)⟩

/-! ### Runs -/

/-- The parser with two records: how often the definition at an address was returned minus how
often it was put back, and the element of the file for which it was made. -/
structure CardRun where
  state : SndState := {}
  balance : ℕ → ℤ := fun _ => 0
  label : ℕ → CStr × CStr := fun _ => ([], [])

/-- The addresses of the cached definitions. -/
def CardRun.cached (x : CardRun) : List ℕ := x.state.sndCardList.map Prod.fst

/-- Record what a call returned; `before` are the addresses that were cached when it was made, and
`label` is the element at whose end its parser makes a definition. -/
def CardRun.returned (x : CardRun) (before : List ℕ) (label : Option (CStr × CStr)) :
    Option ℕ → CardRun
  | none => x
  | some a =>
      if a ∈ before then { x with balance := Function.update x.balance a (x.balance a + 1) }
      else
        { x with
          balance := Function.update x.balance a 1
          label := Function.update x.label a (label.getD ([], [])) }

/-- Record a definition that is put back. -/
def CardRun.putBack (x : CardRun) : Option ℕ → CardRun
  | none => x
  | some a => { x with balance := Function.update x.balance a (x.balance a - 1) }

inductive CardCall where
  | get (card : ℕ) (e : CardEnv)
  | put (defs : Option ℕ)
deriving DecidableEq, Repr

def onCards {α : Type} (m : SndM α) : Prog CardRun SndFault α :=
  Prog.zoom CardRun.state (fun g x => { x with state := g }) id m

def CardCall.run : CardCall → Prog CardRun SndFault (Option ℕ)
  | get card e => do
      let before ← Prog.gets CardRun.cached
      let a ← onCards (sndCardDefGetCard card e)
      Prog.modify fun x =>
        x.returned before (cardLabel e.events ((e.request card).start e.mem)) a
      pure a
  | put defs => do
      onCards (sndCardDefPutCard defs)
      Prog.modify fun x => x.putBack defs
      pure none

/-- The counts of the code are those of the record, and what is cached has users. -/
structure Counted (x : CardRun) : Prop where
  cached : ∀ a, a ∈ x.cached ↔ 0 < x.balance a
  refcnt : ∀ node ∈ x.state.sndCardList, node.2.refcnt = x.balance node.1

/-- The definition at the address is one of the card that was asked for: the element of the file for
which it was made says so, or its name begins with the name that was asked for. -/
def Asked (x : CardRun) (req : CardRequest) (a : ℕ) : Prop :=
  ∃ c, (a, c) ∈ x.state.sndCardList ∧
    (req.Identifies (x.label a) ∨ ∃ n ∈ req.name, ∃ name ∈ c.name, n.isPrefixOf name)

/-- Nothing cached fits, and parsing the file fails. -/
def CardCall.ParseFails (x : CardRun) : CardCall → Prop
  | get card e =>
      x.state.sndCardList.find? (fun node => (e.request card).fits node.2) = none ∧ e.parsed = false
  | put _ => False

/-- What a call is to leave and to return. -/
structure CardCall.Lawful (x : CardRun) (call : CardCall) (r : Option ℕ) (x' : CardRun) : Prop where
  counted : Counted x'
  asked : ∀ card e, call = .get card e → ∀ a ∈ r, Asked x' (e.request card) a
  failed : call.ParseFails x → r = none

/-- Parsing fails while a definition is cached. -/
def CardCall.FailsToParse (x : CardRun) : CardCall → Prop
  | get card e =>
      x.state.sndCardList ≠ [] ∧ (get card e).ParseFails x ∧ e.cardDefFile ∧ e.parser
  | put _ => False

/-- A request by number meets a definition that was found by its name. -/
def CardCall.MeetsNamed (x : CardRun) : CardCall → Prop
  | get card e =>
      (e.request card).name = none ∧
        ∃ node ∈ x.state.sndCardList.find? (fun node => (e.request card).fits node.2),
          (x.label node.1).1 ≠ "id".toList
  | put _ => False

/-- A request by name, which is made with the number `UINT_MAX`, finds nothing in the cache and comes
in the file to a card with this number before it has found one with the name. -/
def CardCall.MeetsMax (x : CardRun) : CardCall → Prop
  | get card e =>
      (e.request card).name ≠ none ∧
        x.state.sndCardList.find? (fun node => (e.request card).fits node.2) = none ∧
        meetsMax e.events ((e.request card).start e.mem) = true
  | put _ => False

instance (x : CardRun) : DecidablePred (CardCall.ParseFails x)
  | .get _ _ => inferInstanceAs (Decidable (_ ∧ _))
  | .put _ => .isFalse id

instance (x : CardRun) : DecidablePred (CardCall.FailsToParse x)
  | .get _ _ => inferInstanceAs (Decidable (_ ∧ _))
  | .put _ => .isFalse id

instance (x : CardRun) : DecidablePred (CardCall.MeetsNamed x)
  | .get card e => inferInstanceAs (Decidable ((e.request card).name = none ∧
      ∃ node ∈ x.state.sndCardList.find? (fun node => (e.request card).fits node.2),
        (x.label node.1).1 ≠ "id".toList))
  | .put _ => .isFalse id

instance (x : CardRun) : DecidablePred (CardCall.MeetsMax x)
  | .get _ _ => inferInstanceAs (Decidable (_ ∧ _ ∧ _))
  | .put _ => .isFalse id

/-- The calls that go wrong are not made. -/
def CardCall.Sound (x : CardRun) (call : CardCall) : Prop :=
  ¬ call.FailsToParse x ∧ ¬ call.MeetsNamed x ∧ ¬ call.MeetsMax x

instance (x : CardRun) : DecidablePred (CardCall.Sound x) :=
  fun _ => inferInstanceAs (Decidable (_ ∧ _ ∧ _))

/-- The invariant of the runs. -/
structure CardBooks (x : CardRun) : Prop where
  counted : Counted x
  initialised : x.state.Initialised
  nodup : x.cached.Nodup
  number : ∀ node ∈ x.state.sndCardList, (x.label node.1).1 = "id".toList →
    node.2.card = toUnsigned (atoi (x.label node.1).2)

theorem sndNewAddr_not_mem (addr : ℕ) (cards : List (ℕ × SndDevDefCard)) :
    sndNewAddr addr cards ∉ cards.map Prod.fst := by
  have hle : ∀ (l : List ℕ), ∀ a ∈ l, a ≤ l.foldr max 0 := by
    intro l
    induction l with
    | nil => exact fun a h => nomatch h
    | cons b l ih =>
        intro a h
        rcases List.mem_cons.mp h with rfl | h
        · exact le_max_left _ _
        · exact (ih a h).trans (le_max_right _ _)
  unfold sndNewAddr
  split_ifs with h
  · intro hmem
    exact absurd (hle _ _ hmem) (by omega)
  · exact h

/-- A change of one definition keeps the addresses. -/
theorem map_fst_hit (cards : List (ℕ × SndDevDefCard)) (a : ℕ) (c : SndDevDefCard → SndDevDefCard) :
    (cards.map fun n => if n.1 = a then (a, c n.2) else n).map Prod.fst = cards.map Prod.fst := by
  rw [List.map_map]
  refine List.map_congr_left fun n _ => ?_
  dsimp only [Function.comp_apply]
  split_ifs with hn
  · exact hn.symm
  · rfl

section
variable {x : CardRun} (h : CardBooks x)
include h

/-- Another state with the same cache. -/
theorem CardBooks.of_cards {g : SndState} (hcards : g.sndCardList = x.state.sndCardList)
    (hinit : g.Initialised) : CardBooks { x with state := g } := by
  refine ⟨⟨fun a => ?_, fun node hmem => ?_⟩, hinit, ?_, fun node hmem => ?_⟩
  · unfold CardRun.cached
    dsimp only
    rw [hcards]
    exact h.counted.cached a
  · exact h.counted.refcnt node (hcards ▸ hmem)
  · unfold CardRun.cached
    dsimp only
    rw [hcards]
    exact h.nodup
  · exact h.number node (hcards ▸ hmem)

/-- One more user of a cached definition. -/
theorem CardBooks.hit {node : ℕ × SndDevDefCard} {g : SndState} (hmem : node ∈ x.state.sndCardList)
    (hinit : g.Initialised)
    (hcards : g.sndCardList = x.state.sndCardList.map fun n =>
      if n.1 = node.1 then (node.1, { n.2 with refcnt := n.2.refcnt + 1 }) else n) :
    CardBooks { x with
      state := g
      balance := Function.update x.balance node.1 (x.balance node.1 + 1) } := by
  have haddr : g.sndCardList.map Prod.fst = x.cached := by
    rw [hcards]
    exact map_fst_hit _ _ fun c => { c with refcnt := c.refcnt + 1 }
  have hcached : node.1 ∈ x.cached := List.mem_map_of_mem hmem
  have hpos := (h.counted.cached node.1).mp hcached
  refine ⟨⟨fun a => ?_, fun n hn => ?_⟩, hinit, ?_, fun n hn => ?_⟩
  · show a ∈ g.sndCardList.map Prod.fst ↔ 0 < Function.update x.balance node.1 _ a
    rw [haddr]
    by_cases ha : a = node.1
    · subst ha
      rw [Function.update_self]
      exact ⟨fun _ => by omega, fun _ => hcached⟩
    · rw [Function.update_of_ne ha]
      exact h.counted.cached a
  · replace hn : n ∈ g.sndCardList := hn
    rw [hcards] at hn
    obtain ⟨n', hn', rfl⟩ := List.mem_map.mp hn
    have href := h.counted.refcnt n' hn'
    dsimp only
    split_ifs with hn
    · rw [Function.update_self, ← hn, href]
    · rw [Function.update_of_ne hn, href]
  · show (g.sndCardList.map Prod.fst).Nodup
    rw [haddr]
    exact h.nodup
  · replace hn : n ∈ g.sndCardList := hn
    rw [hcards] at hn
    obtain ⟨n', hn', rfl⟩ := List.mem_map.mp hn
    have hnum := h.number n' hn'
    dsimp only
    split_ifs with hn
    · rw [← hn]
      exact hnum
    · exact hnum

/-- A definition that was just parsed. -/
theorem CardBooks.fresh {c : SndDevDefCard} {a : ℕ} {req : CardRequest} {label : CStr × CStr}
    {g : SndState} (ha : a ∉ x.cached) (hc : req.TakenBy label (c.card, c.refcnt))
    (hinit : g.Initialised)
    (hcards : g.sndCardList = x.state.sndCardList ++ [(a, { c with refcnt := c.refcnt + 1 })]) :
    CardBooks
      { state := g
        balance := Function.update x.balance a 1
        label := Function.update x.label a label } := by
  have haddr : g.sndCardList.map Prod.fst = x.cached ++ [a] := by
    rw [hcards, List.map_append]
    rfl
  have hother : ∀ n ∈ x.state.sndCardList, n.1 ≠ a := by
    rintro n hn rfl
    exact ha (List.mem_map_of_mem hn)
  refine ⟨⟨fun b => ?_, fun n hn => ?_⟩, hinit, ?_, fun n hn => ?_⟩
  · show b ∈ g.sndCardList.map Prod.fst ↔ 0 < Function.update x.balance a 1 b
    rw [haddr, List.mem_append, List.mem_singleton]
    by_cases hb : b = a
    · subst hb
      rw [Function.update_self]
      exact ⟨fun _ => Int.one_pos, fun _ => .inr rfl⟩
    · rw [Function.update_of_ne hb, or_iff_left hb]
      exact h.counted.cached b
  · replace hn : n ∈ g.sndCardList := hn
    show n.2.refcnt = Function.update x.balance a 1 n.1
    rw [hcards, List.mem_append, List.mem_singleton] at hn
    rcases hn with hn | rfl
    · rw [Function.update_of_ne (hother n hn)]
      exact h.counted.refcnt n hn
    · dsimp only
      have href : c.refcnt = 0 := hc.refcnt
      rw [Function.update_self, href, zero_add]
  · show (g.sndCardList.map Prod.fst).Nodup
    rw [haddr]
    exact List.Nodup.append h.nodup (List.nodup_singleton a) (by simpa using ha)
  · replace hn : n ∈ g.sndCardList := hn
    show (Function.update x.label a label n.1).1 = "id".toList →
      n.2.card = toUnsigned (atoi (Function.update x.label a label n.1).2)
    rw [hcards, List.mem_append, List.mem_singleton] at hn
    rcases hn with hn | rfl
    · rw [Function.update_of_ne (hother n hn)]
      exact h.number n hn
    · dsimp only
      rw [Function.update_self]
      intro hid
      obtain ⟨hnumber, hcard⟩ := hc.byId hid
      exact Eq.trans hcard hnumber.symm

omit h in
/-- What the loop makes of one node. -/
theorem sndPutLoop_cons (a : ℕ) (m : ℕ × SndDevDefCard) (l : List (ℕ × SndDevDefCard)) :
    sndPutLoop a (m :: l) = sndPutLoop a [m] ++ sndPutLoop a l := by
  obtain ⟨b, d⟩ := m
  simp only [sndPutLoop]
  split_ifs
  · rfl
  · rfl
  · rfl

omit h in
theorem mem_sndPutLoop {a : ℕ} {n : ℕ × SndDevDefCard} {l : List (ℕ × SndDevDefCard)} :
    n ∈ sndPutLoop a l ↔ (n ∈ l ∧ n.1 ≠ a) ∨
      ∃ c, (a, c) ∈ l ∧ c.refcnt - 1 ≠ 0 ∧ n = (a, { c with refcnt := c.refcnt - 1 }) := by
  have hone : ∀ m : ℕ × SndDevDefCard, n ∈ sndPutLoop a [m] ↔ (n = m ∧ n.1 ≠ a) ∨
      ∃ c, (a, c) = m ∧ c.refcnt - 1 ≠ 0 ∧ n = (a, { c with refcnt := c.refcnt - 1 }) := by
    rintro ⟨b, d⟩
    simp only [sndPutLoop]
    split_ifs with hb h0
    · subst hb
      simp only [List.not_mem_nil, false_iff, not_or, not_and, not_exists]
      refine ⟨fun hn hne => hne (by rw [hn]), fun c hc hc0 => ?_⟩
      obtain rfl : c = d := (Prod.mk.inj hc).2
      exact absurd h0 hc0
    · subst hb
      rw [List.mem_singleton]
      constructor
      · rintro rfl
        exact .inr ⟨d, rfl, h0, rfl⟩
      · rintro (⟨rfl, hne⟩ | ⟨c, hc, -, rfl⟩)
        · exact absurd rfl hne
        · obtain rfl : c = d := (Prod.mk.inj hc).2
          rfl
    · rw [List.mem_singleton]
      constructor
      · rintro rfl
        exact .inl ⟨rfl, hb⟩
      · rintro (⟨rfl, -⟩ | ⟨c, hc, -⟩)
        · rfl
        · exact absurd (Prod.mk.inj hc).1.symm hb
  induction l with
  | nil => simp [sndPutLoop]
  | cons m l ih =>
      rw [sndPutLoop_cons, List.mem_append]
      refine (or_congr (hone m) ih).trans ?_
      simp only [List.mem_cons, or_and_right, exists_or]
      exact or_or_or_comm

omit h in
theorem sndPutLoop_sublist (a : ℕ) (l : List (ℕ × SndDevDefCard)) :
    ((sndPutLoop a l).map Prod.fst).Sublist (l.map Prod.fst) := by
  induction l with
  | nil => exact List.Sublist.slnil
  | cons m l ih =>
      obtain ⟨b, d⟩ := m
      unfold sndPutLoop
      split_ifs
      · exact ih.cons b
      · exact ih.cons_cons b
      · exact ih.cons_cons b

/-- A user of a definition, cached or not, is gone. -/
theorem CardBooks.put {a : ℕ} {g : SndState} (hinit : g.Initialised)
    (hcards : g.sndCardList = sndPutLoop a x.state.sndCardList) :
    CardBooks { x with
      state := g
      balance := Function.update x.balance a (x.balance a - 1) } := by
  have hof : ∀ {b : ℕ}, b ∈ x.cached → ∃ c, (b, c) ∈ x.state.sndCardList := by
    intro b hb
    obtain ⟨n, hn, rfl⟩ := List.mem_map.mp hb
    exact ⟨n.2, hn⟩
  have haddr : ∀ b, b ∈ g.sndCardList.map Prod.fst ↔
      (b ∈ x.cached ∧ b ≠ a) ∨ b = a ∧ ∃ c, (a, c) ∈ x.state.sndCardList ∧ c.refcnt - 1 ≠ 0 := by
    intro b
    rw [hcards, List.mem_map]
    constructor
    · rintro ⟨n, hn, rfl⟩
      rcases mem_sndPutLoop.mp hn with ⟨hn, hne⟩ | ⟨c, hc, hc0, rfl⟩
      · exact .inl ⟨List.mem_map_of_mem hn, hne⟩
      · exact .inr ⟨rfl, c, hc, hc0⟩
    · rintro (⟨hb, hne⟩ | ⟨rfl, c, hc, hc0⟩)
      · obtain ⟨c, hc⟩ := hof hb
        exact ⟨(b, c), mem_sndPutLoop.mpr (.inl ⟨hc, hne⟩), rfl⟩
      · exact ⟨_, mem_sndPutLoop.mpr (.inr ⟨c, hc, hc0, rfl⟩), rfl⟩
  refine ⟨⟨fun b => ?_, fun n hn => ?_⟩, hinit, ?_, fun n hn => ?_⟩
  · show b ∈ g.sndCardList.map Prod.fst ↔ 0 < Function.update x.balance a _ b
    rw [haddr]
    by_cases hb : b = a
    · subst hb
      rw [Function.update_self, or_iff_right fun h => h.2 rfl, and_iff_right rfl]
      constructor
      · rintro ⟨c, hc, hc0⟩
        have hpos := (h.counted.cached b).mp (List.mem_map_of_mem hc)
        have href : c.refcnt = x.balance b := h.counted.refcnt _ hc
        omega
      · intro hlt
        obtain ⟨c, hc⟩ := hof ((h.counted.cached b).mpr (by omega))
        have href : c.refcnt = x.balance b := h.counted.refcnt _ hc
        exact ⟨c, hc, by omega⟩
    · rw [Function.update_of_ne hb, or_iff_left fun h => hb h.1, and_iff_left hb]
      exact h.counted.cached b
  · replace hn : n ∈ g.sndCardList := hn
    show n.2.refcnt = Function.update x.balance a _ n.1
    rw [hcards] at hn
    rcases mem_sndPutLoop.mp hn with ⟨hn, hne⟩ | ⟨c, hc, -, rfl⟩
    · rw [Function.update_of_ne hne]
      exact h.counted.refcnt n hn
    · have href : c.refcnt = x.balance a := h.counted.refcnt _ hc
      dsimp only
      rw [Function.update_self, href]
  · show (g.sndCardList.map Prod.fst).Nodup
    rw [hcards]
    exact h.nodup.sublist (sndPutLoop_sublist a _)
  · replace hn : n ∈ g.sndCardList := hn
    rw [hcards] at hn
    rcases mem_sndPutLoop.mp hn with ⟨hn, -⟩ | ⟨c, hc, -, rfl⟩
    · exact h.number n hn
    · exact h.number (a, c) hc

/-! ### One call -/

/-- A definition of the cache that fits is one that was asked for, if it was found by its number
where it is looked for by the number. -/
theorem CardBooks.asked {x' : CardRun} {req : CardRequest} {a : ℕ} {c c' : SndDevDefCard}
    (hmem : (a, c) ∈ x.state.sndCardList) (hfits : req.fits c = true)
    (hid : req.name = none → (x.label a).1 = "id".toList) (hlabel : x'.label = x.label)
    (hstored : (a, c') ∈ x'.state.sndCardList) (hsame : c'.name = c.name) : Asked x' req a := by
  refine ⟨c', hstored, ?_⟩
  rw [hlabel, hsame]
  cases hname : req.name with
  | none =>
      have hcard : c.card = req.card := by simpa [CardRequest.fits, hname] using hfits
      refine .inl ?_
      unfold CardRequest.Identifies
      rw [hname]
      exact ⟨hid hname, (h.number (a, c) hmem (hid hname)).symm.trans hcard⟩
  | some n =>
      refine .inr ⟨n, rfl, ?_⟩
      cases hc : c.name with
      | none => simp [CardRequest.fits, hname, hc] at hfits
      | some name => exact ⟨name, rfl, by simpa [CardRequest.fits, hname, hc] using hfits⟩

/-- The call of `snd_card_def_get_card` keeps the books, and returns what was asked for. -/
theorem CardBooks.get (card : ℕ) (e : CardEnv) (hsound : (CardCall.get card e).Sound x) :
    Ensures anyFault (CardCall.get card e).run x fun r x' =>
      CardBooks x' ∧ (CardCall.get card e).Lawful x r x' := by
  unfold CardCall.run onCards
  rw [ensures_bind, ensures_gets, ensures_bind, ensures_zoom]
  refine ((sndCardDefGetCard_cases h.initialised card e).imp ?_).mono (fun _ h => h) fun _ _ h => h
  rintro r g ⟨hget, hinit⟩
  simp only [ensures_bind, ensures_modify, ensures_pure]
  have hlawful : ∀ {x' : CardRun}, CardBooks x' → (∀ a ∈ r, Asked x' (e.request card) a) →
      ((CardCall.get card e).ParseFails x → r = none) →
      CardBooks x' ∧ (CardCall.get card e).Lawful x r x' := by
    intro x' hbooks hasked hfailed
    refine ⟨hbooks, hbooks.counted, ?_, hfailed⟩
    rintro _ _ ⟨rfl, rfl⟩
    exact hasked
  generalize hcards : g.sndCardList = cards at hget
  cases hget with
  | nothing _ =>
      apply hlawful (h.of_cards hcards hinit)
      · exact fun a ha => by cases ha
      · exact fun _ => rfl
  | hit node hfind =>
      have hmem := List.mem_of_find?_eq_some hfind
      have hfits : (e.request card).fits node.2 = true := by
        simpa using List.find?_some hfind
      have hin : node.1 ∈ x.cached := List.mem_map_of_mem hmem
      rw [CardRun.returned]
      dsimp only
      rw [if_pos hin]
      apply hlawful (h.hit hmem hinit hcards)
      · rintro _ ⟨rfl⟩
        have hstored : (node.1, { node.2 with refcnt := node.2.refcnt + 1 }) ∈ g.sndCardList := by
          rw [hcards]
          exact List.mem_map.mpr ⟨node, hmem, if_pos rfl⟩
        refine h.asked hmem hfits (fun hname => ?_) rfl hstored rfl
        by_contra hne
        exact hsound.2.1 ⟨hname, node, hfind, hne⟩
      · exact fun hfails => absurd (hfind.symm.trans hfails.1) (Option.some_ne_none node)
  | failed hfind hfile hparser hparsed =>
      have hempty : x.state.sndCardList = [] := by
        by_contra hne
        exact hsound.1 ⟨hne, ⟨hfind, hparsed⟩, hfile, hparser⟩
      have hnone : x.state.sndCardList.getLast?.map Prod.fst = none := by
        rw [hempty]
        rfl
      revert hlawful
      rw [hnone]
      intro hlawful
      apply hlawful (h.of_cards hcards hinit)
      · exact fun a ha => by cases ha
      · exact fun _ => rfl
  | fresh c hfind hparse hparsed =>
      have hnew := sndNewAddr_not_mem e.addr x.state.sndCardList
      obtain ⟨label, hlabel, htaken, hmax⟩ := sndParseCard_takenBy hparse
      rw [CardRun.returned]
      dsimp only
      rw [if_neg (show sndNewAddr e.addr x.state.sndCardList ∉ x.cached from hnew), hlabel]
      apply hlawful (h.fresh hnew htaken hinit hcards)
      · rintro _ ⟨rfl⟩
        have hstored : (sndNewAddr e.addr x.state.sndCardList, { c with refcnt := c.refcnt + 1 }) ∈
            g.sndCardList := by
          rw [hcards]
          exact List.mem_append_right _ (List.mem_singleton_self _)
        refine ⟨_, hstored, .inl ?_⟩
        dsimp only
        rw [Function.update_self]
        refine htaken.identifies fun hname hid => hsound.2.2 ⟨hname, hfind, hmax hid ?_⟩
        exact CardEnv.request_card hname
      · exact fun hfails => absurd (hparsed.symm.trans hfails.2) (by decide)

theorem CardBooks.putCard (defs : Option ℕ) :
    Ensures anyFault (CardCall.put defs).run x fun r x' =>
      CardBooks x' ∧ (CardCall.put defs).Lawful x r x' := by
  have hlawful : ∀ {x' : CardRun}, CardBooks x' →
      CardBooks x' ∧ (CardCall.put defs).Lawful x none x' :=
    fun hbooks => ⟨hbooks, hbooks.counted, nofun, nofun⟩
  unfold CardCall.run onCards
  rw [ensures_bind, ensures_zoom]
  cases defs with
  | none => exact hlawful h
  | some a =>
      unfold sndCardDefPutCard
      dsimp only
      rw [ensures_bind]
      refine ((wrlock_cards x.state).imp ?_).mono (fun _ h => h) fun _ _ h => h
      rintro _ g ⟨hcards, hinit⟩
      rw [ensures_bind, ensures_modify]
      refine (rwUnlock_cards _).imp ?_
      rintro _ g' ⟨hcards', hinit'⟩
      simp only [ensures_bind, ensures_modify, ensures_pure]
      apply hlawful
      refine h.put (g := g') (fun hi => ?_) ?_
      · rw [hcards']
        dsimp only
        rw [hcards, h.initialised (hinit.symm.trans (hinit'.symm.trans hi))]
        rfl
      · rw [hcards']
        dsimp only
        rw [hcards]

/-- One call. -/
theorem CardBooks.call (call : CardCall) (hsound : call.Sound x) :
    Ensures anyFault call.run x fun r x' => CardBooks x' ∧ call.Lawful x r x' := by
  cases call with
  | get card e => exact h.get card e hsound
  | put defs => exact h.putCard defs

end

/-! ### Runs -/

theorem CardBooks.init : CardBooks {} where
  counted := ⟨fun _ => ⟨nofun, fun h => absurd h (lt_irrefl (0 : ℤ))⟩, nofun⟩
  initialised _ := rfl
  nodup := List.nodup_nil
  number := nofun

/-- Along every run from an empty cache in which no parse fails while a definition is cached, no
request by number meets a definition that was found by its name, and no request by name comes to a
card with the number that stands for none, after each call `refcnt` counts the users and what is
cached has users; no call returns a definition that was not asked for, and a failed parse returns
`NULL`. -/
theorem refcnt_counts (calls : List CardCall) (hsound : Admits CardCall.run CardCall.Sound calls {}) :
    Admits CardCall.run (fun x call => Ensures anyFault call.run x fun r x' => call.Lawful x r x')
      calls {} := by
  apply Admits.imp CardCall.run (I := CardBooks) _ _ CardBooks.init hsound
  · intro x call hx hcall
    exact (hx.call call hcall).imp fun _ _ h => h.1
  · intro x call hx hcall
    exact (hx.call call hcall).imp fun _ _ h => h.2

/-- A card with one pcm device, got by its number, by its name and put back; the file has another
one. -/
theorem refcnt_counts_twoUsers :
    Admits CardCall.run (fun x call => Ensures anyFault call.run x fun r x' => call.Lawful x r x')
      [.get 100 { events := xmlCard "100".toList "snd".toList "7".toList },
        .get 0 { procId := .line "snd\n".toList }, .get 1 { events := [] }, .put (some 0),
        .put (some 0), .get 1 { parsed := false }] {} :=
  refcnt_counts _ (by decide +kernel)

/-- The card `foo` is asked for; the file has a card `bar` with the number `UINT_MAX`. -/
def getFoo : CardCall :=
  .get 0 { procId := .line "foo\n".toList
           events := xmlCard "4294967295".toList "bar".toList "7".toList }

/-- A second card whose file cannot be parsed: the definition of the first one is returned.  And a
card whose number is that of no card: it is returned for a name that it does not have. -/
theorem refcnt_counts_parseFails :
    (¬ Admits CardCall.run (fun x call => Ensures anyFault call.run x fun r x' => call.Lawful x r x')
      [.get 100 { events := xmlCard "100".toList "snd".toList "7".toList },
        .get 1 { parsed := false }] {}) ∧
    ¬ Admits CardCall.run (fun x call => Ensures anyFault call.run x fun r x' => call.Lawful x r x')
      [getFoo] {} := by
  constructor
  · intro h
    have hfailed := Admits.imp CardCall.run (I := fun _ => True)
      (D := fun x call => Ensures anyFault call.run x fun r _ => call.ParseFails x → r = none)
      (fun _ _ _ hlaw => hlaw.imp fun _ _ _ => trivial)
      (fun _ _ _ hlaw => hlaw.imp fun _ _ h => h.failed) trivial h
    exact absurd hfailed (by decide +kernel)
  · rintro ⟨hlaw, -⟩
    have hrun : Ensures noFault getFoo.run {} fun r x' =>
        r = some 0 ∧ x'.label 0 = ("id".toList, "4294967295".toList) ∧
          x'.state.sndCardList.map (fun node => node.2.name) = [some "bar".toList] := by
      decide +kernel
    obtain ⟨r, x', -, ⟨rfl, hlabel, hnames⟩, hlawful⟩ := Ensures.exists_ok (hrun.and hlaw)
    obtain ⟨c, hc, hasked⟩ := hlawful.asked 0 _ rfl 0 rfl
    rcases hasked with hlabelled | ⟨n, hn, name, hname, hbegins⟩
    · rw [hlabel] at hlabelled
      exact absurd hlabelled.1 (by decide)
    · obtain rfl : "foo".toList = n := Option.some.inj hn
      have hmem : c.name ∈ [some "bar".toList] := hnames ▸ List.mem_map_of_mem hc
      rw [List.mem_singleton.mp hmem] at hname
      obtain rfl : "bar".toList = name := Option.some.inj hname
      exact absurd hbegins (by decide)

end Agm
