import Agm.CardXml
import Agm.Lib.Simulation

/-! # Cards that are looked for by name

Where the kernel shows an id for the card, `snd_card_def_get_card` looks for this name and not for
the number: the first card of the document whose name has a token that begins with it.  The
definition is then called by that token, and its number stays 0.

Until the card is found the parser is in states of its own (`searching`).  Once it is found the
name that was looked for is not read again (`Unread`), so that what `CardXml` says of the devices
holds here as well.  `document_denotes_name` is the whole call. -/

namespace Agm

open Prog

/-! ### What a document denotes for a name -/

/-- The first token of the card's name that begins with a name. -/
def CardDoc.tokenFor (sndCardName : CStr) (c : CardDoc) : Option CStr :=
  (strtok c.name.text).find? fun token => sndCardName.isPrefixOf token

/-- The definition of a card that was found by a token of its name. -/
def CardDoc.denoteAs (c : CardDoc) (token : CStr) : SndDevDefCard :=
  { c.denote with card := 0, name := some token }

def Document.denoteName (doc : Document) (sndCardName : CStr) : Option SndDevDefCard :=
  doc.cards.findSome? fun c => (c.tokenFor sndCardName).map c.denoteAs

/-! ### The name is not read once the card is found -/

/-- With a name that is looked for. -/
def ParseState.named (n : CStr) (p : ParseState) : ParseState :=
  ⟨{ p.data with cardName := some n }, p.mem⟩

/-- The same state but for the name, with a card definition. -/
def SameBut (n : CStr) (p q : ParseState) : Prop := q = p.named n ∧ p.data.curCardDef ≠ none

/-- Behind the start of the definition the name makes no difference. -/
def Unread (n : CStr) {α : Type} (m : ParseM α) : Prop :=
  ∀ p, p.data.curCardDef ≠ none → Agrees (SameBut n) (m p) (m (p.named n))

section unread
variable {n : CStr} {α β : Type}

theorem unread_pure (a : α) : Unread n (pure a) := fun _ hp => .returns a ⟨rfl, hp⟩

theorem unread_fault (c : Crash) : Unread n (Prog.fault c : ParseM α) := fun _ _ => .fault c

theorem unread_bind {m : ParseM α} {f : α → ParseM β} (hm : Unread n m)
    (hf : ∀ a, Unread n (f a)) : Unread n (m >>= f) := by
  intro p hp
  refine agrees_bind (hm p hp) ?_
  rintro a q _ ⟨rfl, hq⟩
  exact hf a q hq

theorem unread_ite {c : Prop} [Decidable c] {m m' : ParseM α} (hm : Unread n m)
    (hm' : Unread n m') : Unread n (if c then m else m') := by
  split_ifs
  · exact hm
  · exact hm'

theorem unread_calloc : Unread n sndCalloc := fun _ hp => .returns _ ⟨rfl, hp⟩

/-- What goes on with the data, and does not look at the name. -/
theorem unread_getData {k : XmlUserdata → ParseM α}
    (hname : ∀ d, d.curCardDef ≠ none → k { d with cardName := some n } = k d)
    (hk : ∀ d, d.curCardDef ≠ none → Unread n (k d)) : Unread n (getData >>= k) := by
  intro p hp
  rw [getData, bind_gets, bind_gets]
  change Agrees _ _ (k { p.data with cardName := some n } (p.named n))
  rw [hname p.data hp]
  exact hk p.data hp p hp

theorem unread_modify {f : XmlUserdata → XmlUserdata}
    (hname : ∀ d, f { d with cardName := some n } = { f d with cardName := some n })
    (hcard : ∀ d, d.curCardDef ≠ none → (f d).curCardDef ≠ none) : Unread n (modifyData f) := by
  intro p hp
  have hrun : modifyData f (p.named n) =
      .ok ((), ⟨{ f p.data with cardName := some n }, p.mem⟩) := by
    rw [← hname]
    rfl
  rw [hrun]
  exact .returns () ⟨rfl, hcard _ hp⟩

theorem onCard_ne_none {d : XmlUserdata} (h : d.curCardDef ≠ none)
    (f : SndDevDefCard → SndDevDefCard) : (d.onCard f).curCardDef ≠ none := by
  change d.curCardDef.map f ≠ none
  simpa using h

theorem unread_onCard (f : SndDevDefCard → SndDevDefCard) :
    Unread n (modifyData fun data => data.onCard f) :=
  unread_modify (fun _ => rfl) fun _ h => onCard_ne_none h f

theorem unread_onDev (f : SndDevDef → SndDevDef) :
    Unread n (modifyData fun data => data.onDev f) := by
  refine unread_modify (fun d => ?_) fun d h => ?_
  · obtain ⟨card, cardName, dataBuf, offs, cur, dev, found, parsed, tag⟩ := d
    cases dev with
    | none => rfl
    | some t => rfl
  · unfold XmlUserdata.onDev
    split
    · exact h
    · exact onCard_ne_none h _

theorem unread_devDefInit (t : Option SndNodeType) : Unread n (sndDevDefInit t) := by
  refine unread_getData (fun _ _ => rfl) fun d _ => unread_ite (unread_pure ()) ?_
  cases t with
  | none => exact unread_pure ()
  | some t =>
      refine unread_bind unread_calloc fun block => unread_ite (unread_pure ()) ?_
      exact unread_modify (fun _ => rfl) fun _ h => onCard_ne_none h _

theorem unread_startTag (tagName : CStr) : Unread n (sndStartTag tagName) := by
  have hset : ∀ t, Unread n (modifyData fun data => { data with currentTag := t }) :=
    fun t => unread_modify (fun _ => rfl) fun _ h => h
  refine unread_getData (fun _ _ => rfl) fun _ _ => unread_ite (unread_pure ()) ?_
  refine unread_bind (unread_modify (fun _ => rfl) fun _ h => h) fun _ => ?_
  refine unread_bind (unread_ite (hset .card) (unread_pure ())) fun _ => ?_
  refine unread_bind ?_ fun _ => ?_
  · refine unread_ite (hset .device) (unread_ite ?_ (unread_ite (hset .devProps) (unread_pure ())))
    exact unread_bind (unread_onDev _) fun _ => hset .plugin
  · exact unread_getData (fun _ _ => rfl) fun _ _ =>
      unread_ite (unread_pure ()) (unread_devDefInit _)

theorem unread_initializeCardDef : Unread n sndParseInitializeCardDef := by
  refine unread_getData (fun _ _ => rfl) fun _ _ => unread_ite (unread_pure true) ?_
  refine unread_bind unread_calloc fun block => unread_ite (unread_pure false) ?_
  refine unread_bind (unread_modify (fun _ => rfl) fun _ _ => Option.some_ne_none _) fun _ => ?_
  exact unread_pure true

theorem unread_setCardName (name : CStr) : Unread n (sndSetCardName name) :=
  unread_bind unread_calloc fun _ => unread_onCard _

/-- The name is compared only while there is no definition. -/
theorem unread_cardProperties (tagName : CStr) : Unread n (sndParseCardProperties tagName) := by
  refine unread_getData (fun d hd => ?_) fun d hd => ?_
  · dsimp only
    rw [if_pos hd, if_pos hd]
  · refine unread_ite (unread_ite ?_ (unread_pure ())) (unread_ite ?_ (unread_pure ()))
    · exact unread_bind unread_initializeCardDef fun found =>
        unread_ite (unread_onCard _) (unread_pure ())
    · rw [if_pos hd]
      exact unread_setCardName _

theorem unread_pluginProperties (tagName : CStr) : Unread n (sndParsePluginProperties tagName) := by
  refine unread_getData (fun _ _ => rfl) fun d _ => unread_ite (unread_pure ()) ?_
  refine unread_ite (unread_bind unread_calloc fun block => ?_) (unread_pure ())
  exact unread_onDev _

theorem unread_deviceProperties (tagName : CStr) : Unread n (sndParseDeviceProperties tagName) := by
  refine unread_getData (fun _ _ => rfl) fun d _ => unread_ite (unread_pure ()) ?_
  refine unread_ite (unread_pure ()) (unread_ite (unread_onDev _) ?_)
  refine unread_ite (unread_bind unread_calloc fun block => ?_) (unread_pure ())
  exact unread_onDev _

theorem unread_customProperties (tagName : CStr) :
    Unread n (sndParseDeviceCustomProperties tagName) := by
  refine unread_getData (fun _ _ => rfl) fun d _ => unread_ite (unread_pure ()) ?_
  refine unread_ite (unread_pure ()) (unread_ite (unread_pure ()) ?_)
  refine unread_bind unread_calloc fun pair => unread_ite (unread_pure ()) ?_
  refine unread_bind unread_calloc fun prop => unread_ite (unread_pure ()) ?_
  refine unread_bind unread_calloc fun val => unread_ite (unread_pure ()) ?_
  exact unread_onDev _

theorem unread_processDataBuf (tagName : CStr) : Unread n (sndProcessDataBuf tagName) := by
  refine unread_getData (fun _ _ => rfl) fun d _ => unread_ite (unread_pure ()) ?_
  refine unread_ite (unread_fault _) (unread_ite (unread_pure ()) ?_)
  cases d.currentTag with
  | root => exact unread_pure ()
  | card => exact unread_cardProperties tagName
  | plugin => exact unread_pluginProperties tagName
  | device => exact unread_deviceProperties tagName
  | devProps => exact unread_customProperties tagName

theorem unread_handle (e : XmlEvent) : Unread n (sndHandle e) := by
  have hset : ∀ t, Unread n (modifyData fun data => { data with currentTag := t }) :=
    fun t => unread_modify (fun _ => rfl) fun _ h => h
  cases e with
  | startTag tagName => exact unread_startTag tagName
  | endTag tagName =>
      refine unread_getData (fun _ _ => rfl) fun d _ => unread_ite (unread_pure ()) ?_
      refine unread_ite (unread_pure ()) (unread_bind (unread_processDataBuf tagName) fun _ => ?_)
      refine unread_bind (unread_modify (fun _ => rfl) fun _ h => h) fun _ => ?_
      refine unread_ite (hset .card) (unread_ite (hset .device) (unread_ite ?_ (unread_pure ())))
      exact unread_modify (fun _ => rfl) fun _ h => h
  | text s =>
      unfold sndHandle sndDataHandler
      refine unread_modify (fun d => ?_) fun d h => ?_
      · split_ifs <;> rfl
      · split_ifs <;> exact h

theorem unread_parse (events : List XmlEvent) : Unread n (sndParse events) := by
  induction events with
  | nil => exact unread_pure ()
  | cons e events ih => exact unread_bind (unread_handle e) fun _ => ih

end unread

/-! ### Cards without a token -/

/-- Before the card is found. -/
def searching (n : CStr) (t : SndTag) : XmlUserdata where
  card := UINT_MAX
  cardName := some n
  currentTag := t

/-- In another card behind the start of its first device, and between the cards behind it. -/
def PassesBy (n : CStr) (p : ParseState) : Prop := ∃ t, t ≠ .card ∧ Clears (searching n t) p

section searching
variable {n m : CStr} {p : ParseState}

/-- Before the card is found a start tag sets the current tag only. -/
theorem startTag_searching (m : CStr) (t : SndTag) :
    ∃ t', sndStartTag m ⟨(searching n t).clear, []⟩ = .ok ((), ⟨(searching n t').clear, []⟩) ∧
      (m ≠ "card".toList → t ≠ .card → t' ≠ .card) := by
  have hend : ∀ t', (do
      let data ← getData
      if data.currentTag ≠ .card ∧ !data.cardFound then pure ()
      else sndDevDefInit (sndNodeTypeOf m) : ParseM Unit) ⟨(searching n t').clear, []⟩ =
        .ok ((), ⟨(searching n t').clear, []⟩) := by
    intro t'
    rw [getData, bind_gets]
    split
    · rfl
    · unfold sndDevDefInit
      rw [getData, bind_gets]
      rfl
  rw [sndStartTag_fresh (p := ⟨(searching n t).clear, []⟩) rfl]
  by_cases hcard : m = "card".toList
  · subst hcard
    exact ⟨.card, rfl, fun h => absurd rfl h⟩
  unfold sndEnterCard sndEnterDevice
  rw [if_neg hcard]
  split_ifs
  · exact ⟨.device, hend .device, fun _ _ => by decide⟩
  · exact ⟨.plugin, hend .plugin, fun _ _ => by decide⟩
  · exact ⟨.devProps, hend .devProps, fun _ _ => by decide⟩
  · exact ⟨t, hend t, fun _ => id⟩

/-- Only the start of a card ends the passing by. -/
theorem passesBy_handle (h : PassesBy n p) {e : XmlEvent} (he : e ≠ .startTag "card".toList) :
    ∃ p', sndHandle e p = .ok ((), p') ∧ PassesBy n p' := by
  obtain ⟨t, ht, hp⟩ := h
  cases e with
  | startTag m =>
      obtain ⟨t', hrun, ht'⟩ := @startTag_searching n m t
      have hne : m ≠ "card".toList := fun hm => he (congrArg XmlEvent.startTag hm)
      exact ⟨_, (sndStartTag_clears rfl hp).trans hrun, t', ht' hne ht, rfl, rfl⟩
  | endTag m =>
      refine ⟨p, ?_, t, ht, hp⟩
      have htag : p.data.currentTag = t := congrArg (fun d : XmlUserdata => d.clear.currentTag) hp.1
      have hfound : p.data.cardFound = false :=
        congrArg (fun d : XmlUserdata => d.clear.cardFound) hp.1
      have hparsed : p.data.cardParsed = false :=
        congrArg (fun d : XmlUserdata => d.clear.cardParsed) hp.1
      change sndEndTag m p = _
      unfold sndEndTag
      rw [getData, bind_gets, hparsed, if_neg Bool.false_ne_true,
        if_pos ⟨fun h => ht (htag.symm.trans h), by rw [hfound]; rfl⟩]
      rfl
  | text s =>
      obtain ⟨d, mem⟩ := p
      refine ⟨_, sndHandle_text s d mem, t, ht, ?_, hp.2⟩
      refine Eq.trans ?_ hp.1
      dsimp only
      split_ifs <;> rfl

theorem leads_passesBy {es : List XmlEvent} (hes : ∀ e ∈ es, e ≠ .startTag "card".toList)
    (m : CStr) : Leads (es ++ [.endTag m]) (PassesBy n) (PassesBy n) := by
  have hrun : ∀ (r : List XmlEvent) (p : ParseState), (∀ e ∈ r, e ≠ .startTag "card".toList) →
      PassesBy n p → ∃ p', sndParse r p = .ok ((), p') ∧ PassesBy n p' := by
    intro r
    induction r with
    | nil => exact fun p _ hp => ⟨p, rfl, hp⟩
    | cons e r ih =>
        intro p hr hp
        obtain ⟨q, hq, hpass⟩ := passesBy_handle hp (hr e List.mem_cons_self)
        obtain ⟨p', hp', hpass'⟩ := ih q (fun e he => hr e (List.mem_cons_of_mem _ he)) hpass
        exact ⟨p', by rw [sndParse_cons, bind_of_ok hq, hp'], hpass'⟩
  intro rest r p hr hp
  rw [List.append_assoc, List.singleton_append] at hr
  obtain ⟨r₁, r₂, rfl, hr₁, hr₂⟩ := hr.split
  have hr₁ : ∀ e ∈ r₁, e ≠ .startTag "card".toList := by
    rintro e he rfl
    rcases hr₁.mem _ he with hmem | ⟨s, hs⟩
    · rcases List.mem_append.mp hmem with hmem | hmem
      · exact hes _ hmem rfl
      · exact XmlEvent.noConfusion (List.mem_singleton.mp hmem)
    · exact XmlEvent.noConfusion hs
  obtain ⟨p', hrun₁, hp'⟩ := hrun r₁ p hr₁ hp
  exact ⟨r₂, p', hr₂, hp', sndParse_append hrun₁⟩

theorem leads_searchCard (t : SndTag) :
    Leads [.startTag "card".toList] (Clears (searching n t)) (Stands (searching n .card)) :=
  leads_startTag rfl rfl

/-- No id is the number that is looked for beside a name. -/
theorem leads_searchId (i : IdDoc) :
    Leads (xmlText "id".toList i.text) (Clears (searching n .card))
      (Stands (searching n .card)) := by
  have hne : decimal i.text ≠ UINT_MAX := by
    have hfits := i.fits
    unfold UINT_MAX
    omega
  refine leads_leaf plain_id i.short rfl (.inl rfl) (fun _ => ?_) fun h => absurd h i.nonempty
  change sndParseCardProperties _ _ = _
  unfold sndParseCardProperties
  rw [getData, bind_gets, if_pos rfl]
  change (if toUnsigned (atoi i.text) = UINT_MAX then do
      let found ← sndParseInitializeCardDef
      if found then
        modifyData fun data => data.onCard fun c => { c with card := toUnsigned (atoi i.text) }
      else pure ()
    else pure () : ParseM Unit) _ = _
  rw [atoi_decimal i.digits i.fits, if_neg hne]
  rfl

/-- The tag of a name, while there is no definition: what it does for a token, and for none. -/
theorem sndHandler_name (s : CStr) :
    sndHandler .card "name".toList ⟨(searching n .card).holding s, []⟩ =
      (match (strtok s).find? fun token => n.isPrefixOf token with
      | none => pure ()
      | some token => do
          let found ← sndParseInitializeCardDef
          if found then sndSetCardName token else pure () : ParseM Unit)
        ⟨(searching n .card).holding s, []⟩ := by
  change sndParseCardProperties _ _ = _
  unfold sndParseCardProperties
  rw [getData, bind_gets, if_neg (by decide), if_pos rfl]
  rfl

theorem leads_missedName {c : CardDoc} (h : c.tokenFor n = none) :
    Leads (xmlText "name".toList c.name.text) (Clears (searching n .card))
      (Stands (searching n .card)) := by
  refine leads_leaf plain_name c.name.short rfl (.inl rfl) (fun _ => ?_)
    fun hnil => absurd hnil c.name.nonempty
  refine (sndHandler_name c.name.text).trans ?_
  unfold CardDoc.tokenFor at h
  rw [h]
  rfl

theorem leads_searchEnd :
    Leads [.endTag "card".toList] (Stands (searching n .card)) (Stands (searching n .root)) := by
  refine leads_endTag fun s hs => ?_
  rw [sndEndTag_after (p := ⟨XmlUserdata.holding _ s, []⟩) rfl (.inl rfl)
    (sndProcess_text hs rfl (fun _ => rfl) fun _ => rfl)]
  rfl

/-- The devices of a card that is passed by, and its end. -/
theorem leads_missedDevs (devs : List DevDoc) :
    Leads (devs.flatMap DevDoc.events ++ [.endTag "card".toList]) (Stands (searching n .card))
      (PassesBy n) := by
  cases devs with
  | nil => exact leads_searchEnd.post fun p hp => ⟨.root, by decide, hp.clears⟩
  | cons d devs =>
      have hstart : Leads [.startTag d.nodeType.tag] (Stands (searching n .card))
          (PassesBy n) := by
        have hrun := leads_startTag (d := searching n .card) (x := searching n .device)
          (n := d.nodeType.tag) rfl (by cases d.nodeType <;> rfl)
        exact (hrun.pre fun _ => Stands.clears).post fun p hp => ⟨.device, by decide, hp.clears⟩
      have hrest : ∀ e ∈ d.inner ++ [.endTag d.nodeType.tag] ++ devs.flatMap DevDoc.events,
          e ≠ .startTag "card".toList := by
        intro e he
        rcases List.mem_append.mp he with he | he
        · exact d.not_card e (List.mem_cons_of_mem _ he)
        · obtain ⟨d', -, he⟩ := List.mem_flatMap.mp he
          exact d'.not_card e he
      rw [List.flatMap_cons]
      exact hstart.cons (leads_passesBy hrest _)

theorem leads_missedCard {c : CardDoc} (h : c.tokenFor n = none) (t : SndTag) :
    Leads c.events (Clears (searching n t)) (PassesBy n) := by
  have hid := (@leads_searchCard n t).cons ((leads_searchId c.id).pre fun _ => Stands.clears)
  have hhead := hid.append ((leads_missedName h).pre fun _ => Stands.clears)
  exact hhead.append (leads_missedDevs c.devs)

/-- Between the cards.  The current tag is that of a card only if the root has the same tag. -/
def BetweenNames (root n : CStr) (p : ParseState) : Prop :=
  PassesBy n p ∨ root = "card".toList ∧ Stands (searching n .card) p

variable {root : CStr}

theorem leads_searchRoot :
    Leads [.startTag root] (Clears (searching n .root)) (BetweenNames root n) := by
  obtain ⟨t, hrun, ht⟩ := @startTag_searching n root .root
  refine (leads_startTag rfl hrun).post fun p hp => ?_
  by_cases hroot : root = "card".toList
  · subst hroot
    have hcard : sndStartTag "card".toList ⟨(searching n .root).clear, []⟩ =
        .ok ((), ⟨(searching n .card).clear, []⟩) := rfl
    cases hrun.symm.trans hcard
    exact .inr ⟨rfl, hp⟩
  · exact .inl ⟨t, ht hroot (by decide), hp.clears⟩

/-- From between the cards into the next one. -/
theorem BetweenNames.leads {es : List XmlEvent} {Q : ParseState → Prop}
    (h : ∀ t, Leads es (Clears (searching n t)) Q) : Leads es (BetweenNames root n) Q := by
  rintro rest r p hr (⟨t, -, hp⟩ | ⟨-, hp⟩)
  · exact h t rest r p hr hp
  · exact h .card rest r p hr hp.clears

theorem leads_missed {cards : List CardDoc} (h : ∀ c ∈ cards, c.tokenFor n = none) :
    Leads (cards.flatMap CardDoc.events) (BetweenNames root n) (BetweenNames root n) := by
  induction cards with
  | nil => exact Leads.nil fun _ h => h
  | cons c cards ih =>
      rw [List.flatMap_cons]
      refine (BetweenNames.leads fun t => ?_).append (ih fun c hc => ?_)
      · exact (leads_missedCard (h c List.mem_cons_self) t).post fun _ => .inl
      · exact h c (List.mem_cons_of_mem _ hc)

theorem leads_searchRootEnd : Leads [.endTag root] (BetweenNames root n) (PassesBy n) := by
  rintro rest r p hr (hp | ⟨rfl, hp⟩)
  · exact @leads_passesBy n [] (by simp) root rest r p hr hp
  · exact (leads_searchEnd.post fun p hp => ⟨.root, by decide, hp.clears⟩) rest r p hr hp

/-! ### The card with the token -/

/-- Behind the name the definition is there, called by the token. -/
theorem leads_hitName {c : CardDoc} {token : CStr} (h : c.tokenFor n = some token) :
    Leads (xmlText "name".toList c.name.text) (Clears (searching n .card)) fun p =>
      ∃ q, Stands (found UINT_MAX { name := some token } none .card) q ∧ p = q.named n := by
  have hleaf : Leads (xmlText "name".toList c.name.text) (Clears (searching n .card))
      (Stands { found UINT_MAX { name := some token } none .card with cardName := some n }) := by
    refine leads_leaf plain_name c.name.short rfl (.inl rfl) (fun _ => ?_)
      fun hnil => absurd hnil c.name.nonempty
    refine (sndHandler_name c.name.text).trans ?_
    unfold CardDoc.tokenFor at h
    rw [h]
    rfl
  refine hleaf.post fun p hp => ⟨⟨(found UINT_MAX { name := some token } none .card).clear, []⟩,
    rfl, hp⟩

/-- The rest of the card and of the document. -/
theorem parse_hit {c : CardDoc} {token : CStr} {rest r : List XmlEvent} {q : ParseState}
    (hr : CallsOf (c.devs.flatMap DevDoc.events ++ [.endTag "card".toList] ++ rest) r)
    (hq : Stands (found UINT_MAX { name := some token } none .card) q) :
    ∃ p, sndParse r (q.named n) = .ok ((), p) ∧ p.data.curCardDef = some (c.denoteAs token) := by
  have hleads : Leads (c.devs.flatMap DevDoc.events ++ [.endTag "card".toList])
      (Stands (found UINT_MAX { name := some token } none .card)) (Parsed (c.denoteAs token)) := by
    refine (leads_devs c.devs none).append ?_
    rintro rest r p hr ⟨cur, hp⟩
    rw [push_devs] at hp
    exact leads_cardEnd cur rest r p hr hp
  obtain ⟨r', p, -, hp, hrun⟩ := hleads rest r q hr hq
  obtain ⟨p', hrest, hcur⟩ := parsed_run hp r'
  have hsame := unread_parse (n := n) r q (by rw [hq]; exact Option.some_ne_none _)
  rw [hrun, hrest] at hsame
  generalize hend : sndParse r (q.named n) = x at hsame
  cases hsame with
  | returns _ hst =>
      obtain ⟨rfl, -⟩ := hst
      exact ⟨_, rfl, hcur⟩

end searching

/-! ### Documents and requests -/

/-- The parser finds what the document denotes for the name. -/
theorem sndParse_denotesName (doc : Document) (n : CStr) {events : List XmlEvent}
    (h : CallsOf doc.events events) :
    sndParseCard ⟨some n, UINT_MAX⟩ events [] = .ok (doc.denoteName n) := by
  have hinit : Clears (searching n .root) ⟨{ card := UINT_MAX, cardName := some n }, []⟩ :=
    ⟨rfl, rfl⟩
  have hends : ∃ p, sndParse events ⟨{ card := UINT_MAX, cardName := some n }, []⟩ = .ok ((), p) ∧
      p.data.curCardDef = doc.denoteName n := by
    unfold Document.denoteName
    cases hfind : doc.cards.findSome? fun c => (c.tokenFor n).map c.denoteAs with
    | none =>
        have hmissed : ∀ c ∈ doc.cards, c.tokenFor n = none := fun c hc => by
          simpa using List.findSome?_eq_none_iff.mp hfind c hc
        have hleads := (leads_searchRoot.cons (leads_missed hmissed)).append
          (@leads_searchRootEnd n doc.root)
        rw [← List.append_nil doc.events] at h
        obtain ⟨r, p, hr, ⟨t, -, hp⟩, hrun⟩ := hleads [] events _ h hinit
        rw [hr.nil_inv] at hrun
        exact ⟨p, hrun, congrArg (fun d : XmlUserdata => d.clear.curCardDef) hp.1⟩
    | some cardDef =>
        obtain ⟨before, c, after, hcards, hc, hmissed⟩ := List.findSome?_eq_some_iff.mp hfind
        obtain ⟨token, htoken, rfl⟩ := Option.map_eq_some_iff.mp hc
        have hmissed : ∀ c ∈ before, c.tokenFor n = none := fun c hc => by
          simpa using hmissed c hc
        have hhead := (@BetweenNames.leads n doc.root _ _ fun t => leads_searchCard t).cons
          (((leads_searchId c.id).pre fun _ => Stands.clears).append
            ((leads_hitName htoken).pre fun _ => Stands.clears))
        have hleads := (leads_searchRoot.cons (leads_missed hmissed)).append hhead
        have hevents : doc.events =
            .startTag doc.root :: before.flatMap CardDoc.events ++
                (.startTag "card".toList ::
                  (xmlText "id".toList c.id.text ++ xmlText "name".toList c.name.text)) ++
              (c.devs.flatMap DevDoc.events ++ [.endTag "card".toList] ++
                (after.flatMap CardDoc.events ++ [.endTag doc.root])) := by
          unfold Document.events
          rw [hcards]
          simp [CardDoc.events]
        rw [hevents] at h
        obtain ⟨r, _, hr, ⟨q, hq, rfl⟩, hrun⟩ := hleads _ events _ h hinit
        obtain ⟨p', hrest, hcur⟩ := parse_hit hr hq
        exact ⟨p', hrun.trans hrest, hcur⟩
  obtain ⟨p, hrun, hcur⟩ := hends
  unfold sndParseCard
  dsimp only
  rw [hrun]
  exact congrArg Except.ok hcur

/-- A name with which no cached definition's name begins is not found in the cache. -/
theorem sndFindCard_missName {req : CardRequest} {n : CStr} (hreq : req.name = some n)
    {nodes : List (ℕ × SndDevDefCard)}
    (h : ∀ node ∈ nodes, ∃ name, node.2.name = some name ∧ n.isPrefixOf name = false)
    (g : SndState) : sndFindCard req nodes g = .ok (none, g) := by
  induction nodes with
  | nil => rfl
  | cons node nodes ih =>
      obtain ⟨name, hname, hbegins⟩ := h node List.mem_cons_self
      have hmatch : sndCardMatches req node.2 g = .ok (false, g) := by
        unfold sndCardMatches
        rw [hreq, hname]
        dsimp only
        rw [hbegins]
        rfl
      unfold sndFindCard
      rw [bind_of_ok hmatch, if_neg Bool.false_ne_true]
      exact ih fun node hnode => h node (List.mem_cons_of_mem _ hnode)

/-- What the parser found goes to the head of the cache. -/
def SndState.fetch (g : SndState) (addr : ℕ) : Option SndDevDefCard → Option ℕ × SndState
  | none => (none, g)
  | some c => (some (sndNewAddr addr g.sndCardList), g.addCard (sndNewAddr addr g.sndCardList) c)

/-- A card that is not in the cache is read from the document. -/
theorem getCard_fresh {req : CardRequest} {e : CardEnv} {x : Option SndDevDefCard} {card : ℕ}
    (hreq : ∀ g, sndReadProcId card e g = .ok (some req, g))
    (hopens : e.cardDefFile = true ∧ e.parser = true ∧ e.parsed = true)
    (hparse : sndParseCard req e.events e.mem = .ok x) (hnew : ∀ c ∈ x, c.refcnt = 0)
    {g : SndState} (hfree : g.sndRwlock = {})
    (hmiss : ∀ g', sndFindCard req g.initList.sndCardList g' = .ok (none, g')) :
    sndCardDefGetCard card e g = .ok (g.initList.fetch e.addr x) := by
  obtain ⟨cards, init, lock⟩ := g
  obtain rfl : lock = {} := hfree
  rw [SndState.initList_mk] at hmiss ⊢
  unfold sndCardDefGetCard
  rw [bind_of_ok (hreq _)]
  dsimp only
  refine (bind_of_ok (a := ()) (t := ⟨cards, init, ⟨0, true⟩⟩) rfl).trans ?_
  rw [bind_modify, SndState.initList_mk, bind_gets, bind_of_ok (hmiss _)]
  dsimp only
  rw [hopens.1, hopens.2.1, Bool.not_true, if_neg Bool.false_ne_true, if_neg Bool.false_ne_true]
  unfold sndReadCard
  rw [bind_gets, hparse]
  dsimp only
  rw [hopens.2.2, Bool.not_true, if_neg Bool.false_ne_true]
  cases x with
  | none => rfl
  | some c =>
      obtain ⟨number, name, refcnt, pcm, mixer, compr⟩ := c
      obtain rfl : refcnt = 0 := hnew _ rfl
      rfl

/-- The id that the kernel shows for the card. -/
theorem sndReadProcId_line {e : CardEnv} {n : CStr} {newline : Char}
    (hline : e.procId = .line (n ++ [newline])) (hblock : e.nameBlock = true) (card : ℕ)
    (g : SndState) : sndReadProcId card e g = .ok (some ⟨some n, UINT_MAX⟩, g) := by
  unfold sndReadProcId
  rw [hline]
  dsimp only
  rw [hblock, if_neg (by decide), if_neg (by simp), List.dropLast_concat]
  rfl

theorem Document.denoteName_new {doc : Document} {n : CStr} {c : SndDevDefCard}
    (h : c ∈ doc.denoteName n) : c.refcnt = 0 := by
  obtain ⟨_, -, hc⟩ := List.exists_of_findSome?_eq_some h
  obtain ⟨_, -, rfl⟩ := Option.map_eq_some_iff.mp hc
  rfl

/-- For a name that no cached definition's name begins with, the call returns what the document
denotes for it: nothing, or the definition of the first card that has a token of its name begin
with it, called by this token and with the number 0.  The number asked for plays no part. -/
theorem document_denotes_name (doc : Document) {events : List XmlEvent}
    (hevents : CallsOf doc.events events) (card addr : ℕ) (n : CStr) (newline : Char) (g : SndState)
    (hfree : g.sndRwlock = {})
    (hmiss : ∀ node ∈ g.initList.sndCardList,
      ∃ name, node.2.name = some name ∧ n.isPrefixOf name = false) :
    sndCardDefGetCard card { procId := .line (n ++ [newline]), events, addr } g = .ok
      (match doc.denoteName n with
      | none => (none, g.initList)
      | some c =>
          (some (sndNewAddr addr g.initList.sndCardList),
            g.initList.addCard (sndNewAddr addr g.initList.sndCardList) c)) := by
  rw [getCard_fresh (sndReadProcId_line rfl rfl card) ⟨rfl, rfl, rfl⟩
    (sndParse_denotesName doc n hevents) (fun _ => Document.denoteName_new) hfree
    (sndFindCard_missName rfl hmiss)]
  cases doc.denoteName n <;> rfl

/-- The second of two cards has a token that begins with the name. -/
theorem twoCards_named :
    sndCardDefGetCard 3
      { procId := .line "sou\n".toList
        events := [.startTag "defs".toList,
          .startTag "card".toList,
          .startTag "id".toList, .text "1".toList, .endTag "id".toList,
          .startTag "name".toList, .text "a".toList, .endTag "name".toList,
          .startTag "mixer".toList,
          .startTag "id".toList, .text "9".toList, .endTag "id".toList,
          .startTag "name".toList, .text "m".toList, .endTag "name".toList,
          .endTag "mixer".toList, .endTag "card".toList, .startTag "card".toList,
          .startTag "id".toList, .text "7".toList, .endTag "id".toList,
          .startTag "name".toList, .text "so".toList, .text "und".toList, .endTag "name".toList,
          .startTag "compress-device".toList,
          .startTag "id".toList, .text "40".toList, .endTag "id".toList,
          .startTag "name".toList, .text "offload".toList, .endTag "name".toList,
          .startTag "a-plugin".toList,
          .startTag "so-name".toList, .text "libagm.so".toList, .endTag "so-name".toList,
          .endTag "a-plugin".toList, .startTag "props".toList,
          .startTag "capture".toList, .text "0".toList, .endTag "capture".toList,
          .startTag "hostless".toList, .endTag "hostless".toList, .endTag "props".toList,
          .endTag "compress-device".toList, .endTag "card".toList, .endTag "defs".toList],
        addr := 0 } {} =
      .ok (some 0,
        { sndCardList := [(0,
            { card := 0
              name := some "sound".toList
              comprDevsList := [
                { nodeType := .compr
                  device := 40
                  type := .plugin
                  name := some "offload".toList
                  soName := some "libagm.so".toList
                  propValList := [⟨"capture".toList, "0".toList⟩] }]
              refcnt := 1 })]
          sndCardListInit := true }) :=
  (document_denotes_name twoCards
    (.startTag _ [] (by decide) (.startTag _ [] (by decide)
      (.startTag _ [] (by decide) (.text _ _ ["1".toList] rfl
        (.startTag _ [] (by decide) (.text _ _ ["a".toList] rfl
          (.startTag _ [] (by decide)
            (.startTag _ [] (by decide) (.text _ _ ["9".toList] rfl
              (.startTag _ [] (by decide) (.text _ _ ["m".toList] rfl
                (.endTag _ [] (by decide) (.endTag _ [] (by decide)
                  (.startTag _ [] (by decide)
                    (.startTag _ [] (by decide) (.text _ _ ["7".toList] rfl
                      (.startTag _ [] (by decide) (.text _ _ ["so".toList, "und".toList] rfl
                        (.startTag _ [] (by decide)
                          (.startTag _ [] (by decide) (.text _ _ ["40".toList] rfl
                            (.startTag _ [] (by decide) (.text _ _ ["offload".toList] rfl
                              (.startTag _ [] (by decide)
                                (.startTag _ [] (by decide) (.text _ _ ["libagm.so".toList] rfl
                                  (.endTag _ [] (by decide) (.startTag _ [] (by decide)
                                    (.startTag _ [] (by decide) (.text _ _ ["0".toList] rfl
                                      (.startTag _ [] (by decide) (.text _ _ [] rfl
                                        (.endTag _ [] (by decide) (.endTag _ [] (by decide)
                                          (.endTag _ [] (by decide) (.endTag _ [] (by decide)
                                            .nil))))))))))))))))))))))))))))))))))))
    3 0 "sou".toList '\n' {} rfl (by decide)).trans (by decide)

end Agm
