import Agm.SndCards

/-! # The documents of card definitions (`card-defs.xml`)

A document has a list of cards under its root; a card has an id, a name and devices, a device an id,
a name, an element for its plugin and one for its properties.  `Document.denote` is the definition
that the document gives for the number of a card.

* **Callbacks.**  `Document.events` are the tags and the texts of the elements in order.  `CallsOf`
  relates them to the callbacks of expat: a text comes in any pieces, and between two tags there
  may be any text that is shorter than the buffer.
* **Runs.**  `Leads es P Q` says that the callbacks for `es` take the parser from `P` to `Q`.
* **Other cards.**  Within a card that is not looked for, the current tag is not set back after the
  first device (`PassesOver`): every tag up to the next card is passed over.

`document_denotes`: what the parser returns for a number is what the document denotes. -/

namespace Agm

open Prog

/-! ### Documents -/

def xmlNames : List CStr :=
  ["card", "id", "name", "mixer", "pcm-device", "compress-device", "so-name", "props"].map
    String.toList

/-- The number that a decimal denotes. -/
def decimal (s : CStr) : ℕ := Nat.ofDigits 10 (s.reverse.map fun c => c.toNat - '0'.toNat)

/-- The text of an id. -/
structure IdDoc where
  text : CStr
  nonempty : text ≠ []
  digits : ∀ c ∈ text, c.isDigit
  fits : decimal text < 2 ^ 31
  short : text.length < BUF_SIZE

/-- The text of a name. -/
structure NameDoc where
  text : CStr
  nonempty : text ≠ []
  short : text.length < BUF_SIZE

/-- A property; its text may be empty. -/
structure PropDoc where
  tag : CStr
  text : CStr
  nonempty : tag ≠ []
  plain : strstr tag "plugin".toList = false
  fresh : tag ∉ xmlNames
  short : text.length < BUF_SIZE

/-- The element of a plugin. -/
structure PluginDoc where
  tag : CStr
  soName : NameDoc
  plugin : strstr tag "plugin".toList = true

structure DevDoc where
  nodeType : SndNodeType
  id : IdDoc
  name : NameDoc
  plugin : Option PluginDoc
  props : Option (List PropDoc)

structure CardDoc where
  id : IdDoc
  name : NameDoc
  devs : List DevDoc

structure Document where
  root : CStr
  cards : List CardDoc

/-! ### What a document denotes -/

/-- The properties with a text. -/
def propVals (props : List PropDoc) : List SndPropValPair :=
  (props.filter fun p => !p.text.isEmpty).map fun p => ⟨p.tag, p.text⟩

def DevDoc.denote (d : DevDoc) : SndDevDef where
  nodeType := d.nodeType
  device := decimal d.id.text
  type := if d.plugin.isSome then .plugin else .hw
  name := some d.name.text
  soName := d.plugin.map fun p => p.soName.text
  propValList := propVals (d.props.getD [])

/-- The devices of a type in the order of the document. -/
def devsOf (t : SndNodeType) (devs : List DevDoc) : List SndDevDef :=
  (devs.filter fun d => d.nodeType = t).map DevDoc.denote

def CardDoc.denote (c : CardDoc) : SndDevDefCard where
  card := decimal c.id.text
  name := some c.name.text
  pcmDevsList := devsOf .pcm c.devs
  mixerDevsList := devsOf .mixer c.devs
  comprDevsList := devsOf .compr c.devs

/-- The first card with the number. -/
def Document.denote (doc : Document) (card : ℕ) : Option SndDevDefCard :=
  (doc.cards.find? fun c => decimal c.id.text = card).map CardDoc.denote

/-! ### The callbacks for a document -/

/-- The tag of the devices of a type. -/
def SndNodeType.tag : SndNodeType → CStr
  | .pcm => "pcm-device".toList
  | .compr => "compress-device".toList
  | .mixer => "mixer".toList

def PropDoc.events (p : PropDoc) : List XmlEvent := xmlText p.tag p.text

def PluginDoc.events (p : PluginDoc) : List XmlEvent :=
  .startTag p.tag :: xmlText "so-name".toList p.soName.text ++ [.endTag p.tag]

def propsEvents (props : List PropDoc) : List XmlEvent :=
  .startTag "props".toList :: props.flatMap PropDoc.events ++ [.endTag "props".toList]

/-- What is between the tags of a device. -/
def DevDoc.inner (d : DevDoc) : List XmlEvent :=
  xmlText "id".toList d.id.text ++ xmlText "name".toList d.name.text ++
    (d.plugin.elim [] PluginDoc.events ++ d.props.elim [] propsEvents)

def DevDoc.events (d : DevDoc) : List XmlEvent :=
  .startTag d.nodeType.tag :: d.inner ++ [.endTag d.nodeType.tag]

def CardDoc.events (c : CardDoc) : List XmlEvent :=
  .startTag "card".toList :: xmlText "id".toList c.id.text ++ xmlText "name".toList c.name.text ++
    (c.devs.flatMap DevDoc.events ++ [.endTag "card".toList])

def Document.events (doc : Document) : List XmlEvent :=
  .startTag doc.root :: doc.cards.flatMap CardDoc.events ++ [.endTag doc.root]

/-- The callbacks of expat for a list of tags and texts. -/
inductive CallsOf : List XmlEvent → List XmlEvent → Prop
  | nil : CallsOf [] []
  | startTag {es es' : List XmlEvent} (tagName : CStr) (gap : List CStr)
      (hgap : gap.flatten.length < BUF_SIZE) (rest : CallsOf es es') :
      CallsOf (.startTag tagName :: es) (gap.map .text ++ .startTag tagName :: es')
  | endTag {es es' : List XmlEvent} (tagName : CStr) (gap : List CStr)
      (hgap : gap.flatten.length < BUF_SIZE) (rest : CallsOf es es') :
      CallsOf (.endTag tagName :: es) (gap.map .text ++ .endTag tagName :: es')
  /-- The text of an element, in pieces. -/
  | text {es es' : List XmlEvent} (tagName s : CStr) (pieces : List CStr) (hs : pieces.flatten = s)
      (rest : CallsOf es es') :
      CallsOf (.text s :: .endTag tagName :: es) (pieces.map .text ++ .endTag tagName :: es')

theorem CallsOf.startTag_inv {n : CStr} {es r : List XmlEvent}
    (h : CallsOf (.startTag n :: es) r) : ∃ (gap : List CStr) (es' : List XmlEvent),
      gap.flatten.length < BUF_SIZE ∧ CallsOf es es' ∧
        r = gap.map .text ++ .startTag n :: es' := by
  cases h with
  | startTag _ gap hgap rest => exact ⟨gap, _, hgap, rest, rfl⟩

theorem CallsOf.endTag_inv {n : CStr} {es r : List XmlEvent}
    (h : CallsOf (.endTag n :: es) r) : ∃ (gap : List CStr) (es' : List XmlEvent),
      gap.flatten.length < BUF_SIZE ∧ CallsOf es es' ∧ r = gap.map .text ++ .endTag n :: es' := by
  cases h with
  | endTag _ gap hgap rest => exact ⟨gap, _, hgap, rest, rfl⟩

theorem CallsOf.text_inv {n s : CStr} {es r : List XmlEvent}
    (h : CallsOf (.text s :: .endTag n :: es) r) :
    ∃ (pieces : List CStr) (es' : List XmlEvent), pieces.flatten = s ∧ CallsOf es es' ∧
      r = pieces.map .text ++ .endTag n :: es' := by
  cases h with
  | text _ _ pieces hs rest => exact ⟨pieces, _, hs, rest, rfl⟩

theorem CallsOf.nil_inv {r : List XmlEvent} (h : CallsOf [] r) : r = [] := by
  cases h
  rfl

/-- After an end tag the callbacks can be split. -/
theorem CallsOf.split {n : CStr} {rest : List XmlEvent} :
    ∀ {es r : List XmlEvent}, CallsOf (es ++ .endTag n :: rest) r →
      ∃ r₁ r₂, r = r₁ ++ r₂ ∧ CallsOf (es ++ [.endTag n]) r₁ ∧ CallsOf rest r₂
  | [], _, h => by
      obtain ⟨gap, r₂, hgap, hrest, rfl⟩ := h.endTag_inv
      exact ⟨gap.map XmlEvent.text ++ [XmlEvent.endTag n], r₂,
        by rw [List.append_assoc, List.singleton_append], .endTag n gap hgap .nil, hrest⟩
  | .startTag m :: es, _, h => by
      obtain ⟨gap, es', hgap, hes, rfl⟩ := h.startTag_inv
      obtain ⟨r₁, r₂, rfl, h₁, h₂⟩ := @CallsOf.split n rest es _ hes
      exact ⟨gap.map XmlEvent.text ++ XmlEvent.startTag m :: r₁, r₂,
        by rw [List.append_assoc, List.cons_append], .startTag m gap hgap h₁, h₂⟩
  | .endTag m :: es, _, h => by
      obtain ⟨gap, es', hgap, hes, rfl⟩ := h.endTag_inv
      obtain ⟨r₁, r₂, rfl, h₁, h₂⟩ := @CallsOf.split n rest es _ hes
      exact ⟨gap.map XmlEvent.text ++ XmlEvent.endTag m :: r₁, r₂,
        by rw [List.append_assoc, List.cons_append], .endTag m gap hgap h₁, h₂⟩
  | [.text s], _, h => by
      obtain ⟨pieces, r₂, hs, hrest, rfl⟩ := h.text_inv
      exact ⟨pieces.map XmlEvent.text ++ [XmlEvent.endTag n], r₂,
        by rw [List.append_assoc, List.singleton_append], .text n s pieces hs .nil, hrest⟩
  | .text s :: .endTag m :: es, _, h => by
      obtain ⟨pieces, es', hs, hes, rfl⟩ := h.text_inv
      obtain ⟨r₁, r₂, rfl, h₁, h₂⟩ := @CallsOf.split n rest es _ hes
      exact ⟨pieces.map XmlEvent.text ++ XmlEvent.endTag m :: r₁, r₂,
        by rw [List.append_assoc, List.cons_append], .text m s pieces hs h₁, h₂⟩
  | .text _ :: .startTag _ :: _, _, h => nomatch h
  | .text _ :: .text _ :: _, _, h => nomatch h

/-- Every callback is one of the document or a text. -/
theorem CallsOf.mem {es r : List XmlEvent} (h : CallsOf es r) :
    ∀ e ∈ r, e ∈ es ∨ ∃ s, e = .text s := by
  have htexts : ∀ {pieces : List CStr} {e : XmlEvent}, e ∈ pieces.map XmlEvent.text →
      ∃ s, e = .text s := by
    intro pieces e he
    obtain ⟨s, -, rfl⟩ := List.mem_map.mp he
    exact ⟨s, rfl⟩
  induction h with
  | nil => intro e he; exact absurd he List.not_mem_nil
  | startTag n gap hgap rest ih =>
      intro e he
      rcases List.mem_append.mp he with he | he
      · exact .inr (htexts he)
      rcases List.mem_cons.mp he with rfl | he
      · exact .inl List.mem_cons_self
      · exact (ih e he).imp_left (List.mem_cons_of_mem _)
  | endTag n gap hgap rest ih =>
      intro e he
      rcases List.mem_append.mp he with he | he
      · exact .inr (htexts he)
      rcases List.mem_cons.mp he with rfl | he
      · exact .inl List.mem_cons_self
      · exact (ih e he).imp_left (List.mem_cons_of_mem _)
  | text n s pieces hs rest ih =>
      intro e he
      rcases List.mem_append.mp he with he | he
      · exact .inr (htexts he)
      rcases List.mem_cons.mp he with rfl | he
      · exact .inl (List.mem_cons_of_mem _ List.mem_cons_self)
      · exact (ih e he).imp_left fun he => List.mem_cons_of_mem _ (List.mem_cons_of_mem _ he)

/-! ### Runs -/

theorem sndParse_cons (e : XmlEvent) (es : List XmlEvent) (p : ParseState) :
    sndParse (e :: es) p = (sndHandle e >>= fun _ => sndParse es) p := rfl

theorem sndParse_append {es es' : List XmlEvent} {p p' : ParseState}
    (h : sndParse es p = .ok ((), p')) : sndParse (es ++ es') p = sndParse es' p' := by
  induction es generalizing p with
  | nil =>
      cases h
      rfl
  | cons e es ih =>
      rw [sndParse_cons] at h
      rw [List.cons_append, sndParse_cons]
      cases hrun : sndHandle e p with
      | error c =>
          rw [bind_of_error hrun] at h
          cases h
      | ok q =>
          obtain ⟨⟨⟩, q⟩ := q
          rw [bind_of_ok hrun] at h
          rw [bind_of_ok hrun]
          exact ih h

/-- The state of the parser but for its text. -/
def XmlUserdata.clear (d : XmlUserdata) : XmlUserdata := { d with dataBuf := [], offs := 0 }

/-- With a text that is in the buffer. -/
def XmlUserdata.holding (d : XmlUserdata) (s : CStr) : XmlUserdata :=
  { d with dataBuf := s, offs := s.length }

theorem sndHandle_text (s : CStr) (d : XmlUserdata) (mem : List Bool) :
    sndHandle (.text s) ⟨d, mem⟩ = .ok ((),
      ⟨if BUF_SIZE ≤ s.length + d.offs then { d with offs := d.offs + s.length }
        else { d with dataBuf := d.dataBuf ++ s, offs := d.offs + s.length }, mem⟩) := rfl

/-- Texts change the buffer only; what fits is put together. -/
theorem sndParse_texts (pieces : List CStr) (p : ParseState) :
    ∃ p', sndParse (pieces.map .text) p = .ok ((), p') ∧ p'.data.clear = p.data.clear ∧
      p'.mem = p.mem ∧ ∀ (s : CStr) (d : XmlUserdata), p = ⟨d.holding s, []⟩ →
        (s ++ pieces.flatten).length < BUF_SIZE → p' = ⟨d.holding (s ++ pieces.flatten), []⟩ := by
  induction pieces generalizing p with
  | nil =>
      refine ⟨p, rfl, rfl, rfl, fun s d hp _ => ?_⟩
      rw [hp, List.flatten_nil, List.append_nil]
  | cons t pieces ih =>
      obtain ⟨d, mem⟩ := p
      by_cases hfit : BUF_SIZE ≤ t.length + d.offs
      · obtain ⟨p', hrun, hclear, hmem, -⟩ := ih ⟨{ d with offs := d.offs + t.length }, mem⟩
        refine ⟨p', ?_, hclear, hmem, fun s d' hp hlen => ?_⟩
        · rw [List.map_cons, sndParse_cons, bind_of_ok (sndHandle_text t d mem), if_pos hfit]
          exact hrun
        · cases hp
          rw [List.flatten_cons, List.length_append, List.length_append] at hlen
          have hoffs : (d'.holding s).offs = s.length := rfl
          omega
      · obtain ⟨p', hrun, hclear, hmem, htext⟩ :=
          ih ⟨{ d with dataBuf := d.dataBuf ++ t, offs := d.offs + t.length }, mem⟩
        refine ⟨p', ?_, hclear, hmem, fun s d' hp hlen => ?_⟩
        · rw [List.map_cons, sndParse_cons, bind_of_ok (sndHandle_text t d mem), if_neg hfit]
          exact hrun
        · cases hp
          rw [List.flatten_cons, ← List.append_assoc] at hlen ⊢
          refine htext (s ++ t) d' ?_ hlen
          unfold XmlUserdata.holding
          rw [List.length_append]

/-- The callbacks for `es` lead from `P` to `Q`. -/
def Leads (es : List XmlEvent) (P Q : ParseState → Prop) : Prop :=
  ∀ (rest r : List XmlEvent) (p : ParseState), CallsOf (es ++ rest) r → P p →
    ∃ r' p', CallsOf rest r' ∧ Q p' ∧ sndParse r p = sndParse r' p'

/-- In the state, with nothing in the buffer. -/
def Stands (d : XmlUserdata) (p : ParseState) : Prop := p = ⟨d.clear, []⟩

/-- In the state, whatever is in the buffer. -/
def Clears (d : XmlUserdata) (p : ParseState) : Prop := p.data.clear = d.clear ∧ p.mem = []

section
variable {es es₁ es₂ : List XmlEvent} {P Q R : ParseState → Prop} {d x : XmlUserdata}
  {p : ParseState} {n s : CStr}

theorem Stands.clears (h : Stands d p) : Clears d p := by
  cases h
  exact ⟨rfl, rfl⟩

theorem Leads.nil (h : ∀ p, P p → Q p) : Leads [] P Q :=
  fun _ r p hr hP => ⟨r, p, hr, h p hP, rfl⟩

theorem Leads.append (h₁ : Leads es₁ P Q) (h₂ : Leads es₂ Q R) : Leads (es₁ ++ es₂) P R := by
  intro rest r p hr hP
  rw [List.append_assoc] at hr
  obtain ⟨r₁, p₁, hr₁, hQ, hrun₁⟩ := h₁ (es₂ ++ rest) r p hr hP
  obtain ⟨r₂, p₂, hr₂, hR, hrun₂⟩ := h₂ rest r₁ p₁ hr₁ hQ
  exact ⟨r₂, p₂, hr₂, hR, hrun₁.trans hrun₂⟩

theorem Leads.cons {e : XmlEvent} (h₁ : Leads [e] P Q) (h₂ : Leads es Q R) : Leads (e :: es) P R :=
  h₁.append h₂

theorem Leads.pre {P' : ParseState → Prop} (h : Leads es P Q) (hP : ∀ p, P' p → P p) :
    Leads es P' Q :=
  fun rest r p hr hp => h rest r p hr (hP p hp)

theorem Leads.post {Q' : ParseState → Prop} (h : Leads es P Q) (hQ : ∀ p, Q p → Q' p) :
    Leads es P Q' := by
  intro rest r p hr hp
  obtain ⟨r', p', hr', hp', hrun⟩ := h rest r p hr hp
  exact ⟨r', p', hr', hQ p' hp', hrun⟩

/-- The start tag empties the buffer. -/
theorem sndStartTag_fresh (h : p.data.cardParsed = false) :
    sndStartTag n p = (do
      sndEnterCard n
      sndEnterDevice n
      let data ← getData
      if data.currentTag ≠ .card ∧ !data.cardFound then pure ()
      else sndDevDefInit (sndNodeTypeOf n) : ParseM Unit) ⟨p.data.clear, p.mem⟩ := by
  unfold sndStartTag
  rw [getData, bind_gets, h]
  rfl

theorem sndStartTag_clears (hd : d.cardParsed = false) (h : Clears d p) :
    sndStartTag n p = sndStartTag n ⟨d.clear, []⟩ := by
  have hparsed : p.data.cardParsed = d.cardParsed := by
    change p.data.clear.cardParsed = d.clear.cardParsed
    rw [h.1]
  rw [sndStartTag_fresh (hparsed.trans hd), sndStartTag_fresh (p := ⟨d.clear, []⟩) hd, h.1, h.2]
  rfl

theorem leads_startTag (hd : d.cardParsed = false)
    (hrun : sndStartTag n ⟨d.clear, []⟩ = .ok ((), ⟨x.clear, []⟩)) :
    Leads [.startTag n] (Clears d) (Stands x) := by
  intro rest r p hr hp
  obtain ⟨gap, r', -, hr', rfl⟩ := hr.startTag_inv
  obtain ⟨p', hgap, hclear, hmem, -⟩ := sndParse_texts gap p
  refine ⟨r', ⟨x.clear, []⟩, hr', rfl, ?_⟩
  rw [sndParse_append hgap, sndParse_cons, bind_of_ok]
  exact (sndStartTag_clears hd ⟨hclear.trans hp.1, hmem.trans hp.2⟩).trans hrun

/-- An end tag behind another tag. -/
theorem leads_endTag (hrun : ∀ s : CStr, s.length < BUF_SIZE →
      sndEndTag n ⟨d.holding s, []⟩ = .ok ((), ⟨x.clear, []⟩)) :
    Leads [.endTag n] (Stands d) (Stands x) := by
  intro rest r p hr hp
  obtain ⟨gap, r', hshort, hr', rfl⟩ := hr.endTag_inv
  obtain ⟨p', hgap, -, -, htext⟩ := sndParse_texts gap p
  refine ⟨r', ⟨x.clear, []⟩, hr', rfl, ?_⟩
  rw [sndParse_append hgap, sndParse_cons, bind_of_ok]
  rw [htext [] d hp hshort]
  exact hrun _ hshort

/-- An end tag behind the text of its element. -/
theorem leads_textEnd (hs : s.length < BUF_SIZE)
    (hrun : sndEndTag n ⟨d.holding s, []⟩ = .ok ((), ⟨x.clear, []⟩)) :
    Leads [.text s, .endTag n] (Stands d) (Stands x) := by
  intro rest r p hr hp
  obtain ⟨pieces, r', rfl, hr', rfl⟩ := hr.text_inv
  obtain ⟨p', htexts, -, -, htext⟩ := sndParse_texts pieces p
  refine ⟨r', ⟨x.clear, []⟩, hr', rfl, ?_⟩
  rw [sndParse_append htexts, sndParse_cons, bind_of_ok]
  rw [htext [] d hp hs]
  exact hrun

end

/-! ### Numbers -/

theorem digit_not_space {c : Char} (h : c.isDigit) : isSpace c = false := by
  rw [Char.isDigit_iff_toNat] at h
  unfold isSpace
  have hspace : c ≠ ' ' := by
    rintro rfl
    exact absurd h (by decide)
  have htab : ¬ c.toNat ≤ '\r'.toNat := by
    have hr : '\r'.toNat = 13 := rfl
    have h0 : '0'.toNat = 48 := rfl
    omega
  rw [decide_eq_false hspace, decide_eq_false htab]
  simp

/-- The digits are folded from the left. -/
theorem digitsValue_eq {s : CStr} (h : ∀ c ∈ s, c.isDigit) : digitsValue s = decimal s := by
  have hall : s.takeWhile Char.isDigit = s := List.takeWhile_eq_self_iff.mpr h
  unfold digitsValue decimal
  rw [hall, Nat.ofDigits_eq_foldr, List.foldr_map, List.foldr_reverse]
  congr 1
  funext n c
  exact Nat.add_comm _ _

theorem atoi_decimal {s : CStr} (h : ∀ c ∈ s, c.isDigit) (hfits : decimal s < 2 ^ 31) :
    toUnsigned (atoi s) = decimal s := by
  have hspace : s.dropWhile isSpace = s := by
    cases s with
    | nil => rfl
    | cons c s =>
        exact List.dropWhile_cons_of_neg
          (by rw [digit_not_space (h c List.mem_cons_self)]; decide)
  have hmin : atoi s = (min (digitsValue s : ℤ) (2 ^ 63 - 1)).bmod (2 ^ 32) := by
    unfold atoi
    rw [hspace]
    dsimp only
    split
    · exact absurd (h '-' List.mem_cons_self) (by decide)
    · exact absurd (h '+' List.mem_cons_self) (by decide)
    · rfl
  rw [hmin, digitsValue_eq h, toUnsigned, min_eq_left (by omega),
    Int.bmod_eq_of_le (by omega) (by omega)]
  omega

/-! ### Tags -/

/-- A tag that does not change the current tag. -/
structure Plain (n : CStr) : Prop where
  device : sndNodeTypeOf n = none
  plugin : strstr n "plugin".toList = false
  props : n ≠ "props".toList
  card : n ≠ "card".toList

theorem PropDoc.plainTag (p : PropDoc) : Plain p.tag := by
  have hne : ∀ {s : CStr}, s ∈ xmlNames → p.tag ≠ s := by
    rintro s hs rfl
    exact p.fresh hs
  refine ⟨?_, p.plain, hne (by decide), hne (by decide)⟩
  unfold sndNodeTypeOf
  rw [if_neg (hne (by decide)), if_neg (hne (by decide)), if_neg (hne (by decide))]

theorem PluginDoc.tag_ne (p : PluginDoc) {s : CStr} (hs : strstr s "plugin".toList = false) :
    p.tag ≠ s := by
  rintro rfl
  exact Bool.noConfusion (p.plugin.symm.trans hs)

theorem PluginDoc.nodeTypeOf (p : PluginDoc) : sndNodeTypeOf p.tag = none := by
  unfold sndNodeTypeOf
  rw [if_neg (p.tag_ne (by decide)), if_neg (p.tag_ne (by decide)), if_neg (p.tag_ne (by decide))]

theorem plain_id : Plain "id".toList := ⟨by decide, by decide, by decide, by decide⟩

theorem plain_name : Plain "name".toList := ⟨by decide, by decide, by decide, by decide⟩

theorem plain_soName : Plain "so-name".toList := ⟨by decide, by decide, by decide, by decide⟩

theorem sndNodeTypeOf_tag (t : SndNodeType) : sndNodeTypeOf t.tag = some t := by
  cases t with
  | pcm => rfl
  | mixer => rfl
  | compr => rfl

/-! ### The handlers of the tags -/

section
variable {d x : XmlUserdata} {p q : ParseState} {n s : CStr}

theorem sndDevDefInit_none (p : ParseState) : sndDevDefInit none p = .ok ((), p) := by
  unfold sndDevDefInit
  rw [getData, bind_gets]
  split <;> rfl

theorem startTag_plain (hn : Plain n) (hd : d.cardParsed = false) :
    sndStartTag n ⟨d.clear, []⟩ = .ok ((), ⟨d.clear, []⟩) := by
  rw [sndStartTag_fresh (p := ⟨d.clear, []⟩) hd]
  unfold sndEnterCard sndEnterDevice
  rw [if_neg hn.card, if_neg (not_not.mpr hn.device), hn.plugin, if_neg Bool.false_ne_true,
    if_neg hn.props, hn.device, getData]
  refine (bind_of_ok rfl).trans ((bind_of_ok rfl).trans ?_)
  rw [bind_gets]
  split
  · rfl
  · exact sndDevDefInit_none _

/-- The end tags set the current tag back, and the end of a card ends the parsing. -/
def XmlUserdata.leave (d : XmlUserdata) (n : CStr) : XmlUserdata :=
  if sndNodeTypeOf n ≠ none then { d with currentTag := .card }
  else if strstr n "plugin".toList ∨ n = "props".toList then { d with currentTag := .device }
  else if n = "card".toList then
    { d with currentTag := .root, cardParsed := d.cardParsed || d.cardFound }
  else d

theorem leave_plain (hn : Plain n) (d : XmlUserdata) : d.leave n = d := by
  unfold XmlUserdata.leave
  rw [if_neg (not_not.mpr hn.device), if_neg, if_neg hn.card]
  rintro (h | h)
  · exact Bool.noConfusion (h.symm.trans hn.plugin)
  · exact hn.props h

/-- An end tag that is not passed over. -/
theorem sndEndTag_after (hparsed : p.data.cardParsed = false)
    (hreads : p.data.currentTag = .card ∨ p.data.cardFound = true)
    (hproc : sndProcessDataBuf n p = .ok ((), q)) :
    sndEndTag n p = .ok ((), ⟨q.data.clear.leave n, q.mem⟩) := by
  unfold sndEndTag
  rw [getData, bind_gets, hparsed, if_neg Bool.false_ne_true, if_neg, bind_of_ok hproc]
  · unfold sndResetDataBuf modifyData XmlUserdata.leave
    rw [bind_modify]
    split_ifs <;> rfl
  · rintro ⟨htag, hfound⟩
    rcases hreads with h | h
    · exact htag h
    · rw [h] at hfound
      exact Bool.noConfusion hfound

/-- What the handler of a text does, if there is one. -/
def sndHandler (t : SndTag) (n : CStr) : ParseM Unit :=
  match t with
  | .root => pure ()
  | .card => sndParseCardProperties n
  | .plugin => sndParsePluginProperties n
  | .device => sndParseDeviceProperties n
  | .devProps => sndParseDeviceCustomProperties n

theorem sndProcess_text (hs : s.length < BUF_SIZE) (hd : d.cardParsed = false)
    (hrun : s ≠ [] → sndHandler d.currentTag n ⟨d.holding s, []⟩ = .ok ((), ⟨x.holding s, []⟩))
    (hnil : s = [] → x = d) :
    sndProcessDataBuf n ⟨d.holding s, []⟩ = .ok ((), ⟨x.holding s, []⟩) := by
  change (if s.length = 0 then pure ()
    else if BUF_SIZE ≤ s.length then Prog.fault .outOfBounds
    else if d.cardParsed then pure ()
    else sndHandler d.currentTag n : ParseM Unit) ⟨d.holding s, []⟩ = _
  by_cases h : s = []
  · rw [if_pos (List.length_eq_zero_iff.mpr h), hnil h]
    rfl
  · rw [if_neg (mt List.length_eq_zero_iff.mp h), if_neg (not_le.mpr hs), hd,
      if_neg Bool.false_ne_true]
    exact hrun h

/-- An element with a text. -/
theorem leads_leaf (hn : Plain n) (hs : s.length < BUF_SIZE) (hd : d.cardParsed = false)
    (hreads : d.currentTag = .card ∨ d.cardFound = true)
    (hrun : s ≠ [] → sndHandler d.currentTag n ⟨d.holding s, []⟩ = .ok ((), ⟨x.holding s, []⟩))
    (hnil : s = [] → x = d) : Leads (xmlText n s) (Clears d) (Stands x) := by
  have hstart : Leads [.startTag n] (Clears d) (Stands d) :=
    leads_startTag hd (startTag_plain hn hd)
  refine hstart.cons (leads_textEnd hs ?_)
  rw [sndEndTag_after (p := ⟨d.holding s, []⟩) hd hreads (sndProcess_text hs hd hrun hnil),
    leave_plain hn]
  rfl

end

/-! ### The elements of a device -/

/-- Before the card is found. -/
def looking (card : ℕ) (t : SndTag) : XmlUserdata where
  card := card
  cardName := none
  currentTag := t

/-- In the card that is looked for. -/
def found (card : ℕ) (c : SndDevDefCard) (curDevDef : Option SndNodeType) (t : SndTag) :
    XmlUserdata where
  card := card
  cardName := none
  curCardDef := some c
  curDevDef := curDevDef
  cardFound := true
  currentTag := t

def SndDevDefCard.push (c : SndDevDefCard) (dev : SndDevDef) : SndDevDefCard :=
  c.setDevs (c.devs dev.nodeType ++ [dev]) dev.nodeType

/-- In a device of that card. -/
def inDev (card : ℕ) (c : SndDevDefCard) (dev : SndDevDef) (t : SndTag) : XmlUserdata :=
  found card (c.push dev) (some dev.nodeType) t

theorem modifyLast_append (f : SndDevDef → SndDevDef) (l : List SndDevDef) (dev : SndDevDef) :
    modifyLast f (l ++ [dev]) = l ++ [f dev] := by
  unfold modifyLast
  rw [List.length_append, List.length_singleton, Nat.add_sub_cancel]
  induction l with
  | nil => rfl
  | cons x l ih =>
      rw [List.cons_append, List.length_cons, List.modify_succ_cons, ih, List.cons_append]

theorem push_modify (f : SndDevDef → SndDevDef) (c : SndDevDefCard) (dev : SndDevDef)
    (hf : (f dev).nodeType = dev.nodeType) :
    (c.push dev).setDevs (modifyLast f ((c.push dev).devs dev.nodeType)) dev.nodeType =
      c.push (f dev) := by
  unfold SndDevDefCard.push
  rw [hf]
  cases dev.nodeType <;>
    simp only [SndDevDefCard.setDevs, SndDevDefCard.devs, modifyLast_append]

section
variable {card : ℕ} {c : SndDevDefCard} {dev : SndDevDef} {t : SndTag} {s : CStr}

theorem onDev_inDev (f : SndDevDef → SndDevDef) (hf : (f dev).nodeType = dev.nodeType) :
    ((inDev card c dev t).holding s).onDev f = (inDev card c (f dev) t).holding s := by
  change ((found card ((c.push dev).setDevs (modifyLast f ((c.push dev).devs dev.nodeType))
    dev.nodeType) (some dev.nodeType) t).holding s) = _
  rw [push_modify f c dev hf]
  unfold inDev
  rw [hf]

theorem leads_devStart (nodeType : SndNodeType) (cur : Option SndNodeType) :
    Leads [.startTag nodeType.tag] (Clears (found card c cur .card))
      (Stands (inDev card c { nodeType } .device)) := by
  refine leads_startTag rfl ?_
  cases nodeType with
  | pcm => rfl
  | mixer => rfl
  | compr => rfl

theorem leads_devId (i : IdDoc) :
    Leads (xmlText "id".toList i.text) (Clears (inDev card c dev .device))
      (Stands (inDev card c { dev with device := decimal i.text } .device)) := by
  refine leads_leaf plain_id i.short rfl (.inr rfl) (fun _ => ?_) fun h => absurd h i.nonempty
  rw [← @onDev_inDev card c dev _ _ (fun dev => { dev with device := decimal i.text }) rfl,
    ← atoi_decimal i.digits i.fits]
  rfl

theorem leads_devName (name : NameDoc) :
    Leads (xmlText "name".toList name.text) (Clears (inDev card c dev .device))
      (Stands (inDev card c { dev with name := some name.text } .device)) := by
  refine leads_leaf plain_name name.short rfl (.inr rfl) (fun _ => ?_) fun h =>
    absurd h name.nonempty
  rw [← @onDev_inDev card c dev _ _ (fun dev => { dev with name := some name.text }) rfl]
  rfl

theorem leads_soName (name : NameDoc) :
    Leads (xmlText "so-name".toList name.text) (Clears (inDev card c dev .plugin))
      (Stands (inDev card c { dev with soName := some name.text } .plugin)) := by
  refine leads_leaf plain_soName name.short rfl (.inr rfl) (fun _ => ?_) fun h =>
    absurd h name.nonempty
  rw [← @onDev_inDev card c dev _ _ (fun dev => { dev with soName := some name.text }) rfl]
  rfl

theorem leads_pluginStart (p : PluginDoc) :
    Leads [.startTag p.tag] (Clears (inDev card c dev .device))
      (Stands (inDev card c { dev with type := .plugin } .plugin)) := by
  have hset : sndDevSetType .plugin ⟨(inDev card c dev .device).clear, []⟩ =
      .ok ((), ⟨(inDev card c { dev with type := .plugin } .device).clear, []⟩) :=
    congrArg (fun d : XmlUserdata => (.ok ((), ⟨d, []⟩) : Except Crash (Unit × ParseState)))
      (onDev_inDev (s := []) (fun dev => { dev with type := .plugin }) rfl)
  refine leads_startTag rfl ?_
  rw [sndStartTag_fresh (p := ⟨(inDev card c dev .device).clear, []⟩) rfl]
  unfold sndEnterCard sndEnterDevice
  rw [if_neg (p.tag_ne (by decide)), p.nodeTypeOf, if_neg (not_not.mpr rfl), if_pos p.plugin]
  refine (bind_of_ok (a := ()) (t := ⟨(inDev card c dev .device).clear, []⟩) rfl).trans ?_
  exact (bind_of_ok (a := ()) (t :=
    ⟨(inDev card c { dev with type := .plugin } .plugin).clear, []⟩) (bind_of_ok hset)).trans rfl

theorem leads_pluginEnd (p : PluginDoc) :
    Leads [.endTag p.tag] (Stands (inDev card c dev .plugin))
      (Stands (inDev card c dev .device)) := by
  refine leads_endTag fun s hs => ?_
  rw [sndEndTag_after (p := ⟨(inDev card c dev .plugin).holding s, []⟩) rfl (.inr rfl)
    (sndProcess_text (x := inDev card c dev .plugin) hs rfl (fun _ => ?_) fun _ => rfl)]
  · unfold XmlUserdata.leave
    rw [p.nodeTypeOf, if_neg (not_not.mpr rfl), if_pos (.inl p.plugin)]
    rfl
  · change sndParsePluginProperties p.tag _ = _
    unfold sndParsePluginProperties
    rw [getData, bind_gets, if_neg (p.tag_ne (by decide))]
    split <;> rfl

theorem leads_plugin (p : PluginDoc) :
    Leads p.events (Clears (inDev card c dev .device))
      (Stands (inDev card c { dev with type := .plugin, soName := some p.soName.text } .device)) :=
  (leads_pluginStart p).cons (((leads_soName p.soName).pre fun _ => Stands.clears).append
    (leads_pluginEnd p))

theorem leads_prop (p : PropDoc) :
    Leads p.events (Clears (inDev card c dev .devProps))
      (Stands (inDev card c { dev with propValList := dev.propValList ++ propVals [p] }
        .devProps)) := by
  refine leads_leaf p.plainTag p.short rfl (.inr rfl) (fun hs => ?_) fun hs => ?_
  · have hvals : propVals [p] = [⟨p.tag, p.text⟩] := by
      unfold propVals
      rw [List.filter_cons_of_pos (by simpa using hs)]
      rfl
    rw [hvals, ← @onDev_inDev card c dev _ _
      (fun dev => { dev with propValList := dev.propValList ++ [⟨p.tag, p.text⟩] }) rfl]
    change sndParseDeviceCustomProperties p.tag _ = _
    unfold sndParseDeviceCustomProperties
    rw [getData, bind_gets, if_neg p.plainTag.props, if_neg (by rintro ⟨⟩), if_neg]
    · rfl
    · rintro (h | h)
      · exact hs h
      · exact p.nonempty h
  · have hvals : propVals [p] = [] := by
      unfold propVals
      rw [List.filter_cons_of_neg (by simpa using hs)]
      rfl
    rw [hvals, List.append_nil]

theorem leads_propList (props : List PropDoc) :
    Leads (props.flatMap PropDoc.events) (Stands (inDev card c dev .devProps))
      (Stands (inDev card c { dev with propValList := dev.propValList ++ propVals props }
        .devProps)) := by
  induction props generalizing dev with
  | nil =>
      refine Leads.nil fun p hp => ?_
      rwa [show propVals [] = [] from rfl, List.append_nil]
  | cons p props ih =>
      have hvals : propVals (p :: props) = propVals [p] ++ propVals props := by
        unfold propVals
        rw [← List.map_append, ← List.filter_append]
        rfl
      rw [List.flatMap_cons, hvals, ← List.append_assoc]
      exact ((leads_prop p).pre fun _ => Stands.clears).append ih

theorem leads_props (props : List PropDoc) :
    Leads (propsEvents props) (Clears (inDev card c dev .device))
      (Stands (inDev card c { dev with propValList := dev.propValList ++ propVals props }
        .device)) := by
  refine (leads_startTag (x := inDev card c dev .devProps) rfl rfl).cons
    ((leads_propList props).append (leads_endTag fun s hs => ?_))
  rw [sndEndTag_after (p := ⟨XmlUserdata.holding _ s, []⟩) rfl (.inr rfl)
    (sndProcess_text hs rfl (fun _ => rfl) fun _ => rfl)]
  rfl

theorem leads_devEnd (nodeType : SndNodeType) :
    Leads [.endTag nodeType.tag] (Stands (inDev card c dev .device))
      (Stands (found card (c.push dev) (some dev.nodeType) .card)) := by
  refine leads_endTag fun s hs => ?_
  rw [sndEndTag_after (p := ⟨(inDev card c dev .device).holding s, []⟩) rfl (.inr rfl)
    (sndProcess_text (x := inDev card c dev .device) hs rfl (fun _ => ?_) fun _ => rfl)]
  · unfold XmlUserdata.leave
    rw [sndNodeTypeOf_tag, if_pos (Option.some_ne_none _)]
    rfl
  · change sndParseDeviceProperties nodeType.tag _ = _
    unfold sndParseDeviceProperties
    rw [getData, bind_gets, sndNodeTypeOf_tag, if_pos (Option.some_ne_none _)]
    rfl

theorem leads_inner (d : DevDoc) :
    Leads d.inner (Clears (inDev card c { nodeType := d.nodeType } .device))
      (Stands (inDev card c d.denote .device)) := by
  have hid := @leads_devId card c { nodeType := d.nodeType } d.id
  have hstart := hid.append ((leads_devName d.name).pre fun _ => Stands.clears)
  refine hstart.append ?_
  unfold DevDoc.denote
  cases hplugin : d.plugin with
  | none =>
      cases hprops : d.props with
      | none => exact Leads.nil fun _ h => h
      | some props => exact (leads_props props).pre fun _ => Stands.clears
  | some plugin =>
      have hsoName := (@leads_plugin card c
        { nodeType := d.nodeType, device := decimal d.id.text, name := some d.name.text } plugin).pre fun _ => Stands.clears
      refine hsoName.append ?_
      cases hprops : d.props with
      | none => exact Leads.nil fun _ h => h
      | some props => exact (leads_props props).pre fun _ => Stands.clears

theorem leads_dev (d : DevDoc) (cur : Option SndNodeType) :
    Leads d.events (Clears (found card c cur .card))
      (Stands (found card (c.push d.denote) (some d.nodeType) .card)) :=
  (leads_devStart d.nodeType cur).cons
    (((leads_inner d).pre fun _ => Stands.clears).append (leads_devEnd d.nodeType))

end

/-! ### The card that is looked for -/

/-- The definition is complete; what follows does not change it. -/
def Parsed (c : SndDevDefCard) (p : ParseState) : Prop :=
  p.data.cardParsed = true ∧ p.data.curCardDef = some c

theorem push_devs (devs : List DevDoc) (c : SndDevDefCard) :
    devs.foldl (fun c d => c.push d.denote) c =
      { c with
        pcmDevsList := c.pcmDevsList ++ devsOf .pcm devs
        mixerDevsList := c.mixerDevsList ++ devsOf .mixer devs
        comprDevsList := c.comprDevsList ++ devsOf .compr devs } := by
  induction devs generalizing c with
  | nil => simp [devsOf]
  | cons d devs ih =>
      rw [List.foldl_cons, ih]
      have hdenote : d.denote.nodeType = d.nodeType := rfl
      unfold SndDevDefCard.push devsOf
      rw [hdenote]
      cases hd : d.nodeType <;>
        simp [SndDevDefCard.setDevs, SndDevDefCard.devs, hd]

section
variable {card : ℕ} {c : SndDevDefCard}

theorem leads_devs (devs : List DevDoc) (cur : Option SndNodeType) :
    Leads (devs.flatMap DevDoc.events) (Stands (found card c cur .card)) fun p =>
      ∃ cur', Stands (found card (devs.foldl (fun c d => c.push d.denote) c) cur' .card) p := by
  induction devs generalizing c cur with
  | nil => exact Leads.nil fun _ h => ⟨cur, h⟩
  | cons d devs ih =>
      rw [List.flatMap_cons]
      exact ((leads_dev d cur).pre fun _ => Stands.clears).append (ih (some d.nodeType))

theorem leads_cardStart (t : SndTag) :
    Leads [.startTag "card".toList] (Clears (looking card t)) (Stands (looking card .card)) :=
  leads_startTag rfl rfl

theorem leads_cardId (i : IdDoc) :
    Leads (xmlText "id".toList i.text) (Clears (looking (decimal i.text) .card))
      (Stands (found (decimal i.text) { card := decimal i.text } none .card)) := by
  refine leads_leaf plain_id i.short rfl (.inl rfl) (fun _ => ?_) fun h => absurd h i.nonempty
  change sndParseCardProperties _ _ = _
  unfold sndParseCardProperties
  rw [getData, bind_gets, if_pos rfl]
  change (if toUnsigned (atoi i.text) = decimal i.text then do
      let found ← sndParseInitializeCardDef
      if found then
        modifyData fun data => data.onCard fun c => { c with card := toUnsigned (atoi i.text) }
      else pure ()
    else pure () : ParseM Unit) _ = _
  rw [atoi_decimal i.digits i.fits, if_pos rfl]
  rfl

theorem leads_cardName (name : NameDoc) :
    Leads (xmlText "name".toList name.text) (Clears (found card c none .card))
      (Stands (found card { c with name := some name.text } none .card)) :=
  leads_leaf plain_name name.short rfl (.inl rfl) (fun _ => rfl) fun h => absurd h name.nonempty

theorem leads_cardEnd (cur : Option SndNodeType) :
    Leads [.endTag "card".toList] (Stands (found card c cur .card)) (Parsed c) := by
  have hend : Leads [.endTag "card".toList] (Stands (found card c cur .card))
      (Stands { found card c cur .root with cardParsed := true }) := by
    refine leads_endTag fun s hs => ?_
    rw [sndEndTag_after (p := ⟨XmlUserdata.holding _ s, []⟩) rfl (.inl rfl)
      (sndProcess_text hs rfl (fun _ => rfl) fun _ => rfl)]
    rfl
  refine hend.post ?_
  rintro _ rfl
  exact ⟨rfl, rfl⟩

end

theorem leads_card (c : CardDoc) (t : SndTag) :
    Leads c.events (Clears (looking (decimal c.id.text) t)) (Parsed c.denote) := by
  have hhead := ((leads_cardStart t).cons ((leads_cardId c.id).pre fun _ => Stands.clears)).append
    ((leads_cardName c.name).pre fun _ => Stands.clears)
  refine hhead.append ((leads_devs c.devs none).append ?_)
  rintro rest r p hr ⟨cur, hp⟩
  rw [push_devs] at hp
  exact leads_cardEnd cur rest r p hr hp

/-! ### The other cards -/

/-- In another card behind the start of its first device, and between the cards behind it. -/
def PassesOver (card : ℕ) (p : ParseState) : Prop := ∃ t, t ≠ .card ∧ Clears (looking card t) p

section
variable {card : ℕ} {p : ParseState} {n : CStr}

/-- Before the card is found a start tag sets the current tag only. -/
theorem startTag_looking (n : CStr) (t : SndTag) :
    ∃ t', sndStartTag n ⟨(looking card t).clear, []⟩ = .ok ((), ⟨(looking card t').clear, []⟩) ∧
      (n ≠ "card".toList → t ≠ .card → t' ≠ .card) := by
  by_cases hcard : n = "card".toList
  · subst hcard
    exact ⟨.card, rfl, fun h => absurd rfl h⟩
  · have hdevice : ∃ t', sndEnterDevice n ⟨(looking card t).clear, []⟩ =
        .ok ((), ⟨(looking card t').clear, []⟩) ∧ (t ≠ .card → t' ≠ .card) := by
      unfold sndEnterDevice
      split_ifs
      · exact ⟨.device, rfl, fun _ => SndTag.noConfusion⟩
      · exact ⟨.plugin, rfl, fun _ => SndTag.noConfusion⟩
      · exact ⟨.devProps, rfl, fun _ => SndTag.noConfusion⟩
      · exact ⟨t, rfl, id⟩
    obtain ⟨t', hrun, ht'⟩ := hdevice
    refine ⟨t', ?_, fun _ => ht'⟩
    rw [sndStartTag_fresh (p := ⟨(looking card t).clear, []⟩) rfl]
    unfold sndEnterCard
    rw [if_neg hcard]
    refine (bind_of_ok (a := ()) (t := ⟨(looking card t).clear, []⟩) rfl).trans
      ((bind_of_ok hrun).trans ?_)
    rw [getData, bind_gets]
    split
    · rfl
    · unfold sndDevDefInit
      rw [getData, bind_gets]
      rfl

/-- Only the start of a card ends the passing over. -/
theorem passesOver_handle (h : PassesOver card p) {e : XmlEvent}
    (he : e ≠ .startTag "card".toList) :
    ∃ p', sndHandle e p = .ok ((), p') ∧ PassesOver card p' := by
  obtain ⟨t, ht, hp⟩ := h
  cases e with
  | startTag n =>
      obtain ⟨t', hrun, ht'⟩ := @startTag_looking card n t
      have hne : n ≠ "card".toList := fun hn => he (congrArg XmlEvent.startTag hn)
      exact ⟨_, (sndStartTag_clears rfl hp).trans hrun, t', ht' hne ht, rfl, rfl⟩
  | endTag n =>
      refine ⟨p, ?_, t, ht, hp⟩
      have htag : p.data.currentTag = t := congrArg (fun d : XmlUserdata => d.clear.currentTag) hp.1
      have hfound : p.data.cardFound = false :=
        congrArg (fun d : XmlUserdata => d.clear.cardFound) hp.1
      have hparsed : p.data.cardParsed = false :=
        congrArg (fun d : XmlUserdata => d.clear.cardParsed) hp.1
      unfold sndHandle sndEndTag
      dsimp only
      rw [getData, bind_gets, hparsed, if_neg Bool.false_ne_true,
        if_pos ⟨fun h => ht (htag.symm.trans h), by rw [hfound]; rfl⟩]
      rfl
  | text s =>
      obtain ⟨d, mem⟩ := p
      refine ⟨_, sndHandle_text s d mem, t, ht, ?_, hp.2⟩
      refine Eq.trans ?_ hp.1
      dsimp only
      split <;> rfl

theorem passesOver_run {es : List XmlEvent} (hes : ∀ e ∈ es, e ≠ .startTag "card".toList)
    (h : PassesOver card p) : ∃ p', sndParse es p = .ok ((), p') ∧ PassesOver card p' := by
  induction es generalizing p with
  | nil => exact ⟨p, rfl, h⟩
  | cons e es ih =>
      obtain ⟨q, hrun, hq⟩ := passesOver_handle h (hes e List.mem_cons_self)
      obtain ⟨p', hrest, hp'⟩ := ih (fun e he => hes e (List.mem_cons_of_mem _ he)) hq
      exact ⟨p', by rw [sndParse_cons, bind_of_ok hrun, hrest], hp'⟩

theorem leads_passesOver {es : List XmlEvent} (hes : ∀ e ∈ es, e ≠ .startTag "card".toList)
    (n : CStr) : Leads (es ++ [.endTag n]) (PassesOver card) (PassesOver card) := by
  intro rest r p hr hp
  rw [List.append_assoc, List.singleton_append] at hr
  obtain ⟨r₁, r₂, rfl, hr₁, hr₂⟩ := hr.split
  have hr₁ : ∀ e ∈ r₁, e ≠ .startTag "card".toList := by
    rintro e he rfl
    rcases hr₁.mem _ he with hmem | ⟨s, hs⟩
    · rcases List.mem_append.mp hmem with hmem | hmem
      · exact hes _ hmem rfl
      · exact XmlEvent.noConfusion (List.mem_singleton.mp hmem)
    · exact XmlEvent.noConfusion hs
  obtain ⟨p', hrun, hp'⟩ := passesOver_run hr₁ hp
  exact ⟨r₂, p', hr₂, hp', sndParse_append hrun⟩

theorem leads_otherId (i : IdDoc) (h : decimal i.text ≠ card) :
    Leads (xmlText "id".toList i.text) (Clears (looking card .card))
      (Stands (looking card .card)) := by
  refine leads_leaf plain_id i.short rfl (.inl rfl) (fun _ => ?_) fun h => absurd h i.nonempty
  change sndParseCardProperties _ _ = _
  unfold sndParseCardProperties
  rw [getData, bind_gets, if_pos rfl]
  change (if toUnsigned (atoi i.text) = card then do
      let found ← sndParseInitializeCardDef
      if found then
        modifyData fun data => data.onCard fun c => { c with card := toUnsigned (atoi i.text) }
      else pure ()
    else pure () : ParseM Unit) _ = _
  rw [atoi_decimal i.digits i.fits, if_neg h]
  rfl

theorem leads_otherName (name : NameDoc) :
    Leads (xmlText "name".toList name.text) (Clears (looking card .card))
      (Stands (looking card .card)) :=
  leads_leaf plain_name name.short rfl (.inl rfl) (fun _ => rfl) fun h => absurd h name.nonempty

theorem leads_otherEnd :
    Leads [.endTag "card".toList] (Stands (looking card .card)) (Stands (looking card .root)) := by
  refine leads_endTag fun s hs => ?_
  rw [sndEndTag_after (p := ⟨XmlUserdata.holding _ s, []⟩) rfl (.inl rfl)
    (sndProcess_text hs rfl (fun _ => rfl) fun _ => rfl)]
  rfl

theorem xmlText_not_card (hn : n ≠ "card".toList) (s : CStr) :
    ∀ e ∈ xmlText n s, e ≠ .startTag "card".toList := by
  unfold xmlText
  simpa using hn

/-- No tag of a device is that of a card. -/
theorem DevDoc.not_card (d : DevDoc) : ∀ e ∈ d.events, e ≠ .startTag "card".toList := by
  have hplugin : ∀ e ∈ d.plugin.elim [] PluginDoc.events, e ≠ .startTag "card".toList := by
    cases d.plugin with
    | none => exact fun e he => absurd he List.not_mem_nil
    | some p =>
        refine List.forall_mem_cons.mpr ⟨fun h => ?_, List.forall_mem_append.mpr
          ⟨xmlText_not_card (by decide) _, by simp⟩⟩
        exact p.tag_ne (by decide) (XmlEvent.startTag.inj h)
  have hprops : ∀ e ∈ d.props.elim [] propsEvents, e ≠ .startTag "card".toList := by
    cases d.props with
    | none => exact fun e he => absurd he List.not_mem_nil
    | some props =>
        refine List.forall_mem_append.mpr ⟨List.forall_mem_cons.mpr ⟨by decide, ?_⟩, by simp⟩
        intro e he
        obtain ⟨p, -, he⟩ := List.mem_flatMap.mp he
        exact xmlText_not_card p.plainTag.card _ e he
  have hinner : ∀ e ∈ d.inner, e ≠ .startTag "card".toList :=
    List.forall_mem_append.mpr ⟨List.forall_mem_append.mpr
      ⟨xmlText_not_card (by decide) _, xmlText_not_card (by decide) _⟩,
      List.forall_mem_append.mpr ⟨hplugin, hprops⟩⟩
  have htag : XmlEvent.startTag d.nodeType.tag ≠ .startTag "card".toList := by
    cases d.nodeType <;> decide
  exact List.forall_mem_append.mpr ⟨List.forall_mem_cons.mpr ⟨htag, hinner⟩, by simp⟩

/-- The devices of another card, and its end. -/
theorem leads_otherDevs (devs : List DevDoc) :
    Leads (devs.flatMap DevDoc.events ++ [.endTag "card".toList]) (Stands (looking card .card))
      (PassesOver card) := by
  cases devs with
  | nil => exact leads_otherEnd.post fun p hp => ⟨.root, SndTag.noConfusion, hp.clears⟩
  | cons d devs =>
      have hstart : Leads [.startTag d.nodeType.tag] (Stands (looking card .card))
          (PassesOver card) := by
        have hrun := leads_startTag (d := looking card .card) (x := looking card .device)
          (n := d.nodeType.tag) rfl (by cases d.nodeType <;> rfl)
        exact (hrun.pre fun _ => Stands.clears).post fun p hp =>
          ⟨.device, SndTag.noConfusion, hp.clears⟩
      have hrest : ∀ e ∈ d.inner ++ [.endTag d.nodeType.tag] ++ devs.flatMap DevDoc.events,
          e ≠ .startTag "card".toList := by
        intro e he
        rcases List.mem_append.mp he with he | he
        · exact d.not_card e (List.mem_cons_of_mem _ he)
        · obtain ⟨d', -, he⟩ := List.mem_flatMap.mp he
          exact d'.not_card e he
      rw [List.flatMap_cons]
      exact hstart.cons (leads_passesOver hrest _)

theorem leads_otherCard (c : CardDoc) (h : decimal c.id.text ≠ card) (t : SndTag) :
    Leads c.events (Clears (looking card t)) (PassesOver card) := by
  have hid := (leads_cardStart t).cons ((leads_otherId c.id h).pre fun _ => Stands.clears)
  have hhead := hid.append ((leads_otherName c.name).pre fun _ => Stands.clears)
  exact hhead.append (leads_otherDevs c.devs)

end

/-! ### Documents and requests -/

theorem parsed_handle {c : SndDevDefCard} {p : ParseState} (h : Parsed c p) (e : XmlEvent) :
    ∃ p', sndHandle e p = .ok ((), p') ∧ Parsed c p' := by
  obtain ⟨d, mem⟩ := p
  cases e with
  | startTag n =>
      refine ⟨⟨d, mem⟩, ?_, h⟩
      unfold sndHandle sndStartTag
      dsimp only
      rw [getData, bind_gets, if_pos h.1]
      rfl
  | endTag n =>
      refine ⟨⟨d, mem⟩, ?_, h⟩
      unfold sndHandle sndEndTag
      dsimp only
      rw [getData, bind_gets, if_pos h.1]
      rfl
  | text s =>
      refine ⟨_, sndHandle_text s d mem, ?_⟩
      unfold Parsed
      dsimp only
      split <;> exact h

theorem parsed_run {c : SndDevDefCard} {p : ParseState} (h : Parsed c p) (es : List XmlEvent) :
    ∃ p', sndParse es p = .ok ((), p') ∧ p'.data.curCardDef = some c := by
  induction es generalizing p with
  | nil => exact ⟨p, rfl, h.2⟩
  | cons e es ih =>
      obtain ⟨q, hrun, hq⟩ := parsed_handle h e
      obtain ⟨p', hrest, hp'⟩ := ih hq
      exact ⟨p', by rw [sndParse_cons, bind_of_ok hrun, hrest], hp'⟩

/-- Between the cards.  The current tag is that of a card only if the root has the same tag. -/
def Between (root : CStr) (card : ℕ) (p : ParseState) : Prop :=
  PassesOver card p ∨ root = "card".toList ∧ Stands (looking card .card) p

section
variable {root : CStr} {card : ℕ}

theorem leads_root :
    Leads [.startTag root] (Clears (looking card .root)) (Between root card) := by
  obtain ⟨t, hrun, ht⟩ := @startTag_looking card root .root
  refine (leads_startTag rfl hrun).post fun p hp => ?_
  by_cases hroot : root = "card".toList
  · subst hroot
    have hcard : sndStartTag "card".toList ⟨(looking card .root).clear, []⟩ =
        .ok ((), ⟨(looking card .card).clear, []⟩) := rfl
    cases hrun.symm.trans hcard
    exact .inr ⟨rfl, hp⟩
  · exact .inl ⟨t, ht hroot SndTag.noConfusion, hp.clears⟩

theorem leads_others {cards : List CardDoc} (h : ∀ c ∈ cards, decimal c.id.text ≠ card) :
    Leads (cards.flatMap CardDoc.events) (Between root card) (Between root card) := by
  induction cards with
  | nil => exact Leads.nil fun _ h => h
  | cons c cards ih =>
      have hcard : Leads c.events (Between root card) (Between root card) := by
        rintro rest r p hr (⟨t, -, hp⟩ | ⟨-, hp⟩)
        · exact (leads_otherCard c (h c List.mem_cons_self) t).post (fun _ => Or.inl) rest r p hr hp
        · exact (leads_otherCard c (h c List.mem_cons_self) .card).post (fun _ => Or.inl) rest r p
            hr hp.clears
      rw [List.flatMap_cons]
      exact hcard.append (ih fun c hc => h c (List.mem_cons_of_mem _ hc))

theorem leads_rootEnd : Leads [.endTag root] (Between root card) (PassesOver card) := by
  rintro rest r p hr (hp | ⟨rfl, hp⟩)
  · exact @leads_passesOver card [] (by simp) root rest r p hr hp
  · exact (leads_otherEnd.post fun p hp => ⟨.root, SndTag.noConfusion, hp.clears⟩) rest r p hr hp

end

/-- The parser finds what the document denotes. -/
theorem sndParse_denotes (doc : Document) (card : ℕ) {events : List XmlEvent}
    (h : CallsOf doc.events events) :
    sndParseCard ⟨none, card⟩ events [] = .ok (doc.denote card) := by
  have hinit : Clears (looking card .root) ⟨{ card, cardName := none }, []⟩ := ⟨rfl, rfl⟩
  have hends : ∃ p, sndParse events ⟨{ card, cardName := none }, []⟩ = .ok ((), p) ∧
      p.data.curCardDef = doc.denote card := by
    unfold Document.denote
    cases hfind : doc.cards.find? fun c => decimal c.id.text = card with
    | none =>
        have hother : ∀ c ∈ doc.cards, decimal c.id.text ≠ card := fun c hc => by
          simpa using List.find?_eq_none.mp hfind c hc
        have hleads := (leads_root.cons (leads_others hother)).append
          (@leads_rootEnd doc.root card)
        rw [← List.append_nil doc.events] at h
        obtain ⟨r, p, hr, ⟨t, -, hp⟩, hrun⟩ := hleads [] events _ h hinit
        rw [hr.nil_inv] at hrun
        exact ⟨p, hrun, congrArg (fun d : XmlUserdata => d.clear.curCardDef) hp.1⟩
    | some c =>
        obtain ⟨hc, before, after, hcards, hother⟩ := List.find?_eq_some_iff_append.mp hfind
        obtain rfl : decimal c.id.text = card := by simpa using hc
        have hother : ∀ c' ∈ before, decimal c'.id.text ≠ decimal c.id.text := fun c' hc' => by
          simpa using hother c' hc'
        have hcard : Leads c.events (Between doc.root (decimal c.id.text)) (Parsed c.denote) := by
          rintro rest r p hr (⟨t, -, hp⟩ | ⟨-, hp⟩)
          · exact leads_card c t rest r p hr hp
          · exact leads_card c .card rest r p hr hp.clears
        have hleads := (leads_root.cons (leads_others hother)).append hcard
        have hevents : doc.events =
            .startTag doc.root :: before.flatMap CardDoc.events ++ c.events ++
              (after.flatMap CardDoc.events ++ [.endTag doc.root]) := by
          unfold Document.events
          rw [hcards]
          simp
        rw [hevents] at h
        obtain ⟨r, p, -, hp, hrun⟩ := hleads _ events _ h hinit
        obtain ⟨p', hrest, hcur⟩ := parsed_run hp r
        exact ⟨p', hrun.trans hrest, hcur⟩
  obtain ⟨p, hrun, hcur⟩ := hends
  unfold sndParseCard
  dsimp only
  rw [hrun]
  exact congrArg Except.ok hcur

/-- A number that is not in the cache is not found there. -/
theorem sndFindCard_miss {card : ℕ} {nodes : List (ℕ × SndDevDefCard)}
    (h : ∀ node ∈ nodes, node.2.card ≠ card) (g : SndState) :
    sndFindCard ⟨none, card⟩ nodes g = .ok (none, g) := by
  induction nodes with
  | nil => rfl
  | cons node nodes ih =>
      have hne : decide (node.2.card = card) = false := decide_eq_false (h node List.mem_cons_self)
      unfold sndFindCard sndCardMatches
      dsimp only
      rw [hne]
      exact ih fun node hnode => h node (List.mem_cons_of_mem _ hnode)

/-- The state after a definition was added to the cache. -/
def SndState.addCard (g : SndState) (addr : ℕ) (c : SndDevDefCard) : SndState :=
  { g with sndCardList := g.sndCardList ++ [(addr, { c with refcnt := 1 })] }

/-- For a number that is not in the cache the call returns what the document denotes: nothing, or
the definition of the first card with the number. -/
theorem document_denotes (doc : Document) {events : List XmlEvent}
    (hevents : CallsOf doc.events events) (card addr : ℕ) (g : SndState)
    (hfree : g.sndRwlock = {}) (hmiss : ∀ node ∈ g.initList.sndCardList, node.2.card ≠ card) :
    sndCardDefGetCard card { events, addr } g = .ok
      (match doc.denote card with
      | none => (none, g.initList)
      | some c =>
          (some (sndNewAddr addr g.initList.sndCardList),
            g.initList.addCard (sndNewAddr addr g.initList.sndCardList) c)) := by
  obtain ⟨cards, init, lock⟩ := g
  obtain rfl : lock = {} := hfree
  rw [SndState.initList_mk] at hmiss ⊢
  unfold sndCardDefGetCard
  refine (bind_of_ok (a := some ⟨none, card⟩) (t := ⟨cards, init, {}⟩) rfl).trans ?_
  dsimp only
  refine (bind_of_ok (a := ()) (t := ⟨cards, init, ⟨0, true⟩⟩) rfl).trans ?_
  rw [bind_modify, SndState.initList_mk, bind_gets, bind_of_ok (sndFindCard_miss hmiss _)]
  change sndReadCard _ _ _ = _
  unfold sndReadCard
  rw [bind_gets]
  dsimp only
  rw [sndParse_denotes doc card hevents]
  cases hdenote : doc.denote card with
  | none => rfl
  | some c =>
      obtain ⟨_, -, rfl⟩ := Option.map_eq_some_iff.mp hdenote
      rfl

/-- Two cards with a device each; the second is looked for, its name comes in two pieces, and its
device has a plugin and two properties, one of them without a text. -/
def twoCards : Document where
  root := "defs".toList
  cards :=
    [{ id := ⟨"1".toList, by decide, by simp, by decide, by decide⟩
       name := ⟨"a".toList, by decide, by decide⟩
       devs := [{
         nodeType := .mixer
         id := ⟨"9".toList, by decide, by simp, by decide, by decide⟩
         name := ⟨"m".toList, by decide, by decide⟩
         plugin := none
         props := none }] },
     { id := ⟨"7".toList, by decide, by simp, by decide, by decide⟩
       name := ⟨"sound".toList, by decide, by decide⟩
       devs := [{
         nodeType := .compr
         id := ⟨"40".toList, by decide, by simp, by decide, by decide⟩
         name := ⟨"offload".toList, by decide, by decide⟩
         plugin := some ⟨"a-plugin".toList, ⟨"libagm.so".toList, by decide, by decide⟩, by decide⟩
         props := some [⟨"capture".toList, "0".toList, by decide, by decide, by decide, by decide⟩,
           ⟨"hostless".toList, [], by decide, by decide, by decide, by decide⟩] }] }]

theorem twoCards_found :
    sndCardDefGetCard 7
      { events := [.text "\n".toList, .startTag "defs".toList,
          .startTag "card".toList, .text " ".toList, .text " ".toList,
          .startTag "id".toList, .text "1".toList, .endTag "id".toList,
          .startTag "name".toList, .text "a".toList, .endTag "name".toList,
          .startTag "mixer".toList,
          .startTag "id".toList, .text "9".toList, .endTag "id".toList,
          .startTag "name".toList, .text "m".toList, .endTag "name".toList,
          .endTag "mixer".toList, .endTag "card".toList, .startTag "card".toList,
          .startTag "id".toList, .text "7".toList, .endTag "id".toList,
          .startTag "name".toList, .text "so".toList, .text "und".toList, .endTag "name".toList,
          .startTag "compress-device".toList,
          .startTag "id".toList, .text "40".toList, .endTag "id".toList,
          .startTag "name".toList, .text "offload".toList, .endTag "name".toList,
          .startTag "a-plugin".toList,
          .startTag "so-name".toList, .text "libagm.so".toList, .endTag "so-name".toList,
          .endTag "a-plugin".toList, .startTag "props".toList,
          .startTag "capture".toList, .text "0".toList, .endTag "capture".toList,
          .startTag "hostless".toList, .endTag "hostless".toList, .endTag "props".toList,
          .endTag "compress-device".toList, .endTag "card".toList, .endTag "defs".toList],
        addr := 0 } {} =
      .ok (some 0,
        { sndCardList := [(0,
            { card := 7
              name := some "sound".toList
              comprDevsList := [
                { nodeType := .compr
                  device := 40
                  type := .plugin
                  name := some "offload".toList
                  soName := some "libagm.so".toList
                  propValList := [⟨"capture".toList, "0".toList⟩] }]
              refcnt := 1 })]
          sndCardListInit := true }) :=
  document_denotes twoCards
    (.startTag _ ["\n".toList] (by decide) (.startTag _ [] (by decide)
      (.startTag _ [" ".toList, " ".toList] (by decide) (.text _ _ ["1".toList] rfl
        (.startTag _ [] (by decide) (.text _ _ ["a".toList] rfl
          (.startTag _ [] (by decide)
            (.startTag _ [] (by decide) (.text _ _ ["9".toList] rfl
              (.startTag _ [] (by decide) (.text _ _ ["m".toList] rfl
                (.endTag _ [] (by decide) (.endTag _ [] (by decide)
                  (.startTag _ [] (by decide)
                    (.startTag _ [] (by decide) (.text _ _ ["7".toList] rfl
                      (.startTag _ [] (by decide) (.text _ _ ["so".toList, "und".toList] rfl
                        (.startTag _ [] (by decide)
                          (.startTag _ [] (by decide) (.text _ _ ["40".toList] rfl
                            (.startTag _ [] (by decide) (.text _ _ ["offload".toList] rfl
                              (.startTag _ [] (by decide)
                                (.startTag _ [] (by decide) (.text _ _ ["libagm.so".toList] rfl
                                  (.endTag _ [] (by decide) (.startTag _ [] (by decide)
                                    (.startTag _ [] (by decide) (.text _ _ ["0".toList] rfl
                                      (.startTag _ [] (by decide) (.text _ _ [] rfl
                                        (.endTag _ [] (by decide) (.endTag _ [] (by decide)
                                          (.endTag _ [] (by decide) (.endTag _ [] (by decide)
                                            .nil))))))))))))))))))))))))))))))))))))
    7 0 {} rfl (by decide)

end Agm
