import Agm.CardCounts
import Agm.CardLocks

/-! # What the card cache changes

The cache of `snd_card_def_get_card` compares a name with the beginning of the cached names, or a
number with the cached numbers; the parser of the file compares a name with the beginning of the
tokens of the text, and stores a number only when it looks for one.

`Transparent` is a law about two runs: a call that finds definitions in the cache returns what the
same call would return from an empty cache.  `transparent_iff`: it holds for a document and an
assignment of `/proc` names if and only if no two cards of them are mistaken for each other. -/

namespace Agm

open Prog

/-! ### Documents and histories -/

/-- The file of the card definitions and the names under `/proc/asound`. -/
structure CardWorld where
  events : List XmlEvent
  names : ℕ → Option CStr

/-- The environment of a call in which everything succeeds. -/
def CardWorld.env (w : CardWorld) (card addr : ℕ) : CardEnv where
  procId :=
    match w.names card with
    | none => .missing
    | some n => .line (n ++ ['\n'])
  events := w.events
  addr := addr

/-- What a call for the card looks for. -/
def CardWorld.request (w : CardWorld) (card : ℕ) : CardRequest :=
  match w.names card with
  | none => ⟨none, card⟩
  | some n => ⟨some n, UINT_MAX⟩

/-- What the document gives for a card. -/
def CardWorld.parse (w : CardWorld) (card : ℕ) : Except Crash (Option SndDevDefCard) :=
  sndParseCard (w.request card) w.events []

/-- Everything but the count: the number, the name and the devices. -/
def SndDevDefCard.contents (c : SndDevDefCard) : SndDevDefCard := { c with refcnt := 0 }

/-- The contents of what a call has returned. -/
def SndState.contents (g : SndState) (r : Option ℕ) : Option SndDevDefCard :=
  (r.bind fun a => g.sndCardList.lookup a).map SndDevDefCard.contents

/-- The states after the histories of calls that return. -/
inductive CardWorld.Reached (w : CardWorld) : SndState → Prop
  | empty : Reached w {}
  | get {g g' : SndState} {r : Option ℕ} (card addr : ℕ) (h : Reached w g)
      (hrun : sndCardDefGetCard card (w.env card addr) g = .ok (r, g')) : Reached w g'
  | put {g g' : SndState} (defs : Option ℕ) (h : Reached w g)
      (hrun : sndCardDefPutCard defs g = .ok ((), g')) : Reached w g'

/-- The cached definitions do not change the answers: a call returns the contents that the same call
returns from an empty cache.  Only the count may overflow. -/
def CardWorld.Transparent (w : CardWorld) : Prop :=
  ∀ g, w.Reached g → ∀ (card addr addr₀ : ℕ) (r₀ : Option ℕ) (g₀ : SndState),
    sndCardDefGetCard card (w.env card addr₀) {} = .ok (r₀, g₀) →
      Ensures (fun f => f = .overflow) (sndCardDefGetCard card (w.env card addr)) g fun r g' =>
        g'.contents r = g₀.contents r₀

/-- With the definition that the document gives for `c₁` in the cache, a call for `c₂` goes wrong: it
compares a name with a name that is not there, or takes the definition although the document gives
another one. -/
def CardWorld.Mistaken (w : CardWorld) (c₁ c₂ : ℕ) : Prop :=
  ∃ y ∈ (w.parse c₁).toOption, ∃ d ∈ y, ∃ x ∈ (w.parse c₂).toOption,
    ((w.request c₂).name ≠ none ∧ d.name = none) ∨ ((w.request c₂).fits d = true ∧ x ≠ some d)

instance (w : CardWorld) (c₁ c₂ : ℕ) : Decidable (w.Mistaken c₁ c₂) :=
  inferInstanceAs (Decidable (∃ y ∈ (w.parse c₁).toOption, ∃ d ∈ y, ∃ x ∈ (w.parse c₂).toOption, _))

/-! ### The environment -/

section
variable {w : CardWorld}

theorem CardWorld.request_env (card addr : ℕ) : (w.env card addr).request card = w.request card := by
  unfold CardEnv.request CardWorld.env CardWorld.request
  cases w.names card with
  | none => rfl
  | some n => simp

theorem sndReadProcId_env (card addr : ℕ) :
    sndReadProcId card (w.env card addr) = pure (some (w.request card)) := by
  unfold sndReadProcId CardWorld.env CardWorld.request
  cases w.names card with
  | none => rfl
  | some n => simp

theorem sndParseCard_contents {req : CardRequest} {events : List XmlEvent} {mem : List Bool}
    {c : SndDevDefCard} (h : sndParseCard req events mem = .ok (some c)) (n : ℤ) :
    ({ c with refcnt := n } : SndDevDefCard).contents = c := by
  have href := sndParseCard_refcnt h
  obtain ⟨card, name, refcnt, pcm, mixer, compr⟩ := c
  obtain rfl : refcnt = 0 := href
  rfl

/-! ### The cache -/

/-- What a history leaves in the cache. -/
structure CardWorld.Cache (w : CardWorld) (g : SndState) : Prop where
  free : g.Free
  initialised : g.Initialised
  nodup : (g.sndCardList.map Prod.fst).Nodup
  parsed : ∀ node ∈ g.sndCardList, ∃ c, w.parse c = .ok (some node.2.contents)

/-- One call of `snd_card_def_get_card`, with the ways in which it returns. -/
theorem CardWorld.Cache.get {g : SndState} (h : w.Cache g) (card addr : ℕ) :
    Ensures anyFault (sndCardDefGetCard card (w.env card addr)) g fun r g' =>
      GetCard (w.request card) (w.env card addr) g.sndCardList r g'.sndCardList ∧ w.Cache g' := by
  have hcases := sndCardDefGetCard_cases h.initialised card (w.env card addr)
  rw [CardWorld.request_env] at hcases
  have hfree : Ensures anyFault (sndCardDefGetCard card (w.env card addr)) g fun _ g' => g'.Free := by
    obtain ⟨cards, init, lock⟩ := g
    obtain rfl : lock = {} := h.free
    exact (sndCardDefGetCard_ensures card _).mono (fun _ _ => trivial) fun _ _ h => h
  refine (hcases.and hfree).imp ?_
  rintro r g' ⟨⟨hget, hinit⟩, hfree⟩
  refine ⟨hget, hfree, hinit, ?_, ?_⟩
  · generalize hcards : g'.sndCardList = cards at hget
    cases hget with
    | nothing _ => exact h.nodup
    | hit node _ =>
        rw [map_fst_hit _ _ fun c => { c with refcnt := c.refcnt + 1 }]
        exact h.nodup
    | failed _ _ _ _ => exact h.nodup
    | fresh c _ _ _ =>
        rw [List.map_append]
        have hnew := sndNewAddr_not_mem (w.env card addr).addr g.sndCardList
        exact List.Nodup.append h.nodup (List.nodup_singleton _) (by simpa using hnew)
  · generalize hcards : g'.sndCardList = cards at hget
    cases hget with
    | nothing _ => exact h.parsed
    | hit node _ =>
        intro n hn
        obtain ⟨n', hn', rfl⟩ := List.mem_map.mp hn
        obtain ⟨c, hc⟩ := h.parsed n' hn'
        split_ifs
        · exact ⟨c, hc⟩
        · exact ⟨c, hc⟩
    | failed _ _ _ _ => exact h.parsed
    | fresh c _ hparse _ =>
        intro n hn
        rcases List.mem_append.mp hn with hn | hn
        · exact h.parsed n hn
        · obtain rfl := List.mem_singleton.mp hn
          refine ⟨card, hparse.trans ?_⟩
          dsimp only
          rw [sndParseCard_contents hparse]

theorem CardWorld.Cache.put {g : SndState} (h : w.Cache g) (defs : Option ℕ) :
    Ensures anyFault (sndCardDefPutCard defs) g fun _ g' => w.Cache g' := by
  cases defs with
  | none => exact h
  | some a =>
      obtain ⟨cards, init, lock⟩ := g
      obtain rfl : lock = {} := h.free
      show w.Cache ⟨sndPutLoop a cards, init, {}⟩
      refine ⟨rfl, fun hinit => ?_, h.nodup.sublist (sndPutLoop_sublist a cards), fun n hn => ?_⟩
      · obtain rfl : cards = [] := h.initialised hinit
        rfl
      · rcases mem_sndPutLoop.mp hn with ⟨hn, -⟩ | ⟨c, hc, -, rfl⟩
        · exact h.parsed n hn
        · exact h.parsed (a, c) hc

theorem CardWorld.Reached.cache {g : SndState} (h : w.Reached g) : w.Cache g := by
  induction h with
  | empty => exact ⟨rfl, fun _ => rfl, List.nodup_nil, nofun⟩
  | get card addr _ hrun ih => exact ((ih.get card addr).of_ok hrun).2
  | put defs _ hrun ih => exact (ih.put defs).of_ok hrun

/-! ### One answer -/

theorem lookup_of_mem {cards : List (ℕ × SndDevDefCard)} (hnodup : (cards.map Prod.fst).Nodup)
    {a : ℕ} {c : SndDevDefCard} (h : (a, c) ∈ cards) : cards.lookup a = some c := by
  induction cards with
  | nil => exact nomatch h
  | cons node cards ih =>
      obtain ⟨b, d⟩ := node
      rw [List.map_cons, List.nodup_cons] at hnodup
      rw [List.lookup_cons]
      rcases List.mem_cons.mp h with heq | hmem
      · obtain ⟨rfl, rfl⟩ := Prod.mk.inj heq
        simp
      · have hin : a ∈ cards.map Prod.fst := List.mem_map_of_mem hmem
        have hne : a ≠ b := fun hab => hnodup.1 (hab ▸ hin)
        rw [beq_eq_false_iff_ne.mpr hne]
        exact ih hnodup.2 hmem

/-- What a call returns: the first cached definition that fits, or else what the document gives. -/
theorem GetCard.contents_eq {g : SndState} {card addr : ℕ} {r : Option ℕ} {g' : SndState}
    (hget : GetCard (w.request card) (w.env card addr) g.sndCardList r g'.sndCardList)
    (h' : w.Cache g') :
    (∃ node ∈ g.sndCardList.find? (fun node => (w.request card).fits node.2),
        g'.contents r = some node.2.contents) ∨
      g.sndCardList.find? (fun node => (w.request card).fits node.2) = none ∧
        w.parse card = .ok (g'.contents r) := by
  have hstored : ∀ {a : ℕ} {c : SndDevDefCard}, (a, c) ∈ g'.sndCardList →
      g'.contents (some a) = some c.contents := by
    intro a c hmem
    unfold SndState.contents
    rw [Option.bind_some, lookup_of_mem h'.nodup hmem, Option.map_some]
  generalize hcards : g'.sndCardList = cards at hget
  cases hget with
  | nothing hwhy =>
      obtain ⟨hfind, hparse⟩ := hwhy rfl rfl rfl
      exact .inr ⟨hfind, hparse⟩
  | hit node hfind =>
      refine .inl ⟨node, hfind, ?_⟩
      have hmem : (node.1, { node.2 with refcnt := node.2.refcnt + 1 }) ∈ g'.sndCardList := by
        rw [hcards]
        exact List.mem_map.mpr ⟨node, List.mem_of_find?_eq_some hfind, if_pos rfl⟩
      rw [hstored hmem]
      rfl
  | failed _ _ _ hparsed => exact nomatch hparsed
  | fresh c hfind hparse _ =>
      refine .inr ⟨hfind, hparse.trans ?_⟩
      have hmem : (sndNewAddr (w.env card addr).addr g.sndCardList,
          { c with refcnt := c.refcnt + 1 }) ∈ g'.sndCardList := by
        rw [hcards]
        exact List.mem_append_right _ (List.mem_singleton_self _)
      rw [hstored hmem, sndParseCard_contents hparse]

/-- From an empty cache the document answers. -/
theorem CardWorld.parse_of_empty {card addr : ℕ} {r : Option ℕ} {g : SndState}
    (hrun : sndCardDefGetCard card (w.env card addr) {} = .ok (r, g)) :
    w.parse card = .ok (g.contents r) := by
  obtain ⟨hget, hcache⟩ := (CardWorld.Reached.empty.cache.get card addr).of_ok hrun
  rcases GetCard.contents_eq hget hcache with ⟨node, hfind, -⟩ | ⟨-, hparse⟩
  · exact nomatch hfind
  · exact hparse

/-! ### Calls that do not return -/

/-- The comparison needs the names of the definitions. -/
def CardRequest.Comparable (req : CardRequest) (cards : List (ℕ × SndDevDefCard)) : Prop :=
  req.name ≠ none → ∀ node ∈ cards, node.2.name ≠ none

theorem sndFindCard_returns {E : SndFault → Prop} {req : CardRequest}
    {cards : List (ℕ × SndDevDefCard)} (h : req.Comparable cards) (g : SndState) :
    Ensures E (sndFindCard req cards) g fun _ g' => g' = g := by
  induction cards with
  | nil => rfl
  | cons node cards ih =>
      have hmatch : Ensures E (sndCardMatches req node.2) g fun _ g' => g' = g := by
        unfold sndCardMatches
        cases hreq : req.name with
        | none => rfl
        | some n =>
            cases hnode : node.2.name with
            | none =>
                have hnamed := h (by simp [hreq]) node (List.mem_cons_self ..)
                exact absurd hnode hnamed
            | some name => rfl
      unfold sndFindCard
      rw [ensures_bind]
      refine hmatch.imp ?_
      rintro found _ rfl
      rw [ensures_ite]
      exact ⟨fun _ => rfl, fun _ => ih fun hreq n hn => h hreq n (List.mem_cons_of_mem _ hn)⟩

/-- A call returns, up to an overflow, if the names can be compared and the file can be read. -/
theorem CardWorld.Cache.get_returns {g : SndState} (h : w.Cache g) {card : ℕ} (addr : ℕ)
    {x : Option SndDevDefCard} (hcards : (w.request card).Comparable g.sndCardList)
    (hparse : w.parse card = .ok x) :
    Ensures (fun f => f = .overflow) (sndCardDefGetCard card (w.env card addr)) g
      fun _ _ => True := by
  obtain ⟨cards, init, lock⟩ := g
  obtain rfl : lock = {} := h.free
  have hinit : (if init then cards else []) = cards := by
    split_ifs with hi
    · rfl
    · exact (h.initialised (Bool.eq_false_iff.mpr hi)).symm
  unfold sndCardDefGetCard
  rw [sndReadProcId_env, ensures_bind, ensures_pure]
  dsimp only
  rw [ensures_bind, ensures_wrlock, ensures_bind, ensures_modify, SndState.initList_mk, hinit,
    ensures_bind, ensures_gets, ensures_bind]
  refine (sndFindCard_returns hcards _).imp ?_
  rintro hit _ rfl
  cases hit with
  | some node =>
      dsimp only
      rw [ensures_ite]
      exact ⟨fun _ => rfl, fun _ => trivial⟩
  | none =>
      have hread : Ensures (fun f => f = .overflow) (sndReadCard (w.request card) (w.env card addr))
          ⟨cards, true, ⟨0, true⟩⟩ fun _ _ => True := by
        unfold sndReadCard
        rw [ensures_bind, ensures_gets]
        rw [show sndParseCard (w.request card) (w.env card addr).events (w.env card addr).mem = .ok x
          from hparse]
        cases x with
        | none => exact trivial
        | some d => exact trivial
      exact hread

/-! ### One cached definition -/

/-- The first call gets what the document gives. -/
theorem get_of_empty {card : ℕ} (addr : ℕ) {x : Option SndDevDefCard} (hparse : w.parse card = .ok x) :
    sndCardDefGetCard card (w.env card addr) {} =
      .ok (x.map fun _ => addr,
        ⟨x.toList.map fun c => (addr, { c with refcnt := c.refcnt + 1 }), true, {}⟩) := by
  unfold sndCardDefGetCard
  rw [sndReadProcId_env]
  change sndReadCard (w.request card) (w.env card addr) ⟨[], true, ⟨0, true⟩⟩ = _
  have hread : sndParseCard (w.request card) (w.env card addr).events (w.env card addr).mem = .ok x :=
    hparse
  unfold sndReadCard
  rw [hread]
  cases x with
  | none => rfl
  | some c => rfl

/-- A call that looks for a name does not return when the only cached definition has none. -/
theorem get_nameless {c : SndDevDefCard} {a card addr : ℕ} {Q : Option ℕ → SndState → Prop}
    (hreq : (w.request card).name ≠ none) (hc : c.name = none) :
    ¬ Ensures (fun f => f = .overflow) (sndCardDefGetCard card (w.env card addr))
      ⟨[(a, c)], true, {}⟩ Q := by
  obtain ⟨n, hn⟩ := Option.ne_none_iff_exists'.mp hreq
  have hfind : sndFindCard (w.request card) [(a, c)] = Prog.fault (.crash .nullDeref) := by
    simp only [sndFindCard, sndCardMatches, hn, hc]
    rfl
  unfold sndCardDefGetCard
  rw [sndReadProcId_env, ensures_bind, ensures_pure]
  dsimp only
  rw [ensures_bind, ensures_wrlock, ensures_bind, ensures_modify, SndState.initList_mk,
    ensures_bind, ensures_gets, ensures_bind]
  show ¬ Ensures _ (sndFindCard (w.request card) [(a, c)]) _ _
  rw [hfind]
  exact nofun

/-- A call takes the only cached definition if it fits. -/
theorem get_hit {E : SndFault → Prop} {c : SndDevDefCard} {a card addr : ℕ}
    {Q : Option ℕ → SndState → Prop} (hfits : (w.request card).fits c = true)
    (hc : c.refcnt ≠ INT_MAX)
    (h : Ensures E (sndCardDefGetCard card (w.env card addr)) ⟨[(a, c)], true, {}⟩ Q) :
    Q (some a) ⟨[(a, { c with refcnt := c.refcnt + 1 })], true, {}⟩ := by
  have hfind : sndFindCard (w.request card) [(a, c)] = pure (some (a, c)) := by
    unfold CardRequest.fits at hfits
    cases hreq : (w.request card).name with
    | none =>
        rw [hreq] at hfits
        dsimp only at hfits
        simp only [sndFindCard, sndCardMatches, hreq]
        rw [hfits]
        rfl
    | some n =>
        cases hname : c.name with
        | none => simp [hreq, hname] at hfits
        | some name =>
            rw [hreq, hname] at hfits
            dsimp only at hfits
            simp only [sndFindCard, sndCardMatches, hreq, hname]
            rw [hfits]
            rfl
  unfold sndCardDefGetCard at h
  rw [sndReadProcId_env, ensures_bind, ensures_pure] at h
  dsimp only at h
  rw [ensures_bind, ensures_wrlock, ensures_bind, ensures_modify, SndState.initList_mk,
    ensures_bind, ensures_gets, ensures_bind] at h
  change Ensures _ (sndFindCard (w.request card) [(a, c)]) _ _ at h
  rw [hfind, ensures_pure] at h
  dsimp only at h
  rw [ensures_ite] at h
  have hQ := h.2 hc
  rw [ensures_bind, modifyCardDef, ensures_modify] at hQ
  simpa [rwUnlock] using hQ

/-! ### The law -/

theorem CardWorld.Transparent.not_mistaken (h : w.Transparent) (c₁ c₂ : ℕ) :
    ¬ w.Mistaken c₁ c₂ := by
  rintro ⟨y, hy, d, rfl, x, hx, hbad⟩
  have hparse₁ : w.parse c₁ = .ok (some d) := by
    cases hp : w.parse c₁ with
    | error f => simp [hp, Except.toOption] at hy
    | ok y => simpa [hp, Except.toOption] using hy
  have hparse₂ : w.parse c₂ = .ok x := by
    cases hp : w.parse c₂ with
    | error f => simp [hp, Except.toOption] at hx
    | ok y => simpa [hp, Except.toOption] using hx
  have hrun₁ := get_of_empty 0 hparse₁
  have hrun₂ := get_of_empty 0 hparse₂
  have hx₀ := Except.ok.inj ((CardWorld.parse_of_empty hrun₂).symm.trans hparse₂)
  have hlaw := h _ (.get c₁ 0 .empty hrun₁) c₂ 0 0 _ _ hrun₂
  rw [hx₀] at hlaw
  rcases hbad with ⟨hreq, hname⟩ | ⟨hfits, hne⟩
  · exact get_nameless (c := { d with refcnt := d.refcnt + 1 }) hreq hname hlaw
  · have href := sndParseCard_refcnt hparse₁
    have hanswer := get_hit (c := { d with refcnt := d.refcnt + 1 }) hfits
      (by simp [href, INT_MAX]) hlaw
    have hd : SndState.contents ⟨[(0, { d with refcnt := d.refcnt + 1 + 1 })], true, {}⟩ (some 0) =
        some d := by
      unfold SndState.contents
      rw [Option.bind_some, List.lookup_cons, beq_self_eq_true]
      exact congrArg some (sndParseCard_contents hparse₁ _)
    exact hne (hanswer.symm.trans hd)

theorem CardWorld.transparent_of_not_mistaken (h : ∀ c₁ c₂, ¬ w.Mistaken c₁ c₂) :
    w.Transparent := by
  intro g hg card addr addr₀ r₀ g₀ hrun
  have hcache := hg.cache
  have hparse := CardWorld.parse_of_empty hrun
  have hright : ∀ node ∈ g.sndCardList, ((w.request card).name ≠ none → node.2.name ≠ none) ∧
      ((w.request card).fits node.2 = true → g₀.contents r₀ = some node.2.contents) := by
    intro node hmem
    obtain ⟨c, hc⟩ := hcache.parsed node hmem
    have hnot := h c card
    unfold CardWorld.Mistaken at hnot
    rw [hc, hparse] at hnot
    constructor
    · intro hreq hnode
      exact hnot ⟨_, rfl, _, rfl, _, rfl, .inl ⟨hreq, hnode⟩⟩
    · intro hfits
      by_contra hne
      exact hnot ⟨_, rfl, _, rfl, _, rfl, .inr ⟨hfits, hne⟩⟩
  have hreturns := hcache.get_returns addr (fun hreq node hmem => (hright node hmem).1 hreq)
    hparse
  refine (hreturns.and (hcache.get card addr)).imp ?_
  rintro r g' ⟨-, hget, hcache'⟩
  rcases GetCard.contents_eq hget hcache' with ⟨node, hfind, hr⟩ | ⟨-, hr⟩
  · have hfits : (w.request card).fits node.2 = true := by
      simpa using List.find?_some hfind
    exact hr.trans ((hright node (List.mem_of_find?_eq_some hfind)).2 hfits).symm
  · exact Option.some.inj (Except.ok.inj (hr.symm.trans hparse) ▸ rfl)

end

/-- The law holds for a document and the names of the cards if and only if no definition that the
document gives for one card is mistaken for that of another one. -/
theorem transparent_iff (w : CardWorld) : w.Transparent ↔ ∀ c₁ c₂, ¬ w.Mistaken c₁ c₂ :=
  ⟨CardWorld.Transparent.not_mistaken, CardWorld.transparent_of_not_mistaken⟩

/-- Card 0 has the name `foobar` and card 1 the name `foo`: the definition of `foobar` is taken
for that of `foo`. -/
theorem transparent_iff_prefix :
    ¬ CardWorld.Transparent
      { events := xmlCard "100".toList "foo".toList "7".toList ++
          xmlCard "101".toList "foobar".toList "8".toList
        names := fun card =>
          if card = 0 then some "foobar".toList else if card = 1 then some "foo".toList else none } :=
  fun h => absurd (h.not_mistaken 0 1) (by decide +kernel)

end Agm
