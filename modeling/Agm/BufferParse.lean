import Agm.CardXml
import Agm.ParserBounds
import Agm.Lib.Simulation
import Agm.Lib.Moves

/-! # The parser with its buffer agrees with the parser of texts

`SndParser` works on the text of an element as a list, `ParserBounds` on the bytes of `data_buf`
with a count beside them.  For the character data that expat reports, which has no terminator in
it, the two come to the same end: the same definition, or the same fault.

While tags are ignored nothing is said about what the buffer holds; the start tag that ends this
empties it.  `bufParse_refines` has the whole run. -/

namespace Agm

open Prog

/-- The callbacks one after the other, on the parser with its buffer. -/
def bufParse (events : List XmlEvent) : BufM Unit := Prog.forAll (fun e _ => bufHandle e) events ()

/-- The state without the text of the current element. -/
def ParseState.clear (p : ParseState) : ParseState := ⟨p.data.clear, p.mem⟩

/-- The characters that a callback reports. -/
def XmlEvent.length : XmlEvent → ℕ
  | text s => s.length
  | _ => 0

/-- Character data without a terminator in it. -/
def XmlEvent.Printable : XmlEvent → Prop
  | text s => NUL ∉ s
  | _ => True

instance : DecidablePred XmlEvent.Printable
  | .startTag _ => isTrue trivial
  | .endTag _ => isTrue trivial
  | .text s => inferInstanceAs (Decidable (NUL ∉ s))

/-- The two parsers in step. -/
structure SameParse (x : BufParser) (p : ParseState) : Prop where
  holds : x.Holds
  parse : x.parse.clear = p.clear
  offs : x.offs = p.data.offs
  text : ¬ x.parse.data.Ignores → x.offs < BUF_SIZE → p.data.dataBuf = x.received ∧ NUL ∉ x.received

/-! ### What the tags leave in the buffer -/

section tags
variable {n : CStr} {p q : ParseState}

/-- The text and its count are those of the first state. -/
def SameText (p q : ParseState) : Prop :=
  q.data.dataBuf = p.data.dataBuf ∧ q.data.offs = p.data.offs

instance : IsPreorder ParseState SameText where
  refl _ := ⟨rfl, rfl⟩
  trans _ _ _ h h' := ⟨h'.1.trans h.1, h'.2.trans h.2⟩

theorem sameText_modify {f : XmlUserdata → XmlUserdata} (hbuf : ∀ d, (f d).dataBuf = d.dataBuf)
    (hoffs : ∀ d, (f d).offs = d.offs) : Moves SameText (modifyData f) :=
  moves_modify fun p => ⟨hbuf p.data, hoffs p.data⟩

theorem sameText_onDev (f : SndDevDef → SndDevDef) (d : XmlUserdata) :
    (d.onDev f).dataBuf = d.dataBuf ∧ (d.onDev f).offs = d.offs := by
  unfold XmlUserdata.onDev
  cases d.curDevDef with
  | none => exact ⟨rfl, rfl⟩
  | some t => exact ⟨rfl, rfl⟩

theorem sameText_enterCard (n : CStr) : Moves SameText (sndEnterCard n) :=
  moves_ite (sameText_modify (fun _ => rfl) fun _ => rfl) (moves_pure ())

theorem sameText_enterDevice (n : CStr) : Moves SameText (sndEnterDevice n) := by
  unfold sndEnterDevice
  refine moves_ite ?_ (moves_ite ?_ (moves_ite ?_ (moves_pure ())))
  · exact sameText_modify (fun _ => rfl) fun _ => rfl
  · exact moves_bind (sameText_modify (fun d => (sameText_onDev _ d).1)
      fun d => (sameText_onDev _ d).2) fun _ => sameText_modify (fun _ => rfl) fun _ => rfl
  · exact sameText_modify (fun _ => rfl) fun _ => rfl

theorem sameText_devDefInit (t : Option SndNodeType) : Moves SameText (sndDevDefInit t) := by
  apply moves_bind (moves_gets _)
  intro data
  apply moves_ite (moves_pure ())
  cases t with
  | none => exact moves_pure ()
  | some t =>
      refine moves_bind (fun p => ⟨rfl, rfl⟩) fun block => moves_ite (moves_pure ()) ?_
      exact sameText_modify (fun _ => rfl) fun _ => rfl

/-- A start tag that is not passed over empties the buffer, whatever was in it. -/
theorem sndStartTag_empties (hparsed : p.data.cardParsed = false) (hpq : p.clear = q.clear) :
    ∃ p', sndStartTag n p = .ok ((), p') ∧ sndStartTag n q = .ok ((), p') ∧
      p'.data.dataBuf = [] ∧ p'.data.offs = 0 := by
  have hq : q.data.cardParsed = false := by
    rw [← hparsed]
    exact (congrArg (fun p => p.data.cardParsed) hpq).symm
  obtain ⟨_, p', hrun⟩ := (sndStartTag_total n).exists_ok p
  have hmoves : Moves SameText (do
      sndEnterCard n
      sndEnterDevice n
      let data ← getData
      if data.currentTag ≠ .card ∧ !data.cardFound then pure ()
      else sndDevDefInit (sndNodeTypeOf n) : ParseM Unit) := by
    apply moves_bind (sameText_enterCard n)
    intro _
    apply moves_bind (sameText_enterDevice n)
    intro _
    apply moves_bind (moves_gets _)
    intro data
    exact moves_ite (moves_pure ()) (sameText_devDefInit _)
  have hfresh := sndStartTag_fresh (n := n) hparsed
  have hfresh' := sndStartTag_fresh (n := n) hq
  have hclear : (⟨q.data.clear, q.mem⟩ : ParseState) = ⟨p.data.clear, p.mem⟩ := hpq.symm
  rw [hclear, ← hfresh] at hfresh'
  have hsame : SameText ⟨p.data.clear, p.mem⟩ p' :=
    (hmoves _).of_ok (hfresh.symm.trans hrun)
  exact ⟨p', hrun, hfresh'.trans hrun, hsame.1, hsame.2⟩

theorem leave_text (d : XmlUserdata) (n : CStr) :
    (d.leave n).dataBuf = d.dataBuf ∧ (d.leave n).offs = d.offs := by
  unfold XmlUserdata.leave
  split_ifs <;> exact ⟨rfl, rfl⟩

theorem ignores_iff {d : XmlUserdata} :
    ¬ d.Ignores ↔ d.cardParsed = false ∧ (d.currentTag = .card ∨ d.cardFound = true) := by
  unfold XmlUserdata.Ignores
  rw [not_or, Bool.not_eq_true, not_and_or, not_not, Bool.not_eq_false]

/-- An end tag that is not ignored empties the buffer, when the count is below its size. -/
theorem sndEndTag_empties (hn : ¬ p.data.Ignores) (h : p.data.offs < BUF_SIZE) :
    ∃ p', sndEndTag n p = .ok ((), p') ∧ p'.data.dataBuf = [] ∧ p'.data.offs = 0 := by
  obtain ⟨hparsed, hreads⟩ := ignores_iff.mp hn
  obtain ⟨_, q, hproc, -⟩ := (sndProcessDataBuf_returns n h).exists_ok
  exact ⟨_, sndEndTag_after hparsed hreads hproc, leave_text _ _⟩

/-- Directly below the root no text is looked at. -/
theorem sndEndTag_root (hn : ¬ p.data.Ignores) (h : p.data.offs < BUF_SIZE)
    (hroot : p.data.currentTag = .root) :
    sndEndTag n p = .ok ((), ⟨p.data.clear.leave n, p.mem⟩) := by
  obtain ⟨hparsed, hreads⟩ := ignores_iff.mp hn
  refine sndEndTag_after hparsed hreads ?_
  unfold sndProcessDataBuf
  rw [getData, bind_gets, if_neg (not_le.mpr h), hparsed, hroot]
  split_ifs <;> rfl

/-- ... and where the count is not below the size, the terminator is out of the buffer. -/
theorem sndEndTag_leaves (hn : ¬ p.data.Ignores) (h : BUF_SIZE ≤ p.data.offs) :
    sndEndTag n p = .error .outOfBounds := by
  have hpos : p.data.offs ≠ 0 := fun h0 => absurd (h0 ▸ h) (by decide)
  have hproc : sndProcessDataBuf n p = .error .outOfBounds := by
    unfold sndProcessDataBuf
    rw [getData, bind_gets, if_neg hpos, if_pos h]
    rfl
  have hreads : ¬ (p.data.currentTag ≠ .card ∧ (!p.data.cardFound) = true) := by
    rintro ⟨htag, hfound⟩
    exact hn (.inr ⟨htag, by simpa using hfound⟩)
  unfold sndEndTag
  rw [getData, bind_gets, (ignores_iff.mp hn).1, if_neg Bool.false_ne_true, if_neg hreads]
  exact bind_of_error hproc

end tags

/-! ### One callback -/

section steps
variable {x : BufParser} {p : ParseState}

theorem SameParse.data (h : SameParse x p) : x.parse.data.clear = p.data.clear :=
  congrArg ParseState.data h.parse

theorem SameParse.mem (h : SameParse x p) : x.parse.mem = p.mem := by
  have hmem := congrArg ParseState.mem h.parse
  exact hmem

theorem SameParse.ignores (h : SameParse x p) : x.parse.data.Ignores ↔ p.data.Ignores := by
  have hsame : ∀ d : XmlUserdata, d.Ignores = d.clear.Ignores := fun _ => rfl
  rw [hsame, h.data, ← hsame]

/-- Where the two texts are the same, so are the states. -/
theorem SameParse.eq_of_text (h : SameParse x p) (htext : p.data.dataBuf = x.received) :
    (⟨{ x.parse.data with dataBuf := x.received, offs := x.offs }, x.parse.mem⟩ : ParseState) =
      p := by
  obtain ⟨data, mem⟩ := p
  have hdata :
      ({ x.parse.data with dataBuf := x.received, offs := x.offs } : XmlUserdata) = data := by
    calc ({ x.parse.data with dataBuf := x.received, offs := x.offs } : XmlUserdata)
        = { x.parse.data.clear with dataBuf := x.received, offs := x.offs } := rfl
      _ = { data.clear with dataBuf := x.received, offs := x.offs } := by rw [h.data]
      _ = data := by
        rw [h.offs, ← htext]
        rfl
  rw [hdata, show x.parse.mem = mem from h.mem]

/-- After a reset, with nothing received. -/
theorem sameParse_reset {buf : List Char} (hlen : buf.length = BUF_SIZE) {q q' : ParseState}
    (hclear : q.clear = q'.clear) (htext : q'.data.dataBuf = []) (hoffs : q'.data.offs = 0)
    (handed : List CStr) : SameParse ⟨q, buf.set 0 NUL, 0, [], handed⟩ q' where
  holds := holds_reset (x := ⟨q, buf, 0, [], handed⟩) hlen q handed
  parse := hclear
  offs := hoffs.symm
  text _ _ := ⟨htext, List.not_mem_nil⟩

theorem sameParse_ignored (h : SameParse x p) (hn : x.parse.data.Ignores) :
    SameParse { x with received := [] } p where
  holds := holds_ignored h.holds hn
  parse := h.parse
  offs := h.offs
  text hno := absurd hn hno

theorem agrees_startTag (h : SameParse x p) (n : CStr) :
    Agrees (fun x' p' => SameParse x' p' ∧ x'.offs ≤ x.offs) (bufHandle (.startTag n) x)
      (sndHandle (.startTag n) p) := by
  by_cases hparsed : x.parse.data.cardParsed = true
  · have hparsed' : p.data.cardParsed = true := by
      rw [← hparsed]
      exact (congrArg XmlUserdata.cardParsed h.data).symm
    have hrun : bufHandle (.startTag n) x = .ok ((), { x with received := [] }) := by
      unfold bufHandle bufStartTag
      refine (bind_of_ok (t := x) (a := ()) ?_).trans rfl
      rw [bind_gets, if_pos hparsed]
      rfl
    have hrun' : sndStartTag n p = .ok ((), p) := by
      unfold sndStartTag
      rw [getData, bind_gets, if_pos hparsed']
      rfl
    rw [hrun, show sndHandle (.startTag n) p = _ from hrun']
    exact .returns () ⟨sameParse_ignored h (.inl hparsed), le_rfl⟩
  · obtain ⟨q, hq, hq', htext, hoffs⟩ :=
      sndStartTag_empties (n := n) (Bool.not_eq_true _ ▸ hparsed) h.parse
    have hrun : bufHandle (.startTag n) x =
        .ok ((), ⟨q, x.dataBuf.set 0 NUL, 0, [], x.handed⟩) := by
      unfold bufHandle bufStartTag
      refine (bind_of_ok (t := ⟨q, x.dataBuf.set 0 NUL, 0, x.received, x.handed⟩) (a := ())
        ?_).trans rfl
      rw [bind_gets, if_neg hparsed, bind_of_ok bufResetDataBuf_ok]
      exact onParse_ok hq
    rw [hrun, show sndHandle (.startTag n) p = _ from hq']
    exact .returns () ⟨sameParse_reset h.holds.length rfl htext hoffs _, Nat.zero_le _⟩

/-- What is handed over at an end tag: the text, if there is one and it is looked at. -/
theorem bufProcessDataBuf_text (h : SameParse x p) (hn : ¬ x.parse.data.Ignores)
    (hoffs : x.offs < BUF_SIZE) :
    ∃ text buf, bufProcessDataBuf x = .ok (text, { x with dataBuf := buf }) ∧
      buf.length = BUF_SIZE ∧ (text.getD [] = x.received ∨ x.parse.data.currentTag = .root) := by
  obtain ⟨text, buf, hrun, hbuf, htext⟩ := bufProcessDataBuf_ok h.holds hn hoffs
  refine ⟨text, buf, hrun, hbuf, ?_⟩
  have hreceived : x.received.takeWhile (· ≠ NUL) = x.received := by
    rw [List.takeWhile_eq_self_iff]
    intro c hc
    have hne : c ≠ NUL := fun heq => (h.text hn hoffs).2 (heq ▸ hc)
    simpa using hne
  rcases htext with rfl | rfl
  · by_cases hroot : x.parse.data.currentTag = .root
    · exact .inr hroot
    refine .inl ?_
    have hzero : x.offs = 0 := by
      by_contra hpos
      unfold bufProcessDataBuf at hrun
      rw [bind_gets] at hrun
      dsimp only [id_eq] at hrun
      rw [if_neg hpos, bind_of_ok (writeBuf_ok hoffs NUL), if_neg,
        bind_of_ok (readBuf_ok (by rw [h.holds.length]; exact hoffs))] at hrun
      · cases hrun
      · rintro (hparsed | htag)
        · exact hn (.inl hparsed)
        · exact hroot htag
    have hlen := (h.holds.text hn hoffs).1
    rw [hzero] at hlen
    exact (List.eq_nil_of_length_eq_zero hlen).symm
  · exact .inl hreceived

theorem agrees_endTag (h : SameParse x p) (n : CStr) :
    Agrees (fun x' p' => SameParse x' p' ∧ x'.offs ≤ x.offs) (bufHandle (.endTag n) x)
      (sndHandle (.endTag n) p) := by
  by_cases hn : x.parse.data.Ignores
  · have hrun : bufHandle (.endTag n) x = .ok ((), { x with received := [] }) := by
      unfold bufHandle bufEndTag
      refine (bind_of_ok (t := x) (a := ()) ?_).trans rfl
      rw [bind_gets, if_pos hn]
      rfl
    have hrun' : sndEndTag n p = .ok ((), p) := by
      unfold sndEndTag
      rw [getData, bind_gets]
      rcases h.ignores.mp hn with hparsed | ⟨htag, hfound⟩
      · rw [if_pos hparsed]
        rfl
      · rw [if_pos (show p.data.currentTag ≠ .card ∧ (!p.data.cardFound) = true from
          ⟨htag, by simp [hfound]⟩)]
        split_ifs <;> rfl
    rw [hrun, show sndHandle (.endTag n) p = _ from hrun']
    exact .returns () ⟨sameParse_ignored h hn, le_rfl⟩
  have hn' : ¬ p.data.Ignores := mt h.ignores.mpr hn
  rcases Nat.lt_or_ge x.offs BUF_SIZE with hoffs | hoffs
  · obtain ⟨text, buf, hproc, hbuf, htext⟩ := bufProcessDataBuf_text h hn hoffs
    obtain ⟨q', hq', hempty, hzero⟩ := sndEndTag_empties (n := n) hn' (h.offs ▸ hoffs)
    -- the tag sees the same text, or is one that looks at none
    have hq : (do withText (text.getD []) x.offs; sndEndTag n : ParseM Unit) x.parse =
        .ok ((), q') := by
      change sndEndTag n
        ⟨{ x.parse.data with dataBuf := text.getD [], offs := x.offs }, x.parse.mem⟩ = _
      rcases htext with htext | hroot
      · rw [htext, h.eq_of_text (h.text hn hoffs).1]
        exact hq'
      · have hroot' : p.data.currentTag = .root :=
          (congrArg XmlUserdata.currentTag h.data).symm.trans hroot
        rw [← hq', sndEndTag_root hn' (h.offs ▸ hoffs) hroot',
          sndEndTag_root (p := ⟨{ x.parse.data with dataBuf := text.getD [], offs := x.offs }, _⟩)
            hn hoffs hroot]
        change Except.ok ((), (⟨x.parse.data.clear.leave n, x.parse.mem⟩ : ParseState)) = _
        rw [h.data, h.mem]
    have hrun : bufHandle (.endTag n) x =
        .ok ((), ⟨q', buf.set 0 NUL, 0, [], x.handed ++ text.toList⟩) := by
      unfold bufHandle bufEndTag
      refine (bind_of_ok (t := ⟨q', buf.set 0 NUL, 0, x.received, x.handed ++ text.toList⟩)
        (a := ()) ?_).trans rfl
      rw [bind_gets, if_neg hn, bind_gets, bind_of_ok hproc, bind_modify]
      exact (bind_of_ok (onParse_ok
        (x := ⟨x.parse, buf, x.offs, x.received, x.handed ++ text.toList⟩) hq)).trans
        (bufResetDataBuf_ok (x := ⟨q', buf, x.offs, x.received, x.handed ++ text.toList⟩))
    rw [hrun, show sndHandle (.endTag n) p = _ from hq']
    exact .returns () ⟨sameParse_reset hbuf rfl hempty hzero _, Nat.zero_le _⟩
  · rw [endTag_leaves hn hoffs n, show sndHandle (.endTag n) p = _ from
      sndEndTag_leaves hn' (h.offs ▸ hoffs)]
    exact .fault _

theorem agrees_text (h : SameParse x p) {s : CStr} (hs : NUL ∉ s)
    (hfits : x.offs + s.length < 2 ^ 64) :
    Agrees (fun x' p' => SameParse x' p' ∧ x'.offs ≤ x.offs + s.length) (bufHandle (.text s) x)
      (sndHandle (.text s) p) := by
  have hsum : (s.length + x.offs) % 2 ^ 64 = s.length + x.offs := Nat.mod_eq_of_lt (by omega)
  have hsum' : (x.offs + s.length) % 2 ^ 64 = x.offs + s.length := Nat.mod_eq_of_lt hfits
  obtain ⟨data, mem⟩ := p
  have hoffs : x.offs = data.offs := h.offs
  rw [sndHandle_text]
  obtain ⟨-, x', hrun, hholds, -, -⟩ | ⟨hno, -⟩ := text_cases h.holds s
  · by_cases hdrop : BUF_SIZE ≤ s.length + x.offs
    · have hdropped := text_dropped (x := x) (s := s) (by rw [hsum]; exact hdrop)
      rw [hdropped] at hrun
      cases hrun
      rw [hdropped, if_pos (hoffs ▸ hdrop)]
      refine .returns () ⟨⟨hholds, h.parse, ?_, fun _ hlt => ?_⟩, ?_⟩
      · exact hsum'.trans (by rw [hoffs])
      · dsimp only at hlt
        omega
      · exact hsum'.le
    · obtain ⟨buf, hcopy, -, -⟩ := copyBuf_ok (s := s) (i := x.offs) h.holds.length (by omega)
      have hcopied : bufHandle (.text s) x = .ok ((),
          { x with dataBuf := buf, offs := x.offs + s.length, received := x.received ++ s }) := by
        unfold bufHandle bufDataHandler
        refine (bind_of_ok (t := { x with dataBuf := buf, offs := x.offs + s.length }) (a := ())
          ?_).trans rfl
        rw [bind_gets, hsum, if_neg hdrop, bind_of_ok hcopy, hsum']
        rfl
      rw [hcopied] at hrun
      cases hrun
      rw [hcopied, if_neg (hoffs ▸ hdrop)]
      refine .returns () ⟨⟨hholds, h.parse, ?_, fun hn _ => ?_⟩, le_rfl⟩
      · exact congrArg (· + s.length) hoffs
      · obtain ⟨htext, hnul⟩ := h.text hn (by omega)
        refine ⟨congrArg (· ++ s) htext, fun hmem => ?_⟩
        rcases List.mem_append.mp hmem with hmem | hmem
        · exact hnul hmem
        · exact hs hmem
  · refine absurd (fun hlt => ?_) hno
    rwa [hsum] at hlt

/-- A callback leaves the two parsers in step, or both at fault. -/
theorem agrees_handle (h : SameParse x p) {e : XmlEvent} (he : e.Printable)
    (hfits : x.offs + e.length < 2 ^ 64) :
    Agrees (fun x' p' => SameParse x' p' ∧ x'.offs ≤ x.offs + e.length) (bufHandle e x)
      (sndHandle e p) := by
  cases e with
  | startTag n => exact agrees_startTag h n
  | endTag n => exact agrees_endTag h n
  | text s => exact agrees_text h he hfits

end steps

/-! ### Runs -/

theorem sameParse_start (card : ℕ) (cardName : Option CStr) (mem : List Bool) :
    SameParse (.start card cardName mem) (BufParser.start card cardName mem).parse where
  holds := BufParser.holds_start card cardName mem
  parse := rfl
  offs := rfl
  text _ _ := ⟨rfl, List.not_mem_nil⟩

/-- For character data without a terminator, fewer than 2^64 of them, the parser with its buffer
and the parser of texts come to the same state, or both fault. -/
theorem bufParse_refines (card : ℕ) (cardName : Option CStr) (mem : List Bool)
    (events : List XmlEvent) (hprint : ∀ e ∈ events, e.Printable)
    (hfits : (events.map XmlEvent.length).sum < 2 ^ 64) :
    (bufParse events (.start card cardName mem)).map (fun r => r.2.parse.clear) =
      (sndParse events (BufParser.start card cardName mem).parse).map fun r => r.2.clear := by
  have hagrees := agrees_forAll
    (f := fun e (_ : Unit) => bufHandle e) (g := fun e (_ : Unit) => sndHandle e)
    (fun es x p => SameParse x p ∧ (∀ e ∈ es, e.Printable) ∧
      x.offs + (es.map XmlEvent.length).sum < 2 ^ 64) ?_ events ()
    (.start card cardName mem) (BufParser.start card cardName mem).parse
    ⟨sameParse_start card cardName mem, hprint, ?_⟩
  · exact hagrees.map_eq fun x p h => h.1.parse
  · rintro e es - x p ⟨h, hes, hsum⟩
    rw [List.map_cons, List.sum_cons] at hsum
    refine (agrees_handle h (hes e List.mem_cons_self) (by omega)).imp fun x' p' h' =>
      ⟨h'.1, fun e' he' => hes e' (List.mem_cons_of_mem _ he'), ?_⟩
    have hle := h'.2
    omega
  · change 0 + _ < _
    rwa [Nat.zero_add]

theorem bufParse_refines_card :
    (bufParse (xmlCard "0".toList "codec".toList "100".toList) (.start 0 none [])).map
        (fun r => r.2.parse.clear) =
      (sndParse (xmlCard "0".toList "codec".toList "100".toList)
        (BufParser.start 0 none []).parse).map fun r => r.2.clear :=
  bufParse_refines 0 none [] _ (by decide) (by decide)

end Agm
