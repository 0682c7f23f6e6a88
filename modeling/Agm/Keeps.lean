import Agm.RefineCalls

/-! # Invariants about pairs and their devices

An invariant that ties the pairs of the sessions to the devices is broken between the moment a
device moves and the moment its pair does.  `Keeps I` lists the moves that come as a whole: a
connection together with the assignment that follows it, a turn of a loop, a closed graph.  What
keeps `I` in this sense is kept by whole calls (`Keeps.step`), except by the calls that move only
one of the two.  `OpenHonest` excludes exactly these: connecting a pair that is open already,
the label `unwind` of a connection, disconnecting a pair that is open while its session is not
or whose device is not reached, and an `unwind` of `session_obj_open` that does not reach a
device.

How a session is closed and how an interface is disconnected is left to the invariant. -/

namespace Agm

open Prog

/-- `I` is kept by every move of a pair and its device. -/
structure Keeps (I : Core → Prop) : Prop where
  inert : ∀ {named : Option ℕ} {c c' : Core}, Inert named c c' → I c → I c'
  state : ∀ {c : Core} (s : ℕ) (st : SessionState), I c → I (c.setState s st)
  graph : ∀ {p g : Option ℕ} {c c' : Core} {r : ℤ} (s : ℕ), CloseGraph p c r c' → I c →
    I (c'.setGraph s g)
  refused : ∀ {cleans : Prop} {s i n : ℕ} {c c' : Core} {r : ℤ}, Connect cleans s i n c r c' →
    r ≠ 0 → I c → I c'
  connected : ∀ {cleans : Prop} {s i n : ℕ} {c c' : Core}, Connect cleans s i n c 0 c' →
    s ∈ c.pool → i < (c.sess s).rows.length → (c.row s i).state.isOpened = false → I c →
      I (c'.setRow s i .aifOpened)
  waiting : ∀ {s i : ℕ} {c : Core} {st : AifState}, s ∈ c.pool → i < (c.sess s).rows.length →
    (c.row s i).state.isOpened = false → st.isOpened = false → I c → I (c.setRow s i st)
  prepare : ∀ {s i : ℕ} {c c' : Core} {r : ℤ}, PrepareTurn s i c r c' → s ∈ c.pool → I c → I c'
  start : ∀ {s i : ℕ} {c c' : Core} {r : ℤ}, StartTurn s i c r c' → s ∈ c.pool → I c → I c'
  stop : ∀ {st : AifState} {s i : ℕ} {c c' : Core}, StopTurn st s i c c' →
    st = .aifOpened ∨ st = .aifStopped → s ∈ c.pool → I c → I c'
  unwind : ∀ {s i : ℕ} {c c' : Core}, UnwindTurn False s i c c' → s ∈ c.pool → I c → I c'

/-- What a turn keeps while the session exists, a loop keeps. -/
theorem keeps_of_until {I : Core → Prop} {T : ℕ → Core → ℤ → Core → Prop} {s : ℕ} {l : List ℕ}
    {c c' : Core} {r : ℤ} (hT : ∀ i c r c', T i c r c' → s ∈ c.pool → I c → I c')
    (hf : ∀ i c r c', T i c r c' → Frame s c c') (hu : Until T l c r c') (hs : s ∈ c.pool)
    (h : I c) : s ∈ c'.pool ∧ I c' :=
  hu.invariant (I := fun c => s ∈ c.pool ∧ I c)
    (fun i c r c' hI ht => ⟨(hf i c r c' ht).pool ▸ hI.1, hT i c r c' ht hI.1 hI.2⟩) ⟨hs, h⟩

theorem keeps_of_chain {I : Core → Prop} {T : ℕ → Core → Core → Prop} {s : ℕ} {l : List ℕ}
    {c c' : Core} (hT : ∀ i c c', T i c c' → s ∈ c.pool → I c → I c')
    (hf : ∀ i c c', T i c c' → Frame s c c') (hu : Chain T l c c') (hs : s ∈ c.pool)
    (h : I c) : s ∈ c'.pool ∧ I c' :=
  hu.invariant (I := fun c => s ∈ c.pool ∧ I c)
    (fun i c c' hI ht => ⟨(hf i c c' ht).pool ▸ hI.1, hT i c c' ht hI.1 hI.2⟩) ⟨hs, h⟩

theorem CloseGraph.pool {p : Option ℕ} {c c' : Core} {r : ℤ} (hg : CloseGraph p c r c') :
    c'.pool = c.pool := by
  cases hg with
  | null hp hr => rfl
  | closed hp => rfl

theorem CloseGraph.dev {p : Option ℕ} {c c' : Core} {r : ℤ} (hg : CloseGraph p c r c') :
    c'.dev = c.dev := by
  cases hg with
  | null hp hr => rfl
  | closed hp => rfl

theorem CloseGraph.sess {p : Option ℕ} {c c' : Core} {r : ℤ} (hg : CloseGraph p c r c') :
    c'.sess = c.sess := by
  cases hg with
  | null hp hr => rfl
  | closed hp => rfl

theorem OpenEdge.inert {s : ℕ} {kind : EdgeKind} {x : ℕ × Bool} {c c' : Core} {r : ℤ}
    (h : OpenEdge s kind x c r c') : Inert none c c' := by
  cases h with
  | off h => exact .refl none c
  | on h he => exact he.inert

theorem OpenEdges.inert {s : ℕ} {c c' : Core} {r : ℤ} (he : OpenEdges s c r c') :
    Inert none c c' := by
  cases he with
  | loopback hr hl => exact hl.inert
  | ecRef hl he => exact hl.inert.after he.inert

theorem OpenEdges.sess {s t : ℕ} {c c' : Core} {r : ℤ} (h : OpenEdges s c r c')
    (ht : t ∈ c.pool) : c'.sess t = c.sess t := by
  cases h with
  | loopback hr hl => exact hl.sess ht
  | ecRef hl he => exact (he.sess (hl.inert.pool t ht)).trans (hl.sess ht)

theorem Core.row_onRowDev (c : Core) (s i t j : ℕ) (f : DevCore → DevCore) :
    (c.onRowDev s i f).row t j = c.row t j := by
  unfold onRowDev
  cases (c.row s i).dev with
  | none => rfl
  | some d => rfl

theorem Core.firstOpen_spec {c : Core} {s i : ℕ} (h : c.firstOpen s = some i) :
    i < (c.sess s).rows.length ∧ (c.row s i).state = .aifOpen := by
  obtain ⟨hlt, hst, -⟩ := List.findIdx?_eq_some_iff_getElem.mp h
  refine ⟨hlt, ?_⟩
  rw [Core.row, List.getD_eq_getElem _ _ hlt]
  exact of_decide_eq_true hst

namespace Keeps

variable {I : Core → Prop} (hK : Keeps I) {c c' : Core} {s i n : ℕ} {r : ℤ}
include hK

/-! ### Preparing, starting and stopping -/

theorem prepareAll (hp : Prepare s c r c') (hs : s ∈ c.pool) (h : I c) : I c' := by
  cases hp with
  | early hr => exact h
  | late hn hr hu =>
      exact (keeps_of_until (fun _ _ _ _ => hK.prepare) (fun _ _ _ _ => PrepareTurn.frame)
        hu hs h).2
  | prepared hn hu =>
      exact hK.state s _ (keeps_of_until (fun _ _ _ _ => hK.prepare)
        (fun _ _ _ _ => PrepareTurn.frame) hu hs h).2

theorem startAll {gate : Prop} (hst : Start gate s c r c') (hs : s ∈ c.pool) (h : I c) :
    I c' := by
  cases hst with
  | early h' hr hp => exact hK.inert hp.inert h
  | unwound h' hn hr hp hu hc =>
      obtain ⟨hs₂, h₂⟩ := keeps_of_until (fun _ _ _ _ => hK.start)
        (fun _ _ _ _ => StartTurn.frame) hu (hp.inert.pool s hs) (hK.inert hp.inert h)
      exact (keeps_of_chain (fun _ _ _ ht => hK.stop ht (.inl rfl)) (fun _ _ _ => StopTurn.frame)
        hc hs₂ h₂).2
  | started h' hn hp hu =>
      exact hK.state s _ (keeps_of_until (fun _ _ _ _ => hK.start) (fun _ _ _ _ => StartTurn.frame)
        hu (hp.inert.pool s hs) (hK.inert hp.inert h)).2

theorem stopAll (hst : Stop s c r c') (hs : s ∈ c.pool) (h : I c) : I c' := by
  cases hst with
  | early hr => exact h
  | stopped hss hc =>
      exact hK.state s _ (keeps_of_chain (fun _ _ _ ht => hK.stop ht (.inr rfl))
        (fun _ _ _ => StopTurn.frame) hc hs h).2

/-! ### Opening -/

theorem openFirst {cleans : Prop} (ho : OpenFirst cleans s c r c') (hs : s ∈ c.pool) (h : I c) :
    I c' := by
  cases ho with
  | noAif hr hi h' => exact h
  | failed hr hi hc => exact hK.refused hc hr h
  | opened hi hc =>
      obtain ⟨hlt, hst⟩ := Core.firstOpen_spec hi
      exact hK.connected hc hs hlt (by rw [hst]; rfl) h

theorem reminders {l : List ℕ} (hr : Reminders s l n c r c') : s ∈ c.pool → I c → I c' := by
  induction hr with
  | nil => exact fun _ h => h
  | skip h' hs ih => exact ih
  | fail h' hr hc => exact fun _ h => hK.refused hc hr h
  | @next i is n c c₁ r c' h' hc hs ih =>
      intro hp h
      have hi : i < (c.sess s).rows.length := c.lt_of_row_ne (by rw [h']; decide)
      refine ih ?_ (hK.connected hc hp hi (by rw [h']; rfl) h)
      rw [(Frame.setRow (s := s) c₁ i .aifOpened).pool, hc.pool]
      exact hp

/-- The loop at `unwind`, when every turn of it closes its device. -/
theorem unwindAll {lost : ℕ → Prop} (hu : Unwind lost s c r c')
    (hl : ∀ i ∈ c.rowRange s, ¬ lost i) (hs : s ∈ c.pool) (h : I c) : I c' := by
  obtain ⟨hc, hg⟩ := hu
  have hturn : ∀ i ∈ c.rowRange s, UnwindTurn (lost i) s i = UnwindTurn False s i := by
    intro i hi
    rw [eq_false (hl i hi)]
  have hchain := hc.congr hturn
  have h₁ := keeps_of_chain (fun _ _ _ => hK.unwind) (fun _ _ _ => UnwindTurn.frame) hchain hs h
  exact hK.graph s hg h₁.2

theorem openSteps {b : OpenBranches} (ho : OpenSteps b s c r c') (hs : s ∈ c.pool)
    (hl : b.unwinds → ∀ i ∈ c.rowRange s, ¬ b.lost i) (h : I c) : I c' := by
  have hloop : ∀ {r₂ : ℤ} {c₁ c₂ : Core}, OpenFirst b.cleans s c 0 c₁ →
      Reminders s (c.rowRange s) 1 c₁ r₂ c₂ →
      s ∈ c₂.pool ∧ I c₂ ∧ c₂.rowRange s = c.rowRange s := by
    intro r₂ c₁ c₂ h₁ h₂
    have hs₁ : s ∈ c₁.pool := h₁.pool ▸ hs
    have hf₂ := h₂.frame (by decide)
    refine ⟨hf₂.pool ▸ hs₁, hK.reminders h₂ hs₁ (hK.openFirst h₁ hs h), ?_⟩
    simp only [Core.rowRange, hf₂.length, h₁.length]
  cases ho with
  | first hr h₁ hu he => exact hK.openFirst h₁ hs h
  | unwound hr h₁ h₂ hr₂ h₃ hu hsil he =>
      obtain ⟨hs₂, hb₂, hrange⟩ := hloop h₁ h₂
      exact hK.unwindAll h₃ (hrange ▸ hl hu) hs₂ hb₂
  | @resumed _ _ _ _ _ c₄ h₁ h₂ hr₂ h₃ hu hsil he h₄ =>
      obtain ⟨hs₂, hb₂, hrange⟩ := hloop h₁ h₂
      have h₄' : I c₄ := hK.inert h₄.inert (hK.unwindAll h₃ (hrange ▸ hl hu) hs₂ hb₂)
      split_ifs with hr
      · exact hK.state s _ h₄'
      · exact h₄'
  | edges hr h₁ h₂ h₃ hu he => exact hK.inert h₃.inert (hloop h₁ h₂).2.1
  | opened h₁ h₂ h₃ hu he => exact hK.state s _ (hK.inert h₃.inert (hloop h₁ h₂).2.1)

/-! ### Connecting -/

/-- A connection that does not go to `unwind`, of a pair that is not open. -/
theorem hotConnect {cleans gate : Prop} (hc : HotConnect cleans gate s i c r false c')
    (hs : s ∈ c.pool) (hi : i < (c.sess s).rows.length)
    (hne : (c.row s i).state ≠ .aifOpened) (h : I c) : I c' := by
  have hclosed : (c.row s i).state.toNat ≤ AifState.aifOpened.toNat →
      (c.row s i).state.isOpened = false := by
    revert hne
    cases (c.row s i).state <;> decide
  have hpool : ∀ {c₁ : Core}, Connect cleans s i (c.openedCount s) c 0 c₁ →
      s ∈ (c₁.setRow s i .aifOpened).pool := by
    intro c₁ hc
    rw [(Frame.setRow (s := s) c₁ i .aifOpened).pool, hc.pool]
    exact hs
  cases hc with
  | already hr => exact h
  | waiting hst hi' => exact hK.waiting hs hi (hclosed hi') rfl h
  | failed hst hi' hr hc => exact hK.refused hc hr h
  | opened hst hi' hc => exact hK.connected hc hs hi (hclosed hi') h
  | prepared hst hi' hc hp =>
      exact hK.prepareAll hp (hpool hc) (hK.connected hc hs hi (hclosed hi') h)
  | started hst hi' hc hp hstart =>
      have hs₂ := hp.facts.1 ▸ hpool hc
      exact hK.startAll hstart hs₂
        (hK.prepareAll hp (hpool hc) (hK.connected hc hs hi (hclosed hi') h))

end Keeps

/-! ### Calls -/

/-- The calls that move a pair and its device together: an interface is connected only while its
pair is not open and without going to `unwind`; it is disconnected only when its pair is open
exactly if the session is, and with no merge that fails; and no merge fails at `unwind` of
`session_obj_open`. -/
def OpenHonest (w : World) (call : Call) : Prop :=
  (∀ s ∈ call.op.opens?, s ∈ w.pool → (w.sess s).state = .sessionClosed →
    UnwindLosesNone s { w with ext := call.ext }) ∧
  (∀ p ∈ call.op.connects?, p.1 ∈ w.pool → w.core.pairState p.1 p.2 ≠ .aifOpened ∧
    ¬ AifUnwinds p.1 p.2 { w with ext := call.ext }) ∧
  (∀ p ∈ call.op.disconnects?, p.1 ∈ w.pool →
    AifState.aifOpen.toNat ≤ (w.core.pairState p.1 p.2).toNat →
      (w.core.pairState p.1 p.2 = .aifOpen ↔ (w.sess p.1).state = .sessionClosed) ∧
      ((w.sess p.1).state ≠ .sessionClosed → ¬ AifLoses p.1 p.2 { w with ext := call.ext }))

instance (w : World) (call : Call) : Decidable (OpenHonest w call) :=
  inferInstanceAs (Decidable (_ ∧ _ ∧ _))

/-- An honest call keeps what its moves keep. -/
theorem Keeps.step {I : Core → Prop} (hK : Keeps I) {w : World} {call : Call} {r : ℤ} {c' : Core}
    (hs : Step { w with ext := call.ext } call.op r c') (hc : OpenHonest w call)
    (hclose : ∀ s, call.op = .close s → s ∈ w.pool → Close s w.core r c' → I c')
    (hdisc : ∀ s aif i c₁, call.op = .aifConnect s aif false → s ∈ w.pool →
      GetAif s aif w.core (0, i) c₁ →
      AifDisconnect (AifLoses s aif { w with ext := call.ext }) s i c₁ r c' → I c')
    (h : I w.core) : I c' := by
  obtain ⟨op, ext⟩ := call
  obtain ⟨hopen, hconn, -⟩ := hc
  cases hs with
  | inert hi => exact hK.inert hi h
  | @«open» s _ _ lost hp hst ho hl =>
      have hnone := hopen s rfl hp hst
      exact hK.openSteps ho hp (fun hu => (hl hu).mp hnone) h
  | close hp hcl => exact hclose _ rfl hp hcl
  | prepare hp hpr => exact hK.prepareAll hpr hp h
  | start hp hst => exact hK.startAll hst hp h
  | stop hp hst => exact hK.stopAll hst hp h
  | @connect s aif _ _ hp ha =>
      obtain ⟨hne, hun⟩ := hconn (s, aif) rfl hp
      cases ha with
      | noMemory hr hu => exact h
      | done hu hi hc =>
          obtain ⟨hs₁, hlt, hst, -⟩ := hi.pair hp
          refine hK.hotConnect hc hs₁ hlt ?_ (hK.inert hi.inert h)
          rw [hst]
          exact hne
      | unwound hu hi hc hd => exact absurd hu hun
  | disconnect hp hi hd => exact hdisc _ _ _ _ rfl hp hi hd

end Agm
