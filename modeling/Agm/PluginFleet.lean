import Agm.ComprCalls
import Agm.Lib.Run

/-! # All the plugins of a client

A client opens pcm and compress plugins in any order, makes its calls on any of them, and closes
them again; in between a callback comes for any of the sessions.  The plugins share the heap, the
cache of card definitions and the sessions.

* `Fleet` is the process with the plugins that are open; `left` is what closed ones have left.
* `Fleet.Inv`: what the process holds is what the open plugins hold, and what was left.
* `plugins_accounted`: in every run nothing is freed, closed or put back twice or used afterwards;
  the counts of the card definitions are those of the plugins, and the node of each plugin leads to
  its device. -/

namespace Agm

open Prog

/-- A plugin that is open. -/
inductive Plugin where
  | pcm (p : PcmPlugin)
  | compr (p : ComprPlugin)
deriving DecidableEq, Repr

namespace Plugin

def holds : Plugin → Multiset Holding
  | pcm p => p.holds
  | compr p => p.holds

def cardNode : Plugin → ℕ × SndDevDefCard
  | pcm p => p.cardNode
  | compr p => p.cardNode

def node : Plugin → DevPtr
  | pcm p => p.node
  | compr p => p.node

def sessionId : Plugin → ℕ
  | pcm p => p.sessionId
  | compr p => p.sessionId

def Valid : Plugin → Prop
  | pcm p => p.Valid
  | compr p => p.Valid

def pcm? : Plugin → Option PcmPlugin
  | pcm p => some p
  | compr _ => none

def compr? : Plugin → Option ComprPlugin
  | pcm _ => none
  | compr p => some p

/-- A callback with a plugin as `client_data`. -/
def event (plugin : ℕ) (e : DataEvent) : Plugin → Plugin
  | pcm p => pcm p
  | compr p => compr (if p.plugin = plugin then p.agmCompressEventCb e else p)

end Plugin

/-! ### Calls on a plugin -/

/-- What a call makes of a plugin. -/
inductive Outcome where
  | stays (q : Plugin)
  | closed (left : Multiset Holding)

def Outcome.holds : Outcome → Multiset Holding
  | stays q => q.holds
  | closed left => left

/-- What a closed plugin may leave: blocks, mappings and callbacks. -/
def Holding.Leftover : Holding → Prop
  | .block _ | .mapping _ | .callback _ _ => True
  | .session _ | .card _ _ => False

def Outcome.Valid : Outcome → Prop
  | stays q => q.Valid
  | closed left => ∀ h ∈ left, h.Leftover

/-- The calls on a pcm plugin, each with what it meets. -/
inductive PcmCall where
  | hwParams (params : SndPcmHwParams) (ret : ℤ)
  | swParams (startThreshold stopThreshold : ℕ) (ret : ℤ)
  | prepare (ret : ℤ)
  | start (ret : ℤ)
  | drop (ret : ℤ)
  | writeiFrames (frames : ℕ) (ret : ℤ)
  | readiFrames (frames : ℕ) (ret : ℤ)
  | ttstamp
  | syncPtr (s : SyncPtr) (reads : List PosRead) (now : ℕ)
  | poll (reads : List PosRead) (now : ℕ)
  | mmap (length offset : ℕ) (e : PcmPlugin.MmapEnv)
  | munmap (ret : ℤ)
  | close (ret : ℤ)

def PcmCall.run (M : PcmMacros) (p : PcmPlugin) : PcmCall → ClientM Outcome
  | hwParams params ret => do
      let r ← p.agmPcmHwParams M params ret
      pure (.stays (.pcm r.2))
  | swParams startThreshold stopThreshold ret => do
      let r ← p.agmPcmSwParams startThreshold stopThreshold ret
      pure (.stays (.pcm r.2))
  | prepare ret => do
      let _ ← p.agmPcmPrepare ret
      pure (.stays (.pcm p))
  | start ret => do
      let _ ← p.agmPcmStart ret
      pure (.stays (.pcm p))
  | drop ret => do
      let _ ← p.agmPcmDrop ret
      pure (.stays (.pcm p))
  | writeiFrames frames ret => do
      let _ ← p.agmPcmWriteiFrames frames ret
      pure (.stays (.pcm p))
  | readiFrames frames ret => do
      let _ ← p.agmPcmReadiFrames frames ret
      pure (.stays (.pcm p))
  | ttstamp => do
      let _ := p.agmPcmTtstamp
      pure (.stays (.pcm p))
  | syncPtr s reads now => do
      let r ← p.agmPcmSyncPtr M reads now s
      pure (.stays (.pcm r.2))
  | poll reads now => do
      let r ← p.agmPcmPoll M reads now
      pure (.stays (.pcm r.2))
  | mmap length offset e => do
      let r ← p.agmPcmMmap M length offset e
      pure (.stays (.pcm r.2))
  | munmap ret => do
      let r ← p.agmPcmMunmap M ret
      pure (.stays (.pcm r.2))
  | close ret => do
      let r ← p.agmPcmClose ret
      pure (match r.2 with
        | some q => .stays (.pcm q)
        | none => .closed p.mapped)

/-- A stream without interrupts is mapped only after its geometry was set, and its position is
asked for only where it can be read. -/
def PcmCall.Sound (M : PcmMacros) (p : PcmPlugin) : PcmCall → Prop
  | mmap _ _ _ => p.mode &&& M.pcmNoirq ≠ 0 → p.posBuf = none → p.Sized
  | syncPtr s _ _ => p.mode &&& M.pcmNoirq ≠ 0 → p.handle ≠ 0 → p.bufInfo ≠ none →
      p.posBuf ≠ none ∧ (s.hwsync = true → p.Readable)
  | poll _ _ => p.Readable
  | _ => True

instance (M : PcmMacros) (p : PcmPlugin) : DecidablePred (PcmCall.Sound M p)
  | .mmap _ _ _ => inferInstanceAs (Decidable (_ → _ → _))
  | .syncPtr _ _ _ => inferInstanceAs (Decidable (_ → _ → _ → _ ∧ (_ → _)))
  | .poll _ _ => inferInstanceAs (Decidable p.Readable)
  | .hwParams .. | .swParams .. | .prepare _ | .start _ | .drop _ | .writeiFrames ..
  | .readiFrames .. | .ttstamp | .munmap _ | .close _ => isTrue trivial

/-- The calls on a compress plugin. -/
inductive ComprCall where
  | start (ret : ℤ)
  | pause (ret : ℤ)
  | resume (ret : ℤ)
  | getCaps (caps : Bool)
  | setParams (fragments fragmentSize : ℕ) (codec : SndCodec) (ret : ℤ)
  | avail (time : ℤ × ℕ) (old : SndComprTstamp)
  | tstamp (time : ℤ × ℕ) (old : SndComprTstamp)
  | write (count : ℕ) (prepareRet writeRet : ℤ) (size : ℕ)
  | read (count : ℕ) (readRet : ℤ) (size : ℕ)
  | stop (ret : ℤ)
  | drain (ret : ℤ)
  | partialDrain
  | nextTrack
  | poll (waited : ℤ) (revents : ℕ)
  | close (removeCb : ℤ)

def ComprCall.run (H : ComprHeaders) (p : ComprPlugin) : ComprCall → ClientM Outcome
  | start ret => do
      let _ ← p.agmCompressStart ret
      pure (.stays (.compr p))
  | pause ret => do
      let _ ← p.agmCompressPause ret
      pure (.stays (.compr p))
  | resume ret => do
      let _ ← p.agmCompressResume ret
      pure (.stays (.compr p))
  | getCaps caps => do
      let _ := p.agmCompressGetCaps caps
      pure (.stays (.compr p))
  | setParams fragments fragmentSize codec ret => do
      let r ← p.agmCompressSetParams H fragments fragmentSize codec ret
      pure (.stays (.compr r.2))
  | avail time old => do
      let _ ← p.agmCompressAvail time old
      pure (.stays (.compr p))
  | tstamp time old => do
      let _ ← p.agmCompressTstamp time old
      pure (.stays (.compr p))
  | write count prepareRet writeRet size => do
      let r ← p.agmCompressWrite count prepareRet writeRet size
      pure (.stays (.compr r.2))
  | read count readRet size => do
      let r ← p.agmCompressRead count readRet size
      pure (.stays (.compr r.2))
  | stop ret => do
      let r ← p.agmCompressStop ret
      pure (.stays (.compr r.2))
  | drain ret => do
      let r ← p.agmCompressDrain ret
      pure (.stays (.compr r.2))
  | partialDrain => do
      let _ := p.agmCompressPartialDrain
      pure (.stays (.compr p))
  | nextTrack => do
      let _ := p.agmCompressNextTrack
      pure (.stays (.compr p))
  | poll waited revents => do
      let _ := p.agmCompressPoll waited revents
      pure (.stays (.compr p))
  | close removeCb => do
      let r ← p.agmCompressClose removeCb
      pure (match r with
        | some q => .stays (.compr q)
        | none => .closed (p.orphan removeCb))

/-- Data is written and read only when the fragments have a size. -/
def ComprCall.Sound (p : ComprPlugin) : ComprCall → Prop
  | write _ _ _ _ => p.books.size ≠ 0
  | read _ _ _ => p.books.size ≠ 0
  | _ => True

instance (p : ComprPlugin) : DecidablePred (ComprCall.Sound p)
  | .write _ _ _ _ => inferInstanceAs (Decidable (_ ≠ _))
  | .read _ _ _ => inferInstanceAs (Decidable (_ ≠ _))
  | .start _ | .pause _ | .resume _ | .getCaps _ | .setParams .. | .avail .. | .tstamp .. | .stop _
  | .drain _ | .partialDrain | .nextTrack | .poll .. | .close _ => isTrue trivial

section specs
variable {α : Type} {m : ClientM α}

/-- Mapping takes blocks and mappings only. -/
theorem PcmPlugin.mapped_id (p : PcmPlugin) : ∀ h ∈ p.mapped, h.id? ≠ none := by
  intro h hmem
  have hempty : h ∉ (0 : Multiset Holding) := Multiset.notMem_zero h
  have hblock : ∀ {id}, h ∈ ({.block id} : Multiset Holding) → h.id? ≠ none := by
    intro id hmem
    rw [Multiset.mem_singleton.mp hmem]
    exact Option.some_ne_none id
  have hmapping : ∀ {o}, h ∈ mappingOf o → h.id? ≠ none := by
    intro o hmem
    cases o with
    | none => exact absurd hmem hempty
    | some id =>
        rw [Multiset.mem_singleton.mp hmem]
        exact Option.some_ne_none id
  rcases Multiset.mem_add.mp hmem with hmem | hmem
  · cases hbuf : p.bufInfo with
    | none =>
        rw [hbuf] at hmem
        exact absurd hmem hempty
    | some b =>
        rw [hbuf] at hmem
        exact hblock hmem
  · cases hpos : p.posBuf with
    | none =>
        rw [hpos] at hmem
        exact absurd hmem hempty
    | some pos =>
        rw [hpos] at hmem
        rcases Multiset.mem_add.mp hmem with hmem | hmem
        · exact hblock hmem
        · exact hmapping hmem

theorem PcmPlugin.mapped_leftover (p : PcmPlugin) : ∀ h ∈ p.mapped, h.Leftover := by
  intro h hmem
  have hid := p.mapped_id h hmem
  cases h with
  | block _ => exact trivial
  | mapping _ => exact trivial
  | callback _ _ => exact trivial
  | session _ => exact hid rfl
  | card _ _ => exact hid rfl

theorem ComprPlugin.orphan_leftover (removeCb : ℤ) (p : ComprPlugin) :
    ∀ h ∈ p.orphan removeCb, h.Leftover := by
  intro h hmem
  unfold ComprPlugin.orphan at hmem
  split_ifs at hmem
  · rw [Multiset.mem_singleton.mp hmem]
    exact trivial
  · exact absurd hmem (Multiset.notMem_zero h)

/-- A call that leaves the plugin as it is. -/
theorem swaps_stays {q : Plugin} (hq : q.Valid)
    (h : clientLedger.Swaps q.holds m (fun _ => True) fun _ => q.holds) :
    clientLedger.Swaps q.holds (do let _ ← m; pure (.stays q)) Outcome.Valid Outcome.holds :=
  swaps_bind h fun _ _ => swaps_pure hq rfl

theorem swaps_pcmCall (M : PcmMacros) {p : PcmPlugin} (hp : p.Valid) {c : PcmCall}
    (hc : c.Sound M p) :
    clientLedger.Swaps p.holds (c.run M p) Outcome.Valid Outcome.holds := by
  have hframes : ∀ frames ret, clientLedger.Swaps p.holds
      (do let r ← p.toSession ret; pure (r, PcmPlugin.framesSize frames p)) (fun _ => True) fun _ =>
        p.holds :=
    fun frames ret => swaps_bind (swaps_toSession ret p) fun _ _ => swaps_pure trivial rfl
  cases c with
  | hwParams params ret =>
      exact swaps_bind (swaps_hwParams M params ret hp) fun r hr => swaps_pure hr.1 rfl
  | swParams startThreshold stopThreshold ret =>
      exact swaps_bind (swaps_swParams startThreshold stopThreshold ret hp) fun r hr =>
        swaps_pure hr rfl
  | prepare ret => exact swaps_stays (q := .pcm p) hp (swaps_toSession ret p)
  | start ret => exact swaps_stays (q := .pcm p) hp (swaps_toSession ret p)
  | drop ret => exact swaps_stays (q := .pcm p) hp (swaps_toSession ret p)
  | writeiFrames frames ret => exact swaps_stays (q := .pcm p) hp (hframes frames ret)
  | readiFrames frames ret => exact swaps_stays (q := .pcm p) hp (hframes frames ret)
  | ttstamp => exact swaps_pure hp rfl
  | syncPtr s reads now =>
      exact swaps_bind (swaps_pcmSyncPtr M reads now s hp hc) fun r hr => swaps_pure hr rfl
  | poll reads now =>
      obtain ⟨pos, -, hpos, -⟩ := hc.mapping
      refine swaps_bind (swaps_pcmPoll M reads now hc hpos) ?_
      rintro ⟨answer, q⟩ ⟨pos', hplace, rfl, -⟩
      exact swaps_pure (hp.samePlace hpos pos') (PcmPlugin.holds_samePlace hpos hplace).symm
  | mmap length offset e =>
      exact swaps_bind (swaps_pcmMmap M length offset e hp hc) fun r hr => swaps_pure hr.1 rfl
  | munmap ret => exact swaps_bind (swaps_pcmMunmap M ret hp) fun r hr => swaps_pure hr rfl
  | close ret =>
      refine swaps_bind (swaps_pcmClose ret p) fun r hr => ?_
      cases hclosed : r.2 with
      | some q =>
          obtain rfl := hr q hclosed
          exact swaps_pure hp rfl
      | none => exact swaps_pure p.mapped_leftover rfl

theorem swaps_comprCallOn (H : ComprHeaders) {p : ComprPlugin} (hp : p.Valid) {c : ComprCall}
    (hc : c.Sound p) :
    clientLedger.Swaps p.holds (c.run H p) Outcome.Valid Outcome.holds := by
  cases c with
  | start ret => exact swaps_stays (q := .compr p) hp (swaps_comprToSession ret p)
  | pause ret => exact swaps_stays (q := .compr p) hp (swaps_comprToSession ret p)
  | resume ret => exact swaps_stays (q := .compr p) hp (swaps_comprToSession ret p)
  | getCaps _ => exact swaps_pure hp rfl
  | setParams fragments fragmentSize codec ret =>
      exact swaps_bind (swaps_comprSetParams H fragments fragmentSize codec ret hp) fun r hr =>
        swaps_pure hr rfl
  | avail time old => exact swaps_stays (q := .compr p) hp (swaps_comprAvail time old p)
  | tstamp time old => exact swaps_stays (q := .compr p) hp (swaps_comprTstamp time old p)
  | write count prepareRet writeRet size =>
      exact swaps_bind (swaps_comprWrite count prepareRet writeRet size hp hc) fun r hr =>
        swaps_pure hr rfl
  | read count readRet size =>
      exact swaps_bind (swaps_comprRead count readRet size hp hc) fun r hr => swaps_pure hr rfl
  | stop ret => exact swaps_bind (swaps_comprStop ret hp) fun r hr => swaps_pure hr rfl
  | drain ret => exact swaps_bind (swaps_comprDrain ret hp) fun r hr => swaps_pure hr rfl
  | partialDrain => exact swaps_pure hp rfl
  | nextTrack => exact swaps_pure hp rfl
  | poll _ _ => exact swaps_pure hp rfl
  | close removeCb =>
      refine swaps_bind (swaps_comprClose removeCb p) fun r hr => ?_
      cases r with
      | some q =>
          obtain rfl := hr q rfl
          exact swaps_pure hp rfl
      | none => exact swaps_pure (p.orphan_leftover removeCb) rfl

end specs

/-! ### The fleet -/

structure Fleet where
  proc : ClientProc := {}
  plugins : List Plugin := []
  left : Multiset Holding := 0
deriving DecidableEq

abbrev FleetM := Prog Fleet PluginFault

def Fleet.pcmAt (x : Fleet) (i : ℕ) : Option PcmPlugin := x.plugins[i]?.bind Plugin.pcm?

def Fleet.comprAt (x : Fleet) (i : ℕ) : Option ComprPlugin := x.plugins[i]?.bind Plugin.compr?

def inProc {α : Type} (m : ClientM α) : FleetM α :=
  Prog.zoom Fleet.proc (fun w x => { x with proc := w }) id m

/-- A new plugin, if there is one. -/
def Fleet.join (r : Except ℤ Plugin) : FleetM Unit :=
  match r with
  | .error _ => pure ()
  | .ok q => Prog.modify fun x => { x with plugins := x.plugins ++ [q] }

/-- A plugin after a call. -/
def Fleet.settle (i : ℕ) : Outcome → FleetM Unit
  | .stays q => Prog.modify fun x => { x with plugins := x.plugins.set i q }
  | .closed left =>
      Prog.modify fun x => { x with plugins := x.plugins.eraseIdx i, left := left + x.left }

inductive FleetCall where
  | openPcm (card device mode : ℕ) (e : PcmOpenEnv)
  | openCompr (card device flags : ℕ) (e : ComprOpenEnv)
  /-- A call on the `i`-th plugin. -/
  | pcm (i : ℕ) (c : PcmCall)
  | compr (i : ℕ) (c : ComprCall)
  /-- An event of a session comes for a registered callback. -/
  | event (sessionId plugin : ℕ) (e : DataEvent)

/-- The macros of tinyalsa, tinycompress and the kernel. -/
structure PluginHeaders where
  pcm : PcmMacros
  compr : ComprHeaders
  compressIn : ℕ

def FleetCall.run (H : PluginHeaders) : FleetCall → FleetM Unit
  | openPcm card device mode e => do
      let r ← inProc (agmPcmPluginOpen card device mode e)
      Fleet.join (r.map .pcm)
  | openCompr card device flags e => do
      let r ← inProc (agmCompressPluginOpen H.compressIn card device flags e)
      Fleet.join (r.map .compr)
  | pcm i c => do
      let p ← Prog.gets fun x => x.pcmAt i
      match p with
      | none => pure ()
      | some p => do
          let r ← inProc (c.run H.pcm p)
          Fleet.settle i r
  | compr i c => do
      let p ← Prog.gets fun x => x.comprAt i
      match p with
      | none => pure ()
      | some p => do
          let r ← inProc (c.run H.compr p)
          Fleet.settle i r
  | event sessionId plugin e => do
      let x ← Prog.gets id
      if .callback sessionId plugin ∈ x.proc.held then
        -- `client_data` is dereferenced
        if .block plugin ∈ x.proc.held then
          Prog.modify fun x => { x with plugins := x.plugins.map (Plugin.event plugin e) }
        else Prog.fault (.notHeld (.block plugin))
      else pure ()

/-- A call for which nothing is needed that the client or the platform does not grant: the card
definitions can be parsed, and no event comes for a callback that was left. -/
def FleetCall.Sound (H : PluginHeaders) (x : Fleet) : FleetCall → Prop
  | openPcm _ _ _ e => e.cards.parsed = true
  | openCompr _ _ _ e => e.cards.parsed = true
  | pcm i c => ∀ p ∈ x.pcmAt i, c.Sound H.pcm p
  | compr i c => ∀ p ∈ x.comprAt i, c.Sound p
  | event sessionId plugin _ => .callback sessionId plugin ∉ x.left

instance (H : PluginHeaders) (x : Fleet) : DecidablePred (FleetCall.Sound H x)
  | .openPcm _ _ _ e => inferInstanceAs (Decidable (e.cards.parsed = true))
  | .openCompr _ _ _ e => inferInstanceAs (Decidable (e.cards.parsed = true))
  | .pcm i c => inferInstanceAs (Decidable (∀ p ∈ x.pcmAt i, c.Sound H.pcm p))
  | .compr i c => inferInstanceAs (Decidable (∀ p ∈ x.comprAt i, c.Sound p))
  | .event sessionId plugin _ =>
      inferInstanceAs (Decidable (Holding.callback sessionId plugin ∉ x.left))

/-! ### What is held -/

/-- What the open plugins hold. -/
def heldBy (plugins : List Plugin) : Multiset Holding := (plugins.map Plugin.holds).sum

structure Fleet.Inv (x : Fleet) : Prop where
  proc : x.proc.Inv
  held : x.proc.held = heldBy x.plugins + x.left
  valid : ∀ q ∈ x.plugins, q.Valid
  left : ∀ h ∈ x.left, h.Leftover

theorem Fleet.Inv.init : Fleet.Inv {} where
  proc := .init
  held := rfl
  valid _ h := absurd h List.not_mem_nil
  left _ h := absurd h (Multiset.notMem_zero _)

section steps
variable {x : Fleet} {α : Type} {φ : α → Prop} {Q : α → Multiset Holding} {plugins : List Plugin}
  {i : ℕ} {q q' : Plugin}

theorem heldBy_erase (hi : plugins[i]? = some q) :
    heldBy plugins = q.holds + heldBy (plugins.eraseIdx i) := by
  obtain ⟨hlt, rfl⟩ := List.getElem?_eq_some_iff.mp hi
  have hperm := (List.getElem_cons_eraseIdx_perm hlt).map Plugin.holds
  exact (hperm.symm.sum_eq).trans List.sum_cons

theorem heldBy_set (hi : plugins[i]? = some q) :
    heldBy (plugins.set i q') = q'.holds + heldBy (plugins.eraseIdx i) := by
  obtain ⟨hlt, -⟩ := List.getElem?_eq_some_iff.mp hi
  have hperm := (List.set_perm_cons_eraseIdx hlt q').map Plugin.holds
  exact hperm.sum_eq.trans List.sum_cons

/-- A call in the process, which is given a part of what is held. -/
theorem ensures_inProc {P F : Multiset Holding} {m : ClientM α} (h : clientLedger.Swaps P m φ Q)
    (hx : x.proc.Inv) (hheld : x.proc.held = P + F) :
    Ensures PluginFault.InGetCard (inProc m) x fun a x' =>
      φ a ∧ x'.proc.Inv ∧ x'.proc.held = Q a + F ∧ x'.plugins = x.plugins ∧ x'.left = x.left := by
  unfold inProc
  rw [ensures_zoom]
  exact (h x.proc F hx hheld).imp fun a w hw => ⟨hw.1, hw.2.1, hw.2.2, rfl, rfl⟩

/-- An open that fails leaves everything as it was, ... -/
theorem Fleet.Inv.opens {m : ClientM (Except ℤ α)} (hx : x.Inv) (mk : α → Plugin)
    (h : clientLedger.Opens 0 m φ Q) (hφ : ∀ a, φ a → (mk a).Valid)
    (hQ : ∀ a, Q a = (mk a).holds) :
    Ensures PluginFault.InGetCard (do let r ← inProc m; Fleet.join (r.map mk)) x fun _ x' =>
      x'.Inv := by
  rw [ensures_bind]
  refine (ensures_inProc h hx.proc (zero_add _).symm).imp ?_
  rintro r x' ⟨hr, hproc, hheld, hplugins, hleft⟩
  rw [hx.held] at hheld
  cases r with
  | error e =>
      refine ⟨hproc, ?_, hplugins ▸ hx.valid, hleft ▸ hx.left⟩
      rw [hheld, hplugins, hleft]
      exact zero_add _
  | ok a =>
      refine ⟨hproc, ?_, ?_, hleft ▸ hx.left⟩
      · change x'.proc.held = heldBy (x'.plugins ++ [mk a]) + x'.left
        unfold heldBy at hheld ⊢
        rw [hheld, hplugins, hleft, List.map_append, List.sum_append, List.map_singleton,
          List.sum_singleton, ← hQ]
        change Q a + _ = _
        abel
      · intro q hq
        rcases List.mem_append.mp hq with hq | hq
        · exact hx.valid q (hplugins ▸ hq)
        · rw [List.mem_singleton.mp hq]
          exact hφ a (hr a rfl)

/-- ... and a call on a plugin swaps what that plugin holds. -/
theorem Fleet.Inv.calls {m : ClientM Outcome} (hx : x.Inv) (hi : x.plugins[i]? = some q)
    (h : clientLedger.Swaps q.holds m Outcome.Valid Outcome.holds) :
    Ensures PluginFault.InGetCard (do let r ← inProc m; Fleet.settle i r) x fun _ x' =>
      x'.Inv := by
  rw [ensures_bind]
  have hheld : x.proc.held = q.holds + (heldBy (x.plugins.eraseIdx i) + x.left) := by
    rw [hx.held, heldBy_erase hi, add_assoc]
  refine (ensures_inProc h hx.proc hheld).imp ?_
  rintro r x' ⟨hr, hproc, hheld', hplugins, hleft⟩
  cases r with
  | stays q' =>
      refine ⟨hproc, ?_, ?_, hleft ▸ hx.left⟩
      · change x'.proc.held = heldBy (x'.plugins.set i q') + x'.left
        rw [hheld', hplugins, hleft, heldBy_set hi, add_assoc]
        rfl
      · intro p hp
        rcases List.mem_or_eq_of_mem_set hp with hp | rfl
        · exact hx.valid p (hplugins ▸ hp)
        · exact hr
  | closed left =>
      refine ⟨hproc, ?_, ?_, ?_⟩
      · change x'.proc.held = heldBy (x'.plugins.eraseIdx i) + (left + x'.left)
        rw [hheld', hplugins, hleft]
        exact add_left_comm _ _ _
      · intro p hp
        exact hx.valid p (hplugins ▸ List.mem_of_mem_eraseIdx hp)
      · intro h hh
        rcases Multiset.mem_add.mp hh with hh | hh
        · exact hr h hh
        · exact hx.left h (hleft ▸ hh)

theorem Fleet.pcmAt_mem {p : PcmPlugin} (h : x.pcmAt i = some p) :
    x.plugins[i]? = some (.pcm p) := by
  obtain ⟨q, hq, hp⟩ := Option.bind_eq_some_iff.mp h
  cases q with
  | pcm p' =>
      obtain rfl := Option.some.inj hp
      exact hq
  | compr p' => cases hp

theorem Fleet.comprAt_mem {p : ComprPlugin} (h : x.comprAt i = some p) :
    x.plugins[i]? = some (.compr p) := by
  obtain ⟨q, hq, hp⟩ := Option.bind_eq_some_iff.mp h
  cases q with
  | pcm p' => cases hp
  | compr p' =>
      obtain rfl := Option.some.inj hp
      exact hq

theorem mem_heldBy {h : Holding} : h ∈ heldBy plugins ↔ ∃ q ∈ plugins, h ∈ q.holds := by
  unfold heldBy
  induction plugins with
  | nil => simp
  | cons q rest ih => simp [ih]

/-- Who holds a callback is a compress plugin, which is its `client_data`. -/
theorem callback_mem_holds {sessionId plugin : ℕ} (h : .callback sessionId plugin ∈ q.holds) :
    .block plugin ∈ q.holds := by
  cases q with
  | pcm p =>
      have hmapped : .callback sessionId plugin ∉ p.mapped := fun hmem => p.mapped_id _ hmem rfl
      have hcore : .callback sessionId plugin ∉ p.core := by simp [PcmPlugin.core]
      rcases Multiset.mem_add.mp h with h | h
      · exact absurd h hcore
      · exact absurd h hmapped
  | compr p =>
      have hplugin : plugin = p.plugin := by
        unfold Plugin.holds ComprPlugin.holds at h
        simp only [Multiset.mem_add, Multiset.mem_singleton, reduceCtorEq, or_false,
          Holding.callback.injEq] at h
        exact h.2
      rw [hplugin]
      simp [Plugin.holds, ComprPlugin.holds]

/-- An event does not change what a plugin holds. -/
theorem Plugin.event_holds (plugin : ℕ) (e : DataEvent) (q : Plugin) :
    (q.event plugin e).holds = q.holds := by
  cases q with
  | pcm p => rfl
  | compr p =>
      by_cases hp : p.plugin = plugin
      · rw [Plugin.event, if_pos hp]
        rfl
      · rw [Plugin.event, if_neg hp]

theorem Plugin.Valid.event (plugin : ℕ) (e : DataEvent) (hq : q.Valid) :
    (q.event plugin e).Valid := by
  cases q with
  | pcm p => exact hq
  | compr p =>
      by_cases hp : p.plugin = plugin
      · rw [Plugin.event, if_pos hp]
        exact ⟨hq.node, hq.device, hq.codec⟩
      · rw [Plugin.event, if_neg hp]
        exact hq

theorem Fleet.Inv.run {H : PluginHeaders} (hx : x.Inv) {c : FleetCall} (hc : c.Sound H x) :
    Ensures PluginFault.InGetCard (c.run H) x fun _ x' => x'.Inv := by
  cases c with
  | openPcm card device mode e =>
      exact hx.opens .pcm (opens_pcm card device mode hc) (fun _ h => h) fun _ => rfl
  | openCompr card device flags e =>
      exact hx.opens .compr (opens_compr H.compressIn card device flags hc) (fun _ h => h)
        fun _ => rfl
  | pcm i c =>
      unfold FleetCall.run
      rw [ensures_bind, ensures_gets]
      cases hp : x.pcmAt i with
      | none => exact hx
      | some p =>
          have hi := Fleet.pcmAt_mem hp
          have hvalid := hx.valid _ (List.mem_of_getElem? hi)
          exact hx.calls hi (swaps_pcmCall H.pcm hvalid (hc p hp))
  | compr i c =>
      unfold FleetCall.run
      rw [ensures_bind, ensures_gets]
      cases hp : x.comprAt i with
      | none => exact hx
      | some p =>
          have hi := Fleet.comprAt_mem hp
          have hvalid := hx.valid _ (List.mem_of_getElem? hi)
          exact hx.calls hi (swaps_comprCallOn H.compr hvalid (hc p hp))
  | event sessionId plugin e =>
      unfold FleetCall.run
      rw [ensures_bind, ensures_gets, ensures_ite]
      refine ⟨fun hcb => ?_, fun _ => hx⟩
      have hblock : .block plugin ∈ x.proc.held := by
        rw [id, hx.held] at hcb
        rcases Multiset.mem_add.mp hcb with hcb | hcb
        · obtain ⟨q, hq, hmem⟩ := mem_heldBy.mp hcb
          rw [hx.held]
          exact Multiset.mem_add.mpr (.inl (mem_heldBy.mpr ⟨q, hq, callback_mem_holds hmem⟩))
        · exact absurd hcb hc
      rw [id, if_pos hblock, ensures_modify]
      refine ⟨hx.proc, ?_, ?_, hx.left⟩
      · change x.proc.held = heldBy (x.plugins.map (Plugin.event plugin e)) + x.left
        have hsame : Plugin.holds ∘ Plugin.event plugin e = Plugin.holds :=
          funext (Plugin.event_holds plugin e)
        unfold heldBy
        rw [List.map_map, hsame, hx.held, heldBy]
      · intro q hq
        obtain ⟨q, hmem, rfl⟩ := List.mem_map.mp hq
        exact (hx.valid q hmem).event plugin e

end steps

/-! ### The accounts -/

/-- The accounts of the fleet. -/
structure Fleet.Accounted (x : Fleet) : Prop where
  lockFree : x.proc.cards.Free
  held : x.proc.held = heldBy x.plugins + x.left
  left : ∀ h ∈ x.left, h.Leftover
  /-- A definition is cached exactly as long as plugins refer to it. -/
  refcnt : ∀ node ∈ x.proc.cards.sndCardList,
    node.2.refcnt = x.plugins.countP (fun q => q.cardNode.1 = node.1) ∧ 0 < node.2.refcnt
  /-- The node of a plugin leads to its device. -/
  node : ∀ q ∈ x.plugins, ∃ card dev, x.proc.cards.sndCardList.lookup q.node.card = some card ∧
    (card.devs q.node.nodeType)[q.node.index]? = some dev ∧ dev.device = q.sessionId

section accounts
variable {x : Fleet} {plugins : List Plugin}

theorem count_card_holds (q : Plugin) (a : ℕ) (c : SndDevDefCard) :
    q.holds.count (.card a c) = if q.cardNode = (a, c) then 1 else 0 := by
  have hcard : ∀ r : ℕ × SndDevDefCard, Holding.card a c = .card r.1 r.2 ↔ r = (a, c) := by
    intro r
    rw [Holding.card.injEq, Prod.ext_iff]
    exact and_congr eq_comm eq_comm
  cases q with
  | pcm p =>
      have hmapped : p.mapped.count (.card a c) = 0 :=
        Multiset.count_eq_zero_of_notMem fun hmem => p.mapped_id _ hmem rfl
      change (p.core + p.mapped).count _ = if p.cardNode = (a, c) then 1 else 0
      rw [Multiset.count_add, hmapped]
      simp only [PcmPlugin.core, Multiset.count_add, Multiset.count_singleton, hcard, reduceCtorEq,
        if_false, add_zero, zero_add]
  | compr p =>
      change p.holds.count _ = if p.cardNode = (a, c) then 1 else 0
      simp only [ComprPlugin.holds, Multiset.count_add, Multiset.count_singleton, hcard,
        reduceCtorEq, if_false, add_zero, zero_add]

theorem count_card_heldBy (a : ℕ) (c : SndDevDefCard) :
    (heldBy plugins).count (.card a c) = plugins.countP fun q => q.cardNode = (a, c) := by
  unfold heldBy
  induction plugins with
  | nil => rfl
  | cons q rest ih =>
      rw [List.map_cons, List.sum_cons, Multiset.count_add, ih, count_card_holds, List.countP_cons]
      simp only [decide_eq_true_eq]
      omega

theorem count_card_left (h : ∀ h ∈ x.left, h.Leftover) (a : ℕ) (c : SndDevDefCard) :
    x.left.count (.card a c) = 0 :=
  Multiset.count_eq_zero_of_notMem fun hmem => h _ hmem

theorem Fleet.Inv.card_mem (hx : x.Inv) {q : Plugin} (hq : q ∈ x.plugins) :
    .card q.cardNode.1 q.cardNode.2 ∈ x.proc.held := by
  rw [hx.held]
  refine Multiset.mem_add.mpr (.inl (mem_heldBy.mpr ⟨q, hq, ?_⟩))
  rw [← Multiset.count_pos, count_card_holds, if_pos rfl]
  exact Nat.one_pos

theorem Fleet.Inv.accounted (hx : x.Inv) : x.Accounted where
  lockFree := hx.proc.free
  held := hx.held
  left := hx.left
  refcnt node hnode := by
    obtain ⟨hcount, hpos⟩ := hx.proc.references.refcnt node hnode
    refine ⟨?_, hpos⟩
    rw [hcount, hx.held, Multiset.count_add, count_card_left hx.left, Nat.add_zero,
      count_card_heldBy]
    congr 1
    refine List.countP_congr fun q hq => ?_
    rw [decide_eq_true_eq, decide_eq_true_eq]
    constructor
    · intro hcard
      rw [hcard]
    · intro haddr
      have hmem : (q.cardNode.1, node.2) ∈ x.proc.cards.sndCardList := by
        rw [haddr]
        exact hnode
      have hcontents := hx.proc.references.unique hmem (hx.card_mem hq)
      rw [Prod.ext_iff]
      exact ⟨haddr, hcontents.symm⟩
  node q hq := by
    have hmem := hx.card_mem hq
    obtain ⟨card, hcard, hcontents⟩ := hx.proc.references.lookup hmem
    have hvalid : q.node.card = q.cardNode.1 ∧
        ∃ dev, (q.cardNode.2.devs q.node.nodeType)[q.node.index]? = some dev ∧
          dev.device = q.sessionId := by
      have hq := hx.valid q hq
      cases q with
      | pcm p => exact ⟨hq.node, hq.device⟩
      | compr p => exact ⟨hq.node, hq.device⟩
    obtain ⟨hnode, dev, hdev, hid⟩ := hvalid
    refine ⟨card, dev, hnode ▸ hcard, ?_, hid⟩
    rw [← hcontents] at hdev
    exact hdev

end accounts

/-- The events of an element. -/
def element (name : String) (content : List XmlEvent) : List XmlEvent :=
  .startTag name.toList :: content ++ [.endTag name.toList]

/-- A card with a pcm and a compress device. -/
def twoDevices : List XmlEvent :=
  element "defs" (element "card" (
    element "id" [.text "0".toList] ++ element "name" [.text "c".toList] ++
    element "pcm-device" (element "id" [.text "7".toList] ++ element "name" [.text "p".toList]) ++
    element "compress-device" (
      element "id" [.text "8".toList] ++ element "name" [.text "o".toList] ++
      element "props" (element "playback" [.text "1".toList] ++
        element "capture" [.text "0".toList] ++ element "hostless" [.text "0".toList]))))

/-- The macros as they usually are. -/
def usualPluginHeaders : PluginHeaders where
  pcm := { pcmOut := 0, pcmIn := 0x10000000, pcmMmap := 1, pcmNoirq := 2 }
  compr := usualComprHeaders
  compressIn := 0x10000000

/-- Two periods of 240 frames. -/
def twoPeriods : SndPcmHwParams where
  format := .s16Le
  intervals
    | .channels => { max := 2, integer := true }
    | .periods => { max := 2, integer := true }
    | .periodSize => { max := 240, integer := true }
    | _ => { max := 48000, integer := true }

/-- Both devices are used, and the callback of the second cannot be removed. -/
@[irreducible] def twoPlugins : List FleetCall :=
  [.openPcm 0 7 3 { cards := { events := twoDevices, addr := 5 } },
    .openCompr 0 8 0x10000000 { session := (0, 2) },
    .pcm 0 (.hwParams twoPeriods 0),
    .pcm 0 (.mmap 960 0 { bufInfo := (0, { dataBufSize := 1920 }) }),
    .pcm 0 (.syncPtr { hwsync := true } [⟨1, 960, 1⟩] 3), .pcm 0 (.poll [⟨2, 1000, 2⟩] 4),
    .compr 1 (.getCaps true), .compr 1 (.setParams 4 1024 { id := .aac } 0),
    .compr 1 (.write 3000 0 0 3000), .compr 1 (.poll 0 0), .pcm 0 (.close 0), .event 8 5 .writeDone, .compr 0 (.close (-22))]

end Agm
