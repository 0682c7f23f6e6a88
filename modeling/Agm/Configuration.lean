import Agm.Refine

/-! # What GSL has been told of a session's configuration

`session_obj_set_config` only stores the configuration of a session.  It reaches GSL when the
graph is prepared, module by module, and for the buffers also when their address is asked for;
after that a latch says that it has been sent (`is_configured` of a module,
`is_config_buf_params_done` of the graph), and nothing ever clears the latches of an open
session.

* `lastParam` and `lastBufConfig` read off the calls on GSL what was sent last; `currentParam` is what
  a module of the stream should have, which is nothing where its function sends nothing.
* `InStep` is the invariant: what is latched was sent with the configuration the session has now.
* `prepared_upToDate`: a run keeps it as long as `session_obj_set_config` changes nothing that is
  latched, and then a successful prepare leaves GSL with the current configuration. -/

namespace Agm

open Prog

/-! ### What is sent -/

/-- The kinds of parameters; a module has one of each kind. -/
inductive ParamKind where
  | realId | outputFormat | mediaFormat | endpoint
deriving DecidableEq, Repr

instance : Fintype ParamKind where
  elems := {.realId, .outputFormat, .mediaFormat, .endpoint}
  complete k := by cases k <;> decide

def ModuleParam.kind : ModuleParam → ParamKind
  | realId _ => .realId
  | outputFormat _ => .outputFormat
  | pcmFormat _ | codecFormat _ _ => .mediaFormat
  | endpoint => .endpoint

/-- What the function of a module of the stream has sent when it succeeds. -/
def streamParams (sess : SessionObj) : Configure → List ModuleParam
  | .outputMediaFormat => ((outputFormat sess).map .outputFormat).toList
  | .placeholderDec =>
      match realFmtId sess.mediaConfig.format with
      | none => []
      | some id => .realId id :: ((outputFormat sess).map .outputFormat).toList
  | .sharedMemEp =>
      if isFormatPcm sess.mediaConfig.format then [.pcmFormat (pcmFormat sess)]
      else ((sharedFmt sess.mediaConfig.format).map fun fmt =>
        .codecFormat fmt (fmt.struct sess.streamConfig.codec)).toList
  | .spr | .hwEp => []

/-- The parameter of a kind that a module should have, if it should have one. -/
def currentParam (sess : SessionObj) (m : ModuleInfo) (k : ParamKind) : Option ModuleParam :=
  ((m.configure.map (streamParams sess)).getD []).find? fun p => decide (p.kind = k)

/-- The modules of the stream whose configuration is computed from the session: those of
`stream_module_list` that are configured, except for the SPR module, which is told the endpoints
of the graph. -/
def StreamModule (m : ModuleInfo) : Prop :=
  m.devObj = none ∧
    m.configure ∈ [some Configure.outputMediaFormat, some .placeholderDec, some .sharedMemEp]

instance (m : ModuleInfo) : Decidable (StreamModule m) := inferInstanceAs (Decidable (_ ∧ _))

/-- The parameters that `configure_buffer_params` computes. -/
def bufParams (stream : SessionConfig) (buf : BufferConfig) : BufParams :=
  { buffSize := if stream.dataMode = .pushPull then buf.count * buf.size % 2 ^ 32
      else buf.size % 2 ^ 32
    numBuffs := if stream.dataMode = .pushPull then 1 else buf.count
    startThreshold := stream.startThreshold
    stopThreshold := stream.stopThreshold
    attributes := match stream.dataMode with
      | .nonBlocking => .nonBlocking
      | .pushPull => .pushPull
      | _ => .blocking }

/-- Whether the command is `CONFIGURE_WRITE_PARAMS`, and its parameters. -/
def bufCommand (stream : SessionConfig) (buf : BufferConfig) : Bool × BufParams :=
  (decide (stream.dir = .rx), bufParams stream buf)

/-- The parameter of a kind, if the call sends it to the module.  A module of the graph is known by its
tag and its instance; the function goes with the tag. -/
def paramOf (h : ℕ) (m : ModuleInfo) (k : ParamKind) (c : GslCall) : Option ModuleParam :=
  match c.cmd with
  | .configureModule m' p =>
      if c.handle = some h ∧ m'.tag = m.tag ∧ m'.miid = m.miid ∧ m'.configure = m.configure ∧
          p.kind = k then some p
      else none
  | _ => none

/-- A configuration of the buffers, if the call is one. -/
def bufConfigOf (h : ℕ) (c : GslCall) : Option (Bool × BufParams) :=
  match c.cmd with
  | .configureBufs dir params => if c.handle = some h then some (decide (dir = .rx), params) else none
  | _ => none

/-- The last parameter of a kind sent to a module of the graph. -/
def lastParam (calls : List GslCall) (h : ℕ) (m : ModuleInfo) (k : ParamKind) :
    Option ModuleParam :=
  calls.findSome? (paramOf h m k)

/-- The last configuration of the buffers sent for the graph. -/
def lastBufConfig (calls : List GslCall) (h : ℕ) : Option (Bool × BufParams) :=
  calls.findSome? (bufConfigOf h)

/-- The graph of a session, if it is still open. -/
def World.graphOf (w : World) (s : ℕ) : Option GraphObj := (w.sess s).graph.bind w.heap

/-- GSL has the configuration that the session has now. -/
def UpToDate (s : ℕ) (w : World) : Prop :=
  ∃ obj ∈ w.graphOf s,
    (∀ m ∈ obj.taggedModList, StreamModule m → ∀ k,
      lastParam w.mem.calls obj.handle m k = currentParam (w.sess s) m k) ∧
    lastBufConfig w.mem.calls obj.handle =
      some (bufCommand (w.sess s).streamConfig (w.sess s).bufferConfig)

instance (s : ℕ) (w : World) : Decidable (UpToDate s w) :=
  inferInstanceAs (Decidable (∃ obj ∈ w.graphOf s, _ ∧ _))

/-! ### The invariant -/

/-- The module at a position of the list. -/
def GraphObj.modAt (obj : GraphObj) (k : ℕ) : ModuleInfo := obj.taggedModList.getD k noModule

/-- Everything is latched. -/
def Latched (obj : GraphObj) : Prop :=
  (∀ k < obj.taggedModList.length, StreamModule (obj.modAt k) →
    (obj.modAt k).isConfigured = true) ∧ obj.isConfigBufParamsDone = true

/-- What is latched was sent with the configuration of the session, a prepared graph has everything
latched, and what a module should not have it was never sent. -/
structure InStep (sess : SessionObj) (obj : GraphObj) (calls : List GslCall) : Prop where
  modules : ∀ j < obj.taggedModList.length, StreamModule (obj.modAt j) → ∀ k,
    (obj.modAt j).isConfigured = true ∨ currentParam sess (obj.modAt j) k = none →
    lastParam calls obj.handle (obj.modAt j) k = currentParam sess (obj.modAt j) k
  bufs : obj.isConfigBufParamsDone = true →
    lastBufConfig calls obj.handle = some (bufCommand sess.streamConfig sess.bufferConfig)
  prepared : obj.state = .prepared → Latched obj

section
variable {sess : SessionObj} {obj : GraphObj} {calls : List GslCall} {c : GslCall}

/-- A call that configures something does so with the configuration of the session. -/
structure Current (sess : SessionObj) (c : GslCall) : Prop where
  module : ∀ h m, StreamModule m → ∀ k, paramOf h m k c = none ∨
    paramOf h m k c = currentParam sess m k
  bufs : ∀ h, bufConfigOf h c = none ∨
    bufConfigOf h c = some (bufCommand sess.streamConfig sess.bufferConfig)

/-- What was sent last stays current under a current call. -/
theorem lastParam_cons (hc : Current sess c) {h : ℕ} {m : ModuleInfo} (hm : StreamModule m)
    {k : ParamKind} (hlast : lastParam calls h m k = currentParam sess m k) :
    lastParam (c :: calls) h m k = currentParam sess m k := by
  unfold lastParam at *
  rw [List.findSome?_cons]
  obtain hnone | hsome := hc.module h m hm k
  · rw [hnone]
    exact hlast
  · rw [hsome]
    cases hcur : currentParam sess m k with
    | none => exact hlast.trans hcur
    | some p => rfl

theorem lastBufConfig_cons (hc : Current sess c) {h : ℕ}
    (hlast : lastBufConfig calls h = some (bufCommand sess.streamConfig sess.bufferConfig)) :
    lastBufConfig (c :: calls) h =
      some (bufCommand sess.streamConfig sess.bufferConfig) := by
  unfold lastBufConfig at *
  rw [List.findSome?_cons]
  obtain hnone | hsome := hc.bufs h
  · rw [hnone]
    exact hlast
  · rw [hsome]

theorem InStep.cons (h : InStep sess obj calls) (hc : Current sess c) :
    InStep sess obj (c :: calls) where
  modules j hj hstream k hcase := lastParam_cons hc hstream (h.modules j hj hstream k hcase)
  bufs hdone := lastBufConfig_cons hc (h.bufs hdone)
  prepared := h.prepared

/-- The calls that configure neither a module nor the buffers. -/
def GslCmd.Silent : GslCmd → Prop
  | .configureModule .. => False
  | .configureBufs .. => False
  | _ => True

theorem current_of_silent {cmd : GslCmd} (h : cmd.Silent) (handle : Option ℕ) (code : ℤ) :
    Current sess ⟨handle, cmd, code⟩ := by
  cases cmd <;>
    first | exact h.elim | exact ⟨fun _ _ _ _ => .inl rfl, fun _ => .inl rfl⟩

theorem currentParam_congr {m m' : ModuleInfo} (h : m'.configure = m.configure) (k : ParamKind) :
    currentParam sess m' k = currentParam sess m k := by
  unfold currentParam
  rw [h]

/-- A parameter is current when it is the one of its kind that the module should have. -/
theorem current_configureModule (handle : Option ℕ) {mod : ModuleInfo} {p : ModuleParam} (code : ℤ)
    (hp : currentParam sess mod p.kind = some p) :
    Current sess ⟨handle, .configureModule mod p, code⟩ := by
  refine ⟨fun h m _ k => ?_, fun h => .inl rfl⟩
  unfold paramOf
  dsimp only
  split_ifs with hfor
  · obtain ⟨-, -, -, hconf, rfl⟩ := hfor
    rw [← currentParam_congr hconf]
    exact .inr hp.symm
  · exact .inl rfl

/-- An endpoint is no module of the stream. -/
theorem current_endpoint (handle : Option ℕ) {mod : ModuleInfo} {p : ModuleParam} (code : ℤ)
    (hmod : mod.configure = some .hwEp) : Current sess ⟨handle, .configureModule mod p, code⟩ := by
  refine ⟨fun h m hm k => .inl ?_, fun h => .inl rfl⟩
  unfold paramOf
  dsimp only
  refine if_neg ?_
  rintro ⟨-, -, -, hconf, -⟩
  have hmem := hm.2
  rw [← hconf, hmod] at hmem
  exact absurd hmem (by decide)

theorem current_configureBufs (handle : Option ℕ) (code : ℤ) :
    Current sess ⟨handle, .configureBufs sess.streamConfig.dir
      (bufParams sess.streamConfig sess.bufferConfig), code⟩ := by
  refine ⟨fun _ _ _ _ => .inl rfl, fun h => ?_⟩
  unfold bufConfigOf
  dsimp only
  split_ifs
  · exact .inr rfl
  · exact .inl rfl

/-! ### The latches -/

/-- Two graph objects with the same modules, latches and state. -/
structure SameLatches (obj obj' : GraphObj) : Prop where
  mods : obj'.taggedModList = obj.taggedModList
  handle : obj'.handle = obj.handle
  state : obj'.state = obj.state
  sess : obj'.sessObj = obj.sessObj
  done : obj'.isConfigBufParamsDone = obj.isConfigBufParamsDone

theorem SameLatches.refl (obj : GraphObj) : SameLatches obj obj := ⟨rfl, rfl, rfl, rfl, rfl⟩

theorem SameLatches.trans {obj obj' obj'' : GraphObj} (h : SameLatches obj obj')
    (h' : SameLatches obj' obj'') : SameLatches obj obj'' :=
  ⟨h'.mods.trans h.mods, h'.handle.trans h.handle, h'.state.trans h.state, h'.sess.trans h.sess,
    h'.done.trans h.done⟩

theorem InStep.congr {obj' : GraphObj} (h : InStep sess obj calls) (hsame : SameLatches obj obj') :
    InStep sess obj' calls := by
  have hat : ∀ k, obj'.modAt k = obj.modAt k := fun k => by
    unfold GraphObj.modAt
    rw [hsame.mods]
  constructor
  case modules =>
    intro j hj hstream k hcase
    rw [hsame.mods] at hj
    rw [hat] at hstream hcase ⊢
    rw [hsame.handle]
    exact h.modules j hj hstream k hcase
  case bufs =>
    intro hdone
    rw [hsame.done] at hdone
    rw [hsame.handle]
    exact h.bufs hdone
  case prepared =>
    intro hstate
    rw [hsame.state] at hstate
    obtain ⟨hmods, hdone⟩ := h.prepared hstate
    refine ⟨fun k hk => ?_, hsame.done.trans hdone⟩
    rw [hsame.mods] at hk
    rw [hat]
    exact hmods k hk

/-- The module at a position is marked as configured. -/
def GraphObj.latch (obj : GraphObj) (k : ℕ) : GraphObj :=
  { obj with taggedModList := obj.taggedModList.modify k fun m => { m with isConfigured := true } }

theorem length_latch (obj : GraphObj) (k : ℕ) :
    (obj.latch k).taggedModList.length = obj.taggedModList.length :=
  List.length_modify _ _ _

theorem modAt_latch {k j : ℕ} (hj : j < obj.taggedModList.length) :
    (obj.latch k).modAt j =
      if k = j then { obj.modAt j with isConfigured := true } else obj.modAt j := by
  unfold GraphObj.modAt GraphObj.latch
  rw [List.getD_eq_getElem?_getD, List.getD_eq_getElem?_getD, List.getElem?_modify,
    List.getElem?_eq_getElem hj]
  split_ifs
  · rfl
  · rfl

theorem streamModule_latch {k j : ℕ} (hj : j < obj.taggedModList.length) :
    StreamModule ((obj.latch k).modAt j) ↔ StreamModule (obj.modAt j) := by
  rw [modAt_latch hj]
  split_ifs
  · exact Iff.rfl
  · exact Iff.rfl

/-- A module whose current configuration has been sent is marked. -/
theorem InStep.latch (h : InStep sess obj calls) {k : ℕ} (hstate : obj.state ≠ .prepared)
    (hsent : StreamModule (obj.modAt k) → ∀ kind, lastParam calls obj.handle (obj.modAt k) kind =
      currentParam sess (obj.modAt k) kind) :
    InStep sess (obj.latch k) calls := by
  refine ⟨fun j hj hstream kind hcase => ?_, h.bufs, fun hprep => absurd hprep hstate⟩
  rw [length_latch] at hj
  rw [streamModule_latch hj] at hstream
  rw [modAt_latch hj] at hcase ⊢
  split_ifs at hcase ⊢ with hkj
  · subst hkj
    exact hsent hstream kind
  · exact h.modules j hj hstream kind hcase

end

/-! ### The functions of the graph -/

section
variable {E : Crash → Prop} {sess : SessionObj} {v : View} {s : ℕ} {t : GraphSt}

/-- The graph is in step, and apart from the call log it is the object `obj`. -/
structure At (sess : SessionObj) (obj : GraphObj) (t : GraphSt) : Prop where
  inStep : InStep sess t.obj t.mem.calls
  same : SameLatches obj t.obj

theorem ioctl_ensures (cmd : GslCmd) :
    Ensures E (ioctl cmd) t fun a t' => t'.obj = t.obj ∧
      t'.mem.calls = ⟨some t.obj.handle, cmd, a.code⟩ :: t.mem.calls := ⟨rfl, rfl⟩

theorem calloc_ensures :
    Ensures E (GraphM.ofMem (MemM.call calloc)) t fun _ t' => t'.obj = t.obj ∧ t'.mem = t.mem :=
  ⟨rfl, rfl⟩

/-- A request that configures nothing, or something as the session has it. -/
theorem ioctl_at {cmd : GslCmd} {obj : GraphObj} (h : At sess obj t)
    (hc : ∀ code, Current sess ⟨some t.obj.handle, cmd, code⟩) :
    Ensures E (ioctl cmd) t fun a t' => At sess obj t' ∧ t'.obj = t.obj ∧
      t'.mem.calls = ⟨some t.obj.handle, cmd, a.code⟩ :: t.mem.calls := by
  refine (ioctl_ensures cmd).imp ?_
  rintro a t' ⟨hobj, hcalls⟩
  refine ⟨⟨?_, ?_⟩, hobj, hcalls⟩
  · rw [hobj, hcalls]
    exact h.inStep.cons (hc a.code)
  · rw [hobj]
    exact h.same

theorem ioctl_silent {cmd : GslCmd} {obj : GraphObj} (h : At sess obj t) (hc : cmd.Silent) :
    Ensures E (ioctl cmd) t fun _ t' => At sess obj t' :=
  (ioctl_at h fun code => current_of_silent hc _ code).imp fun _ _ h' => h'.1

theorem calloc_at {obj : GraphObj} (h : At sess obj t) :
    Ensures E (GraphM.ofMem (MemM.call calloc)) t fun _ t' => At sess obj t' := by
  refine calloc_ensures.imp ?_
  rintro _ t' ⟨hobj, hmem⟩
  refine ⟨?_, ?_⟩
  · rw [hobj, hmem]
    exact h.inStep
  · rw [hobj]
    exact h.same

theorem configureSpr_at {obj : GraphObj} (h : At sess obj t) (spr : ModuleInfo) :
    Ensures E (configureSpr spr) t fun _ t' => At sess obj t' := by
  have hmodify : ∀ n, At sess obj { t with obj := { t.obj with sprMiid := n } } := by
    intro n
    have hsame : SameLatches t.obj { t.obj with sprMiid := n } := ⟨rfl, rfl, rfl, rfl, rfl⟩
    exact ⟨h.inStep.congr hsame, h.same.trans hsame⟩
  unfold configureSpr GraphM.modifyObj
  rw [ensures_bind, ensures_modify, ensures_bind]
  refine (calloc_at (hmodify spr.miid)).imp fun block t₁ h₁ => ?_
  rw [ensures_ite]
  refine ⟨fun _ => h₁, fun _ => ?_⟩
  rw [ensures_bind, GraphM.obj, ensures_gets]
  refine ensures_forAll (fun _ _ t => At sess obj t) ?_ _ _ _ h₁
  intro mod _ ret t₂ h₂
  rw [ensures_ite]
  refine ⟨fun _ => ?_, fun _ => h₂⟩
  rw [ensures_bind]
  have hsilent : GslCmd.Silent (.sprDelayPathEnd spr.miid mod.miid) := trivial
  exact ioctl_silent h₂ hsilent

/-- The module has the parameter of a kind that it should have. -/
def ParamSent (sess : SessionObj) (mod : ModuleInfo) (k : ParamKind) (t : GraphSt) : Prop :=
  lastParam t.mem.calls t.obj.handle mod k = currentParam sess mod k

/-- A parameter that the module should have is sent; those it has of other kinds stay. -/
theorem sendParam_at {obj : GraphObj} (h : At sess obj t) {mod : ModuleInfo} {p : ModuleParam}
    (hp : currentParam sess mod p.kind = some p) :
    Ensures E (sendParam mod p) t fun _ t' => At sess obj t' ∧ ParamSent sess mod p.kind t' ∧
      ∀ k, ParamSent sess mod k t → ParamSent sess mod k t' := by
  unfold sendParam
  rw [ensures_bind]
  refine (ioctl_at h fun code => current_configureModule _ code hp).imp ?_
  rintro a t' ⟨h', hobj, hcalls⟩
  have hself : paramOf t.obj.handle mod p.kind
      ⟨some t.obj.handle, .configureModule mod p, a.code⟩ = some p := by
    unfold paramOf
    exact if_pos ⟨rfl, rfl, rfl, rfl, rfl⟩
  have hother : ∀ k, paramOf t.obj.handle mod k
      ⟨some t.obj.handle, .configureModule mod p, a.code⟩ = if p.kind = k then some p else none := by
    intro k
    unfold paramOf
    simp
  refine ⟨h', ?_, fun k hk => ?_⟩
  · unfold ParamSent lastParam
    rw [hobj, hcalls, List.findSome?_cons, hself, hp]
  · unfold ParamSent lastParam at *
    rw [hobj, hcalls, List.findSome?_cons, hother]
    split_ifs with hkind
    · rw [← hkind, hp]
    · exact hk

theorem sendOutputFormat_at {obj : GraphObj} (h : At sess obj t) {mod : ModuleInfo}
    (hp : ∀ fmt, outputFormat sess = some fmt →
      currentParam sess mod .outputFormat = some (.outputFormat fmt)) :
    Ensures E (sendOutputFormat mod sess) t fun r t' => At sess obj t' ∧
      (r = 0 → ParamSent sess mod .outputFormat t' ∧
        ∀ k, ParamSent sess mod k t → ParamSent sess mod k t') := by
  unfold sendOutputFormat
  rw [ensures_bind]
  refine ((calloc_at h).and (calloc_ensures (E := E))).imp ?_
  rintro payload t₁ ⟨h₁, hobj, hmem⟩
  rw [ensures_ite]
  refine ⟨fun _ => ⟨h₁, fun h0 => absurd h0 (by decide)⟩, fun _ => ?_⟩
  cases hfmt : outputFormat sess with
  | none => exact ⟨h₁, fun h0 => absurd h0 (by decide)⟩
  | some fmt =>
      refine (sendParam_at h₁ (hp fmt hfmt)).imp ?_
      rintro r t₂ ⟨h₂, hsent, hkeep⟩
      refine ⟨h₂, fun _ => ⟨hsent, fun k hk => hkeep k ?_⟩⟩
      unfold ParamSent at *
      rw [hobj, hmem]
      exact hk

end

section
variable {sess : SessionObj} {v : View} {s : ℕ} {t : GraphSt}

theorem sendMediaFormat_at {obj : GraphObj} (h : At sess obj t) {mod : ModuleInfo}
    (hconf : mod.configure = some .sharedMemEp) :
    Ensures anyFault (sendMediaFormat mod sess) t fun r t' => At sess obj t' ∧
      (r = 0 → ∀ k, currentParam sess mod k = none ∨ ParamSent sess mod k t') := by
  have hcur : ∀ k, currentParam sess mod k =
      (streamParams sess .sharedMemEp).find? fun p => decide (p.kind = k) := by
    intro k
    unfold currentParam
    rw [hconf]
    rfl
  -- there is one parameter at most
  have hsend : ∀ p t₁, At sess obj t₁ → streamParams sess .sharedMemEp = [p] →
      Ensures anyFault (sendParam mod p) t₁ fun r t' => At sess obj t' ∧
        (r = 0 → ∀ k, currentParam sess mod k = none ∨ ParamSent sess mod k t') := by
    intro p t₁ h₁ hparams
    rw [hparams] at hcur
    refine (sendParam_at h₁ (by rw [hcur]; simp)).imp ?_
    rintro r t' ⟨h', hsent, -⟩
    refine ⟨h', fun _ k => ?_⟩
    by_cases hk : p.kind = k
    · exact .inr (hk ▸ hsent)
    · exact .inl (by rw [hcur]; simp [hk])
  unfold sendMediaFormat
  rw [ensures_ite]
  refine ⟨fun hpcm => ?_, fun hpcm => ?_⟩
  · unfold sendPcmFormat
    rw [ensures_bind]
    refine (calloc_at h).imp fun payload t₁ h₁ => ?_
    rw [ensures_ite]
    refine ⟨fun _ => ⟨h₁, fun h0 => absurd h0 (by decide)⟩, fun _ => hsend _ t₁ h₁ ?_⟩
    unfold streamParams
    exact if_pos hpcm
  · unfold sendCodecFormat
    cases hfmt : sharedFmt sess.mediaConfig.format with
    | none =>
        refine ⟨h, fun _ k => .inl ?_⟩
        have hnone : streamParams sess .sharedMemEp = [] := by
          unfold streamParams
          rw [if_neg hpcm, hfmt]
          rfl
        rw [hcur, hnone]
        rfl
    | some fmt =>
        dsimp only
        rw [ensures_bind]
        refine (calloc_at h).imp fun payload t₁ h₁ => ?_
        rw [ensures_ite]
        refine ⟨fun _ => trivial, fun _ => hsend _ t₁ h₁ ?_⟩
        unfold streamParams
        rw [if_neg hpcm, hfmt]
        rfl

theorem sendRealId_at {obj : GraphObj} (h : At sess obj t) {mod : ModuleInfo}
    (hconf : mod.configure = some .placeholderDec) :
    Ensures anyFault (sendRealId mod sess) t fun r t' => At sess obj t' ∧
      (r = 0 → ∀ k, currentParam sess mod k = none ∨ ParamSent sess mod k t') := by
  have hcur : ∀ k, currentParam sess mod k =
      (streamParams sess .placeholderDec).find? fun p => decide (p.kind = k) := by
    intro k
    unfold currentParam
    rw [hconf]
    rfl
  unfold sendRealId
  cases hid : realFmtId sess.mediaConfig.format with
  | none =>
      refine ⟨h, fun _ k => .inl ?_⟩
      have hnone : streamParams sess .placeholderDec = [] := by
        unfold streamParams
        rw [hid]
      rw [hcur, hnone]
      rfl
  | some id =>
      have hparams : streamParams sess .placeholderDec =
          .realId id :: ((outputFormat sess).map .outputFormat).toList := by
        unfold streamParams
        rw [hid]
      rw [hparams] at hcur
      dsimp only
      rw [ensures_bind]
      refine (calloc_at h).imp fun kvp t₁ h₁ => ?_
      rw [ensures_ite]
      refine ⟨fun _ => trivial, fun _ => ?_⟩
      rw [ensures_bind]
      have hreal : currentParam sess mod .realId = some (.realId id) := by
        rw [hcur]
        rfl
      refine (sendParam_at h₁ hreal).imp ?_
      rintro ret t₂ ⟨h₂, hsent₂, -⟩
      rw [ensures_ite]
      refine ⟨fun hret => ⟨h₂, fun h0 => absurd h0 hret⟩, fun _ => ?_⟩
      refine (sendOutputFormat_at h₂ fun fmt hfmt => ?_).imp ?_
      · rw [hcur, hfmt]
        rfl
      rintro r t₃ ⟨h₃, hsent₃⟩
      refine ⟨h₃, fun hr k => ?_⟩
      obtain ⟨hout, hkeep⟩ := hsent₃ hr
      cases k with
      | realId => exact .inr (hkeep _ hsent₂)
      | outputFormat => exact .inr hout
      | mediaFormat =>
          left
          rw [hcur]
          cases outputFormat sess <;> rfl
      | endpoint =>
          left
          rw [hcur]
          cases outputFormat sess <;> rfl

/-- The function of a module of the stream leaves its current configuration with GSL. -/
theorem configureModule_at {obj : GraphObj} (h : At (v.sess s) obj t)
    (hs : obj.sessObj = some s) (mod : ModuleInfo) (conf : Configure)
    (hconf : mod.configure = some conf) :
    Ensures anyFault (configureModule v mod conf) t fun r t' => At (v.sess s) obj t' ∧
      (r = 0 → StreamModule mod → ∀ k,
        currentParam (v.sess s) mod k = none ∨ ParamSent (v.sess s) mod k t') := by
  have hsess : t.obj.sessObj = some s := h.same.sess.trans hs
  have hnot : ∀ {t'}, At (v.sess s) obj t' → some conf ∉ [some Configure.outputMediaFormat,
      some .placeholderDec, some .sharedMemEp] → ∀ {r : ℤ}, At (v.sess s) obj t' ∧
      (r = 0 → StreamModule mod → ∀ k,
        currentParam (v.sess s) mod k = none ∨ ParamSent (v.sess s) mod k t') := by
    intro t' h' hno r
    refine ⟨h', fun _ hstream => ?_⟩
    have hmem := hstream.2
    rw [hconf] at hmem
    exact absurd hmem hno
  unfold configureModule
  rw [ensures_bind, GraphM.obj, ensures_gets, hsess]
  dsimp only [Option.getD_some]
  cases conf with
  | outputMediaFormat =>
      have hcur : ∀ k, currentParam (v.sess s) mod k =
          ((outputFormat (v.sess s)).map ModuleParam.outputFormat).toList.find?
            fun p => decide (p.kind = k) := by
        intro k
        unfold currentParam
        rw [hconf]
        rfl
      refine (sendOutputFormat_at h fun fmt hfmt => ?_).imp ?_
      · rw [hcur, hfmt]
        rfl
      rintro r t' ⟨h', hsent⟩
      refine ⟨h', fun hr _ k => ?_⟩
      by_cases hk : k = .outputFormat
      · subst hk
        exact .inr (hsent hr).1
      · left
        rw [hcur]
        cases outputFormat (v.sess s) with
        | none => rfl
        | some fmt => simp [ModuleParam.kind, Ne.symm hk]
  | placeholderDec => exact (sendRealId_at h hconf).imp fun _ _ h' => ⟨h'.1, fun hr _ => h'.2 hr⟩
  | sharedMemEp => exact (sendMediaFormat_at h hconf).imp fun _ _ h' => ⟨h'.1, fun hr _ => h'.2 hr⟩
  | spr => exact (configureSpr_at h mod).imp fun _ _ h' => hnot h' (by decide)
  | hwEp =>
      unfold sendParam
      rw [ensures_bind]
      refine (ioctl_at h fun code => current_endpoint _ code hconf).imp fun _ _ h' => ?_
      exact hnot h'.1 (by decide)

end

section
variable {E : Crash → Prop} {sess : SessionObj} {v : View} {s : ℕ} {t : GraphSt}

/-- `configure_buffer_params` sends what the session has, unless that has been latched. -/
theorem configureBufferParams_ensures (h : InStep sess t.obj t.mem.calls)
    (hstate : t.obj.state ≠ .prepared ∨ t.obj.isConfigBufParamsDone = true) :
    Ensures E (configureBufferParams sess) t fun r t' =>
      InStep sess t'.obj t'.mem.calls ∧ t'.obj.taggedModList = t.obj.taggedModList ∧
        t'.obj.sessObj = t.obj.sessObj ∧ t'.obj.state = t.obj.state ∧
        (r = 0 → t'.obj.isConfigBufParamsDone = true) := by
  unfold configureBufferParams
  rw [ensures_bind, GraphM.obj, ensures_gets, ensures_ite]
  refine ⟨fun hdone => ⟨h, rfl, rfl, rfl, fun _ => hdone⟩, fun hnot => ?_⟩
  have hopen : t.obj.state ≠ .prepared := hstate.resolve_right hnot
  show Ensures E (do
    let a ← ioctl (.configureBufs sess.streamConfig.dir
      (bufParams sess.streamConfig sess.bufferConfig))
    if a.code ≠ 0 then pure (arErrGetLnxErrCode a.code)
    else do
      GraphM.modifyObj fun g => { g with
        bufConfig := bufParams sess.streamConfig sess.bufferConfig, isConfigBufParamsDone := true }
      pure 0) t _
  rw [ensures_bind]
  refine (ioctl_ensures _).imp ?_
  rintro a t₁ ⟨hobj, hcalls⟩
  have hstep : InStep sess t₁.obj t₁.mem.calls := by
    rw [hobj, hcalls]
    exact h.cons (current_configureBufs _ _)
  rw [ensures_ite]
  refine ⟨fun hcode => ?_, fun hcode => ?_⟩
  · refine ⟨hstep, by rw [hobj], by rw [hobj], by rw [hobj], fun hr => ?_⟩
    exact absurd (arErrGetLnxErrCode_eq_zero.mp hr) hcode
  · unfold GraphM.modifyObj
    rw [ensures_bind, ensures_modify]
    refine ⟨⟨hstep.modules, fun _ => ?_, fun hprep => ?_⟩, by rw [hobj], by rw [hobj], by rw [hobj],
      fun _ => rfl⟩
    · rw [hcalls]
      unfold lastBufConfig
      rw [List.findSome?_cons]
      unfold bufConfigOf
      dsimp only
      rw [if_pos (by rw [hobj])]
      rfl
    · rw [hobj] at hprep
      exact absurd hprep hopen

/-- The loop of `graph_prepare` between two turns: the graph is in step and not prepared, and the
modules that are not to be visited any more are latched. -/
structure Preparing (sess : SessionObj) (s n : ℕ) (rest : List ℕ) (t : GraphSt) : Prop where
  inStep : InStep sess t.obj t.mem.calls
  open' : t.obj.state ≠ .prepared
  sess : t.obj.sessObj = some s
  length : t.obj.taggedModList.length = n
  left : ∀ j ∈ rest, j < n
  visited : ∀ j < n, j ∉ rest → StreamModule (t.obj.modAt j) → (t.obj.modAt j).isConfigured = true

/-- A turn that leaves the object alone. -/
theorem Preparing.skip {n k : ℕ} {rest : List ℕ} (h : Preparing sess s n (k :: rest) t)
    (hk : StreamModule (t.obj.modAt k) → (t.obj.modAt k).isConfigured = true) :
    Preparing sess s n rest t := by
  refine ⟨h.inStep, h.open', h.sess, h.length, fun j hj => h.left j (List.mem_cons_of_mem _ hj),
    fun j hj hrest hstream => ?_⟩
  by_cases hjk : j = k
  · subst hjk
    exact hk hstream
  · refine h.visited j hj (fun hmem => ?_) hstream
    obtain rfl | hmem := List.mem_cons.mp hmem
    · exact hjk rfl
    · exact hrest hmem

/-- A turn that latches its module. -/
theorem Preparing.latch {n k : ℕ} {rest : List ℕ} (h : Preparing sess s n (k :: rest) t)
    (hsent : StreamModule (t.obj.modAt k) → ∀ kind,
      lastParam t.mem.calls t.obj.handle (t.obj.modAt k) kind =
        currentParam sess (t.obj.modAt k) kind) :
    Preparing sess s n rest { t with obj := t.obj.latch k } := by
  refine ⟨h.inStep.latch h.open' hsent, h.open', h.sess, (length_latch _ _).trans h.length,
    fun j hj => h.left j (List.mem_cons_of_mem _ hj), ?_⟩
  intro j hj hrest hstream
  have hlen : j < t.obj.taggedModList.length := h.length ▸ hj
  dsimp only at hstream ⊢
  rw [streamModule_latch hlen] at hstream
  rw [modAt_latch hlen]
  split_ifs with hkj
  · rfl
  · refine h.visited j hj (fun hmem => ?_) hstream
    obtain rfl | hmem := List.mem_cons.mp hmem
    · exact hkj rfl
    · exact hrest hmem

/-- Calls on GSL in between. -/
theorem Preparing.at {n : ℕ} {rest : List ℕ} {t' : GraphSt} (h : Preparing sess s n rest t)
    (h' : At sess t.obj t') : Preparing sess s n rest t' := by
  have hat : ∀ j, t'.obj.modAt j = t.obj.modAt j := fun j => by
    unfold GraphObj.modAt
    rw [h'.same.mods]
  refine ⟨h'.inStep, by rw [h'.same.state]; exact h.open', h'.same.sess.trans h.sess,
    by rw [h'.same.mods]; exact h.length, h.left, fun j hj hrest => ?_⟩
  rw [hat]
  exact h.visited j hj hrest

theorem endpointStarted_not_stream {mod : ModuleInfo} (h : endpointStarted v mod = true) :
    ¬ StreamModule mod := by
  intro hstream
  unfold endpointStarted at h
  rw [hstream.1] at h
  cases h

theorem prepareModule_ensures {n k : ℕ} {rest : List ℕ} {stream : SessionConfig}
    (h : Preparing (v.sess s) s n (k :: rest) t) :
    Ensures anyFault (prepareModule v stream k) t fun r t' =>
      (r = 0 → Preparing (v.sess s) s n rest t') ∧
        (r ≠ 0 → InStep (v.sess s) t'.obj t'.mem.calls ∧ t'.obj.sessObj = some s) := by
  have hleave : ∀ r : ℤ, r ≠ 0 → (r = 0 → Preparing (v.sess s) s n rest t) ∧
      (r ≠ 0 → InStep (v.sess s) t.obj t.mem.calls ∧ t.obj.sessObj = some s) :=
    fun r hr => ⟨fun h0 => absurd h0 hr, fun _ => ⟨h.inStep, h.sess⟩⟩
  unfold prepareModule
  rw [ensures_bind, GraphM.obj, ensures_gets, ensures_ite]
  refine ⟨fun hconf => ⟨fun _ => h.skip fun _ => hconf, fun hr => absurd rfl hr⟩, fun _ => ?_⟩
  rw [ensures_ite]
  refine ⟨fun _ => hleave _ (by decide), fun _ => ?_⟩
  rw [ensures_ite]
  refine ⟨fun _ => hleave _ (by decide), fun _ => ?_⟩
  cases hmod : (t.obj.taggedModList.getD k noModule).configure with
  | none =>
      refine ⟨fun _ => h.skip fun hstream => ?_, fun hr => absurd rfl hr⟩
      have hmem := hstream.2
      unfold GraphObj.modAt at hmem
      rw [hmod] at hmem
      exact absurd hmem (by decide)
  | some conf =>
      dsimp only
      rw [ensures_ite]
      refine ⟨fun hstarted => ?_, fun _ => ?_⟩
      · -- a started endpoint is no module of the stream
        unfold setConfigured GraphM.modifyObj
        rw [ensures_bind, ensures_modify]
        exact ⟨fun _ => h.latch fun hstream => absurd hstream (endpointStarted_not_stream hstarted),
          fun hr => absurd rfl hr⟩
      · rw [ensures_bind]
        have hat : At (v.sess s) t.obj t := ⟨h.inStep, .refl _⟩
        refine (configureModule_at hat h.sess _ conf hmod).imp ?_
        rintro ret t₁ ⟨h₁, hsent⟩
        have hprep := h.at h₁
        rw [ensures_ite]
        refine ⟨fun hret => ⟨fun h0 => absurd h0 hret, fun _ => ⟨hprep.inStep, hprep.sess⟩⟩,
          fun hret => ?_⟩
        unfold setConfigured GraphM.modifyObj
        rw [ensures_bind, ensures_modify]
        refine ⟨fun _ => hprep.latch fun hstream kind => ?_, fun hr => absurd rfl hr⟩
        have hmodAt : t₁.obj.modAt k = t.obj.modAt k := by
          unfold GraphObj.modAt
          rw [h₁.same.mods]
        by_cases hnone : currentParam (v.sess s) (t₁.obj.modAt k) kind = none
        · have hk : k < n := h.left k List.mem_cons_self
          exact hprep.inStep.modules k (hprep.length ▸ hk) hstream kind (.inr hnone)
        · rw [hmodAt] at hstream hnone ⊢
          exact (hsent (not_not.mp hret) hstream kind).resolve_left hnone

/-- `graph_prepare` keeps the graph in step, and if it succeeds everything is latched. -/
theorem graphPrepareBody_ensures (h : InStep (v.sess s) t.obj t.mem.calls)
    (hs : t.obj.sessObj = some s) (hhost : (v.sess s).streamConfig.isHostless = false) :
    Ensures anyFault (graphPrepareBody v) t fun r t' =>
      InStep (v.sess s) t'.obj t'.mem.calls ∧ t'.obj.sessObj = some s ∧
        (r = 0 → Latched t'.obj) := by
  unfold graphPrepareBody
  rw [ensures_bind, GraphM.obj, ensures_gets, hs]
  dsimp only
  rw [ensures_ite]
  refine ⟨fun hprep => ⟨h, hs, fun _ => h.prepared hprep⟩, fun hopen => ?_⟩
  have hstart : Preparing (v.sess s) s t.obj.taggedModList.length
      (List.range t.obj.taggedModList.length) t :=
    ⟨h, hopen, hs, rfl, fun j hj => List.mem_range.mp hj,
      fun j hj hrest => absurd (List.mem_range.mpr hj) hrest⟩
  rw [ensures_bind]
  refine (ensures_forEach (Preparing (v.sess s) s t.obj.taggedModList.length)
    (fun _ t' => InStep (v.sess s) t'.obj t'.mem.calls ∧ t'.obj.sessObj = some s)
    (fun k rest t' h' => prepareModule_ensures h') _ t hstart).imp ?_
  rintro r t₁ ⟨hdone, hfail⟩
  rw [ensures_ite]
  refine ⟨fun hr => ?_, fun hr => ?_⟩
  · obtain ⟨hstep, hsess⟩ := hfail hr
    exact ⟨hstep, hsess, fun h0 => absurd h0 hr⟩
  · have hall := hdone (not_not.mp hr)
    rw [hhost, if_neg (by decide), ensures_bind]
    refine (configureBufferParams_ensures hall.inStep (.inl hall.open')).imp ?_
    rintro r t₂ ⟨hstep, hmods, hsess, hstate, hbufs⟩
    rw [ensures_ite]
    refine ⟨fun hr => ⟨hstep, hsess.trans hall.sess, fun h0 => absurd h0 hr⟩, fun hr => ?_⟩
    have hlatched : Latched t₂.obj := by
      refine ⟨fun j hj hstream => ?_, hbufs (not_not.mp hr)⟩
      unfold GraphObj.modAt at hstream ⊢
      rw [hmods] at hj hstream ⊢
      exact hall.visited j (hall.length ▸ hj) List.not_mem_nil hstream
    have hsilent : GslCmd.Silent .prepare := trivial
    rw [ensures_bind]
    refine (ioctl_silent ⟨hstep, .refl t₂.obj⟩ hsilent).imp fun a t₃ h₃ => ?_
    have hlatched₃ : Latched t₃.obj := by
      unfold Latched GraphObj.modAt at *
      rw [h₃.same.mods, h₃.same.done]
      exact hlatched
    have hsess₃ : t₃.obj.sessObj = some s := h₃.same.sess.trans (hsess.trans hall.sess)
    rw [ensures_ite]
    refine ⟨fun hcode => ⟨h₃.inStep, hsess₃, fun _ => hlatched₃⟩, fun _ => ?_⟩
    unfold GraphM.modifyObj
    rw [ensures_bind, ensures_modify]
    exact ⟨⟨h₃.inStep.modules, h₃.inStep.bufs, fun _ => hlatched₃⟩, hsess₃, fun _ => hlatched₃⟩

/-- Assigning another state than `PREPARED`. -/
theorem InStep.setState {obj : GraphObj} {calls : List GslCall} (h : InStep sess obj calls)
    {st : GraphState} (hst : st ≠ .prepared) : InStep sess { obj with state := st } calls :=
  ⟨h.modules, h.bufs, fun hprep => absurd hprep hst⟩

theorem graphStartBody_ensures (h : InStep sess t.obj t.mem.calls) (hs : t.obj.sessObj = some s) :
    Ensures E graphStartBody t fun _ t' =>
      InStep sess t'.obj t'.mem.calls ∧ t'.obj.sessObj = some s := by
  have hsilent : GslCmd.Silent .start := trivial
  unfold graphStartBody
  rw [ensures_bind]
  refine (ioctl_silent ⟨h, .refl t.obj⟩ hsilent).imp fun a t₁ h₁ => ?_
  rw [ensures_ite]
  refine ⟨fun _ => ⟨h₁.inStep, h₁.same.sess.trans hs⟩, fun _ => ?_⟩
  exact ⟨h₁.inStep.setState nofun, h₁.same.sess.trans hs⟩

theorem graphStopBody_ensures (h : InStep sess t.obj t.mem.calls) (hs : t.obj.sessObj = some s) :
    Ensures E (graphStopBody none) t fun _ t' =>
      InStep sess t'.obj t'.mem.calls ∧ t'.obj.sessObj = some s := by
  have hsilent : GslCmd.Silent (.stop none) := trivial
  unfold graphStopBody
  rw [ensures_bind, GraphM.obj, ensures_gets, ensures_ite]
  refine ⟨fun _ => ⟨h, hs⟩, fun _ => ?_⟩
  rw [ensures_ite]
  refine ⟨fun _ => ⟨h, hs⟩, fun _ => ?_⟩
  rw [ensures_bind]
  refine (ioctl_silent ⟨h, .refl t.obj⟩ hsilent).imp fun a t₁ h₁ => ?_
  exact ⟨h₁.inStep.setState nofun, h₁.same.sess.trans hs⟩

theorem graphFillBufInfo_at {obj : GraphObj} (h : At sess obj t) (dir : Direction) (pos : Bool) :
    Ensures E (graphFillBufInfo dir pos) t fun _ t' => At sess obj t' := by
  have hsilent : GslCmd.Silent (.getBuffInfo dir pos) := trivial
  unfold graphFillBufInfo
  rw [ensures_bind]
  refine (calloc_at h).imp fun _ t₁ h₁ => ?_
  rw [ensures_ite]
  refine ⟨fun _ => h₁, fun _ => ?_⟩
  rw [ensures_bind]
  refine (calloc_at h₁).imp fun _ t₂ h₂ => ?_
  rw [ensures_ite]
  refine ⟨fun _ => h₂, fun _ => ?_⟩
  rw [ensures_bind]
  exact ioctl_silent h₂ hsilent

theorem graphGetBufInfoBody_ensures (h : InStep (v.sess s) t.obj t.mem.calls)
    (hs : t.obj.sessObj = some s) (dataBuf posBuf : Bool) :
    Ensures E (graphGetBufInfoBody v dataBuf posBuf) t fun _ t' =>
      InStep (v.sess s) t'.obj t'.mem.calls ∧ t'.obj.sessObj = some s := by
  unfold graphGetBufInfoBody
  rw [ensures_bind, GraphM.obj, ensures_gets, hs]
  dsimp only
  rw [ensures_ite]
  refine ⟨fun _ => ⟨h, hs⟩, fun _ => ?_⟩
  rw [ensures_bind]
  have hready : t.obj.state ≠ .prepared ∨ t.obj.isConfigBufParamsDone = true := by
    by_cases hprep : t.obj.state = .prepared
    · exact .inr (h.prepared hprep).2
    · exact .inl hprep
  refine (configureBufferParams_ensures h hready).imp ?_
  rintro _ t₁ ⟨hstep, -, hsess, -, -⟩
  have h₁ : At (v.sess s) t₁.obj t₁ := ⟨hstep, .refl _⟩
  rw [ensures_bind, ensures_ite]
  have hpos : ∀ (ret : ℤ) t₂, At (v.sess s) t₁.obj t₂ →
      Ensures E (if posBuf then graphFillBufInfo (v.sess s).streamConfig.dir true else pure ret) t₂
        fun _ t' => InStep (v.sess s) t'.obj t'.mem.calls ∧ t'.obj.sessObj = some s := by
    intro ret t₂ h₂
    rw [ensures_ite]
    refine ⟨fun _ => (graphFillBufInfo_at h₂ _ _).imp fun _ t₃ h₃ => ?_, fun _ => ?_⟩
    · exact ⟨h₃.inStep, h₃.same.sess.trans (hsess.trans hs)⟩
    · exact ⟨h₂.inStep, h₂.same.sess.trans (hsess.trans hs)⟩
  exact ⟨fun _ => (graphFillBufInfo_at h₁ _ _).imp fun ret t₂ h₂ => hpos ret t₂ h₂,
    fun _ => hpos _ t₁ h₁⟩

end

/-! ### The session -/

section
variable {s : ℕ} {w : World}

/-- The session exists, is not hostless, and its graph is in step with it. -/
structure Fits (s : ℕ) (w : World) : Prop where
  pool : s ∈ w.pool
  host : (w.sess s).streamConfig.isHostless = false
  graph : ∀ g obj, (w.sess s).graph = some g → w.heap g = some obj →
    obj.sessObj = some s ∧ InStep (w.sess s) obj w.mem.calls

/-- The session has a graph, and everything is latched in it. -/
def Full (s : ℕ) (w : World) : Prop :=
  ∃ g obj, (w.sess s).graph = some g ∧ w.heap g = some obj ∧ Latched obj

/-- A step that touches neither the graphs nor the configuration of the session. -/
structure Aside (s : ℕ) (w w' : World) : Prop where
  pool : s ∈ w'.pool
  heap : w'.heap = w.heap
  mem : w'.mem = w.mem
  graph : (w'.sess s).graph = (w.sess s).graph
  stream : (w'.sess s).streamConfig = (w.sess s).streamConfig
  media : (w'.sess s).mediaConfig = (w.sess s).mediaConfig
  buffer : (w'.sess s).bufferConfig = (w.sess s).bufferConfig

theorem Aside.refl (h : s ∈ w.pool) : Aside s w w := ⟨h, rfl, rfl, rfl, rfl, rfl, rfl⟩

theorem Aside.trans {w' w'' : World} (h : Aside s w w') (h' : Aside s w' w'') : Aside s w w'' :=
  ⟨h'.pool, h'.heap.trans h.heap, h'.mem.trans h.mem, h'.graph.trans h.graph,
    h'.stream.trans h.stream, h'.media.trans h.media, h'.buffer.trans h.buffer⟩

/-- The configuration of the session may become that of `sess'`: the parameters of a module that has
been configured stay as they are, and what a module should not have any more it was never sent; the
command for the buffers stays as it is once it has been sent. -/
structure MayReplace (sess sess' : SessionObj) (obj : GraphObj) (calls : List GslCall) : Prop where
  latched : ∀ m ∈ obj.taggedModList, StreamModule m → m.isConfigured = true → ∀ k,
    currentParam sess' m k = currentParam sess m k
  unsent : ∀ m ∈ obj.taggedModList, StreamModule m → ∀ k, currentParam sess' m k = none →
    lastParam calls obj.handle m k = none
  bufs : obj.isConfigBufParamsDone = true →
    bufCommand sess'.streamConfig sess'.bufferConfig =
      bufCommand sess.streamConfig sess.bufferConfig

theorem modAt_mem {obj : GraphObj} {j : ℕ} (hj : j < obj.taggedModList.length) :
    obj.modAt j ∈ obj.taggedModList := by
  unfold GraphObj.modAt
  rw [List.getD_eq_getElem _ _ hj]
  exact List.getElem_mem hj

theorem InStep.of_config {sess sess' : SessionObj} {obj : GraphObj} {calls : List GslCall}
    (h : InStep sess obj calls) (hmay : MayReplace sess sess' obj calls) :
    InStep sess' obj calls where
  modules j hj hstream k hcase := by
    by_cases hconf : (obj.modAt j).isConfigured = true
    · rw [hmay.latched _ (modAt_mem hj) hstream hconf k]
      exact h.modules j hj hstream k (.inl hconf)
    · have hnone := hcase.resolve_left hconf
      rw [hnone]
      exact hmay.unsent _ (modAt_mem hj) hstream k hnone
  bufs hdone := by
    rw [hmay.bufs hdone]
    exact h.bufs hdone
  prepared := h.prepared

/-- Of the session the parameters depend on nothing but its configuration. -/
theorem currentParam_of_config {sess sess' : SessionObj}
    (hstream : sess'.streamConfig = sess.streamConfig) (hmedia : sess'.mediaConfig = sess.mediaConfig)
    (m : ModuleInfo) (k : ParamKind) : currentParam sess' m k = currentParam sess m k := by
  have hwidth : getMediaBitWidth sess' = getMediaBitWidth sess := by
    unfold getMediaBitWidth
    rw [hstream, hmedia]
  have hsample : outputSample sess' = outputSample sess := by
    unfold outputSample
    rw [hstream, hmedia]
  have hout : outputFormat sess' = outputFormat sess := by
    unfold outputFormat
    rw [hwidth, hsample, hstream, hmedia]
  have hpcm : pcmFormat sess' = pcmFormat sess := by
    unfold pcmFormat
    rw [hwidth, hmedia]
  have hparams : streamParams sess' = streamParams sess := by
    funext conf
    cases conf <;> simp only [streamParams, hout, hpcm, hmedia, hstream]
  unfold currentParam
  rw [hparams]

theorem Fits.aside {w' : World} (h : Fits s w) (ha : Aside s w w') : Fits s w' := by
  refine ⟨ha.pool, by rw [ha.stream]; exact h.host, fun g obj hg hobj => ?_⟩
  rw [ha.graph] at hg
  rw [ha.heap] at hobj
  obtain ⟨hsess, hstep⟩ := h.graph g obj hg hobj
  refine ⟨hsess, ?_⟩
  have hparam := currentParam_of_config ha.stream ha.media
  rw [ha.mem]
  constructor
  case modules =>
    intro j hj hstream k hcase
    rw [hparam] at hcase ⊢
    exact hstep.modules j hj hstream k hcase
  case bufs =>
    intro hdone
    rw [ha.stream, ha.buffer]
    exact hstep.bufs hdone
  case prepared => exact hstep.prepared

theorem Full.aside {w' : World} (h : Full s w) (ha : Aside s w w') : Full s w' := by
  obtain ⟨g, obj, hg, hobj, hl⟩ := h
  exact ⟨g, obj, ha.graph.trans hg, (congrFun ha.heap g).trans hobj, hl⟩

theorem Fits.upToDate (h : Fits s w) (hf : Full s w) : UpToDate s w := by
  obtain ⟨g, obj, hg, hobj, hmods, hdone⟩ := hf
  obtain ⟨-, hstep⟩ := h.graph g obj hg hobj
  refine ⟨obj, Option.bind_eq_some_iff.mpr ⟨g, hg, hobj⟩, fun m hm hstream k => ?_,
    hstep.bufs hdone⟩
  obtain ⟨j, hj, rfl⟩ := List.mem_iff_getElem.mp hm
  have hat : obj.modAt j = obj.taggedModList[j] := List.getD_eq_getElem _ _ hj
  rw [← hat] at hstream ⊢
  exact hstep.modules j hj hstream k (.inl (hmods j hj hstream))

/-! ### Steps beside the graph -/

theorem modifySess_aside (hs : s ∈ w.pool) {f : SessionObj → SessionObj}
    (hf : ∀ x, (f x).graph = x.graph ∧ (f x).streamConfig = x.streamConfig ∧
      (f x).mediaConfig = x.mediaConfig ∧ (f x).bufferConfig = x.bufferConfig) :
    Ensures anyFault (modifySess s f) w fun _ w' => Aside s w w' := by
  obtain ⟨hgraph, hstream, hmedia, hbuffer⟩ := hf (w.sess s)
  have hself : (Function.update w.sess s (f (w.sess s))) s = f (w.sess s) :=
    Function.update_self s _ w.sess
  exact ⟨hs, rfl, rfl, (congrArg _ hself).trans hgraph, (congrArg _ hself).trans hstream,
    (congrArg _ hself).trans hmedia, (congrArg _ hself).trans hbuffer⟩

/-- `sess_obj->state = st`. -/
theorem setState_aside (hs : s ∈ w.pool) (st : SessionState) :
    Ensures anyFault (modifySess s fun sess => { sess with state := st }) w
      fun _ w' => Aside s w w' := by
  apply modifySess_aside hs
  intro x
  exact ⟨rfl, rfl, rfl, rfl⟩

theorem observe_aside (hs : s ∈ w.pool) (d : Option ℕ) (evs : List DevEvent) :
    Aside s w (observe d evs w) := by
  cases d with
  | none => exact .refl hs
  | some d => exact ⟨hs, rfl, rfl, rfl, rfl, rfl, rfl⟩

theorem setAifState_aside (hs : s ∈ w.pool) (i : ℕ) (st : AifState) :
    Ensures anyFault (setAifState s i st) w fun _ w' => Aside s w w' := by
  have hmodify : Ensures anyFault (modifyAif s i fun a => { a with state := st }) w
      fun _ w' => Aside s w w' := by
    apply modifySess_aside hs
    intro x
    exact ⟨rfl, rfl, rfl, rfl⟩
  unfold setAifState getAif
  rw [ensures_bind, ensures_gets, ensures_bind]
  exact hmodify.imp fun _ w₁ h₁ => h₁.trans (observe_aside h₁.pool _ _)

theorem onDevice_aside (hs : s ∈ w.pool) (d : Option ℕ) (m : DevM ℤ) :
    Ensures anyFault (onDevice d m) w fun _ w' => Aside s w w' := by
  cases d with
  | none => exact .refl hs
  | some d =>
      unfold onDevice
      rw [ensures_zoom]
      exact ensures_of_forall (fun _ => trivial) fun _ _ => ⟨hs, rfl, rfl, rfl, rfl, rfl, rfl⟩

theorem sessionObjGet_aside (hs : s ∈ w.pool) (pb : ℕ) :
    Ensures anyFault (sessionObjGet pb) w fun _ w' => Aside s w w' := by
  unfold sessionObjGet
  rw [ensures_bind, ensures_gets, ensures_ite]
  refine ⟨fun _ => .refl hs, fun hpb => ?_⟩
  have hne : s ≠ pb := by
    rintro rfl
    exact hpb hs
  have hcalloc : Ensures anyFault (env calloc) w fun _ w' =>
      w'.sess = w.sess ∧ w'.pool = w.pool ∧ w'.heap = w.heap ∧ w'.mem = w.mem :=
    ⟨rfl, rfl, rfl, rfl⟩
  rw [ensures_bind]
  refine hcalloc.imp ?_
  rintro block w₁ ⟨hsess, hpool, hheap, hmem⟩
  have h₁ : Aside s w w₁ :=
    ⟨hpool ▸ hs, hheap, hmem, by rw [hsess], by rw [hsess], by rw [hsess], by rw [hsess]⟩
  rw [ensures_ite]
  refine ⟨fun _ => h₁, fun _ => ?_⟩
  rw [ensures_bind, ensures_modify]
  have hkeep : Function.update w₁.sess pb {} s = w₁.sess s := Function.update_of_ne hne _ _
  refine h₁.trans ⟨List.mem_append_left _ h₁.pool, rfl, rfl, ?_, ?_, ?_, ?_⟩
  · exact congrArg SessionObj.graph hkeep
  · exact congrArg SessionObj.streamConfig hkeep
  · exact congrArg SessionObj.mediaConfig hkeep
  · exact congrArg SessionObj.bufferConfig hkeep

/-! ### Functions of the session's graph -/

/-- A function that keeps the graph in step, run on the session's graph. -/
theorem onGraph_fits (h : Fits s w) {m : View → GraphM ℤ} {R : ℤ → GraphObj → Prop}
    (hm : ∀ t : GraphSt, InStep (w.sess s) t.obj t.mem.calls → t.obj.sessObj = some s →
      Ensures anyFault (m ⟨w.sess, w.dev⟩) t fun r t' =>
        InStep (w.sess s) t'.obj t'.mem.calls ∧ t'.obj.sessObj = some s ∧ R r t'.obj) :
    Ensures anyFault (onGraph (w.sess s).graph m) w fun r w' =>
      Fits s w' ∧ w'.sess = w.sess ∧ w'.pool = w.pool ∧
        (r ≠ -EINVAL → ∃ g obj, (w'.sess s).graph = some g ∧ w'.heap g = some obj ∧ R r obj) := by
  cases hg : (w.sess s).graph with
  | none => exact ⟨h, rfl, rfl, fun hr => absurd rfl hr⟩
  | some g =>
      show Ensures anyFault (onLiveGraph g m) w _
      cases hobj : w.heap g with
      | none =>
          rw [ensures_onLiveGraph_dead hobj]
          trivial
      | some obj =>
          obtain ⟨hsess, hstep⟩ := h.graph g obj hg hobj
          refine ensures_onLiveGraph hobj ((hm ⟨obj, w.mem, w.ext⟩ hstep hsess).imp ?_)
          rintro r t ⟨hstep', hsess', hR⟩
          refine ⟨⟨h.pool, h.host, fun g' obj' hg' hobj' => ?_⟩, rfl, rfl, fun _ => ?_⟩
          · obtain rfl := Option.some.inj (hg.symm.trans hg')
            have heq := (Function.update_self g (some t.obj) w.heap).symm.trans hobj'
            obtain rfl := Option.some.inj heq
            exact ⟨hsess', hstep'⟩
          · exact ⟨g, t.obj, hg, Function.update_self g (some t.obj) w.heap, hR⟩

theorem graphPrepare_fits (h : Fits s w) :
    Ensures anyFault (graphPrepare (w.sess s).graph) w fun r w' =>
      Fits s w' ∧ w'.sess = w.sess ∧ (r = 0 → Full s w') := by
  refine (onGraph_fits (R := fun r obj => r = 0 → Latched obj) h fun t hstep hsess =>
    graphPrepareBody_ensures (v := ⟨w.sess, w.dev⟩) hstep hsess h.host).imp ?_
  rintro r w' ⟨hfits, hsess, -, hfull⟩
  refine ⟨hfits, hsess, fun hr => ?_⟩
  subst hr
  obtain ⟨g, obj, hg, hobj, hl⟩ := hfull (by decide)
  exact ⟨g, obj, hg, hobj, hl rfl⟩

theorem graphStart_fits (h : Fits s w) :
    Ensures anyFault (graphStart (w.sess s).graph) w fun _ w' => Fits s w' :=
  (onGraph_fits (R := fun _ _ => True) h fun _ hstep hsess =>
    (graphStartBody_ensures hstep hsess).imp fun _ _ h' => ⟨h'.1, h'.2, trivial⟩).imp
      fun _ _ h' => h'.1

theorem graphStop_fits (h : Fits s w) :
    Ensures anyFault (graphStop (w.sess s).graph none) w fun _ w' =>
      Fits s w' ∧ w'.sess = w.sess :=
  (onGraph_fits (R := fun _ _ => True) h fun _ hstep hsess =>
    (graphStopBody_ensures hstep hsess).imp fun _ _ h' => ⟨h'.1, h'.2, trivial⟩).imp
      fun _ _ h' => ⟨h'.1, h'.2.1⟩

theorem graphGetBufInfo_fits (h : Fits s w) (dataBuf posBuf : Bool) :
    Ensures anyFault (graphGetBufInfo (w.sess s).graph dataBuf posBuf) w fun _ w' => Fits s w' := by
  have hon := onGraph_fits (R := fun _ _ => True) (m := fun v => graphGetBufInfoBody v dataBuf posBuf)
    h fun _ hstep hsess =>
      (graphGetBufInfoBody_ensures (v := ⟨w.sess, w.dev⟩) hstep hsess dataBuf posBuf).imp
        fun _ _ h' => ⟨h'.1, h'.2, trivial⟩
  cases hg : (w.sess s).graph with
  | none => trivial
  | some g =>
      rw [hg] at hon
      exact hon.imp fun _ _ h' => h'.1

/-! ### The calls of the session -/

/-- A loop over devices that is left at the first error. -/
theorem forEach_aside {body : ℕ → AgmM ℤ}
    (hbody : ∀ i w, s ∈ w.pool → Ensures anyFault (body i) w fun _ w' => Aside s w w') (is : List ℕ)
    (hs : s ∈ w.pool) : Ensures anyFault (forEach body is) w fun _ w' => Aside s w w' := by
  refine (ensures_forEach (fun _ w' => Aside s w w') (fun _ w' => Aside s w w') ?_ is w
    (.refl hs)).imp fun r w' h => ?_
  · intro i _ w₁ h₁
    refine (hbody i w₁ h₁.pool).imp fun r w₂ h₂ => ?_
    exact ⟨fun _ => h₁.trans h₂, fun _ => h₁.trans h₂⟩
  · by_cases hr : r = 0
    · exact h.1 hr
    · exact h.2 hr

theorem prepareAif_aside (i : ℕ) (hs : s ∈ w.pool) :
    Ensures anyFault (prepareAif s i) w fun _ w' => Aside s w w' := by
  unfold prepareAif getAif
  rw [ensures_bind, ensures_gets, ensures_ite]
  refine ⟨fun _ => ?_, fun _ => .refl hs⟩
  rw [ensures_bind]
  refine (onDevice_aside hs _ devicePrepare).imp fun r w₁ h₁ => ?_
  rw [ensures_ite]
  refine ⟨fun _ => h₁, fun _ => ?_⟩
  rw [ensures_bind]
  exact (setAifState_aside h₁.pool i _).imp fun _ w₂ h₂ => h₁.trans h₂

/-- `session_prepare` keeps the graph in step; when it succeeds on a session that has a direction
and is not started, everything is latched. -/
theorem sessionPrepare_fits (h : Fits s w) :
    Ensures anyFault (sessionPrepare s) w fun r w' => Fits s w' ∧
      (r = 0 → (w.sess s).state ≠ .sessionStarted →
        (w.sess s).streamConfig.dir = .rx ∨ (w.sess s).streamConfig.dir = .tx → Full s w') := by
  unfold sessionPrepare getSess
  rw [ensures_bind, ensures_gets, ensures_ite]
  refine ⟨fun _ => ⟨h, fun hr => absurd hr (by decide)⟩, fun _ => ?_⟩
  dsimp only
  rw [ensures_bind]
  -- the graph is prepared before the devices for capture, after them for playback
  have hfirst : Ensures anyFault (if (w.sess s).streamConfig.dir = .tx ∧
      (w.sess s).state ≠ .sessionStarted then graphPrepare (w.sess s).graph else pure 0) w
      fun r w₁ => Fits s w₁ ∧ w₁.sess = w.sess ∧ (r = 0 →
        (w.sess s).state ≠ .sessionStarted → (w.sess s).streamConfig.dir = .tx → Full s w₁) := by
    rw [ensures_ite]
    refine ⟨fun _ => (graphPrepare_fits h).imp fun r w₁ h₁ => ?_, fun hnot => ?_⟩
    · exact ⟨h₁.1, h₁.2.1, fun hr _ _ => h₁.2.2 hr⟩
    · exact ⟨h, rfl, fun _ hstate hdir => absurd ⟨hdir, hstate⟩ hnot⟩
  refine hfirst.imp ?_
  rintro r w₁ ⟨h₁, hsess, hfull₁⟩
  rw [ensures_ite]
  refine ⟨fun hr => ⟨h₁, fun h0 => absurd h0 hr⟩, fun hr => ?_⟩
  rw [ensures_bind, poolRange, getSess, ensures_bind, ensures_gets, ensures_pure, ensures_bind]
  refine (forEach_aside (fun i w' hs => prepareAif_aside i hs) _ h₁.pool).imp fun r₂ w₂ h₂ => ?_
  have hfits₂ := h₁.aside h₂
  rw [ensures_ite]
  refine ⟨fun hr₂ => ⟨hfits₂, fun h0 => absurd h0 hr₂⟩, fun _ => ?_⟩
  have hgraph : (w.sess s).graph = (w₂.sess s).graph := by rw [h₂.graph, hsess]
  have hlast : Ensures anyFault (if (w.sess s).streamConfig.dir = .rx ∧
      (w.sess s).state ≠ .sessionStarted then graphPrepare (w.sess s).graph else pure 0) w₂
      fun r w₃ => Fits s w₃ ∧ (r = 0 → (w.sess s).state ≠ .sessionStarted →
        (w.sess s).streamConfig.dir = .rx ∨ (w.sess s).streamConfig.dir = .tx → Full s w₃) := by
    rw [ensures_ite, hgraph]
    refine ⟨fun _ => (graphPrepare_fits hfits₂).imp fun r w₃ h₃ => ?_, fun hnot => ?_⟩
    · exact ⟨h₃.1, fun hr _ _ => h₃.2.2 hr⟩
    · refine ⟨hfits₂, fun _ hstate hdir => ?_⟩
      obtain hdir | hdir := hdir
      · exact absurd ⟨hdir, hstate⟩ hnot
      · exact (hfull₁ (not_not.mp hr) hstate hdir).aside h₂
  rw [ensures_bind]
  refine hlast.imp ?_
  rintro r₃ w₃ ⟨hfits₃, hfull₃⟩
  rw [ensures_ite]
  refine ⟨fun hr₃ => ⟨hfits₃, fun h0 => absurd h0 hr₃⟩, fun hr₃ => ?_⟩
  rw [ensures_bind]
  refine (setState_aside hfits₃.pool _).imp fun _ w₄ h₄ => ?_
  exact ⟨hfits₃.aside h₄, fun _ hstate hdir => (hfull₃ (not_not.mp hr₃) hstate hdir).aside h₄⟩

theorem checkLoopback_aside (hs : s ∈ w.pool) :
    Ensures anyFault (checkLoopback s) w fun _ w' => Aside s w w' := by
  unfold checkLoopback
  rw [ensures_bind, ensures_getSess, ensures_ite]
  refine ⟨fun _ => ?_, fun _ => .refl hs⟩
  rw [ensures_bind]
  refine (sessionObjGet_aside hs _).imp fun r w₁ h₁ => ?_
  rw [ensures_ite]
  exact ⟨fun _ => h₁, fun _ => h₁⟩

theorem checkEcRef_aside (hs : s ∈ w.pool) :
    Ensures anyFault (checkEcRef s) w fun _ w' => Aside s w w' := by
  unfold checkEcRef
  rw [ensures_bind, ensures_getSess, ensures_ite]
  refine ⟨fun _ => ?_, fun _ => .refl hs⟩
  rw [ensures_bind, ensures_deviceGetObj, ensures_ite]
  refine ⟨fun _ => .refl hs, fun _ => ?_⟩
  cases (w.deviceOf (w.sess s).ecRefAifId).2 with
  | none => trivial
  | some d => exact .refl hs

theorem startGate_fits (h : Fits s w) :
    Ensures anyFault (startGate s) w fun _ w' => Fits s w' := by
  unfold startGate
  rw [ensures_bind, ensures_getSess, ensures_ite]
  refine ⟨fun _ => h, fun _ => ?_⟩
  rw [ensures_ite]
  refine ⟨fun _ => ?_, fun _ => h⟩
  rw [ensures_bind]
  refine (checkLoopback_aside h.pool).imp fun r w₁ h₁ => ?_
  rw [ensures_ite]
  refine ⟨fun _ => h.aside h₁, fun _ => ?_⟩
  rw [ensures_bind]
  refine (checkEcRef_aside h₁.pool).imp fun r w₂ h₂ => ?_
  have hfits₂ := h.aside (h₁.trans h₂)
  rw [ensures_ite]
  refine ⟨fun _ => hfits₂, fun _ => ?_⟩
  rw [ensures_bind, ensures_getSess]
  exact graphStart_fits hfits₂

theorem startAif_aside (i : ℕ) (hs : s ∈ w.pool) :
    Ensures anyFault (startAif s i) w fun _ w' => Aside s w w' := by
  unfold startAif
  rw [ensures_bind, ensures_getAif, ensures_ite]
  refine ⟨fun _ => ?_, fun _ => .refl hs⟩
  rw [ensures_bind]
  refine (onDevice_aside hs _ deviceStart).imp fun r w₁ h₁ => ?_
  rw [ensures_ite]
  refine ⟨fun _ => h₁, fun _ => ?_⟩
  rw [ensures_bind]
  exact (setAifState_aside h₁.pool i _).imp fun _ w₂ h₂ => h₁.trans h₂

theorem startDevices_fits (h : Fits s w) :
    Ensures anyFault (startDevices s) w fun _ w' => Fits s w' := by
  unfold startDevices
  rw [ensures_bind, ensures_poolRange, ensures_bind]
  refine (forEach_aside (fun i w' hs => startAif_aside i hs) _ h.pool).imp fun r w₁ h₁ => ?_
  have hfits₁ := h.aside h₁
  rw [ensures_ite]
  refine ⟨fun _ => hfits₁, fun _ => ?_⟩
  rw [ensures_bind, ensures_getSess, ensures_ite]
  exact ⟨fun _ => graphStart_fits hfits₁, fun _ => hfits₁⟩

theorem stopAif_aside (st : AifState) (i : ℕ) (ret : ℤ) (hs : s ∈ w.pool) :
    Ensures anyFault (stopAif s st i ret) w fun _ w' => Aside s w w' := by
  unfold stopAif
  rw [ensures_bind, ensures_getAif, ensures_ite]
  refine ⟨fun _ => ?_, fun _ => .refl hs⟩
  rw [ensures_bind]
  refine (onDevice_aside hs _ deviceStop).imp fun r w₁ h₁ => ?_
  rw [ensures_bind]
  exact (setAifState_aside h₁.pool i st).imp fun _ w₂ h₂ => h₁.trans h₂

/-- The loop that stops every device. -/
theorem stopAll_aside (st : AifState) (is : List ℕ) (ret : ℤ) (hs : s ∈ w.pool) :
    Ensures anyFault (forAll (stopAif s st) is ret) w fun _ w' => Aside s w w' := by
  refine ensures_forAll (fun _ _ w' => Aside s w w') ?_ is ret w (.refl hs)
  intro i _ b w₁ h₁
  exact (stopAif_aside st i b h₁.pool).imp fun _ w₂ h₂ => h₁.trans h₂

/-- The graph is stopped, or left alone. -/
theorem graphStop_ite_fits (h : Fits s w) {p : Prop} [Decidable p] (ret : ℤ) :
    Ensures anyFault (if p then graphStop (w.sess s).graph none else pure ret) w
      fun _ w' => Fits s w' := by
  rw [ensures_ite]
  exact ⟨fun _ => (graphStop_fits h).imp fun _ _ h' => h'.1, fun _ => h⟩

theorem unwindStart_fits (h : Fits s w) :
    Ensures anyFault (unwindStart s) w fun _ w' => Fits s w' := by
  unfold unwindStart
  rw [ensures_bind, ensures_getSess, ensures_bind]
  refine (graphStop_ite_fits h 0).imp fun _ w₁ h₁ => ?_
  rw [ensures_bind, ensures_poolRange, ensures_bind]
  exact (stopAll_aside _ _ _ h₁.pool).imp fun _ w₂ h₂ => h₁.aside h₂

theorem sessionStart_fits (h : Fits s w) :
    Ensures anyFault (sessionStart s) w fun _ w' => Fits s w' := by
  unfold sessionStart
  rw [ensures_bind]
  refine (startGate_fits h).imp fun r w₁ h₁ => ?_
  rw [ensures_ite]
  refine ⟨fun _ => h₁, fun _ => ?_⟩
  rw [ensures_bind]
  refine (startDevices_fits h₁).imp fun r w₂ h₂ => ?_
  rw [ensures_ite]
  refine ⟨fun _ => ?_, fun _ => ?_⟩
  · rw [ensures_bind]
    exact unwindStart_fits h₂
  · rw [ensures_bind]
    exact (setState_aside h₂.pool _).imp fun _ w₃ h₃ => h₂.aside h₃

theorem sessionStop_fits (h : Fits s w) :
    Ensures anyFault (sessionStop s) w fun _ w' => Fits s w' := by
  unfold sessionStop
  rw [ensures_bind, ensures_getSess, ensures_ite]
  refine ⟨fun _ => h, fun _ => ?_⟩
  dsimp only
  rw [ensures_bind, ensures_ite]
  -- the pointer is read before the graph is stopped; nothing on the way assigns to it
  have hrest : ∀ (ret : ℤ) w₁, Fits s w₁ → (w₁.sess s).graph = (w.sess s).graph →
      Ensures anyFault (if ret ≠ 0 then pure ret else do
        let is ← poolRange s
        let ret ← forAll (stopAif s .aifStopped) is 0
        let ret ← (if (w.sess s).streamConfig.dir = .tx then graphStop (w.sess s).graph none
          else pure ret)
        modifySess s fun sess => { sess with state := .sessionStopped }
        pure ret) w₁ fun _ w' => Fits s w' := by
    intro ret w₁ h₁ hgraph
    rw [ensures_ite]
    refine ⟨fun _ => h₁, fun _ => ?_⟩
    rw [ensures_bind, ensures_poolRange, ensures_bind]
    refine (stopAll_aside _ _ _ h₁.pool).imp fun ret₂ w₂ h₂ => ?_
    rw [ensures_bind, ← hgraph, ← h₂.graph]
    refine (graphStop_ite_fits (h₁.aside h₂) ret₂).imp fun _ w₃ h₃ => ?_
    rw [ensures_bind]
    exact (setState_aside h₃.pool _).imp fun _ w₄ h₄ => h₃.aside h₄
  refine ⟨fun _ => ?_, fun _ => hrest 0 w h rfl⟩
  refine (graphStop_fits h).imp fun ret w₁ h₁ => ?_
  exact hrest ret w₁ h₁.1 (by rw [h₁.2])

theorem sessionObjGetSessBufInfo_fits (h : Fits s w) (dataBuf posBuf : Bool) :
    Ensures anyFault (sessionObjGetSessBufInfo s dataBuf posBuf) w fun _ w' => Fits s w' := by
  unfold sessionObjGetSessBufInfo sessionObjGraphCall
  rw [ensures_bind, ensures_getSess, ensures_ite]
  exact ⟨fun _ => h, fun _ => graphGetBufInfo_fits h dataBuf posBuf⟩

/-! ### Runs -/

/-- The graph is as `graph_open` left it: nothing is latched. -/
structure Unlatched (s : ℕ) (obj : GraphObj) : Prop where
  sess : obj.sessObj = some s
  state : obj.state = .opened
  mods : ∀ m ∈ obj.taggedModList, StreamModule m → m.isConfigured = false
  bufs : obj.isConfigBufParamsDone = false

/-- The session is not hostless, and its graph was just opened: its handle is new to GSL, so that
nothing was sent to the modules. -/
structure JustOpened (s : ℕ) (w : World) : Prop where
  pool : s ∈ w.pool
  host : (w.sess s).streamConfig.isHostless = false
  graph : ∃ obj ∈ w.graphOf s, Unlatched s obj ∧
    ∀ m ∈ obj.taggedModList, ∀ k, lastParam w.mem.calls obj.handle m k = none

instance (s : ℕ) (obj : GraphObj) : Decidable (Unlatched s obj) :=
  decidable_of_iff (obj.sessObj = some s ∧ obj.state = .opened ∧
      (∀ m ∈ obj.taggedModList, StreamModule m → m.isConfigured = false) ∧
      obj.isConfigBufParamsDone = false)
    ⟨fun h => ⟨h.1, h.2.1, h.2.2.1, h.2.2.2⟩, fun h => ⟨h.sess, h.state, h.mods, h.bufs⟩⟩

instance (s : ℕ) (w : World) : Decidable (JustOpened s w) :=
  decidable_of_iff (s ∈ w.pool ∧ (w.sess s).streamConfig.isHostless = false ∧
      ∃ obj ∈ w.graphOf s, Unlatched s obj ∧
        ∀ m ∈ obj.taggedModList, ∀ k, lastParam w.mem.calls obj.handle m k = none)
    ⟨fun h => ⟨h.1, h.2.1, h.2.2⟩, fun h => ⟨h.pool, h.host, h.graph⟩⟩

end

section
variable {s : ℕ} {w : World}

instance (sess sess' : SessionObj) (obj : GraphObj) (calls : List GslCall) :
    Decidable (MayReplace sess sess' obj calls) :=
  decidable_of_iff (_ ∧ _ ∧ _) ⟨fun h => ⟨h.1, h.2.1, h.2.2⟩, fun h => ⟨h.latched, h.unsent, h.bufs⟩⟩

/-- The calls of a run on an open session. -/
def Op.runsOn (s : ℕ) : Op → Bool
  | .setConfig t .. => decide (t = s)
  | .prepare t => decide (t = s)
  | .start t => decide (t = s)
  | .stop t => decide (t = s)
  | .getSessBufInfo t .. => decide (t = s)
  | _ => false

/-- The session with the configuration that a call stores, if it stores one. -/
def Op.configured? (sess : SessionObj) : Op → Option SessionObj
  | .setConfig _ stream media buf =>
      some { sess with streamConfig := stream, mediaConfig := media, bufferConfig := buf }
  | _ => none

/-- A call of a run on the session that changes nothing of what has been sent. -/
def KeepsSent (s : ℕ) (w : World) (c : Call) : Prop :=
  c.op.runsOn s = true ∧ ∀ sess' ∈ c.op.configured? (w.sess s),
    sess'.streamConfig.isHostless = false ∧
      ∀ obj ∈ w.graphOf s, MayReplace (w.sess s) sess' obj w.mem.calls

instance (s : ℕ) (w : World) (c : Call) : Decidable (KeepsSent s w c) :=
  inferInstanceAs (Decidable (_ ∧ _))

theorem Unlatched.inStep {obj : GraphObj} {calls : List GslCall} (h : Unlatched s obj)
    (hnew : ∀ m ∈ obj.taggedModList, ∀ k, lastParam calls obj.handle m k = none)
    (sess : SessionObj) : InStep sess obj calls := by
  constructor
  case modules =>
    intro j hj hstream k hcase
    have hconf : (obj.modAt j).isConfigured = false := h.mods _ (modAt_mem hj) hstream
    rcases hcase with hlatched | hnone
    · exact absurd (hconf.symm.trans hlatched) Bool.false_ne_true
    · rw [hnone]
      exact hnew _ (modAt_mem hj) k
  case bufs =>
    intro hdone
    rw [h.bufs] at hdone
    cases hdone
  case prepared =>
    intro hstate
    rw [h.state] at hstate
    cases hstate

theorem JustOpened.fits (h : JustOpened s w) : Fits s w := by
  obtain ⟨obj, hmem, hfresh, hnew⟩ := h.graph
  obtain ⟨g, hg, hobj⟩ := Option.bind_eq_some_iff.mp hmem
  refine ⟨h.pool, h.host, fun g' obj' hg' hobj' => ?_⟩
  obtain rfl := Option.some.inj (hg.symm.trans hg')
  obtain rfl := Option.some.inj (hobj.symm.trans hobj')
  exact ⟨hfresh.sess, hfresh.inStep hnew _⟩

theorem sessionObjSetConfig_fits (h : Fits s w) {stream : SessionConfig} {media : MediaConfig}
    {buf : BufferConfig} (hhost : stream.isHostless = false)
    (hmay : ∀ obj ∈ w.graphOf s, MayReplace (w.sess s)
      { w.sess s with streamConfig := stream, mediaConfig := media, bufferConfig := buf } obj
      w.mem.calls) :
    Ensures anyFault (sessionObjSetConfig s stream media buf) w fun _ w' => Fits s w' := by
  unfold sessionObjSetConfig modifySess
  rw [ensures_bind, ensures_modify, ensures_pure]
  have hself : (Function.update w.sess s
      { w.sess s with streamConfig := stream, mediaConfig := media, bufferConfig := buf }) s =
      { w.sess s with streamConfig := stream, mediaConfig := media, bufferConfig := buf } :=
    Function.update_self s _ w.sess
  constructor
  case pool => exact h.pool
  case host =>
    show ((Function.update w.sess s _) s).streamConfig.isHostless = false
    rw [hself]
    exact hhost
  case graph =>
    intro g obj hg hobj
    change ((Function.update w.sess s _) s).graph = some g at hg
    change w.heap g = some obj at hobj
    show obj.sessObj = some s ∧ InStep ((Function.update w.sess s _) s) obj w.mem.calls
    rw [hself] at hg ⊢
    obtain ⟨hsess, hstep⟩ := h.graph g obj hg hobj
    have hmem : obj ∈ w.graphOf s := Option.bind_eq_some_iff.mpr ⟨g, hg, hobj⟩
    exact ⟨hsess, hstep.of_config (hmay obj hmem)⟩

theorem withHandle_fits {m : AgmM ℤ} (h : Fits s w)
    (hm : Ensures anyFault m w fun _ w' => Fits s w') :
    Ensures anyFault (withHandle s m) w fun _ w' => Fits s w' := by
  unfold withHandle
  rw [ensures_bind, ensures_gets, ensures_ite]
  exact ⟨fun _ => hm, fun _ => h⟩

theorem exec_fits {c : Call} (h : Fits s w) (hc : KeepsSent s w c) :
    Ensures anyFault (exec c) w fun _ w' => Fits s w' := by
  obtain ⟨op, ext⟩ := c
  obtain ⟨hon, hnew⟩ := hc
  have h₁ : Fits s { w with ext := ext } := ⟨h.pool, h.host, h.graph⟩
  unfold exec
  rw [ensures_bind, ensures_modify]
  cases op with
  | setConfig t stream media buf =>
      obtain rfl : t = s := of_decide_eq_true hon
      obtain ⟨hhost, hmay⟩ := hnew _ rfl
      exact withHandle_fits h₁ (sessionObjSetConfig_fits h₁ hhost hmay)
  | prepare t =>
      obtain rfl : t = s := of_decide_eq_true hon
      exact withHandle_fits h₁ ((sessionPrepare_fits h₁).imp fun _ _ h' => h'.1)
  | start t =>
      obtain rfl : t = s := of_decide_eq_true hon
      exact withHandle_fits h₁ (sessionStart_fits h₁)
  | stop t =>
      obtain rfl : t = s := of_decide_eq_true hon
      exact withHandle_fits h₁ (sessionStop_fits h₁)
  | getSessBufInfo t dataBuf posBuf =>
      obtain rfl : t = s := of_decide_eq_true hon
      show Ensures anyFault (withId t (sessionObjGetSessBufInfo t dataBuf posBuf)) _ _
      unfold withId
      rw [ensures_bind]
      refine (sessionObjGet_aside h₁.pool t).imp fun r w₂ h₂ => ?_
      have hfits₂ := h₁.aside h₂
      rw [ensures_ite]
      exact ⟨fun _ => hfits₂, fun _ => sessionObjGetSessBufInfo_fits hfits₂ dataBuf posBuf⟩
  | _ => exact absurd hon Bool.false_ne_true

/-- A playback session with a decoder in its graph is opened. -/
def openPlayback : List Call :=
  [⟨.aifConnect 0 1 true, []⟩,
    ⟨.open 0, List.replicate 30 { tags := [{ tag := .streamPcmDecoder, modules := [{ moduleIid := 7 }] }] }⟩]

/-- Configure the session for a number of channels and for buffers of `size` bytes. -/
def configurePlayback (channels size : ℕ) : Call :=
  ⟨.setConfig 0 { dir := .rx } { rate := 48000, channels, format := AGM_FORMAT_PCM_S32_LE }
    { count := 4, size }, []⟩

end

end Agm
