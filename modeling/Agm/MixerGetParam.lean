import Agm.MixerPuts
import Agm.Lib.Mailbox

/-! # The `getParam` control of the mixer (`agm_mixer_plugin.c`)

A client puts a request on the `getParam` control of a PCM and gets the answer with a second call.
In between the request is kept in the table of the PCM.

* **Requests.**  The record `pending` has a mailbox for every PCM; a table has one slot.
* **Buffers** have a length that fits in an `unsigned int`; what the API writes to a buffer is not
  read again.

`getParam_iff`: in which runs a request is used for the PCM on which it was put. -/

namespace Agm

open Prog Mailbox

/-! ### The two functions -/

/-- The bytes of a `struct snd_ctl_tlv`. -/
structure Tlv where
  tlv : Payload
  length_lt : tlv.length < 2 ^ 32
deriving DecidableEq, Repr

/-- `amp_pcm_get_param_put`; `mem` says whether the memory for the request can be had.  A negative
size is too large for `calloc`. -/
def ampPcmGetParamPut (ctl : SndControl) (tlv : Tlv) (mem : Bool) : MixerM ℤ := do
  let pcmAdi ← getAdi ctl.privateData
  let size : ℤ := (tlv.tlv.length : ℤ).bmod (2 ^ 32)
  if mem ∧ 0 ≤ size then do
    Prog.modify fun s => { s with
      priv := s.priv.setAdi ctl.privateData
        { pcmAdi with
          getParamPayload := some (tlv.tlv.take size.toNat)
          getParamPayloadSize := size } }
    pure 0
  else do
    Prog.modify fun s => { s with
      priv := s.priv.setAdi ctl.privateData
        { pcmAdi with getParamPayload := none, getParamPayloadSize := size } }
    pure (-ENOMEM)

/-- `amp_pcm_get_param_get`.  The sizes are compared as `size_t`. -/
def ampPcmGetParamGet (ctl : SndControl) (tlv : Tlv) (agmRet : ℤ) : MixerM ℤ := do
  let pcmAdi ← getAdi ctl.privateData
  match pcmAdi.getParamPayload with
  | none => pure (-EINVAL)
  | some payload =>
      let size := pcmAdi.getParamPayloadSize
      if (tlv.tlv.length : ℤ) < size % 2 ^ 64 then pure (-EINVAL)
      else do
        let ret ← agm (.getParams ctl.privateValue
          (payload.take size.toNat ++ tlv.tlv.drop size.toNat)) agmRet
        Prog.modify fun s => { s with
          priv := s.priv.setAdi ctl.privateData
            { pcmAdi with getParamPayload := none, getParamPayloadSize := 0 } }
        pure (alreadyDone ret)

/-! ### Runs -/

/-- A call on the `getParam` control of device `dev` of a PCM table. -/
inductive ParamCall where
  | put (pcm : AdiRef) (dev : ℕ) (tlv : Tlv) (mem : Bool)
  | get (pcm : AdiRef) (dev : ℕ) (tlv : Tlv) (agmRet : ℤ)
deriving DecidableEq, Repr

/-- The plugin with a record of the request that is pending for each PCM. -/
structure ParamRun where
  state : MixerState
  pending : AdiRef → ℕ → Option Payload := fun _ _ => none

def getParamCtl (priv : AmpPriv) (pcm : AdiRef) (dev : ℕ) : SndControl :=
  ampCreatePcmGetParamCtl ((priv.devs pcm).names.getD dev []) ((priv.devs pcm).idxArr.getD dev 0) pcm

def onParam {α : Type} (m : MixerM α) : Prog ParamRun Crash α :=
  Prog.zoom ParamRun.state (fun g x => { x with state := g }) id m

/-- A put that returns 0 leaves its request and one that fails leaves none; a get that calls the API
consumes the request. -/
def ParamCall.run (priv : AmpPriv) : ParamCall → Prog ParamRun Crash ℤ
  | put pcm dev tlv mem => do
      let ret ← onParam (ampPcmGetParamPut (getParamCtl priv pcm dev) tlv mem)
      Prog.modify fun x => { x with
        pending := updateAt x.pending pcm dev (if ret = 0 then some tlv.tlv else none) }
      pure ret
  | get pcm dev tlv agmRet => do
      let calls ← Prog.gets fun x => x.state.calls
      let ret ← onParam (ampPcmGetParamGet (getParamCtl priv pcm dev) tlv agmRet)
      Prog.modify fun x =>
        if x.state.calls = calls then x
        else { x with pending := updateAt x.pending pcm dev none }
      pure ret

/-- The request that a get of a PCM would use. -/
def ParamRun.stored (x : ParamRun) (pcm : AdiRef) : Option Payload :=
  (x.state.priv.devs pcm).getParamPayload

/-- The pending request of every PCM but one is the request a get of it would use. -/
def ParamRun.LeftAlone (x x' : ParamRun) (pcm : AdiRef) (dev : ℕ) : Prop :=
  ∀ r i, (r, i) ≠ (pcm, dev) → ∀ b ∈ x.pending r i, x'.stored r = some b

/-- A call leaves the pending requests of the other PCMs.  A get that returns 0 has asked the session
of its PCM with the pending request, and a get without a pending request fails. -/
def ParamCall.Right (priv : AmpPriv) (x : ParamRun) (c : ParamCall) : Prop :=
  Ensures noFault (c.run priv) x fun ret x' =>
    match c with
    | put pcm dev tlv _ => x.LeftAlone x' pcm dev ∧ (ret = 0 → x'.stored pcm = some tlv.tlv)
    | get pcm dev tlv _ => x.LeftAlone x' pcm dev ∧
        (ret = 0 → ∃ b ∈ x.pending pcm dev, x'.state.calls = x.state.calls ++
          [.getParams ((priv.devs pcm).idxArr.getD dev 0) (b ++ tlv.tlv.drop b.length)]) ∧
        (x.pending pcm dev = none → ret ≠ 0)

/-- What a put leaves pending. -/
def putRequest (tlv : Tlv) (mem : Bool) : Option Payload :=
  if mem ∧ tlv.tlv.length < 2 ^ 31 then some tlv.tlv else none

/-- A put is made when no other PCM of the table has a pending request, but for one with the same
bytes, and a get when no other PCM has one, but for such for which the buffer is too small. -/
def ParamCall.Sound (x : ParamRun) : ParamCall → Prop
  | put pcm dev tlv mem => ∀ i, i ≠ dev → ∀ b ∈ x.pending pcm i, putRequest tlv mem = some b
  | get pcm dev tlv _ => ∀ i, i ≠ dev → ∀ b ∈ x.pending pcm i, tlv.tlv.length < b.length

/-! ### What the functions do -/

section effects
variable {priv : AmpPriv} {x : ParamRun} {pcm : AdiRef} {dev : ℕ} {tlv : Tlv}

/-- The tables with another request in one of them. -/
def AmpPriv.withRequest (priv : AmpPriv) (pcm : AdiRef) (o : Option Payload) (size : ℤ) : AmpPriv :=
  priv.setAdi pcm { priv.devs pcm with getParamPayload := o, getParamPayloadSize := size }

def ParamRun.withRequest (x : ParamRun) (pcm : AdiRef) (dev : ℕ) (o : Option Payload) (size : ℤ)
    (calls : List AgmCall) : ParamRun where
  state := { priv := x.state.priv.withRequest pcm o size, calls := x.state.calls ++ calls }
  pending := updateAt x.pending pcm dev o

theorem size_tlv (tlv : Tlv) : 0 ≤ (tlv.tlv.length : ℤ).bmod (2 ^ 32) ↔ tlv.tlv.length < 2 ^ 31 := by
  have hlt := tlv.length_lt
  rw [Int.bmod_def]
  split_ifs <;> omega

theorem size_tlv_eq {tlv : Tlv} (h : tlv.tlv.length < 2 ^ 31) :
    (tlv.tlv.length : ℤ).bmod (2 ^ 32) = tlv.tlv.length := by
  rw [Int.bmod_def]
  split_ifs <;> omega

theorem onParam_of_ok {α : Type} {m : MixerM α} {a : α} {g : MixerState}
    (h : m x.state = .ok (a, g)) : onParam m x = .ok (a, { x with state := g }) := by
  unfold onParam Prog.zoom
  rw [h]

theorem ParamCall.run_put (mem : Bool) : (ParamCall.put pcm dev tlv mem).run priv x =
    .ok (if (putRequest tlv mem).isSome then 0 else -ENOMEM,
      x.withRequest pcm dev (putRequest tlv mem) ((tlv.tlv.length : ℤ).bmod (2 ^ 32)) []) := by
  have hENOMEM : (-ENOMEM : ℤ) ≠ 0 := by decide
  by_cases hmem : mem ∧ tlv.tlv.length < 2 ^ 31
  · have hput : ampPcmGetParamPut (getParamCtl priv pcm dev) tlv mem x.state =
        .ok (0, { x.state with
          priv := x.state.priv.withRequest pcm (some tlv.tlv)
            ((tlv.tlv.length : ℤ).bmod (2 ^ 32)) }) := by
      unfold ampPcmGetParamPut
      rw [Prog.bind_of_ok (getAdi_run _ _)]
      dsimp only
      rw [if_pos ⟨hmem.1, (size_tlv tlv).mpr hmem.2⟩, size_tlv_eq hmem.2, Int.toNat_natCast,
        List.take_length]
      rfl
    have hrequest : putRequest tlv mem = some tlv.tlv := if_pos hmem
    unfold ParamCall.run
    dsimp only
    rw [hrequest, Prog.bind_of_ok (onParam_of_ok hput)]
    unfold ParamRun.withRequest
    rw [List.append_nil]
    rfl
  · have hput : ampPcmGetParamPut (getParamCtl priv pcm dev) tlv mem x.state =
        .ok (-ENOMEM, { x.state with
          priv := x.state.priv.withRequest pcm none ((tlv.tlv.length : ℤ).bmod (2 ^ 32)) }) := by
      unfold ampPcmGetParamPut
      rw [Prog.bind_of_ok (getAdi_run _ _)]
      dsimp only
      rw [if_neg fun h => hmem ⟨h.1, (size_tlv tlv).mp h.2⟩]
      rfl
    have hrequest : putRequest tlv mem = none := if_neg hmem
    unfold ParamCall.run
    dsimp only
    rw [hrequest, Prog.bind_of_ok (onParam_of_ok hput)]
    unfold ParamRun.withRequest
    rw [List.append_nil]
    rfl

/-- The record follows the plugin. -/
structure ParamRun.Follows (x : ParamRun) : Prop where
  holds : ∀ r, Holds (x.pending r) (x.stored r)
  sized : ∀ r, ∀ b ∈ x.stored r,
    (x.state.priv.devs r).getParamPayloadSize = b.length ∧ b.length < 2 ^ 31

/-- A get that finds no request, or one that is too long for the buffer, does nothing. -/
theorem ParamCall.run_get_fails (h : x.Follows) {agmRet : ℤ}
    (hno : ∀ b ∈ x.stored pcm, tlv.tlv.length < b.length) :
    (ParamCall.get pcm dev tlv agmRet).run priv x = .ok (-EINVAL, x) := by
  have hget : ampPcmGetParamGet (getParamCtl priv pcm dev) tlv agmRet x.state =
      .ok (-EINVAL, x.state) := by
    unfold ampPcmGetParamGet
    rw [Prog.bind_of_ok (getAdi_run _ _)]
    dsimp only
    cases hs : x.stored pcm with
    | none =>
        have hs' : (x.state.priv.devs pcm).getParamPayload = none := hs
        rw [show (getParamCtl priv pcm dev).privateData = pcm from rfl, hs']
        rfl
    | some b =>
        have hs' : (x.state.priv.devs pcm).getParamPayload = some b := hs
        obtain ⟨hsize, hlt⟩ := h.sized pcm b hs
        have hshort := hno b hs
        rw [show (getParamCtl priv pcm dev).privateData = pcm from rfl, hs', hsize]
        dsimp only
        rw [if_pos (by omega)]
        rfl
  unfold ParamCall.run
  dsimp only
  rw [Prog.bind_of_ok rfl, Prog.bind_of_ok (onParam_of_ok hget), Prog.bind_of_ok rfl]
  dsimp only
  rw [if_pos rfl]
  rfl

/-- Every other get asks the session of its PCM with the request in the table. -/
theorem ParamCall.run_get (h : x.Follows) {agmRet : ℤ} {b : Payload} (hb : x.stored pcm = some b)
    (hfits : b.length ≤ tlv.tlv.length) :
    (ParamCall.get pcm dev tlv agmRet).run priv x = .ok (alreadyDone agmRet,
      x.withRequest pcm dev none 0 [.getParams ((priv.devs pcm).idxArr.getD dev 0)
        (b ++ tlv.tlv.drop b.length)]) := by
  have hget : ampPcmGetParamGet (getParamCtl priv pcm dev) tlv agmRet x.state =
      .ok (alreadyDone agmRet,
        { priv := x.state.priv.withRequest pcm none 0
          calls := x.state.calls ++ [.getParams ((priv.devs pcm).idxArr.getD dev 0)
            (b ++ tlv.tlv.drop b.length)] }) := by
    have hb' : (x.state.priv.devs pcm).getParamPayload = some b := hb
    obtain ⟨hsize, hlt⟩ := h.sized pcm b hb
    unfold ampPcmGetParamGet
    rw [Prog.bind_of_ok (getAdi_run _ _)]
    dsimp only
    rw [show (getParamCtl priv pcm dev).privateData = pcm from rfl, hb', hsize]
    dsimp only
    rw [if_neg (by omega), Int.toNat_natCast, List.take_length]
    rfl
  have hne : x.state.calls ++ [AgmCall.getParams ((priv.devs pcm).idxArr.getD dev 0)
      (b ++ tlv.tlv.drop b.length)] ≠ x.state.calls := by
    simp
  unfold ParamCall.run
  dsimp only
  rw [Prog.bind_of_ok rfl, Prog.bind_of_ok (onParam_of_ok hget), Prog.bind_of_ok rfl]
  dsimp only
  rw [if_neg hne]
  rfl

end effects

/-! ### One call -/

section calls
variable {priv : AmpPriv} {x : ParamRun} {pcm : AdiRef} {dev : ℕ}

@[simp] theorem stored_withRequest (o : Option Payload) (size : ℤ) (calls : List AgmCall) :
    (x.withRequest pcm dev o size calls).stored pcm = o := by
  unfold ParamRun.stored ParamRun.withRequest AmpPriv.withRequest AmpPriv.setAdi
  simp

theorem stored_withRequest_of_ne {r : AdiRef} (hr : r ≠ pcm) (o : Option Payload) (size : ℤ)
    (calls : List AgmCall) : (x.withRequest pcm dev o size calls).stored r = x.stored r := by
  unfold ParamRun.stored ParamRun.withRequest AmpPriv.withRequest AmpPriv.setAdi
  simp [hr]

/-- A request is exchanged in one table.  The other PCMs keep theirs when those of this table have no
other. -/
theorem leftAlone_withRequest (h : x.Follows) (o : Option Payload) (size : ℤ)
    (calls : List AgmCall) : x.LeftAlone (x.withRequest pcm dev o size calls) pcm dev ↔
      ∀ i, i ≠ dev → ∀ b ∈ x.pending pcm i, o = some b := by
  constructor
  · intro hleft i hi b hb
    have hstored := hleft pcm i (fun he => hi (Prod.mk.inj he).2) b hb
    rw [stored_withRequest] at hstored
    exact hstored
  · intro hno r i hne b hb
    rcases eq_or_ne r pcm with rfl | hr
    · rw [stored_withRequest]
      exact hno i (fun he => hne (congrArg (Prod.mk r) he)) b hb
    · rw [stored_withRequest_of_ne hr]
      exact (h.holds r).kept i b hb

/-- The record still follows. -/
theorem follows_withRequest (h : x.Follows) {o : Option Payload} {size : ℤ}
    (hsize : ∀ b ∈ o, size = b.length ∧ b.length < 2 ^ 31) (calls : List AgmCall)
    (hno : ∀ i, i ≠ dev → ∀ b ∈ x.pending pcm i, o = some b) :
    (x.withRequest pcm dev o size calls).Follows where
  holds r := by
    rcases eq_or_ne r pcm with rfl | hr
    · rw [stored_withRequest]
      show Holds (Function.update x.pending r _ r) o
      rw [Function.update_self]
      exact Holds.put hno
    · rw [stored_withRequest_of_ne hr]
      show Holds (Function.update x.pending pcm _ r) (x.stored r)
      rw [Function.update_of_ne hr]
      exact h.holds r
  sized r b hb := by
    rcases eq_or_ne r pcm with rfl | hr
    · rw [stored_withRequest] at hb
      have hsame : ((x.withRequest r dev o size calls).state.priv.devs r).getParamPayloadSize = size := by
        unfold ParamRun.withRequest AmpPriv.withRequest AmpPriv.setAdi
        simp
      rw [hsame]
      exact hsize b hb
    · rw [stored_withRequest_of_ne hr] at hb
      have hsame : (x.withRequest pcm dev o size calls).state.priv.devs r = x.state.priv.devs r :=
        Function.update_of_ne hr _ _
      rw [hsame]
      exact h.sized r b hb

theorem putRequest_eq_some {tlv : Tlv} {mem : Bool} {b : Payload} :
    putRequest tlv mem = some b ↔ (mem = true ∧ tlv.tlv.length < 2 ^ 31) ∧ tlv.tlv = b := by
  unfold putRequest
  split_ifs with hmem
  · exact ⟨fun h => ⟨hmem, Option.some.inj h⟩, fun h => congrArg some h.2⟩
  · exact ⟨fun h => (nomatch h), fun h => absurd h.1 hmem⟩

theorem putRequest_size {tlv : Tlv} {mem : Bool} :
    ∀ b ∈ putRequest tlv mem, (tlv.tlv.length : ℤ).bmod (2 ^ 32) = b.length ∧ b.length < 2 ^ 31 := by
  intro b hb
  obtain ⟨⟨-, hlt⟩, rfl⟩ := putRequest_eq_some.mp hb
  exact ⟨size_tlv_eq hlt, hlt⟩

/-- Either a get fails early, or there is a request and room for it. -/
theorem get_cases (x : ParamRun) (pcm : AdiRef) (tlv : Tlv) :
    (∀ b ∈ x.stored pcm, tlv.tlv.length < b.length) ∨
      ∃ b, x.stored pcm = some b ∧ b.length ≤ tlv.tlv.length := by
  cases hs : x.stored pcm with
  | none => exact .inl fun _ hb => absurd hb (Option.not_mem_none _)
  | some b =>
      rcases lt_or_ge tlv.tlv.length b.length with hlt | hge
      · exact .inl fun c hc => Option.some.inj hc ▸ hlt
      · exact .inr ⟨b, rfl, hge⟩

/-- A call is right exactly when it is sound. -/
theorem ParamCall.right_iff (h : x.Follows) (c : ParamCall) : c.Right priv x ↔ c.Sound x := by
  have hEINVAL : (-EINVAL : ℤ) ≠ 0 := by decide
  unfold ParamCall.Right
  cases c with
  | put pcm dev tlv mem =>
      rw [ensures_iff_of_ok (ParamCall.run_put mem)]
      dsimp only
      rw [leftAlone_withRequest h, stored_withRequest]
      refine ⟨And.left, fun hs => ⟨hs, fun hret => ?_⟩⟩
      unfold putRequest at hret ⊢
      split_ifs with hmem
      · rfl
      · rw [if_neg hmem] at hret
        exact absurd hret (by decide)
  | get pcm dev tlv agmRet =>
      rcases get_cases x pcm tlv with hno | ⟨b, hb, hfits⟩
      · rw [ensures_iff_of_ok (ParamCall.run_get_fails h hno)]
        dsimp only
        refine ⟨fun _ i hi b hb => hno b ((h.holds pcm).kept i b hb), fun _ => ⟨?_, ?_, ?_⟩⟩
        · exact fun r i _ b hb => (h.holds r).kept i b hb
        · exact fun hret => absurd hret hEINVAL
        · exact fun _ => hEINVAL
      · rw [ensures_iff_of_ok (ParamCall.run_get h hb hfits)]
        dsimp only
        rw [leftAlone_withRequest h]
        constructor
        · rintro ⟨hleft, -, -⟩ i hi c hc
          exact absurd (hleft i hi c hc) (Option.some_ne_none c).symm
        · intro hs
          have hothers : ∀ i, i ≠ dev → x.pending pcm i = none := by
            intro i hi
            by_contra hne
            have hi' := (h.holds pcm).box_eq_some hb hne
            exact absurd (hs i hi b hi') (not_lt.mpr hfits)
          have hown : x.pending pcm dev = some b := by
            obtain ⟨i, hi⟩ := (h.holds pcm).owned b hb
            rcases eq_or_ne i dev with rfl | hne
            · exact hi
            · exact absurd hi (by rw [hothers i hne]; exact (Option.some_ne_none b).symm)
          refine ⟨fun i hi c hc => ?_, fun _ => ⟨b, hown, rfl⟩, fun hnone => ?_⟩
          · exact absurd hc (by rw [hothers i hi]; exact Option.not_mem_none c)
          · exact absurd (hown.symm.trans hnone) (Option.some_ne_none b)

/-- A sound call keeps the record in step. -/
theorem ParamCall.run_follows (h : x.Follows) {c : ParamCall} (hs : c.Sound x) :
    Ensures anyFault (c.run priv) x fun _ x' => x'.Follows := by
  cases c with
  | put pcm dev tlv mem =>
      rw [ensures_iff_of_ok (ParamCall.run_put mem)]
      exact follows_withRequest h putRequest_size [] hs
  | get pcm dev tlv agmRet =>
      rcases get_cases x pcm tlv with hno | ⟨b, hb, hfits⟩
      · rw [ensures_iff_of_ok (ParamCall.run_get_fails h hno)]
        exact h
      · rw [ensures_iff_of_ok (ParamCall.run_get h hb hfits)]
        refine follows_withRequest h (fun _ hb => absurd hb (Option.not_mem_none _)) _ ?_
        exact ((leftAlone_withRequest h none 0 [_]).mp (by
          have hr := (@ParamCall.right_iff priv x h (.get pcm dev tlv agmRet)).mpr hs
          unfold ParamCall.Right at hr
          rw [ensures_iff_of_ok (ParamCall.run_get h hb hfits)] at hr
          exact hr.1))

end calls

/-! ### Runs of calls -/

/-- The state when the controls are formed. -/
def ParamRun.start (priv : AmpPriv) : ParamRun where
  state := (MixerRun.start priv).state

theorem follows_start {priv : AmpPriv} (h : ∀ r, (priv.devs r).getParamPayload = none) :
    (ParamRun.start priv).Follows := by
  have hnone : ∀ r, (ParamRun.start priv).stored r = none := by
    intro r
    unfold ParamRun.stored ParamRun.start
    rw [start_priv]
    unfold AmpPriv.withItems
    dsimp only
    split_ifs
    · exact h r
    · exact h r
  constructor
  · intro r
    rw [hnone r]
    exact Holds.empty
  · intro r b hb
    rw [hnone r] at hb
    exact absurd hb (Option.not_mem_none b)

/-- In every run the calls are right, i.e. requests of different PCMs do not interfere, exactly when
a put or a get is made only while no other PCM of its table has a request pending that it would
exchange or use. -/
theorem getParam_iff (priv : AmpPriv) (h : ∀ r, (priv.devs r).getParamPayload = none)
    (calls : List ParamCall) :
    Admits (ParamCall.run priv) (fun x c => c.Right priv x) calls (ParamRun.start priv) ↔
      Admits (ParamCall.run priv) (fun x c => c.Sound x) calls (ParamRun.start priv) := by
  refine admits_congr (I := ParamRun.Follows) (ParamCall.run priv) (fun _ c hx => ParamCall.right_iff hx c) ?_
    calls _ (follows_start h)
  intro x c hx hr
  exact ParamCall.run_follows hx ((ParamCall.right_iff hx c).mp hr)

/-- One backend and two PCMs for playback. -/
def twoPcms : AmpPriv where
  devs
    | .rxPcm => { names := ["ZERO".toList, "PCM100".toList, "PCM101".toList]
                  idxArr := [0, 100, 101], count := 3, dir := .rx }
    | .txPcm => { names := ["ZERO".toList], idxArr := [0], count := 1, dir := .tx }
    | .rxBe => { names := ["ZERO".toList, "SLIM-DEV1-RX".toList], idxArr := [0, 0], count := 2
                 dir := .rx }
    | .txBe => { names := ["ZERO".toList], idxArr := [0], count := 1, dir := .tx }

theorem twoPcms_noRequest (r : AdiRef) : (twoPcms.devs r).getParamPayload = none := by
  cases r <;> rfl

/-- The request is put and answered on one PCM. -/
theorem getParam_iff_onePcm : Admits (ParamCall.run twoPcms) (fun x c => c.Right twoPcms x)
    [.put .rxPcm 1 ⟨[7, 1], by decide⟩ true, .get .rxPcm 1 ⟨[0, 0, 0], by decide⟩ 0]
    (ParamRun.start twoPcms) := by
  refine (getParam_iff twoPcms twoPcms_noRequest _).mpr ⟨fun _ _ _ hb => (nomatch hb), ?_⟩
  rw [ParamCall.run_put]
  refine ⟨fun i hi b hb => ?_, ?_⟩
  · have hnone : updateAt (ParamRun.start twoPcms).pending .rxPcm 1 (some [7, 1]) .rxPcm i = none := by
      unfold updateAt
      rw [Function.update_self, Function.update_of_ne hi]
      rfl
    exact absurd (hnone.symm.trans hb) (Option.some_ne_none b).symm
  · split <;> trivial

/-- A get on `PCM101`, on which nothing was put, returns 0: its session is asked with the request of
`PCM100`. -/
theorem getParam_interferes : ¬ Admits (ParamCall.run twoPcms) (fun x c => c.Right twoPcms x)
    [.put .rxPcm 1 ⟨[7, 1], by decide⟩ true, .get .rxPcm 2 ⟨[0, 0, 0], by decide⟩ 0]
    (ParamRun.start twoPcms) := by
  have hstart := follows_start twoPcms_noRequest
  rintro ⟨hput, hget⟩
  rw [ParamCall.run_put] at hget
  have hfollows := (ParamCall.run_follows hstart ((ParamCall.right_iff hstart _).mp hput)).of_ok
    (@ParamCall.run_put twoPcms _ _ _ _ true)
  have hsound := (ParamCall.right_iff hfollows _).mp hget.1
  exact absurd (hsound 1 (by decide) [7, 1] rfl) (by decide)

end Agm
