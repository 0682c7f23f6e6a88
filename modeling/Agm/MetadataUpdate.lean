import Agm.Refine

/-! # Replacing stored metadata

`session_obj_set_sess_metadata`, `session_obj_set_sess_aif_metadata` and `device_set_metadata` free
the stored value and decode the new one into its place with `metadata_copy`.  When a block for the
new value cannot be had, the old one is gone: what is stored is the zeroed structure, or a count of
graph keys without the keys.  `metadata_survives_iff` says exactly when a call leaves the stored
value intact. -/

namespace Agm

open Prog

/-! ### Well-formed metadata -/

/-- Each count is the length of the array that is held; without an array it is zero. -/
structure MetaData.WellFormed (m : MetaData) : Prop where
  gkv : m.gkv.numKvs = (m.gkv.kv.getD []).length
  ckv : m.ckv.numKvs = (m.ckv.kv.getD []).length
  sgProps : m.sgProps.numValues = (m.sgProps.values.getD []).length

instance (m : MetaData) : Decidable m.WellFormed :=
  decidable_of_iff (m.gkv.numKvs = (m.gkv.kv.getD []).length ∧
      m.ckv.numKvs = (m.ckv.kv.getD []).length ∧
      m.sgProps.numValues = (m.sgProps.values.getD []).length)
    ⟨fun h => ⟨h.1, h.2.1, h.2.2⟩, fun h => ⟨h.gkv, h.ckv, h.sgProps⟩⟩

theorem MetaData.wellFormed_default : ({} : MetaData).WellFormed := ⟨rfl, rfl, rfl⟩

/-- An array is read without a fault when it has as many elements as its count says. -/
theorem readArray_take {α : Type} {n : ℕ} {p : Option (List α)} (h : n ≤ (p.getD []).length)
    (ext : List Answer) :
    Ensures noFault (readArray n p) ext fun l ext' => l = (p.getD []).take n ∧ ext' = ext := by
  unfold readArray
  rw [ensures_ite]
  refine ⟨fun h0 => ?_, fun hne => ?_⟩
  · rw [ensures_pure, h0]
    exact ⟨List.take_zero.symm, rfl⟩
  · cases p with
    | none => exact absurd (Nat.le_zero.mp h) hne
    | some l =>
        dsimp only
        rw [if_pos (show n ≤ l.length from h), ensures_pure]
        exact ⟨rfl, rfl⟩

theorem ensures_calloc {E : Crash → Prop} (ext : List Answer) (Q : Bool → List Answer → Prop) :
    Ensures E calloc ext Q ↔ Q (decide ((ext.headD {}).code = 0)) ext.tail := Iff.rfl

/-! ### What `metadata_copy` leaves -/

/-- The number of graph keys that a buffer announces. -/
def numGkv : Payload → ℕ
  | b0 :: b1 :: b2 :: b3 :: _ =>
      b0.toNat + 2 ^ 8 * b1.toNat + 2 ^ 16 * b2.toNat + 2 ^ 24 * b3.toNat
  | _ => 0

/-- The first allocation of `metadata_copy` fails. -/
def GkvRefused (ext : List Answer) : Prop := (ext.headD {}).code ≠ 0

/-- The second or the third one fails. -/
def LaterRefused (ext : List Answer) : Prop :=
  (ext.tail.headD {}).code ≠ 0 ∨ (ext.tail.tail.headD {}).code ≠ 0

instance : DecidablePred GkvRefused := fun _ => inferInstanceAs (Decidable (_ ≠ _))

instance : DecidablePred LaterRefused := fun _ => inferInstanceAs (Decidable (_ ∨ _))

theorem readU32_ensures (buf : Payload) (off : ℕ) (ext : List Answer) :
    Ensures anyFault (readU32 buf off) ext fun n ext' =>
      (off = 0 → n = numGkv buf) ∧ ext' = ext := by
  unfold readU32
  split
  · rename_i b0 b1 b2 b3 rest hdrop
    rw [ensures_pure]
    refine ⟨?_, rfl⟩
    rintro rfl
    rw [List.drop_zero] at hdrop
    rw [hdrop]
    rfl
  · exact trivial

theorem readKvs_ensures (buf : Payload) (n off : ℕ) (ext : List Answer) :
    Ensures anyFault (readKvs buf off n) ext fun l ext' => l.length = n ∧ ext' = ext := by
  induction n generalizing off with
  | zero => exact ⟨rfl, rfl⟩
  | succ n ih =>
      unfold readKvs
      rw [ensures_bind]
      refine (readU32_ensures buf off ext).imp ?_
      rintro k _ ⟨-, rfl⟩
      rw [ensures_bind]
      refine (readU32_ensures buf (off + 4) _).imp ?_
      rintro v _ ⟨-, rfl⟩
      rw [ensures_bind]
      refine (ih (off + 8)).imp ?_
      rintro l _ ⟨hl, rfl⟩
      exact ⟨congrArg Nat.succ hl, rfl⟩

theorem readWords_ensures (buf : Payload) (n off : ℕ) (ext : List Answer) :
    Ensures anyFault (readWords buf off n) ext fun l ext' => l.length = n ∧ ext' = ext := by
  induction n generalizing off with
  | zero => exact ⟨rfl, rfl⟩
  | succ n ih =>
      unfold readWords
      rw [ensures_bind]
      refine (readU32_ensures buf off ext).imp ?_
      rintro v _ ⟨-, rfl⟩
      rw [ensures_bind]
      refine (ih (off + 4)).imp ?_
      rintro l _ ⟨hl, rfl⟩
      exact ⟨congrArg Nat.succ hl, rfl⟩

/-- The result of a copy into a value that was just freed. -/
structure Copied (buf : Payload) (ext : List Answer) (r : ℤ × MetaData) : Prop where
  failed : r.1 ≠ 0 ↔ GkvRefused ext ∨ LaterRefused ext
  gkv : GkvRefused ext → r.2 = { gkv := { numKvs := numGkv buf, kv := none } }
  later : ¬ GkvRefused ext → LaterRefused ext → r.2 = {}
  done : ¬ GkvRefused ext → ¬ LaterRefused ext → r.2.WellFormed

/-- How a test of an allocation reads. -/
theorem refused_iff {a : Answer} : (!decide (a.code = 0)) = true ↔ a.code ≠ 0 := by simp

theorem metadataCopy_ensures (buf : Payload) (ext : List Answer) :
    Ensures anyFault (metadataCopy {} buf) ext fun r _ => Copied buf ext r := by
  have hne : (-ENOMEM : ℤ) ≠ 0 := by decide
  unfold metadataCopy
  rw [ensures_bind]
  refine (readU32_ensures buf 0 ext).imp ?_
  rintro numGkv ext ⟨hnum, rfl⟩
  obtain rfl := hnum rfl
  rw [ensures_bind, ensures_calloc, ensures_ite, refused_iff]
  refine ⟨fun hg => ?_, fun hg => ?_⟩
  · -- the count stays without an array
    replace hg : GkvRefused ext := hg
    rw [ensures_pure]
    exact ⟨⟨fun _ => .inl hg, fun _ => hne⟩, fun _ => rfl, fun h => absurd hg h,
      fun h => absurd hg h⟩
  replace hg : ¬ GkvRefused ext := hg
  rw [ensures_bind]
  refine (readKvs_ensures buf _ 4 _).imp ?_
  rintro gkv _ ⟨hgkv, rfl⟩
  rw [ensures_bind]
  refine (readU32_ensures buf _ _).imp ?_
  rintro numCkv _ ⟨-, rfl⟩
  rw [ensures_bind, ensures_calloc, ensures_ite, refused_iff]
  refine ⟨fun hc => ?_, fun hc => ?_⟩
  · have hl : LaterRefused ext := .inl hc
    rw [ensures_pure]
    exact ⟨⟨fun _ => .inr hl, fun _ => hne⟩, fun h => absurd h hg, fun _ _ => rfl,
      fun _ h => absurd hl h⟩
  rw [ensures_bind]
  refine (readKvs_ensures buf _ _ _).imp ?_
  rintro ckv _ ⟨hckv, rfl⟩
  dsimp only
  rw [ensures_bind]
  refine (readU32_ensures buf _ _).imp ?_
  rintro propId _ ⟨-, rfl⟩
  rw [ensures_bind]
  refine (readU32_ensures buf _ _).imp ?_
  rintro numProps _ ⟨-, rfl⟩
  rw [ensures_bind, ensures_calloc, ensures_ite, refused_iff]
  refine ⟨fun hp => ?_, fun hp => ?_⟩
  · have hl : LaterRefused ext := .inr hp
    rw [ensures_pure]
    exact ⟨⟨fun _ => .inr hl, fun _ => hne⟩, fun h => absurd h hg, fun _ _ => rfl,
      fun _ h => absurd hl h⟩
  have hl : ¬ LaterRefused ext := by
    rintro (h | h)
    · exact hc h
    · exact hp h
  rw [ensures_bind]
  refine (readWords_ensures buf _ _ _).imp ?_
  rintro props _ ⟨hprops, rfl⟩
  rw [ensures_pure]
  refine ⟨⟨fun h => absurd rfl h, ?_⟩, fun h => absurd h hg, fun _ h => absurd h hl, fun _ _ => ?_⟩
  · rintro (h | h)
    · exact absurd h hg
    · exact absurd h hl
  · exact ⟨hgkv.symm, hckv.symm, hprops.symm⟩

/-! ### The three calls -/

/-- The calls that replace a stored value, by what they store it in. -/
inductive MetadataUpdate where
  | session (s : ℕ)
  | sessionAif (s aif : ℕ)
  | device (d : ℕ)
deriving DecidableEq, Repr

namespace MetadataUpdate

def run (buf : Payload) : MetadataUpdate → AgmM ℤ
  | session s => sessionObjSetSessMetadata s buf
  | sessionAif s aif => sessionObjSetSessAifMetadata s aif buf
  | device d => onDevice (some d) (deviceSetMetadata buf)

/-- The position at which `aif_obj_get` finds the interface or appends it. -/
def position (s aif : ℕ) (w : World) : ℕ :=
  (aifObjGetFromPool (w.sess s) aif).getD (w.sess s).aifPool.length

/-- What is stored in the state `w'`; the place is that of a call made in the state `w`.  An
interface that is not in the pool yet has the zeroed value it will be created with. -/
def stored (w w' : World) : MetadataUpdate → MetaData
  | session s => (w'.sess s).sessMeta
  | sessionAif s aif => (w'.aif s (position s aif w)).sessAifMeta
  | device d => (w'.dev d).metadata

/-- The interface has to be created. -/
def Creates (w : World) : MetadataUpdate → Prop
  | sessionAif s aif => aifObjGetFromPool (w.sess s) aif = none
  | _ => False

instance (w : World) : DecidablePred (Creates w)
  | session _ => .isFalse id
  | sessionAif s aif => inferInstanceAs (Decidable (aifObjGetFromPool (w.sess s) aif = none))
  | device _ => .isFalse id

/-- The external results that `metadata_copy` meets. -/
def copyExt (w : World) (u : MetadataUpdate) : List Answer :=
  if u.Creates w then w.ext.tail else w.ext

/-- There is no memory for the interface: the call ends before it touches the metadata. -/
def Refused (w : World) (u : MetadataUpdate) : Prop := u.Creates w ∧ (w.ext.headD {}).code ≠ 0

instance (w : World) : DecidablePred (Refused w) := fun _ => inferInstanceAs (Decidable (_ ∧ _))

/-- A failing allocation finds nothing stored, and does not leave a count of graph keys behind. -/
def Spared (buf : Payload) (w : World) (u : MetadataUpdate) : Prop :=
  u.Refused w ∨
    (GkvRefused (u.copyExt w) → numGkv buf = 0 ∧ u.stored w w = {}) ∧
    (LaterRefused (u.copyExt w) → u.stored w w = {} ∨ GkvRefused (u.copyExt w))

instance (buf : Payload) (w : World) : DecidablePred (Spared buf w) :=
  fun _ => inferInstanceAs (Decidable (_ ∨ _))

/-- Running `metadata_copy` in the service. -/
theorem ensures_env_copy (buf : Payload) (w : World) :
    Ensures anyFault (env (metadataCopy {} buf)) w fun r w' =>
      Copied buf w.ext r ∧ w'.sess = w.sess := by
  unfold env
  rw [ensures_zoom]
  exact (metadataCopy_ensures buf w.ext).imp fun _ _ h => ⟨h, rfl⟩

/-- `session_obj_set_sess_aif_metadata` once the interface is found. -/
theorem setAifMeta_ensures (buf : Payload) (s i : ℕ) {w : World}
    (hi : i < (w.sess s).aifPool.length) :
    Ensures anyFault (do
      let md ← env (metadataCopy {} buf)
      modifyAif s i fun a => { a with sessAifMeta := md.2 }
      pure md.1 : AgmM ℤ) w fun r w' => Copied buf w.ext (r, (w'.aif s i).sessAifMeta) := by
  rw [ensures_bind]
  refine (ensures_env_copy buf w).imp ?_
  rintro md w₁ ⟨hmd, hsess⟩
  show Copied buf w.ext (md.1, ((Function.update w₁.sess s _ s).aifPool.getD i {}).sessAifMeta)
  rw [Function.update_self, hsess, List.getD_eq_getElem?_getD, List.getElem?_modify_eq,
    List.getElem?_eq_getElem hi]
  exact hmd

/-- An interface is created if there is memory for it. -/
theorem aifObjCreate_block (aif : ℕ) (w : World) :
    Ensures anyFault (aifObjCreate aif) w fun obj w' =>
      (obj = none ↔ (w.ext.headD {}).code ≠ 0) ∧ w' = { w with ext := w.ext.tail } := by
  unfold aifObjCreate env
  rw [ensures_bind, ensures_zoom, ensures_calloc, ensures_ite, refused_iff]
  refine ⟨fun hr => ⟨⟨fun _ => hr, fun _ => rfl⟩, rfl⟩, fun hr => ?_⟩
  rw [ensures_bind, ensures_deviceGetObj, ensures_ite]
  exact ⟨fun _ => ⟨⟨nofun, fun h => absurd h hr⟩, rfl⟩,
    fun _ => ⟨⟨nofun, fun h => absurd h hr⟩, rfl⟩⟩

/-- What a call leaves: nothing is touched when there is no memory for the interface, and else the
stored value is the one that `metadata_copy` made. -/
theorem run_ensures (buf : Payload) (w : World) (u : MetadataUpdate) :
    Ensures anyFault (u.run buf) w fun r w' =>
      (u.Refused w ∧ u.stored w w' = u.stored w w ∧ u.stored w w = {}) ∨
        (¬ u.Refused w ∧ Copied buf (u.copyExt w) (r, u.stored w w')) := by
  cases u with
  | session s =>
      have hnot : ¬ Refused w (session s) := fun h => h.1
      unfold run sessionObjSetSessMetadata
      rw [ensures_bind]
      refine (ensures_env_copy buf w).imp ?_
      rintro md w₁ ⟨hmd, -⟩
      refine .inr ⟨hnot, ?_⟩
      show Copied buf w.ext (md.1, (Function.update w₁.sess s _ s).sessMeta)
      rw [Function.update_self]
      exact hmd
  | device d =>
      have hnot : ¬ Refused w (device d) := fun h => h.1
      unfold run onDevice deviceSetMetadata
      simp only [ensures_zoom, ensures_bind, ensures_obj, ensures_put, ensures_pure]
      refine (metadataCopy_ensures buf w.ext).imp fun md ext hmd => .inr ⟨hnot, ?_⟩
      show Copied buf w.ext (md.1, (Function.update w.dev d _ d).metadata)
      rw [Function.update_self]
      exact hmd
  | sessionAif s aif =>
      unfold run sessionObjSetSessAifMetadata withAif aifObjGet
      simp only [ensures_bind, ensures_getSess]
      cases hfind : aifObjGetFromPool (w.sess s) aif with
      | some i =>
          have hcreates : ¬ Creates w (sessionAif s aif) := fun h =>
            Option.some_ne_none i (hfind.symm.trans h)
          have hpos : position s aif w = i := by rw [position, hfind, Option.getD_some]
          have hi := (List.findIdx?_eq_some_iff_getElem.mp hfind).1
          refine (setAifMeta_ensures buf s i hi).imp fun r w' h => .inr ⟨fun h => hcreates h.1, ?_⟩
          rw [copyExt, if_neg hcreates]
          show Copied buf w.ext (r, (w'.aif s (position s aif w)).sessAifMeta)
          rw [hpos]
          exact h
      | none =>
          have hcreates : Creates w (sessionAif s aif) := hfind
          have hpos : position s aif w = (w.sess s).aifPool.length := by
            rw [position, hfind, Option.getD_none]
          have hold : stored w w (sessionAif s aif) = {} := by
            show (w.aif s (position s aif w)).sessAifMeta = {}
            rw [hpos, World.aif, List.getD_eq_default _ _ le_rfl]
          dsimp only
          rw [ensures_bind]
          refine (aifObjCreate_block aif w).imp ?_
          rintro obj _ ⟨hobj, rfl⟩
          cases obj with
          | none => exact .inl ⟨⟨hcreates, hobj.mp rfl⟩, rfl, hold⟩
          | some obj =>
              have hnot : ¬ Refused w (sessionAif s aif) := fun h =>
                Option.some_ne_none obj (hobj.mpr h.2)
              dsimp only
              rw [ensures_bind]
              have hlen : (w.sess s).aifPool.length < ((Function.update w.sess s
                  { w.sess s with aifPool := (w.sess s).aifPool ++ [obj] }) s).aifPool.length := by
                rw [Function.update_self, List.length_append]
                exact Nat.lt_succ_self _
              refine (setAifMeta_ensures buf s _ hlen).imp fun r w' h => .inr ⟨hnot, ?_⟩
              rw [copyExt, if_pos hcreates]
              show Copied buf w.ext.tail (r, (w'.aif s (position s aif w)).sessAifMeta)
              rw [hpos]
              exact h

end MetadataUpdate

/-- A call that replaces stored metadata leaves a well-formed value, and the old one if it fails,
if and only if it is spared: no allocation of `metadata_copy` fails, or nothing was stored and the
failure does not leave a count of graph keys behind. -/
theorem metadata_survives_iff {u : MetadataUpdate} {buf : Payload} {w w' : World} {r : ℤ}
    (hrun : u.run buf w = .ok (r, w')) :
    ((u.stored w w').WellFormed ∧ (r ≠ 0 → u.stored w w' = u.stored w w)) ↔ u.Spared buf w := by
  rcases (u.run_ensures buf w).of_ok hrun with ⟨href, hsame, hold⟩ | ⟨href, hcopied⟩
  · have hwf : (u.stored w w').WellFormed := by
      rw [hsame, hold]
      exact MetaData.wellFormed_default
    exact ⟨fun _ => .inl href, fun _ => ⟨hwf, fun _ => hsame⟩⟩
  obtain ⟨hfailed, hgkv, hlater, hdone⟩ := hcopied
  dsimp only at hfailed hgkv hlater hdone
  unfold MetadataUpdate.Spared
  rw [or_iff_right href, hfailed]
  by_cases hG : GkvRefused (u.copyExt w)
  · -- the count of graph keys is all that is left
    rw [hgkv hG]
    constructor
    · rintro ⟨hwf, hsame⟩
      have hnum : numGkv buf = 0 := hwf.gkv
      refine ⟨fun _ => ⟨hnum, ?_⟩, fun _ => .inr hG⟩
      rw [← hsame (.inl hG), hnum]
    · rintro ⟨hspared, -⟩
      obtain ⟨hnum, hold⟩ := hspared hG
      rw [hnum, hold]
      exact ⟨MetaData.wellFormed_default, fun _ => rfl⟩
  by_cases hL : LaterRefused (u.copyExt w)
  · rw [hlater hG hL]
    constructor
    · rintro ⟨-, hsame⟩
      exact ⟨fun h => absurd h hG, fun _ => .inl (hsame (.inr hL)).symm⟩
    · rintro ⟨-, hspared⟩
      have hold := (hspared hL).resolve_right hG
      rw [hold]
      exact ⟨MetaData.wellFormed_default, fun _ => rfl⟩
  · have hnone : ¬ (GkvRefused (u.copyExt w) ∨ LaterRefused (u.copyExt w)) := not_or.mpr ⟨hG, hL⟩
    exact ⟨fun _ => ⟨fun h => absurd h hG, fun h => absurd h hL⟩,
      fun _ => ⟨hdone hG hL, fun h => absurd h hnone⟩⟩

/-- The allocation of the graph keys fails, and their count stays behind. -/
def MetadataUpdate.LeavesCount (buf : Payload) (w : World) (u : MetadataUpdate) : Prop :=
  ¬ u.Refused w ∧ GkvRefused (u.copyExt w) ∧ numGkv buf ≠ 0

instance (buf : Payload) (w : World) : DecidablePred (MetadataUpdate.LeavesCount buf w) :=
  fun _ => inferInstanceAs (Decidable (_ ∧ _ ∧ _))

/-- A call that does not leave a count behind leaves a well-formed value, and the zeroed one if it
fails: nothing of the old value survives a failure. -/
theorem metadata_cleared {u : MetadataUpdate} {buf : Payload} {w w' : World} {r : ℤ}
    (hrun : u.run buf w = .ok (r, w')) (hcount : ¬ u.LeavesCount buf w) :
    (u.stored w w').WellFormed ∧ (r ≠ 0 → u.stored w w' = {}) := by
  rcases (u.run_ensures buf w).of_ok hrun with ⟨-, hsame, hold⟩ | ⟨href, hcopied⟩
  · rw [hsame, hold]
    exact ⟨MetaData.wellFormed_default, fun _ => rfl⟩
  obtain ⟨hfailed, hgkv, hlater, hdone⟩ := hcopied
  dsimp only at hfailed hgkv hlater hdone
  have hzero : GkvRefused (u.copyExt w) ∨ LaterRefused (u.copyExt w) → u.stored w w' = {} := by
    intro h
    by_cases hG : GkvRefused (u.copyExt w)
    · have hnum : numGkv buf = 0 := by
        by_contra hne
        exact hcount ⟨href, hG, hne⟩
      rw [hgkv hG, hnum]
    · exact hlater hG (h.resolve_left hG)
  refine ⟨?_, fun hr => hzero (hfailed.mp hr)⟩
  by_cases h : GkvRefused (u.copyExt w) ∨ LaterRefused (u.copyExt w)
  · rw [hzero h]
    exact MetaData.wellFormed_default
  · exact hdone (fun hG => h (.inl hG)) fun hL => h (.inr hL)

/-- A buffer with one graph key, no calibration key and no property. -/
def oneKeyBuffer : Payload := [1, 0, 0, 0, 7, 0, 0, 0, 9, 0, 0, 0, 0, 0, 0, 0, 0, 0, 0, 0, 0, 0, 0, 0]

/-- Devices with stored metadata; the next external results are `ext`. -/
def withDeviceMetadata (ext : List Answer) : World :=
  { startUp 4 with
    dev := fun _ => { metadata := ⟨⟨1, some [⟨5, 6⟩]⟩, ⟨0, some []⟩, ⟨0, 0, some []⟩⟩ }
    ext := ext }

/-- The interface of a new session is created, and there is no memory for the calibration keys. -/
theorem metadata_cleared_newAif : ∃ r w',
    MetadataUpdate.run oneKeyBuffer (.sessionAif 3 0)
        { startUp 4 with ext := [{}, {}, { code := 1 }] } = .ok (r, w') ∧ r = -ENOMEM ∧
      (w'.aif 3 0).sessAifMeta.WellFormed ∧ (w'.aif 3 0).sessAifMeta = {} := by
  obtain ⟨r, w', hrun, hr⟩ := Ensures.exists_ok
    (m := MetadataUpdate.run oneKeyBuffer (.sessionAif 3 0))
    (s := { startUp 4 with ext := [{}, {}, { code := 1 }] }) (Q := fun r _ => r = -ENOMEM)
    (by decide +kernel)
  have h := metadata_cleared hrun (by decide +kernel)
  exact ⟨r, w', hrun, hr, h.1, h.2 (by rw [hr]; decide)⟩

/-- There is no memory for the calibration keys of a new value: the old one is gone. -/
theorem metadata_cleared_device : ∃ r w',
    MetadataUpdate.run oneKeyBuffer (.device 2) (withDeviceMetadata [{}, { code := 1 }]) =
        .ok (r, w') ∧ r = -ENOMEM ∧
      (w'.dev 2).metadata ≠ ((withDeviceMetadata [{}, { code := 1 }]).dev 2).metadata :=
  Ensures.exists_ok (by decide +kernel)

end Agm
