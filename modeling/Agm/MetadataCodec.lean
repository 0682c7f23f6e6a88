import Agm.MetadataMerge
import Agm.Lib.Codec

/-! # The layout of metadata

`metadata_copy` finds each field of a client's buffer behind the counts of the fields before it.
`metadataCopy_spec` says where it reads, what it returns and which reads leave the buffer.

* `copyBounded_iff`: when a copy keeps to the declared size, and refuses a buffer that does not fit
  in it without touching its destination.  Nothing in the code compares the counts with the size.
* `metadataCodec_roundTrip`: what is encoded is decoded again, and what is decoded was encoded. -/

namespace Agm

open Prog Codec

/-! ### Where the fields are -/

section fields
variable (buf : Payload)

def gkvCount : ℕ := leAt 4 buf 0

/-- `PTR_TO_NUM_CKV`. -/
def ckvAt : ℕ := 4 + 8 * gkvCount buf

def ckvCount : ℕ := leAt 4 buf (ckvAt buf)

/-- `PTR_TO_PROP_ID`. -/
def propAt : ℕ := ckvAt buf + 4 + 8 * ckvCount buf

def propCount : ℕ := leAt 4 buf (propAt buf + 4)

/-- The end of the last field. -/
def copyEnd : ℕ := propAt buf + 8 + 4 * propCount buf

/-- The pair at an offset. -/
def kvAt (off : ℕ) : KeyValue := ⟨leAt 4 buf off, leAt 4 buf (off + 4)⟩

/-- The value that a buffer is decoded to. -/
def decoded : MetaData :=
  { gkv := { numKvs := gkvCount buf, kv := some (manyAt (kvAt buf) 8 4 (gkvCount buf)) }
    ckv :=
      { numKvs := ckvCount buf, kv := some (manyAt (kvAt buf) 8 (ckvAt buf + 4) (ckvCount buf)) }
    sgProps :=
      { propId := leAt 4 buf (propAt buf)
        numValues := propCount buf
        values := some (manyAt (leAt 4 buf) 4 (propAt buf + 8) (propCount buf)) } }

end fields

/-! ### The reads -/

theorem readU32_spec (buf : Payload) (off : ℕ) (ext : List Answer) :
    Ensures (fun _ => buf.length < off + 4) (readU32 buf off) ext fun n ext' =>
      n = leAt 4 buf off ∧ off + 4 ≤ buf.length ∧ ext' = ext := by
  unfold readU32
  split
  · rename_i b0 b1 b2 b3 rest hdrop
    have hlen := congrArg List.length hdrop
    rw [List.length_drop] at hlen
    simp only [List.length_cons] at hlen
    rw [ensures_pure]
    refine ⟨?_, by omega, rfl⟩
    rw [leAt, hdrop]
    simp only [List.take_succ_cons, List.take_zero, ofLe]
    omega
  · rename_i hno
    rw [ensures_fault]
    by_contra hlen
    rw [not_lt] at hlen
    have hfour : 4 ≤ (buf.drop off).length := by
      rw [List.length_drop]
      omega
    rcases hdrop : buf.drop off with _ | ⟨b0, _ | ⟨b1, _ | ⟨b2, _ | ⟨b3, rest⟩⟩⟩⟩
    case cons.cons.cons.cons => exact hno b0 b1 b2 b3 rest hdrop
    all_goals
      rw [hdrop] at hfour
      simp at hfour

theorem readKvs_spec (buf : Payload) (n off : ℕ) (hoff : off ≤ buf.length) (ext : List Answer) :
    Ensures (fun _ => buf.length < off + 8 * n) (readKvs buf off n) ext fun l ext' =>
      l = manyAt (kvAt buf) 8 off n ∧ off + 8 * n ≤ buf.length ∧ ext' = ext := by
  induction n generalizing off with
  | zero => exact ⟨rfl, hoff, rfl⟩
  | succ n ih =>
      have hnext : off + 8 + 8 * n = off + 8 * (n + 1) := by omega
      unfold readKvs
      rw [ensures_bind]
      refine (readU32_spec buf off ext).mono (fun _ h => by omega) ?_
      rintro k _ ⟨rfl, -, rfl⟩
      rw [ensures_bind]
      refine (readU32_spec buf (off + 4) _).mono (fun _ h => by omega) ?_
      rintro v _ ⟨rfl, hlen, rfl⟩
      rw [ensures_bind]
      refine (ih (off + 8) (by omega)).mono (fun _ h => by omega) ?_
      rintro l _ ⟨rfl, hend, rfl⟩
      exact ⟨rfl, hnext ▸ hend, rfl⟩

theorem readWords_spec (buf : Payload) (n off : ℕ) (hoff : off ≤ buf.length) (ext : List Answer) :
    Ensures (fun _ => buf.length < off + 4 * n) (readWords buf off n) ext fun l ext' =>
      l = manyAt (leAt 4 buf) 4 off n ∧ off + 4 * n ≤ buf.length ∧ ext' = ext := by
  induction n generalizing off with
  | zero => exact ⟨rfl, hoff, rfl⟩
  | succ n ih =>
      have hnext : off + 4 + 4 * n = off + 4 * (n + 1) := by omega
      unfold readWords
      rw [ensures_bind]
      refine (readU32_spec buf off ext).mono (fun _ h => by omega) ?_
      rintro v _ ⟨rfl, hlen, rfl⟩
      rw [ensures_bind]
      refine (ih (off + 4) hlen).mono (fun _ h => by omega) ?_
      rintro l _ ⟨rfl, hend, rfl⟩
      exact ⟨rfl, hnext ▸ hend, rfl⟩

/-! ### The copy -/

/-- The allocation of the calibration keys fails. -/
def CkvRefused (ext : List Answer) : Prop := (ext.tail.headD {}).code ≠ 0

/-- The allocation of the properties fails. -/
def PropsRefused (ext : List Answer) : Prop := (ext.tail.tail.headD {}).code ≠ 0

instance : DecidablePred CkvRefused := fun _ => inferInstanceAs (Decidable (_ ≠ _))

instance : DecidablePred PropsRefused := fun _ => inferInstanceAs (Decidable (_ ≠ _))

/-- A read leaves the buffer before an allocation fails. -/
def Overruns (buf : Payload) (ext : List Answer) : Prop :=
  buf.length < 4 ∨ (¬ GkvRefused ext ∧ (buf.length < ckvAt buf + 4 ∨
    (¬ CkvRefused ext ∧ (buf.length < propAt buf + 8 ∨
      (¬ PropsRefused ext ∧ buf.length < copyEnd buf)))))

instance (buf : Payload) : DecidablePred (Overruns buf) :=
  fun _ => inferInstanceAs (Decidable (_ ∨ _))

/-- The code and the destination of a copy whose reads stay in the buffer. -/
def copyResult (dest : MetaData) (buf : Payload) (ext : List Answer) : ℤ × MetaData :=
  if GkvRefused ext then (-ENOMEM, { dest with gkv := { numKvs := gkvCount buf, kv := none } })
  else if CkvRefused ext ∨ PropsRefused ext then (-ENOMEM, {})
  else (0, decoded buf)

theorem metadataCopy_spec (dest : MetaData) (buf : Payload) (ext : List Answer) :
    Ensures (fun _ => Overruns buf ext) (metadataCopy dest buf) ext fun r _ =>
      ¬ Overruns buf ext ∧ r = copyResult dest buf ext := by
  unfold metadataCopy
  rw [ensures_bind]
  refine (readU32_spec buf 0 ext).mono (fun _ h => .inl h) ?_
  rintro _ ext ⟨rfl, h4, rfl⟩
  rw [ensures_bind, ensures_calloc, ensures_ite, refused_iff]
  refine ⟨fun hg => ?_, fun hg => ?_⟩
  · replace hg : GkvRefused ext := hg
    rw [ensures_pure, copyResult, if_pos hg]
    refine ⟨?_, rfl⟩
    rintro (h | ⟨h, -⟩)
    · omega
    · exact h hg
  replace hg : ¬ GkvRefused ext := hg
  rw [ensures_bind]
  refine (readKvs_spec buf (gkvCount buf) 4 h4 _).mono (fun _ h => .inr ⟨hg, .inl ?_⟩) ?_
  · rw [ckvAt]
    omega
  rintro _ _ ⟨rfl, hgkv, rfl⟩
  rw [ensures_bind]
  refine (readU32_spec buf (ckvAt buf) _).mono (fun _ h => .inr ⟨hg, .inl h⟩) ?_
  rintro _ _ ⟨rfl, hckv, rfl⟩
  rw [ensures_bind, ensures_calloc, ensures_ite, refused_iff]
  refine ⟨fun hc => ?_, fun hc => ?_⟩
  · replace hc : CkvRefused ext := hc
    rw [ensures_pure, copyResult, if_neg hg, if_pos (.inl hc)]
    refine ⟨?_, rfl⟩
    rintro (h | ⟨-, h | ⟨h, -⟩⟩)
    · omega
    · omega
    · exact h hc
  replace hc : ¬ CkvRefused ext := hc
  rw [ensures_bind]
  refine (readKvs_spec buf (ckvCount buf) (ckvAt buf + 4) hckv _).mono
    (fun _ h => .inr ⟨hg, .inr ⟨hc, .inl ?_⟩⟩) ?_
  · rw [propAt]
    omega
  rintro _ _ ⟨rfl, hckvs, rfl⟩
  dsimp only
  rw [ensures_bind]
  refine (readU32_spec buf (propAt buf) _).mono
    (fun _ h => .inr ⟨hg, .inr ⟨hc, .inl (by omega)⟩⟩) ?_
  rintro _ _ ⟨rfl, -, rfl⟩
  rw [ensures_bind]
  refine (readU32_spec buf (propAt buf + 4) _).mono
    (fun _ h => .inr ⟨hg, .inr ⟨hc, .inl h⟩⟩) ?_
  rintro _ _ ⟨rfl, hprop, rfl⟩
  rw [ensures_bind, ensures_calloc, ensures_ite, refused_iff]
  refine ⟨fun hp => ?_, fun hp => ?_⟩
  · replace hp : PropsRefused ext := hp
    rw [ensures_pure, copyResult, if_neg hg, if_pos (.inr hp)]
    refine ⟨?_, rfl⟩
    rintro (h | ⟨-, h | ⟨-, h | ⟨h, -⟩⟩⟩)
    · omega
    · omega
    · omega
    · exact h hp
  replace hp : ¬ PropsRefused ext := hp
  rw [ensures_bind]
  refine (readWords_spec buf (propCount buf) (propAt buf + 8) hprop _).mono
    (fun _ h => .inr ⟨hg, .inr ⟨hc, .inr ⟨hp, h⟩⟩⟩) ?_
  rintro _ _ ⟨rfl, hend, rfl⟩
  rw [ensures_pure, copyResult, if_neg hg, if_neg (not_or.mpr ⟨hc, hp⟩)]
  refine ⟨?_, rfl⟩
  rintro (h | ⟨-, h | ⟨-, h | ⟨-, h⟩⟩⟩)
  · omega
  · omega
  · omega
  · rw [copyEnd] at h
    omega

/-- What a copy returns, when no read leaves the buffer. -/
theorem metadataCopy_value {dest : MetaData} {buf : Payload} {ext : List Answer} {r : ℤ × MetaData} :
    (metadataCopy dest buf ext).map Prod.fst = .ok r ↔
      ¬ Overruns buf ext ∧ r = copyResult dest buf ext := by
  have h := metadataCopy_spec dest buf ext
  unfold Ensures at h
  cases hrun : metadataCopy dest buf ext with
  | ok p =>
      rw [hrun] at h
      obtain ⟨hno, hr⟩ := h
      constructor
      · rintro ⟨⟩
        exact ⟨hno, hr⟩
      · rintro ⟨-, rfl⟩
        exact congrArg Except.ok hr
  | error e =>
      rw [hrun] at h
      exact ⟨nofun, fun hr => absurd h hr.1⟩

theorem not_overruns_iff {buf : Payload} {ext : List Answer} :
    ¬ Overruns buf ext ↔ 4 ≤ buf.length ∧ (GkvRefused ext ∨ (ckvAt buf + 4 ≤ buf.length ∧
      (CkvRefused ext ∨ (propAt buf + 8 ≤ buf.length ∧
        (PropsRefused ext ∨ copyEnd buf ≤ buf.length))))) := by
  unfold Overruns
  simp only [not_or, not_and, not_lt]
  tauto

/-! ### The declared size -/

/-- The fields that the counts of a buffer announce fit in its length. -/
def PayloadFits (buf : Payload) : Prop := copyEnd buf ≤ buf.length

instance : DecidablePred PayloadFits := fun _ => inferInstanceAs (Decidable (_ ≤ _))

theorem PayloadFits.bounds {buf : Payload} (h : PayloadFits buf) :
    4 ≤ buf.length ∧ ckvAt buf + 4 ≤ buf.length ∧ propAt buf + 8 ≤ buf.length ∧
      copyEnd buf ≤ buf.length := by
  unfold PayloadFits copyEnd propAt ckvAt at *
  omega

theorem PayloadFits.not_overruns {buf : Payload} (h : PayloadFits buf) (ext : List Answer) :
    ¬ Overruns buf ext :=
  not_overruns_iff.mpr ⟨h.bounds.1, .inr ⟨h.bounds.2.1, .inr ⟨h.bounds.2.2.1, .inr h⟩⟩⟩

section append
variable {buf rest : Payload}

theorem gkvCount_append (h : 4 ≤ buf.length) : gkvCount (buf ++ rest) = gkvCount buf :=
  leAt_append (Nat.zero_add 4 ▸ h)

theorem ckvAt_append (h : 4 ≤ buf.length) : ckvAt (buf ++ rest) = ckvAt buf := by
  rw [ckvAt, ckvAt, gkvCount_append h]

theorem ckvCount_append (h : 4 ≤ buf.length) (hc : ckvAt buf + 4 ≤ buf.length) :
    ckvCount (buf ++ rest) = ckvCount buf := by
  rw [ckvCount, ckvCount, ckvAt_append h, leAt_append hc]

theorem propAt_append (h : 4 ≤ buf.length) (hc : ckvAt buf + 4 ≤ buf.length) :
    propAt (buf ++ rest) = propAt buf := by
  rw [propAt, propAt, ckvAt_append h, ckvCount_append h hc]

theorem propCount_append (h : 4 ≤ buf.length) (hc : ckvAt buf + 4 ≤ buf.length)
    (hp : propAt buf + 8 ≤ buf.length) : propCount (buf ++ rest) = propCount buf := by
  rw [propCount, propCount, propAt_append h hc, leAt_append (by omega)]

theorem kvAt_append {off : ℕ} (h : off + 8 ≤ buf.length) :
    kvAt (buf ++ rest) off = kvAt buf off := by
  rw [kvAt, kvAt, leAt_append (by omega), leAt_append (by omega)]

/-- What is decoded does not depend on what follows the last field. -/
theorem decoded_append (h : PayloadFits buf) : decoded (buf ++ rest) = decoded buf := by
  obtain ⟨h4, hc, hp, hend⟩ := h.bounds
  rw [copyEnd] at hend
  have hgkv : manyAt (kvAt (buf ++ rest)) 8 4 (gkvCount buf) =
      manyAt (kvAt buf) 8 4 (gkvCount buf) := by
    refine manyAt_congr fun i _ hi => kvAt_append ?_
    rw [ckvAt] at hc
    omega
  have hckv : manyAt (kvAt (buf ++ rest)) 8 (ckvAt buf + 4) (ckvCount buf) =
      manyAt (kvAt buf) 8 (ckvAt buf + 4) (ckvCount buf) := by
    refine manyAt_congr fun i _ hi => kvAt_append ?_
    rw [propAt] at hp
    omega
  have hprops : manyAt (leAt 4 (buf ++ rest)) 4 (propAt buf + 8) (propCount buf) =
      manyAt (leAt 4 buf) 4 (propAt buf + 8) (propCount buf) :=
    manyAt_congr fun i _ hi => leAt_append (by omega)
  unfold decoded
  rw [gkvCount_append h4, ckvAt_append h4, ckvCount_append h4 hc, propAt_append h4 hc,
    propCount_append h4 hc hp, hgkv, hckv, hprops, leAt_append (by omega)]

/-- Nor does a copy that does not pass the end. -/
theorem copyResult_append {dest : MetaData} {ext : List Answer} (h : ¬ Overruns buf ext) :
    ¬ Overruns (buf ++ rest) ext ∧ copyResult dest (buf ++ rest) ext = copyResult dest buf ext := by
  obtain ⟨h4, h⟩ := not_overruns_iff.mp h
  have hlen : (buf ++ rest).length = buf.length + rest.length := List.length_append
  have h4' : 4 ≤ (buf ++ rest).length := by omega
  rw [not_overruns_iff]
  unfold copyResult
  rcases h with hg | ⟨hckv, h⟩
  · rw [if_pos hg, if_pos hg, gkvCount_append h4]
    exact ⟨⟨h4', .inl hg⟩, rfl⟩
  have hckv' : ckvAt (buf ++ rest) + 4 ≤ (buf ++ rest).length := by
    rw [ckvAt_append h4]
    omega
  rw [gkvCount_append h4]
  rcases h with hc | ⟨hprop, h⟩
  · simp only [hc, true_or, if_true]
    exact ⟨⟨h4', .inr ⟨hckv', trivial⟩⟩, trivial⟩
  have hprop' : propAt (buf ++ rest) + 8 ≤ (buf ++ rest).length := by
    rw [propAt_append h4 hckv]
    omega
  rcases h with hp | hend
  · simp only [hp, or_true, true_or, if_true]
    exact ⟨⟨h4', .inr ⟨hckv', .inr ⟨hprop', trivial⟩⟩⟩, trivial⟩
  · have hend' : copyEnd (buf ++ rest) ≤ (buf ++ rest).length := by
      rw [copyEnd, propAt_append h4 hckv, propCount_append h4 hckv hprop, hlen]
      exact hend.trans (Nat.le_add_right _ _)
    rw [decoded_append hend]
    exact ⟨⟨h4', .inr ⟨hckv', .inr ⟨hprop', .inr hend'⟩⟩⟩, rfl⟩

end append

/-- The copy of a buffer of which `size` bytes were declared keeps to these: on them alone no read
fails and the result is the same; and if they do not hold what their counts announce, the copy fails
and leaves its destination as it was. -/
def CopyBounded (dest : MetaData) (size : ℕ) (buf : Payload) (ext : List Answer) : Prop :=
  ∃ r, (metadataCopy dest (buf.take size) ext).map Prod.fst = .ok r ∧
    (metadataCopy dest buf ext).map Prod.fst = .ok r ∧
    (¬ PayloadFits (buf.take size) → r.1 ≠ 0 ∧ r.2 = dest)

/-- The counts fit, or an allocation fails before the end is passed and what that failure leaves is
what was there. -/
def CopySafe (dest : MetaData) (buf : Payload) (ext : List Answer) : Prop :=
  PayloadFits buf ∨
    (GkvRefused ext ∧ 4 ≤ buf.length ∧ dest.gkv = { numKvs := gkvCount buf, kv := none }) ∨
    (¬ GkvRefused ext ∧ CkvRefused ext ∧ ckvAt buf + 4 ≤ buf.length ∧ dest = {}) ∨
    (¬ GkvRefused ext ∧ ¬ CkvRefused ext ∧ PropsRefused ext ∧ propAt buf + 8 ≤ buf.length ∧
      dest = {})

instance (dest : MetaData) (buf : Payload) : DecidablePred (CopySafe dest buf) :=
  fun _ => inferInstanceAs (Decidable (_ ∨ _ ∨ _ ∨ _))

/-- The copy is bounded by its size argument exactly when the counts fit in it, or memory runs out
before the end is passed and the failure leaves what was there. -/
theorem copyBounded_iff (dest : MetaData) (size : ℕ) (buf : Payload) (ext : List Answer) :
    CopyBounded dest size buf ext ↔ CopySafe dest (buf.take size) ext := by
  have hwhole : buf = buf.take size ++ buf.drop size := (List.take_append_drop size buf).symm
  have hsame : ∀ r, (metadataCopy dest (buf.take size) ext).map Prod.fst = .ok r →
      (metadataCopy dest buf ext).map Prod.fst = .ok r := by
    intro r hr
    obtain ⟨hno, rfl⟩ := metadataCopy_value.mp hr
    have happ : ¬ Overruns (buf.take size ++ buf.drop size) ext ∧
        copyResult dest (buf.take size ++ buf.drop size) ext =
          copyResult dest (buf.take size) ext := copyResult_append hno
    rw [← hwhole] at happ
    exact metadataCopy_value.mpr ⟨happ.1, happ.2.symm⟩
  generalize hm : buf.take size = m at hsame
  have hbounded : CopyBounded dest size buf ext ↔
      ¬ Overruns m ext ∧ (¬ PayloadFits m → (copyResult dest m ext).1 ≠ 0 ∧
        (copyResult dest m ext).2 = dest) := by
    unfold CopyBounded
    rw [hm]
    constructor
    · rintro ⟨r, hr, -, hfit⟩
      obtain ⟨hno, rfl⟩ := metadataCopy_value.mp hr
      exact ⟨hno, hfit⟩
    · rintro ⟨hno, hfit⟩
      have hr : (metadataCopy dest m ext).map Prod.fst = .ok (copyResult dest m ext) :=
        metadataCopy_value.mpr ⟨hno, rfl⟩
      exact ⟨copyResult dest m ext, hr, hsame _ hr, hfit⟩
  rw [hbounded]
  have hne : (-ENOMEM : ℤ) ≠ 0 := by decide
  constructor
  · rintro ⟨hno, hfit⟩
    by_cases hfits : PayloadFits m
    · exact .inl hfits
    obtain ⟨-, hdest⟩ := hfit hfits
    obtain ⟨h4, h⟩ := not_overruns_iff.mp hno
    refine .inr ?_
    by_cases hg : GkvRefused ext
    · rw [copyResult, if_pos hg] at hdest
      exact .inl ⟨hg, h4, (congrArg MetaData.gkv hdest).symm⟩
    obtain ⟨hckv, h⟩ := h.resolve_left hg
    rw [copyResult, if_neg hg] at hdest
    by_cases hc : CkvRefused ext
    · rw [if_pos (.inl hc)] at hdest
      exact .inr (.inl ⟨hg, hc, hckv, hdest.symm⟩)
    obtain ⟨hprop, h⟩ := h.resolve_left hc
    by_cases hp : PropsRefused ext
    · rw [if_pos (.inr hp)] at hdest
      exact .inr (.inr ⟨hg, hc, hp, hprop, hdest.symm⟩)
    · exact absurd (h.resolve_left hp) hfits
  · rintro (hfits | ⟨hg, h4, hdest⟩ | ⟨hg, hc, hckv, rfl⟩ | ⟨hg, hc, hp, hprop, rfl⟩)
    · exact ⟨hfits.not_overruns ext, fun hno => absurd hfits hno⟩
    · refine ⟨not_overruns_iff.mpr ⟨h4, .inl hg⟩, fun _ => ?_⟩
      rw [copyResult, if_pos hg, ← hdest]
      exact ⟨hne, rfl⟩
    · have h4 : 4 ≤ m.length := by omega
      refine ⟨not_overruns_iff.mpr ⟨h4, .inr ⟨hckv, .inl hc⟩⟩, fun _ => ?_⟩
      rw [copyResult, if_neg hg, if_pos (.inl hc)]
      exact ⟨hne, rfl⟩
    · have hckv : ckvAt m + 4 ≤ m.length := by
        rw [propAt] at hprop
        omega
      have h4 : 4 ≤ m.length := by omega
      refine ⟨not_overruns_iff.mpr ⟨h4, .inr ⟨hckv, .inr ⟨hprop, .inl hp⟩⟩⟩, fun _ => ?_⟩
      rw [copyResult, if_neg hg, if_pos (.inr hp)]
      exact ⟨hne, rfl⟩

/-- Four bytes are declared, which announce a pair: the copy reads twenty more and succeeds. -/
theorem copyBounded_fails :
    (metadataCopy {} oneKeyBuffer []).map Prod.fst = .ok (0, decoded oneKeyBuffer) ∧
      ¬ CopyBounded {} 4 oneKeyBuffer [] := by
  refine ⟨metadataCopy_value.mpr ⟨by decide, rfl⟩, ?_⟩
  rintro ⟨r, hr, -⟩
  obtain ⟨hno, -⟩ := metadataCopy_value.mp hr
  exact hno (by decide)

/-! ### Encoding -/

def kvBytes (e : KeyValue) : Payload := leBytes 4 e.key ++ leBytes 4 e.value

/-- The layout of the payload. -/
def MetaLists.encode (x : MetaLists) : Payload :=
  leBytes 4 x.gkv.length ++ (x.gkv.flatMap kvBytes ++ (leBytes 4 x.ckv.length ++
    (x.ckv.flatMap kvBytes ++ (leBytes 4 x.propId ++ (leBytes 4 x.props.length ++
      x.props.flatMap (leBytes 4))))))

/-- The metadata that holds these lists and nothing behind them. -/
def MetaLists.value (x : MetaLists) : MetaData :=
  { gkv := { numKvs := x.gkv.length, kv := some x.gkv }
    ckv := { numKvs := x.ckv.length, kv := some x.ckv }
    sgProps := { propId := x.propId, numValues := x.props.length, values := some x.props } }

/-- All numbers are 32-bit words. -/
structure MetaLists.Words (x : MetaLists) : Prop where
  gkv : ∀ e ∈ x.gkv, e.key < 2 ^ 32 ∧ e.value < 2 ^ 32
  ckv : ∀ e ∈ x.ckv, e.key < 2 ^ 32 ∧ e.value < 2 ^ 32
  propId : x.propId < 2 ^ 32
  props : ∀ v ∈ x.props, v < 2 ^ 32

theorem MetaLists.lists_value (x : MetaLists) : x.value.lists = x := by
  simp [MetaLists.value, MetaData.lists, KeyVector.list, SgProp.list]

theorem length_kvBytes (e : KeyValue) : (kvBytes e).length = 8 := by
  rw [kvBytes, List.length_append, length_leBytes, length_leBytes]

/-- What follows the bytes at an offset. -/
theorem drop_next {buf a rest : Payload} {off n : ℕ} (h : buf.drop off = a ++ rest)
    (hn : a.length = n) : buf.drop (off + n) = rest := by
  rw [← List.drop_drop, h, ← hn, List.drop_left]

theorem kvAt_of_drop {buf rest : Payload} {off : ℕ} {e : KeyValue}
    (he : e.key < 2 ^ 32 ∧ e.value < 2 ^ 32) (h : buf.drop off = kvBytes e ++ rest) :
    kvAt buf off = e := by
  rw [kvBytes, List.append_assoc] at h
  have hkey : leAt 4 buf off = e.key := leAt_of_drop h he.1
  have hvalue : leAt 4 buf (off + 4) = e.value :=
    leAt_of_drop (drop_next h (length_leBytes 4 e.key)) he.2
  rw [kvAt, hkey, hvalue]

theorem kvs_of_drop {buf rest : Payload} {off : ℕ} {l : List KeyValue}
    (hl : ∀ e ∈ l, e.key < 2 ^ 32 ∧ e.value < 2 ^ 32)
    (h : buf.drop off = l.flatMap kvBytes ++ rest) : manyAt (kvAt buf) 8 off l.length = l :=
  manyAt_of_drop (fun e he _ _ => kvAt_of_drop (hl e he)) (fun e _ => length_kvBytes e) h

theorem length_kvs (l : List KeyValue) : (l.flatMap kvBytes).length = 8 * l.length :=
  length_flatMap_enc l fun e _ => length_kvBytes e

theorem length_words (l : List ℕ) : (l.flatMap (leBytes 4)).length = 4 * l.length :=
  length_flatMap_enc l fun v _ => length_leBytes 4 v

theorem MetaLists.length_encode (x : MetaLists) :
    x.encode.length = 16 + 8 * x.gkv.length + 8 * x.ckv.length + 4 * x.props.length := by
  unfold MetaLists.encode
  simp only [List.length_append, length_leBytes, length_kvs, length_words]
  omega

/-- What was encoded is decoded, whatever follows. -/
theorem decoded_encode {x : MetaLists} (hx : x.Words) (hlen : x.encode.length < 2 ^ 32)
    (rest : Payload) :
    decoded (x.encode ++ rest) = x.value ∧ copyEnd (x.encode ++ rest) = x.encode.length := by
  have hlength := x.length_encode
  rw [hlength] at hlen
  generalize hbuf : x.encode ++ rest = buf
  have h0 : buf.drop 0 = leBytes 4 x.gkv.length ++ (x.gkv.flatMap kvBytes ++
      (leBytes 4 x.ckv.length ++ (x.ckv.flatMap kvBytes ++ (leBytes 4 x.propId ++
        (leBytes 4 x.props.length ++ (x.props.flatMap (leBytes 4) ++ rest)))))) := by
    rw [List.drop_zero, ← hbuf, MetaLists.encode]
    simp only [List.append_assoc]
  have hg : gkvCount buf = x.gkv.length := leAt_of_drop h0 (by omega)
  have h1 := drop_next h0 (length_leBytes 4 _)
  have hgkv : manyAt (kvAt buf) 8 4 x.gkv.length = x.gkv := kvs_of_drop hx.gkv h1
  have h2 := drop_next h1 (length_kvs _)
  have hcAt : ckvAt buf = 0 + 4 + 8 * x.gkv.length := by rw [ckvAt, hg, Nat.zero_add]
  rw [← hcAt] at h2
  have hc : ckvCount buf = x.ckv.length := leAt_of_drop h2 (by omega)
  have h3 := drop_next h2 (length_leBytes 4 _)
  have hckv : manyAt (kvAt buf) 8 (ckvAt buf + 4) x.ckv.length = x.ckv := kvs_of_drop hx.ckv h3
  have h4 := drop_next h3 (length_kvs _)
  have hpAt : propAt buf = ckvAt buf + 4 + 8 * x.ckv.length := by rw [propAt, hc]
  rw [← hpAt] at h4
  have hid : leAt 4 buf (propAt buf) = x.propId := leAt_of_drop h4 hx.propId
  have h5 := drop_next h4 (length_leBytes 4 _)
  have hp : propCount buf = x.props.length := leAt_of_drop h5 (by omega)
  have h6 := drop_next h5 (length_leBytes 4 _)
  have hprops : manyAt (leAt 4 buf) 4 (propAt buf + 4 + 4) x.props.length = x.props :=
    manyAt_of_drop (fun v hv _ _ hd => leAt_of_drop hd (hx.props v hv))
      (fun v _ => length_leBytes 4 v) h6
  constructor
  · rw [decoded, hg, hc, hp, hgkv, hckv, hid, hprops]
    rfl
  · rw [copyEnd, hpAt, hcAt, hp, hlength]
    omega

theorem lists_decoded (buf : Payload) : (decoded buf).lists =
    { gkv := manyAt (kvAt buf) 8 4 (gkvCount buf)
      ckv := manyAt (kvAt buf) 8 (ckvAt buf + 4) (ckvCount buf)
      props := manyAt (leAt 4 buf) 4 (propAt buf + 8) (propCount buf)
      propId := leAt 4 buf (propAt buf) } := by
  unfold decoded MetaData.lists KeyVector.list SgProp.list
  simp only [Option.getD_some, MetaLists.mk.injEq, and_true]
  refine ⟨?_, ?_, ?_⟩
  · exact List.take_of_length_le (length_manyAt _).le
  · exact List.take_of_length_le (length_manyAt _).le
  · exact List.take_of_length_le (length_manyAt _).le

theorem drop_eq_kvBytes {buf : Payload} {i : ℕ} (h : i + 8 ≤ buf.length) :
    buf.drop i = kvBytes (kvAt buf i) ++ buf.drop (i + 8) := by
  rw [kvBytes, kvAt, List.append_assoc, ← drop_eq_leBytes (show i + 4 + 4 ≤ buf.length from h),
    ← drop_eq_leBytes (show i + 4 ≤ buf.length by omega)]

theorem kvAt_lt {buf : Payload} {i : ℕ} (h : i + 8 ≤ buf.length) :
    (kvAt buf i).key < 2 ^ 32 ∧ (kvAt buf i).value < 2 ^ 32 :=
  ⟨leAt_lt (show i + 4 ≤ buf.length by omega), leAt_lt (show i + 4 + 4 ≤ buf.length from h)⟩

/-- What is decoded consists of words. -/
theorem words_decoded {buf : Payload} (h : PayloadFits buf) : (decoded buf).lists.Words := by
  obtain ⟨-, hc, hp, hend⟩ := h.bounds
  rw [copyEnd] at hend
  rw [lists_decoded]
  constructor
  · refine forall_mem_manyAt fun i hi => kvAt_lt ?_
    rw [ckvAt] at hc
    omega
  · refine forall_mem_manyAt fun i hi => kvAt_lt ?_
    rw [propAt] at hp
    omega
  · exact leAt_lt (show propAt buf + 4 ≤ buf.length by omega)
  · exact forall_mem_manyAt fun i hi => leAt_lt (show i + 4 ≤ buf.length by omega)

/-- What is decoded was encoded. -/
theorem encode_decoded {buf : Payload} (h : PayloadFits buf) :
    buf = (decoded buf).lists.encode ++ buf.drop (copyEnd buf) := by
  obtain ⟨h4, hc, hp, hend⟩ := h.bounds
  have hkv : ∀ i, i + 8 ≤ buf.length → buf.drop i = kvBytes (kvAt buf i) ++ buf.drop (i + 8) :=
    fun i hi => drop_eq_kvBytes hi
  have hgkv : buf.drop 4 = (manyAt (kvAt buf) 8 4 (gkvCount buf)).flatMap kvBytes ++
      buf.drop (ckvAt buf) := by
    refine drop_eq_flatMap hkv ?_
    rw [ckvAt] at hc
    omega
  have hckv : buf.drop (ckvAt buf + 4) =
      (manyAt (kvAt buf) 8 (ckvAt buf + 4) (ckvCount buf)).flatMap kvBytes ++
        buf.drop (propAt buf) := by
    refine drop_eq_flatMap hkv ?_
    rw [propAt] at hp
    omega
  have hprops : buf.drop (propAt buf + 8) =
      (manyAt (leAt 4 buf) 4 (propAt buf + 8) (propCount buf)).flatMap (leBytes 4) ++
        buf.drop (copyEnd buf) :=
    drop_eq_flatMap (fun i hi => drop_eq_leBytes hi) hend
  rw [lists_decoded, MetaLists.encode]
  simp only [length_manyAt, List.append_assoc]
  rw [← hprops]
  calc buf = leBytes 4 (gkvCount buf) ++ buf.drop 4 :=
        drop_eq_leBytes (show 0 + 4 ≤ buf.length by omega)
    _ = _ := by
        rw [hgkv, drop_eq_leBytes hc, hckv,
          drop_eq_leBytes (show propAt buf + 4 ≤ buf.length by omega),
          drop_eq_leBytes (show propAt buf + 4 + 4 ≤ buf.length from hp)]
        rfl

/-- The layout of the payload and `metadata_copy`: what was encoded is decoded to what it was,
whatever follows it, and a buffer that is decoded within its bounds is the encoding of the decoded
value, up to what follows. -/
theorem metadataCodec_roundTrip :
    (∀ x : MetaLists, x.Words → x.encode.length < 2 ^ 32 →
      ∀ (dest : MetaData) (rest : Payload) (ext : List Answer), Granted 3 ext →
        Ensures noFault (metadataCopy dest (x.encode ++ rest)) ext fun r _ =>
          r.1 = 0 ∧ r.2 = x.value ∧ r.2.lists = x) ∧
    ∀ (dest : MetaData) (buf : Payload) (ext : List Answer),
      Ensures anyFault (metadataCopy dest buf) ext fun r _ => r.1 = 0 →
        r.2.lists.Words ∧ ∃ rest, buf = r.2.lists.encode ++ rest := by
  constructor
  · intro x hx hlen dest rest ext hext
    obtain ⟨hdec, hend⟩ := decoded_encode hx hlen rest
    have hfits : PayloadFits (x.encode ++ rest) := by
      rw [PayloadFits, hend, List.length_append]
      exact Nat.le_add_right _ _
    simp only [granted_succ, granted_zero, and_true] at hext
    obtain ⟨hg, hc, hp⟩ := hext
    refine (metadataCopy_spec dest _ ext).mono (fun _ ho => hfits.not_overruns ext ho) ?_
    rintro r _ ⟨-, rfl⟩
    have hg' : ¬ GkvRefused ext := not_not.mpr hg
    have hlater : ¬ (CkvRefused ext ∨ PropsRefused ext) :=
      not_or.mpr ⟨not_not.mpr hc, not_not.mpr hp⟩
    have hres : copyResult dest (x.encode ++ rest) ext = (0, x.value) := by
      rw [copyResult, if_neg hg', if_neg hlater, hdec]
    rw [hres]
    exact ⟨rfl, rfl, x.lists_value⟩
  · intro dest buf ext
    refine (metadataCopy_spec dest buf ext).mono (fun _ _ => trivial) ?_
    rintro r _ ⟨hno, rfl⟩ hr
    have hne : (-ENOMEM : ℤ) ≠ 0 := by decide
    have hg : ¬ GkvRefused ext := by
      intro hg
      rw [copyResult, if_pos hg] at hr
      exact hne hr
    have hlater : ¬ (CkvRefused ext ∨ PropsRefused ext) := by
      intro hl
      rw [copyResult, if_neg hg, if_pos hl] at hr
      exact hne hr
    rw [not_or] at hlater
    obtain ⟨-, h⟩ := not_overruns_iff.mp hno
    have hfits : PayloadFits buf :=
      (((h.resolve_left hg).2.resolve_left hlater.1).2.resolve_left hlater.2)
    rw [copyResult, if_neg hg, if_neg (not_or.mpr hlater)]
    exact ⟨words_decoded hfits, _, encode_decoded hfits⟩

end Agm
