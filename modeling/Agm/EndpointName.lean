import Agm.DeviceInit

/-! # The grammar of endpoint names

`populate_device_hw_ep_info` takes a name apart by scanning its own buffer again and again, and a
scan that does not match leaves the token or the text of the scan before.  `EndpointName` is the
grammar in terms of the tokens between the `-` of a name; `endpointName_iff` says that the parser
accepts a name with the result `info` exactly if the grammar gives that name this meaning. -/

namespace Agm

/-! ### The grammar -/

def interfaces : List (CStr × HwIntf) :=
  [("SLIM".toList, .slimbus), ("DISPLAY_PORT".toList, .displayPort),
    ("USB_AUDIO".toList, .usbAudio), ("CODEC_DMA".toList, .codecDma), ("MI2S".toList, .mi2s),
    ("TDM".toList, .tdm), ("AUXPCM".toList, .auxpcm), ("PCM_RT_PROXY".toList, .pcmRtProxy)]

def directions : List (CStr × HwEpDir) :=
  [("RX".toList, .audioOutput), ("TX".toList, .audioInput)]

def lpaifTypes : List (CStr × LpaifType) :=
  [("LPAIF".toList, .lpaif), ("LPAIF_RXTX".toList, .lpaifRxtx), ("LPAIF_WSA".toList, .lpaifWsa),
    ("LPAIF_VA".toList, .lpaifVa), ("LPAIF_AXI".toList, .lpaifAxi)]

/-- The indices that an interface knows. -/
def intfIndices : HwIntf → List (CStr × IntfIdx)
  | .codecDma =>
      [("0".toList, .codec 1), ("1".toList, .codec 2), ("2".toList, .codec 3),
        ("3".toList, .codec 4), ("4".toList, .codec 5)]
  | .mi2s | .tdm | .auxpcm =>
      [("PRIMARY".toList, .primary), ("SECONDARY".toList, .secondary),
        ("TERTIARY".toList, .tertiary), ("QUATERNARY".toList, .quaternary),
        ("QUINARY".toList, .quinary)]
  | _ => []

def slimbusDevices : List (CStr × ℕ) := [("DEV1".toList, 0), ("DEV2".toList, 1)]

/-- The tokens after the interface, and the direction and the configuration they denote.  `proxyId`
is what a proxy's third token denotes. -/
inductive EpTokens (proxyId : CStr → ℕ) : HwIntf → List CStr → HwEpDir → HwEpConfig → Prop where
  | cdcDmaI2sTdmPcm {intf l d x dir type idx} (more : List CStr)
      (hl : (l, type) ∈ lpaifTypes) (hd : (d, dir) ∈ directions)
      (hx : (x, idx) ∈ intfIndices intf) :
      EpTokens proxyId intf (l :: d :: x :: more) dir (.cdcDmaI2sTdm type idx)
  | slim {s d dir devId} (more : List CStr)
      (hs : (s, devId) ∈ slimbusDevices) (hd : (d, dir) ∈ directions) :
      EpTokens proxyId .slimbus (s :: d :: more) dir (.slim devId)
  | dpUsb {intf d dir} (more : List CStr)
      (hi : intf = .displayPort ∨ intf = .usbAudio) (hd : (d, dir) ∈ directions) :
      EpTokens proxyId intf (d :: more) dir .unset
  | pcmRtProxy {d dir} (more : List CStr) (hd : (d, dir) ∈ directions) :
      EpTokens proxyId .pcmRtProxy (d :: more) dir (.pcmRtProxy (proxyId (more.headD [])))

/-- `name` has one of the forms, with the meaning `info`.  The third token of a proxy denotes 0
where it is absent or empty. -/
def EndpointName (proxyId : CStr → ℕ) (name : CStr) (info : HwEpInfo) : Prop :=
  ∃ i ts, name.splitOn '-' = i :: ts ∧ (i, info.intf) ∈ interfaces ∧
    EpTokens proxyId info.intf ts info.dir info.epConfig

/-! ### Keywords -/

/-- One keyword of a chain of comparisons. -/
theorem pick_iff {α : Type} {a s : CStr} {x y : α} {o : Option α} {table : List (CStr × α)}
    (ha : ∀ e ∈ table, e.1 ≠ a) (h : o = some y ↔ (s, y) ∈ table) :
    (if s = a then some x else o) = some y ↔ (s, y) ∈ (a, x) :: table := by
  rw [List.mem_cons, Prod.mk.injEq, ← h]
  by_cases hs : s = a
  · rw [if_pos hs, Option.some.injEq]
    refine ⟨fun hx => Or.inl ⟨hs, hx.symm⟩, fun hx => hx.elim (fun e => e.2.symm) fun ho => ?_⟩
    exact absurd hs (ha _ (h.mp ho))
  · rw [if_neg hs]
    exact ⟨Or.inr, fun hx => hx.elim (fun e => absurd e.1 hs) id⟩

theorem pick_none_iff {α : Type} {s : CStr} {y : α} :
    (none : Option α) = some y ↔ (s, y) ∈ ([] : List (CStr × α)) := by
  simp

theorem populateHwEpIntf_iff {s : CStr} {i : HwIntf} :
    populateHwEpIntf s = some i ↔ (s, i) ∈ interfaces := by
  iterate 8 refine pick_iff (by decide) ?_
  exact pick_none_iff

theorem populateHwEpDirection_iff {s : CStr} {d : HwEpDir} :
    populateHwEpDirection s = some d ↔ (s, d) ∈ directions := by
  iterate 2 refine pick_iff (by decide) ?_
  exact pick_none_iff

theorem populateLpaifType_iff {s : CStr} {l : LpaifType} :
    populateLpaifType s = some l ↔ (s, l) ∈ lpaifTypes := by
  iterate 5 refine pick_iff (by decide) ?_
  exact pick_none_iff

theorem populateHwEpIntfIdx_iff {intf : HwIntf} {s : CStr} {x : IntfIdx} :
    populateHwEpIntfIdx intf s = some x ↔ (s, x) ∈ intfIndices intf := by
  cases intf with
  | codecDma | mi2s | tdm | auxpcm =>
      iterate 5 refine pick_iff (by decide) ?_
      exact pick_none_iff
  | slimbus | displayPort | usbAudio | pcmRtProxy => exact pick_none_iff

theorem slimbusDevice_iff {s : CStr} {k : ℕ} :
    slimbusDevice s = some k ↔ (s, k) ∈ slimbusDevices := by
  iterate 2 refine pick_iff (by decide) ?_
  exact pick_none_iff

/-! ### One scan -/

/-- The text before the first `-`. -/
def firstToken (r : CStr) : CStr := r.takeWhile (· ≠ '-')

/-- The text after the first `-`. -/
def afterToken (r : CStr) : CStr := (r.dropWhile (· ≠ '-')).tail

section scan
variable {r s arg value head rest : CStr} {n : ℕ}

/-- A text is one token, or a token, a `-` and the rest. -/
theorem token_cases (r : CStr) :
    ('-' ∉ r ∧ firstToken r = r ∧ afterToken r = []) ∨
      ('-' ∉ firstToken r ∧ r = firstToken r ++ '-' :: afterToken r) := by
  have hfree : '-' ∉ firstToken r := fun h => by simpa using List.mem_takeWhile_imp h
  have happend : firstToken r ++ r.dropWhile (· ≠ '-') = r := List.takeWhile_append_dropWhile
  cases hd : r.dropWhile (· ≠ '-') with
  | nil =>
      rw [hd, List.append_nil] at happend
      exact Or.inl ⟨happend ▸ hfree, happend, by rw [afterToken, hd]; rfl⟩
  | cons c rest =>
      have hc : c = '-' := by
        have h := List.head_dropWhile_not (fun c : Char => decide (c ≠ '-')) (by rw [hd]; simp)
        simp only [hd, List.head_cons] at h
        simpa using h
      refine Or.inr ⟨hfree, ?_⟩
      rw [afterToken, hd, ← hc, List.tail_cons, ← hd, happend]

theorem splitOn_dash (r : CStr) :
    r.splitOn '-' = firstToken r :: if '-' ∈ r then (afterToken r).splitOn '-' else [] := by
  rcases token_cases r with ⟨hr, hfirst, -⟩ | ⟨hfree, heq⟩
  · rw [if_neg hr, hfirst, List.splitOn_eq_singleton hr]
  · have hmem : '-' ∈ r := by rw [heq]; simp
    rw [if_pos hmem]
    conv_lhs => rw [heq]
    exact List.splitOn_append_cons_self_of_not_mem hfree _

theorem notSpace_afterToken (hr : ∀ c ∈ r, isSpace c = false) :
    ∀ c ∈ afterToken r, isSpace c = false := fun c hc =>
  hr c (((List.tail_sublist _).trans (List.dropWhile_sublist _)).subset hc)

theorem scanString_word (hr : ∀ c ∈ r, isSpace c = false) (n : ℕ) :
    scanString n r = r.take n := by
  have htake : r.takeWhile (fun c => !isSpace c) = r :=
    List.takeWhile_eq_self_iff.mpr fun c hc => by rw [hr c hc]; rfl
  have hdrop : r.dropWhile isSpace = r := by
    cases r with
    | nil => rfl
    | cons c r => rw [List.dropWhile_cons, if_neg (by rw [hr c (by simp)]; decide)]
  rw [scanString, hdrop, htake]

theorem scanArgValue_none (h : firstToken s = []) : scanArgValue s arg value = (arg, value) := by
  unfold scanArgValue
  rw [if_pos (by rw [← firstToken, h, List.take_nil])]

theorem scanArgValue_next (hhead : (firstToken s).take 20 = head) (hne : head ≠ [])
    (hdrop : s.drop head.length = '-' :: rest) :
    scanArgValue s arg value =
      (head, if scanString 60 rest = [] then value else scanString 60 rest) := by
  unfold scanArgValue
  rw [← firstToken, hhead, if_neg hne, hdrop]
  rfl

theorem scanArgValue_stay (hhead : (firstToken s).take 20 = head) (hne : head ≠ [])
    (hdrop : ∀ rest, s.drop head.length ≠ '-' :: rest) :
    scanArgValue s arg value = (head, value) := by
  unfold scanArgValue
  rw [← firstToken, hhead, if_neg hne]
  split
  · rename_i rest h
    exact absurd h (hdrop rest)
  · rfl

/-- A scan of a word of which the buffer holds the first `n` characters. -/
theorem scanArgValue_take (hr : ∀ c ∈ r, isSpace c = false) (hn : 21 < n) :
    scanArgValue (r.take n) arg value =
      if firstToken r = [] then (arg, value)
      else if (firstToken r).length ≤ 20 ∧ afterToken r ≠ [] then
        (firstToken r, (afterToken r).take (min 60 (n - (firstToken r).length - 1)))
      else ((firstToken r).take 20, value) := by
  have hfirst : firstToken (r.take n) = (firstToken r).take n := List.take_takeWhile.symm
  have hhead : (firstToken (r.take n)).take 20 = (firstToken r).take 20 := by
    rw [hfirst, List.take_take, Nat.min_eq_left (by omega)]
  by_cases hempty : firstToken r = []
  · rw [if_pos hempty, scanArgValue_none (by rw [hfirst, hempty, List.take_nil])]
  have hne : (firstToken r).take 20 ≠ [] := by
    rw [Ne, List.take_eq_nil_iff]
    exact fun h => h.elim (by decide) hempty
  rw [if_neg hempty]
  by_cases hlen : (firstToken r).length ≤ 20
  · rw [List.take_of_length_le hlen] at hhead hne ⊢
    rcases token_cases r with ⟨-, heq, hafter⟩ | ⟨-, heq⟩
    · rw [if_neg fun h => h.2 hafter]
      refine scanArgValue_stay hhead hne fun rest h => ?_
      rw [heq, List.drop_eq_nil_of_le (List.length_take_le' _ _)] at h
      cases h
    · have hd : r.drop (firstToken r).length = '-' :: afterToken r :=
        (congrArg (List.drop (firstToken r).length) heq).trans List.drop_left
      have hdrop : (r.take n).drop (firstToken r).length =
          '-' :: (afterToken r).take (n - (firstToken r).length - 1) := by
        rw [List.drop_take, hd, ← List.take_succ_cons]
        congr 1
        omega
      have hword : ∀ c ∈ (afterToken r).take (n - (firstToken r).length - 1), isSpace c = false :=
        fun c hc => notSpace_afterToken hr c (List.mem_of_mem_take hc)
      rw [scanArgValue_next hhead hne hdrop, scanString_word hword, List.take_take]
      by_cases hrest : afterToken r = []
      · rw [hrest, List.take_nil, if_pos rfl, if_neg (not_and_of_not_right _ (not_not_intro rfl))]
      · have htake : (afterToken r).take (min 60 (n - (firstToken r).length - 1)) ≠ [] := by
          rw [Ne, List.take_eq_nil_iff]
          exact fun h => h.elim (by omega) hrest
        rw [if_neg htake, if_pos ⟨hlen, hrest⟩]
  · -- the character after the head is still one of the token
    rw [if_neg fun h => hlen h.1]
    refine scanArgValue_stay hhead hne fun rest h => ?_
    have hlt : 20 < (firstToken r).length := by omega
    have htake : ((firstToken r).take 20).length = 20 := by
      rw [List.length_take]; omega
    have hprefix : firstToken r <+: r := List.takeWhile_prefix _
    obtain ⟨tail, htail⟩ := hprefix
    have hmem : '-' ∈ firstToken r := by
      rw [htake, List.drop_take] at h
      have hget := congrArg List.head? h
      rw [List.head?_take, if_neg (by omega), ← htail, List.drop_append_of_le_length (by omega),
        List.head?_append_of_ne_nil _ (by rw [Ne, List.drop_eq_nil_iff]; omega)] at hget
      exact List.mem_of_mem_drop (List.mem_of_mem_head? hget)
    rcases token_cases r with ⟨hfree, heq, -⟩ | ⟨hfree, -⟩
    · exact hfree (heq ▸ hmem)
    · exact hfree hmem

theorem scanArgValue_key (hr : ∀ c ∈ r, isSpace c = false) (hn : 21 < n)
    (hne : firstToken r ≠ []) (hlen : (firstToken r).length < 20) :
    scanArgValue (r.take n) arg value = (firstToken r,
      if afterToken r = [] then value
      else (afterToken r).take (min 60 (n - (firstToken r).length - 1))) := by
  rw [scanArgValue_take hr hn, if_neg hne, List.take_of_length_le hlen.le]
  by_cases hrest : afterToken r = []
  · rw [if_pos hrest, if_neg fun h => h.2 hrest]
  · rw [if_neg hrest, if_pos ⟨hlen.le, hrest⟩]

end scan

/-! ### Scanning keywords -/

/-- Keywords are words that fit into the buffer of a scan. -/
def Keywords {α : Type} (table : List (CStr × α)) : Prop :=
  ∀ e ∈ table, e.1 ≠ [] ∧ e.1.length < 20

/-- No word is in both tables. -/
def Apart {α β : Type} (table : List (CStr × α)) (table' : List (CStr × β)) : Prop :=
  ∀ e ∈ table, ∀ e' ∈ table', e.1 ≠ e'.1

theorem keywords_interfaces : Keywords interfaces := by unfold Keywords; decide

theorem keywords_directions : Keywords directions := by unfold Keywords; decide

theorem keywords_lpaifTypes : Keywords lpaifTypes := by unfold Keywords; decide

theorem keywords_slimbusDevices : Keywords slimbusDevices := by unfold Keywords; decide

theorem keywords_intfIndices (intf : HwIntf) : Keywords (intfIndices intf) := by
  unfold Keywords
  cases intf <;> decide

theorem apart_lpaifTypes_directions : Apart lpaifTypes directions := by unfold Apart; decide

theorem apart_slimbusDevices_directions : Apart slimbusDevices directions := by
  unfold Apart; decide

theorem apart_directions_intfIndices (intf : HwIntf) : Apart directions (intfIndices intf) := by
  unfold Apart
  cases intf <;> decide

section keywords
variable {α β : Type} {A : List (CStr × α)} {B : List (CStr × β)} {r arg value : CStr} {n : ℕ}
  {a : α} {b : β}

/-- What a scan finds is a keyword exactly if the first token is, as long as what it finds there if
it fails is none. -/
theorem scan_mem_iff (hr : ∀ c ∈ r, isSpace c = false) (hn : 21 < n) (hA : Keywords A)
    (harg : ∀ e ∈ A, e.1 ≠ arg) :
    ((scanArgValue (r.take n) arg value).1, a) ∈ A ↔ (firstToken r, a) ∈ A := by
  constructor
  · intro h
    have hlen := (hA _ h).2
    rw [scanArgValue_take hr hn] at h hlen
    by_cases hempty : firstToken r = []
    · rw [if_pos hempty] at h
      exact absurd rfl (harg _ h)
    rw [if_neg hempty] at h hlen
    by_cases hnext : (firstToken r).length ≤ 20 ∧ afterToken r ≠ []
    · rw [if_pos hnext] at h
      exact h
    rw [if_neg hnext] at h hlen
    have hshort : (firstToken r).length < 20 := by
      change ((firstToken r).take 20).length < 20 at hlen
      rw [List.length_take] at hlen
      omega
    rw [List.take_of_length_le hshort.le] at h
    exact h
  · intro h
    have hkey := hA _ h
    rw [scanArgValue_key hr hn hkey.1 hkey.2]
    exact h

/-- The scan after one that found a keyword. -/
theorem scan_scan_mem_iff (hr : ∀ c ∈ r, isSpace c = false) (hn : 42 < n) (hA : Keywords A)
    (hB : Keywords B) (hAB : Apart A B) (ha : (firstToken r, a) ∈ A) :
    let s := scanArgValue (r.take n) arg (r.take n)
    ((scanArgValue s.2 s.1 s.2).1, b) ∈ B ↔
      afterToken r ≠ [] ∧ (firstToken (afterToken r), b) ∈ B := by
  have hkey := hA _ ha
  rw [scanArgValue_key hr (by omega) hkey.1 hkey.2]
  have hstale : ∀ e ∈ B, e.1 ≠ firstToken r := fun e he h => hAB _ ha _ he h.symm
  by_cases hrest : afterToken r = []
  · -- the second scan reads the first token once more
    refine iff_of_false (fun h => ?_) fun h => h.1 hrest
    simp only [if_pos hrest] at h
    rw [scan_mem_iff hr (by omega) hB hstale] at h
    exact hstale _ h rfl
  · simp only [if_neg hrest]
    have hlen : (firstToken r).length < 20 := hkey.2
    rw [scan_mem_iff (notSpace_afterToken hr) (by omega) hB hstale]
    exact ⟨fun h => ⟨hrest, h⟩, And.right⟩

end keywords

/-! ### The parsers -/

section parse
variable {r : CStr} {n : ℕ}

theorem splitOn_of_after (h : afterToken r ≠ []) :
    r.splitOn '-' = firstToken r :: (afterToken r).splitOn '-' := by
  rw [splitOn_dash, if_pos]
  by_contra hr
  rcases token_cases r with ⟨-, -, hnil⟩ | ⟨-, heq⟩
  · exact h hnil
  · exact hr (by rw [heq]; simp)

theorem firstToken_of_splitOn {t : CStr} {ts : List CStr} (h : r.splitOn '-' = t :: ts) :
    firstToken r = t := by
  rw [splitOn_dash] at h
  exact (List.cons.inj h).1

theorem after_of_splitOn {t t' : CStr} {ts : List CStr} (h : r.splitOn '-' = t :: t' :: ts) :
    (afterToken r).splitOn '-' = t' :: ts := by
  rw [splitOn_dash] at h
  have htail := (List.cons.inj h).2
  by_cases hr : '-' ∈ r
  · rwa [if_pos hr] at htail
  · rw [if_neg hr] at htail
    cases htail

theorem after_ne_nil {t : CStr} {ts : List CStr} (h : (afterToken r).splitOn '-' = t :: ts)
    (ht : t ≠ []) : afterToken r ≠ [] := by
  intro hnil
  rw [hnil] at h
  exact ht (List.cons.inj h).1.symm

variable {intf : HwIntf} {dir : HwEpDir} {config : HwEpConfig} {proxyId : CStr → ℕ}

theorem populateCdcDmaI2sTdmPcmEpInfo_iff (hr : ∀ c ∈ r, isSpace c = false) (hn : 60 ≤ n) :
    populateCdcDmaI2sTdmPcmEpInfo intf (r.take n) = some (dir, config) ↔
      ∃ type idx, (firstToken r, type) ∈ lpaifTypes ∧
        (afterToken r ≠ [] ∧ (firstToken (afterToken r), dir) ∈ directions) ∧
        (afterToken (afterToken r) ≠ [] ∧
          (firstToken (afterToken (afterToken r)), idx) ∈ intfIndices intf) ∧
        config = .cdcDmaI2sTdm type idx := by
  let s1 := scanArgValue (r.take n) [] (r.take n)
  let s2 := scanArgValue s1.2 s1.1 s1.2
  let s3 := scanArgValue s2.2 s2.1 s2.2
  have hparse : populateCdcDmaI2sTdmPcmEpInfo intf (r.take n) =
      (populateLpaifType s1.1).bind fun type => (populateHwEpDirection s2.1).bind fun dir =>
        (populateHwEpIntfIdx intf s3.1).bind fun idx =>
          some (dir, .cdcDmaI2sTdm type idx) := rfl
  have htype : ∀ type, (s1.1, type) ∈ lpaifTypes ↔ (firstToken r, type) ∈ lpaifTypes := fun _ =>
    scan_mem_iff hr (by omega) keywords_lpaifTypes fun e he => (keywords_lpaifTypes e he).1
  -- where the tokens before it are keywords, each scan finds the next token
  have hdir : ∀ type, (firstToken r, type) ∈ lpaifTypes → ∀ dir, ((s2.1, dir) ∈ directions ↔
      afterToken r ≠ [] ∧ (firstToken (afterToken r), dir) ∈ directions) := fun _ h _ =>
    scan_scan_mem_iff hr (by omega) keywords_lpaifTypes keywords_directions
      apart_lpaifTypes_directions h
  have hidx : ∀ type dir, (firstToken r, type) ∈ lpaifTypes → afterToken r ≠ [] →
      (firstToken (afterToken r), dir) ∈ directions → ∀ idx, ((s3.1, idx) ∈ intfIndices intf ↔
        afterToken (afterToken r) ≠ [] ∧
          (firstToken (afterToken (afterToken r)), idx) ∈ intfIndices intf) := by
    intro type dir ht hrest hd idx
    have hkey := keywords_lpaifTypes _ ht
    have hshort : (firstToken r).length ≤ 10 := by
      have h : ∀ e ∈ lpaifTypes, e.1.length ≤ 10 := by decide
      exact h _ ht
    have hs1 : s1 = (firstToken r, if afterToken r = [] then r.take n
        else (afterToken r).take (min 60 (n - (firstToken r).length - 1))) :=
      scanArgValue_key hr (by omega) hkey.1 hkey.2
    rw [if_neg hrest] at hs1
    simp only [s3, s2, hs1]
    exact scan_scan_mem_iff (notSpace_afterToken hr) (by omega) keywords_directions
      (keywords_intfIndices intf) (apart_directions_intfIndices intf) hd
  simp only [hparse, Option.bind_eq_some_iff, Option.some.injEq, Prod.mk.injEq,
    populateLpaifType_iff, populateHwEpDirection_iff, populateHwEpIntfIdx_iff, htype]
  constructor
  · rintro ⟨type, ht, dir, hd, idx, hx, rfl, rfl⟩
    rw [hdir type ht] at hd
    rw [hidx type dir ht hd.1 hd.2] at hx
    exact ⟨type, idx, ht, hd, hx, rfl⟩
  · rintro ⟨type, idx, ht, hd, hx, rfl⟩
    exact ⟨type, ht, dir, (hdir type ht dir).mpr hd, idx, (hidx type dir ht hd.1 hd.2 idx).mpr hx,
      rfl, rfl⟩

theorem populateSlimDpUsbEpInfo_slim_iff (hr : ∀ c ∈ r, isSpace c = false) (hn : 60 ≤ n) :
    populateSlimDpUsbEpInfo .slimbus (r.take n) = some (dir, config) ↔
      ∃ devId, (firstToken r, devId) ∈ slimbusDevices ∧
        (afterToken r ≠ [] ∧ (firstToken (afterToken r), dir) ∈ directions) ∧
        config = .slim devId := by
  let s1 := scanArgValue (r.take n) [] (r.take n)
  let s2 := scanArgValue s1.2 s1.1 s1.2
  have hparse : populateSlimDpUsbEpInfo .slimbus (r.take n) =
      (slimbusDevice s1.1).bind fun devId => (populateHwEpDirection s2.1).bind fun dir =>
        some (dir, .slim devId) := rfl
  have hdev : ∀ devId, (s1.1, devId) ∈ slimbusDevices ↔ (firstToken r, devId) ∈ slimbusDevices :=
    fun _ => scan_mem_iff hr (by omega) keywords_slimbusDevices
      fun e he => (keywords_slimbusDevices e he).1
  have hdir : ∀ devId, (firstToken r, devId) ∈ slimbusDevices →
      ((s2.1, dir) ∈ directions ↔
        afterToken r ≠ [] ∧ (firstToken (afterToken r), dir) ∈ directions) := fun _ h =>
    scan_scan_mem_iff hr (by omega) keywords_slimbusDevices keywords_directions
      apart_slimbusDevices_directions h
  simp only [hparse, Option.bind_eq_some_iff, Option.some.injEq, Prod.mk.injEq,
    slimbusDevice_iff, populateHwEpDirection_iff, hdev]
  constructor
  · rintro ⟨devId, hs, _, hd, rfl, rfl⟩
    exact ⟨devId, hs, (hdir devId hs).mp hd, rfl⟩
  · rintro ⟨devId, hs, hd, rfl⟩
    exact ⟨devId, hs, dir, (hdir devId hs).mpr hd, rfl, rfl⟩

theorem populateSlimDpUsbEpInfo_dpUsb_iff (hi : intf ≠ .slimbus)
    (hr : ∀ c ∈ r, isSpace c = false) (hn : 60 ≤ n) :
    populateSlimDpUsbEpInfo intf (r.take n) = some (dir, config) ↔
      (firstToken r, dir) ∈ directions ∧ config = .unset := by
  let s1 := scanArgValue (r.take n) [] (r.take n)
  have hparse : populateSlimDpUsbEpInfo intf (r.take n) =
      (populateHwEpDirection s1.1).bind fun dir => some (dir, .unset) := by
    rw [populateSlimDpUsbEpInfo, if_neg hi]
    rfl
  have hdir : ∀ dir, (s1.1, dir) ∈ directions ↔ (firstToken r, dir) ∈ directions := fun _ =>
    scan_mem_iff hr (by omega) keywords_directions fun e he => (keywords_directions e he).1
  simp only [hparse, Option.bind_eq_some_iff, Option.some.injEq, Prod.mk.injEq,
    populateHwEpDirection_iff, hdir]
  constructor
  · rintro ⟨_, hd, rfl, rfl⟩
    exact ⟨hd, rfl⟩
  · rintro ⟨hd, rfl⟩
    exact ⟨dir, hd, rfl, rfl⟩

/-- What the second scan of a proxy's text finds denotes what the first characters of its next
token do. -/
theorem proxyId_eq (hr : ∀ c ∈ r, isSpace c = false) (hn : 60 ≤ n)
    (hd : (firstToken r, dir) ∈ directions) :
    let s := scanArgValue (r.take n) [] (r.take n)
    atoi (scanArgValue s.2 s.1 s.2).1 = atoi ((firstToken (afterToken r)).take 20) := by
  have hkey := keywords_directions _ hd
  have hshort : (firstToken r).length < 20 := hkey.2
  have hzero : atoi (firstToken r) = 0 := by
    have h : ∀ e ∈ directions, atoi e.1 = 0 := by decide
    exact h _ hd
  simp only [scanArgValue_key hr (by omega : 21 < n) hkey.1 hkey.2]
  by_cases hrest : afterToken r = []
  · rw [if_pos hrest, scanArgValue_key hr (by omega) hkey.1 hkey.2, hzero, hrest]
    rfl
  · rw [if_neg hrest, scanArgValue_take (notSpace_afterToken hr) (by omega)]
    by_cases hempty : firstToken (afterToken r) = []
    · rw [if_pos hempty, hempty, hzero]
      rfl
    rw [if_neg hempty]
    by_cases hnext : (firstToken (afterToken r)).length ≤ 20 ∧ afterToken (afterToken r) ≠ []
    · rw [if_pos hnext, List.take_of_length_le hnext.1]
    · rw [if_neg hnext]

theorem populatePcmRtProxyEpInfo_iff (hr : ∀ c ∈ r, isSpace c = false) (hn : 60 ≤ n) :
    populatePcmRtProxyEpInfo (r.take n) = some (dir, config) ↔
      (firstToken r, dir) ∈ directions ∧
        config = .pcmRtProxy (toUnsigned (atoi ((firstToken (afterToken r)).take 20))) := by
  let s1 := scanArgValue (r.take n) [] (r.take n)
  let s2 := scanArgValue s1.2 s1.1 s1.2
  have hparse : populatePcmRtProxyEpInfo (r.take n) =
      (populateHwEpDirection s1.1).bind fun dir =>
        some (dir, .pcmRtProxy (toUnsigned (atoi s2.1))) := rfl
  have hdir : ∀ dir, (s1.1, dir) ∈ directions ↔ (firstToken r, dir) ∈ directions := fun _ =>
    scan_mem_iff hr (by omega) keywords_directions fun e he => (keywords_directions e he).1
  have hid : (firstToken r, dir) ∈ directions →
      atoi s2.1 = atoi ((firstToken (afterToken r)).take 20) := fun hd => proxyId_eq hr hn hd
  simp only [hparse, Option.bind_eq_some_iff, Option.some.injEq, Prod.mk.injEq,
    populateHwEpDirection_iff, hdir]
  constructor
  · rintro ⟨_, hd, rfl, rfl⟩
    exact ⟨hd, by rw [hid hd]⟩
  · rintro ⟨hd, rfl⟩
    exact ⟨dir, hd, rfl, by rw [hid hd]⟩

/-! ### The tokens -/

theorem thirdToken_eq {t : CStr} {ts : List CStr} (h : r.splitOn '-' = t :: ts) :
    ts.headD [] = firstToken (afterToken r) := by
  rw [splitOn_dash] at h
  rw [← (List.cons.inj h).2]
  rcases token_cases r with ⟨hr, -, hnil⟩ | ⟨-, heq⟩
  · rw [if_neg hr, hnil]
    rfl
  · rw [if_pos (by rw [heq]; simp), splitOn_dash]
    rfl

theorem epTokens_cdc_iff (hi : intf = .codecDma ∨ intf = .mi2s ∨ intf = .tdm ∨ intf = .auxpcm) :
    EpTokens proxyId intf (r.splitOn '-') dir config ↔
      ∃ type idx, (firstToken r, type) ∈ lpaifTypes ∧
        (afterToken r ≠ [] ∧ (firstToken (afterToken r), dir) ∈ directions) ∧
        (afterToken (afterToken r) ≠ [] ∧
          (firstToken (afterToken (afterToken r)), idx) ∈ intfIndices intf) ∧
        config = .cdcDmaI2sTdm type idx := by
  constructor
  · intro h
    generalize hts : r.splitOn '-' = ts at h
    cases h with
    | cdcDmaI2sTdmPcm more hl hd hx =>
        have hts' := after_of_splitOn hts
        have hts'' := after_of_splitOn hts'
        have hne := after_ne_nil hts' (keywords_directions _ hd).1
        have hne' := after_ne_nil hts'' (keywords_intfIndices intf _ hx).1
        rw [← firstToken_of_splitOn hts] at hl
        rw [← firstToken_of_splitOn hts'] at hd
        rw [← firstToken_of_splitOn hts''] at hx
        exact ⟨_, _, hl, ⟨hne, hd⟩, ⟨hne', hx⟩, rfl⟩
    | slim | pcmRtProxy => simp at hi
    | dpUsb more hi' => rcases hi' with rfl | rfl <;> simp at hi
  · rintro ⟨type, idx, hl, ⟨hne, hd⟩, ⟨hne', hx⟩, rfl⟩
    rw [splitOn_of_after hne, splitOn_of_after hne', splitOn_dash]
    exact .cdcDmaI2sTdmPcm _ hl hd hx

theorem epTokens_slim_iff :
    EpTokens proxyId .slimbus (r.splitOn '-') dir config ↔
      ∃ devId, (firstToken r, devId) ∈ slimbusDevices ∧
        (afterToken r ≠ [] ∧ (firstToken (afterToken r), dir) ∈ directions) ∧
        config = .slim devId := by
  constructor
  · intro h
    generalize hts : r.splitOn '-' = ts at h
    cases h with
    | cdcDmaI2sTdmPcm more hl hd hx => exact absurd hx List.not_mem_nil
    | slim more hs hd =>
        have hts' := after_of_splitOn hts
        have hne := after_ne_nil hts' (keywords_directions _ hd).1
        rw [← firstToken_of_splitOn hts] at hs
        rw [← firstToken_of_splitOn hts'] at hd
        exact ⟨_, hs, ⟨hne, hd⟩, rfl⟩
    | dpUsb more hi => simp at hi
  · rintro ⟨devId, hs, ⟨hne, hd⟩, rfl⟩
    rw [splitOn_of_after hne, splitOn_dash]
    exact .slim _ hs hd

theorem epTokens_dpUsb_iff (hi : intf = .displayPort ∨ intf = .usbAudio) :
    EpTokens proxyId intf (r.splitOn '-') dir config ↔
      (firstToken r, dir) ∈ directions ∧ config = .unset := by
  constructor
  · intro h
    generalize hts : r.splitOn '-' = ts at h
    cases h with
    | cdcDmaI2sTdmPcm more hl hd hx =>
        rcases hi with rfl | rfl <;> exact absurd hx List.not_mem_nil
    | slim | pcmRtProxy => simp at hi
    | dpUsb more hi' hd =>
        rw [← firstToken_of_splitOn hts] at hd
        exact ⟨hd, rfl⟩
  · rintro ⟨hd, rfl⟩
    rw [splitOn_dash]
    exact .dpUsb _ hi hd

theorem epTokens_proxy_iff :
    EpTokens proxyId .pcmRtProxy (r.splitOn '-') dir config ↔
      (firstToken r, dir) ∈ directions ∧
        config = .pcmRtProxy (proxyId (firstToken (afterToken r))) := by
  constructor
  · intro h
    generalize hts : r.splitOn '-' = ts at h
    cases h with
    | cdcDmaI2sTdmPcm more hl hd hx => exact absurd hx List.not_mem_nil
    | dpUsb more hi => simp at hi
    | pcmRtProxy more hd =>
        rw [← firstToken_of_splitOn hts] at hd
        exact ⟨hd, by rw [thirdToken_eq hts]⟩
  · rintro ⟨hd, rfl⟩
    rw [← thirdToken_eq (splitOn_dash r), splitOn_dash]
    exact .pcmRtProxy _ hd

/-- The parser of an interface's text. -/
def populateEpInfo (intf : HwIntf) (value : CStr) : Option (HwEpDir × HwEpConfig) :=
  match intf with
  | .codecDma | .mi2s | .tdm | .auxpcm => populateCdcDmaI2sTdmPcmEpInfo intf value
  | .slimbus | .displayPort | .usbAudio => populateSlimDpUsbEpInfo intf value
  | .pcmRtProxy => populatePcmRtProxyEpInfo value

/-- What the third token of a proxy denotes: no more than 20 of its characters are read. -/
def scannedProxyId (t : CStr) : ℕ := toUnsigned (atoi (t.take 20))

theorem populateEpInfo_iff (hr : ∀ c ∈ r, isSpace c = false) (hn : 60 ≤ n) :
    populateEpInfo intf (r.take n) = some (dir, config) ↔
      EpTokens scannedProxyId intf (r.splitOn '-') dir config := by
  cases intf with
  | codecDma | mi2s | tdm | auxpcm =>
      rw [epTokens_cdc_iff (by simp)]
      exact populateCdcDmaI2sTdmPcmEpInfo_iff hr hn
  | slimbus =>
      rw [epTokens_slim_iff]
      exact populateSlimDpUsbEpInfo_slim_iff hr hn
  | displayPort | usbAudio =>
      rw [epTokens_dpUsb_iff (by simp)]
      exact populateSlimDpUsbEpInfo_dpUsb_iff (by simp) hr hn
  | pcmRtProxy =>
      rw [epTokens_proxy_iff]
      exact populatePcmRtProxyEpInfo_iff hr hn

theorem populateDeviceHwEpInfo_eq (name : CStr) :
    populateDeviceHwEpInfo name =
      (populateHwEpIntf (scanArgValue name [] []).1).bind fun intf =>
        (populateEpInfo intf (scanArgValue name [] []).2).bind fun p =>
          some ⟨intf, p.1, p.2⟩ := by
  refine congrArg (Option.bind _) (funext fun intf => ?_)
  cases intf <;> rfl

theorem EpTokens.ne_nil {ts : List CStr} (h : EpTokens proxyId intf ts dir config) : ts ≠ [] := by
  rintro rfl
  cases h

theorem EpTokens.head_ne_nil {t : CStr} {ts : List CStr}
    (h : EpTokens proxyId intf (t :: ts) dir config) : t ≠ [] := by
  cases h with
  | cdcDmaI2sTdmPcm more hl => exact (keywords_lpaifTypes _ hl).1
  | slim more hs => exact (keywords_slimbusDevices _ hs).1
  | dpUsb more hi hd => exact (keywords_directions _ hd).1
  | pcmRtProxy more hd => exact (keywords_directions _ hd).1

/-- A name is accepted, and denotes `info`, exactly if it has one of the forms of the grammar with
this meaning.  Its length does not matter. -/
theorem endpointName_iff {name : CStr} (hname : ∀ c ∈ name, isSpace c = false) (info : HwEpInfo) :
    populateDeviceHwEpInfo name = some info ↔ EndpointName scannedProxyId name info := by
  have htake : name.take (name.length + 100) = name := List.take_of_length_le (by omega)
  have hintf : ∀ intf, ((scanArgValue name [] []).1, intf) ∈ interfaces ↔
      (firstToken name, intf) ∈ interfaces := fun intf => by
    have h := @scan_mem_iff _ interfaces name [] [] (name.length + 100) intf hname (by omega)
      keywords_interfaces fun e he => (keywords_interfaces e he).1
    rwa [htake] at h
  -- the text after the interface, of which the buffer holds 60 characters
  have hvalue : ∀ intf, (firstToken name, intf) ∈ interfaces →
      (scanArgValue name [] []).2 = (afterToken name).take 60 := by
    intro intf h
    have hkey := keywords_interfaces _ h
    have hshort : (firstToken name).length < 20 := hkey.2
    have hscan := @scanArgValue_key name [] [] (name.length + 100) hname (by omega) hkey.1 hkey.2
    rw [htake] at hscan
    rw [hscan]
    by_cases hrest : afterToken name = []
    · rw [if_pos hrest, hrest]
      rfl
    · rw [if_neg hrest, Nat.min_eq_left (by omega)]
  have htext : ∀ intf dir config,
      populateEpInfo intf ((afterToken name).take 60) = some (dir, config) ↔
        EpTokens scannedProxyId intf ((afterToken name).splitOn '-') dir config := fun _ _ _ =>
    populateEpInfo_iff (notSpace_afterToken hname) le_rfl
  simp only [populateDeviceHwEpInfo_eq, Option.bind_eq_some_iff, Option.some.injEq,
    populateHwEpIntf_iff, hintf]
  constructor
  · rintro ⟨intf, hi, ⟨dir, config⟩, hp, rfl⟩
    rw [hvalue intf hi, htext] at hp
    have hne : afterToken name ≠ [] := fun hnil => by
      rw [hnil] at hp
      exact hp.head_ne_nil rfl
    exact ⟨firstToken name, _, splitOn_of_after hne, hi, hp⟩
  · rintro ⟨i, ts, hts, hi, hp⟩
    rw [← firstToken_of_splitOn hts] at hi
    refine ⟨info.intf, hi, (info.dir, info.epConfig), ?_, rfl⟩
    rw [hvalue _ hi, htext]
    cases ts with
    | nil => exact absurd rfl hp.ne_nil
    | cons t ts =>
        rw [after_of_splitOn hts]
        exact hp

end parse

/-- A shipped name, with some more text. -/
theorem endpointName_iff_quinary :
    populateDeviceHwEpInfo "TDM-LPAIF_VA-TX-QUINARY-2-".toList =
      some ⟨.tdm, .audioInput, .cdcDmaI2sTdm .lpaifVa .quinary⟩ := by
  refine (endpointName_iff (by simp [isSpace]) _).mpr
    ⟨"TDM".toList, ["LPAIF_VA", "TX", "QUINARY", "2", ""].map String.toList, by decide,
      by decide, ?_⟩
  exact .cdcDmaI2sTdmPcm _ (by decide) (by decide) (by decide)

/-- A proxy whose third token has 21 characters: the last one is not read. -/
theorem endpointName_longToken :
    ¬ ∃ proxyId : CStr → ℕ,
      (∀ t : CStr, (∀ c ∈ t, c.isDigit = true) → digitsValue t < 2 ^ 31 →
        proxyId t = digitsValue t) ∧
      ∀ name : CStr, name.length ≤ 79 → (∀ c ∈ name, isSpace c = false) → ∀ info,
        populateDeviceHwEpInfo name = some info ↔ EndpointName proxyId name info := by
  rintro ⟨proxyId, hid, h⟩
  have hfive : proxyId "000000000000000000005".toList = 5 :=
    hid _ (by simp) (by decide)
  have hi : ("PCM_RT_PROXY".toList, HwIntf.pcmRtProxy) ∈ interfaces := by decide
  have hd : ("RX".toList, HwEpDir.audioOutput) ∈ directions := by decide
  have hname : EndpointName proxyId "PCM_RT_PROXY-RX-000000000000000000005".toList
      ⟨.pcmRtProxy, .audioOutput, .pcmRtProxy (proxyId "000000000000000000005".toList)⟩ :=
    ⟨"PCM_RT_PROXY".toList, ["RX", "000000000000000000005"].map String.toList, by decide,
      hi, .pcmRtProxy _ hd⟩
  have hparsed := (h _ (by decide) (by simp [isSpace]) _).mpr hname
  rw [hfive] at hparsed
  exact absurd hparsed (by decide)

end Agm
