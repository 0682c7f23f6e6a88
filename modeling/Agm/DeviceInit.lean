import Agm.SessionApi
import Agm.SndParser

/-! # Finding the devices (`device_init`)

`parse_snd_card` reads `/proc/asound/pcm` twice: once to count its lines, which gives the size of
`device_list`, and once to fill the list with a device for each line whose name
`populate_device_hw_ep_info` accepts.  When there is none, `device_init` tries again later, and the
count goes on from where it was.

* **Strings** are as in the parser of the card definitions.
* **The file** is text; what it holds at each attempt, and which allocations fail there, is an
  `Attempt`.  It does not change between the two readings of an attempt.
* **Faults.**  A store outside of `device_list` has no outcome (`none`).  A name longer than its
  array is kept, and `Globals.names` records every string that was stored into a `name[]`.

`SndLine` is a line as the kernel prints it, and `Enumerates` says that `device_list` is that of the
lines.  `deviceInit_enumerates_iff` says when it is. -/

namespace Agm

/-! ### Constants and data -/

def MAX_RETRY : ℕ := 20
def MAX_BUF_SIZE : ℕ := 2048
def MAX_DEV_NAME_LEN : ℕ := 80

/-- The values of `hw_ep_info.intf` that a name can ask for. -/
inductive HwIntf where
  | slimbus | displayPort | usbAudio | codecDma | mi2s | tdm | auxpcm | pcmRtProxy
deriving DecidableEq, Repr

inductive LpaifType where
  | lpaif | lpaifRxtx | lpaifWsa | lpaifVa | lpaifAxi
deriving DecidableEq, Repr

/-- `intf_idx`: one of `CODEC_RX0` and its successors, or of `PCM_INTF_IDX_*`. -/
inductive IntfIdx where
  | codec (n : ℕ)
  | primary | secondary | tertiary | quaternary | quinary
deriving DecidableEq, Repr

/-- `union hw_ep_config`. -/
inductive HwEpConfig where
  | unset
  | cdcDmaI2sTdm (lpaifType : LpaifType) (intfIdx : IntfIdx)
  | slim (devId : ℕ)
  | pcmRtProxy (devId : ℕ)
deriving DecidableEq, Repr

/-- `hw_ep_info_t`. -/
structure HwEpInfo where
  intf : HwIntf
  dir : HwEpDir
  epConfig : HwEpConfig
deriving DecidableEq, Repr

inductive PcmFlags where
  | pcmOut | pcmIn
deriving DecidableEq, Repr

/-- The fields of `struct device_obj` that the enumeration fills; the default value is the zeroed
structure. -/
structure DeviceInfo where
  cardId : ℕ := 0
  pcmId : ℕ := 0
  name : CStr := []
  pcmFlags : PcmFlags := .pcmIn
  hwEpInfo : Option HwEpInfo := none
deriving DecidableEq, Repr

/-! ### The C library -/

/-- `fgets` again and again: every piece ends with a newline, or has `cap` characters, or ends with
the file.  The first argument is what the current piece has so far. -/
def pieces (cap : ℕ) : CStr → CStr → List CStr
  | acc, [] => if acc = [] then [] else [acc]
  | acc, c :: s =>
      if c = '\n' ∨ acc.length + 1 = cap then (acc ++ [c]) :: pieces cap [] s
      else pieces cap (acc ++ [c]) s

/-- The digits of a `%u` of some width, after its sign. -/
def scanDigits (width : ℕ) (s : CStr) : Option (ℕ × CStr) :=
  let digits := (s.takeWhile Char.isDigit).take width
  if digits = [] then none else some (digitsValue digits, s.drop digits.length)

/-- `%u` with a width; a sign counts towards the width. -/
def scanUnsigned (width : ℕ) (s : CStr) : Option (ℕ × CStr) :=
  match s.dropWhile isSpace with
  | '-' :: s => (scanDigits (width - 1) s).map fun (n, s) => (toUnsigned (-n), s)
  | '+' :: s => scanDigits (width - 1) s
  | s => scanDigits width s

/-- A character of the format that stands for itself. -/
def scanChar (c : Char) : CStr → Option CStr
  | [] => none
  | d :: s => if d = c then some s else none

/-- `%s` with a width. -/
def scanString (width : ℕ) (s : CStr) : CStr :=
  ((s.dropWhile isSpace).takeWhile fun c => !isSpace c).take width

/-- `sscanf(s, "%20[^-]-%60s", arg, value)`: the new `arg` and `value`.  What does not match leaves
them as they were.  `s` may be the old `value`, since a character is read before it is
overwritten. -/
def scanArgValue (s arg value : CStr) : CStr × CStr :=
  let head := (s.takeWhile (· ≠ '-')).take 20
  if head = [] then (arg, value)
  else
    match s.drop head.length with
    | '-' :: rest =>
        let tail := scanString 60 rest
        (head, if tail = [] then value else tail)
    | _ => (head, value)

/-! ### `device_hw_ep.c`

`none` is `-EINVAL`, the only error. -/

def populateHwEpIntf (intf : CStr) : Option HwIntf :=
  if intf = "SLIM".toList then some .slimbus
  else if intf = "DISPLAY_PORT".toList then some .displayPort
  else if intf = "USB_AUDIO".toList then some .usbAudio
  else if intf = "CODEC_DMA".toList then some .codecDma
  else if intf = "MI2S".toList then some .mi2s
  else if intf = "TDM".toList then some .tdm
  else if intf = "AUXPCM".toList then some .auxpcm
  else if intf = "PCM_RT_PROXY".toList then some .pcmRtProxy
  else none

def populateHwEpDirection (dir : CStr) : Option HwEpDir :=
  if dir = "RX".toList then some .audioOutput
  else if dir = "TX".toList then some .audioInput
  else none

def populateHwEpIntfIdx (intf : HwIntf) (intfIdx : CStr) : Option IntfIdx :=
  match intf with
  | .codecDma =>
      if intfIdx = "0".toList then some (.codec 1)
      else if intfIdx = "1".toList then some (.codec 2)
      else if intfIdx = "2".toList then some (.codec 3)
      else if intfIdx = "3".toList then some (.codec 4)
      else if intfIdx = "4".toList then some (.codec 5)
      else none
  | .mi2s | .tdm | .auxpcm =>
      if intfIdx = "PRIMARY".toList then some .primary
      else if intfIdx = "SECONDARY".toList then some .secondary
      else if intfIdx = "TERTIARY".toList then some .tertiary
      else if intfIdx = "QUATERNARY".toList then some .quaternary
      else if intfIdx = "QUINARY".toList then some .quinary
      else none
  | _ => none

def populateLpaifType (lpaifType : CStr) : Option LpaifType :=
  if lpaifType = "LPAIF".toList then some .lpaif
  else if lpaifType = "LPAIF_RXTX".toList then some .lpaifRxtx
  else if lpaifType = "LPAIF_WSA".toList then some .lpaifWsa
  else if lpaifType = "LPAIF_VA".toList then some .lpaifVa
  else if lpaifType = "LPAIF_AXI".toList then some .lpaifAxi
  else none

def populatePcmRtProxyEpInfo (value : CStr) : Option (HwEpDir × HwEpConfig) := do
  let (arg, value) := scanArgValue value [] value
  let dir ← populateHwEpDirection arg
  let (arg, _) := scanArgValue value arg value
  pure (dir, .pcmRtProxy (toUnsigned (atoi arg)))

/-- `dev_id` of a slimbus device. -/
def slimbusDevice (devId : CStr) : Option ℕ :=
  if devId = "DEV1".toList then some 0
  else if devId = "DEV2".toList then some 1
  else none

def populateSlimDpUsbEpInfo (intf : HwIntf) (value : CStr) : Option (HwEpDir × HwEpConfig) := do
  if intf = .slimbus then
    let (arg, value) := scanArgValue value [] value
    let devId ← slimbusDevice arg
    let (arg, _) := scanArgValue value arg value
    let dir ← populateHwEpDirection arg
    pure (dir, .slim devId)
  else
    let (arg, _) := scanArgValue value [] value
    let dir ← populateHwEpDirection arg
    pure (dir, .unset)

def populateCdcDmaI2sTdmPcmEpInfo (intf : HwIntf) (value : CStr) :
    Option (HwEpDir × HwEpConfig) := do
  let (lpaifType, value) := scanArgValue value [] value
  let (dir, value) := scanArgValue value lpaifType value
  let (intfIdx, _) := scanArgValue value dir value
  let lpaifType ← populateLpaifType lpaifType
  let dir ← populateHwEpDirection dir
  let intfIdx ← populateHwEpIntfIdx intf intfIdx
  pure (dir, .cdcDmaI2sTdm lpaifType intfIdx)

/-- `populate_device_hw_ep_info`, which reads nothing of the device but its name. -/
def populateDeviceHwEpInfo (name : CStr) : Option HwEpInfo := do
  let (arg, value) := scanArgValue name [] []
  let intf ← populateHwEpIntf arg
  let (dir, epConfig) ←
    match intf with
    | .codecDma | .mi2s | .tdm | .auxpcm => populateCdcDmaI2sTdmPcmEpInfo intf value
    | .slimbus | .displayPort | .usbAudio => populateSlimDpUsbEpInfo intf value
    | .pcmRtProxy => populatePcmRtProxyEpInfo value
  pure ⟨intf, dir, epConfig⟩

/-! ### `device.c` -/

/-- `sscanf(buffer, "%02u-%02u: %80s", …)` into the zeroed device. -/
def scanDevice (buffer : CStr) : DeviceInfo :=
  match scanUnsigned 2 buffer with
  | none => {}
  | some (cardId, s) =>
      match (scanChar '-' s).bind (scanUnsigned 2) with
      | none => { cardId := cardId }
      | some (pcmId, s) =>
          match scanChar ':' s with
          | none => { cardId := cardId, pcmId := pcmId }
          | some s => { cardId := cardId, pcmId := pcmId, name := scanString 80 s }

/-- `pcm_flags` for a text. -/
def pcmFlagsOf (s : CStr) : PcmFlags :=
  if strstr s "playback".toList then .pcmOut else .pcmIn

/-- The device of a buffer, if its name is accepted. -/
def deviceOf (buffer : CStr) : Option DeviceInfo :=
  (populateDeviceHwEpInfo (scanDevice buffer).name).map fun info =>
    { scanDevice buffer with pcmFlags := pcmFlagsOf buffer, hwEpInfo := some info }

/-- The file at one call of `parse_snd_card` (`none` if it cannot be opened), and the allocations
that succeed there: that of `device_list`, and that of a device for the `i`-th buffer. -/
structure Attempt where
  file : Option CStr
  listMem : Bool
  deviceMem : ℕ → Bool

/-- The globals of `device.c`, and the strings stored into a `name[]` so far. -/
structure Globals where
  numAudioIntfs : ℕ := 0
  deviceList : List (Option DeviceInfo) := []
  names : List CStr := []
deriving DecidableEq, Repr

/-- The loop that fills `device_list`, from the `i`-th buffer on.  It stops early, with `false`,
where a device cannot be allocated. -/
def fillDevices (deviceMem : ℕ → Bool) :
    ℕ → List CStr → ℕ → Globals → Option (Bool × ℕ × Globals)
  | _, [], count, g => some (true, count, g)
  | i, buffer :: rest, count, g =>
      if deviceMem i then
        let g := { g with names := g.names ++ [(scanDevice buffer).name] }
        match deviceOf buffer with
        | none => fillDevices deviceMem (i + 1) rest count g
        | some dev =>
            if count < g.deviceList.length then
              fillDevices deviceMem (i + 1) rest ((count + 1) % 2 ^ 32)
                { g with deviceList := g.deviceList.set count (some dev) }
            else none
      else some (false, count, g)

/-- The pieces in which `fgets` hands out a file. -/
def buffers (file : CStr) : List CStr := pieces (MAX_BUF_SIZE - 2) [] file

def parseSndCard (a : Attempt) (g : Globals) : Option (ℤ × Globals) :=
  match a.file with
  | none => some (-ENODEV, g)
  | some file => do
      let g := { g with numAudioIntfs := (g.numAudioIntfs + (buffers file).length) % 2 ^ 32 }
      if a.listMem then
        let (complete, count, g) ← fillDevices a.deviceMem 0 (buffers file) 0
          { g with deviceList := List.replicate g.numAudioIntfs none }
        if !complete then pure (-ENOMEM, { g with deviceList := [] })
        else if count = 0 then pure (-EAGAIN, { g with deviceList := [] })
        else pure (0, { g with numAudioIntfs := count })
      else pure (-ENOMEM, { g with deviceList := [] })

/-- The loop of `device_init`; `i` counts the attempts made. -/
def deviceInitLoop (attempts : ℕ → Attempt) : ℕ → ℕ → Globals → Option (ℤ × Globals)
  | 0, _, g => some (-EAGAIN, g)
  | retries + 1, i, g => do
      let (ret, g) ← parseSndCard (attempts i) g
      if ret = -EAGAIN then deviceInitLoop attempts retries (i + 1) g else pure (ret, g)

def deviceInit (attempts : ℕ → Attempt) (g : Globals) : Option (ℤ × Globals) :=
  deviceInitLoop attempts MAX_RETRY 0 g

/-! ### Lines -/

/-- A number printed with at least two digits. -/
def printed (n : ℕ) : CStr := if n < 10 then '0' :: Nat.toDigits 10 n else Nat.toDigits 10 n

/-- A line of the file.  The two numbers are of type `int`. -/
structure SndLine where
  card : ℕ
  device : ℕ
  idname : CStr
  rest : CStr
  card_lt : card < 2 ^ 31
  device_lt : device < 2 ^ 31
  idname_word : ∀ c ∈ idname, isSpace c = false
  rest_line : '\n' ∉ rest

namespace SndLine

/-- What the line reads. -/
def text (l : SndLine) : CStr :=
  printed l.card ++ '-' :: printed l.device ++ ':' :: ' ' :: l.idname ++ ' ' :: ':' :: ' ' :: l.rest

/-- The device that the line stands for, if its name is accepted. -/
def dev? (l : SndLine) : Option DeviceInfo :=
  (populateDeviceHwEpInfo l.idname).map fun info =>
    { cardId := l.card
      pcmId := l.device
      name := l.idname
      pcmFlags := pcmFlagsOf l.text
      hwEpInfo := some info }

/-- A file made of lines. -/
def file (lines : List SndLine) : CStr := lines.flatMap fun l => l.text ++ ['\n']

end SndLine

/-! ### Pieces of lines -/

section pieces
variable {cap : ℕ} {acc s : CStr}

/-- A newline ends a piece, whatever comes after it. -/
theorem pieces_newline (rest : CStr) :
    pieces cap acc (s ++ '\n' :: rest) = pieces cap acc (s ++ ['\n']) ++ pieces cap [] rest := by
  induction s generalizing acc with
  | nil => simp [pieces]
  | cons c s ih =>
      simp only [List.cons_append, pieces]
      split
      · rw [ih, List.cons_append]
      · exact ih

/-- Up to its newline a line goes in pieces of `cap` characters. -/
theorem pieces_line (hs : '\n' ∉ s) (hacc : acc.length < cap) :
    pieces cap acc (s ++ ['\n']) = (acc ++ (s ++ ['\n']).take (cap - acc.length)) ::
      pieces cap [] ((s ++ ['\n']).drop (cap - acc.length)) := by
  induction s generalizing acc with
  | nil =>
      obtain ⟨n, hn⟩ : ∃ n, cap - acc.length = n + 1 := ⟨cap - acc.length - 1, by omega⟩
      simp [pieces, hn]
  | cons c s ih =>
      have hc : '\n' ≠ c := List.ne_of_not_mem_cons hs
      have hs : '\n' ∉ s := List.not_mem_of_not_mem_cons hs
      obtain ⟨n, hn⟩ : ∃ n, cap - acc.length = n + 1 := ⟨cap - acc.length - 1, by omega⟩
      rw [hn, List.cons_append, List.take_succ_cons, List.drop_succ_cons, pieces]
      split
      case isTrue hfull =>
        have hlast : acc.length + 1 = cap := hfull.resolve_left (Ne.symm hc)
        rw [show n = 0 by omega, List.take_zero, List.drop_zero]
      case isFalse hroom =>
        have hlen : (acc ++ [c]).length = acc.length + 1 := List.length_append
        have hroom' : acc.length + 1 ≠ cap := fun h => hroom (.inr h)
        rw [ih hs (by omega), hlen, show cap - (acc.length + 1) = n by omega, List.append_assoc,
          List.singleton_append]

end pieces

namespace SndLine

/-- The buffer that the line begins in. -/
def first (l : SndLine) : CStr := (l.text ++ ['\n']).take (MAX_BUF_SIZE - 2)

/-- The buffers that go on with the line, if it is too long for one. -/
def more (l : SndLine) : List CStr := buffers ((l.text ++ ['\n']).drop (MAX_BUF_SIZE - 2))

end SndLine

/-! ### Numbers -/

theorem isDigit_of_mem_printed {n : ℕ} {c : Char} (h : c ∈ printed n) : c.isDigit := by
  unfold printed at h
  split at h
  · rcases List.mem_cons.mp h with rfl | h
    · rfl
    · exact Nat.isDigit_of_mem_toDigits (by decide) (by decide) h
  · exact Nat.isDigit_of_mem_toDigits (by decide) (by decide) h

/-- Below 100 there are two digits, ... -/
theorem printed_of_lt : ∀ n < 100, (printed n).length = 2 ∧ digitsValue (printed n) = n := by
  decide +kernel

/-- ... from 100 on at least three. -/
theorem three_le_length_printed {n : ℕ} (h : 100 ≤ n) : 3 ≤ (printed n).length := by
  unfold printed
  rw [if_neg (by omega)]
  by_contra hlt
  have hle := (Nat.length_toDigits_le_iff (by decide) (by decide)).mp (show (Nat.toDigits 10 n).length ≤ 2 by omega)
  omega

theorem not_isSpace_of_isDigit {c : Char} (h : c.isDigit) : isSpace c = false := by
  have hlow : 48 ≤ c.toNat := by
    simp only [Char.isDigit, Bool.and_eq_true, decide_eq_true_eq] at h
    exact UInt32.le_iff_toNat_le.mp h.1
  have hne : c ≠ ' ' := by
    rintro rfl
    exact absurd h (by decide)
  have htab : ¬ c.toNat ≤ 13 := by omega
  simp [isSpace, hne, htab]

theorem scanChar_self (c : Char) (s : CStr) : scanChar c (c :: s) = some s := if_pos rfl

theorem scanChar_ne {c d : Char} (h : d ≠ c) (s : CStr) : scanChar c (d :: s) = none := if_neg h

/-- A `%u` of width 2 takes two digits, whatever follows them. -/
theorem scanUnsigned_digits {a b : Char} (ha : a.isDigit) (hb : b.isDigit) (s : CStr) :
    scanUnsigned 2 (a :: b :: s) = some (digitsValue [a, b], s) := by
  have hminus : a ≠ '-' := by
    rintro rfl
    exact absurd ha (by decide)
  have hplus : a ≠ '+' := by
    rintro rfl
    exact absurd ha (by decide)
  have hdigits : ((a :: b :: s).takeWhile Char.isDigit).take 2 = [a, b] := by simp [ha, hb]
  have hscan : scanDigits 2 (a :: b :: s) = some (digitsValue [a, b], s) := by
    simp [scanDigits, hdigits]
  rw [scanUnsigned, List.dropWhile_cons_of_neg (by simp [not_isSpace_of_isDigit ha])]
  split
  · rename_i heq
    exact absurd (List.cons.inj heq).1 hminus
  · rename_i heq
    exact absurd (List.cons.inj heq).1 hplus
  · exact hscan

theorem scanUnsigned_printed {n : ℕ} (h : n < 100) (s : CStr) :
    scanUnsigned 2 (printed n ++ s) = some (n, s) := by
  obtain ⟨hlen, hvalue⟩ := printed_of_lt n h
  obtain ⟨a, b, hab⟩ := List.length_eq_two.mp hlen
  have ha : a.isDigit := isDigit_of_mem_printed (by rw [hab]; exact List.mem_cons_self ..)
  have hb : b.isDigit := isDigit_of_mem_printed (by rw [hab]; simp)
  rw [hab] at hvalue
  rw [hab, List.cons_append, List.cons_append, List.nil_append, scanUnsigned_digits ha hb, hvalue]

/-- Of a number from 100 on two digits are read, and the next character is one more. -/
theorem scanUnsigned_printed_of_le {n k : ℕ} (h : 100 ≤ n) (hk : 3 ≤ k) (s : CStr) :
    ∃ v c t, scanUnsigned 2 ((printed n ++ s).take k) = some (v, c :: t) ∧ c.isDigit := by
  obtain ⟨k, rfl⟩ : ∃ k', k = k' + 3 := ⟨k - 3, by omega⟩
  have hlen := three_le_length_printed h
  obtain ⟨a, b, c, r, habc⟩ : ∃ a b c r, printed n = a :: b :: c :: r := by
    match hp : printed n, hlen with
    | a :: b :: c :: r, _ => exact ⟨a, b, c, r, rfl⟩
  have hdigit : ∀ x ∈ [a, b, c], x.isDigit := by
    intro x hx
    apply isDigit_of_mem_printed (n := n)
    rw [habc]
    simp only [List.mem_cons, List.not_mem_nil, or_false] at hx ⊢
    tauto
  refine ⟨digitsValue [a, b], c, (r ++ s).take k, ?_, hdigit c (by simp)⟩
  rw [habc]
  exact scanUnsigned_digits (hdigit a (by simp)) (hdigit b (by simp)) _

/-! ### The buffer that a line begins in -/

namespace SndLine

variable {l : SndLine}

theorem first_eq : l.first = (printed l.card ++ '-' :: (printed l.device ++ ':' :: ' ' ::
    (l.idname ++ ' ' :: ':' :: ' ' :: (l.rest ++ ['\n'])))).take 2046 := by
  rw [first, text]
  simp only [List.append_assoc, List.cons_append]
  rfl

theorem first_eq_of_card (h : l.card < 100) : l.first = printed l.card ++ '-' ::
    (printed l.device ++ ':' :: ' ' ::
      (l.idname ++ ' ' :: ':' :: ' ' :: (l.rest ++ ['\n']))).take 2043 := by
  have hlen := (printed_of_lt l.card h).1
  rw [first_eq, List.take_append, hlen, List.take_of_length_le (by omega)]
  rfl

theorem first_eq_of_lt (hcard : l.card < 100) (hdevice : l.device < 100) :
    l.first = printed l.card ++ '-' :: (printed l.device ++ ':' :: ' ' ::
      (l.idname ++ ' ' :: ':' :: ' ' :: (l.rest ++ ['\n'])).take 2039) := by
  have hlen := (printed_of_lt l.device hdevice).1
  rw [first_eq_of_card hcard, List.take_append, hlen, List.take_of_length_le (by omega)]
  rfl

/-- The name that is read off the line. -/
theorem scanString_idname (hword : ∀ c ∈ l.idname, isSpace c = false) (s : CStr) :
    scanString 80 (' ' :: (l.idname ++ ' ' :: ':' :: ' ' :: s).take 2039) =
      if l.idname = [] then [':'] else l.idname.take 80 := by
  have hspace : isSpace ' ' = true := rfl
  have hcolon : isSpace ':' = false := rfl
  rw [scanString, List.dropWhile_cons_of_pos hspace]
  cases hname : l.idname with
  | nil => simp [hspace, hcolon]
  | cons c w =>
      rw [hname] at hword
      have hc : isSpace c = false := hword c (List.mem_cons_self ..)
      have htake : (c :: w).take 2039 ++ (' ' :: ':' :: ' ' :: s).take (2039 - (c :: w).length) =
          ((c :: w) ++ ' ' :: ':' :: ' ' :: s).take 2039 := List.take_append.symm
      have hnospace : ∀ x ∈ (c :: w).take 2039, (!isSpace x) = true := fun x hx => by
        rw [hword x (List.mem_of_mem_take hx)]
        rfl
      have hstop : ((' ' :: ':' :: ' ' :: s).take (2039 - (c :: w).length)).takeWhile
          (fun x => !isSpace x) = [] := by
        cases 2039 - (c :: w).length with
        | zero => rfl
        | succ n => rw [List.take_succ_cons, List.takeWhile_cons_of_neg (by simp [hspace])]
      have hdrop : ((c :: w) ++ ' ' :: ':' :: ' ' :: s).take 2039 =
          (((c :: w) ++ ' ' :: ':' :: ' ' :: s).take 2039).dropWhile isSpace := by
        rw [List.cons_append, List.take_succ_cons, List.dropWhile_cons_of_neg (by simp [hc])]
      rw [← hdrop, ← htake, List.takeWhile_append_of_pos hnospace, hstop, List.append_nil,
        List.take_take, if_neg (List.cons_ne_nil c w)]
      rfl

theorem scanDevice_first (hcard : l.card < 100) (hdevice : l.device < 100) :
    scanDevice l.first =
      { cardId := l.card
        pcmId := l.device
        name := if l.idname = [] then [':'] else l.idname.take 80 } := by
  rw [first_eq_of_lt hcard hdevice, scanDevice, scanUnsigned_printed hcard]
  dsimp only
  rw [scanChar_self, Option.bind_some, scanUnsigned_printed hdevice]
  dsimp only
  rw [scanChar_self]
  dsimp only
  rw [scanString_idname l.idname_word]

/-- With three digits somewhere no name is read. -/
theorem scanDevice_first_of_le (h : 100 ≤ l.card ∨ 100 ≤ l.device) :
    (scanDevice l.first).name = [] := by
  by_cases hcard : l.card < 100
  · have hdevice : 100 ≤ l.device := h.resolve_left (by omega)
    obtain ⟨v, c, t, hscan, hdigit⟩ := scanUnsigned_printed_of_le (k := 2043) hdevice (by decide)
      (':' :: ' ' :: (l.idname ++ ' ' :: ':' :: ' ' :: (l.rest ++ ['\n'])))
    rw [first_eq_of_card hcard, scanDevice, scanUnsigned_printed hcard]
    dsimp only
    rw [scanChar_self, Option.bind_some, hscan]
    dsimp only
    rw [scanChar_ne (by rintro rfl; exact absurd hdigit (by decide))]
  · obtain ⟨v, c, t, hscan, hdigit⟩ := scanUnsigned_printed_of_le (k := 2046) (Nat.not_lt.mp hcard)
      (by decide) ('-' :: (printed l.device ++ ':' :: ' ' ::
        (l.idname ++ ' ' :: ':' :: ' ' :: (l.rest ++ ['\n']))))
    rw [first_eq, scanDevice, hscan]
    dsimp only
    rw [scanChar_ne (by rintro rfl; exact absurd hdigit (by decide)), Option.bind_none]

/-! ### The devices of a line -/

theorem populateDeviceHwEpInfo_nil : populateDeviceHwEpInfo [] = none := rfl

theorem populateDeviceHwEpInfo_colon : populateDeviceHwEpInfo [':'] = none := rfl

/-- The device read off the first buffer is that of the line, but for its flags. -/
theorem deviceOf_first (hcard : l.card < 100) (hdevice : l.device < 100)
    (hname : l.idname.length < MAX_DEV_NAME_LEN) :
    deviceOf l.first = l.dev?.map fun dev => { dev with pcmFlags := pcmFlagsOf l.first } := by
  unfold deviceOf dev?
  rw [scanDevice_first hcard hdevice]
  dsimp only
  by_cases hempty : l.idname = []
  · rw [if_pos hempty, hempty, populateDeviceHwEpInfo_nil, populateDeviceHwEpInfo_colon]
    rfl
  · have hfits : l.idname.length ≤ 80 := Nat.le_of_lt hname
    rw [if_neg hempty, List.take_of_length_le hfits, Option.map_map]
    rfl

theorem deviceOf_of_name_nil {buffer : CStr} (h : (scanDevice buffer).name = []) :
    deviceOf buffer = none := by
  unfold deviceOf
  rw [h, populateDeviceHwEpInfo_nil]
  rfl

theorem newline_not_mem_text (l : SndLine) : '\n' ∉ l.text := by
  have hdigit : ∀ n, '\n' ∉ printed n := fun n h =>
    absurd (isDigit_of_mem_printed h) (by decide)
  have hword : '\n' ∉ l.idname := fun h => absurd (l.idname_word _ h) (by decide)
  simp [text, hdigit, hword, l.rest_line]

theorem buffers_line (l : SndLine) : buffers (l.text ++ ['\n']) = l.first :: l.more :=
  pieces_line l.newline_not_mem_text (by decide)

/-- The buffers of a file made of lines are those of its lines. -/
theorem buffers_file (lines : List SndLine) :
    buffers (file lines) = lines.flatMap fun l => l.first :: l.more := by
  induction lines with
  | nil => rfl
  | cons l lines ih =>
      have hfile : file (l :: lines) = l.text ++ '\n' :: file lines := by simp [file]
      have hsplit : buffers (file (l :: lines)) = buffers (l.text ++ ['\n']) ++ buffers (file lines) := by
        rw [hfile]
        exact pieces_newline (file lines)
      rw [hsplit, buffers_line, ih, List.flatMap_cons]

/-- The line is read as it should be: numbers of two digits and a name that fits, where they matter,
and no part of it that is found or missed because it goes on in another buffer. -/
structure Readable (l : SndLine) : Prop where
  numbers : l.dev? ≠ none → l.card < 100 ∧ l.device < 100
  name : l.card < 100 → l.device < 100 → l.idname.length < MAX_DEV_NAME_LEN
  flags : l.dev? ≠ none → pcmFlagsOf l.first = pcmFlagsOf l.text
  more : ∀ buffer ∈ l.more,
    deviceOf buffer = none ∧ (scanDevice buffer).name.length < MAX_DEV_NAME_LEN

/-- The devices found in the buffers of the line. -/
def devices (l : SndLine) : List DeviceInfo := (l.first :: l.more).filterMap deviceOf

theorem devices_of_lt (hcard : l.card < 100) (hdevice : l.device < 100)
    (hname : l.idname.length < MAX_DEV_NAME_LEN) :
    l.devices = (l.dev?.map fun dev => { dev with pcmFlags := pcmFlagsOf l.first }).toList ++
      l.more.filterMap deviceOf := by
  rw [devices, List.filterMap_cons, deviceOf_first hcard hdevice hname]
  cases l.dev? with
  | none => rfl
  | some dev => rfl

theorem devices_of_le (h : 100 ≤ l.card ∨ 100 ≤ l.device) :
    l.devices = l.more.filterMap deviceOf := by
  rw [devices, List.filterMap_cons_none (deviceOf_of_name_nil (scanDevice_first_of_le h))]

/-- From a readable line comes exactly its device. -/
theorem Readable.devices_eq (h : l.Readable) : l.devices = l.dev?.toList := by
  have hmore : l.more.filterMap deviceOf = [] :=
    List.filterMap_eq_nil_iff.mpr fun buffer hbuffer => (h.more buffer hbuffer).1
  by_cases htwo : l.card < 100 ∧ l.device < 100
  · rw [devices_of_lt htwo.1 htwo.2 (h.name htwo.1 htwo.2), hmore, List.append_nil]
    cases hdev : l.dev? with
    | none => rfl
    | some dev =>
        have hflags : dev.pcmFlags = pcmFlagsOf l.text := by
          obtain ⟨info, -, rfl⟩ := Option.map_eq_some_iff.mp hdev
          rfl
        rw [h.flags (by rw [hdev]; nofun), ← hflags]
        rfl
  · have hnone : l.dev? = none := by
      by_contra hdev
      exact htwo (h.numbers hdev)
    rw [devices_of_le (by omega), hmore, hnone]
    rfl

/-- The names stored for the line. -/
theorem names_lt_iff : (∀ buffer ∈ l.first :: l.more,
      (scanDevice buffer).name.length < MAX_DEV_NAME_LEN) ↔
    (l.card < 100 → l.device < 100 → l.idname.length < MAX_DEV_NAME_LEN) ∧
      ∀ buffer ∈ l.more, (scanDevice buffer).name.length < MAX_DEV_NAME_LEN := by
  rw [List.forall_mem_cons]
  refine and_congr_left' ?_
  by_cases htwo : l.card < 100 ∧ l.device < 100
  · rw [scanDevice_first htwo.1 htwo.2]
    by_cases hempty : l.idname = []
    · simp [hempty, htwo, MAX_DEV_NAME_LEN]
    · simp [hempty, htwo, MAX_DEV_NAME_LEN]
  · rw [scanDevice_first_of_le (by omega)]
    exact ⟨fun _ hcard hdevice => absurd ⟨hcard, hdevice⟩ htwo, fun _ => by decide⟩

end SndLine

/-! ### Numbers that are read -/

theorem digitsFold_lt (s : CStr) (hs : ∀ c ∈ s, c.isDigit) (n : ℕ) :
    s.foldl (fun n c => 10 * n + (c.toNat - '0'.toNat)) n < (n + 1) * 10 ^ s.length := by
  induction s generalizing n with
  | nil => simp
  | cons c s ih =>
      have hc : c.toNat - '0'.toNat ≤ 9 := by
        have hdigit := hs c (List.mem_cons_self ..)
        simp only [Char.isDigit, Bool.and_eq_true, decide_eq_true_eq] at hdigit
        have hle : c.toNat ≤ 57 := UInt32.le_iff_toNat_le.mp hdigit.2
        have hzero : '0'.toNat = 48 := rfl
        omega
      have hs' : ∀ d ∈ s, d.isDigit := fun d hd => hs d (List.mem_cons_of_mem _ hd)
      calc (c :: s).foldl (fun n c => 10 * n + (c.toNat - '0'.toNat)) n
          < (10 * n + (c.toNat - '0'.toNat) + 1) * 10 ^ s.length := ih hs' _
        _ ≤ ((n + 1) * 10) * 10 ^ s.length := Nat.mul_le_mul_right _ (by omega)
        _ = (n + 1) * 10 ^ (c :: s).length := by rw [List.length_cons, Nat.pow_succ']; ring

theorem scanDigits_lt {width v : ℕ} {s t : CStr} (h : scanDigits width s = some (v, t)) :
    v < 10 ^ width := by
  unfold scanDigits at h
  dsimp only at h
  split at h
  · exact nomatch h
  · obtain ⟨rfl, -⟩ := Prod.mk.inj (Option.some.inj h)
    have hdigits : ∀ c ∈ (s.takeWhile Char.isDigit).take width, c.isDigit := fun c hc =>
      List.mem_takeWhile_imp (List.mem_of_mem_take hc)
    have hlen : ((s.takeWhile Char.isDigit).take width).length ≤ width := List.length_take_le ..
    have hlt := digitsFold_lt _ hdigits 0
    rw [digitsValue, List.takeWhile_eq_self_iff.mpr hdigits]
    calc _ < _ := hlt
      _ ≤ 10 ^ width := by
        rw [Nat.zero_add, Nat.one_mul]
        exact Nat.pow_le_pow_right (by decide) hlen

/-- Two characters give a number below 100, or a negative one, which reads as a large one. -/
theorem scanUnsigned_lt {v : ℕ} {s t : CStr} (h : scanUnsigned 2 s = some (v, t))
    (hv : v < 2 ^ 31) : v < 100 := by
  unfold scanUnsigned at h
  split at h
  · obtain ⟨⟨n, t'⟩, hscan, heq⟩ := Option.map_eq_some_iff.mp h
    have hn := scanDigits_lt hscan
    obtain ⟨rfl, -⟩ := Prod.mk.inj heq
    unfold toUnsigned at hv ⊢
    omega
  · have hn := scanDigits_lt h
    omega
  · exact scanDigits_lt h

theorem scanDevice_lt (buffer : CStr) :
    ((scanDevice buffer).cardId < 2 ^ 31 → (scanDevice buffer).cardId < 100) ∧
      ((scanDevice buffer).pcmId < 2 ^ 31 → (scanDevice buffer).pcmId < 100) := by
  unfold scanDevice
  split
  · exact ⟨fun _ => Nat.succ_pos 99, fun _ => Nat.succ_pos 99⟩
  · rename_i cardId s hcard
    have hcard' : cardId < 2 ^ 31 → cardId < 100 := scanUnsigned_lt hcard
    split
    · exact ⟨hcard', fun _ => Nat.succ_pos 99⟩
    · rename_i pcmId s' hpcm
      obtain ⟨t, -, hscan⟩ := Option.bind_eq_some_iff.mp hpcm
      have hpcm' : pcmId < 2 ^ 31 → pcmId < 100 := scanUnsigned_lt hscan
      split
      · exact ⟨hcard', hpcm'⟩
      · exact ⟨hcard', hpcm'⟩

/-- A number of three digits is never one that was read. -/
theorem deviceOf_lt {buffer : CStr} {dev : DeviceInfo} (h : deviceOf buffer = some dev) :
    (dev.cardId < 2 ^ 31 → dev.cardId < 100) ∧ (dev.pcmId < 2 ^ 31 → dev.pcmId < 100) := by
  obtain ⟨info, -, rfl⟩ := Option.map_eq_some_iff.mp h
  exact scanDevice_lt buffer

/-! ### Which lines are readable -/

/-- Two concatenations that agree do so part by part, if no part of the one is shorter than its
counterpart. -/
theorem flatMap_pointwise {α β : Type} {f g : α → List β} {l : List α}
    (hle : ∀ a ∈ l, (g a).length ≤ (f a).length) (h : l.flatMap f = l.flatMap g) :
    ∀ a ∈ l, f a = g a := by
  have hsum : ∀ l : List α, (∀ a ∈ l, (g a).length ≤ (f a).length) →
      (l.flatMap g).length ≤ (l.flatMap f).length := by
    intro l
    induction l with
    | nil => exact fun _ => Nat.le_refl _
    | cons a l ih =>
        intro hle
        obtain ⟨ha, hl⟩ := List.forall_mem_cons.mp hle
        rw [List.flatMap_cons, List.flatMap_cons, List.length_append, List.length_append]
        exact Nat.add_le_add ha (ih hl)
  induction l with
  | nil => nofun
  | cons a l ih =>
      obtain ⟨ha, hl⟩ := List.forall_mem_cons.mp hle
      rw [List.flatMap_cons, List.flatMap_cons] at h
      have hlen : (f a).length = (g a).length := by
        have htotal := congrArg List.length h
        have hrest := hsum l hl
        rw [List.length_append, List.length_append] at htotal
        omega
      obtain ⟨hfirst, hrest⟩ := List.append_inj h hlen
      exact List.forall_mem_cons.mpr ⟨hfirst, ih hl hrest⟩

namespace SndLine

variable {l : SndLine}

theorem filterMap_file (lines : List SndLine) :
    (buffers (file lines)).filterMap deviceOf = lines.flatMap devices := by
  rw [buffers_file, List.filterMap_flatMap]
  rfl

theorem filterMap_dev? (lines : List SndLine) :
    lines.filterMap dev? = lines.flatMap fun l => l.dev?.toList :=
  List.filterMap_eq_flatMap_toList dev? lines

/-- The numbers of a device that is read off some buffer and stands for a line. -/
theorem numbers_of_dev {dev : DeviceInfo} (hdev : l.dev? = some dev) {buffer : CStr}
    (h : deviceOf buffer = some dev) : l.card < 100 ∧ l.device < 100 := by
  obtain ⟨info, -, rfl⟩ := Option.map_eq_some_iff.mp hdev
  obtain ⟨hcard, hdevice⟩ := deviceOf_lt h
  exact ⟨hcard l.card_lt, hdevice l.device_lt⟩

/-- The devices of the file are those of its lines exactly if each line gives its own. -/
theorem readable_iff (lines : List SndLine) :
    ((buffers (file lines)).filterMap deviceOf = lines.filterMap dev? ∧
      ∀ buffer ∈ buffers (file lines), (scanDevice buffer).name.length < MAX_DEV_NAME_LEN) ↔
      ∀ l ∈ lines, l.Readable := by
  have hnames : (∀ buffer ∈ buffers (file lines),
        (scanDevice buffer).name.length < MAX_DEV_NAME_LEN) ↔
      ∀ l ∈ lines, ∀ buffer ∈ l.first :: l.more,
        (scanDevice buffer).name.length < MAX_DEV_NAME_LEN := by
    rw [buffers_file, List.forall_mem_flatMap]
  rw [hnames, filterMap_file, filterMap_dev?]
  constructor
  · rintro ⟨hdevices, hnames⟩ l hl
    have hnumbers : ∀ l ∈ lines, l.dev? ≠ none → l.card < 100 ∧ l.device < 100 := by
      intro l hl hne
      obtain ⟨dev, hdev⟩ := Option.ne_none_iff_exists'.mp hne
      have hmem : dev ∈ lines.flatMap devices := by
        rw [hdevices]
        exact List.mem_flatMap.mpr ⟨l, hl, by rw [hdev]; exact List.mem_singleton.mpr rfl⟩
      obtain ⟨l', -, hdev'⟩ := List.mem_flatMap.mp hmem
      obtain ⟨buffer, -, hbuffer⟩ := List.mem_filterMap.mp hdev'
      exact numbers_of_dev hdev hbuffer
    have hname : ∀ l ∈ lines, l.card < 100 → l.device < 100 →
        l.idname.length < MAX_DEV_NAME_LEN := fun l hl => (names_lt_iff.mp (hnames l hl)).1
    -- a line whose device is accepted gives at least that one
    have hle : ∀ l ∈ lines, l.dev?.toList.length ≤ l.devices.length := by
      intro l hl
      cases hdev : l.dev? with
      | none => exact Nat.zero_le _
      | some dev =>
          obtain ⟨hcard, hdevice⟩ := hnumbers l hl (by rw [hdev]; nofun)
          rw [devices_of_lt hcard hdevice (hname l hl hcard hdevice), hdev]
          simp
    have hline := flatMap_pointwise hle hdevices l hl
    have hmore : ∀ buffer ∈ l.more, deviceOf buffer = none ∧
        (scanDevice buffer).name.length < MAX_DEV_NAME_LEN := by
      intro buffer hbuffer
      refine ⟨?_, (names_lt_iff.mp (hnames l hl)).2 buffer hbuffer⟩
      have hnil : l.more.filterMap deviceOf = [] := by
        by_cases htwo : l.card < 100 ∧ l.device < 100
        · rw [devices_of_lt htwo.1 htwo.2 (hname l hl htwo.1 htwo.2)] at hline
          have hlen := congrArg List.length hline
          rw [List.length_append, Option.length_toList, Option.length_toList,
            Option.isSome_map] at hlen
          exact List.eq_nil_of_length_eq_zero (by omega)
        · have hnone : l.dev? = none := by
            by_contra hne
            exact htwo (hnumbers l hl hne)
          rw [devices_of_le (by omega), hnone] at hline
          exact hline
      exact List.filterMap_eq_nil_iff.mp hnil buffer hbuffer
    refine ⟨hnumbers l hl, hname l hl, fun hne => ?_, hmore⟩
    obtain ⟨dev, hdev⟩ := Option.ne_none_iff_exists'.mp hne
    obtain ⟨hcard, hdevice⟩ := hnumbers l hl hne
    have hnil : l.more.filterMap deviceOf = [] :=
      List.filterMap_eq_nil_iff.mpr fun buffer hbuffer => (hmore buffer hbuffer).1
    rw [devices_of_lt hcard hdevice (hname l hl hcard hdevice), hnil, hdev, List.append_nil]
      at hline
    have hflags : dev.pcmFlags = pcmFlagsOf l.text := by
      obtain ⟨info, -, rfl⟩ := Option.map_eq_some_iff.mp hdev
      rfl
    have heq := congrArg DeviceInfo.pcmFlags (List.cons.inj hline).1
    rwa [hflags] at heq
  · intro h
    refine ⟨List.flatMap_congr fun l hl => (h l hl).devices_eq, fun l hl => ?_⟩
    exact names_lt_iff.mpr ⟨(h l hl).name, fun buffer hbuffer => ((h l hl).more buffer hbuffer).2⟩

/-- A line that fits into a buffer is readable when its numbers have two digits and its name has
fewer than 80 characters. -/
theorem readable_of_short (hline : l.text.length < MAX_BUF_SIZE - 2)
    (hcard : l.card < 100) (hdevice : l.device < 100) (hname : l.idname.length < MAX_DEV_NAME_LEN) :
    l.Readable := by
  have hlen : (l.text ++ ['\n']).length ≤ MAX_BUF_SIZE - 2 := by
    rw [List.length_append]
    exact hline
  have hfirst : l.first = l.text ++ ['\n'] := List.take_of_length_le hlen
  have hmore : l.more = [] := by
    rw [more, List.drop_of_length_le hlen]
    rfl
  refine ⟨fun _ => ⟨hcard, hdevice⟩, fun _ _ => hname, fun _ => ?_, fun buffer hbuffer => ?_⟩
  · have hfind : "playback".toList <:+: l.text ++ ['\n'] ↔ "playback".toList <:+: l.text := by
      rw [List.infix_concat_iff, List.suffix_concat_iff]
      refine or_iff_right ?_
      rintro (hnil | ⟨t, ht, -⟩)
      · exact absurd hnil (by decide)
      · have hmem : '\n' ∈ "playback".toList := by
          rw [ht]
          exact List.mem_append_right _ (List.mem_singleton.mpr rfl)
        exact absurd hmem (by decide)
    rw [pcmFlagsOf, pcmFlagsOf, strstr, strstr, hfirst, decide_eq_decide.mpr hfind]
  · rw [hmore] at hbuffer
    exact nomatch hbuffer

end SndLine

/-! ### Runs -/

/-- What an attempt reads in pieces. -/
def Attempt.buffers (a : Attempt) : List CStr := (a.file.map Agm.buffers).getD []

/-- The devices that an attempt finds. -/
def Attempt.devices (a : Attempt) : List DeviceInfo := a.buffers.filterMap deviceOf

/-- The file can be opened, and nothing fails for lack of memory. -/
structure Attempt.Served (a : Attempt) : Prop where
  opened : a.file ≠ none
  listMem : a.listMem = true
  deviceMem : ∀ i < a.buffers.length, a.deviceMem i = true

section fill
variable {deviceMem : ℕ → Bool} {i : ℕ} {bufs : List CStr} {g : Globals}

/-- The devices are stored one after the other, as long as there is room. -/
theorem fillDevices_eq {done : List DeviceInfo} {free : ℕ}
    (hmem : ∀ j, i ≤ j → j < i + bufs.length → deviceMem j = true)
    (hlist : g.deviceList = done.map some ++ List.replicate free none)
    (hlt : done.length + free < 2 ^ 32) :
    fillDevices deviceMem i bufs done.length g =
      if (bufs.filterMap deviceOf).length ≤ free then
        some (true, (done ++ bufs.filterMap deviceOf).length,
          { g with
            deviceList := (done ++ bufs.filterMap deviceOf).map some ++
              List.replicate (free - (bufs.filterMap deviceOf).length) none
            names := g.names ++ bufs.map fun buffer => (scanDevice buffer).name })
      else none := by
  induction bufs generalizing i done free g with
  | nil => simp [fillDevices, ← hlist]
  | cons buffer rest ih =>
      have hrest : ∀ j, i + 1 ≤ j → j < i + 1 + rest.length → deviceMem j = true := fun j hle hj =>
        hmem j (by omega) (by rw [List.length_cons]; omega)
      rw [fillDevices, if_pos (hmem i (Nat.le_refl i) (by rw [List.length_cons]; omega))]
      dsimp only
      cases hdev : deviceOf buffer with
      | none =>
          dsimp only
          rw [List.filterMap_cons_none hdev, ih hrest
            (g := { g with names := g.names ++ [(scanDevice buffer).name] }) hlist hlt]
          simp
      | some dev =>
          dsimp only
          rw [List.filterMap_cons_some hdev]
          cases free with
          | zero =>
              rw [if_neg (by rw [hlist]; simp), if_neg (by simp)]
          | succ free =>
              have hset : g.deviceList.set done.length (some dev) =
                  (done ++ [dev]).map some ++ List.replicate free none := by
                rw [hlist, List.set_append_right _ _ (by simp)]
                simp [List.replicate_succ]
              have hcount : (done.length + 1) % 2 ^ 32 = (done ++ [dev]).length := by
                rw [List.length_append]
                exact Nat.mod_eq_of_lt (by omega)
              rw [if_pos (by rw [hlist]; simp), hcount, ih hrest
                (g := { g with
                  deviceList := g.deviceList.set done.length (some dev)
                  names := g.names ++ [(scanDevice buffer).name] }) hset (by
                rw [List.length_append, List.length_singleton]
                omega)]
              simp

/-- The loop gets through only if every device is allocated. -/
theorem deviceMem_of_fillDevices {count count' : ℕ} {g' : Globals}
    (h : fillDevices deviceMem i bufs count g = some (true, count', g')) :
    ∀ j, i ≤ j → j < i + bufs.length → deviceMem j = true := by
  induction bufs generalizing i count g with
  | nil =>
      intro j hle hj
      exact absurd hj (by rw [List.length_nil]; omega)
  | cons buffer rest ih =>
      rw [fillDevices] at h
      split at h
      case isFalse => exact nomatch (congrArg Prod.fst (Option.some.inj h))
      case isTrue hmem =>
        have hrest : ∀ j, i + 1 ≤ j → j < i + 1 + rest.length → deviceMem j = true := by
          dsimp only at h
          split at h
          · exact ih h
          · split at h
            · exact ih h
            · exact nomatch h
        intro j hle hj
        rcases Nat.eq_or_lt_of_le hle with rfl | hlt
        · exact hmem
        · exact hrest j hlt (by rw [List.length_cons] at hj; omega)

end fill

/-- The strings that an attempt stores into a `name[]`. -/
def Attempt.names (a : Attempt) : List CStr := a.buffers.map fun buffer => (scanDevice buffer).name

theorem parseSndCard_eq {a : Attempt} (h : a.Served) (g : Globals) :
    parseSndCard a g =
      if a.devices.length ≤ (g.numAudioIntfs + a.buffers.length) % 2 ^ 32 then
        some (if a.devices = [] then
          (-EAGAIN,
            { numAudioIntfs := (g.numAudioIntfs + a.buffers.length) % 2 ^ 32
              deviceList := []
              names := g.names ++ a.names })
        else
          (0,
            { numAudioIntfs := a.devices.length
              deviceList := a.devices.map some ++ List.replicate
                ((g.numAudioIntfs + a.buffers.length) % 2 ^ 32 - a.devices.length) none
              names := g.names ++ a.names }))
      else none := by
  obtain ⟨file, hfile⟩ := Option.ne_none_iff_exists'.mp h.opened
  have hbuffers : a.buffers = buffers file := by
    rw [Attempt.buffers, hfile]
    rfl
  have hmem : ∀ j, 0 ≤ j → j < 0 + (buffers file).length → a.deviceMem j = true := fun j _ hj =>
    h.deviceMem j (by rw [hbuffers]; omega)
  have hlt : 0 + (g.numAudioIntfs + (buffers file).length) % 2 ^ 32 < 2 ^ 32 := by omega
  have hempty : List.replicate ((g.numAudioIntfs + (buffers file).length) % 2 ^ 32) none =
      ([] : List DeviceInfo).map some ++
        List.replicate ((g.numAudioIntfs + (buffers file).length) % 2 ^ 32) none := rfl
  have hfill := fillDevices_eq hmem
    (g := { g with
      numAudioIntfs := (g.numAudioIntfs + (buffers file).length) % 2 ^ 32
      deviceList := List.replicate ((g.numAudioIntfs + (buffers file).length) % 2 ^ 32) none })
    hempty hlt
  rw [List.length_nil, List.nil_append] at hfill
  unfold parseSndCard
  rw [hfile]
  dsimp only
  rw [if_pos h.listMem, hfill, Attempt.devices, Attempt.names, hbuffers]
  split
  · simp only [Option.bind_eq_bind, Option.bind_some, Bool.not_true, Bool.false_eq_true, if_false,
      List.length_eq_zero_iff]
    split <;> rfl
  · rfl

/-- Only when nothing else goes wrong does an attempt end with a list of devices, or without
any. -/
theorem served_of_parseSndCard {a : Attempt} {g g' : Globals} {ret : ℤ}
    (h : parseSndCard a g = some (ret, g')) (hret : ret = 0 ∨ ret = -EAGAIN) : a.Served := by
  have hcodes : ¬ (-ENODEV = 0 ∨ -ENODEV = -EAGAIN) ∧ ¬ (-ENOMEM = 0 ∨ -ENOMEM = -EAGAIN) := by
    decide
  unfold parseSndCard at h
  split at h
  case h_1 =>
    obtain ⟨rfl, -⟩ := Prod.mk.inj (Option.some.inj h)
    exact absurd hret hcodes.1
  case h_2 file hfile =>
    dsimp only at h
    split at h
    case isFalse =>
      obtain ⟨rfl, -⟩ := Prod.mk.inj (Option.some.inj h)
      exact absurd hret hcodes.2
    case isTrue hlist =>
      obtain ⟨⟨complete, count, g''⟩, hfill, h⟩ := Option.bind_eq_some_iff.mp h
      cases complete with
      | false =>
          obtain ⟨rfl, -⟩ := Prod.mk.inj (Option.some.inj h)
          exact absurd hret hcodes.2
      | true =>
          refine ⟨by rw [hfile]; nofun, hlist, fun i hi => ?_⟩
          have hbuffers : a.buffers = buffers file := by
            rw [Attempt.buffers, hfile]
            rfl
          exact deviceMem_of_fillDevices hfill i (Nat.zero_le i) (by rw [← hbuffers]; omega)

theorem devices_of_parseSndCard {a : Attempt} {g g' : Globals} {ret : ℤ} (hserved : a.Served)
    (h : parseSndCard a g = some (ret, g')) : a.devices = [] ↔ ret = -EAGAIN := by
  rw [parseSndCard_eq hserved] at h
  split at h
  case isFalse => exact nomatch h
  case isTrue =>
    have heq := Option.some.inj h
    split at heq
    case isTrue hnil => exact iff_of_true hnil (Prod.mk.inj heq).1.symm
    case isFalse hne =>
      have hret : ret = 0 := (Prod.mk.inj heq).1.symm
      exact iff_of_false hne (by rw [hret]; decide)

/-- How many buffers the first attempts read. -/
def counted (attempts : ℕ → Attempt) : ℕ → ℕ
  | 0 => 0
  | k + 1 => counted attempts k + (attempts k).buffers.length

/-- Every attempt before the `k`-th finds no device, for no other reason than that there is none,
and the `k`-th finds one. -/
structure FoundAt (attempts : ℕ → Attempt) (k : ℕ) : Prop where
  retries : k < MAX_RETRY
  failed : ∀ i < k, (attempts i).Served ∧ (attempts i).devices = []
  served : (attempts k).Served
  found : (attempts k).devices ≠ []

section runs
variable {attempts : ℕ → Attempt} {k : ℕ}

/-- Failed attempts leave nothing but the count, and the names they stored on the way. -/
theorem deviceInitLoop_failed
    (h : ∀ i < k, (attempts i).Served ∧ (attempts i).devices = []) (r : ℕ) (g : Globals) :
    ∃ g', deviceInitLoop attempts (k + r) 0 g = deviceInitLoop attempts r k g' ∧
      g'.numAudioIntfs % 2 ^ 32 = (g.numAudioIntfs + counted attempts k) % 2 ^ 32 ∧
      ∀ name, name ∈ g'.names ↔ name ∈ g.names ∨ ∃ i < k, name ∈ (attempts i).names := by
  induction k generalizing r with
  | zero =>
      refine ⟨g, by rw [Nat.zero_add], rfl, fun name => ?_⟩
      simp
  | succ k ih =>
      obtain ⟨g', hloop, hcount, hnames⟩ := ih (fun i hi => h i (Nat.lt_succ_of_lt hi)) (r + 1)
      obtain ⟨hserved, hnone⟩ := h k (Nat.lt_succ_self k)
      have hparse := parseSndCard_eq hserved g'
      rw [hnone, List.length_nil, if_pos (Nat.zero_le _), if_pos rfl] at hparse
      refine ⟨{ numAudioIntfs := (g'.numAudioIntfs + (attempts k).buffers.length) % 2 ^ 32
                names := g'.names ++ (attempts k).names }, ?_, ?_, fun name => ?_⟩
      · rw [show k + 1 + r = k + (r + 1) by omega, hloop, deviceInitLoop, hparse]
        rfl
      · dsimp only
        rw [Nat.mod_mod, Nat.add_mod, hcount, ← Nat.add_mod, counted, Nat.add_assoc]
      · rw [List.mem_append, hnames]
        constructor
        · rintro ((hname | ⟨i, hi, hname⟩) | hname)
          · exact .inl hname
          · exact .inr ⟨i, Nat.lt_succ_of_lt hi, hname⟩
          · exact .inr ⟨k, Nat.lt_succ_self k, hname⟩
        · rintro (hname | ⟨i, hi, hname⟩)
          · exact .inl (.inl hname)
          · rcases Nat.lt_succ_iff_lt_or_eq.mp hi with hi | rfl
            · exact .inl (.inr ⟨i, hi, hname⟩)
            · exact .inr hname

/-- What `device_init` ends with. -/
theorem deviceInit_eq (h : FoundAt attempts k) (n : ℕ) :
    ∃ names, (∀ name, name ∈ names ↔ ∃ i ≤ k, name ∈ (attempts i).names) ∧
      deviceInit attempts { numAudioIntfs := n } =
        if (attempts k).devices.length ≤ (n + counted attempts (k + 1)) % 2 ^ 32 then
          some (0,
            { numAudioIntfs := (attempts k).devices.length
              deviceList := (attempts k).devices.map some ++ List.replicate
                ((n + counted attempts (k + 1)) % 2 ^ 32 - (attempts k).devices.length) none
              names := names })
        else none := by
  obtain ⟨r, hr⟩ : ∃ r, MAX_RETRY = k + (r + 1) := ⟨MAX_RETRY - k - 1, by have := h.retries; omega⟩
  obtain ⟨g, hloop, hcount, hnames⟩ := deviceInitLoop_failed h.failed (r + 1) { numAudioIntfs := n }
  have hsize : (g.numAudioIntfs + (attempts k).buffers.length) % 2 ^ 32 =
      (n + counted attempts (k + 1)) % 2 ^ 32 := by
    rw [Nat.add_mod, hcount, ← Nat.add_mod, counted, Nat.add_assoc]
  have hparse := parseSndCard_eq h.served g
  rw [hsize, if_neg h.found] at hparse
  refine ⟨g.names ++ (attempts k).names, fun name => ?_, ?_⟩
  · rw [List.mem_append, hnames]
    constructor
    · rintro ((hname | ⟨i, hi, hname⟩) | hname)
      · exact nomatch hname
      · exact ⟨i, Nat.le_of_lt hi, hname⟩
      · exact ⟨k, Nat.le_refl k, hname⟩
    · rintro ⟨i, hi, hname⟩
      rcases Nat.lt_or_eq_of_le hi with hi | rfl
      · exact .inl (.inr ⟨i, hi, hname⟩)
      · exact .inr hname
  · rw [deviceInit, hr, hloop, deviceInitLoop, hparse]
    split
    · rfl
    · rfl

theorem foundAt_of_deviceInitLoop {r i : ℕ} {g g' : Globals}
    (h : deviceInitLoop attempts r i g = some (0, g')) :
    ∃ k, i ≤ k ∧ k < i + r ∧
      (∀ j, i ≤ j → j < k → (attempts j).Served ∧ (attempts j).devices = []) ∧
      (attempts k).Served ∧ (attempts k).devices ≠ [] := by
  induction r generalizing i g with
  | zero =>
      have hret : -EAGAIN = 0 := congrArg Prod.fst (Option.some.inj h)
      exact absurd hret (by decide)
  | succ r ih =>
      rw [deviceInitLoop] at h
      obtain ⟨⟨ret, g''⟩, hparse, h⟩ := Option.bind_eq_some_iff.mp h
      dsimp only at h
      split at h
      case isTrue hagain =>
        have hserved := served_of_parseSndCard hparse (.inr hagain)
        have hnone := (devices_of_parseSndCard hserved hparse).mpr hagain
        obtain ⟨k, hle, hlt, hfailed, hlast⟩ := ih h
        refine ⟨k, by omega, by omega, fun j hj hjk => ?_, hlast⟩
        rcases Nat.eq_or_lt_of_le hj with rfl | hj
        · exact ⟨hserved, hnone⟩
        · exact hfailed j hj hjk
      case isFalse hagain =>
        have hret : ret = 0 := congrArg Prod.fst (Option.some.inj h)
        have hserved := served_of_parseSndCard hparse (.inl hret)
        refine ⟨i, Nat.le_refl i, by omega, fun j hle hlt => absurd hlt (by omega), hserved, ?_⟩
        exact fun hnone => hagain ((devices_of_parseSndCard hserved hparse).mp hnone)

/-- `device_init` returns 0 only after an attempt that finds a device. -/
theorem foundAt_of_deviceInit {g g' : Globals} (h : deviceInit attempts g = some (0, g')) :
    ∃ k, FoundAt attempts k := by
  obtain ⟨k, -, hlt, hfailed, hserved, hfound⟩ := foundAt_of_deviceInitLoop h
  exact ⟨k, by omega, fun i hi => hfailed i (Nat.zero_le i) hi, hserved, hfound⟩

end runs

/-! ### When the list is that of the lines -/

/-- `device_list` holds the devices of the lines, in their order, and every string that was stored
into a `name[]` fits there with its terminator. -/
structure Enumerates (lines : List SndLine) (g : Globals) : Prop where
  count : g.numAudioIntfs = (lines.filterMap SndLine.dev?).length
  devices : g.deviceList.take g.numAudioIntfs = (lines.filterMap SndLine.dev?).map some
  names : ∀ name ∈ g.names, name.length + 1 ≤ MAX_DEV_NAME_LEN

/-- The lines are readable, the names at the earlier attempts fit, and the count, with what the
earlier attempts and calls left in it, is enough for the devices. -/
structure Enumerable (attempts : ℕ → Attempt) (n k : ℕ) (lines : List SndLine) : Prop where
  readable : ∀ l ∈ lines, l.Readable
  earlier : ∀ i < k, ∀ buffer ∈ (attempts i).buffers,
    (scanDevice buffer).name.length < MAX_DEV_NAME_LEN
  room : (lines.filterMap SndLine.dev?).length ≤ (n + counted attempts (k + 1)) % 2 ^ 32

theorem names_fit_iff {attempts : ℕ → Attempt} {k : ℕ} :
    (∀ name, (∃ i ≤ k, name ∈ (attempts i).names) → name.length + 1 ≤ MAX_DEV_NAME_LEN) ↔
      ∀ i ≤ k, ∀ buffer ∈ (attempts i).buffers,
        (scanDevice buffer).name.length < MAX_DEV_NAME_LEN := by
  constructor
  · intro h i hi buffer hbuffer
    exact h _ ⟨i, hi, List.mem_map_of_mem hbuffer⟩
  · rintro h name ⟨i, hi, hname⟩
    obtain ⟨buffer, hbuffer, rfl⟩ := List.mem_map.mp hname
    exact h i hi buffer hbuffer

/-- A line for a slimbus device. -/
def slimLine (card : ℕ) (h : card < 2 ^ 31) : SndLine where
  card := card
  device := 0
  idname := "SLIM-DEV1-RX".toList
  rest := "SLIM : playback 1".toList
  card_lt := h
  device_lt := by decide
  idname_word := by simp [isSpace]
  rest_line := by decide

/-- A file without a device of the service first, and then one with these lines. -/
def secondTime (lines : List SndLine) : ℕ → Attempt
  | 0 => ⟨some "00-00: none : none : capture 1\n".toList, true, fun _ => true⟩
  | _ => ⟨some (SndLine.file lines), true, fun _ => true⟩

/-- `device_init` returns 0 only after an attempt that finds a device; and exactly when it then
leaves the devices of the lines of that attempt. -/
theorem deviceInit_enumerates_iff (attempts : ℕ → Attempt) (n : ℕ) :
    (∀ g, deviceInit attempts { numAudioIntfs := n } = some (0, g) → ∃ k, FoundAt attempts k) ∧
      ∀ k lines, FoundAt attempts k → (attempts k).file = some (SndLine.file lines) →
        ((∃ g, deviceInit attempts { numAudioIntfs := n } = some (0, g) ∧ Enumerates lines g) ↔
          Enumerable attempts n k lines) := by
  refine ⟨fun g h => foundAt_of_deviceInit h, fun k lines hfoundAt hfile => ?_⟩
  obtain ⟨names, hnames, hinit⟩ := deviceInit_eq hfoundAt n
  have hbuffers : (attempts k).buffers = buffers (SndLine.file lines) := by
    rw [Attempt.buffers, hfile]
    rfl
  have hfit : (∀ name ∈ names, name.length + 1 ≤ MAX_DEV_NAME_LEN) ↔
      ∀ i ≤ k, ∀ buffer ∈ (attempts i).buffers,
        (scanDevice buffer).name.length < MAX_DEV_NAME_LEN := by
    rw [← names_fit_iff]
    exact forall_congr' fun name => by rw [hnames]
  have hreadable := SndLine.readable_iff lines
  rw [← hbuffers, show (attempts k).buffers.filterMap deviceOf = (attempts k).devices from rfl]
    at hreadable
  rw [hinit]
  constructor
  · rintro ⟨g, hg, henum⟩
    split at hg
    case isFalse => exact nomatch hg
    case isTrue hroom =>
      obtain ⟨-, rfl⟩ := Prod.mk.inj (Option.some.inj hg)
      have hnames := hfit.mp henum.names
      have hdevices : (attempts k).devices = lines.filterMap SndLine.dev? := by
        have htake := henum.devices
        rw [List.take_left' (List.length_map some)] at htake
        exact List.map_injective_iff.mpr (Option.some_injective _) htake
      exact
        { readable := hreadable.mp ⟨hdevices, hnames k (Nat.le_refl k)⟩
          earlier := fun i hi => hnames i (Nat.le_of_lt hi)
          room := by rwa [← hdevices] }
  · intro h
    obtain ⟨hdevices, hnames⟩ := hreadable.mpr h.readable
    have hroom := h.room
    rw [← hdevices] at hroom
    rw [if_pos hroom]
    refine ⟨_, rfl, by rw [hdevices], ?_, hfit.mpr fun i hi => ?_⟩
    · rw [← hdevices]
      exact List.take_left' (List.length_map some)
    · rcases Nat.lt_or_eq_of_le hi with hi | rfl
      · exact h.earlier i hi
      · exact hnames

/-- A retry, and then two lines. -/
theorem deviceInit_enumerates_retry :
    ∃ g, deviceInit (secondTime [slimLine 0 (by decide), slimLine 99 (by decide)])
        { numAudioIntfs := 0 } = some (0, g) ∧
      Enumerates [slimLine 0 (by decide), slimLine 99 (by decide)] g := by
  have hfoundAt : FoundAt (secondTime [slimLine 0 (by decide), slimLine 99 (by decide)]) 1 :=
    { retries := by decide
      failed := fun i hi => by
        obtain rfl := Nat.lt_one_iff.mp hi
        exact ⟨⟨nofun, rfl, fun _ _ => rfl⟩, by decide +kernel⟩
      served := ⟨nofun, rfl, fun _ _ => rfl⟩
      found := by decide +kernel }
  refine ((deviceInit_enumerates_iff _ 0).2 1 _ hfoundAt rfl).mpr ⟨?_, fun i hi => ?_, ?_⟩
  · have hshort : ∀ card (h : card < 2 ^ 31), card < 100 → (slimLine card h).Readable :=
      fun card h hcard => SndLine.readable_of_short
        (by
          have hlen := (printed_of_lt card hcard).1
          have hzero : (printed 0).length = 2 := rfl
          simp [SndLine.text, slimLine, hlen, hzero, MAX_BUF_SIZE])
        hcard (Nat.succ_pos 99) (show "SLIM-DEV1-RX".toList.length < 80 by decide)
    exact List.forall_mem_cons.mpr
      ⟨hshort 0 _ (by decide), List.forall_mem_singleton.mpr (hshort 99 _ (by decide))⟩
  · obtain rfl := Nat.lt_one_iff.mp hi
    decide +kernel
  · decide +kernel

/-- The device of a card with three digits is missing, though its name is accepted. -/
theorem deviceInit_enumerates_threeDigits :
    ∃ g, deviceInit (secondTime [slimLine 0 (by decide), slimLine 100 (by decide)])
        { numAudioIntfs := 0 } = some (0, g) ∧
      ¬ Enumerates [slimLine 0 (by decide), slimLine 100 (by decide)] g := by
  have hrun : (deviceInit (secondTime [slimLine 0 (by decide), slimLine 100 (by decide)])
      { numAudioIntfs := 0 }).map (fun p => (p.1, p.2.numAudioIntfs)) = some (0, 1) := by
    decide +kernel
  have htwo : ([slimLine 0 (by decide), slimLine 100 (by decide)].filterMap
      SndLine.dev?).length = 2 := by decide +kernel
  obtain ⟨⟨ret, g⟩, hg, heq⟩ := Option.map_eq_some_iff.mp hrun
  obtain ⟨rfl, hone⟩ := Prod.mk.inj heq
  refine ⟨g, hg, fun h => ?_⟩
  have hcount := h.count
  rw [htwo] at hcount
  exact absurd (hone.symm.trans hcount) (by decide)

/-! ### The service on these devices -/

/-- The service that starts with the devices found. -/
def serviceOf (g : Globals) : World :=
  { startUp g.numAudioIntfs with
    dev := fun d =>
      { hwEpDir :=
          ((g.deviceList.getD d none).bind DeviceInfo.hwEpInfo).elim .audioOutput HwEpInfo.dir } }

theorem initial_serviceOf (g : Globals) : Initial (serviceOf g) where
  pool := rfl
  idle _ := ⟨rfl, rfl, rfl⟩
  heap _ := rfl
  configs := rfl
  edges := rfl

/-- The interfaces of the service are the devices of the lines, with their directions. -/
theorem Enumerates.hwEpDir {lines : List SndLine} {g : Globals} (h : Enumerates lines g) {d : ℕ}
    {dev : DeviceInfo} (hdev : (lines.filterMap SndLine.dev?)[d]? = some dev) :
    d < (serviceOf g).numAudioIntfs ∧
      ((serviceOf g).dev d).hwEpDir = dev.hwEpInfo.elim .audioOutput HwEpInfo.dir := by
  have hlt : d < g.numAudioIntfs := by
    rw [h.count]
    exact (List.getElem?_eq_some_iff.mp hdev).1
  have hlist : g.deviceList[d]? = some (some dev) := by
    rw [← List.getElem?_take_of_lt hlt, h.devices, List.getElem?_map, hdev]
    rfl
  refine ⟨hlt, ?_⟩
  have hget : g.deviceList.getD d none = some dev := by
    rw [List.getD_eq_getElem?_getD, hlist]
    rfl
  show ((g.deviceList.getD d none).bind DeviceInfo.hwEpInfo).elim _ _ = _
  rw [hget]
  rfl

end Agm
