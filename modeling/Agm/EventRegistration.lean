import Agm.Types
import Agm.SwCodec
import Agm.Lib.Block

/-! # Event registration (`graph_register_for_events`)

The request to GSL is a `struct gsl_cmd_register_custom_event` with the client's payload behind it,
in one block.  Its size is that of the struct plus that of the payload; the payload is copied to
`reg_ev_payload + sizeof(apm_module_register_events_t)`, which counts in structs, not in bytes.

The two structs come from headers of GSL and the DSP; they are the parameter `GslHeaders`.

* `Registration` is what a request should be.
* `registration_iff`: exactly when the function stays inside of the block and sends such a
  request. -/

namespace Agm

open Block
open SwBinder (AgmEventRegCfg)

/-! ### The request -/

/-- The fields of `struct gsl_cmd_register_custom_event`. -/
inductive CustomEventField where
  | eventId | moduleInstanceId | eventConfigPayloadSize | isRegister
deriving DecidableEq, Repr

/-- What the headers of GSL and the platform define: `registerEventsSize` is
`sizeof(apm_module_register_events_t)`. -/
structure GslHeaders where
  sizeBits : ℕ
  customEvent : Layout CustomEventField
  registerEventsSize : ℕ
  int_le_size : 32 ≤ sizeBits
  width_ids : ∀ f, f ≠ .isRegister → 4 ≤ customEvent.width f
  size_lt : customEvent.size < 2 ^ 30
  registerEventsSize_pos : 0 < registerEventsSize

namespace GslHeaders
variable (H : GslHeaders)

/-- `payload_size`. -/
def payloadSize (cfg : AgmEventRegCfg) : ℕ :=
  (H.customEvent.size + cfg.payload.length) % 2 ^ H.sizeBits

/-- `reg_ev_payload + sizeof(apm_module_register_events_t)`, as an offset in bytes. -/
def payloadOffset : ℕ := H.customEvent.size * H.registerEventsSize

/-- The stores into the fields of the struct. -/
def writeHeader (cfg : AgmEventRegCfg) : Access Unit := do
  H.customEvent.set 0 .eventId cfg.eventId.toNat
  H.customEvent.set 0 .moduleInstanceId cfg.moduleInstanceId.toNat
  H.customEvent.set 0 .eventConfigPayloadSize cfg.payload.length
  H.customEvent.set 0 .isRegister cfg.isRegister.toNat
  pure ()

/-- What is written into the block. -/
def writeRegistration (cfg : AgmEventRegCfg) : Access Unit := do
  H.writeHeader cfg
  storeBytes H.payloadOffset cfg.payload

end GslHeaders

/-- A call's return value, the request that went to `gsl_ioctl` and the graph object after it. -/
structure Registered where
  ret : ℤ
  sent : Option Payload
  graph : Option GraphObj

/-- `graph_register_for_events`; `none` if it writes outside of its block. -/
def graphRegisterForEvents (H : GslHeaders) (heap : Heap H.sizeBits) (gslIoctl : Payload → ℤ)
    (gphObj : Option GraphObj) (evtRegCfg : Option AgmEventRegCfg) : Option Registered :=
  match gphObj, evtRegCfg with
  | none, _ => some ⟨-EINVAL, none, none⟩
  | some gph, none => some ⟨-EINVAL, none, some gph⟩
  | some gph, some cfg =>
      if gph.handle = 0 then some ⟨-EINVAL, none, some gph⟩
      else if heap.serves (H.payloadSize cfg) then
        match H.writeRegistration cfg (List.replicate (H.payloadSize cfg) 0) with
        | none => none
        | some (_, regEvPayload) =>
            let ret := gslIoctl regEvPayload
            let ret := if ret ≠ 0 then arErrGetLnxErrCode ret else ret
            some ⟨ret, some regEvPayload, some { gph with timestamp := 0 }⟩
      else some ⟨-ENOMEM, none, some gph⟩

/-! ### What is sent -/

/-- The bytes are a header with the values of the client, and the client's payload. -/
structure Registration (H : GslHeaders) (cfg : AgmEventRegCfg) (bytes : Payload) : Prop where
  length : bytes.length = H.customEvent.size + cfg.payload.length
  eventId : H.customEvent.get bytes .eventId = cfg.eventId.toNat
  moduleInstanceId : H.customEvent.get bytes .moduleInstanceId = cfg.moduleInstanceId.toNat
  payloadSize : H.customEvent.get bytes .eventConfigPayloadSize = cfg.payload.length
  isRegister : H.customEvent.get bytes .isRegister = cfg.isRegister.toNat
  payload : bytes.drop H.customEvent.size = cfg.payload

/-- Whatever the heap can give, the function stays inside of its block, and what it sends is the
registration of the client. -/
def Registers (H : GslHeaders) (gslIoctl : Payload → ℤ) (gphObj : Option GraphObj)
    (cfg : AgmEventRegCfg) : Prop :=
  ∀ heap, ∃ r, graphRegisterForEvents H heap gslIoctl gphObj (some cfg) = some r ∧
    ∀ bytes ∈ r.sent, Registration H cfg bytes

/-- When the request comes out right: there is no graph handle or no payload; or the struct that
the offset counts in is of one byte and the sizes do not wrap; or no heap has memory for it. -/
def Registrable (H : GslHeaders) (gphObj : Option GraphObj) (cfg : AgmEventRegCfg) : Prop :=
  (∀ gph ∈ gphObj, gph.handle = 0) ∨ cfg.payload = [] ∨
    (H.registerEventsSize = 1 ∧ H.customEvent.size + cfg.payload.length < 2 ^ H.sizeBits) ∨
    2 ^ (H.sizeBits - 1) ≤ H.payloadSize cfg

/-! ### Writing -/

namespace GslHeaders
variable {H : GslHeaders} {cfg : AgmEventRegCfg}

theorem cut_uint32 {f : CustomEventField} (hf : f ≠ .isRegister) {x : ℕ} (hx : x < 2 ^ 32) :
    cut (H.customEvent.width f) x = x := by
  have hwide : 256 ^ 4 ≤ 256 ^ H.customEvent.width f :=
    Nat.pow_le_pow_right (by decide) (H.width_ids f hf)
  rw [cut_natCast]
  exact Nat.mod_eq_of_lt (lt_of_lt_of_le hx hwide)

theorem cut_uint8 (f : CustomEventField) (x : UInt8) :
    cut (H.customEvent.width f) x.toNat = x.toNat := by
  rw [cut_natCast]
  have hlt : x.toNat < 256 := x.toNat_lt
  exact Nat.mod_eq_of_lt (lt_of_lt_of_le hlt (Nat.le_self_pow (H.customEvent.width_pos f).ne' 256))

/-- A block with room for the struct gets the values of the client in its fields. -/
theorem writeHeader_fills (hcfg : cfg.payload.length < 2 ^ 32) {n : ℕ} (hn : H.customEvent.size ≤ n)
    (v : CustomEventField → ℕ) :
    Fills H.customEvent n (H.writeHeader cfg) v fun _ v' =>
      v' .eventId = cfg.eventId.toNat ∧ v' .moduleInstanceId = cfg.moduleInstanceId.toNat ∧
        v' .eventConfigPayloadSize = cfg.payload.length ∧ v' .isRegister = cfg.isRegister.toNat := by
  have hplaced : H.customEvent.Placed 0 H.customEvent id :=
    ⟨fun _ => (Nat.zero_add _).symm, fun _ => rfl⟩
  unfold writeHeader
  iterate 4 refine .set hplaced hn ?_
  refine .pure ?_
  simp only [id_eq, ne_eq, reduceCtorEq, not_false_eq_true, Function.update_of_ne,
    Function.update_self]
  exact ⟨cut_uint32 (by decide) cfg.eventId.toNat_lt,
    cut_uint32 (by decide) cfg.moduleInstanceId.toNat_lt, cut_uint32 (by decide) hcfg,
    cut_uint8 _ _⟩

/-- With the payload right behind the struct, or with no payload, the block is a registration. -/
theorem writeRegistration_registers (hcfg : cfg.payload.length < 2 ^ 32)
    (hoff : cfg.payload = [] ∨ H.payloadOffset = H.customEvent.size) :
    ∃ bytes, H.writeRegistration cfg
        (List.replicate (H.customEvent.size + cfg.payload.length) 0) = some ((), bytes) ∧
      Registration H cfg bytes := by
  obtain ⟨_, header, hrun, hlen, hids⟩ := writeHeader_fills (H := H) hcfg
    (Nat.le_add_right _ cfg.payload.length) _ _ List.length_replicate rfl
  have hin : H.customEvent.size + cfg.payload.length ≤ header.length := by omega
  have hcopy : storeBytes H.payloadOffset cfg.payload header =
      some ((), splice header cfg.payload H.customEvent.size) := by
    rcases hoff with hnil | hoff
    · rw [hnil, splice_nil]
      rfl
    · rw [hoff, storeBytes_eq hin]
  have hkeep : H.customEvent.get (splice header cfg.payload H.customEvent.size) =
      H.customEvent.get header := by
    funext f
    exact leAt_splice_apart hin (.inl (H.customEvent.fits f))
  refine ⟨splice header cfg.payload H.customEvent.size, ?_, ?_⟩
  · show (H.writeHeader cfg _).bind (fun p => storeBytes H.payloadOffset cfg.payload p.2) = _
    rw [hrun]
    exact hcopy
  · obtain ⟨hevent, hmodule, hsize, hregister⟩ := hids
    exact
      { length := by rw [length_splice hin, hlen]
        eventId := by rw [hkeep, hevent]
        moduleInstanceId := by rw [hkeep, hmodule]
        payloadSize := by rw [hkeep, hsize]
        isRegister := by rw [hkeep, hregister]
        payload := by
          rw [drop_splice hin, List.drop_of_length_le (Nat.le_of_eq hlen), List.append_nil] }

theorem writeHeader_steady : Steady (H.writeHeader cfg) := by
  unfold writeHeader
  iterate 4 refine .bind (.set _ _ _ _) fun _ => ?_
  exact .pure _

/-- A payload that is copied to beyond the end of the block is a write outside of it. -/
theorem writeRegistration_eq_none {block : Payload} (hne : cfg.payload ≠ [])
    (hout : block.length < H.payloadOffset + cfg.payload.length) :
    H.writeRegistration cfg block = none := by
  show (H.writeHeader cfg block).bind (fun p => storeBytes H.payloadOffset cfg.payload p.2) = none
  cases hrun : H.writeHeader cfg block with
  | none => rfl
  | some p =>
      refine storeBytes_eq_none hne ?_
      rw [writeHeader_steady _ _ _ hrun]
      exact hout

end GslHeaders

/-! ### When the request is right -/

section registers
variable {H : GslHeaders} {cfg : AgmEventRegCfg} {gph : GraphObj} {gslIoctl : Payload → ℤ}
  {heap : Heap H.sizeBits}

theorem graphRegisterForEvents_served (hgph : gph.handle ≠ 0)
    (hserves : heap.serves (H.payloadSize cfg) = true) :
    graphRegisterForEvents H heap gslIoctl (some gph) (some cfg) =
      match H.writeRegistration cfg (List.replicate (H.payloadSize cfg) 0) with
      | none => none
      | some (_, regEvPayload) =>
          some ⟨if gslIoctl regEvPayload ≠ 0 then arErrGetLnxErrCode (gslIoctl regEvPayload)
            else gslIoctl regEvPayload, some regEvPayload, some { gph with timestamp := 0 }⟩ := by
  unfold graphRegisterForEvents
  dsimp only
  rw [if_neg hgph, if_pos hserves]

theorem graphRegisterForEvents_refused (hgph : gph.handle ≠ 0)
    (hserves : heap.serves (H.payloadSize cfg) = false) :
    graphRegisterForEvents H heap gslIoctl (some gph) (some cfg) =
      some ⟨-ENOMEM, none, some gph⟩ := by
  unfold graphRegisterForEvents
  dsimp only
  rw [if_neg hgph, hserves]
  rfl

theorem registrationSize_le : H.payloadSize cfg ≤ H.customEvent.size + cfg.payload.length :=
  Nat.mod_le _ _

theorem registrationSize_of_lt (h : H.customEvent.size + cfg.payload.length < 2 ^ H.sizeBits) :
    H.payloadSize cfg = H.customEvent.size + cfg.payload.length :=
  Nat.mod_eq_of_lt h

/-- Sizes that do not wrap, with the payload in its place or no payload. -/
theorem registers_of_fits (hcfg : cfg.payload.length < 2 ^ 32)
    (hsize : H.customEvent.size + cfg.payload.length < 2 ^ H.sizeBits)
    (hoff : cfg.payload = [] ∨ H.payloadOffset = H.customEvent.size) (hgph : gph.handle ≠ 0) :
    Registers H gslIoctl (some gph) cfg := by
  intro heap
  cases hserves : heap.serves (H.payloadSize cfg) with
  | false => exact ⟨_, graphRegisterForEvents_refused hgph hserves, nofun⟩
  | true =>
      obtain ⟨bytes, hrun, hreg⟩ := GslHeaders.writeRegistration_registers hcfg hoff
      rw [graphRegisterForEvents_served hgph hserves, registrationSize_of_lt hsize, hrun]
      exact ⟨_, rfl, fun _ h => Option.mem_some.mp h ▸ hreg⟩

/-- Exactly when `graph_register_for_events` stays inside of its block and sends the registration of
the client. -/
theorem registration_iff (H : GslHeaders) (gslIoctl : Payload → ℤ) (gphObj : Option GraphObj)
    (cfg : AgmEventRegCfg) (hcfg : cfg.payload.length < 2 ^ 32) :
    Registers H gslIoctl gphObj cfg ↔ Registrable H gphObj cfg := by
  unfold Registrable
  cases gphObj with
  | none => exact iff_of_true (fun _ => ⟨_, rfl, nofun⟩) (.inl nofun)
  | some gph =>
    by_cases hgph : gph.handle = 0
    · refine iff_of_true (fun heap => ⟨⟨-EINVAL, none, some gph⟩, ?_, nofun⟩) (.inl ?_)
      · unfold graphRegisterForEvents
        dsimp only
        rw [if_pos hgph]
      · exact fun _ h => Option.mem_some.mp h ▸ hgph
    have hstruct : H.customEvent.size < 2 ^ H.sizeBits :=
      lt_of_lt_of_le H.size_lt
        (Nat.pow_le_pow_right (by decide) (Nat.le_trans (by decide) H.int_le_size))
    constructor
    · -- the ample heap serves the block unless no heap does
      intro h
      by_contra hnot
      simp only [not_or, not_and, Nat.not_le, Nat.not_lt] at hnot
      obtain ⟨-, hne, hwrap, hample⟩ := hnot
      have hout : H.payloadSize cfg < H.payloadOffset + cfg.payload.length := by
        have hpos : 0 < H.customEvent.size := H.customEvent.size_pos .eventId
        have hlen : 0 < cfg.payload.length := List.length_pos_of_ne_nil hne
        by_cases hone : H.registerEventsSize = 1
        · have hlt : H.payloadSize cfg < 2 ^ H.sizeBits := Nat.mod_lt _ (Nat.pow_pos (by decide))
          have hwrap := hwrap hone
          rw [GslHeaders.payloadOffset, hone, Nat.mul_one]
          omega
        · have htwo : 2 ≤ H.registerEventsSize := by
            have := H.registerEventsSize_pos
            omega
          have hmul := Nat.mul_le_mul_left H.customEvent.size htwo
          have hle := @registrationSize_le H cfg
          rw [GslHeaders.payloadOffset]
          omega
      obtain ⟨r, hrun, -⟩ := h (Heap.ample H.sizeBits)
      rw [graphRegisterForEvents_served hgph (decide_eq_true hample),
        GslHeaders.writeRegistration_eq_none hne (by rw [List.length_replicate]; exact hout)] at hrun
      cases hrun
    · rintro (hnull | hnil | ⟨hone, hsize⟩ | hample)
      · exact absurd (hnull gph rfl) hgph
      · exact registers_of_fits hcfg (by rw [hnil]; exact hstruct) (.inl hnil) hgph
      · exact registers_of_fits hcfg hsize
          (.inr (by rw [GslHeaders.payloadOffset, hone, Nat.mul_one])) hgph
      · exact fun heap =>
          ⟨_, graphRegisterForEvents_refused hgph (heap.refuses _ hample), nofun⟩

end registers

/-! ### Headers of usual sizes -/

/-- Both structs of 32-bit fields. -/
def usualGslHeaders : GslHeaders where
  sizeBits := 64
  customEvent :=
    { size := 16
      offset
        | .eventId => 0
        | .moduleInstanceId => 4
        | .eventConfigPayloadSize => 8
        | .isRegister => 12
      width := fun _ => 4
      width_pos := fun _ => by decide
      fits := by rintro (_ | _ | _ | _) <;> decide
      apart := by rintro (_ | _ | _ | _) (_ | _ | _ | _) <;> decide }
  registerEventsSize := 24
  int_le_size := by decide
  width_ids := fun _ _ => le_rfl
  size_lt := by decide
  registerEventsSize_pos := by decide

/-- A registration without a payload. -/
theorem registration_iff_noPayload :
    Registers usualGslHeaders (fun _ => 0) (some { handle := 1 }) ⟨0x4001, 0x0800113A, 1, []⟩ :=
  (registration_iff usualGslHeaders (fun _ => 0) _ ⟨0x4001, 0x0800113A, 1, []⟩ (by decide)).mpr
    (.inr (.inl rfl))

/-- Four bytes of payload, copied to 384 bytes from the start of a block of 20. -/
theorem registration_outOfBounds :
    ¬ Registers usualGslHeaders (fun _ => 0) (some { handle := 1 })
      ⟨0x4001, 0x0800113A, 1, [1, 0, 0, 0]⟩ := by
  intro h
  obtain ⟨r, hrun, -⟩ := h (Heap.ample usualGslHeaders.sizeBits)
  rw [graphRegisterForEvents_served (by decide) (by decide),
    GslHeaders.writeRegistration_eq_none (by decide) (by decide)] at hrun
  cases hrun

end Agm
