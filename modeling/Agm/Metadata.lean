import Agm.Types

/-! # Metadata (`metadata.c`)

A metadata value is a graph key vector, a calibration key vector and a property list, each a
count with a pointer.  `metadata_merge` concatenates the values it is given and drops repeated
keys in place; `metadata_copy` decodes the byte layout that clients send.

The merge allocates four blocks and returns `NULL` when one of them cannot be had: to its
callers this is the only thing that can go wrong, unless an argument is itself malformed (a
count with no array behind it), which is a crash. -/

namespace Agm

/-! ### Reading the arrays -/

/-- The `n` elements a pointer is read for. -/
def readArray {α : Type} (n : ℕ) (p : Option (List α)) : EnvM (List α) :=
  if n = 0 then pure []
  else
    match p with
    | none => Prog.fault .nullDeref
    | some l => if n ≤ l.length then pure (l.take n) else Prog.fault .outOfBounds

/-- Read one array of each non-`NULL` argument, in order. -/
def readAll {α : Type} (f : MetaData → ℕ × Option (List α)) : List (Option MetaData) → EnvM (List α)
  | [] => pure []
  | none :: ms => readAll f ms
  | some m :: ms => do
      let l ← readArray (f m).1 (f m).2
      let rest ← readAll f ms
      pure (l ++ rest)

/-! ### Removing duplicates in place -/

section removeDup
variable {α κ : Type} [Inhabited α] [DecidableEq κ] (key : α → κ)

/-- The innermost loop: from `k` on, every entry takes the place of its left neighbour. -/
def shiftDown (a : List α) : ℕ → ℕ → List α
  | 0, _ => a
  | n + 1, k => shiftDown (a.set k (a.getD (k + 1) default)) n (k + 1)

/-- The loop over `j`: drop the entries after `i` with the key of entry `i`.  Every turn advances
`j` or lowers `count`, so `count` turns are enough. -/
def dropDups (i : ℕ) : ℕ → List α → ℕ → ℕ → List α × ℕ
  | 0, a, count, _ => (a, count)
  | n + 1, a, count, j =>
      if j < count then
        if key (a.getD i default) = key (a.getD j default) then
          dropDups i n (shiftDown a (count - 1 - j) j) (count - 1) j
        else dropDups i n a count (j + 1)
      else (a, count)

/-- The loop over `i`. -/
def removeDupLoop : ℕ → List α → ℕ → ℕ → List α × ℕ
  | 0, a, count, _ => (a, count)
  | n + 1, a, count, i =>
      if i < count then
        let r := dropDups key i count a count (i + 1)
        removeDupLoop n r.1 r.2 (i + 1)
      else (a, count)

/-- One of the three parts of `metadata_remove_dup`: the array and its new count. -/
def removeDup (a : List α) : List α × ℕ := removeDupLoop key a.length a a.length 0

end removeDup

instance : Inhabited KeyValue := ⟨⟨0, 0⟩⟩

/-- `prop_id` of the last non-`NULL` argument. -/
def lastPropId : List (Option MetaData) → ℕ → ℕ
  | [], p => p
  | none :: ms, p => lastPropId ms p
  | some m :: ms, _ => lastPropId ms m.sgProps.propId

/-- `metadata_merge`: `none` when one of the four blocks cannot be allocated. -/
def metadataMerge (ms : List (Option MetaData)) : EnvM (Option MetaData) := do
  let merged ← calloc
  if !merged then pure none else
  let gkvBlock ← calloc
  if !gkvBlock then pure none else
  let ckvBlock ← calloc
  if !ckvBlock then pure none else
  let propBlock ← calloc
  if !propBlock then pure none else
  let gkv ← readAll (fun m => (m.gkv.numKvs, m.gkv.kv)) ms
  let ckv ← readAll (fun m => (m.ckv.numKvs, m.ckv.kv)) ms
  let props ← readAll (fun m => (m.sgProps.numValues, m.sgProps.values)) ms
  let g := removeDup KeyValue.key gkv
  let c := removeDup KeyValue.key ckv
  let p := removeDup id props
  pure (some
    { gkv := { numKvs := g.2, kv := some g.1 }
      ckv := { numKvs := c.2, kv := some c.1 }
      sgProps := { propId := lastPropId ms 0, numValues := p.2, values := some p.1 } })

/-! ### Decoding a client's buffer -/

/-- The little-endian 32-bit word at an offset. -/
def readU32 (buf : Payload) (off : ℕ) : EnvM ℕ :=
  match buf.drop off with
  | b0 :: b1 :: b2 :: b3 :: _ =>
      pure (b0.toNat + 2 ^ 8 * b1.toNat + 2 ^ 16 * b2.toNat + 2 ^ 24 * b3.toNat)
  | _ => Prog.fault .outOfBounds

/-- `n` key-value pairs from an offset on. -/
def readKvs (buf : Payload) (off : ℕ) : ℕ → EnvM (List KeyValue)
  | 0 => pure []
  | n + 1 => do
      let k ← readU32 buf off
      let v ← readU32 buf (off + 4)
      let rest ← readKvs buf (off + 8) n
      pure (⟨k, v⟩ :: rest)

/-- `n` words from an offset on. -/
def readWords (buf : Payload) (off : ℕ) : ℕ → EnvM (List ℕ)
  | 0 => pure []
  | n + 1 => do
      let v ← readU32 buf off
      let rest ← readWords buf (off + 4) n
      pure (v :: rest)

/-- `metadata_copy`: decode the buffer into `dest`, whose value on return is the second
component.  The declared size of the buffer is not looked at.  A failed allocation of the graph
key vector leaves its count behind; the later ones free `dest`. -/
def metadataCopy (dest : MetaData) (buf : Payload) : EnvM (ℤ × MetaData) := do
  let numGkv ← readU32 buf 0
  let gkvBlock ← calloc
  if !gkvBlock then
    pure (-ENOMEM, { dest with gkv := { numKvs := numGkv, kv := none } })
  else
  let gkv ← readKvs buf 4 numGkv
  let ckvAt := 4 + 8 * numGkv
  let numCkv ← readU32 buf ckvAt
  let ckvBlock ← calloc
  if !ckvBlock then pure (-ENOMEM, {}) else
  let ckv ← readKvs buf (ckvAt + 4) numCkv
  let propAt := ckvAt + 4 + 8 * numCkv
  let propId ← readU32 buf propAt
  let numProps ← readU32 buf (propAt + 4)
  let propBlock ← calloc
  if !propBlock then pure (-ENOMEM, {}) else
  let props ← readWords buf (propAt + 8) numProps
  pure (0,
    { gkv := { numKvs := numGkv, kv := some gkv }
      ckv := { numKvs := numCkv, kv := some ckv }
      sgProps := { propId := propId, numValues := numProps, values := some props } })

/-! ### Calibration -/

/-- The value of a key after all entries of a calibration vector were applied to it. -/
def updatedValue (kv : KeyValue) : List KeyValue → KeyValue
  | [] => kv
  | c :: cs => updatedValue (if kv.key = c.key then { kv with value := c.value } else kv) cs

/-- `metadata_update_cal`. -/
def metadataUpdateCal (m : MetaData) (ckv : List KeyValue) : EnvM MetaData := do
  let l ← readArray m.ckv.numKvs m.ckv.kv
  let kv := m.ckv.kv.map (fun a => l.map (fun e => updatedValue e ckv) ++ a.drop m.ckv.numKvs)
  pure { m with ckv := { m.ckv with kv := kv } }

end Agm
