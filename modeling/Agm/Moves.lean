import Agm.Lib.Moves
import Agm.SessionApi

/-! # What the functions of a session move along

A function of a session is made of a few primitive steps: external calls, a call on a device or
on a graph, an assignment to a state, an entry of a record.  `Routine s R` says that every such
step moves the service along the preorder `R`; then so do the functions of the session, whatever
they return.  `Reopening s R` adds the steps that assign the graph pointer.

The cached parameters are what one usually wants to follow, so sending them is no primitive step:
the functions that do it take it as a hypothesis. -/

namespace Agm

open Prog

/-- The function leaves the metadata of its device alone. -/
def KeepsMetadata (m : DevM ℤ) : Prop :=
  ∀ t, Ensures anyFault m t fun _ t' => t'.obj.metadata = t.obj.metadata

/-- The primitive steps of the functions of session `s` move along the preorder `R`. -/
structure Routine (s : ℕ) (R : World → World → Prop) : Prop where
  preorder : IsPreorder World R
  external : ∀ {α : Type} (m : EnvM α), Moves R (env m)
  device : ∀ (d : Option ℕ) (m : DevM ℤ), KeepsMetadata m → Moves R (onDevice d m)
  graph : ∀ (p : Option ℕ) (m : View → GraphM ℤ), Moves R (onGraph p m)
  close : ∀ p : Option ℕ, Moves R (graphClose p)
  lookup : ∀ t, Moves R (sessionObjGet t)
  edge : ∀ (w : World) (e : EdgeCall), R w { w with edges := e :: w.edges }
  pair : ∀ i st, Moves R (setAifState s i st)
  aif : ∀ aif, Moves R (aifObjGet s aif)
  state : ∀ st, st ≠ .sessionClosed → Moves R (modifySess s fun x => { x with state := st })

/-- And so do the steps that assign the graph pointer or close the session. -/
structure Reopening (s : ℕ) (R : World → World → Prop) : Prop extends Routine s R where
  opens : ∀ md dev, Moves R (graphOpen md s dev)
  forget : Moves R (modifySess s fun x => { x with graph := none })
  closed : Moves R (modifySess s fun x => { x with state := .sessionClosed })

/-! ### Devices -/

theorem deviceOpen_keepsMetadata : KeepsMetadata deviceOpen := fun t =>
  (deviceOpen_ensures t).imp fun _ t' h => by
    rcases h with ⟨-, -, h⟩ | ⟨-, -, h⟩ | ⟨-, -, h⟩ <;> rw [h]

theorem devicePrepare_keepsMetadata : KeepsMetadata devicePrepare := fun t =>
  (devicePrepare_ensures t).imp fun _ t' h => by
    rcases h with ⟨-, -, h⟩ | ⟨-, -, h⟩ | ⟨-, -, h⟩ <;> rw [h]

theorem deviceStart_keepsMetadata : KeepsMetadata deviceStart := fun t =>
  (deviceStart_ensures t).imp fun _ t' h => by
    rcases h with ⟨-, -, h⟩ | ⟨-, -, -, h⟩ | ⟨-, -, -, h⟩ <;> rw [h]

theorem deviceStop_keepsMetadata : KeepsMetadata deviceStop := fun t =>
  (deviceStop_ensures t).imp fun _ t' h => by
    rcases h with ⟨-, h⟩ | ⟨-, h⟩ | ⟨-, -, h⟩ <;> rw [h]

theorem deviceClose_keepsMetadata : KeepsMetadata deviceClose := fun t =>
  (deviceClose_ensures t).imp fun _ t' h => by rcases h with ⟨-, h⟩ | ⟨-, h⟩ <;> rw [h]

section
variable {s : ℕ} {R : World → World → Prop} (hR : Routine s R)
include hR

/-! ### Metadata -/

theorem devMetadata_moves (dev : Option ℕ) : Moves R (devMetadata dev) := by
  have := hR.preorder
  cases dev with
  | none => exact moves_fault _
  | some d => exact moves_gets _

theorem mergeAif_moves (t i : ℕ) : Moves R (mergeAif t i) := by
  have := hR.preorder
  apply moves_bind (moves_gets _)
  intro sess
  apply moves_bind (moves_gets _)
  intro aif
  apply moves_bind (devMetadata_moves hR _)
  intro dev
  exact hR.external _

theorem sessionGetMergedMetadata_moves (t : ℕ) : Moves R (sessionGetMergedMetadata t) := by
  have := hR.preorder
  apply moves_bind (moves_bind (moves_gets _) fun _ => moves_pure _)
  intro is
  refine moves_forAll (fun i temp => ?_) is none
  apply moves_bind (moves_gets _)
  intro sess
  apply moves_bind (moves_gets _)
  intro aif
  apply moves_bind (devMetadata_moves hR _)
  intro dev
  exact hR.external _

theorem sessionGetMergedMetadataWithoutAif_moves (t : ℕ) :
    Moves R (sessionGetMergedMetadataWithoutAif t) := by
  have := hR.preorder
  apply moves_bind (moves_bind (moves_gets _) fun _ => moves_pure _)
  intro is
  refine moves_forAll (fun i temp => ?_) is none
  apply moves_bind (moves_gets _)
  intro sess
  apply moves_bind (moves_gets _)
  intro aif
  exact hR.external _

theorem disconnectMetadata_moves (i n : ℕ) : Moves R (disconnectMetadata s i n) := by
  have := hR.preorder
  apply moves_bind (mergeAif_moves hR s i)
  intro merged
  cases merged with
  | none => exact moves_pure none
  | some md =>
      apply moves_ite
      · apply moves_bind (moves_gets _)
        intro aif
        apply moves_bind (devMetadata_moves hR _)
        intro dev
        apply moves_bind (hR.external _)
        intro aifMd
        exact moves_pure _
      · exact moves_pure _

/-! ### Edges -/

theorem deviceGetObj_moves (aif : ℕ) : Moves R (deviceGetObj aif) := by
  have := hR.preorder
  apply moves_bind (moves_gets _)
  intro num
  apply moves_bind (moves_gets _)
  intro past
  exact moves_ite (moves_pure _) (moves_pure _)

theorem setEdge_moves (kind : EdgeKind) (id : ℕ) (enable : Bool) (md : MetaData) :
    Moves R (setEdge s kind id enable md) := by
  have := hR.preorder
  apply moves_bind (moves_gets _)
  intro sess
  apply moves_bind (moves_ite (hR.graph _ _) (hR.graph _ _))
  intro ret
  apply moves_bind (moves_modify fun w => hR.edge w _)
  intro _
  exact moves_pure ret

theorem sessionSetLoopback_moves (pb : ℕ) (enable : Bool) :
    Moves R (sessionSetLoopback s pb enable) := by
  have := hR.preorder
  apply moves_bind (hR.lookup pb)
  intro ret
  apply moves_ite (moves_pure ret)
  apply moves_bind (sessionGetMergedMetadata_moves hR s)
  intro capture
  apply moves_ite (moves_pure _)
  apply moves_bind (sessionGetMergedMetadata_moves hR pb)
  intro playback
  apply moves_ite (moves_pure _)
  apply moves_bind (hR.external _)
  intro merged
  cases merged with
  | none => exact moves_pure _
  | some md => exact setEdge_moves hR _ _ _ _

theorem sessionSetEcRef_moves (aif : ℕ) (enable : Bool) :
    Moves R (sessionSetEcRef s aif enable) := by
  have := hR.preorder
  apply moves_bind (deviceGetObj_moves hR aif)
  intro dev
  apply moves_ite (moves_pure _)
  apply moves_bind (sessionGetMergedMetadataWithoutAif_moves hR s)
  intro capture
  apply moves_ite (moves_pure _)
  apply moves_bind (devMetadata_moves hR _)
  intro devMd
  apply moves_bind (hR.external _)
  intro merged
  cases merged with
  | none => exact moves_pure _
  | some md => exact setEdge_moves hR _ _ _ _

theorem openEdges_moves : Moves R (openEdges s) := by
  have := hR.preorder
  have hloop : Moves R (openLoopback s) := by
    apply moves_bind (moves_gets _)
    intro sess
    exact moves_ite (sessionSetLoopback_moves hR _ _) (moves_pure _)
  apply moves_bind hloop
  intro ret
  apply moves_ite (moves_pure ret)
  apply moves_bind (moves_gets _)
  intro sess
  exact moves_ite (sessionSetEcRef_moves hR _ _) (moves_pure _)

/-! ### Disconnecting and connecting -/

theorem sessionDisconnectAif_moves (i n : ℕ) : Moves R (sessionDisconnectAif s i n) := by
  have := hR.preorder
  apply moves_bind (disconnectMetadata_moves hR i n)
  intro merged
  cases merged with
  | none => exact moves_pure _
  | some md =>
      apply moves_bind (moves_gets _)
      intro sess
      apply moves_bind (moves_gets _)
      intro aif
      apply moves_bind (moves_ite (hR.graph _ _) (hR.graph _ _))
      intro _
      exact hR.device _ _ deviceClose_keepsMetadata

/-- With an interface open already, or in a session that is open, connecting opens no graph. -/
theorem graphAdd_connect_moves {i n : ℕ} (hn : n ≠ 0) (md : MetaData) :
    Moves R (connectGraph s i n md) := by
  have := hR.preorder
  apply moves_bind (moves_gets _)
  intro sess
  apply moves_bind (moves_gets _)
  intro aif
  rw [if_neg hn]
  apply moves_bind (hR.graph _ _)
  intro ret
  exact moves_ite (moves_pure _) (moves_pure _)

/-- Bringing an interface into the graph, given what opening one does. -/
theorem connectGraph_moves (hopens : ∀ md dev, Moves R (graphOpen md s dev)) (i n : ℕ)
    (md : MetaData) : Moves R (connectGraph s i n md) := by
  have := hR.preorder
  apply moves_bind (moves_gets _)
  intro sess
  apply moves_bind (moves_gets _)
  intro aif
  apply moves_ite
  · apply moves_ite
    · apply moves_bind (hopens _ _)
      intro ret
      apply moves_ite (moves_pure _)
      apply moves_bind (moves_gets _)
      intro sess
      apply moves_bind (hR.graph _ _)
      intro ret
      exact moves_ite (moves_pure _) (moves_pure _)
    · apply moves_bind (hR.graph _ _)
      intro ret
      exact moves_ite (moves_pure _) (moves_pure _)
  · apply moves_bind (hR.graph _ _)
    intro ret
    exact moves_ite (moves_pure _) (moves_pure _)

theorem graphCleanup_moves (n : ℕ) (md : MetaData) : Moves R (graphCleanup s n md) := by
  have := hR.preorder
  apply moves_bind (moves_gets _)
  intro sess
  exact moves_ite (hR.close _) (hR.graph _ _)

/-- A connection, given what it does to the graph and to the cached parameters. -/
theorem sessionConnectAif_moves {i n : ℕ} (hgraph : ∀ md, Moves R (connectGraph s i n md))
    (hsend : Moves R (sendParams s i)) : Moves R (sessionConnectAif s i n) := by
  have := hR.preorder
  have hsteps : Moves R (connectSteps s i n) := by
    apply moves_bind (mergeAif_moves hR s i)
    intro merged
    cases merged with
    | none => exact moves_pure _
    | some md =>
        apply moves_bind (moves_gets _)
        intro aif
        apply moves_bind (hR.device _ _ deviceOpen_keepsMetadata)
        intro ret
        apply moves_ite (moves_pure _)
        apply moves_bind (hgraph md)
        intro exit
        cases exit with
        | done ret =>
            apply moves_bind hsend
            intro ret
            exact moves_ite (moves_pure _) (moves_pure _)
        | graphCleanup ret md => exact moves_pure _
        | closeDevice ret => exact moves_pure _
  apply moves_bind hsteps
  intro exit
  apply moves_bind (moves_gets _)
  intro aif
  cases exit with
  | done ret => exact moves_pure ret
  | graphCleanup ret md =>
      apply moves_bind (graphCleanup_moves hR n md)
      intro _
      apply moves_bind (hR.device _ _ deviceClose_keepsMetadata)
      intro _
      exact moves_pure ret
  | closeDevice ret =>
      apply moves_bind (hR.device _ _ deviceClose_keepsMetadata)
      intro _
      exact moves_pure ret

/-! ### Preparing and starting -/

theorem sessionPrepare_moves : Moves R (sessionPrepare s) := by
  have := hR.preorder
  have hturn : ∀ i, Moves R (prepareAif s i) := by
    intro i
    apply moves_bind (moves_gets _)
    intro aif
    apply moves_ite
    · apply moves_bind (hR.device _ _ devicePrepare_keepsMetadata)
      intro ret
      apply moves_ite (moves_pure ret)
      apply moves_bind (hR.pair i _)
      intro _
      exact moves_pure 0
    · exact moves_pure 0
  apply moves_bind (moves_gets _)
  intro sess
  apply moves_ite (moves_pure _)
  apply moves_bind (moves_ite (hR.graph _ _) (moves_pure _))
  intro ret
  apply moves_ite (moves_pure ret)
  apply moves_bind (moves_bind (moves_gets _) fun _ => moves_pure _)
  intro is
  apply moves_bind (moves_forEach hturn is)
  intro ret
  apply moves_ite (moves_pure ret)
  apply moves_bind (moves_ite (hR.graph _ _) (moves_pure _))
  intro ret
  apply moves_ite (moves_pure ret)
  apply moves_bind (hR.state _ (by decide))
  intro _
  exact moves_pure 0

theorem startGate_moves : Moves R (startGate s) := by
  have := hR.preorder
  have hloop : Moves R (checkLoopback s) := by
    apply moves_bind (moves_gets _)
    intro sess
    apply moves_ite
    · apply moves_bind (hR.lookup _)
      intro ret
      apply moves_ite (moves_pure ret)
      apply moves_bind (moves_gets _)
      intro pb
      exact moves_pure _
    · exact moves_pure _
  have hec : Moves R (checkEcRef s) := by
    apply moves_bind (moves_gets _)
    intro sess
    apply moves_ite
    · apply moves_bind (deviceGetObj_moves hR _)
      intro dev
      apply moves_ite (moves_pure _)
      cases dev.2 with
      | none => exact moves_fault _
      | some d =>
          apply moves_bind (moves_gets _)
          intro dev
          exact moves_pure _
    · exact moves_pure _
  apply moves_bind (moves_gets _)
  intro sess
  apply moves_ite (moves_pure _)
  apply moves_ite
  · apply moves_bind hloop
    intro ret
    apply moves_ite (moves_pure ret)
    apply moves_bind hec
    intro ret
    apply moves_ite (moves_pure ret)
    apply moves_bind (moves_gets _)
    intro sess
    exact hR.graph _ _
  · exact moves_pure _

theorem stopAif_moves (st : AifState) (i : ℕ) (ret : ℤ) : Moves R (stopAif s st i ret) := by
  have := hR.preorder
  apply moves_bind (moves_gets _)
  intro aif
  apply moves_ite
  · apply moves_bind (hR.device _ _ deviceStop_keepsMetadata)
    intro ret
    apply moves_bind (hR.pair i st)
    intro _
    exact moves_pure ret
  · exact moves_pure ret

theorem sessionStart_moves : Moves R (sessionStart s) := by
  have := hR.preorder
  have hturn : ∀ i, Moves R (startAif s i) := by
    intro i
    apply moves_bind (moves_gets _)
    intro aif
    apply moves_ite
    · apply moves_bind (hR.device _ _ deviceStart_keepsMetadata)
      intro ret
      apply moves_ite (moves_pure ret)
      apply moves_bind (hR.pair i _)
      intro _
      exact moves_pure 0
    · exact moves_pure 0
  have hdevices : Moves R (startDevices s) := by
    apply moves_bind (moves_bind (moves_gets _) fun _ => moves_pure _)
    intro is
    apply moves_bind (moves_forEach hturn is)
    intro ret
    apply moves_ite (moves_pure ret)
    apply moves_bind (moves_gets _)
    intro sess
    exact moves_ite (hR.graph _ _) (moves_pure _)
  have hunwind : Moves R (unwindStart s) := by
    apply moves_bind (moves_gets _)
    intro sess
    apply moves_bind (moves_ite (hR.graph _ _) (moves_pure _))
    intro _
    apply moves_bind (moves_bind (moves_gets _) fun _ => moves_pure _)
    intro is
    apply moves_bind (moves_forAll (stopAif_moves hR _) is 0)
    intro _
    exact moves_pure _
  apply moves_bind (startGate_moves hR)
  intro ret
  apply moves_ite (moves_pure ret)
  apply moves_bind hdevices
  intro ret
  apply moves_ite
  · apply moves_bind hunwind
    intro _
    exact moves_pure ret
  · apply moves_bind (hR.state _ (by decide))
    intro _
    exact moves_pure 0

/-! ### The loop over the other interfaces -/

theorem connectReminders_moves (hsend : ∀ i, Moves R (sendParams s i)) (l : List ℕ) :
    ∀ n, n ≠ 0 → Moves R (connectReminders s l n) := by
  have := hR.preorder
  induction l with
  | nil => exact fun n _ => moves_pure 0
  | cons i is ih =>
      intro n hn
      apply moves_bind (moves_gets _)
      intro aif
      apply moves_ite
      · apply moves_bind (sessionConnectAif_moves hR (graphAdd_connect_moves hR hn) (hsend i))
        intro ret
        apply moves_ite (moves_pure ret)
        apply moves_bind (hR.pair i _)
        intro _
        exact ih (n + 1) (by omega)
      · exact ih n hn

theorem openReminders_moves (hsend : ∀ i, Moves R (sendParams s i)) : Moves R (openReminders s) := by
  have := hR.preorder
  apply moves_bind (moves_bind (moves_gets _) fun _ => moves_pure _)
  intro is
  exact connectReminders_moves hR hsend is 1 (by decide)

theorem aifDisconnectBody_moves (i n : ℕ) : Moves R (aifDisconnectBody s i n) := by
  have := hR.preorder
  apply moves_bind (moves_gets _)
  intro sess
  apply moves_bind (hR.pair i _)
  intro _
  apply moves_bind (moves_ite (moves_pure _) (sessionDisconnectAif_moves hR i n))
  intro ret
  apply moves_ite (moves_pure ret)
  apply moves_bind (hR.pair i _)
  intro _
  exact moves_pure 0

/-- A connection to a session, given what `session_connect_aif` does. -/
theorem aifConnectBody_moves {i n : ℕ} (hconn : Moves R (sessionConnectAif s i n)) :
    Moves R (aifConnectBody s i n) := by
  have := hR.preorder
  have hhot : Moves R (hotConnect s i n) := by
    apply moves_bind hconn
    intro ret
    apply moves_ite (moves_pure ret)
    apply moves_bind (hR.pair i _)
    intro _
    exact moves_pure 0
  have hprep : ∀ ret : ℤ, Moves R (if ret ≠ 0 then pure (.done ret) else do
      let ret ← sessionPrepare s
      if ret ≠ 0 then pure (.unwind ret i (n + 1)) else pure (.done 0) : AgmM AifConnectExit) := by
    intro ret
    apply moves_ite (moves_pure _)
    apply moves_bind (sessionPrepare_moves hR)
    intro ret
    exact moves_ite (moves_pure _) (moves_pure _)
  apply moves_bind (moves_gets _)
  intro sess
  cases sess.state with
  | sessionOpened =>
      apply moves_bind hhot
      intro ret
      exact moves_pure _
  | sessionPrepared => exact moves_bind hhot hprep
  | sessionStopped => exact moves_bind hhot hprep
  | sessionStarted =>
      apply moves_bind hhot
      intro ret
      apply moves_ite (moves_pure _)
      apply moves_bind (sessionPrepare_moves hR)
      intro ret
      apply moves_ite (moves_pure _)
      apply moves_bind (sessionStart_moves hR)
      intro ret
      exact moves_ite (moves_pure _) (moves_pure _)
  | sessionClosed =>
      apply moves_bind (hR.pair i _)
      intro _
      exact moves_pure _

/-- What stands at the label `unwind` of `session_obj_sess_aif_connect`. -/
theorem aifConnectExit_moves (exit : AifConnectExit) : Moves R (match exit with
    | .done ret => pure ret
    | .unwind ret i count => do
        let _ ← sessionDisconnectAif s i count
        pure ret : AgmM ℤ) := by
  have := hR.preorder
  cases exit with
  | done ret => exact moves_pure ret
  | unwind ret i count =>
      apply moves_bind (sessionDisconnectAif_moves hR i count)
      intro _
      exact moves_pure ret

/-- A connection or a disconnection, given what `session_connect_aif` does. -/
theorem sessionObjSessAifConnect_moves (aif : ℕ) {connect : Bool}
    (hconn : connect = true → ∀ i n, Moves R (sessionConnectAif s i n)) :
    Moves R (sessionObjSessAifConnect s aif connect) := by
  have := hR.preorder
  have hsteps : Moves R (aifConnectSteps s aif connect) := by
    apply moves_bind (hR.aif aif)
    intro r
    apply moves_ite (moves_pure _)
    apply moves_bind (moves_gets _)
    intro obj
    apply moves_ite (moves_pure _)
    apply moves_bind (moves_gets _)
    intro sess
    cases connect with
    | true => exact aifConnectBody_moves hR (hconn rfl _ _)
    | false =>
        apply moves_bind (aifDisconnectBody_moves hR _ _)
        intro ret
        exact moves_pure _
  apply moves_bind hsteps
  intro exit
  exact aifConnectExit_moves hR exit

/-- A call with the id of a session. -/
theorem withId_moves (t : ℕ) {m : AgmM ℤ} (hm : Moves R m) : Moves R (withId t m) := by
  have := hR.preorder
  apply moves_bind (hR.lookup t)
  intro ret
  exact moves_ite (moves_pure ret) hm

end

/-! ### Opening and closing -/

section
variable {s : ℕ} {R : World → World → Prop} (hR : Reopening s R)
include hR

/-- Every connection, given what sending the cached parameters does. -/
theorem Reopening.sessionConnectAif {i : ℕ} (hsend : Moves R (sendParams s i)) (n : ℕ) :
    Moves R (sessionConnectAif s i n) :=
  sessionConnectAif_moves hR.toRoutine (connectGraph_moves hR.toRoutine hR.opens i n) hsend

theorem Reopening.unwindReminders : Moves R (unwindReminders s) := by
  have := hR.preorder
  have hturn : ∀ i ret, Moves R (unwindReminder s i ret) := by
    intro i ret
    apply moves_bind (moves_gets _)
    intro aif
    apply moves_ite
    · apply moves_bind (sessionDisconnectAif_moves hR.toRoutine i 1)
      intro ret
      apply moves_bind (hR.pair i _)
      intro _
      exact moves_pure ret
    · exact moves_pure ret
  apply moves_bind (moves_bind (moves_gets _) fun _ => moves_pure _)
  intro is
  apply moves_bind (moves_forAll hturn is 0)
  intro _
  apply moves_bind (moves_gets _)
  intro sess
  apply moves_bind (hR.close _)
  intro ret
  apply moves_bind hR.forget
  intro _
  exact moves_pure ret

theorem Reopening.sessionObjOpen (hsend : ∀ i, Moves R (sendParams s i)) :
    Moves R (sessionObjOpen s) := by
  have := hR.preorder
  have hfirst : Moves R (sessionOpenWithFirstDevice s) := by
    apply moves_bind (moves_gets _)
    intro sess
    cases sess.aifPool.findIdx? fun a => decide (a.state = .aifOpen) with
    | none => exact moves_pure _
    | some i =>
        apply moves_bind (hR.sessionConnectAif (hsend i) 0)
        intro ret
        apply moves_ite (moves_pure ret)
        apply moves_bind (hR.pair i _)
        intro _
        exact moves_pure 0
  have hrest : Moves R (sessionConnectReminderDevices s) := by
    apply moves_bind (openReminders_moves hR.toRoutine hsend)
    intro ret
    exact moves_ite hR.unwindReminders (moves_pure 0)
  apply moves_bind (hR.lookup s)
  intro ret
  apply moves_ite (moves_pure ret)
  apply moves_bind (moves_gets _)
  intro sess
  apply moves_ite (moves_pure _)
  apply moves_bind hfirst
  intro ret
  apply moves_ite (moves_pure ret)
  apply moves_bind hrest
  intro ret
  apply moves_ite (moves_pure ret)
  apply moves_bind (openEdges_moves hR.toRoutine)
  intro ret
  apply moves_ite (moves_pure ret)
  apply moves_bind (hR.state _ (by decide))
  intro _
  exact moves_pure 0

theorem Reopening.sessionClose : Moves R (sessionClose s) := by
  have := hR.preorder
  have hturn : ∀ i ret, Moves R (closeAif s i ret) := by
    intro i ret
    apply moves_bind (moves_gets _)
    intro aif
    apply moves_ite
    · apply moves_bind (hR.device _ _ deviceClose_keepsMetadata)
      intro ret
      apply moves_bind (hR.pair i _)
      intro _
      exact moves_pure ret
    · exact moves_pure ret
  apply moves_bind (moves_gets _)
  intro sess
  apply moves_ite (moves_pure _)
  apply moves_bind (moves_ite (hR.graph _ _) (moves_pure _))
  intro _
  apply moves_bind (hR.close _)
  intro ret
  apply moves_bind hR.forget
  intro _
  apply moves_bind (moves_bind (moves_gets _) fun _ => moves_pure _)
  intro is
  apply moves_bind (moves_forAll hturn is ret)
  intro ret
  apply moves_bind hR.closed
  intro _
  exact moves_pure ret

end

end Agm
