import Mathlib.Data.List.Basic
import Mathlib.Logic.Function.Basic

/-! # Sessions as the services see them (`agm.c`)

A service gives its clients the address of a session object as a handle and hands the handle
back to `agm_session_close`.  Of a session it matters here whether it has an object, and which
process has it open; `none` is a crash, after a pointer that is no session has been followed. -/

namespace Agm

/-- Where the session objects live; the address of a session is its handle. -/
structure SessAddr where
  addr : ℕ → ℕ
  addr_ne_zero : ∀ s, addr s ≠ 0
  addr_inj : Function.Injective addr

/-- Session objects one after the other. -/
def SessAddr.successive : SessAddr where
  addr s := s + 1
  addr_ne_zero := Nat.succ_ne_zero
  addr_inj _ _ := Nat.succ.inj

/-- How `session_obj_open` of a closed session ends. -/
inductive OpenAnswer where
  | noObject
  | fails
  | opens
deriving DecidableEq, Repr

/-- The sessions that have an object, and who has them open. -/
structure Sessions (P : Type) where
  sessionPool : List ℕ := []
  openedBy : ℕ → Option P := fun _ => none

section
variable {P : Type} (A : SessAddr)

/-- `agm_session_open`; the handle is stored if it succeeds. -/
def agmSessionOpen (p : P) (s : ℕ) (answer : OpenAnswer) (x : Sessions P) :
    Option ℕ × Sessions P :=
  match x.openedBy s with
  | some _ => (none, x)
  | none =>
      match answer with
      | .noObject => (none, x)
      | .fails => (none, { x with sessionPool := s :: x.sessionPool })
      | .opens =>
          (some (A.addr s),
            { sessionPool := s :: x.sessionPool
              openedBy := Function.update x.openedBy s (some p) })

/-- `agm_session_close`; a closed session stays closed. -/
def agmSessionClose (h : ℕ) (x : Sessions P) : Option (Sessions P) :=
  if h = 0 then some x else
  match x.sessionPool.find? fun s => A.addr s = h with
  | none => none
  | some s => some { x with openedBy := Function.update x.openedBy s none }

/-- The handles of a list, one after the other. -/
def closeHandles : List ℕ → Sessions P → Option (Sessions P)
  | [], x => some x
  | h :: hs, x => (agmSessionClose A h x).bind (closeHandles hs)

variable {A} {x : Sessions P}

theorem agmSessionClose_eq {s : ℕ} (hs : s ∈ x.sessionPool) :
    agmSessionClose A (A.addr s) x =
      some { x with openedBy := Function.update x.openedBy s none } := by
  have hfind : x.sessionPool.find? (fun t => A.addr t = A.addr s) = some s := by
    have hsome : (x.sessionPool.find? fun t => A.addr t = A.addr s).isSome = true :=
      List.find?_isSome.mpr ⟨s, hs, decide_eq_true rfl⟩
    obtain ⟨t, ht⟩ := Option.isSome_iff_exists.mp hsome
    have hts := List.find?_some ht
    rw [ht, A.addr_inj (of_decide_eq_true hts)]
  unfold agmSessionClose
  rw [if_neg (A.addr_ne_zero s), hfind]

/-- Closing the handles of session objects. -/
theorem closeHandles_eq {hs : List ℕ} (hobj : ∀ h ∈ hs, ∃ s ∈ x.sessionPool, A.addr s = h) :
    closeHandles A hs x =
      some { x with openedBy := fun s => if A.addr s ∈ hs then none else x.openedBy s } := by
  induction hs generalizing x with
  | nil => simp [closeHandles]
  | cons h hs ih =>
      obtain ⟨s, hs₀, rfl⟩ := hobj h List.mem_cons_self
      unfold closeHandles
      rw [agmSessionClose_eq hs₀, Option.bind_some]
      refine (ih (x := { x with openedBy := Function.update x.openedBy s none })
        fun h' hh' => hobj h' (List.mem_cons_of_mem _ hh')).trans ?_
      congr 2
      funext t
      by_cases ht : t = s
      · subst ht
        simp
      · have hne : A.addr t ≠ A.addr s := fun h => ht (A.addr_inj h)
        simp [Function.update_of_ne ht, hne]

end

end Agm
