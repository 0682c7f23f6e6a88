import Mathlib.Data.List.Basic

/-! # Keyed registries

A registry is a list of entries, each with a key.  An entry is added at the end; a key is dropped
together with all entries that carry it.  `surviving` says what a history of requests leaves,
reading it forwards: an entry stays if its key is not dropped later on.

* `foldl_after`: a registry that answers the requests one by one holds what survives. -/

namespace Registry

variable {α κ : Type*} [DecidableEq κ] (key : α → κ)

/-- A request to a registry. -/
inductive Req (α κ : Type*) where
  | add (a : α)
  | drop (k : κ)
deriving DecidableEq, Repr

/-- The registry after one request. -/
def after (pool : List α) : Req α κ → List α
  | .add a => pool ++ [a]
  | .drop k => pool.filter fun a => key a ≠ k

/-- The key is dropped somewhere in the history. -/
def Drops (k : κ) : List (Req α κ) → Bool
  | [] => false
  | .add _ :: reqs => Drops k reqs
  | .drop k' :: reqs => decide (k = k') || Drops k reqs

/-- The entries whose key is not dropped after they were added, in the order of addition. -/
def surviving : List (Req α κ) → List α
  | [] => []
  | .add a :: reqs => if Drops (key a) reqs then surviving reqs else a :: surviving reqs
  | .drop _ :: reqs => surviving reqs

/-- What survives has been added. -/
theorem add_mem_of_mem_surviving {reqs : List (Req α κ)} {a : α} (h : a ∈ surviving key reqs) :
    Req.add a ∈ reqs := by
  induction reqs with
  | nil => cases h
  | cons r reqs ih =>
      cases r with
      | add b =>
          unfold surviving at h
          split at h
          · exact List.mem_cons_of_mem _ (ih h)
          · obtain rfl | h := List.mem_cons.mp h
            · exact List.mem_cons_self
            · exact List.mem_cons_of_mem _ (ih h)
      | drop k => exact List.mem_cons_of_mem _ (ih h)

/-- Answering the requests one by one keeps the old entries that are not dropped and adds what
survives of the new ones. -/
theorem foldl_after (reqs : List (Req α κ)) (pool : List α) :
    reqs.foldl (after key) pool =
      pool.filter (fun a => !Drops (key a) reqs) ++ surviving key reqs := by
  induction reqs generalizing pool with
  | nil =>
      show pool = pool.filter (fun _ => true) ++ []
      rw [List.filter_true, List.append_nil]
  | cons r reqs ih =>
      rw [List.foldl_cons, ih]
      cases r with
      | add a =>
          simp only [after, List.filter_append, Drops, surviving, List.append_assoc]
          cases h : Drops (key a) reqs with
          | true => simp [h]
          | false => simp [h]
      | drop k =>
          simp only [after, List.filter_filter, surviving, Drops]
          congr 1
          refine List.filter_congr fun a _ => ?_
          by_cases h : key a = k <;> simp [h]

theorem foldl_after_nil (reqs : List (Req α κ)) :
    reqs.foldl (after key) [] = surviving key reqs := by
  rw [foldl_after, List.filter_nil, List.nil_append]

/-- Dropping a key last removes its entries and keeps the order of the others. -/
theorem surviving_concat_drop (reqs : List (Req α κ)) (k : κ) :
    surviving key (reqs ++ [.drop k]) = (surviving key reqs).filter fun a => key a ≠ k := by
  rw [← foldl_after_nil, ← foldl_after_nil, List.foldl_append]
  rfl

end Registry
