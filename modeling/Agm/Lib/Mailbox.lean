import Mathlib

/-! # One slot for several mailboxes

Every owner has a mailbox of its own; an implementation has one slot for all of them.  `Holds box
slot` says that the slot has the content of every mailbox that is not empty, and nothing else.

Putting into a mailbox keeps this when the others are empty or have the same content (`Holds.put`);
emptying one is putting nothing. -/

namespace Mailbox

variable {ι β : Type} {box : ι → Option β} {slot : Option β}

/-- The slot has the content of every mailbox that is not empty, and nothing else. -/
structure Holds (box : ι → Option β) (slot : Option β) : Prop where
  kept : ∀ i, ∀ b ∈ box i, slot = some b
  owned : ∀ b ∈ slot, ∃ i, box i = some b

theorem Holds.empty : Holds (fun _ : ι => none) (none : Option β) where
  kept _ _ hb := absurd hb (Option.not_mem_none _)
  owned _ hb := absurd hb (Option.not_mem_none _)

/-- A mailbox that is not empty has what is in the slot. -/
theorem Holds.box_eq_some (h : Holds box slot) {b : β} (hs : slot = some b) {i : ι}
    (hi : box i ≠ none) : box i = some b := by
  obtain ⟨c, hc⟩ := Option.ne_none_iff_exists'.mp hi
  rw [hc, ← h.kept i c hc, hs]

variable [DecidableEq ι]

theorem Holds.put {i : ι} {o : Option β} (h : ∀ j, j ≠ i → ∀ b ∈ box j, o = some b) :
    Holds (Function.update box i o) o where
  kept j b hb := by
    rcases eq_or_ne j i with rfl | hne
    · rw [Function.update_self] at hb
      exact hb
    · rw [Function.update_of_ne hne] at hb
      exact h j hne b hb
  owned b hb := ⟨i, by rw [Function.update_self]; exact hb⟩

end Mailbox
