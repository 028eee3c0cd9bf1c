import QueryDesk.Proofs.Query.Step
import Mathlib.Data.List.InsertIdx

/-! # Moving an item

An item that is moved stands at its new place, and without it the list is what it was without it before
(`Moved`). This says the same of the list before and of the list after, so what was moved can be moved back.
Both places count in the whole list: the new one is where the item stands in the end, whichever of the two comes
first.
-/

set_option autoImplicit false

namespace QueryDesk

section Lists

variable {α : Type} {items moved : List α} {source target : Nat}

/-- **The list with an item moved** from one place to another. -/
structure Moved (items : List α) (source target : Nat) (moved : List α) : Prop where
  source_lt : source < items.length
  target_lt : target < moved.length
  item : moved[target]? = items[source]?
  /-- The others are there in the same order. -/
  others : moved.eraseIdx target = items.eraseIdx source

/-- What was moved can be moved back. -/
theorem Moved.symm (h : Moved items source target moved) : Moved moved target source items where
  source_lt := h.target_lt
  target_lt := h.source_lt
  item := h.item.symm
  others := h.others.symm

/-- A list with an item put in again is told by the item, its place and the others. -/
theorem Moved.eq_insertIdx (h : Moved items source target moved) {item : α} (hitem : items[source]? = some item) :
    moved = (items.eraseIdx source).insertIdx target item := by
  have htarget := h.item
  rw [hitem, List.getElem?_eq_getElem h.target_lt, Option.some.injEq] at htarget
  rw [← htarget, ← h.others, List.insertIdx_eraseIdx_getElem]

/-- **Moving gives the list with the item moved.** -/
theorem moveItem?_eq_some_iff_moved :
    moveItem? items source target = some moved ↔ Moved items source target moved := by
  rw [moveItem?_eq_some_iff]
  constructor
  · rintro ⟨htarget, item, hitem, rfl⟩
    have hsource := (List.getElem?_eq_some_iff.mp hitem).1
    have hle := le_length_eraseIdx hsource htarget
    exact {
      source_lt := hsource
      target_lt := by
        rw [List.length_insertIdx_of_le_length hle]
        exact Nat.lt_succ_of_le hle
      item := by rw [List.getElem?_insertIdx_self, if_pos hle, hitem]
      others := List.eraseIdx_insertIdx_self item }
  · intro h
    have hlength : moved.length = items.length := by
      have hothers := congrArg List.length h.others
      rw [List.length_eraseIdx_of_lt h.target_lt, List.length_eraseIdx_of_lt h.source_lt] at hothers
      have := h.source_lt
      have := h.target_lt
      omega
    have hitem := List.getElem?_eq_getElem h.source_lt
    exact ⟨hlength ▸ h.target_lt, _, hitem, (h.eq_insertIdx hitem).symm⟩

theorem exists_moveItem? (hs : source < items.length) (ht : target < items.length) :
    ∃ moved, moveItem? items source target = some moved :=
  ⟨_, moveItem?_eq_some_iff.mpr ⟨ht, _, List.getElem?_eq_getElem hs, rfl⟩⟩

theorem moveItem?_eq_none_iff :
    moveItem? items source target = none ↔ items.length ≤ source ∨ items.length ≤ target := by
  simp only [moveItem?, ite_eq_right_iff, Option.map_eq_none_iff, List.getElem?_eq_none_iff]
  omega

/-- **Moving an item is a reordering that can be undone.** With both places in the list the result has the same
items, the one that was moved at its new place and the others in their order, and moving it back gives the list
again. With a place outside of the list nothing is moved. -/
theorem moving_reorders (items : List α) (source target : Nat) :
    (source < items.length → target < items.length →
      ∃ moved, moveItem? items source target = some moved ∧ moved.Perm items ∧
        moved.length = items.length ∧ moved[target]? = items[source]? ∧
        moved.eraseIdx target = items.eraseIdx source ∧ moveItem? moved target source = some items) ∧
    (items.length ≤ source ∨ items.length ≤ target → moveItem? items source target = none) := by
  refine ⟨fun hs ht => ?_, moveItem?_eq_none_iff.mpr⟩
  obtain ⟨moved, hmove⟩ := exists_moveItem? hs ht
  have h := moveItem?_eq_some_iff_moved.mp hmove
  have hperm := moveItem?_perm hmove
  exact ⟨moved, hmove, hperm, hperm.length_eq, h.item, h.others, moveItem?_eq_some_iff_moved.mpr h.symm⟩

/-- One of two equal letters moved to the front, past the other one and back, and a place behind the end. -/
theorem moving_letters :
    3 < ['c', 'a', 'b', 'a'].length ∧ 0 < ['c', 'a', 'b', 'a'].length ∧
      moveItem? ['c', 'a', 'b', 'a'] 3 0 = some ['a', 'c', 'a', 'b'] ∧
      moveItem? ['a', 'c', 'a', 'b'] 0 3 = some ['c', 'a', 'b', 'a'] ∧
      ['c', 'a', 'b', 'a'].length ≤ 4 ∧ moveItem? ['c', 'a', 'b', 'a'] 0 4 = none := by
  have hs : 3 < ['c', 'a', 'b', 'a'].length := by decide
  have ht : 0 < ['c', 'a', 'b', 'a'].length := by decide
  have hend : ['c', 'a', 'b', 'a'].length ≤ 4 := by decide
  have hmoved : moveItem? ['c', 'a', 'b', 'a'] 3 0 = some ['a', 'c', 'a', 'b'] := by decide
  obtain ⟨moved, hmove, -, -, -, -, hback⟩ := (moving_reorders ['c', 'a', 'b', 'a'] 3 0).1 hs ht
  rw [hmoved, Option.some.injEq] at hmove
  subst hmove
  exact ⟨hs, ht, hmoved, hback, hend, (moving_reorders ['c', 'a', 'b', 'a'] 0 4).2 (.inr hend)⟩

end Lists

namespace Query

/-- **A column that is moved and moved back leaves the query as it was**, also where the edits are declined. -/
theorem edit_moveColumn_back (q : Query) (schema : Schema) (source target : Nat) :
    (q.edit schema (.moveColumn source target)).edit schema (.moveColumn target source) = q := by
  cases hmove : moveItem? q.columns source target with
  | none =>
      have hback : moveItem? q.columns target source = none :=
        moveItem?_eq_none_iff.mpr (moveItem?_eq_none_iff.mp hmove).symm
      have hdeclined : q.edit? schema (.moveColumn source target) = none := by rw [edit?, hmove, Option.map_none]
      rw [edit_of_eq_none hdeclined]
      exact edit_of_eq_none (by rw [edit?, hback, Option.map_none])
  | some columns =>
      have hback := moveItem?_eq_some_iff_moved.mpr (moveItem?_eq_some_iff_moved.mp hmove).symm
      rw [edit_of_eq_some (edit?_eq_some_iff.mpr (.moveColumn hmove))]
      exact edit_of_eq_some (edit?_eq_some_iff.mpr (.moveColumn hback))

end Query

end QueryDesk
