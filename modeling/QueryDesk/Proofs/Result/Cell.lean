import QueryDesk.Proofs.Json.FiniteNumbers
import QueryDesk.Proofs.Json.Record
import QueryDesk.Result.Cell

/-! # Cells in JSON

A cell is read back from the JSON it is written as, both where only cells are accepted
(`Cell.ofJson?_toJson`) and where any value is (`Cell.ofValue_toJson`). In the second case a container
becomes its text, which is the JSON of the container and stays as it is from then on
(`Cell.exists_ofValue_container`).
-/

set_option autoImplicit false

namespace QueryDesk

open Json

namespace Cell

/-! ## Numbers -/

/-- The number that a cell is, if it is one. -/
def ownNumber? : Cell → Option Double
  | .number x => some x
  | _ => none

theorem ownNumber?_eq_some_iff {c : Cell} {x : Double} : c.ownNumber? = some x ↔ c = .number x := by
  cases c <;> simp [ownNumber?]

/-- A cell is written so that it is read back if its number is. -/
theorem writableWithin {c : Cell} (h : ∀ x, c.ownNumber? = some x → x.ReadsBack) (limit : Nat) :
    WritableWithin limit c.toJson := by
  cases c with
  | null => exact writableWithin_null limit
  | bool b => exact writableWithin_bool limit b
  | number x => exact writableWithin_double limit (h x rfl)
  | text s => exact writableWithin_text limit s

/-! ## Where only cells are accepted -/

theorem ofJson?_toJson (c : Cell) : ofJson? c.toJson = some c := by cases c <;> rfl

/-- Only a number is read as a number. -/
theorem eq_number_of_ofJson? {v : Json} {x : Double} (h : ofJson? v = some (.number x)) :
    ∃ n, v = .number n ∧ n.toDouble = x := by
  cases v <;> simp_all [ofJson?]

/-- Only null is read as a null cell. -/
theorem eq_null_of_ofJson? {v : Json} (h : ofJson? v = some .null) : v = .null := by
  cases v <;> simp_all [ofJson?]

theorem isFinite_of_ofJson? {v : Json} {c : Cell} (hv : v.Finite) (h : ofJson? v = some c) :
    ∀ x, c.ownNumber? = some x → x.isFinite = true := by
  intro x hx
  rw [ownNumber?_eq_some_iff.mp hx] at h
  obtain ⟨n, rfl, rfl⟩ := eq_number_of_ofJson? h
  exact hv

/-! ## Where any value is accepted -/

theorem ofValue_toJson (c : Cell) : ofValue c.toJson = c := by cases c <;> rfl

theorem isFinite_of_ofValue {v : Json} (hv : v.Finite) :
    ∀ x, (ofValue v).ownNumber? = some x → x.isFinite = true := by
  intro x hx
  cases v with
  | number n => exact Option.some.inj hx ▸ hv
  | null | bool _ | text _ | array _ | object _ | unheld => simp [ofValue, ownNumber?] at hx

/-- **A container becomes the text of its JSON**, which can be read once, and which is no longer a container:
as a value it stays the same text. -/
theorem exists_ofValue_container {v : Json} (h : (∃ items, v = .array items) ∨ ∃ members, v = .object members)
    (hv : v.Writable) :
    ∃ s, ofValue v = .text s ∧ parse? s = some v.sorted ∧ ofValue (ofValue v).toJson = .text s := by
  have htext : ofValue v = .text v.sorted.toCompact := by
    rcases h with ⟨items, rfl⟩ | ⟨members, rfl⟩ <;> rfl
  refine ⟨v.sorted.toCompact, htext, parse?_toCompact (leaves_sorted v hv), ?_⟩
  rw [ofValue_toJson, htext]

end Cell

end QueryDesk
