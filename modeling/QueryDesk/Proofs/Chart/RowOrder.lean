import QueryDesk.Proofs.Lists
import QueryDesk.Proofs.Chart.Inference
import QueryDesk.Proofs.Chart.Rules
import Mathlib.Data.Finset.Card
import Mathlib.Data.List.Perm.Basic

/-! # Suggestions do not depend on the order of the rows

What is known of a column is the same in whatever order its values come: their category is told by which values there
are (`inferCategory_congr`), and how many different values there are is the size of a set
(`uniqueCount_eq_card`). The rules look at nothing else of the rows but their number.
-/

set_option autoImplicit false

namespace QueryDesk

/-! ## Values in another order -/

variable {values values' : List Cell}

theorem inferCategory_of_perm (h : values.Perm values') : inferCategory values = inferCategory values' := by
  refine inferCategory_congr ?_
  intro c _
  exact h.mem_iff

/-- The count of different values is the size of the set of the keys of the values that are not null. -/
theorem uniqueCount_eq_card (values : List Cell) :
    uniqueCount values = ((values.filter fun c => !c.isNull).map Cell.key).toFinset.card := by
  rw [uniqueCount, ← List.toFinset_card_of_nodup (nodup_eraseDups _)]
  congr 1
  ext key
  rw [List.mem_toFinset, List.mem_toFinset, List.mem_eraseDups]

theorem uniqueCount_of_perm (h : values.Perm values') : uniqueCount values = uniqueCount values' := by
  rw [uniqueCount_eq_card, uniqueCount_eq_card, List.toFinset_eq_of_perm _ _ ((h.filter _).map Cell.key)]

theorem columnCategory_of_perm (h : values.Perm values') (typeName : String) (aggregation : Aggregation) :
    columnCategory typeName aggregation values = columnCategory typeName aggregation values' := by
  unfold columnCategory
  rw [inferCategory_of_perm h]

/-! ## Rows in another order -/

namespace QueryResult

variable {r : QueryResult} {rows : List (List Cell)}

theorem columnValues_perm (h : rows.Perm r.rows) (index : Nat) :
    ({ r with rows := rows }.columnValues index).Perm (r.columnValues index) :=
  h.filterMap _

/-- What is known of a column does not depend on the order of the rows. -/
theorem profile?_of_perm (h : rows.Perm r.rows) (selections : List Selection) (index : Nat) (name : String) :
    profile? { r with rows := rows } selections index name = profile? r selections index name := by
  have hvalues := columnValues_perm h index
  simp only [profile?]
  rw [uniqueCount_of_perm hvalues, columnCategory_of_perm hvalues]
  rfl

/-- **The order of the rows changes nothing in what is suggested**: with the rows in any other order every column
has the same profile, and the same charts are suggested in the same way. -/
theorem suggestions_of_perm (h : rows.Perm r.rows) (selections : List Selection) :
    { r with rows := rows }.profiles selections = r.profiles selections ∧
      { r with rows := rows }.suggestions selections = r.suggestions selections := by
  have hprofiles : { r with rows := rows }.profiles selections = r.profiles selections :=
    List.filterMap_congr fun entry _ => profile?_of_perm h selections entry.2 entry.1
  refine ⟨hprofiles, ?_⟩
  have hrows : { r with rows := rows }.rows.length = r.rows.length := h.length_eq
  rw [QueryResult.suggestions, hprofiles, hrows, ← QueryResult.suggestions]

/-- The levels of a river, in a table without type names and with rows that are too short and too long. -/
def readings : QueryResult where
  columns := ["day", "level", "note"]
  columnTypes := []
  rows := [
    [.text "2024-01-02", .number (.ofNat 3), .text "3"],
    [.null],
    [.text "2024-01-01", .text "7", .text "low", .null],
    [.text "2024-01-01", .number (.ofNat 7), .number (.ofNat 3)],
    []]
  rowCount := 5
  truncated := false
  executionTimeMs := 2

/-- Read from behind, the days are still dates, and a number counts no more than once beside a text with its
digits. -/
theorem suggestions_readings :
    readings.rows.reverse.Perm readings.rows ∧ readings.rows.reverse ≠ readings.rows ∧
      { readings with rows := readings.rows.reverse }.profiles [] =
        [⟨"day", .date, 2, false⟩, ⟨"level", .categorical, 2, false⟩, ⟨"note", .categorical, 2, false⟩] ∧
      { readings with rows := readings.rows.reverse }.suggestions [] = readings.suggestions [] := by
  have hperm : readings.rows.reverse.Perm readings.rows := List.reverse_perm _
  obtain ⟨hprofiles, hsuggestions⟩ := suggestions_of_perm hperm []
  refine ⟨hperm, by decide, ?_, hsuggestions⟩
  rw [hprofiles]
  decide +kernel

end QueryResult

end QueryDesk
