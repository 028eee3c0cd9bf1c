import QueryDesk.Query.TableId
import QueryDesk.Proofs.Lists
import QueryDesk.Proofs.Text.Decimal

/-! # Fresh table ids

The id of the next table is the id of no table of the query (`nextTableId_fresh`), as long as the
numbers of 32 bits do not run out: `Query.NumbersLeft` says that no id has the last of them.
-/

set_option autoImplicit false

namespace QueryDesk

namespace TableId

/-- The last number an id can have. -/
def lastNumber : Nat := 4294967295

/-- **An id is read back as its number.** -/
theorem number?_ofNumber {n : Nat} (h : n ≤ lastNumber) : number? (ofNumber n) = some n := by
  have hlt : n < UInt32.size := Nat.lt_succ_of_le h
  rw [number?, ofNumber, String.toList_ofList]
  exact Text.readUnsigned?_natText hlt

theorem number?_le {id : String} {n : Nat} (h : number? id = some n) : n ≤ lastNumber := by
  unfold number? at h
  split at h
  · exact Nat.le_of_lt_succ (Text.readUnsigned?_lt h)
  · simp at h

/-! ## The highest number -/

/-- No id has a number above the highest. -/
theorem number_le_highest {ids : List String} {id : String} {n : Nat} (hid : id ∈ ids)
    (hn : number? id = some n) : n ≤ highest ids :=
  le_foldl_max (Or.inr (List.mem_filterMap.mpr ⟨id, hid, hn⟩))

/-- The highest number is zero or the number of an id. -/
theorem highest_eq (ids : List String) :
    highest ids = 0 ∨ ∃ id ∈ ids, number? id = some (highest ids) := by
  rcases foldl_max_mem 0 (ids.filterMap number?) with h | h
  · exact Or.inl h
  · exact Or.inr (List.mem_filterMap.mp h)

theorem highest_le_lastNumber (ids : List String) : highest ids ≤ lastNumber := by
  rcases highest_eq ids with h0 | ⟨id, -, hn⟩
  · rw [h0]
    decide
  · exact number?_le hn

/-- Where no id has the last number, the highest one is less. -/
theorem highest_lt_lastNumber {ids : List String}
    (h : ∀ id ∈ ids, number? id ≠ some lastNumber) : highest ids < lastNumber := by
  refine Nat.lt_of_le_of_ne (highest_le_lastNumber ids) fun heq => ?_
  rcases highest_eq ids with h0 | ⟨id, hid, hn⟩
  · exact absurd (h0.symm.trans heq) (by decide)
  · exact h id hid (heq ▸ hn)

end TableId

namespace Query

/-- **No table has the last number**, so there is a next one. -/
def NumbersLeft (q : Query) : Prop := ∀ t ∈ q.tables, TableId.number? t.id ≠ some TableId.lastNumber

instance (q : Query) : Decidable q.NumbersLeft := inferInstanceAs (Decidable (∀ t ∈ q.tables, _))

/-- **The next id is not in use.** -/
theorem nextTableId_fresh {q : Query} (h : q.NumbersLeft) : ∀ t ∈ q.tables, t.id ≠ q.nextTableId := by
  intro t ht heq
  have hmem : t.id ∈ q.tables.map QueryTable.id := List.mem_map_of_mem ht
  have hids : ∀ id ∈ q.tables.map QueryTable.id, TableId.number? id ≠ some TableId.lastNumber := by
    intro id hid
    obtain ⟨u, hu, rfl⟩ := List.mem_map.mp hid
    exact h u hu
  -- read back, the id of the table would have a number above the highest
  have hn : TableId.number? t.id = some (TableId.highest (q.tables.map QueryTable.id) + 1) := by
    rw [heq]
    exact TableId.number?_ofNumber (TableId.highest_lt_lastNumber hids)
  have := TableId.number_le_highest hmem hn
  omega

end Query

end QueryDesk
