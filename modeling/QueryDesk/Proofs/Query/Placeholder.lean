import QueryDesk.Proofs.Query.Executable

/-! # Rows that were never filled in

A row of the output that was added and never filled in does not count. `PutIn` says which lists are another
one with such rows put in, at any places and any number of them; `Stripped` says what is left of a query
without them, in the order in which it stood. A query is sent exactly as what is left of it, if that would be
sent unchanged, and rows put in change nothing about what is sent (`executable?_ignores_placeholders`).
-/

set_option autoImplicit false

namespace QueryDesk

/-! ## Rows put into a list -/

/-- **A row that was never filled in**: no column, and nothing to be computed of one. Its table, its label
and its interval may be anything. -/
def Selection.Unfilled (s : Selection) : Prop := s.column = "" ∧ s.aggregation = .raw

theorem Selection.isPlaceholder_iff {s : Selection} : s.isPlaceholder = true ↔ s.Unfilled := by
  rw [isPlaceholder, Bool.and_eq_true, beq_iff_eq, String.isEmpty_iff]
  rfl

/-- **Rows put in**: `PutIn columns more` says that `more` is `columns` with any number of rows that were
never filled in put in at any places. -/
inductive PutIn : List Selection → List Selection → Prop
  | nil : PutIn [] []
  | keep (c : Selection) {columns more : List Selection} (others : PutIn columns more) :
      PutIn (c :: columns) (c :: more)
  | insert {p : Selection} (unfilled : p.Unfilled) {columns more : List Selection}
      (others : PutIn columns more) : PutIn columns (p :: more)

/-- The rows of a list that were filled in. -/
def filledIn (columns : List Selection) : List Selection := columns.filter fun c => !c.isPlaceholder

theorem filledIn_cons_of_unfilled {p : Selection} (h : p.Unfilled) (columns : List Selection) :
    filledIn (p :: columns) = filledIn columns := by
  have hp : p.isPlaceholder = true := Selection.isPlaceholder_iff.mpr h
  exact List.filter_cons_of_neg (by simp [hp])

theorem filledIn_cons_of_not_unfilled {c : Selection} (h : ¬c.Unfilled) (columns : List Selection) :
    filledIn (c :: columns) = c :: filledIn columns := by
  have hc : c.isPlaceholder = false :=
    Bool.eq_false_iff.mpr fun hp => h (Selection.isPlaceholder_iff.mp hp)
  exact List.filter_cons_of_pos (by simp [hc])

theorem not_unfilled_of_mem_filledIn {c : Selection} {columns : List Selection}
    (h : c ∈ filledIn columns) : ¬c.Unfilled := by
  intro hunfilled
  have hc := (List.mem_filter.mp h).2
  rw [Selection.isPlaceholder_iff.mpr hunfilled] at hc
  exact Bool.noConfusion hc

/-- A list without rows to leave out stays as it is. -/
theorem filledIn_eq_self {columns : List Selection} (h : ∀ c ∈ columns, ¬c.Unfilled) :
    filledIn columns = columns := by
  induction columns with
  | nil => rfl
  | cons c columns ih =>
      rw [List.forall_mem_cons] at h
      rw [filledIn_cons_of_not_unfilled h.1, ih h.2]

namespace PutIn

variable {columns more : List Selection}

theorem refl (columns : List Selection) : PutIn columns columns := by
  induction columns with
  | nil => exact nil
  | cons c columns ih => exact keep c ih

/-- **What was filled in does not change** when rows are put in. -/
theorem filledIn_eq (h : PutIn columns more) : filledIn more = filledIn columns := by
  induction h with
  | nil => rfl
  | @keep c columns more _ ih =>
      by_cases hc : c.Unfilled
      · rw [filledIn_cons_of_unfilled hc, filledIn_cons_of_unfilled hc, ih]
      · rw [filledIn_cons_of_not_unfilled hc, filledIn_cons_of_not_unfilled hc, ih]
  | insert hp _ ih => rw [filledIn_cons_of_unfilled hp, ih]

/-- Every list is what was filled in of it, with the other rows put in. -/
theorem of_filledIn (columns : List Selection) : PutIn (filledIn columns) columns := by
  induction columns with
  | nil => exact nil
  | cons c columns ih =>
      by_cases hc : c.Unfilled
      · rw [filledIn_cons_of_unfilled hc]
        exact insert hc ih
      · rw [filledIn_cons_of_not_unfilled hc]
        exact keep c ih

/-- One more row can be put in at any place. -/
theorem insertIdx {p : Selection} (hp : p.Unfilled) (h : PutIn columns more) (index : Nat) :
    PutIn columns (more.insertIdx index p) := by
  induction h generalizing index with
  | nil =>
      cases index with
      | zero => exact insert hp nil
      | succ index => exact nil
  | keep c others ih =>
      cases index with
      | zero => exact insert hp (keep c others)
      | succ index => exact keep c (ih index)
  | insert hq others ih =>
      cases index with
      | zero => exact insert hp (insert hq others)
      | succ index => exact insert hq (ih index)

end PutIn

/-! ## Queries without such rows -/

namespace Query

variable {q e : Query}

/-- **What is left of a query** without the rows that were never filled in: the other rows in the order in
which they stood, and every other part of the query as it was. -/
structure Stripped (q e : Query) : Prop where
  others : e = { q with columns := e.columns }
  rows : PutIn e.columns q.columns
  filled : ∀ c ∈ e.columns, ¬c.Unfilled

/-- There is exactly one query left. -/
theorem stripped_iff : q.Stripped e ↔ e = q.withoutPlaceholders := by
  constructor
  · rintro ⟨others, rows, filled⟩
    have hcolumns : e.columns = filledIn q.columns := by
      rw [rows.filledIn_eq, filledIn_eq_self filled]
    rw [others, hcolumns]
    rfl
  · rintro rfl
    exact ⟨rfl, PutIn.of_filledIn q.columns, fun c hc => not_unfilled_of_mem_filledIn hc⟩

/-- Queries that differ in such rows only are left with the same. -/
theorem withoutPlaceholders_of_putIn {more : List Selection} (h : PutIn q.columns more) :
    { q with columns := more }.withoutPlaceholders = q.withoutPlaceholders := by
  show { q with columns := filledIn more } = { q with columns := filledIn q.columns }
  rw [h.filledIn_eq]

theorem withoutPlaceholders_withoutPlaceholders (q : Query) :
    q.withoutPlaceholders.withoutPlaceholders = q.withoutPlaceholders := by
  have hfilled : filledIn (filledIn q.columns) = filledIn q.columns :=
    filledIn_eq_self fun c hc => not_unfilled_of_mem_filledIn hc
  show { q with columns := filledIn (filledIn q.columns) } = { q with columns := filledIn q.columns }
  rw [hfilled]

/-- All checks look at what is left of the query. -/
theorem executable?_congr {q r : Query} (h : q.withoutPlaceholders = r.withoutPlaceholders) :
    q.executable? = r.executable? := by
  rw [executable?, executable?, h]

theorem Stripped.executable?_eq (h : q.Stripped e) : e.executable? = q.executable? := by
  obtain rfl := stripped_iff.mp h
  exact executable?_congr (withoutPlaceholders_withoutPlaceholders q)

theorem executable?_of_putIn {more : List Selection} (h : PutIn q.columns more) :
    { q with columns := more }.executable? = q.executable? :=
  executable?_congr (withoutPlaceholders_of_putIn h)

/-- **What is sent does not depend on rows that were never filled in.** A query is sent as another one
exactly if that is what is left of it without such rows, every other part being the same, and would itself be
sent unchanged. However many such rows are put in, wherever they are put and whatever table, label and
interval they have, what is sent is the same, or nothing if nothing was. -/
theorem executable?_ignores_placeholders (q : Query) :
    (∀ e, q.executable? = some e ↔ q.Stripped e ∧ e.executable? = some e) ∧
      ∀ more, PutIn q.columns more → { q with columns := more }.executable? = q.executable? := by
  refine ⟨?_, fun more h => executable?_of_putIn h⟩
  intro e
  constructor
  · intro hsent
    have hleft : q.Stripped e := stripped_iff.mpr (executable?_eq_some_iff.mp hsent).1
    exact ⟨hleft, hleft.executable?_eq.trans hsent⟩
  · rintro ⟨hleft, hsent⟩
    exact hleft.executable?_eq.symm.trans hsent

/-- A row of a table that is not in the query, with a label and an interval but without a column. -/
def strayRow : Selection := ⟨"t9", "", .raw, some "Total", some .month⟩

/-- The query of the day with stray rows in front and between is sent as the two columns that were filled
in. -/
theorem executable?_strayRows :
    ∃ q e, q = empty.editAll shopSchema dailyEdits ∧ q.executable? = some e ∧ e.columns.length = 2 ∧
      (q.Stripped e ∧ e.executable? = some e) ∧
      PutIn q.columns (strayRow :: q.columns.insertIdx 1 strayRow) ∧
      { q with columns := strayRow :: q.columns.insertIdx 1 strayRow }.executable? = some e := by
  have hstray : strayRow.Unfilled := ⟨rfl, rfl⟩
  have hput : PutIn (empty.editAll shopSchema dailyEdits).columns
      (strayRow :: (empty.editAll shopSchema dailyEdits).columns.insertIdx 1 strayRow) :=
    PutIn.insert hstray ((PutIn.refl _).insertIdx hstray 1)
  have hsent : (empty.editAll shopSchema dailyEdits).executable? =
      some (empty.editAll shopSchema dailyEdits).withoutPlaceholders := by decide
  obtain ⟨hleft, hblind⟩ := executable?_ignores_placeholders (empty.editAll shopSchema dailyEdits)
  exact ⟨_, _, rfl, hsent, by decide, (hleft _).mp hsent, hput, (hblind _ hput).trans hsent⟩

end Query

end QueryDesk
