import QueryDesk.Proofs.Lists
import QueryDesk.Proofs.Chart.Rules
import QueryDesk.Proofs.Chart.Series

/-! # Suggested charts can be drawn

A chart can be drawn from a table where every role is given to a column that is there and something is
measured; then it has a series for every measure and a point and a label for every row
(`Suggestion.drawable_of_roles`). What is suggested for a table gives its roles to columns of the table, since
profiles are profiles of columns, and to different columns (`QueryResult.drawable_of_mem_suggestions`).
-/

set_option autoImplicit false

namespace QueryDesk

/-! ## Charts that can be drawn -/

/-- **A suggestion that can be drawn from a result.** -/
structure Suggestion.Drawable (s : Suggestion) (r : QueryResult) : Prop where
  xAxis_mem : ∀ name, s.config.xAxis = some name → name ∈ r.columns
  yAxis_mem : ∀ name ∈ s.config.yAxis, name ∈ r.columns
  size_mem : ∀ name, s.config.size = some name → name ∈ r.columns
  measured : s.config.yAxis ≠ []
  /-- There is one series for every measure, in their order and with their names. -/
  series : (s.data r).series.map Series.name = s.config.yAxis
  /-- There is a point and a label for every row. -/
  points : ∀ series ∈ (s.data r).series, series.data.length = r.rows.length
  labels : (s.data r).categories.length = r.rows.length

/-- The data of a suggestion are a label for every row, and for every measure its numbers, with or without a
category axis. -/
theorem Suggestion.exists_data_eq {s : Suggestion} {r : QueryResult} (hr : r.Shaped)
    (hroles : ∀ name ∈ s.config.roles, name ∈ r.columns) :
    ∃ labels, labels.length = r.rows.length ∧ s.data r =
      ⟨labels, s.config.yAxis.map fun name => ⟨name, r.numbersAt (r.columns.idxOf name)⟩⟩ := by
  have hy : ∀ name ∈ s.config.yAxis, name ∈ r.columns := fun name hname =>
    hroles name (List.mem_append_left _ (List.mem_append_right _ hname))
  cases hx : s.config.xAxis with
  | none =>
      refine ⟨r.rows.map fun _ => "", List.length_map _, ?_⟩
      rw [data, hx]
      dsimp only
      rw [QueryResult.filterMap_series? hr hy]
  | some category =>
      have hcategory : category ∈ r.columns := hroles category (by simp [ChartConfig.roles, hx])
      refine ⟨r.rows.map fun row => (Pivot.cellAt row (r.columns.idxOf category)).key, List.length_map _, ?_⟩
      rw [data, hx]
      exact QueryResult.chart_eq hr hcategory hy

/-- **A chart can be drawn where its roles are given to columns** and something is measured. -/
theorem Suggestion.drawable_of_roles {s : Suggestion} {r : QueryResult} (hr : r.Shaped)
    (hroles : ∀ name ∈ s.config.roles, name ∈ r.columns) (hmeasured : s.config.yAxis ≠ []) :
    s.Drawable r := by
  obtain ⟨labels, hlabels, hdata⟩ := exists_data_eq hr hroles
  exact {
    xAxis_mem := fun name hx => hroles name (by simp [ChartConfig.roles, hx])
    yAxis_mem := fun name hname => hroles name (List.mem_append_left _ (List.mem_append_right _ hname))
    size_mem := fun name hsize => hroles name (by simp [ChartConfig.roles, hsize])
    measured := hmeasured
    series := by
      rw [hdata, List.map_map]
      exact List.map_id' _
    points := by
      rw [hdata, List.forall_mem_map]
      exact fun name _ => List.length_map _
    labels := by rw [hdata, hlabels] }

/-! ## Profiles of columns -/

/-- Profiles have the names of their columns, in the order of the columns. -/
theorem QueryResult.names_profiles_sublist (r : QueryResult) (selections : List Selection) :
    ((r.profiles selections).map Profile.name).Sublist r.columns := by
  have hname : ∀ entry ∈ r.columns.zipIdx, ∀ p,
      profile? r selections entry.2 entry.1 = some p → p.name = entry.1 := by
    intro entry _ p hp
    rw [profile?] at hp
    dsimp only at hp
    split at hp
    · simp at hp
    · obtain rfl := Option.some.inj hp
      rfl
  have hsub := map_filterMap_sublist hname
  rw [List.zipIdx_map_fst] at hsub
  exact hsub

/-! ## Suggestions -/

namespace QueryResult

variable {r : QueryResult} {selections : List Selection} {s : Suggestion}

/-- The roles of a suggested chart are given to different columns. -/
theorem roles_subperm (h : s ∈ r.suggestions selections) : s.config.roles.Subperm r.columns := by
  obtain ⟨_, _, hproposes⟩ := Overview.proposes_of_mem_proposals (Overview.mem_suggestions_iff.mp h)
  exact hproposes.roles.trans (r.names_profiles_sublist selections).subperm

/-- **Every suggested chart can be drawn.** Its roles are given to columns that are there, and to different ones
where the names of the columns are different. -/
theorem drawable_of_mem_suggestions (hr : r.Shaped) (h : s ∈ r.suggestions selections) :
    s.Drawable r ∧ (r.columns.Nodup → s.config.roles.Nodup) := by
  obtain ⟨_, _, hproposes⟩ := Overview.proposes_of_mem_proposals (Overview.mem_suggestions_iff.mp h)
  have hroles := roles_subperm h
  refine ⟨Suggestion.drawable_of_roles hr (fun name hname => hroles.subset hname) hproposes.measured, ?_⟩
  intro hdifferent
  obtain ⟨columns, hperm, hsub⟩ := hroles
  exact hperm.nodup_iff.mp (hdifferent.sublist hsub)

/-- The growth of five plants, in a table without type names. -/
def plants : QueryResult where
  columns := ["light", "height", "leaves", "note"]
  columnTypes := ["", "", "", ""]
  rows := [1, 2, 3, 4, 5].map fun n =>
    [.number (.ofNat n), .number (.ofNat (n * n)), .number (.ofNat (n + 7)), .null]
  rowCount := 5
  truncated := false
  executionTimeMs := 8

/-- The height of the plants by the light, with the leaves as sizes. -/
def plantsByLight : Suggestion :=
  ⟨.scatter, hundredths 70, "Relationship between light and height",
    { plainConfig (some "light") ["height"] with size := some "leaves" }⟩

/-- Three columns of numbers are a scatter plot with a point for every row; a column of nulls has no role. -/
theorem drawable_plants : plants.Shaped ∧ plantsByLight ∈ plants.suggestions [] ∧
    plantsByLight.Drawable plants ∧ plantsByLight.config.roles.Nodup := by
  have hshaped : plants.Shaped := ⟨by decide, by decide⟩
  have hmem : plantsByLight ∈ plants.suggestions [] :=
    Overview.mem_suggestions_iff.mpr (by decide +kernel)
  obtain ⟨hdrawable, hroles⟩ := drawable_of_mem_suggestions hshaped hmem
  exact ⟨hshaped, hmem, hdrawable, hroles (by decide)⟩

end QueryResult

end QueryDesk
