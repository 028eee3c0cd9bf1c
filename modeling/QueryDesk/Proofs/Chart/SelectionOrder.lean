import QueryDesk.Chart.Suggestion
import QueryDesk.Proofs.Chart.Attribution

/-! # Suggestions do not depend on the order of the selections

Profiles look at the selections only through the attribution of the columns (`profiles_congr`). Where no column is
left to the selection at its place (`ToldByName`), a column is attributed to the selection with its name and to no
other, wherever that one stands in the list; so the selections may come in any order
(`selections_in_any_order`).
-/

set_option autoImplicit false

namespace QueryDesk.QueryResult

variable {r : QueryResult} {selections others : List Selection}

/-! ## What profiles look at -/

theorem selectionFor?_eq_attributed? {index : Nat} {name : String} (h : r.columns[index]? = some name) :
    selectionFor? r selections index name = r.attributed? selections index := by
  rw [attributed?, h, Option.bind_some]

/-- **Profiles are told by the attribution of the columns**, and by whether there are selections at all. -/
theorem profiles_congr (hattributed : ∀ index, r.attributed? others index = r.attributed? selections index)
    (hempty : others.isEmpty = selections.isEmpty) : r.profiles others = r.profiles selections := by
  refine List.filterMap_congr fun entry hentry => ?_
  have hcolumn := List.mem_zipIdx_iff_getElem?.mp hentry
  have hselection : selectionFor? r others entry.2 entry.1 = selectionFor? r selections entry.2 entry.1 := by
    rw [selectionFor?_eq_attributed? hcolumn, selectionFor?_eq_attributed? hcolumn, hattributed]
  simp only [profile?, hselection, hempty]

/-! ## Columns told by their names -/

/-- **No column is left to its place**: there are more or fewer selections than columns, or every column has the name
of one. -/
def ToldByName (r : QueryResult) (selections : List Selection) : Prop :=
  selections.length ≠ r.columns.length ∨ ∀ name ∈ r.columns, name ∈ selections.map Selection.displayName

theorem ToldByName.not_placedAt (h : r.ToldByName selections) {index : Nat} {s : Selection} :
    ¬r.PlacedAt selections index s := by
  intro hplaced
  rcases h with hcounts | hall
  · exact hcounts hplaced.counts
  · have hlt : index < r.columns.length :=
      hplaced.counts ▸ (List.getElem?_eq_some_iff.mp hplaced.place).1
    obtain ⟨t, ht, hname⟩ := List.mem_map.mp (hall _ (List.getElem_mem hlt))
    exact hplaced.nameless t ht (hname ▸ List.getElem?_eq_getElem hlt)

theorem ToldByName.attributed?_eq_some_iff (h : r.ToldByName selections)
    (hnames : (selections.map Selection.displayName).Nodup) {index : Nat} {s : Selection} :
    r.attributed? selections index = some s ↔ r.NamedAfter selections index s :=
  (QueryResult.attributed?_eq_some_iff hnames).trans (or_iff_left h.not_placedAt)

/-! ## Selections in another order -/

theorem ToldByName.of_perm (h : r.ToldByName selections) (hperm : others.Perm selections) :
    r.ToldByName others := by
  rcases h with hcounts | hall
  · exact Or.inl (hperm.length_eq ▸ hcounts)
  · exact Or.inr fun name hname => (hperm.map Selection.displayName).mem_iff.mpr (hall name hname)

theorem namedAfter_iff_of_perm (hperm : others.Perm selections) {index : Nat} {s : Selection} :
    r.NamedAfter others index s ↔ r.NamedAfter selections index s :=
  ⟨fun h => ⟨hperm.mem_iff.mp h.mem, h.name⟩, fun h => ⟨hperm.mem_iff.mpr h.mem, h.name⟩⟩

/-- **The order of the selections changes nothing where names tell the columns.** In any order a column is
attributed to the selection with its name and to no other, every column has the same profile, and the same charts
are suggested in the same way. -/
theorem selections_in_any_order (hnames : (selections.map Selection.displayName).Nodup)
    (htold : r.ToldByName selections) (hperm : others.Perm selections) :
    (∀ index s, r.attributed? others index = some s ↔ r.NamedAfter selections index s) ∧
      r.profiles others = r.profiles selections ∧ r.suggestions others = r.suggestions selections := by
  have hnames' : (others.map Selection.displayName).Nodup :=
    (hperm.map Selection.displayName).nodup_iff.mpr hnames
  have hattributed : ∀ index s,
      r.attributed? others index = some s ↔ r.NamedAfter selections index s := by
    intro index s
    rw [(htold.of_perm hperm).attributed?_eq_some_iff hnames', namedAfter_iff_of_perm hperm]
  have hprofiles : r.profiles others = r.profiles selections := by
    refine profiles_congr (fun index => Option.ext fun s => ?_) hperm.isEmpty_eq
    rw [hattributed, htold.attributed?_eq_some_iff hnames]
  refine ⟨hattributed, hprofiles, ?_⟩
  rw [QueryResult.suggestions, hprofiles, ← QueryResult.suggestions]

/-- Visits by city, from a backend that numbers the rows. -/
def visitsByCity : QueryResult where
  columns := ["rank", "city", "visits"]
  columnTypes := ["", "text", ""]
  rows := [[.number (.ofNat 1), .text "Bergen", .text "7"], [.number (.ofNat 2), .text "Oslo", .text "5"]]
  rowCount := 2
  truncated := false
  executionTimeMs := 3

/-- The count of the visits, a quantity whatever its cells are. -/
def visitsCount : Selection := ⟨"t1", "id", .count, some "visits", none⟩

/-- The city of the visits. -/
def visitsCity : Selection := ⟨"t2", "city", .raw, none, none⟩

/-- The rank of the city, which the query did not ask for at first. -/
def visitsRank : Selection := ⟨"t2", "rank", .raw, none, none⟩

/-- Both ways in which names tell the columns: with fewer selections than columns, and with a selection of every
name. Neither list of selections is in the order of the columns. -/
theorem selections_in_any_order_visits :
    ([visitsCity, visitsCount].map Selection.displayName).Nodup ∧
      visitsByCity.ToldByName [visitsCity, visitsCount] ∧
      visitsByCity.profiles [visitsCount, visitsCity] = [⟨"city", .categorical, 2, false⟩, ⟨"visits", .numeric, 2, true⟩] ∧
      visitsByCity.suggestions [visitsCount, visitsCity] = visitsByCity.suggestions [visitsCity, visitsCount] ∧
    ([visitsRank, visitsCity, visitsCount].map Selection.displayName).Nodup ∧
      visitsByCity.ToldByName [visitsRank, visitsCity, visitsCount] ∧
      visitsByCity.attributed? [visitsCity, visitsCount, visitsRank] 0 = some visitsRank ∧
      visitsByCity.profiles [visitsCity, visitsCount, visitsRank] =
        visitsByCity.profiles [visitsRank, visitsCity, visitsCount] := by
  have hfew : visitsByCity.ToldByName [visitsCity, visitsCount] := Or.inl (by decide)
  have hall : visitsByCity.ToldByName [visitsRank, visitsCity, visitsCount] := Or.inr (by decide)
  have hswap : [visitsCount, visitsCity].Perm [visitsCity, visitsCount] := by decide
  have hturn : [visitsCity, visitsCount, visitsRank].Perm [visitsRank, visitsCity, visitsCount] := by decide
  obtain ⟨-, hprofiles, hsuggestions⟩ := selections_in_any_order (by decide) hfew hswap
  obtain ⟨hattributed, hprofiles', -⟩ := selections_in_any_order (by decide) hall hturn
  refine ⟨by decide, hfew, ?_, hsuggestions, by decide, hall, ?_, hprofiles'⟩
  · rw [hprofiles]
    decide +kernel
  · exact (hattributed 0 visitsRank).mpr ⟨by decide, rfl⟩

end QueryDesk.QueryResult
