import QueryDesk.Chart.Profile
import QueryDesk.Proofs.Lists
import Mathlib.Data.List.Nodup
import Mathlib.Data.List.Perm.Subperm

/-! # The columns that a selection describes

The profile of a column knows of its aggregation by the selection that the column is attributed to: the one with
its name, or else the one at its place where there are as many selections as columns
(`attributed?_eq_some_iff`). Each of the two gives a selection to one column only, but they do not know of each
other: the selection at the place of a column whose name was changed may have the name of another column. So a
selection describes at most two columns, and at most one exactly where the places fit (`PlacesFit`,
`selections_attributed`).
-/

set_option autoImplicit false

namespace QueryDesk

/-! ## Counting what entries give -/

/-- Where different entries give different items of a list, no more of them have a property than of the items. -/
theorem countP_filterMap_le {α β : Type} {give : α → Option β} {p : β → Bool} {entries : List α}
    {items : List β} (hentries : entries.Nodup) (hmem : ∀ a ∈ entries, ∀ b, give a = some b → b ∈ items)
    (hdifferent : ∀ a ∈ entries, ∀ a' ∈ entries, ∀ b, give a = some b → give a' = some b → a = a') :
    (entries.filterMap give).countP p ≤ items.countP p := by
  have hnodup : (entries.filterMap give).Nodup := by
    refine List.pairwise_filterMap.mpr (hentries.imp_of_mem ?_)
    rintro a a' ha ha' hne b hb _ hb' rfl
    exact hne (hdifferent a ha a' ha' b hb hb')
  have hsubset : entries.filterMap give ⊆ items := by
    intro b hb
    obtain ⟨a, ha, hgive⟩ := List.mem_filterMap.mp hb
    exact hmem a ha b hgive
  exact (hnodup.subperm hsubset).countP_le p

namespace QueryResult

/-! ## Attribution -/

/-- **The selection that the column at an index is attributed to.** -/
def attributed? (r : QueryResult) (selections : List Selection) (index : Nat) : Option Selection :=
  r.columns[index]?.bind (selectionFor? r selections index)

/-- A selection with the name of the column at an index. -/
structure NamedAfter (r : QueryResult) (selections : List Selection) (index : Nat) (s : Selection) : Prop where
  mem : s ∈ selections
  name : r.columns[index]? = some s.displayName

/-- A selection at the place of a column that no selection has the name of, where there are as many selections as
columns. -/
structure PlacedAt (r : QueryResult) (selections : List Selection) (index : Nat) (s : Selection) : Prop where
  counts : selections.length = r.columns.length
  nameless : ∀ t ∈ selections, r.columns[index]? ≠ some t.displayName
  place : selections[index]? = some s

/-- **Every selection describes at most one column.** -/
def AttributesOnce (r : QueryResult) (selections : List Selection) : Prop :=
  ∀ i j s, r.attributed? selections i = some s → r.attributed? selections j = some s → i = j

/-- **The places fit the names**: a selection that describes the column at its place has the name of no column. -/
def PlacesFit (r : QueryResult) (selections : List Selection) : Prop :=
  ∀ index s, r.PlacedAt selections index s → s.displayName ∉ r.columns

variable {r : QueryResult} {selections : List Selection}

/-- **A column is attributed by its name, and where no selection has it by its place.** -/
theorem attributed?_eq_some_iff (hnames : (selections.map Selection.displayName).Nodup) {index : Nat}
    {s : Selection} :
    r.attributed? selections index = some s ↔
      r.NamedAfter selections index s ∨ r.PlacedAt selections index s := by
  rw [attributed?]
  cases hcolumn : r.columns[index]? with
  | none =>
      constructor
      · intro h
        simp at h
      · rintro (hnamed | hplaced)
        · simp [hnamed.name] at hcolumn
        · obtain ⟨hlt, -⟩ := List.getElem?_eq_some_iff.mp hplaced.place
          rw [hplaced.counts] at hlt
          exact absurd (List.getElem?_eq_none_iff.mp hcolumn) (Nat.not_le.mpr hlt)
  | some name =>
      have hnamed : (selections.find? fun t => t.displayName == name) = some s ↔
          r.NamedAfter selections index s := by
        rw [find?_key_eq_some_iff hnames]
        constructor
        · rintro ⟨hmem, rfl⟩
          exact ⟨hmem, hcolumn⟩
        · intro h
          exact ⟨h.mem, (Option.some.inj (hcolumn.symm.trans h.name)).symm⟩
      have hnameless : (selections.find? fun t => t.displayName == name) = none ↔
          ∀ t ∈ selections, r.columns[index]? ≠ some t.displayName := by
        rw [List.find?_eq_none]
        refine forall₂_congr fun t _ => not_congr ?_
        rw [hcolumn, beq_iff_eq, Option.some.injEq, eq_comm]
      rw [Option.bind_some, selectionFor?, Option.or_eq_some_iff, hnamed, hnameless]
      refine or_congr_right ?_
      rw [Option.ite_none_right_eq_some, beq_iff_eq]
      exact ⟨fun h => ⟨h.2.1, h.1, h.2.2⟩, fun h => ⟨h.nameless, h.counts, h.place⟩⟩

theorem mem_of_attributed? (hnames : (selections.map Selection.displayName).Nodup) {index : Nat}
    {s : Selection} (h : r.attributed? selections index = some s) : s ∈ selections := by
  rcases (attributed?_eq_some_iff hnames).mp h with hnamed | hplaced
  · exact hnamed.mem
  · exact List.mem_of_getElem? hplaced.place

/-! ## Columns of one selection -/

/-- A selection has the name of one column only. -/
theorem NamedAfter.index_eq (hcolumns : r.columns.Nodup) {i j : Nat} {s : Selection}
    (hi : r.NamedAfter selections i s) (hj : r.NamedAfter selections j s) : i = j :=
  (List.getElem?_inj (List.getElem?_eq_some_iff.mp hi.name).1 hcolumns).mp (hi.name.trans hj.name.symm)

/-- A selection is at one place only. -/
theorem PlacedAt.index_eq (hselections : selections.Nodup) {i j : Nat} {s : Selection}
    (hi : r.PlacedAt selections i s) (hj : r.PlacedAt selections j s) : i = j :=
  (List.getElem?_inj (List.getElem?_eq_some_iff.mp hi.place).1 hselections).mp (hi.place.trans hj.place.symm)

/-- Of two columns that one selection describes, it has the name of one and stands at the place of the other. -/
theorem named_and_placed_of_ne (hcolumns : r.columns.Nodup)
    (hnames : (selections.map Selection.displayName).Nodup) {i j : Nat} {s : Selection}
    (hi : r.attributed? selections i = some s) (hj : r.attributed? selections j = some s) (hne : i ≠ j) :
    r.NamedAfter selections i s ∧ r.PlacedAt selections j s ∨
      r.PlacedAt selections i s ∧ r.NamedAfter selections j s := by
  have hselections : selections.Nodup := List.Nodup.of_map _ hnames
  rcases (attributed?_eq_some_iff hnames).mp hi with hi | hi
  · rcases (attributed?_eq_some_iff hnames).mp hj with hj | hj
    · exact absurd (hi.index_eq hcolumns hj) hne
    · exact Or.inl ⟨hi, hj⟩
  · rcases (attributed?_eq_some_iff hnames).mp hj with hj | hj
    · exact Or.inr ⟨hi, hj⟩
    · exact absurd (hi.index_eq hselections hj) hne

/-- **A selection describes at most one column exactly where the places fit.** -/
theorem attributesOnce_iff (hcolumns : r.columns.Nodup)
    (hnames : (selections.map Selection.displayName).Nodup) :
    r.AttributesOnce selections ↔ r.PlacesFit selections := by
  constructor
  · -- a placed selection with the name of a column describes that column too
    intro honce i s hplaced hmem
    obtain ⟨j, hj⟩ := List.mem_iff_getElem?.mp hmem
    have hnamed : r.NamedAfter selections j s := ⟨List.mem_of_getElem? hplaced.place, hj⟩
    have heq : i = j := honce i j s ((attributed?_eq_some_iff hnames).mpr (Or.inr hplaced))
      ((attributed?_eq_some_iff hnames).mpr (Or.inl hnamed))
    exact hplaced.nameless s hnamed.mem (heq ▸ hj)
  · intro hfit i j s hi hj
    by_contra hne
    rcases named_and_placed_of_ne hcolumns hnames hi hj hne with ⟨hnamed, hplaced⟩ | ⟨hplaced, hnamed⟩
    · exact hfit j s hplaced (List.mem_of_getElem? hnamed.name)
    · exact hfit i s hplaced (List.mem_of_getElem? hnamed.name)

/-- **A selection describes at most two columns**: one that has its name, and one at its place. -/
theorem eq_of_three_attributed (hcolumns : r.columns.Nodup)
    (hnames : (selections.map Selection.displayName).Nodup) {i j k : Nat} {s : Selection}
    (hi : r.attributed? selections i = some s) (hj : r.attributed? selections j = some s)
    (hk : r.attributed? selections k = some s) : i = j ∨ j = k ∨ i = k := by
  have hselections : selections.Nodup := List.Nodup.of_map _ hnames
  by_cases hne : i = j
  · exact Or.inl hne
  · -- the third column has the selection in one of the two ways, and so has one of the first two
    refine Or.inr ?_
    rcases named_and_placed_of_ne hcolumns hnames hi hj hne with ⟨hnamed, hplaced⟩ | ⟨hplaced, hnamed⟩
    · rcases (attributed?_eq_some_iff hnames).mp hk with hk | hk
      · exact Or.inr (hnamed.index_eq hcolumns hk)
      · exact Or.inl (hplaced.index_eq hselections hk)
    · rcases (attributed?_eq_some_iff hnames).mp hk with hk | hk
      · exact Or.inl (hnamed.index_eq hcolumns hk)
      · exact Or.inr (hplaced.index_eq hselections hk)

/-! ## Aggregated columns -/

/-- How many columns count as aggregated. -/
def aggregatedColumns (r : QueryResult) (selections : List Selection) : Nat :=
  (r.profiles selections).countP Profile.hasAggregation

/-- How many selections have an aggregation. -/
def aggregatedSelections (selections : List Selection) : Nat :=
  selections.countP fun s => s.aggregation.isAggregate

/-- What the columns at some indices are attributed to. -/
def attributedTo (r : QueryResult) (selections : List Selection) (indices : List Nat) : List Selection :=
  indices.filterMap (r.attributed? selections)

/-- A column counts as aggregated where the selection it is attributed to is. -/
theorem hasAggregation_profile? (index : Nat) (name : String) :
    ((profile? r selections index name).map Profile.hasAggregation).getD false =
      ((selectionFor? r selections index name).map fun s => s.aggregation.isAggregate).getD false := by
  rw [profile?]
  cases selectionFor? r selections index name with
  | none => cases selections <;> rfl
  | some s => rfl

theorem aggregatedColumns_eq (r : QueryResult) (selections : List Selection) :
    r.aggregatedColumns selections =
      aggregatedSelections (r.attributedTo selections (List.range' 0 r.columns.length)) := by
  rw [aggregatedColumns, profiles, aggregatedSelections, attributedTo, ← List.zipIdx_map_snd,
    List.filterMap_map, List.countP_filterMap, List.countP_filterMap]
  refine List.countP_congr fun entry hentry => ?_
  rw [hasAggregation_profile?, Function.comp_apply, attributed?, List.mem_zipIdx_iff_getElem?.mp hentry,
    Option.bind_some]

/-- Of columns that are attributed to different selections, no more count as aggregated than there are selections
with an aggregation. -/
theorem aggregated_attributedTo_le (hnames : (selections.map Selection.displayName).Nodup)
    {indices : List Nat} (hindices : indices.Nodup)
    (hdifferent : ∀ i ∈ indices, ∀ j ∈ indices, ∀ s, r.attributed? selections i = some s →
      r.attributed? selections j = some s → i = j) :
    aggregatedSelections (r.attributedTo selections indices) ≤ aggregatedSelections selections :=
  countP_filterMap_le hindices (fun _ _ _ => mem_of_attributed? hnames) hdifferent

/-- No more columns count as aggregated than there are selections with an aggregation, where each selection
describes at most one. -/
theorem aggregatedColumns_le (hnames : (selections.map Selection.displayName).Nodup)
    (honce : r.AttributesOnce selections) :
    r.aggregatedColumns selections ≤ aggregatedSelections selections := by
  rw [aggregatedColumns_eq]
  exact aggregated_attributedTo_le hnames List.nodup_range' fun i _ j _ s => honce i j s

/-- Whether a selection has the name of the column at an index. -/
def isNamed (r : QueryResult) (selections : List Selection) (index : Nat) : Bool :=
  selections.any fun t => r.columns[index]? == some t.displayName

theorem namedAfter_of_isNamed (hnames : (selections.map Selection.displayName).Nodup) {index : Nat}
    {s : Selection} (hnamed : r.isNamed selections index = true)
    (h : r.attributed? selections index = some s) : r.NamedAfter selections index s := by
  rcases (attributed?_eq_some_iff hnames).mp h with hafter | hplaced
  · exact hafter
  · obtain ⟨t, ht, hname⟩ := List.any_eq_true.mp hnamed
    exact absurd (beq_iff_eq.mp hname) (hplaced.nameless t ht)

theorem placedAt_of_not_isNamed (hnames : (selections.map Selection.displayName).Nodup) {index : Nat}
    {s : Selection} (hnamed : ¬r.isNamed selections index = true)
    (h : r.attributed? selections index = some s) : r.PlacedAt selections index s := by
  rcases (attributed?_eq_some_iff hnames).mp h with hafter | hplaced
  · refine absurd ?_ hnamed
    rw [isNamed, List.any_eq_true]
    exact ⟨s, hafter.mem, beq_iff_eq.mpr hafter.name⟩
  · exact hplaced

/-- What is attributed is counted in two parts. -/
theorem aggregated_attributedTo_filter (chosen : Nat → Bool) (indices : List Nat) :
    aggregatedSelections (r.attributedTo selections indices) =
      aggregatedSelections (r.attributedTo selections (indices.filter chosen)) +
        aggregatedSelections (r.attributedTo selections (indices.filter fun index => !chosen index)) := by
  have hperm := (List.filter_append_perm chosen indices).symm.filterMap (r.attributed? selections)
  rw [List.filterMap_append] at hperm
  exact (hperm.countP_eq _).trans List.countP_append

/-- At most twice as many columns count as aggregated: those with the names of selections, and those with selections
at their places. -/
theorem aggregatedColumns_le_two_mul (hcolumns : r.columns.Nodup)
    (hnames : (selections.map Selection.displayName).Nodup) :
    r.aggregatedColumns selections ≤ 2 * aggregatedSelections selections := by
  have hselections : selections.Nodup := List.Nodup.of_map _ hnames
  have hindices : (List.range' 0 r.columns.length).Nodup := List.nodup_range'
  rw [aggregatedColumns_eq, aggregated_attributedTo_filter (r.isNamed selections), Nat.two_mul]
  refine Nat.add_le_add (aggregated_attributedTo_le hnames (hindices.filter _) ?_)
    (aggregated_attributedTo_le hnames (hindices.filter _) ?_)
  · intro i hi j hj s hs hs'
    have hafter := namedAfter_of_isNamed hnames (List.mem_filter.mp hi).2 hs
    exact hafter.index_eq hcolumns (namedAfter_of_isNamed hnames (List.mem_filter.mp hj).2 hs')
  · intro i hi j hj s hs hs'
    have hplaced := placedAt_of_not_isNamed hnames (by simpa using (List.mem_filter.mp hi).2) hs
    exact hplaced.index_eq hselections
      (placedAt_of_not_isNamed hnames (by simpa using (List.mem_filter.mp hj).2) hs')

/-- **What selections describe.** A selection describes at most one column exactly where the places fit the names,
and then no more columns count as aggregated than there are selections with an aggregation. In any case it
describes at most two, and no more than twice as many columns count as aggregated. -/
theorem selections_attributed (hcolumns : r.columns.Nodup)
    (hnames : (selections.map Selection.displayName).Nodup) :
    (r.AttributesOnce selections ↔ r.PlacesFit selections) ∧
    (r.PlacesFit selections → r.aggregatedColumns selections ≤ aggregatedSelections selections) ∧
    (∀ i j k s, r.attributed? selections i = some s → r.attributed? selections j = some s →
      r.attributed? selections k = some s → i = j ∨ j = k ∨ i = k) ∧
    r.aggregatedColumns selections ≤ 2 * aggregatedSelections selections := by
  have hiff := attributesOnce_iff hcolumns hnames
  refine ⟨hiff, fun hfit => aggregatedColumns_le hnames (hiff.mpr hfit), ?_, ?_⟩
  · exact fun i j k s hi hj hk => eq_of_three_attributed hcolumns hnames hi hj hk
  · exact aggregatedColumns_le_two_mul hcolumns hnames

/-- Sales by region, from a backend that calls the regions areas. -/
def salesByArea : QueryResult where
  columns := ["area", "total"]
  columnTypes := ["text", "numeric"]
  rows := [[.text "north", .number (.ofNat 9)], [.text "south", .number (.ofNat 3)]]
  rowCount := 2
  truncated := false
  executionTimeMs := 0

/-- The regions of the sales. -/
def salesRegion : Selection := ⟨"t1", "region", .raw, none, none⟩

/-- The sum of the sales. -/
def salesTotal : Selection := ⟨"t1", "amount", .sum, some "total", none⟩

/-- Where the selections are in the order of the columns, the renamed column has a selection of its own. -/
theorem selections_attributed_sales :
    salesByArea.PlacesFit [salesRegion, salesTotal] ∧ salesByArea.AttributesOnce [salesRegion, salesTotal] ∧
      salesByArea.aggregatedColumns [salesRegion, salesTotal] ≤
        aggregatedSelections [salesRegion, salesTotal] := by
  have hfit : salesByArea.PlacesFit [salesRegion, salesTotal] := by
    intro index s hplaced
    match index with
    | 0 =>
        obtain rfl : salesRegion = s := Option.some.inj hplaced.place
        decide
    | 1 => exact absurd rfl (hplaced.nameless salesTotal (by decide))
    | _ + 2 => exact absurd hplaced.place (by simp)
  obtain ⟨honce, hcount, -⟩ :=
    @selections_attributed salesByArea [salesRegion, salesTotal] (by decide) (by decide)
  exact ⟨hfit, honce.mpr hfit, hcount hfit⟩

/-- In the other order the renamed column has the sum at its place, and both columns count as aggregated. -/
theorem sum_attributed_twice :
    salesByArea.columns.Nodup ∧ ([salesTotal, salesRegion].map Selection.displayName).Nodup ∧
      salesByArea.attributed? [salesTotal, salesRegion] 0 = some salesTotal ∧
      salesByArea.attributed? [salesTotal, salesRegion] 1 = some salesTotal ∧
      aggregatedSelections [salesTotal, salesRegion] < salesByArea.aggregatedColumns [salesTotal, salesRegion] := by
  decide +kernel

end QueryResult

end QueryDesk
