import QueryDesk.Proofs.Lists
import QueryDesk.Proofs.Chart.Rules
import Mathlib.Data.List.Nodup

/-! # The ranking of chart suggestions

The confidences of a list of suggestions fall strictly (`pairwise_suggestions`): the proposals are sorted by
their confidence, and no two rules that speak on one result have the same one. So no kind of chart is suggested
twice, where the two rules for bars exclude each other by what was proposed before, and a single number comes
first. There is nothing to suggest exactly for fewer than two columns, unless they are one number
(`proposals_eq_nil_iff`).
-/

set_option autoImplicit false

namespace QueryDesk

/-! ## Sorting by rank -/

/-- Items with different ranks that are sorted by rank, the highest first, fall strictly in rank. -/
theorem pairwise_mergeSort_of_rank {α : Type} {le : α → α → Bool} {rank : α → Int} {items : List α}
    (hle : ∀ a ∈ items, ∀ b ∈ items, le a b = decide (rank b ≤ rank a))
    (hdifferent : (items.map rank).Nodup) :
    (items.mergeSort le).Pairwise fun a b => rank b < rank a := by
  have hmap : (items.mergeSort le).map rank =
      (items.map rank).mergeSort fun m n => decide (n ≤ m) := List.map_mergeSort hle
  have hsorted : ((items.mergeSort le).map rank).Pairwise fun m n => n ≤ m := by
    rw [hmap]
    refine (List.pairwise_mergeSort ?_ ?_ _).imp of_decide_eq_true
    · intro m n k hmn hnk
      exact decide_eq_true (Int.le_trans (of_decide_eq_true hnk) (of_decide_eq_true hmn))
    · intro m n
      rw [Bool.or_eq_true, decide_eq_true_iff, decide_eq_true_iff]
      exact Int.le_total n m
  have hnodup : ((items.mergeSort le).map rank).Nodup :=
    ((List.mergeSort_perm items le).map rank).nodup_iff.mpr hdifferent
  have hstrict : ((items.mergeSort le).map rank).Pairwise fun m n => n < m :=
    hsorted.imp₂ (fun m n hmn hne => by omega) hnodup
  exact List.pairwise_map.mp hstrict

/-! ## Confidences -/

/-- The confidence in units of the least positive double. -/
def Suggestion.rank (s : Suggestion) : Int := s.confidence.units?.getD 0

/-- The shape and the confidence of a suggestion. -/
def Suggestion.key (s : Suggestion) : ChartKind × Double := (s.kind.shape, s.confidence)

namespace Overview

variable {o : Overview} {s : Suggestion}

/-- The shapes and the confidences of what is proposed from the columns alone. -/
def plainKeys : List (ChartKind × Double) :=
  ruleTable.map fun entry => (entry.2.1, hundredths entry.2.2)

/-- The shapes and the confidences of all proposals. -/
def keys : List (ChartKind × Double) := plainKeys ++ [(.bar, hundredths 65)] ++ [(.bar, hundredths 50)]

theorem Proposes.key_eq {shape : ChartKind} {percent : Nat} (h : o.Proposes shape percent s) :
    s.key = (shape, hundredths percent) :=
  Prod.ext h.shape h.confidence

theorem plainKeys_sublist (o : Overview) :
    (o.plainProposals.map Suggestion.key).Sublist plainKeys := by
  rw [plainProposals_eq]
  exact map_filterMap_sublist fun entry hentry s hs => (proposes_of_mem_ruleTable hentry hs).key_eq

/-- The proposals have the keys of their rules, in the order of the rules. -/
theorem keys_sublist (o : Overview) : (o.proposals.map Suggestion.key).Sublist keys := by
  have hlast : ∀ {percent : Nat} (s? : Option Suggestion),
      (∀ s, s? = some s → o.Proposes .bar percent s) →
      (s?.toList.map Suggestion.key).Sublist [(.bar, hundredths percent)] := by
    intro percent s? h
    cases s? with
    | none => exact List.nil_sublist _
    | some s => rw [Option.toList_some, List.map_singleton, (h s rfl).key_eq]
  have hgrouped := hlast (o.grouped? o.plainProposals) fun _ => proposes_of_grouped?
  have hfallback := hlast (o.fallback? o.ruleProposals) fun _ => proposes_of_fallback?
  rw [proposals, ruleProposals, List.map_append, List.map_append]
  exact (o.plainKeys_sublist.append hgrouped).append hfallback

theorem key_mem_keys (h : s ∈ o.proposals) : s.key ∈ keys :=
  o.keys_sublist.subset (List.mem_map_of_mem h)

/-- The confidences are finite and lie between 0 and 1. -/
theorem keys_bounded : ∀ key ∈ keys,
    key.2.units?.isSome ∧ Double.zero false ≤ key.2 ∧ key.2 ≤ Double.ofNat 1 := by decide +kernel

/-- No two rules have the same confidence. -/
theorem keys_different : (keys.map fun key => key.2.units?.getD 0).Nodup := by decide +kernel

/-- Nothing is surer than a single number. -/
theorem keys_metric : ∀ key ∈ keys, key.1 = .metric → ∀ other ∈ keys, ¬key.2 < other.2 := by
  decide +kernel

/-- Bars that are proposed from the columns alone are sure. -/
theorem plainKeys_bar : ∀ key ∈ plainKeys, key.1 = .bar → hundredths 85 ≤ key.2 := by decide +kernel

theorem units?_of_mem_proposals (h : s ∈ o.proposals) : s.confidence.units? = some s.rank := by
  obtain ⟨units, hunits⟩ := Option.isSome_iff_exists.mp (keys_bounded s.key (key_mem_keys h)).1
  have hunits : s.confidence.units? = some units := hunits
  rw [Suggestion.rank, hunits]
  rfl

/-- The confidences of a list of suggestions fall strictly. -/
theorem pairwise_suggestions (o : Overview) :
    o.suggestions.Pairwise fun s t => t.confidence < s.confidence := by
  have hranks : (o.proposals.map Suggestion.rank).Nodup := by
    have hsub := o.keys_sublist.map fun key => key.2.units?.getD 0
    rw [List.map_map] at hsub
    exact keys_different.sublist hsub
  have hle : ∀ s ∈ o.proposals, ∀ t ∈ o.proposals, s.mayPrecede t = decide (t.rank ≤ s.rank) := by
    intro s hs t ht
    rw [Suggestion.mayPrecede, Double.compare?_of_units? (units?_of_mem_proposals ht)
      (units?_of_mem_proposals hs), Option.getD_some, Bool.eq_iff_iff, bne_iff_ne, decide_eq_true_iff]
    exact Int.compare_ne_gt
  have hfalling : o.suggestions.Pairwise fun s t => t.rank < s.rank :=
    pairwise_mergeSort_of_rank hle hranks
  refine hfalling.imp_of_mem fun {s t} hs ht hlt => ?_
  exact (Double.lt_iff_of_units? (units?_of_mem_proposals (mem_suggestions_iff.mp ht))
    (units?_of_mem_proposals (mem_suggestions_iff.mp hs))).mpr hlt

/-! ## Kinds of charts -/

theorem nodup_shapes_plainProposals (o : Overview) :
    (o.plainProposals.map fun s => s.kind.shape).Nodup := by
  have hsub := o.plainKeys_sublist.map Prod.fst
  rw [List.map_map] at hsub
  have hdifferent : (plainKeys.map Prod.fst).Nodup := by decide
  exact hdifferent.sublist hsub

/-- Bars that are proposed from the columns alone keep grouped bars back. -/
theorem hasSureBars_of_mem_plainProposals (h : s ∈ o.plainProposals) (hbar : s.kind.shape = .bar) :
    hasSureBars o.plainProposals = true := by
  have hkind : s.kind = .bar := by
    cases hkind : s.kind <;> simp [hkind, ChartKind.shape] at hbar ⊢
  have hsure : hundredths 85 ≤ s.confidence :=
    plainKeys_bar s.key (o.plainKeys_sublist.subset (List.mem_map_of_mem h)) hbar
  exact List.any_eq_true.mpr ⟨s, h, by simp [hkind, hsure]⟩

theorem nodup_shapes_ruleProposals (o : Overview) :
    (o.ruleProposals.map fun s => s.kind.shape).Nodup := by
  rw [ruleProposals]
  cases hgrouped : o.grouped? o.plainProposals with
  | none =>
      rw [Option.toList_none, List.append_nil]
      exact o.nodup_shapes_plainProposals
  | some bars =>
      refine nodup_map_append_singleton o.nodup_shapes_plainProposals fun s hs hshape => ?_
      have hbar : s.kind.shape = .bar := hshape.trans (proposes_of_grouped? hgrouped).shape
      have hsure := hasSureBars_of_mem_plainProposals hs hbar
      rw [not_hasSureBars_of_grouped? hgrouped] at hsure
      simp at hsure

/-- The proposals have different shapes: of the three rules for bars only one is heard. -/
theorem nodup_shapes (o : Overview) : (o.proposals.map fun s => s.kind.shape).Nodup := by
  rw [proposals]
  cases hfallback : o.fallback? o.ruleProposals with
  | none =>
      rw [Option.toList_none, List.append_nil]
      exact o.nodup_shapes_ruleProposals
  | some s =>
      -- the last rule speaks alone
      have hnothing : o.ruleProposals = [] := by
        by_contra hne
        rw [fallback?_eq_none_iff.mpr (.inl hne)] at hfallback
        simp at hfallback
      rw [hnothing]
      exact List.nodup_singleton _

theorem nodup_shapes_suggestions (o : Overview) : (o.suggestions.map fun s => s.kind.shape).Nodup :=
  ((List.mergeSort_perm _ _).map _).nodup_iff.mpr o.nodup_shapes

/-- A single number comes first. -/
theorem head?_of_metric (h : s ∈ o.suggestions) (hkind : s.kind = .metric) :
    o.suggestions.head? = some s := by
  have hshape : s.key.1 = .metric := by
    show s.kind.shape = .metric
    rw [hkind]
    rfl
  have hfirst : ∀ t ∈ o.suggestions, ¬s.confidence < t.confidence := fun t ht =>
    keys_metric s.key (key_mem_keys (mem_suggestions_iff.mp h)) hshape t.key
      (key_mem_keys (mem_suggestions_iff.mp ht))
  have hfalling := o.pairwise_suggestions
  cases hlist : o.suggestions with
  | nil => simp [hlist] at h
  | cons first rest =>
      rw [hlist] at h hfirst hfalling
      rcases List.mem_cons.mp h with rfl | hrest
      · rfl
      · exact absurd (List.rel_of_pairwise_cons hfalling hrest) (hfirst first List.mem_cons_self)

/-! ## Nothing to suggest -/

/-- **Nothing is proposed for fewer than two columns**, unless they are a single number. -/
theorem proposals_eq_nil_iff : o.proposals = [] ↔
    o.profiles.length < 2 ∧ ¬(o.rows = 1 ∧ ∃ p, o.profiles = [p] ∧ p.isNumeric = true) := by
  constructor
  · intro h
    obtain ⟨hrules, hlast⟩ := List.append_eq_nil_iff.mp h
    refine ⟨?_, ?_⟩
    · rcases fallback?_eq_none_iff.mp (Option.toList_eq_nil_iff.mp hlast) with hne | hfew
      · exact absurd hrules hne
      · exact hfew
    · rintro ⟨hrows, p, hprofiles, hp⟩
      have hnumeric : o.numeric.length = 1 := by simp [numeric, hprofiles, hp]
      have hplain := mem_plainProposals_iff.mpr ⟨(metric?, .metric, 95), by simp [ruleTable],
        metric?_eq_some_iff.mpr ⟨hrows, hnumeric, rfl⟩⟩
      have hmem := mem_proposals_iff.mpr (.inl hplain)
      rw [h] at hmem
      exact absurd hmem List.not_mem_nil
  · rintro ⟨hfew, hnot⟩
    refine List.eq_nil_iff_forall_not_mem.mpr fun s hs => ?_
    obtain ⟨shape, percent, hproposes⟩ := proposes_of_mem_proposals hs
    by_cases hkind : s.kind = .metric
    · obtain ⟨hrows, hnumeric, -⟩ := metric?_eq_some_iff.mp (metric?_of_mem_proposals hs hkind)
      have hle : o.numeric.length ≤ o.profiles.length := o.numeric_sublist.length_le
      obtain ⟨p, hprofiles⟩ := List.length_eq_one_iff.mp (by omega : o.profiles.length = 1)
      refine hnot ⟨hrows, p, hprofiles, ?_⟩
      by_contra hp
      simp [numeric, hprofiles, hp] at hnumeric
    · have htwo := hproposes.two_le_length hkind
      omega

end Overview

namespace QueryResult

/-! ## The list of suggestions -/

/-- **The charts suggested for a result are ranked.** Their confidences fall strictly and lie between 0 and 1;
no kind of chart is suggested twice, nor pies beside donuts; a single number comes first. Nothing is suggested
exactly for fewer than two profiled columns, unless they are one column of quantities and there is one row. -/
theorem suggestions_ranked (r : QueryResult) (selections : List Selection) :
    (r.suggestions selections).Pairwise (fun s t => t.confidence < s.confidence) ∧
    (∀ s ∈ r.suggestions selections,
      Double.zero false ≤ s.confidence ∧ s.confidence ≤ Double.ofNat 1) ∧
    ((r.suggestions selections).map Suggestion.kind).Nodup ∧
    ¬(.pie ∈ (r.suggestions selections).map Suggestion.kind ∧
      .donut ∈ (r.suggestions selections).map Suggestion.kind) ∧
    (∀ s ∈ r.suggestions selections, s.kind = .metric →
      (r.suggestions selections).head? = some s) ∧
    (r.suggestions selections = [] ↔ (r.profiles selections).length < 2 ∧
      ¬(r.rows.length = 1 ∧ ∃ p, r.profiles selections = [p] ∧ p.isNumeric = true)) := by
  set o : Overview := ⟨r.profiles selections, r.rows.length⟩ with ho
  have hsuggestions : r.suggestions selections = o.suggestions := rfl
  have hshapes : ((o.suggestions.map Suggestion.kind).map ChartKind.shape).Nodup := by
    rw [List.map_map]
    exact o.nodup_shapes_suggestions
  rw [hsuggestions]
  refine ⟨o.pairwise_suggestions, ?_, hshapes.of_map _, ?_, fun s hs => Overview.head?_of_metric hs, ?_⟩
  · intro s hs
    exact (Overview.keys_bounded s.key (Overview.key_mem_keys (Overview.mem_suggestions_iff.mp hs))).2
  · rintro ⟨hpie, hdonut⟩
    have heq := List.inj_on_of_nodup_map hshapes hpie hdonut rfl
    exact absurd heq (by decide)
  · rw [← List.length_eq_zero_iff, Overview.suggestions, List.length_mergeSort, List.length_eq_zero_iff]
    exact Overview.proposals_eq_nil_iff

/-- The takings of one region on one day. -/
def takings : QueryResult where
  columns := ["day", "region", "total"]
  columnTypes := ["date", "varchar(8)", "numeric(10,2)"]
  rows := [[.text "2024-01-01", .text "north", .number (.ofNat 42)]]
  rowCount := 1
  truncated := false
  executionTimeMs := 3

/-- The one total as a single number. -/
def takingsNumber : Suggestion :=
  ⟨.metric, hundredths 95, "Single value result", plainConfig none ["total"]⟩

/-- One row is a number before it is a line, a bar and a donut. -/
theorem suggestions_takings :
    takingsNumber ∈ takings.suggestions [] ∧ takingsNumber.kind = .metric ∧
      (takings.suggestions []).head? = some takingsNumber ∧
      (∃ s ∈ takings.suggestions [], s.kind = .donut) ∧
      .pie ∉ (takings.suggestions []).map Suggestion.kind := by
  obtain ⟨-, -, -, hround, hfirst, -⟩ := suggestions_ranked takings []
  have hnumber : takingsNumber ∈ takings.suggestions [] :=
    Overview.mem_suggestions_iff.mpr (by decide +kernel)
  have hdonut : ∃ s ∈ takings.suggestions [], s.kind = .donut := by
    have hproposed : ∃ s ∈ Overview.proposals ⟨takings.profiles [], 1⟩, s.kind = .donut := by
      decide +kernel
    obtain ⟨s, hs, hkind⟩ := hproposed
    exact ⟨s, Overview.mem_suggestions_iff.mpr hs, hkind⟩
  refine ⟨hnumber, rfl, hfirst takingsNumber hnumber rfl, hdonut, fun hpie => hround ⟨hpie, ?_⟩⟩
  obtain ⟨s, hs, hkind⟩ := hdonut
  exact List.mem_map.mpr ⟨s, hs, hkind⟩

end QueryResult

end QueryDesk
