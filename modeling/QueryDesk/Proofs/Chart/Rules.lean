import QueryDesk.Chart.Suggestion
import Mathlib.Data.List.Perm.Subperm

/-! # What the rules of chart suggestions propose

Every rule proposes charts of one shape with one confidence, and gives every role of the chart to a column of
its own (`Overview.Proposes`). There is one lemma for each rule; `proposes_of_mem_proposals` collects them.
That no column has two roles is said by places and not by names: the names in the roles are names of different
profiles, which may well be equal where columns have one name.
-/

set_option autoImplicit false

namespace QueryDesk

/-- The shape of a kind of chart: a donut is a pie. -/
def ChartKind.shape : ChartKind → ChartKind
  | .donut => .pie
  | kind => kind

/-- **The columns of a chart in their roles**: the category axis, the measures, the size. -/
def ChartConfig.roles (c : ChartConfig) : List String := c.xAxis.toList ++ c.yAxis ++ c.size.toList

namespace Overview

/-- **What is known of a proposal** of a chart of some shape with a confidence in hundredths. -/
structure Proposes (o : Overview) (shape : ChartKind) (percent : Nat) (s : Suggestion) : Prop where
  shape : s.kind.shape = shape
  confidence : s.confidence = hundredths percent
  /-- Something is measured. -/
  measured : s.config.yAxis ≠ []
  /-- Only a single number has no category axis. -/
  axis : s.kind ≠ .metric → s.config.xAxis ≠ none
  /-- The roles are given to different columns. -/
  roles : s.config.roles.Subperm (o.profiles.map Profile.name)

variable {o : Overview} {s : Suggestion} {earlier : List Suggestion}

/-- An axis and a measure take two columns. -/
theorem Proposes.two_le_length {shape : ChartKind} {percent : Nat} (h : o.Proposes shape percent s)
    (hkind : s.kind ≠ .metric) : 2 ≤ o.profiles.length := by
  obtain ⟨x, hx⟩ := Option.ne_none_iff_exists'.mp (h.axis hkind)
  have hmeasured : 0 < s.config.yAxis.length := List.length_pos_iff.mpr h.measured
  have hroles : s.config.roles.length ≤ o.profiles.length := by
    rw [← List.length_map (f := Profile.name)]
    exact h.roles.length_le
  rw [ChartConfig.roles, hx, List.length_append, List.length_append, Option.toList_some,
    List.length_singleton] at hroles
  omega

/-! ## Columns by category -/

theorem numeric_sublist (o : Overview) : o.numeric.Sublist o.profiles := List.filter_sublist

/-- The first column of dates can be an axis for quantities. -/
theorem axis_of_dates {date : Profile} {rest : List Profile} (h : o.dates = date :: rest) :
    date ∈ o.profiles ∧ date.category ≠ .numeric := by
  have hmem : date ∈ o.dates := h ▸ List.mem_cons_self
  rw [dates, List.mem_filter, Profile.isDate, beq_iff_eq] at hmem
  exact ⟨hmem.1, by simp [hmem.2]⟩

/-- The first column of labels can be an axis for quantities. -/
theorem axis_of_labels {label : Profile} {rest : List Profile} (h : o.labels = label :: rest) :
    label ∈ o.profiles ∧ label.category ≠ .numeric := by
  have hmem : label ∈ o.labels := h ▸ List.mem_cons_self
  rw [labels, List.mem_filter, Profile.isCategorical, beq_iff_eq] at hmem
  exact ⟨hmem.1, by simp [hmem.2]⟩

theorem measures_ne_nil (h : o.numeric ≠ []) : o.measures ≠ [] := by
  rw [measures, Ne, List.map_eq_nil_iff]
  exact h

/-- A column that holds no quantities, and all that do, are different columns. -/
theorem axis_measures_subperm {axis : Profile} (h : axis ∈ o.profiles ∧ axis.category ≠ .numeric) :
    (axis.name :: o.measures).Subperm (o.profiles.map Profile.name) := by
  have hnot : axis ∉ o.numeric := by
    intro hmem
    have hnumeric := (List.mem_filter.mp hmem).2
    rw [Profile.isNumeric, beq_iff_eq] at hnumeric
    exact h.2 hnumeric
  obtain ⟨columns, hperm, hsub⟩ :=
    List.cons_subperm_of_not_mem_of_mem hnot h.1 o.numeric_sublist.subperm
  exact ⟨columns.map Profile.name, hperm.map Profile.name, hsub.map Profile.name⟩

/-- Quantities drawn over a column of another category. -/
theorem proposes_over {axis : Profile} {shape : ChartKind} {percent : Nat}
    (haxis : axis ∈ o.profiles ∧ axis.category ≠ .numeric) (hnumeric : o.numeric ≠ [])
    (hshape : s.kind.shape = shape) (hconfidence : s.confidence = hundredths percent)
    (hx : s.config.xAxis = some axis.name) (hy : s.config.yAxis = o.measures)
    (hsize : s.config.size = none) : o.Proposes shape percent s where
  shape := hshape
  confidence := hconfidence
  measured := hy ▸ measures_ne_nil hnumeric
  axis := by simp [hx]
  roles := by
    have hroles : s.config.roles = axis.name :: o.measures := by
      simp [ChartConfig.roles, hx, hy, hsize]
    rw [hroles]
    exact axis_measures_subperm haxis

/-! ## The rules one by one -/

theorem metric?_eq_some_iff : o.metric? = some s ↔ o.rows = 1 ∧ o.numeric.length = 1 ∧
    s = ⟨.metric, hundredths 95, "Single value result", plainConfig none o.measures⟩ := by
  rw [metric?, Option.ite_none_right_eq_some, Bool.and_eq_true, beq_iff_eq, beq_iff_eq, and_assoc,
    Option.some.injEq, eq_comm (a := s)]

theorem proposes_of_metric? (h : o.metric? = some s) : o.Proposes .metric 95 s := by
  obtain ⟨-, hnumeric, rfl⟩ := metric?_eq_some_iff.mp h
  have hne : o.numeric ≠ [] := List.ne_nil_of_length_pos (by omega)
  refine ⟨rfl, rfl, measures_ne_nil hne, fun hkind => absurd rfl hkind, ?_⟩
  have hroles : (plainConfig none o.measures).roles = o.measures := by
    simp [ChartConfig.roles, plainConfig]
  rw [hroles]
  exact (o.numeric_sublist.map Profile.name).subperm

theorem proposes_of_line? (h : o.line? = some s) : o.Proposes .line 90 s := by
  unfold line? at h
  split at h
  · next hdates hnumeric =>
      obtain rfl := Option.some.inj h
      exact proposes_over (axis_of_dates hdates) (by simp [hnumeric]) rfl rfl rfl rfl rfl
  · simp at h

theorem proposes_of_area? (h : o.area? = some s) : o.Proposes .area 75 s := by
  unfold area? at h
  split at h
  · next hdates =>
      obtain ⟨hmany, hs⟩ := Option.ite_none_right_eq_some.mp h
      obtain rfl := Option.some.inj hs
      exact proposes_over (axis_of_dates hdates) (List.ne_nil_of_length_pos (by omega)) rfl rfl rfl rfl rfl
  · simp at h

theorem proposes_of_bar? (h : o.bar? = some s) : o.Proposes .bar 85 s := by
  unfold bar? at h
  split at h
  · next hlabels hnumeric =>
      obtain ⟨-, hs⟩ := Option.ite_none_right_eq_some.mp h
      obtain rfl := Option.some.inj hs
      exact proposes_over (axis_of_labels hlabels) (by simp [hnumeric]) rfl rfl rfl rfl rfl
  · simp at h

theorem proposes_of_share? (h : o.share? = some s) : o.Proposes .pie 80 s := by
  unfold share? at h
  split at h
  · next label _ hlabels =>
      obtain ⟨hfew, hs⟩ := Option.ite_none_right_eq_some.mp h
      rw [Bool.and_eq_true, beq_iff_eq] at hfew
      obtain rfl := Option.some.inj hs
      -- a donut has the shape of a pie
      have hshape : (if label.uniqueCount ≤ donutLimit then ChartKind.donut else .pie).shape = .pie := by
        split <;> rfl
      exact proposes_over (axis_of_labels hlabels) (List.ne_nil_of_length_pos (by omega)) hshape rfl rfl rfl rfl
  · simp at h

theorem proposes_of_scatter? (h : o.scatter? = some s) : o.Proposes .scatter 70 s := by
  unfold scatter? at h
  split at h
  · next first second others hnumeric =>
      obtain ⟨-, hs⟩ := Option.ite_none_right_eq_some.mp h
      obtain rfl := Option.some.inj hs
      refine ⟨rfl, rfl, List.cons_ne_nil _ _, fun _ => by simp [plainConfig], ?_⟩
      -- axis, measure and size are the first three columns of quantities
      have hfirst : (first :: second :: others.head?.toList).Sublist o.numeric := by
        rw [hnumeric]
        cases others <;> simp
      have hroles := (hfirst.trans o.numeric_sublist).map Profile.name
      cases others <;> exact hroles.subperm
  · simp at h

theorem proposes_of_grouped? (h : o.grouped? earlier = some s) : o.Proposes .bar 65 s := by
  unfold grouped? at h
  split at h
  · next hlabels =>
      obtain ⟨hmany, hs⟩ := Option.ite_none_right_eq_some.mp h
      simp only [Bool.and_eq_true, decide_eq_true_eq] at hmany
      obtain rfl := Option.some.inj hs
      exact proposes_over (axis_of_labels hlabels) (List.ne_nil_of_length_pos (by omega)) rfl rfl rfl rfl rfl
  · simp at h

theorem not_hasSureBars_of_grouped? (h : o.grouped? earlier = some s) : hasSureBars earlier = false := by
  unfold grouped? at h
  split at h
  · have hguard := (Option.ite_none_right_eq_some.mp h).1
    rw [Bool.and_eq_true, Bool.not_eq_true'] at hguard
    exact hguard.2
  · simp at h

theorem proposes_of_fallback? (h : o.fallback? earlier = some s) : o.Proposes .bar 50 s := by
  unfold fallback? at h
  split at h
  · next first second _ hprofiles =>
      obtain rfl := Option.some.inj h
      refine ⟨rfl, rfl, List.cons_ne_nil _ _, fun _ => by simp [plainConfig], ?_⟩
      have hroles : [first.name, second.name].Sublist (o.profiles.map Profile.name) := by
        rw [hprofiles]
        simp
      exact hroles.subperm
  · simp at h

/-- The last rule speaks only where nothing was proposed, and then wherever there are two columns. -/
theorem fallback?_eq_none_iff : o.fallback? earlier = none ↔ earlier ≠ [] ∨ o.profiles.length < 2 := by
  cases earlier with
  | cons s rest => simp [fallback?]
  | nil =>
      match hprofiles : o.profiles with
      | [] => simp [fallback?, hprofiles]
      | [p] => simp [fallback?, hprofiles]
      | first :: second :: rest => simp [fallback?, hprofiles]

/-! ## All rules -/

/-- The rules that look at the columns alone, with the shape and the confidence of what they propose. -/
def ruleTable : List ((Overview → Option Suggestion) × ChartKind × Nat) :=
  [(metric?, .metric, 95), (line?, .line, 90), (area?, .area, 75), (bar?, .bar, 85), (share?, .pie, 80),
    (scatter?, .scatter, 70)]

theorem plainProposals_eq (o : Overview) :
    o.plainProposals = ruleTable.filterMap fun entry => entry.1 o := by
  show (ruleTable.map Prod.fst).filterMap (fun rule => rule o) = _
  rw [List.filterMap_map]
  rfl

theorem mem_plainProposals_iff : s ∈ o.plainProposals ↔ ∃ entry ∈ ruleTable, entry.1 o = some s := by
  rw [plainProposals_eq, List.mem_filterMap]

theorem mem_proposals_iff : s ∈ o.proposals ↔ s ∈ o.plainProposals ∨
    o.grouped? o.plainProposals = some s ∨ o.fallback? o.ruleProposals = some s := by
  have hrules : s ∈ o.ruleProposals ↔ s ∈ o.plainProposals ∨ o.grouped? o.plainProposals = some s := by
    rw [ruleProposals, List.mem_append, Option.mem_toList]
  rw [proposals, List.mem_append, Option.mem_toList, hrules, or_assoc]

theorem proposes_of_mem_ruleTable {entry : (Overview → Option Suggestion) × ChartKind × Nat}
    (hentry : entry ∈ ruleTable) (h : entry.1 o = some s) : o.Proposes entry.2.1 entry.2.2 s := by
  simp only [ruleTable, List.mem_cons, List.not_mem_nil, or_false] at hentry
  rcases hentry with rfl | rfl | rfl | rfl | rfl | rfl
  · exact proposes_of_metric? h
  · exact proposes_of_line? h
  · exact proposes_of_area? h
  · exact proposes_of_bar? h
  · exact proposes_of_share? h
  · exact proposes_of_scatter? h

/-- Ranking keeps all proposals. -/
theorem mem_suggestions_iff : s ∈ o.suggestions ↔ s ∈ o.proposals := List.mem_mergeSort

/-- **Every proposal has the shape and the confidence of its rule**, and its roles are given to different
columns. -/
theorem proposes_of_mem_proposals (h : s ∈ o.proposals) : ∃ shape percent, o.Proposes shape percent s := by
  rcases mem_proposals_iff.mp h with hplain | hs | hs
  · obtain ⟨entry, hentry, hs⟩ := mem_plainProposals_iff.mp hplain
    exact ⟨_, _, proposes_of_mem_ruleTable hentry hs⟩
  · exact ⟨_, _, proposes_of_grouped? hs⟩
  · exact ⟨_, _, proposes_of_fallback? hs⟩

/-- Only the first rule proposes a single number. -/
theorem metric?_of_mem_proposals (h : s ∈ o.proposals) (hkind : s.kind = .metric) :
    o.metric? = some s := by
  have hshape : s.kind.shape = .metric := by rw [hkind]; rfl
  rcases mem_proposals_iff.mp h with hplain | hs | hs
  · obtain ⟨entry, hentry, hs⟩ := mem_plainProposals_iff.mp hplain
    have hkey := (proposes_of_mem_ruleTable hentry hs).shape.symm.trans hshape
    simp only [ruleTable, List.mem_cons, List.not_mem_nil, or_false] at hentry
    rcases hentry with rfl | rfl | rfl | rfl | rfl | rfl
    · exact hs
    all_goals exact absurd hkey (by decide)
  · exact absurd ((proposes_of_grouped? hs).shape.symm.trans hshape) (by decide)
  · exact absurd ((proposes_of_fallback? hs).shape.symm.trans hshape) (by decide)

end Overview

end QueryDesk
