import QueryDesk.Chart.Profile
import Mathlib.Data.List.Induction
import Mathlib.Data.List.Perm.Basic

/-! # The category that values show

A column without a type name is judged by what all its values but the nulls have in common, whatever their order
(`inferCategory_by_values`). The evidence is followed value by value: `Evidence.Covers` is what is known after some
values, and a value more either is null or says what it is itself.
-/

set_option autoImplicit false

namespace QueryDesk

/-! ## What a value shows -/

namespace Cell

/-- A number. -/
def isNumber : Cell → Bool
  | .number _ => true
  | _ => false

/-- A text that begins like a date. -/
def isDateText : Cell → Bool
  | .text s => looksLikeDate s.toList
  | _ => false

theorem isDateText_of_isNumber {c : Cell} (h : c.isNumber = true) : c.isDateText = false := by
  cases c <;> simp_all [isNumber, isDateText]

end Cell

/-- Some value is not null. -/
def HasValue (values : List Cell) : Prop := ∃ c ∈ values, c ≠ .null

/-- All values are of a kind, the nulls apart. -/
def AllButNulls (kind : Cell → Bool) (values : List Cell) : Prop := ∀ c ∈ values, c ≠ .null → kind c = true

section OneMore

variable {kind : Cell → Bool} {values : List Cell} {c : Cell}

theorem not_hasValue_iff : ¬HasValue values ↔ ∀ c ∈ values, c = .null := by
  simp [HasValue]

theorem hasValue_append_null : HasValue (values ++ [.null]) ↔ HasValue values := by
  simp [HasValue, or_and_right]

theorem hasValue_append (hc : c ≠ .null) : HasValue (values ++ [c]) :=
  ⟨c, List.mem_append_right _ List.mem_cons_self, hc⟩

theorem allButNulls_append_null : AllButNulls kind (values ++ [.null]) ↔ AllButNulls kind values := by
  simp [AllButNulls, or_imp, forall_and]

theorem allButNulls_append (hc : c ≠ .null) :
    AllButNulls kind (values ++ [c]) ↔ AllButNulls kind values ∧ kind c = true := by
  simp [AllButNulls, or_imp, forall_and, hc]

end OneMore

/-! ## Evidence, value by value -/

namespace Evidence

variable {values : List Cell} {e : Evidence}

/-- **What is known after some values.** -/
structure Covers (values : List Cell) (e : Evidence) : Prop where
  seen : e.seen = true ↔ HasValue values
  allNumbers : e.allNumbers = true ↔ AllButNulls Cell.isNumber values
  allDates : e.allDates = true ↔ AllButNulls Cell.isDateText values

theorem covers_start : Covers [] start where
  seen := by simp [start, HasValue]
  allNumbers := by simp [start, AllButNulls]
  allDates := by simp [start, AllButNulls]

/-- A value that is not null is seen, and clears what it is not. -/
theorem add_eq {c : Cell} (hc : c ≠ .null) :
    e.add c = ⟨true, e.allNumbers && c.isNumber, e.allDates && c.isDateText⟩ := by
  cases c <;> simp_all [add, Cell.isNumber, Cell.isDateText]

theorem Covers.add (h : Covers values e) (c : Cell) : Covers (values ++ [c]) (e.add c) := by
  by_cases hc : c = .null
  · subst hc
    exact
      { seen := h.seen.trans hasValue_append_null.symm
        allNumbers := h.allNumbers.trans allButNulls_append_null.symm
        allDates := h.allDates.trans allButNulls_append_null.symm }
  · rw [add_eq hc]
    exact
      { seen := iff_of_true rfl (hasValue_append hc)
        allNumbers := by rw [allButNulls_append hc, Bool.and_eq_true, h.allNumbers]
        allDates := by rw [allButNulls_append hc, Bool.and_eq_true, h.allDates] }

/-- **All values are covered in the end**, by induction on them from behind. -/
theorem covers_foldl (values : List Cell) : Covers values (values.foldl add start) := by
  induction values using List.reverseRecOn with
  | nil => exact covers_start
  | append_singleton values c ih =>
      rw [List.foldl_append]
      exact ih.add c

/-- Values cannot all be numbers and all be dates, where there are any. -/
theorem Covers.not_both (h : Covers values e) (hseen : e.seen = true) (hnumbers : e.allNumbers = true) :
    e.allDates = false := by
  obtain ⟨c, hc, hne⟩ := h.seen.mp hseen
  have hnumber := h.allNumbers.mp hnumbers c hc hne
  refine Bool.eq_false_iff.mpr fun hdates => ?_
  have hdate := h.allDates.mp hdates c hc hne
  rw [Cell.isDateText_of_isNumber hnumber] at hdate
  exact Bool.false_ne_true hdate

/-- The category by the three flags, of which those for numbers and dates are never left together. -/
theorem category_iff (hboth : e.seen = true → e.allNumbers = true → e.allDates = false) :
    (e.category = .unknown ↔ ¬e.seen = true) ∧
      (e.category = .numeric ↔ e.seen = true ∧ e.allNumbers = true) ∧
      (e.category = .date ↔ e.seen = true ∧ e.allDates = true) ∧
      (e.category = .categorical ↔ e.seen = true ∧ ¬e.allNumbers = true ∧ ¬e.allDates = true) := by
  obtain ⟨seen, allNumbers, allDates⟩ := e
  cases seen <;> cases allNumbers <;> cases allDates <;> simp_all [category]

end Evidence

/-! ## The category -/

/-- Lists with the same values, the nulls apart, show the same category. -/
theorem inferCategory_congr {values others : List Cell}
    (h : ∀ c, c ≠ .null → (c ∈ others ↔ c ∈ values)) : inferCategory others = inferCategory values := by
  have hvalue : HasValue others ↔ HasValue values :=
    exists_congr fun c => and_congr_left fun hc => h c hc
  have hkind : ∀ kind, AllButNulls kind others ↔ AllButNulls kind values := fun kind =>
    forall_congr' fun c => by
      by_cases hc : c = .null
      · simp [hc]
      · rw [h c hc]
  have covers := Evidence.covers_foldl values
  have covers' := Evidence.covers_foldl others
  -- both lists leave the same evidence
  have hsame : others.foldl Evidence.add .start = values.foldl Evidence.add .start := by
    rw [Evidence.mk.injEq]
    refine ⟨Bool.eq_iff_iff.mpr ?_, Bool.eq_iff_iff.mpr ?_, Bool.eq_iff_iff.mpr ?_⟩
    · rw [covers'.seen, covers.seen, hvalue]
    · rw [covers'.allNumbers, covers.allNumbers, hkind]
    · rw [covers'.allDates, covers.allDates, hkind]
  rw [inferCategory, hsame, inferCategory]

/-- **The category is what the values have in common**: unknown where all are null, else numeric where all the
others are numbers, date where all the others are texts that begin like a date, and categorical in every other
case. So further nulls and another order change nothing. -/
theorem inferCategory_by_values (values : List Cell) :
    (inferCategory values = .unknown ↔ ∀ c ∈ values, c = .null) ∧
      (inferCategory values = .numeric ↔ HasValue values ∧ AllButNulls Cell.isNumber values) ∧
      (inferCategory values = .date ↔ HasValue values ∧ AllButNulls Cell.isDateText values) ∧
      (inferCategory values = .categorical ↔ HasValue values ∧ ¬AllButNulls Cell.isNumber values ∧
        ¬AllButNulls Cell.isDateText values) ∧
      ∀ others : List Cell,
        (others.filter fun c => !c.isNull).Perm (values.filter fun c => !c.isNull) →
          inferCategory others = inferCategory values := by
  have covers := Evidence.covers_foldl values
  obtain ⟨hunknown, hnumeric, hdate, hcategorical⟩ := Evidence.category_iff covers.not_both
  rw [← not_hasValue_iff, ← covers.seen, ← covers.allNumbers, ← covers.allDates]
  refine ⟨hunknown, hnumeric, hdate, hcategorical, ?_⟩
  intro others hperm
  apply inferCategory_congr
  intro c hc
  have hmem := hperm.mem_iff (a := c)
  simpa [Cell.isNull, hc] using hmem

/-- Days among nulls, of which the last only begins like a day. -/
def days : List Cell := [.null, .text "2024-05-01", .text "2024-05-99 or later"]

/-- The same days in another order and with other nulls. -/
def daysRearranged : List Cell := [.text "2024-05-99 or later", .null, .null, .text "2024-05-01"]

theorem inferCategory_days :
    inferCategory days = .date ∧
      (daysRearranged.filter fun c => !c.isNull).Perm (days.filter fun c => !c.isNull) ∧
      inferCategory daysRearranged = .date := by
  obtain ⟨-, -, hdate, -, hsame⟩ := inferCategory_by_values days
  have hvalue : HasValue days := ⟨.text "2024-05-01", by decide, by decide⟩
  have hkind : AllButNulls Cell.isDateText days := by simp only [AllButNulls]; decide +kernel
  have hperm : (daysRearranged.filter fun c => !c.isNull).Perm (days.filter fun c => !c.isNull) := by decide
  have hdays : inferCategory days = .date := hdate.mpr ⟨hvalue, hkind⟩
  exact ⟨hdays, hperm, (hsame _ hperm).trans hdays⟩

end QueryDesk
