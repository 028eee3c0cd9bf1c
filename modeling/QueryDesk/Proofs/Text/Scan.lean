import QueryDesk.Proofs.Lists
import QueryDesk.Text.Scan

/-! # What scanners take

A scanner that succeeds has taken a beginning of its text: each `…_eq_some_iff` says which one. Repeated
scanning takes the items one after the other (`repeated?_of_eq_some`).
-/

set_option autoImplicit false

namespace QueryDesk.Text

variable {α : Type} {c : Char} {cs rest : List Char}

theorem exactChar?_eq_some_iff : exactChar? c cs = some rest ↔ cs = c :: rest := by
  cases cs with
  | nil => simp [exactChar?]
  | cons d ds => simp [exactChar?]

theorem anyChar?_eq_some_iff : anyChar? cs = some (c, rest) ↔ cs = c :: rest := by
  cases cs with
  | nil => simp [anyChar?]
  | cons d ds => simp [anyChar?]

/-- A run ends where a character is not in the class. -/
theorem run?_eq_some_iff {isIn : Char → Bool} {run : List Char} :
    run? isIn cs = some (run, rest) ↔
      cs = run ++ rest ∧ run ≠ [] ∧ (∀ c ∈ run, isIn c = true) ∧
        ∀ c, rest.head? = some c → isIn c = false := by
  rw [run?, Option.ite_none_left_eq_some, Option.some.injEq, Prod.mk.injEq]
  constructor
  · rintro ⟨hne, rfl, rfl⟩
    have hin := List.all_eq_true.mp (List.all_takeWhile (p := isIn) (l := cs))
    refine ⟨List.takeWhile_append_dropWhile.symm, by simpa using hne, hin, ?_⟩
    intro c hc
    have h := List.head?_dropWhile_not isIn cs
    rw [hc] at h
    exact h
  · rintro ⟨rfl, hne, hin, hout⟩
    obtain ⟨htake, hdrop⟩ := takeWhile_dropWhile_append hin hout
    rw [htake, hdrop]
    exact ⟨by simpa using hne, rfl, rfl⟩

theorem exactDigits?_eq_some_iff {count value : Nat} :
    exactDigits? count cs = some (value, rest) ↔
      ∃ digits, cs = digits ++ rest ∧ digits.length = count ∧ (∀ c ∈ digits, c.isDigit = true) ∧
        digitsValue digits = value := by
  simp only [exactDigits?, Option.ite_none_right_eq_some, Option.some.injEq, Prod.mk.injEq,
    List.all_eq_true]
  constructor
  · rintro ⟨⟨hlength, hdigits⟩, rfl, rfl⟩
    exact ⟨cs.take count, (List.take_append_drop count cs).symm, hlength, hdigits, rfl⟩
  · rintro ⟨digits, rfl, rfl, hdigits, rfl⟩
    rw [List.take_left, List.drop_left]
    exact ⟨⟨rfl, hdigits⟩, rfl, rfl⟩

/-! ## Repetition -/

theorem repeated?_of_eq_none {item : Scan α} (h : item cs = none) :
    repeated? item cs = some ([], cs) := by
  rw [repeated?, h]

theorem repeated?_of_eq_some {item : Scan α} {a : α} (h : item cs = some (a, rest))
    (shorter : rest.length < cs.length) :
    repeated? item cs = (repeated? item rest).map fun more => (a :: more.1, more.2) := by
  rw [repeated?, h]
  exact if_pos shorter

end QueryDesk.Text
