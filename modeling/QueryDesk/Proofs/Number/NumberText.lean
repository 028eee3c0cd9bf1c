import QueryDesk.Number.NumberText
import QueryDesk.Proofs.Text.Decimal

/-! # The characters of a number

The text of a finite double is made of digits, a point, an exponent and signs (`text_all_inNumeral`).
In a style that ends whole numbers in `.0` it has a point or an exponent, so it is never the text of a
whole number (`text_point_or_exponent`).
-/

set_option autoImplicit false

namespace QueryDesk

/-- The characters that numbers are written with. -/
def inNumeral (c : Char) : Bool := c.isDigit || c == '.' || c == 'e' || c == '+' || c == '-'

theorem inNumeral_of_isDigit {c : Char} (h : c.isDigit = true) : inNumeral c = true := by
  simp [inNumeral, h]

namespace Decimal

theorem natText_all_inNumeral (n : Nat) : ∀ c ∈ Text.natText n, inNumeral c = true :=
  fun _ hc => inNumeral_of_isDigit (Text.isDigit_of_mem_natText hc)

theorem plain_all_inNumeral (d : Decimal) : ∀ c ∈ d.plain, inNumeral c = true := by
  intro c hc
  have hzero : inNumeral '0' = true := by decide
  have hpoint : inNumeral '.' = true := by decide
  unfold plain at hc
  dsimp only at hc
  split at hc
  · rcases List.mem_append.mp hc with hc | hc
    · exact natText_all_inNumeral _ c hc
    · exact (List.mem_replicate.mp hc).2 ▸ hzero
  · have hpadded : ∀ k, ∀ c ∈ (Text.natText d.digits).leftpad k '0', inNumeral c = true := by
      intro k c hc
      rcases List.mem_append.mp hc with hc | hc
      · exact (List.mem_replicate.mp hc).2 ▸ hzero
      · exact natText_all_inNumeral _ c hc
    rcases List.mem_append.mp hc with hc | hc
    · exact hpadded _ c (List.mem_of_mem_take hc)
    · rcases List.mem_cons.mp hc with rfl | hc
      · exact hpoint
      · exact hpadded _ c (List.mem_of_mem_drop hc)

theorem scientific_all_inNumeral (d : Decimal) : ∀ c ∈ d.scientific, inNumeral c = true := by
  intro c hc
  have hdigits := natText_all_inNumeral d.digits
  simp only [scientific, List.mem_append, List.mem_cons] at hc
  rcases hc with (hc | hc) | rfl | rfl | hc
  · exact hdigits c (List.mem_of_mem_take hc)
  · split at hc
    · simp at hc
    · rcases List.mem_cons.mp hc with rfl | hc
      · decide
      · exact hdigits c (List.mem_of_mem_drop hc)
  · decide
  · split <;> decide
  · exact natText_all_inNumeral _ c hc

theorem text_all_inNumeral (style : NumberStyle) (d : Decimal) :
    ∀ c ∈ d.text style, inNumeral c = true := by
  intro c hc
  have hzero : inNumeral '0' = true := by decide
  have hpoint : inNumeral '.' = true := by decide
  unfold text at hc
  dsimp only at hc
  split at hc
  · split at hc
    · rcases List.mem_append.mp hc with hc | hc
      · exact plain_all_inNumeral d c hc
      · rw [List.mem_cons, List.mem_singleton] at hc
        rcases hc with rfl | rfl
        · exact hpoint
        · exact hzero
    · exact plain_all_inNumeral d c hc
  · exact scientific_all_inNumeral d c hc

/-- A number that is not whole, or that is written as if it were not, has a point or an exponent. -/
theorem text_point_or_exponent {style : NumberStyle} (hstyle : style.wholePoint = true) (d : Decimal) :
    '.' ∈ d.text style ∨ 'e' ∈ d.text style := by
  unfold text
  dsimp only
  split
  · left
    split
    · exact List.mem_append_right _ List.mem_cons_self
    · next hfrac =>
        have hneg : ¬0 ≤ d.exponent := by simpa [hstyle] using hfrac
        unfold plain
        dsimp only
        rw [if_neg hneg]
        exact List.mem_append_right _ List.mem_cons_self
  · right
    exact List.mem_append_right _ List.mem_cons_self

end Decimal

namespace Double

theorem text_finite (style : NumberStyle) (negative : Bool) (m : Magnitude) :
    ∃ d : Decimal, text style (.finite negative m) = (if negative then ['-'] else []) ++ d.text style := by
  by_cases hzero : (m.significand == 0) = true
  · exact ⟨⟨0, 0⟩, by rw [text, Magnitude.text, if_pos hzero]⟩
  · exact ⟨m.shortest style.tie, by rw [text, Magnitude.text, if_neg hzero]⟩

theorem text_all_inNumeral {style : NumberStyle} {x : Double} (hx : x.isFinite = true) :
    ∀ c ∈ x.text style, inNumeral c = true := by
  cases x with
  | nan => simp [isFinite] at hx
  | infinite negative => simp [isFinite] at hx
  | finite negative m =>
      obtain ⟨d, hd⟩ := text_finite style negative m
      intro c hc
      rw [hd] at hc
      rcases List.mem_append.mp hc with hc | hc
      · have hminus : inNumeral '-' = true := by decide
        cases negative with
        | false => simp at hc
        | true => exact List.mem_singleton.mp hc ▸ hminus
      · exact d.text_all_inNumeral style c hc

theorem text_point_or_exponent {style : NumberStyle} (hstyle : style.wholePoint = true) {x : Double}
    (hx : x.isFinite = true) : '.' ∈ x.text style ∨ 'e' ∈ x.text style := by
  cases x with
  | nan => simp [isFinite] at hx
  | infinite negative => simp [isFinite] at hx
  | finite negative m =>
      obtain ⟨d, hd⟩ := text_finite style negative m
      rw [hd]
      exact (d.text_point_or_exponent hstyle).imp (List.mem_append_right _) (List.mem_append_right _)

end Double

end QueryDesk
