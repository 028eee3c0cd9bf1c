import QueryDesk.Number.Rounding
import QueryDesk.Proofs.Text.Decimal

/-! # Rounding stays in range

A quotient below `2 ^ 1023` is rounded to a finite double (`isFinite_ofRatio`), since rounding to 53 bits
carries at most into the next power of two. Hence every natural number of 64 bits has a finite double, and
so has everything that is divided by a positive power of ten (`isFinite_overPowerOfTen`).
-/

set_option autoImplicit false

namespace QueryDesk

/-! ## Powers of two and ten -/

theorem twoTo_add (a b : Nat) : twoTo (a + b) = twoTo a * twoTo b := Nat.pow_add 2 a b

theorem twoTo_succ (a : Nat) : twoTo (a + 1) = 2 * twoTo a := Nat.pow_succ'

theorem twoTo_le {a b : Nat} (h : a ≤ b) : twoTo a ≤ twoTo b := Nat.pow_le_pow_right (by decide) h

theorem twoTo_lt {a b : Nat} (h : a < b) : twoTo a < twoTo b := Nat.pow_lt_pow_right (by decide) h

theorem tenTo_add (a b : Nat) : tenTo (a + b) = tenTo a * tenTo b := Nat.pow_add 10 a b

theorem tenTo_le {a b : Nat} (h : a ≤ b) : tenTo a ≤ tenTo b := Nat.pow_le_pow_right (by decide) h

theorem twoTo_log2_le {n : Nat} (h : n ≠ 0) : twoTo n.log2 ≤ n := Nat.log2_self_le h

theorem lt_twoTo_log2 (n : Nat) : n < twoTo (n.log2 + 1) := Nat.lt_log2_self

theorem log2_lt_of_lt_twoTo {n e : Nat} (he : 0 < e) (h : n < twoTo e) : n.log2 < e := by
  by_cases hn : n = 0
  · subst hn
    exact he
  · exact (Nat.log2_lt hn).mpr h

theorem le_log2_of_twoTo_le {n e : Nat} (h : twoTo e ≤ n) : e ≤ n.log2 := by
  have hn : n ≠ 0 := Nat.ne_of_gt (Nat.lt_of_lt_of_le (twoTo_pos e) h)
  exact (Nat.le_log2 hn).mpr h

/-! ## The nearest natural number -/

theorem div_le_roundEven (num den : Nat) : num / den ≤ roundEven num den := by
  unfold roundEven
  dsimp only
  split
  · exact Nat.le_refl _
  · split
    · exact Nat.le_succ _
    · exact Nat.le_add_right _ _

theorem roundEven_le_div_succ (num den : Nat) : roundEven num den ≤ num / den + 1 := by
  unfold roundEven
  dsimp only
  split
  · exact Nat.le_succ _
  · split
    · exact Nat.le_refl _
    · have hmod : num / den % 2 < 2 := Nat.mod_lt _ (by decide)
      omega

/-! ## The significand of a quotient -/

/-- The scale at which 53 bits of a quotient are left. -/
def scaleOf (quotient : Nat) : Nat := quotient.log2 - 52

/-- The significand of `units / den`, rounded at its scale. -/
def significandOf (units den : Nat) : Nat := roundEven units (den * twoTo (scaleOf (units / den)))

theorem significandOf_le (units den : Nat) : significandOf units den ≤ twoTo 53 := by
  have hround := roundEven_le_div_succ units (den * twoTo (scaleOf (units / den)))
  -- the scale takes all but 53 bits off the quotient, and rounding may carry once
  have hlt : units / (den * twoTo (scaleOf (units / den))) < twoTo 53 := by
    rw [← Nat.div_div_eq_div_mul, Nat.div_lt_iff_lt_mul (twoTo_pos _), ← twoTo_add]
    refine Nat.lt_of_lt_of_le (lt_twoTo_log2 (units / den)) (twoTo_le ?_)
    unfold scaleOf
    omega
  exact Nat.le_trans hround hlt

theorem le_significandOf {units den : Nat} (h : 0 < scaleOf (units / den)) :
    twoTo 52 ≤ significandOf units den := by
  refine Nat.le_trans ?_ (div_le_roundEven units (den * twoTo (scaleOf (units / den))))
  have hne : units / den ≠ 0 := by
    intro hzero
    rw [hzero] at h
    exact absurd h (by decide)
  rw [← Nat.div_div_eq_div_mul, Nat.le_div_iff_mul_le (twoTo_pos _), ← twoTo_add]
  have hscale : 52 + scaleOf (units / den) = (units / den).log2 := by
    unfold scaleOf at h ⊢
    omega
  rw [hscale]
  exact twoTo_log2_le hne

namespace Double

/-! ## Quotients -/

theorem isFinite_ofScaled {negative : Bool} {significand scale : Nat} (hle : significand ≤ twoTo 53)
    (hnormal : scale = 0 ∨ twoTo 52 ≤ significand) (hscale : scale < 2045) :
    (ofScaled negative significand scale).isFinite = true := by
  unfold ofScaled
  dsimp only
  by_cases hlt : significand < twoTo 53
  · rw [if_pos hlt, Magnitude.of?, dif_pos ⟨hlt, Nat.le_of_lt hscale, hnormal⟩]
    rfl
  · -- rounding carried into the next power of two
    have hhalf : significand / 2 = twoTo 52 := by
      rw [Nat.le_antisymm hle (Nat.le_of_not_lt hlt)]
      decide
    rw [if_neg hlt, hhalf, Magnitude.of?, dif_pos ⟨twoTo_lt (by decide), hscale, .inr (Nat.le_refl _)⟩]
    rfl

theorem units_of_ofScaled {negative sign : Bool} {significand scale : Nat} {m : Magnitude}
    (hle : significand ≤ twoTo 53) (h : ofScaled negative significand scale = .finite sign m) :
    m.units = significand * twoTo scale := by
  unfold ofScaled at h
  dsimp only at h
  by_cases hlt : significand < twoTo 53
  · rw [if_pos hlt, Magnitude.of?] at h
    split at h
    · next hm =>
        split at hm
        · obtain ⟨rfl, rfl⟩ := h
          rw [← Option.some.inj hm]
          rfl
        · exact absurd hm (by simp)
    · simp at h
  · have heq : significand = twoTo 53 := Nat.le_antisymm hle (Nat.le_of_not_lt hlt)
    rw [if_neg hlt, Magnitude.of?] at h
    split at h
    · next hm =>
        split at hm
        · obtain ⟨rfl, rfl⟩ := h
          rw [← Option.some.inj hm]
          show significand / 2 * twoTo (scale + 1) = significand * twoTo scale
          have hhalf : twoTo 53 / 2 = twoTo 52 := by decide
          rw [heq, hhalf, Nat.add_comm scale 1, twoTo_add, ← Nat.mul_assoc, ← twoTo_add]
        · exact absurd hm (by simp)
    · simp at h

theorem ofRatio_eq (negative : Bool) (num den : Nat) :
    ofRatio negative num den = ofScaled negative (significandOf (num * twoTo 1074) den)
      (scaleOf (num * twoTo 1074 / den)) :=
  rfl

/-- **A quotient below `2 ^ 1023` has a finite double.** -/
theorem isFinite_ofRatio {negative : Bool} {num den : Nat} (h : num * twoTo 1074 / den < twoTo 2097) :
    (ofRatio negative num den).isFinite = true := by
  rw [ofRatio_eq]
  refine isFinite_ofScaled (significandOf_le _ _) ?_ ?_
  · exact (Nat.eq_zero_or_pos _).imp id le_significandOf
  · have hlog := log2_lt_of_lt_twoTo (by decide) h
    unfold scaleOf
    omega

/-- Rounding does not go below a power of two. -/
theorem twoTo_le_units_of_ofRatio {negative sign : Bool} {num den e : Nat} {m : Magnitude} (he : 53 ≤ e)
    (hle : twoTo e ≤ num * twoTo 1074 / den) (h : ofRatio negative num den = .finite sign m) :
    twoTo e ≤ m.units := by
  rw [ofRatio_eq] at h
  rw [units_of_ofScaled (significandOf_le _ _) h]
  have hlog := le_log2_of_twoTo_le hle
  have hscale : 0 < scaleOf (num * twoTo 1074 / den) := by
    unfold scaleOf
    omega
  calc twoTo e ≤ twoTo (52 + scaleOf (num * twoTo 1074 / den)) := twoTo_le (by unfold scaleOf; omega)
    _ = twoTo 52 * twoTo (scaleOf (num * twoTo 1074 / den)) := twoTo_add _ _
    _ ≤ _ := Nat.mul_le_mul_right _ (le_significandOf hscale)

/-! ## Whole numbers -/

/-- **A whole number of 64 bits has a finite double.** -/
theorem isFinite_ofRatio_one {negative : Bool} {n : Nat} (h : n < UInt64.size) :
    (ofRatio negative n 1).isFinite = true := by
  refine isFinite_ofRatio ?_
  rw [Nat.div_one]
  have hn : n < twoTo 64 := h
  calc n * twoTo 1074 < twoTo 64 * twoTo 1074 := Nat.mul_lt_mul_of_pos_right hn (twoTo_pos _)
    _ = twoTo (64 + 1074) := (twoTo_add _ _).symm
    _ ≤ twoTo 2097 := twoTo_le (by decide)

/-! ## Powers of ten -/

theorem two_le_tenTo {power : Nat} (h : 0 < power) : twoTo 1 ≤ tenTo power :=
  Nat.le_trans (by decide : twoTo 1 ≤ tenTo 1) (Nat.pow_le_pow_right (by decide) h)

theorem units_lt (m : Magnitude) : m.units < twoTo 2098 := by
  calc m.units < twoTo 53 * twoTo m.scale := Nat.mul_lt_mul_of_pos_right m.significand_lt (twoTo_pos _)
    _ = twoTo (53 + m.scale) := (twoTo_add _ _).symm
    _ ≤ twoTo 2098 := twoTo_le (by have := m.scale_le; omega)

/-- The double of a number other than zero and one is at least two. -/
theorem units_of_ofNat {sign : Bool} {n : Nat} {m : Magnitude} (hn : twoTo 1 ≤ n)
    (h : ofNat n = .finite sign m) : twoTo 1075 ≤ m.units := by
  have hratio : ofRatio false n 1 = .finite sign m := h
  refine twoTo_le_units_of_ofRatio (by decide) ?_ hratio
  rw [Nat.div_one]
  calc twoTo 1075 = twoTo 1 * twoTo 1074 := twoTo_add 1 1074
    _ ≤ n * twoTo 1074 := Nat.mul_le_mul_right _ hn

theorem units_div_lt (m : Magnitude) {den : Nat} (hden : twoTo 1075 ≤ den) :
    m.units * twoTo 1074 / den < twoTo 2097 := by
  rw [Nat.div_lt_iff_lt_mul (Nat.lt_of_lt_of_le (twoTo_pos _) hden)]
  calc m.units * twoTo 1074 < twoTo 2098 * twoTo 1074 :=
        Nat.mul_lt_mul_of_pos_right (units_lt m) (twoTo_pos _)
    _ = twoTo (2098 + 1074) := (twoTo_add 2098 1074).symm
    _ = twoTo 2097 * twoTo 1075 := twoTo_add 2097 1075
    _ ≤ twoTo 2097 * den := Nat.mul_le_mul_left _ hden

/-- **What is divided by a positive power of ten stays finite.** -/
theorem isFinite_overPowerOfTen (negative : Bool) (m : Magnitude) {power : Nat} (h : 0 < power) :
    (overPowerOfTen negative m power).isFinite = true := by
  cases hp : ofNat (tenTo power) with
  -- over a power of ten that is no finite double the result is zero
  | nan =>
      rw [overPowerOfTen, hp]
      rfl
  | infinite sign =>
      rw [overPowerOfTen, hp]
      rfl
  | finite sign p =>
      rw [overPowerOfTen, hp]
      exact isFinite_ofRatio (units_div_lt m (units_of_ofNat (two_le_tenTo h) hp))

end Double

end QueryDesk
