import QueryDesk.Proofs.Number.Nearest
import Mathlib.Tactic.Ring

/-! # The shortest digits read back

The digits that a number is written with lie in the interval of the number (`Magnitude.nearest_shortest`), so they
are read as the number again. What is found on a decimal grid lies in the interval; seventeen digits always suffice,
because that grid is finer than the interval is long; and zeros at the end may be left off.
-/

set_option autoImplicit false

namespace QueryDesk.Magnitude

variable {m : Magnitude} {tie : Tie}

/-! ## One grid -/

/-- How far apart the numbers of a grid are and the value of the magnitude, where both are whole numbers. -/
def gridStep (power : Int) : Nat := tenTo power.toNat * twoTo 1076

def gridValue (m : Magnitude) (power : Int) : Nat := 4 * m.units * tenTo (-power).toNat

theorem gridStep_pos (power : Int) : 0 < gridStep power := Nat.mul_pos (tenTo_pos _) (twoTo_pos _)

/-- Of the two neighbours of the value on the grid one is taken that is near enough. -/
theorem of_onGrid? {power : Int} {digits : Nat} (h : m.onGrid? tie power = some digits) :
    (digits = m.gridValue power / gridStep power ∧
        m.reaches (m.gridValue power % gridStep power) (m.reachDown * tenTo (-power).toNat) = true) ∨
      (digits = m.gridValue power / gridStep power + 1 ∧
        m.reaches (gridStep power - m.gridValue power % gridStep power) (m.reachUp * tenTo (-power).toNat) = true) := by
  unfold onGrid? at h
  extract_lets grow step value lower below above lowerFits upperFits at h
  have hfound : (digits = lower ∧ lowerFits = true) ∨ (digits = lower + 1 ∧ upperFits = true) := by
    split at h
    · next hboth =>
        rw [Bool.and_eq_true] at hboth
        split at h
        · exact .inl ⟨(Option.some.inj h).symm, hboth.1⟩
        · split at h
          · exact .inr ⟨(Option.some.inj h).symm, hboth.2⟩
          · -- both neighbours are equally near
            cases tie with
            | up => exact .inr ⟨(Option.some.inj h).symm, hboth.2⟩
            | toEven =>
                have hdigits : lower + lower % 2 = digits := Option.some.inj h
                rcases Nat.mod_two_eq_zero_or_one lower with heven | hodd
                · exact .inl ⟨by omega, hboth.1⟩
                · exact .inr ⟨by omega, hboth.2⟩
    · split at h
      · next hlower => exact .inl ⟨(Option.some.inj h).symm, hlower⟩
      · split at h
        · next hupper => exact .inr ⟨(Option.some.inj h).symm, hupper⟩
        · exact absurd h (by simp)
  exact hfound

/-- The interval by the step of the grid. -/
theorem nearest_iff_grid {power : Int} {digits : Nat} :
    m.Nearest (digits * tenTo power.toNat) (tenTo (-power).toNat) ↔
      m.reaches (m.gridValue power - digits * gridStep power) (m.reachDown * tenTo (-power).toNat) = true ∧
        m.reaches (digits * gridStep power - m.gridValue power) (m.reachUp * tenTo (-power).toNat) = true := by
  rw [Nearest, Nat.mul_assoc digits]
  exact Iff.rfl

theorem reaches_zero {reach : Nat} (h : 0 < reach) : m.reaches 0 reach = true :=
  reaches_iff.mpr ⟨Nat.zero_le _, fun _ => h⟩

/-- **What is found on a grid lies in the interval.** -/
theorem nearest_of_onGrid? {power : Int} {digits : Nat} (h : m.onGrid? tie power = some digits) :
    m.Nearest (digits * tenTo power.toNat) (tenTo (-power).toNat) := by
  have hsplit := Nat.div_add_mod' (m.gridValue power) (gridStep power)
  have hmod := Nat.mod_lt (m.gridValue power) (gridStep_pos power)
  have hdown : 0 < m.reachDown * tenTo (-power).toNat := Nat.mul_pos m.reachDown_pos (tenTo_pos _)
  have hup : 0 < m.reachUp * tenTo (-power).toNat := Nat.mul_pos m.reachUp_pos (tenTo_pos _)
  rw [nearest_iff_grid]
  rcases of_onGrid? h with ⟨rfl, hlower⟩ | ⟨rfl, hupper⟩
  · have hbelow : m.gridValue power - m.gridValue power / gridStep power * gridStep power =
        m.gridValue power % gridStep power := by omega
    have hnone : m.gridValue power / gridStep power * gridStep power - m.gridValue power = 0 := by omega
    rw [hbelow, hnone]
    exact ⟨hlower, reaches_zero hup⟩
  · have hnone : m.gridValue power - (m.gridValue power / gridStep power + 1) * gridStep power = 0 := by
      rw [Nat.add_mul]
      omega
    have habove : (m.gridValue power / gridStep power + 1) * gridStep power - m.gridValue power =
        gridStep power - m.gridValue power % gridStep power := by
      rw [Nat.add_mul]
      omega
    rw [hnone, habove]
    exact ⟨reaches_zero hdown, hupper⟩

/-- A grid that is finer than the interval is long has a number in it. -/
theorem isSome_onGrid? {power : Int}
    (h : gridStep power < (m.reachDown + m.reachUp) * tenTo (-power).toNat) :
    (m.onGrid? tie power).isSome := by
  have hmod := Nat.mod_lt (m.gridValue power) (gridStep_pos power)
  rw [Nat.add_mul] at h
  -- the steps down and up from the value are one step of the grid together
  have hfits : m.reaches (m.gridValue power % gridStep power) (m.reachDown * tenTo (-power).toNat) = true ∨
      m.reaches (gridStep power - m.gridValue power % gridStep power)
        (m.reachUp * tenTo (-power).toNat) = true := by
    rw [reaches_iff, reaches_iff]
    omega
  unfold onGrid?
  extract_lets grow step value lower below above lowerFits upperFits
  have hsome : lowerFits = true ∨ upperFits = true := hfits
  split
  · split
    · rfl
    · split
      · rfl
      · cases tie <;> rfl
  · split
    · rfl
    · next hlower =>
        rw [if_pos (hsome.resolve_left hlower)]
        rfl

/-! ## Seventeen digits -/

/-- The magnitude is at least the power of ten of its leading digit. -/
theorem tenTo_leading_le (hm : m.significand ≠ 0) :
    ∃ k : Nat, m.leadingExponent = k - 350 ∧ tenTo k * twoTo 1074 ≤ m.units * tenTo 350 := by
  have hunits : 0 < m.units := Nat.mul_pos (Nat.pos_of_ne_zero hm) (twoTo_pos _)
  have hpowers : twoTo 1074 ≤ tenTo 350 := by decide +kernel
  have hwhole : 0 < m.units * tenTo 350 / twoTo 1074 :=
    Nat.div_pos (Nat.le_trans hpowers (Nat.le_mul_of_pos_left _ hunits)) (twoTo_pos _)
  have hcount : 0 < Text.digitCount (m.units * tenTo 350 / twoTo 1074) :=
    List.length_pos_iff.mpr (Text.natText_ne_nil _)
  refine ⟨Text.digitCount (m.units * tenTo 350 / twoTo 1074) - 1, ?_, ?_⟩
  · unfold leadingExponent
    omega
  · exact (Nat.le_div_iff_mul_le (twoTo_pos _)).mp
      (Text.tenTo_le_of_lt_digitCount hwhole (Nat.sub_one_lt_of_lt hcount))

/-- The interval is longer than a part in `10 ^ 16` of the value. -/
theorem units_lt_reach (m : Magnitude) : 4 * m.units < (m.reachDown + m.reachUp) * tenTo 16 := by
  have hpos := twoTo_pos m.scale
  unfold reachDown reachUp units
  split
  · next hleast =>
      rw [hleast.1]
      calc 4 * (twoTo 52 * twoTo m.scale) = 4 * twoTo 52 * twoTo m.scale := (Nat.mul_assoc _ _ _).symm
        _ < 3 * tenTo 16 * twoTo m.scale := Nat.mul_lt_mul_of_pos_right (by decide) hpos
        _ = (twoTo m.scale + 2 * twoTo m.scale) * tenTo 16 := by ring
  · calc 4 * (m.significand * twoTo m.scale) = 4 * m.significand * twoTo m.scale := (Nat.mul_assoc _ _ _).symm
      _ < 4 * tenTo 16 * twoTo m.scale := by
          refine Nat.mul_lt_mul_of_pos_right ?_ hpos
          have := m.significand_lt
          have hpowers : twoTo 53 < tenTo 16 := by decide
          omega
      _ = (2 * twoTo m.scale + 2 * twoTo m.scale) * tenTo 16 := by ring

/-- **Seventeen digits suffice.** -/
theorem isSome_onGrid?_seventeen (hm : m.significand ≠ 0) :
    (m.onGrid? tie (m.leadingExponent - 16)).isSome := by
  obtain ⟨k, hk, hle⟩ := tenTo_leading_le hm
  refine isSome_onGrid? ?_
  obtain ⟨power, hpower⟩ : ∃ power, m.leadingExponent - 16 = power := ⟨_, rfl⟩
  have hshift : power.toNat + (16 + 350) = k + (-power).toNat := by omega
  rw [hpower]
  -- seventeen digits go down to a part in `10 ^ 16` of the leading one
  have hpart : gridStep power * tenTo 16 ≤ 4 * m.units * tenTo (-power).toNat := by
    refine Nat.le_of_mul_le_mul_right ?_ (tenTo_pos 350)
    calc gridStep power * tenTo 16 * tenTo 350
        = tenTo (power.toNat + (16 + 350)) * twoTo 1076 := by
          rw [gridStep, tenTo_add, tenTo_add]
          ring
      _ = 4 * (tenTo k * twoTo 1074) * tenTo (-power).toNat := by
          rw [hshift, tenTo_add, quarter_units]
          ring
      _ ≤ 4 * (m.units * tenTo 350) * tenTo (-power).toNat :=
          Nat.mul_le_mul_right _ (Nat.mul_le_mul_left _ hle)
      _ = 4 * m.units * tenTo (-power).toNat * tenTo 350 := by ring
  refine Nat.lt_of_mul_lt_mul_right (a := tenTo 16) ?_
  calc gridStep power * tenTo 16 ≤ 4 * m.units * tenTo (-power).toNat := hpart
    _ < (m.reachDown + m.reachUp) * tenTo 16 * tenTo (-power).toNat :=
        Nat.mul_lt_mul_of_pos_right m.units_lt_reach (tenTo_pos _)
    _ = (m.reachDown + m.reachUp) * tenTo (-power).toNat * tenTo 16 := Nat.mul_right_comm _ _ _

/-! ## The shortest digits -/

/-- A zero at the end of the digits can be left off. -/
theorem Nearest.dropZero {digits : Nat} {exponent : Int} (hzero : digits % 10 = 0)
    (h : m.Nearest (Decimal.mk digits exponent).num (Decimal.mk digits exponent).den) :
    m.Nearest (Decimal.mk (digits / 10) (exponent + 1)).num (Decimal.mk (digits / 10) (exponent + 1)).den := by
  have hdigits : digits = 10 * (digits / 10) := by omega
  simp only [Decimal.num, Decimal.den] at h ⊢
  by_cases hneg : exponent < 0
  · have hnum : exponent.toNat = 0 := by omega
    have hnum' : (exponent + 1).toNat = 0 := by omega
    have hden : (-exponent).toNat = 1 + (-(exponent + 1)).toNat := by omega
    rw [hdigits, hnum, hden, tenTo_add, Nat.mul_assoc] at h
    rw [hnum']
    exact (nearest_mul_iff (by decide)).mp h
  · have hnum : (exponent + 1).toNat = 1 + exponent.toNat := by omega
    have hden : (-exponent).toNat = 0 := by omega
    have hden' : (-(exponent + 1)).toNat = 0 := by omega
    rw [hdigits, Nat.mul_comm 10, Nat.mul_assoc, hden] at h
    rw [hnum, tenTo_add, hden']
    exact h

theorem Nearest.trimmed {digits : Nat} {exponent : Int}
    (h : m.Nearest (Decimal.mk digits exponent).num (Decimal.mk digits exponent).den) :
    m.Nearest (Decimal.trimmed digits exponent).num (Decimal.trimmed digits exponent).den := by
  induction digits, exponent using Decimal.trimmed.induct with
  | case1 digits exponent hzero ih =>
      rw [Decimal.trimmed, dif_pos hzero]
      exact ih (h.dropZero hzero.2)
  | case2 digits exponent hlast =>
      rw [Decimal.trimmed, dif_neg hlast]
      exact h

/-- **The shortest digits lie in the interval of the magnitude.** -/
theorem nearest_shortest (tie : Tie) (hm : m.significand ≠ 0) :
    m.Nearest (m.shortest tie).num (m.shortest tie).den := by
  unfold shortest
  dsimp only
  cases hfound : (List.range 17).findSome? fun (i : Nat) =>
      (m.onGrid? tie (m.leadingExponent - i)).map fun digits =>
        Decimal.trimmed digits (m.leadingExponent - i) with
  | none =>
      -- not on the grid of seventeen digits
      have hnone := List.findSome?_eq_none_iff.mp hfound 16 (by decide)
      rw [Option.map_eq_none_iff] at hnone
      have hsome := @isSome_onGrid?_seventeen m tie hm
      rw [show ((16 : Nat) : Int) = 16 from rfl] at hnone
      rw [hnone] at hsome
      exact absurd hsome Bool.false_ne_true
  | some d =>
      obtain ⟨i, -, hi⟩ := List.exists_of_findSome?_eq_some hfound
      obtain ⟨digits, hdigits, rfl⟩ := Option.map_eq_some_iff.mp hi
      exact (nearest_of_onGrid? hdigits).trimmed

end QueryDesk.Magnitude
