import QueryDesk.Number.Order
import QueryDesk.Proofs.Number.Rounding

/-! # Equal numbers

A magnitude has one normal form, so finite doubles are equal as numbers where they are the same but for the sign of a
zero (`Double.compare?_eq_iff`).
-/

set_option autoImplicit false

namespace QueryDesk

/-- A greater scale makes a greater number of a normal form. -/
theorem Magnitude.units_lt_of_scale_lt {m n : Magnitude} (h : m.scale < n.scale) : m.units < n.units := by
  have hnormal : twoTo 52 ≤ n.significand := n.normal.resolve_left (by omega)
  calc m.units < twoTo 53 * twoTo m.scale := Nat.mul_lt_mul_of_pos_right m.significand_lt (twoTo_pos _)
    _ = twoTo 52 * twoTo (m.scale + 1) := by
        rw [← twoTo_add, ← twoTo_add, Nat.add_left_comm, Nat.add_comm]
    _ ≤ n.units := Nat.mul_le_mul hnormal (twoTo_le h)

theorem Magnitude.units_eq_zero_iff {m : Magnitude} : m.units = 0 ↔ m.significand = 0 := by
  have hpos := twoTo_pos m.scale
  rw [units, Nat.mul_eq_zero]
  omega

/-- **A magnitude is told by its value.** -/
theorem Magnitude.units_injective {m n : Magnitude} (h : m.units = n.units) : m = n := by
  have hscale : m.scale = n.scale := by
    rcases Nat.lt_trichotomy m.scale n.scale with hlt | heq | hgt
    · exact absurd h (Nat.ne_of_lt (units_lt_of_scale_lt hlt))
    · exact heq
    · exact absurd h.symm (Nat.ne_of_lt (units_lt_of_scale_lt hgt))
  have hsignificand : m.significand = n.significand := by
    unfold units at h
    rw [hscale] at h
    exact Nat.eq_of_mul_eq_mul_right (twoTo_pos _) h
  cases m
  cases n
  simp_all

/-- Numbers with a sign are equal where both parts are, and where both are zero. -/
theorem signed_eq_iff {s t : Bool} {a b : Nat} :
    (if s then -(a : Int) else a) = (if t then -(b : Int) else b) ↔ a = b ∧ (s = t ∨ a = 0) := by
  cases s <;> cases t <;> simp <;> omega

namespace Double

/-- **Finite doubles are equal as numbers where they are the same but for the sign of a zero.** -/
theorem compare?_eq_iff {x y : Double} (hx : x.isFinite = true) (hy : y.isFinite = true) :
    x.compare? y = some .eq ↔ x.plainZero = y.plainZero := by
  cases x with
  | nan | infinite _ => exact absurd hx Bool.false_ne_true
  | finite s m =>
  cases y with
  | nan | infinite _ => exact absurd hy Bool.false_ne_true
  | finite t n =>
      rw [compare?_of_units? rfl rfl, Option.some.injEq, Int.compare_eq_eq, signed_eq_iff, plainZero, plainZero,
        finite.injEq]
      constructor
      · rintro ⟨hunits, hsign⟩
        obtain rfl := Magnitude.units_injective hunits
        refine ⟨?_, rfl⟩
        rcases hsign with rfl | hzero
        · rfl
        · simp [Magnitude.units_eq_zero_iff.mp hzero]
      · rintro ⟨hsign, rfl⟩
        refine ⟨rfl, ?_⟩
        by_cases hzero : m.significand = 0
        · exact .inr (Magnitude.units_eq_zero_iff.mpr hzero)
        · left
          rwa [bne_iff_ne.mpr hzero, Bool.and_true, Bool.and_true] at hsign

end Double

end QueryDesk
