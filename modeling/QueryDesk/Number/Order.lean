import QueryDesk.Number.Double

/-! # The order of doubles

Doubles compare as the numbers they are: both zeros are equal, the infinities lie beyond all finite
doubles, and NaN compares with nothing.
-/

set_option autoImplicit false

namespace QueryDesk.Double

/-- **How two doubles compare**, if neither is NaN. -/
def compare? : Double → Double → Option Ordering
  | .nan, _ => none
  | _, .nan => none
  | .infinite s, .infinite t => some (compare t s)
  | .infinite s, .finite _ _ => some (if s then .lt else .gt)
  | .finite _ _, .infinite t => some (if t then .gt else .lt)
  | .finite s m, .finite t n =>
    some (compare (if s then -(m.units : Int) else m.units) (if t then -(n.units : Int) else n.units))

instance : LT Double := ⟨fun x y => compare? x y = some .lt⟩

instance : LE Double := ⟨fun x y => compare? x y = some .lt ∨ compare? x y = some .eq⟩

instance (x y : Double) : Decidable (x < y) := inferInstanceAs (Decidable (compare? x y = some .lt))

instance (x y : Double) : Decidable (x ≤ y) :=
  inferInstanceAs (Decidable (compare? x y = some .lt ∨ compare? x y = some .eq))

/-! ## Finite doubles -/

/-- Finite doubles compare as their values do. -/
theorem compare?_of_units? {x y : Double} {a b : Int} (hx : x.units? = some a)
    (hy : y.units? = some b) : compare? x y = some (compare a b) := by
  cases x <;> cases y <;> simp_all [units?, compare?]

theorem lt_iff_of_units? {x y : Double} {a b : Int} (hx : x.units? = some a)
    (hy : y.units? = some b) : x < y ↔ a < b := by
  show compare? x y = some .lt ↔ a < b
  rw [compare?_of_units? hx hy, Option.some.injEq]
  exact Int.compare_eq_lt

end QueryDesk.Double
