import QueryDesk.Number.Rounding

/-! # Shortest decimal digits

The decimal number with the fewest digits that reads back as a given double, and of those the one
nearest to it. A decimal reads back when it lies in the interval of numbers that round to the
double; the ends belong to it when the significand is even. For one, two, … seventeen digits the two
neighbours of the value on that decimal grid are tested in exact arithmetic: if any point of a grid
lies in the interval, so does one of the neighbours.
-/

set_option autoImplicit false

namespace QueryDesk

/-- The number `digits · 10 ^ exponent`. -/
structure Decimal where
  digits : Nat
  exponent : Int
deriving DecidableEq

/-- Which of two decimals equally near to a value is taken. -/
inductive Tie where
  | toEven
  | up
deriving DecidableEq

namespace Decimal

/-- The number without zeros at the end of its digits. -/
def trimmed (digits : Nat) (exponent : Int) : Decimal :=
  if h : digits ≠ 0 ∧ digits % 10 = 0 then trimmed (digits / 10) (exponent + 1)
  else ⟨digits, exponent⟩
termination_by digits
decreasing_by omega

end Decimal

namespace Magnitude

/-- The exponent of the leading decimal digit: `10 ^ e ≤ m < 10 ^ (e + 1)`. Scaled up by `10 ^ 350`
even the least positive magnitude has a whole part, whose digits are counted. -/
def leadingExponent (m : Magnitude) : Int :=
  (Text.digitCount (m.units * tenTo 350 / twoTo 1074) : Int) - 351

/-- How far the interval of numbers that round to the magnitude reaches up, in quarter units. -/
def reachUp (m : Magnitude) : Nat := 2 * twoTo m.scale

/-- How far the interval reaches down, in quarter units: half as far at the least significand of a
scale, where the next lower magnitude is nearer. -/
def reachDown (m : Magnitude) : Nat :=
  if m.significand = twoTo 52 ∧ m.scale ≠ 0 then twoTo m.scale else 2 * twoTo m.scale

/-- A distance that is still inside the interval. -/
def reaches (m : Magnitude) (distance reach : Nat) : Bool :=
  if m.significand % 2 = 0 then distance ≤ reach else distance < reach

/-- **The neighbour on one decimal grid**: the multiple of `10 ^ power` that reads back as the
magnitude and is nearest to it, if either neighbour of it on the grid reads back. -/
def onGrid? (tie : Tie) (m : Magnitude) (power : Int) : Option Nat :=
  let grow := tenTo (-power).toNat
  let step := tenTo power.toNat * twoTo 1076
  let value := 4 * m.units * grow
  let lower := value / step
  let below := value % step
  let above := step - below
  let lowerFits := m.reaches below (m.reachDown * grow)
  let upperFits := m.reaches above (m.reachUp * grow)
  if lowerFits && upperFits then
    if below < above then some lower
    else if above < below then some (lower + 1)
    else match tie with
      | .toEven => some (lower + lower % 2)
      | .up => some (lower + 1)
  else if lowerFits then some lower
  else if upperFits then some (lower + 1)
  else none

/-- **The shortest decimal that reads back as the magnitude**, and of those the nearest. -/
def shortest (tie : Tie) (m : Magnitude) : Decimal :=
  let e := m.leadingExponent
  let found := (List.range 17).findSome? fun (i : Nat) =>
    (m.onGrid? tie (e - i)).map fun digits => Decimal.trimmed digits (e - i)
  found.getD ⟨0, 0⟩

end Magnitude

end QueryDesk
