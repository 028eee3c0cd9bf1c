import QueryDesk.Number.Double
import QueryDesk.Text.DecimalDigit

/-! # Rounding to doubles

The double nearest to an exact quotient, a half going to the even neighbour, and the arithmetic that
comes with it: products and quotients of doubles, and doubles from decimal digits with a power of
ten. Everything is exact natural-number arithmetic until the one rounding.
-/

set_option autoImplicit false

namespace QueryDesk

/-- The natural number nearest to `num / den`, a half going to the even one. -/
def roundEven (num den : Nat) : Nat :=
  let quotient := num / den
  let rest := num % den
  if 2 * rest < den then quotient
  else if den < 2 * rest then quotient + 1
  else quotient + quotient % 2

namespace Double

/-- The double `± significand · 2 ^ scale` (in units of `2 ^ -1074`), where a significand that
rounding carried to `2 ^ 53` moves up one scale, and what is too large is infinite. -/
def ofScaled (negative : Bool) (significand scale : Nat) : Double :=
  let m? := if significand < twoTo 53 then Magnitude.of? significand scale
    else Magnitude.of? (significand / 2) (scale + 1)
  match m? with
  | some m => .finite negative m
  | none => .infinite negative

/-- **The double nearest to `± num / den`**, a half going to the even significand. The scale leaves
53 bits of the quotient, or all of it where there are fewer. -/
def ofRatio (negative : Bool) (num den : Nat) : Double :=
  let units := num * twoTo 1074
  let scale := (units / den).log2 - 52
  ofScaled negative (roundEven units (den * twoTo scale)) scale

/-- The double nearest to a natural number. -/
def ofNat (n : Nat) : Double := ofRatio false n 1

/-- The double nearest to an integer. -/
def ofInt (n : Int) : Double := ofRatio (n < 0) n.natAbs 1

/-- A magnitude times a double; times what is not finite it is infinite. -/
def timesDouble (negative : Bool) (m : Magnitude) : Double → Double
  | .finite _ p => ofRatio negative (m.units * p.units) (twoTo 2148)
  | _ => .infinite negative

/-- A magnitude over a double; over what is not finite it is zero. -/
def overDouble (negative : Bool) (m : Magnitude) : Double → Double
  | .finite _ p => ofRatio negative m.units p.units
  | _ => zero negative

/-- A magnitude times `10 ^ power`, where the power of ten is itself taken as a double first. -/
def timesPowerOfTen (negative : Bool) (m : Magnitude) (power : Nat) : Double :=
  timesDouble negative m (ofNat (tenTo power))

/-- A magnitude over `10 ^ power`, where the power of ten is itself taken as a double first. -/
def overPowerOfTen (negative : Bool) (m : Magnitude) (power : Nat) : Double :=
  overDouble negative m (ofNat (tenTo power))

/-- **The double nearest to `± digits · 10 ^ exponent`.** Beyond the range of doubles the value is
infinite or zero, which is decided from the number of digits alone. -/
def ofDecimal (negative : Bool) (digits : Nat) (exponent : Int) : Double :=
  if digits == 0 then zero negative
  else
    let place := Text.digitCount digits + exponent
    if place > 310 then .infinite negative
    else if place < -330 then zero negative
    else if 0 ≤ exponent then ofRatio negative (digits * tenTo exponent.toNat) 1
    else ofRatio negative digits (tenTo (-exponent).toNat)

end Double

end QueryDesk
