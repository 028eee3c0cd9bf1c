import QueryDesk.Number.Power

/-! # Doubles

Binary floating-point numbers of 64 bits as values: a sign and an exact magnitude, infinities, and
one not-a-number. A magnitude is kept in its one normal form, so equality of doubles is equality of
data, the two zeros apart. `Double.ofBits` and `Double.toBits` pass between values and bit patterns.
-/

set_option autoImplicit false

namespace QueryDesk

/-- **A finite magnitude** `significand · 2 ^ scale` in units of the least positive double,
`2 ^ -1074`. The significand has 53 bits, fewer only at scale zero. -/
structure Magnitude where
  significand : Nat
  scale : Nat
  significand_lt : significand < twoTo 53
  scale_le : scale ≤ 2045
  normal : scale = 0 ∨ twoTo 52 ≤ significand
deriving DecidableEq

namespace Magnitude

/-- How many units of `2 ^ -1074` the magnitude is. -/
def units (m : Magnitude) : Nat := m.significand * twoTo m.scale

/-- The magnitude zero. -/
def zero : Magnitude := ⟨0, 0, by decide, by decide, .inl rfl⟩

/-- The magnitude with this significand and scale, if it is a normal form. -/
def of? (significand scale : Nat) : Option Magnitude :=
  if h : significand < twoTo 53 ∧ scale ≤ 2045 ∧ (scale = 0 ∨ twoTo 52 ≤ significand) then
    some ⟨significand, scale, h.1, h.2.1, h.2.2⟩
  else none

/-- Whether the magnitude is a whole number. -/
def isWhole (m : Magnitude) : Bool := m.units % twoTo 1074 == 0

/-- The whole part of the magnitude. -/
def floor (m : Magnitude) : Nat := m.units / twoTo 1074

end Magnitude

/-- **A double.** -/
inductive Double where
  | nan
  | infinite (negative : Bool)
  | finite (negative : Bool) (magnitude : Magnitude)
deriving DecidableEq

namespace Double

/-- Zero, of either sign. -/
def zero (negative : Bool) : Double := .finite negative .zero

instance : Inhabited Double := ⟨zero false⟩

/-- Whether the double is a number and not infinite. -/
def isFinite : Double → Bool
  | .finite _ _ => true
  | _ => false

/-- The double with the other sign. -/
def neg : Double → Double
  | .nan => .nan
  | .infinite negative => .infinite (!negative)
  | .finite negative m => .finite (!negative) m

/-- The double with the sign of zero forgotten: two doubles that are not NaN are numerically equal
when these are the same. -/
def plainZero : Double → Double
  | .finite negative m => .finite (negative && m.significand != 0) m
  | x => x

/-- The value in units of `2 ^ -1074`, for finite doubles. -/
def units? : Double → Option Int
  | .finite negative m => some (if negative then -(m.units : Int) else m.units)
  | _ => none

/-! ## Bit patterns -/

/-- The double that a pattern of 64 bits stands for; all patterns of NaN stand for the one. -/
def ofBits (bits : UInt64) : Double :=
  let negative := bits.toNat / twoTo 63 == 1
  let exponent := bits.toNat / twoTo 52 % twoTo 11
  let fraction := bits.toNat % twoTo 52
  if exponent == 2047 then (if fraction == 0 then .infinite negative else .nan)
  else
    let m? := if exponent == 0 then Magnitude.of? fraction 0
      else Magnitude.of? (twoTo 52 + fraction) (exponent - 1)
    match m? with
    | some m => .finite negative m
    | none => .nan

/-- The bit pattern of a double; NaN gets the positive quiet pattern without payload. -/
def toBits : Double → UInt64
  | .nan => 0x7FF8000000000000
  | .infinite negative => UInt64.ofNat ((if negative then twoTo 63 else 0) + 2047 * twoTo 52)
  | .finite negative m =>
    let sign := if negative then twoTo 63 else 0
    let exponent := if m.significand < twoTo 52 then 0 else m.scale + 1
    UInt64.ofNat (sign + exponent * twoTo 52 + m.significand % twoTo 52)

end Double

end QueryDesk
