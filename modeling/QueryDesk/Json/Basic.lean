import QueryDesk.Number.Rounding

/-! # JSON values

A JSON value as it was read: members keep their order and their repetitions. Numbers keep the class
they were written in, so whole numbers stay whole numbers. Two kinds of text are well-formed JSON
without a value that can be held: a number beyond the doubles, and a string (or a key) with half of
a surrogate pair. They are read as `unheld`, which may be skipped but is accepted nowhere.
-/

set_option autoImplicit false

namespace QueryDesk

/-- **A JSON number**: a natural number of 64 bits, a negative number of 64 bits (given by its
magnitude), or a double. -/
inductive Numeral where
  | natural (n : UInt64)
  | negative (magnitude : UInt64)
  | double (x : Double)
deriving DecidableEq

/-- **A JSON value.** -/
inductive Json where
  | null
  | bool (b : Bool)
  | number (n : Numeral)
  | text (s : String)
  | array (items : List Json)
  | object (members : List (String × Json))
  | unheld

namespace Numeral

/-- The double nearest to the number. -/
def toDouble : Numeral → Double
  | .natural n => .ofNat n.toNat
  | .negative n => .ofInt (-(n.toNat : Int))
  | .double x => x

/-! ## The value of a numeral

Digits are kept in 64 bits while they fit. A whole part whose next digit no longer fits counts its
further digits only; a fraction is cut at the first digit that does not fit. The digits kept are
then scaled, in doubles, by a power of ten. -/

/-- Whether 64 bits can hold a number. -/
def fits (n : Nat) : Bool := n < UInt64.size

/-- The digits kept behind `n`, and how many of them were kept. -/
def keepDigits (n : Nat) : List Char → Nat × Nat
  | [] => (n, 0)
  | c :: cs =>
    if fits (10 * n + Text.digitValue c) then
      let more := keepDigits (10 * n + Text.digitValue c) cs
      (more.1, more.2 + 1)
    else (n, 0)

/-- A magnitude over `10 ^ 308`. -/
def overGreatest (m : Magnitude) : Magnitude :=
  match Double.overPowerOfTen false m 308 with
  | .finite _ m => m
  | _ => m

/-- A magnitude over `10 ^ 308`, so many times; zero stays zero. -/
def shrinkSteps : Nat → Magnitude → Magnitude
  | 0, m => m
  | steps + 1, m => if m.significand == 0 then m else shrinkSteps steps (overGreatest m)

/-- A magnitude over `10 ^ power`, in steps of `10 ^ 308` while the power is beyond the doubles. -/
def shrink (negative : Bool) (m : Magnitude) (power : Nat) : Double :=
  let steps := (power - 1) / 308
  Double.overPowerOfTen negative (shrinkSteps steps m) (power - 308 * steps)

/-- `± x · 10 ^ exponent` in doubles; `none` beyond their range. -/
def scaleDouble? (negative : Bool) (exponent : Int) : Double → Option Double
  | .finite _ m =>
    if exponent < 0 then some (shrink negative m (-exponent).toNat)
    else if exponent ≤ 308 then
      let x := Double.timesPowerOfTen negative m exponent.toNat
      if x.isFinite then some x else none
    else if m.significand == 0 then some (.zero negative)
    else none
  | _ => none

/-- `± kept · 10 ^ exponent` in doubles; `none` beyond their range. -/
def scale? (negative : Bool) (kept : Nat) (exponent : Int) : Option Double :=
  scaleDouble? negative exponent (Double.ofNat kept)

/-- **The number that a numeral stands for**: a sign, the digits of the whole part, those of a
fraction, and an exponent; `none` beyond the doubles. Without fraction and exponent it stays a whole
number while 64 bits can hold it, minus zero apart. -/
def ofParts? (negative : Bool) (whole : List Char) (fraction : List Char) (exponent : Option Int) :
    Option Numeral :=
  let (kept, count) := keepDigits 0 whole
  let dropped := whole.length - count
  if fraction.isEmpty && exponent.isNone && dropped == 0 then
    if !negative then some (.natural (UInt64.ofNat kept))
    else if kept == 0 || twoTo 63 < kept then some (.double (.ofRatio true kept 1))
    else some (.negative (UInt64.ofNat kept))
  else
    let (kept, places) := keepDigits kept fraction
    (scale? negative kept (dropped - places + exponent.getD 0)).map .double

end Numeral

namespace Json

/-- A natural number of at most 64 bits. -/
def natural (n : UInt64) : Json := .number (.natural n)

/-- A double. -/
def double (x : Double) : Json := .number (.double x)

/-- A value, or null where there is none. -/
def ofOption {α : Type} (write : α → Json) : Option α → Json
  | none => .null
  | some a => write a

/-- An array of values of one kind. -/
def ofList {α : Type} (write : α → Json) (items : List α) : Json := .array (items.map write)

/-! ## Values that can be held -/

mutual

/-- Whether every part of the value can be held and containers nest at most `limit` deep. -/
def heldWithin : Nat → Json → Bool
  | _, .unheld => false
  | limit, .array items => match limit with
    | 0 => false
    | limit + 1 => itemsHeldWithin limit items
  | limit, .object members => match limit with
    | 0 => false
    | limit + 1 => membersHeldWithin limit members
  | _, _ => true

def itemsHeldWithin : Nat → List Json → Bool
  | _, [] => true
  | limit, v :: rest => heldWithin limit v && itemsHeldWithin limit rest

def membersHeldWithin : Nat → List (String × Json) → Bool
  | _, [] => true
  | limit, (_, v) :: rest => heldWithin limit v && membersHeldWithin limit rest

end

/-- How deep a document that is held as a whole may nest. -/
def nestingLimit : Nat := 127

end Json

end QueryDesk
