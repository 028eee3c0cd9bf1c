/-! # Decimal digits

Two classes of digits: the ten ASCII digits that numbers are read from, and the decimal digits of
every script (Unicode general category `Nd`), which a date-like text may begin with.
-/

set_option autoImplicit false

namespace QueryDesk.Text

/-- The zeros of the scripts of Unicode 16; the digits one to nine follow each of them. -/
def scriptZeros : List Nat :=
  [0x30, 0x660, 0x6F0, 0x7C0, 0x966, 0x9E6, 0xA66, 0xAE6, 0xB66, 0xBE6, 0xC66, 0xCE6, 0xD66, 0xDE6,
   0xE50, 0xED0, 0xF20, 0x1040, 0x1090, 0x17E0, 0x1810, 0x1946, 0x19D0, 0x1A80, 0x1A90, 0x1B50,
   0x1BB0, 0x1C40, 0x1C50, 0xA620, 0xA8D0, 0xA900, 0xA9D0, 0xA9F0, 0xAA50, 0xABF0, 0xFF10, 0x104A0,
   0x10D30, 0x10D40, 0x11066, 0x110F0, 0x11136, 0x111D0, 0x112F0, 0x11450, 0x114D0, 0x11650,
   0x116C0, 0x116D0, 0x116DA, 0x11730, 0x118E0, 0x11950, 0x11BF0, 0x11C50, 0x11D50, 0x11DA0,
   0x11F50, 0x16130, 0x16A60, 0x16AC0, 0x16B50, 0x16D70, 0x1CCF0, 0x1D7CE, 0x1D7D8, 0x1D7E2,
   0x1D7EC, 0x1D7F6, 0x1E140, 0x1E2F0, 0x1E4F0, 0x1E5F1, 0x1E950, 0x1FBF0]

/-- **A decimal digit of any script.** -/
def isAnyDigit (c : Char) : Bool :=
  scriptZeros.any fun first => first ≤ c.toNat && c.toNat < first + 10

/-- The ASCII digits are decimal digits. -/
theorem isAnyDigit_of_isDigit {c : Char} (h : c.isDigit = true) : isAnyDigit c = true := by
  have hc : 48 ≤ c.toNat ∧ c.toNat ≤ 57 := by
    simp only [Char.isDigit, Bool.and_eq_true, decide_eq_true_eq, ge_iff_le, UInt32.le_iff_toNat_le] at h
    exact h
  have h48 : (48 ≤ c.toNat && c.toNat < 48 + 10) = true := by
    simp only [Bool.and_eq_true, decide_eq_true_eq]; omega
  exact List.any_eq_true.mpr ⟨48, List.mem_cons_self, h48⟩

/-- What an ASCII digit stands for. -/
def digitValue (c : Char) : Nat := c.toNat - 48

/-- The number that a row of ASCII digits stands for, begun with `n`. -/
def digitsValueFrom (n : Nat) (cs : List Char) : Nat := cs.foldl (fun n c => 10 * n + digitValue c) n

/-- The number that a row of ASCII digits stands for. -/
def digitsValue (cs : List Char) : Nat := digitsValueFrom 0 cs

/-- A natural number in decimal, without leading zeros. -/
def natText (n : Nat) : List Char := Nat.toDigits 10 n

/-- How many decimal digits a natural number is written with. -/
def digitCount (n : Nat) : Nat := (natText n).length

/-- A natural number with zeros in front, at least `width` characters long. -/
def natPadded (width n : Nat) : List Char := (natText n).leftpad width '0'

/-- The digits a text begins with, and what follows them. -/
def spanDigits (cs : List Char) : List Char × List Char :=
  (cs.takeWhile Char.isDigit, cs.dropWhile Char.isDigit)

/-- **An unsigned number below `bound`**: an optional plus sign and one or more digits; leading
zeros are fine. -/
def readUnsigned? (bound : Nat) (cs : List Char) : Option Nat :=
  let digits := match cs with
    | '+' :: rest => rest
    | _ => cs
  if digits.isEmpty || !digits.all Char.isDigit then none
  else if digitsValue digits < bound then some (digitsValue digits) else none

/-- The numbers of 64 bits with a sign begin at the negative of this and end before it. -/
def signedBound : Nat := 9223372036854775808

/-- **A signed number of 64 bits**: an optional sign and one or more digits. -/
def readSigned? (cs : List Char) : Option Int :=
  let (negative, digits) := match cs with
    | '+' :: rest => (false, rest)
    | '-' :: rest => (true, rest)
    | _ => (false, cs)
  if digits.isEmpty || !digits.all Char.isDigit then none
  else
    let n := digitsValue digits
    if negative then (if n ≤ signedBound then some (-(n : Int)) else none)
    else if n < signedBound then some (n : Int) else none

end QueryDesk.Text
