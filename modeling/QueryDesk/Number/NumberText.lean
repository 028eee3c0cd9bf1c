import QueryDesk.Number.Shortest

/-! # The text of a number

How a double is written: the shortest digits that read back, in plain notation where the exponent of
the leading digit lies in a range, otherwise with an exponent. A `NumberStyle` fixes the range and
the rest of a format; the formats themselves stand beside the data that is written in them.
-/

set_option autoImplicit false

namespace QueryDesk

/-- **A way to write doubles.** -/
structure NumberStyle where
  /-- The least exponent of the leading digit that is written plainly. -/
  plainFrom : Int
  /-- The exponent of the leading digit from which on an exponent is written. -/
  plainBelow : Int
  /-- Whether a whole number in plain notation ends in `.0`. -/
  wholePoint : Bool
  /-- Which of two shortest decimals is taken when both are equally near. -/
  tie : Tie

namespace Decimal

/-- The number in plain notation: digits, with zeros or a point where they belong. -/
def plain (d : Decimal) : List Char :=
  let digits := Text.natText d.digits
  if 0 ≤ d.exponent then digits ++ List.replicate d.exponent.toNat '0'
  else
    let places := (-d.exponent).toNat
    let padded := digits.leftpad (places + 1) '0'
    padded.take (padded.length - places) ++ '.' :: padded.drop (padded.length - places)

/-- The number with an exponent, which always has a sign: `1e+16`, `2.5e-7`. -/
def scientific (d : Decimal) : List Char :=
  let digits := Text.natText d.digits
  let exponent := (digits.length : Int) - 1 + d.exponent
  let sign := if exponent < 0 then '-' else '+'
  let fraction := if digits.length ≤ 1 then [] else '.' :: digits.drop 1
  digits.take 1 ++ fraction ++ 'e' :: sign :: Text.natText exponent.natAbs

/-- The number in a style. -/
def text (style : NumberStyle) (d : Decimal) : List Char :=
  let leading := (Text.digitCount d.digits : Int) - 1 + d.exponent
  if style.plainFrom ≤ leading && leading < style.plainBelow then
    if 0 ≤ d.exponent && style.wholePoint then d.plain ++ ['.', '0'] else d.plain
  else d.scientific

end Decimal

/-- The text of a magnitude in a style. -/
def Magnitude.text (style : NumberStyle) (m : Magnitude) : List Char :=
  if m.significand == 0 then Decimal.text style ⟨0, 0⟩ else (m.shortest style.tie).text style

/-- **The text of a double in a style**, with `NaN`, `inf` and `-inf` for what is no number. -/
def Double.text (style : NumberStyle) : Double → List Char
  | .nan => ['N', 'a', 'N']
  | .infinite negative => (if negative then ['-'] else []) ++ ['i', 'n', 'f']
  | .finite negative m => (if negative then ['-'] else []) ++ m.text style

/-! ## Fixed places -/

/-- A finite double rounded to a number of decimal places, a half going to the even neighbour. -/
def Double.fixedText (places : Nat) : Double → List Char
  | .finite negative m =>
    let scaled := roundEven (m.units * tenTo places) (twoTo 1074)
    (if negative then ['-'] else []) ++
      (if places == 0 then Text.natText scaled else Decimal.plain ⟨scaled, -(places : Int)⟩)
  | x => x.text ⟨0, 0, false, .toEven⟩

end QueryDesk
