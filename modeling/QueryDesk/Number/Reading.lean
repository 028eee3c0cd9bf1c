import QueryDesk.Number.Rounding

/-! # Reading a number from text

The grammar of a number in a text cell: an optional sign, digits with an optional point (at least one
digit in all), an optional exponent; or `inf`, `infinity`, `nan` in any letter case. The value is the
double nearest to what is written.
-/

set_option autoImplicit false

namespace QueryDesk

/-- An optional sign in front of a text: whether it is a minus, and the rest. -/
def takeSign : List Char → Bool × List Char
  | '-' :: rest => (true, rest)
  | '+' :: rest => (false, rest)
  | cs => (false, cs)

/-- The exponent at the end of a number; nothing at all stands for zero. -/
def readExponent? : List Char → Option Int
  | [] => some 0
  | c :: cs =>
    if c == 'e' || c == 'E' then
      let (negative, digits) := takeSign cs
      if digits.isEmpty || !digits.all Char.isDigit then none
      else
        let n := Text.digitsValue digits
        some (if negative then -(n : Int) else n)
    else none

/-- **A number in a text cell.** -/
def Double.read? (cs : List Char) : Option Double :=
  let (negative, body) := takeSign cs
  let word := body.map Char.toLower
  if word == ['i', 'n', 'f'] || word == ['i', 'n', 'f', 'i', 'n', 'i', 't', 'y'] then
    some (.infinite negative)
  else if word == ['n', 'a', 'n'] then some .nan
  else
    let (whole, rest) := Text.spanDigits body
    let (fraction, rest) := match rest with
      | '.' :: more => Text.spanDigits more
      | _ => ([], rest)
    if whole.isEmpty && fraction.isEmpty then none
    else (readExponent? rest).map fun exponent =>
      .ofDecimal negative (Text.digitsValue (whole ++ fraction)) (exponent - fraction.length)

end QueryDesk
