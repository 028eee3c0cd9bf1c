import QueryDesk.Calendar.Reading
import QueryDesk.Number.Reading
import QueryDesk.Toml.Basic
import QueryDesk.Toml.Quoted

/-! # Scalars in TOML

Numbers, truth values, dates and times. Digits may be grouped by single underscores between two of
them. Whole numbers have 64 bits; a float beyond the positive doubles is refused.
-/

set_option autoImplicit false

namespace QueryDesk.Toml

open Text (Scan many exactChar? exactDigits? exactWord?)

/-! ## Digits -/

/-- A digit, perhaps behind an underscore. -/
def nextDigit? (isIn : Char → Bool) : Scan Char
  | '_' :: c :: rest => if isIn c then some (c, rest) else none
  | c :: rest => if isIn c then some (c, rest) else none
  | [] => none

/-- **A row of digits** of a class, single underscores between them left out. -/
def digits? (isIn : Char → Bool) : Scan (List Char)
  | [] => none
  | c :: rest =>
    if isIn c then
      let (more, rest) := many (nextDigit? isIn) rest
      some (c :: more, rest)
    else none

/-- Decimal digits without a zero in front, zero itself apart. -/
def wholeDigits? : Scan (List Char)
  | '0' :: rest => some (['0'], rest)
  | cs => digits? Char.isDigit cs

/-- An optional sign, as it is written. -/
def sign : List Char → List Char × List Char
  | '+' :: rest => (['+'], rest)
  | '-' :: rest => (['-'], rest)
  | cs => ([], cs)

/-! ## Whole numbers -/

/-- The letter of a base other than ten, and the digits of that base. -/
def bases : List (Char × Nat) := [('x', 16), ('o', 8), ('b', 2)]

/-- Whether a character is a digit of a base. -/
def isDigitOf (base : Nat) (c : Char) : Bool := (hexValue? c).any fun d => d < base

/-- The number that digits of a base stand for. -/
def baseNumber (base : Nat) (digits : List Char) : Nat :=
  digits.foldl (fun n c => base * n + (hexValue? c).getD 0) 0

/-- A whole number in a base given by a letter: digits behind a zero and the letter. -/
def baseInteger? : Scan Int
  | '0' :: letter :: rest => do
    let base ← bases.lookup letter
    let (digits, rest) ← digits? (isDigitOf base) rest
    let n := baseNumber base digits
    if n < Text.signedBound then some ((n : Int), rest) else none
  | _ => none

/-- A whole number in base ten, with an optional sign. -/
def decimalInteger? : Scan Int := fun cs => do
  let (written, cs) := sign cs
  let (digits, rest) ← wholeDigits? cs
  let n ← Text.readSigned? (written ++ digits)
  some (n, rest)

/-- A whole number. -/
def integer? : Scan Int := fun cs =>
  match cs with
  | '0' :: letter :: _ =>
    if (bases.lookup letter).isSome then baseInteger? cs else decimalInteger? cs
  | _ => decimalInteger? cs

/-! ## Floats -/

/-- A fraction as it is written: a point and digits. -/
def fractionPart? : Scan (List Char)
  | '.' :: cs => do
    let (digits, rest) ← digits? Char.isDigit cs
    some ('.' :: digits, rest)
  | _ => none

/-- An exponent as it is written: `e` or `E`, an optional sign, and digits. -/
def exponentPart? : Scan (List Char)
  | c :: cs =>
    if c == 'e' || c == 'E' then do
      let (written, cs) := sign cs
      let (digits, rest) ← digits? Char.isDigit cs
      some ('e' :: written ++ digits, rest)
    else none
  | [] => none

/-- What makes a number a float: a fraction, an exponent, or both. -/
def floatParts? : Scan (List Char) := fun cs =>
  match fractionPart? cs with
  | some (fraction, rest) =>
    match exponentPart? rest with
    | some (exponent, rest) => some (fraction ++ exponent, rest)
    | none => some (fraction, rest)
  | none => exponentPart? cs

/-- A float in digits. -/
def decimalFloat? : Scan Double := fun cs => do
  let (written, cs) := sign cs
  let (whole, cs) ← wholeDigits? cs
  let (parts, rest) ← floatParts? cs
  let x ← Double.read? (written ++ whole ++ parts)
  if x = .infinite false then none else some (x, rest)

/-- Infinity or not-a-number, with an optional sign. -/
def namedFloat? : Scan Double := fun cs =>
  let (written, cs) := sign cs
  ((exactWord? ['i', 'n', 'f'] cs).map fun rest => (.infinite (written == ['-']), rest)).or
    ((exactWord? ['n', 'a', 'n'] cs).map fun rest => (.nan, rest))

/-- A float. -/
def float? : Scan Double := fun cs => (decimalFloat? cs).or (namedFloat? cs)

/-! ## Dates and times -/

/-- A time of day down to the second or a fraction of it; the second 60 is a leap second. -/
def clock? : Scan Clock := fun cs => do
  let (hour, cs) ← exactDigits? 2 cs
  let cs ← exactChar? ':' cs
  let (minute, cs) ← exactDigits? 2 cs
  let cs ← exactChar? ':' cs
  let (second, cs) ← exactDigits? 2 cs
  let (nano, cs) ← (fraction? cs).or (some (0, cs))
  let clock ← Clock.of? hour minute second nano
  some (clock, cs)

/-- An offset from universal time in hours and minutes. -/
def numericOffset? (cs : List Char) : Option (List Char) := do
  let (hours, cs) ← exactDigits? 2 cs
  let cs ← exactChar? ':' cs
  let (minutes, rest) ← exactDigits? 2 cs
  if hours < 24 && minutes < 60 then some rest else none

/-- What follows an optional offset from universal time. -/
def skipOffset (cs : List Char) : List Char :=
  match cs with
  | 'Z' :: rest | 'z' :: rest => rest
  | '+' :: rest | '-' :: rest => (numericOffset? rest).getD cs
  | _ => cs

/-- What follows the time behind a date, if there is one. -/
def skipClock (cs : List Char) : List Char :=
  match cs with
  | 'T' :: rest | 't' :: rest | ' ' :: rest =>
    match clock? rest with
    | some (_, rest) => skipOffset rest
    | none => cs
  | _ => cs

/-- What follows a date, a date with a time, or a time. -/
def dateTime? (cs : List Char) : Option (List Char) :=
  ((datePrefix? cs).map fun found => skipClock found.2).or ((clock? cs).map fun found => found.2)

/-! ## All kinds -/

/-- A number, a date or a time. -/
def numeral? : Scan Toml := fun cs =>
  (((dateTime? cs).map fun rest => (Toml.time, rest)).or
    ((float? cs).map fun (x, rest) => (.float x, rest))).or
    ((integer? cs).map fun (n, rest) => (.integer n, rest))

/-- A truth value. -/
def truth? : Scan Toml := fun cs =>
  ((exactWord? ['t', 'r', 'u', 'e'] cs).map fun rest => (.bool true, rest)).or
    ((exactWord? ['f', 'a', 'l', 's', 'e'] cs).map fun rest => (.bool false, rest))

/-- **A value that is no container.** -/
def scalar? : Scan Toml := fun cs =>
  ((quoted? cs).map fun (s, rest) => (Toml.text s, rest)).or ((truth? cs).or (numeral? cs))

end QueryDesk.Toml
