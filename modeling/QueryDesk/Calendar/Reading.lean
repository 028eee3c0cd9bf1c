import QueryDesk.Calendar.Rendering
import QueryDesk.Text.Blank
import QueryDesk.Text.Scan

/-! # Date-like text

Text that begins like a date `YYYY-MM-DD` may stand for a moment. The whole text is read as a date and a
time with an offset, or as a date and a time without one in a freer form; the offset is dropped and the
time kept as it is written. Where none of this reads to the end, the first ten bytes may be a date alone,
and the moment is midnight (`readings`).
-/

set_option autoImplicit false

namespace QueryDesk

open Text (Scan exactDigits? exactChar?)

/-! ## Parts of a text -/

/-- At least one digit and at most so many, after any blanks, and the rest. -/
def looseDigits? (most : Nat) (cs : List Char) : Option (Nat × List Char) :=
  let cs := Text.skipBlanks cs
  let digits := (cs.take most).takeWhile Char.isDigit
  if digits.isEmpty then none else some (Text.digitsValue digits, cs.drop digits.length)

/-- The nanosecond of a fraction: its first nine digits, with zeros in place of missing ones. -/
def nanosecond (digits : List Char) : Nat :=
  Text.digitsValue ((digits ++ List.replicate 9 '0').take 9)

/-- A fraction of a second, a point with at least one digit, or nothing; and the rest. -/
def fraction? : List Char → Option (Nat × List Char)
  | '.' :: rest =>
    if (Text.spanDigits rest).1.isEmpty then none
    else some (nanosecond (Text.spanDigits rest).1, (Text.spanDigits rest).2)
  | cs => some (0, cs)

/-- The first `count` bytes of a text in UTF-8, where it has as many and they end with a character. -/
def takeBytes? : List Char → Nat → Option (List Char)
  | _, 0 => some []
  | [], _ + 1 => none
  | c :: cs, count + 1 =>
    if c.utf8Size ≤ count + 1 then (takeBytes? cs (count + 1 - c.utf8Size)).map (c :: ·) else none

/-! ## Dates -/

/-- A date `YYYY-MM-DD` in ASCII digits, and the rest. -/
def datePrefix? : Scan Date := fun cs => do
  let (year, cs) ← exactDigits? 4 cs
  let cs ← exactChar? '-' cs
  let (month, cs) ← exactDigits? 2 cs
  let cs ← exactChar? '-' cs
  let (day, cs) ← exactDigits? 2 cs
  let date ← Date.of? year month day
  some (date, cs)

/-- A date with at most four digits of the year and at most two of the month and of the day, and the
rest. -/
def looseDate? : Scan Date := fun cs => do
  let (year, cs) ← looseDigits? 4 cs
  let cs ← exactChar? '-' cs
  let (month, cs) ← looseDigits? 2 cs
  let cs ← exactChar? '-' cs
  let (day, cs) ← looseDigits? 2 cs
  let date ← Date.of? year month day
  some (date, cs)

/-! ## Times -/

/-- Whether a text is an offset from universal time: `Z`, or a sign with hours and minutes. The sign
may be a hyphen or the minus sign U+2212. -/
def isOffset : List Char → Bool
  | ['Z'] | ['z'] => true
  | sign :: cs =>
    (sign == '+' || sign == '-' || sign.toNat == 0x2212) &&
    match (do
      let (hours, cs) ← exactDigits? 2 cs
      let cs ← exactChar? ':' cs
      let (minutes, cs) ← exactDigits? 2 cs
      some (hours, minutes, cs) : Option (Nat × Nat × List Char)) with
    | some (hours, minutes, rest) => hours < 24 && minutes < 60 && rest.isEmpty
    | none => false
  | [] => false

/-- A time with an offset: `T`, `t` or a space, the time in two digits each, an optional fraction,
the offset, and nothing after it. -/
def clockWithOffset? : List Char → Option Clock
  | [] => none
  | separator :: cs =>
    if separator == 'T' || separator == 't' || separator == ' ' then do
      let (hour, cs) ← exactDigits? 2 cs
      let cs ← exactChar? ':' cs
      let (minute, cs) ← exactDigits? 2 cs
      let cs ← exactChar? ':' cs
      let (second, cs) ← exactDigits? 2 cs
      let (nano, cs) ← fraction? cs
      if isOffset cs then Clock.of? hour minute second nano else none
    else none

/-- Hours, minutes and seconds of one or two digits each, with an optional fraction, and nothing
after them. -/
def looseClock? (cs : List Char) : Option Clock := do
  let (hour, cs) ← looseDigits? 2 cs
  let cs ← exactChar? ':' cs
  let (minute, cs) ← looseDigits? 2 cs
  let cs ← exactChar? ':' cs
  let (second, cs) ← looseDigits? 2 cs
  let (nano, cs) ← fraction? cs
  if cs.isEmpty then Clock.of? hour minute second nano else none

/-- Hours and minutes of one or two digits each, and nothing after them. -/
def looseMinutes? (cs : List Char) : Option Clock := do
  let (hour, cs) ← looseDigits? 2 cs
  let cs ← exactChar? ':' cs
  let (minute, cs) ← looseDigits? 2 cs
  if cs.isEmpty then Clock.of? hour minute 0 0 else none

/-! ## Whole texts -/

/-- A date and a time with an offset. -/
def momentWithOffset? (cs : List Char) : Option Moment := do
  let (date, rest) ← datePrefix? cs
  let clock ← clockWithOffset? rest
  some ⟨date, clock⟩

/-- A date and what `clock?` makes of the rest. -/
def looseMoment? (clock? : List Char → Option Clock) (cs : List Char) : Option Moment := do
  let (date, rest) ← looseDate? cs
  let clock ← clock? rest
  some ⟨date, clock⟩

/-- A date in the first ten bytes, whatever follows them. -/
def dayAlone? (cs : List Char) : Option Moment := do
  let ten ← takeBytes? cs 10
  let (date, rest) ← looseDate? ten
  if rest.isEmpty then some ⟨date, .midnight⟩ else none

/-- **The ways to read a date-like text**; the first of them that reads it counts. -/
def readings : List (List Char → Option Moment) :=
  [momentWithOffset?,
   looseMoment? fun cs => (exactChar? 'T' cs).bind looseClock?,
   looseMoment? fun cs => looseClock? (Text.skipBlanks cs),
   looseMoment? fun cs => (exactChar? 'T' cs).bind looseMinutes?,
   dayAlone?]

/-! ## Date-like text -/

/-- Whether a text begins like a date `YYYY-MM-DD`, in decimal digits of any script. -/
def looksLikeDate (cs : List Char) : Bool :=
  match cs with
  | y1 :: y2 :: y3 :: y4 :: '-' :: m1 :: m2 :: '-' :: d1 :: d2 :: _ =>
    [y1, y2, y3, y4, m1, m2, d1, d2].all Text.isAnyDigit
  | _ => false

/-- **The moment that a date-like text stands for**, blanks at its ends aside. -/
def parseDateLike? (cs : List Char) : Option Moment :=
  if looksLikeDate (Text.trim cs) then readings.findSome? fun read => read (Text.trim cs) else none

/-- A date-like text as a pattern asks for it. -/
def reformatDate? (s pattern : String) : Option String :=
  (parseDateLike? s.toList).map fun m => m.format pattern

end QueryDesk
