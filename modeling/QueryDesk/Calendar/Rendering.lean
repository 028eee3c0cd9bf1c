import QueryDesk.Calendar.Date
import QueryDesk.Calendar.Pattern
import QueryDesk.Text.DecimalDigit

/-! # Rendered moments

A moment as a pattern asks for it: literal text is copied, every token is replaced by its field.
-/

set_option autoImplicit false

namespace QueryDesk

/-- The names of the months. -/
def monthNames : List String :=
  ["January", "February", "March", "April", "May", "June", "July", "August", "September", "October",
   "November", "December"]

/-- The names of the days of the week, from Sunday. -/
def weekdayNames : List String :=
  ["Sunday", "Monday", "Tuesday", "Wednesday", "Thursday", "Friday", "Saturday"]

/-- A name of a list, by its place. -/
def nameAt (names : List String) (place : Nat) : List Char := (names[place]?.getD "").toList

/-- A year in at least four characters, a minus sign among them. -/
def yearText (year : Int) : List Char :=
  if year < 0 then '-' :: Text.natPadded 3 year.natAbs else Text.natPadded 4 year.natAbs

namespace Moment

/-- **The field that a token asks for.** -/
def field (m : Moment) : Token → List Char
  | .year4 => yearText m.date.year
  | .year2 => Text.natPadded 2 (m.date.year % 100).toNat
  | .monthName => nameAt monthNames (m.date.month - 1)
  | .monthAbbrev => (nameAt monthNames (m.date.month - 1)).take 3
  | .month2 => Text.natPadded 2 m.date.month
  | .month => Text.natText m.date.month
  | .weekdayName => nameAt weekdayNames m.date.weekday
  | .weekdayAbbrev => (nameAt weekdayNames m.date.weekday).take 3
  | .day2 => Text.natPadded 2 m.date.day
  | .day => Text.natText m.date.day
  | .hour24Padded => Text.natPadded 2 m.clock.hour
  | .hour24 => Text.natText m.clock.hour
  | .hour12Padded => Text.natPadded 2 m.clock.dialHour
  | .hour12 => Text.natText m.clock.dialHour
  | .amPm => if m.clock.isAfternoon then ['P', 'M'] else ['A', 'M']
  | .amPmShort => if m.clock.isAfternoon then ['P'] else ['A']
  | .minute2 => Text.natPadded 2 m.clock.minute
  | .minute => Text.natText m.clock.minute
  | .second2 => Text.natPadded 2 m.clock.second
  | .second => Text.natText m.clock.second
  | .quarter2 => Text.natPadded 2 m.date.quarter
  | .quarter => 'Q' :: Text.natText m.date.quarter

/-- A segment of a pattern, rendered. -/
def segment (m : Moment) : Segment → List Char
  | .literal text => text
  | .char c => [c]
  | .token t => m.field t

/-- **The moment as a pattern asks for it.** -/
def render (m : Moment) (pattern : List Char) : List Char :=
  (Pattern.segments pattern).flatMap m.segment

/-- The moment as a pattern asks for it, as a string. -/
def format (m : Moment) (pattern : String) : String := String.ofList (m.render pattern.toList)

end Moment

end QueryDesk
