import QueryDesk.Text.Scan

/-! # Date patterns

A pattern is read from left to right into segments: quoted text, a token, a run of characters that
start neither, or else one single character, tried in this order. Of the tokens on one letter the
longer ones are tried first.
-/

set_option autoImplicit false

namespace QueryDesk

open Text (Scan exactChar? anyChar? run? repeated?)

/-- **A field of a date** that a pattern asks for. -/
inductive Token where
  | year4
  | year2
  | monthName
  | monthAbbrev
  | month2
  | month
  | weekdayName
  | weekdayAbbrev
  | day2
  | day
  | hour24Padded
  | hour24
  | hour12Padded
  | hour12
  | amPm
  | amPmShort
  | minute2
  | minute
  | second2
  | second
  | quarter2
  | quarter
deriving DecidableEq

namespace Token

/-- Every token; of the tokens on one letter the longer ones come first. -/
def all : List Token :=
  [.year4, .year2, .monthName, .monthAbbrev, .month2, .month, .weekdayName, .weekdayAbbrev, .day2,
   .day, .hour24Padded, .hour24, .hour12Padded, .hour12, .amPm, .amPmShort, .minute2, .minute,
   .second2, .second, .quarter2, .quarter]

/-- How a token is spelled: a letter, so many times. -/
def spelling : Token → List Char
  | .year4 => ['y', 'y', 'y', 'y']
  | .year2 => ['y', 'y']
  | .monthName => ['M', 'M', 'M', 'M']
  | .monthAbbrev => ['M', 'M', 'M']
  | .month2 => ['M', 'M']
  | .month => ['M']
  | .weekdayName => ['d', 'd', 'd', 'd']
  | .weekdayAbbrev => ['d', 'd', 'd']
  | .day2 => ['d', 'd']
  | .day => ['d']
  | .hour24Padded => ['H', 'H']
  | .hour24 => ['H']
  | .hour12Padded => ['h', 'h']
  | .hour12 => ['h']
  | .amPm => ['t', 't']
  | .amPmShort => ['t']
  | .minute2 => ['m', 'm']
  | .minute => ['m']
  | .second2 => ['s', 's']
  | .second => ['s']
  | .quarter2 => ['Q', 'Q']
  | .quarter => ['Q']

/-- **The token that a text begins with**, the first of all tokens whose spelling does. -/
def start? (cs : List Char) : Option Token := all.find? fun t => t.spelling.isPrefixOf cs

end Token

/-- **A segment of a pattern**: text to be copied, a single character to be copied, or a field. -/
inductive Segment where
  | literal (text : List Char)
  | char (c : Char)
  | token (t : Token)
deriving DecidableEq

namespace Pattern

/-- The apostrophe, between two of which text is quoted. -/
def quote : Char := '\x27'

/-- Whether a token or a quoted text can start with the character. -/
def isStart (c : Char) : Bool := ['y', 'M', 'd', 'H', 'h', 't', 'm', 's', 'Q', quote].contains c

/-- Quoted text: an apostrophe, characters that are none, and another apostrophe. -/
def quoted? : Scan (List Char) := fun cs => do
  let cs ← exactChar? quote cs
  let rest ← exactChar? quote (cs.dropWhile (· != quote))
  some (cs.takeWhile (· != quote), rest)

/-- What quoted text stands for; two apostrophes with nothing between them are an apostrophe. -/
def ofQuoted (inside : List Char) : Segment :=
  if inside.isEmpty then .char quote else .literal inside

/-- A token. -/
def token? : Scan Token := fun cs => (Token.start? cs).map fun t => (t, cs.drop t.spelling.length)

/-- **A segment**: quoted text, or a token, or characters that start neither, or any character. -/
def segment? : Scan Segment := fun cs =>
  ((quoted? cs).map (Prod.map ofQuoted id)).or
    (((token? cs).map (Prod.map .token id)).or
      (((run? (!isStart ·) cs).map (Prod.map .literal id)).or
        ((anyChar? cs).map (Prod.map .char id))))

/-- **The segments of a pattern.** The whole pattern would be literal text if a segment took nothing. -/
def segments (pattern : List Char) : List Segment :=
  match repeated? segment? pattern with
  | some (segments, _) => segments
  | none => [.literal pattern]

end Pattern

end QueryDesk
