import QueryDesk.Proofs.Calendar.Reading

/-! # Timestamps

The date of a date-like text is read off its front, and the time of day depends on what follows the date alone
(`parseDateLike?_isoText_append`). `WrittenTime` is a time with all digits of every field, perhaps with a leap
second and a fraction; fixed fields read it if an offset follows, and free fields if nothing does
(`clockWithOffset?_text`, `looseClock?_text`). A timestamp is a date and such a time, and is read as what is
written (`Timestamp.parseDateLike?_text`).
-/

set_option autoImplicit false

namespace QueryDesk

open Text (isBlank skipBlanks digitsValue natPadded exactChar?)

/-! ## Ends of a text -/

theorem isBlank_of_isDigit {c : Char} (h : c.isDigit = true) : isBlank c = false :=
  isBlank_of_isAnyDigit (Text.isAnyDigit_of_isDigit h)

theorem not_isBlank_of_mem_natPadded {width n : Nat} : ∀ c ∈ natPadded width n, isBlank c = false :=
  fun c hc => isBlank_of_isDigit (Text.natPadded_isDigit c hc)

/-- A text whose last character, if there is one, is not a blank. -/
def EndsVisibly (cs : List Char) : Prop := ∀ c, cs.getLast? = some c → isBlank c = false

theorem endsVisibly_of_forall {cs : List Char} (h : ∀ c ∈ cs, isBlank c = false) : EndsVisibly cs :=
  fun c hc => h c (List.mem_of_getLast? hc)

theorem endsVisibly_append {front back : List Char} (hfront : EndsVisibly front)
    (hback : EndsVisibly back) : EndsVisibly (front ++ back) := by
  intro c hc
  rw [List.getLast?_append] at hc
  cases hlast : back.getLast? with
  | none =>
      rw [hlast, Option.none_or] at hc
      exact hfront c hc
  | some last =>
      rw [hlast, Option.some_or] at hc
      exact hback c (hlast.trans hc)

/-- Any character may stand before a text that is not empty. -/
theorem endsVisibly_cons {cs : List Char} (c : Char) (hne : cs ≠ []) (h : EndsVisibly cs) :
    EndsVisibly (c :: cs) := by
  intro last hlast
  rw [List.getLast?_cons_of_ne_nil hne] at hlast
  exact h last hlast

theorem skipBlanks_eq_self {cs : List Char} (h : ∀ c ∈ cs, isBlank c = false) : skipBlanks cs = cs := by
  cases cs with
  | nil => rfl
  | cons c cs => exact skipBlanks_cons (h c List.mem_cons_self)

/-- A text without blanks at its ends stays as it is. -/
theorem trim_eq_self {c : Char} {cs : List Char} (hfirst : isBlank c = false)
    (hlast : EndsVisibly (c :: cs)) : Text.trim (c :: cs) = c :: cs := by
  obtain ⟨last, front, hreverse⟩ :=
    List.exists_cons_of_ne_nil (List.reverse_ne_nil_iff.mpr (List.cons_ne_nil c cs))
  have hend : isBlank last = false := by
    refine hlast last ?_
    rw [← List.head?_reverse, hreverse, List.head?_cons]
  rw [Text.trim, skipBlanks_cons hfirst, hreverse, skipBlanks_cons hend, ← hreverse, List.reverse_reverse]

/-- No character of a written date is a blank. -/
theorem Date.not_isBlank_of_mem_isoText {d : Date} (h : 0 ≤ d.year) :
    ∀ c ∈ d.isoText, isBlank c = false := by
  have htext := Date.isoText_append h []
  rw [List.append_nil, List.append_nil] at htext
  rw [htext]
  refine not_isBlank_of_mem_rows fun c hc => Text.isAnyDigit_of_isDigit ?_
  simp only [List.mem_append] at hc
  rcases hc with (hc | hc) | hc
  all_goals exact Text.natPadded_isDigit c hc

/-! ## What follows a date -/

/-- The time of day that stands behind a date: what the first of the ways to read it makes of it, the time
with an offset before the free forms, and midnight if there is none. -/
def clockBehind (rest : List Char) : Clock :=
  ((clockWithOffset? rest).or (((exactChar? 'T' rest).bind looseClock?).or
    ((looseClock? (skipBlanks rest)).or ((exactChar? 'T' rest).bind looseMinutes?)))).getD .midnight

/-- **The time of day is told by what follows the date.** -/
theorem parseDateLike?_isoText_append {d : Date} (h : 0 ≤ d.year ∧ d.year ≤ 9999) {rest : List Char}
    (hlast : EndsVisibly rest) : parseDateLike? (d.isoText ++ rest) = some ⟨d, clockBehind rest⟩ := by
  have hahead : DateAhead (d.isoText ++ rest) d := ⟨h, rest, rfl⟩
  have hdate : datePrefix? (d.isoText ++ rest) = some (d, rest) :=
    datePrefix?_eq_some_iff.mpr ⟨h, rfl⟩
  have htrim : Text.trim (d.isoText ++ rest) = d.isoText ++ rest := by
    have hvisible := Date.not_isBlank_of_mem_isoText h.1
    have hends : EndsVisibly (d.isoText ++ rest) := endsVisibly_append (endsVisibly_of_forall hvisible) hlast
    have hne : d.isoText ≠ [] := List.ne_nil_of_length_eq_add_one (Date.isoText_bytes h).1
    obtain ⟨c, cs, hcons⟩ := List.exists_cons_of_ne_nil hne
    rw [hcons] at hends hvisible ⊢
    exact trim_eq_self (hvisible c List.mem_cons_self) hends
  -- each way to read the whole text reads this date, and then the rest in its own way
  have hfixed : momentWithOffset? (d.isoText ++ rest) = (clockWithOffset? rest).map (Moment.mk d) := by
    cases hclock : clockWithOffset? rest <;> simp [momentWithOffset?, hdate, hclock]
  have hfree : ∀ clock? : List Char → Option Clock,
      looseMoment? clock? (d.isoText ++ rest) = (clock? rest).map (Moment.mk d) := by
    intro clock?
    cases hclock : clock? rest <;> simp [looseMoment?, looseDate?_of_datePrefix? hdate, hclock]
  have hday := dayAlone?_of_dateAhead hahead
  rw [parseDateLike?, htrim, if_pos (looksLikeDate_of_dateAhead hahead)]
  simp only [readings, clockBehind, List.findSome?_cons, hfixed, hfree, hday]
  -- on both sides the first way that reads the rest decides
  cases clockWithOffset? rest with
  | some clock => rfl
  | none =>
      cases (exactChar? 'T' rest).bind looseClock? with
      | some clock => rfl
      | none =>
          cases looseClock? (skipBlanks rest) with
          | some clock => rfl
          | none => cases (exactChar? 'T' rest).bind looseMinutes? <;> rfl

/-! ## Fractions of a second -/

/-- A fraction of a second as it is written: nothing, or a point and its digits. -/
def fractionText : List Char → List Char
  | [] => []
  | digits => '.' :: digits

/-- What the digits of a fraction stand for in nanoseconds, cut to whole ones. -/
def nanosecondsOf (digits : List Char) : Nat := digitsValue digits * tenTo 9 / tenTo digits.length

theorem nanosecondsOf_lt {digits : List Char} (h : ∀ c ∈ digits, c.isDigit = true) :
    nanosecondsOf digits < tenTo 9 := by
  have hpos := tenTo_pos digits.length
  rw [nanosecondsOf, Nat.div_lt_iff_lt_mul hpos, Nat.mul_comm]
  exact Nat.mul_lt_mul_of_pos_left (Text.digitsValue_lt h) (tenTo_pos 9)

/-- **Nine digits are read of a fraction**, as many as nanoseconds need. -/
theorem nanosecond_eq {digits : List Char} (h : ∀ c ∈ digits, c.isDigit = true) :
    nanosecond digits = nanosecondsOf digits := by
  have hzeros : ∀ c ∈ List.replicate 9 '0', c.isDigit = true := by
    intro c hc
    rw [(List.mem_replicate.mp hc).2]
    rfl
  have hall : ∀ c ∈ digits ++ List.replicate 9 '0', c.isDigit = true := by
    intro c hc
    exact (List.mem_append.mp hc).elim (h c) (hzeros c)
  have hvalue : digitsValue (digits ++ List.replicate 9 '0') = digitsValue digits * tenTo 9 := by
    have hnothing : digitsValue (List.replicate 9 '0') = 0 := rfl
    rw [Text.digitsValue_append, hnothing, List.length_replicate, Nat.add_zero]
  have hlength : (digits ++ List.replicate 9 '0').length - 9 = digits.length := by
    rw [List.length_append, List.length_replicate, Nat.add_sub_cancel]
  rw [nanosecond, Text.digitsValue_take hall, hvalue, hlength, nanosecondsOf]

/-- What may follow a fraction: neither a digit nor a point. -/
def FractionEnds (rest : List Char) : Prop :=
  ∀ c, rest.head? = some c → c ≠ '.' ∧ c.isDigit = false

theorem fractionEnds_nil : FractionEnds [] := fun _ hc => absurd hc (Option.some_ne_none _).symm

/-- A fraction is read with all of its digits. -/
theorem fraction?_append {digits rest : List Char} (h : ∀ c ∈ digits, c.isDigit = true)
    (hrest : FractionEnds rest) :
    fraction? (fractionText digits ++ rest) = some (nanosecondsOf digits, rest) := by
  cases digits with
  | nil =>
      show fraction? rest = _
      unfold fraction?
      split
      next cs => exact absurd rfl (hrest '.' rfl).1
      next => rfl
  | cons c cs =>
      have hspan := Text.spanDigits_append (List.all_eq_true.mpr h) fun c hc => (hrest c hc).2
      show fraction? ('.' :: (c :: cs ++ rest)) = _
      rw [fraction?, hspan, ← nanosecond_eq h]
      rfl

/-! ## Times as they are written -/

/-- Hours and minutes in two digits each, as they stand in times and in offsets. -/
def hourMinuteText (hour minute : Nat) : List Char := natPadded 2 hour ++ ':' :: natPadded 2 minute

theorem not_isBlank_of_mem_hourMinuteText {hour minute : Nat} :
    ∀ c ∈ hourMinuteText hour minute, isBlank c = false := by
  intro c hc
  rw [hourMinuteText, List.mem_append, List.mem_cons] at hc
  rcases hc with hc | rfl | hc
  · exact not_isBlank_of_mem_natPadded c hc
  · rfl
  · exact not_isBlank_of_mem_natPadded c hc

/-- **A time as it is written**: hour, minute and second, of which the second may be a leap second, and the
digits of a fraction, if there is one. -/
structure WrittenTime where
  hour : Nat
  minute : Nat
  second : Nat
  fraction : List Char
  hour_lt : hour < 24
  minute_lt : minute < 60
  second_le : second ≤ 60
  fraction_isDigit : ∀ c ∈ fraction, c.isDigit = true

namespace WrittenTime

variable (w : WrittenTime)

/-- The time in two digits a field, and its fraction. -/
def text : List Char :=
  hourMinuteText w.hour w.minute ++ ':' :: (natPadded 2 w.second ++ fractionText w.fraction)

/-- **The time of day that is written**: a leap second is the second 59 and one second more. -/
def clock : Clock where
  hour := w.hour
  minute := w.minute
  second := min w.second 59
  nanosecond := nanosecondsOf w.fraction + if w.second = 60 then 1000000000 else 0
  hour_lt := w.hour_lt
  minute_lt := w.minute_lt
  second_lt := by omega
  nanosecond_lt := by
    have hfraction : nanosecondsOf w.fraction < 1000000000 := nanosecondsOf_lt w.fraction_isDigit
    split <;> omega

theorem of?_eq_clock : Clock.of? w.hour w.minute w.second (nanosecondsOf w.fraction) = some w.clock := by
  have hfraction : nanosecondsOf w.fraction < 1000000000 := nanosecondsOf_lt w.fraction_isDigit
  have hhour := w.hour_lt
  have hminute := w.minute_lt
  rcases Nat.lt_or_eq_of_le w.second_le with hsecond | hsecond
  · have hmin : min w.second 59 = w.second := by omega
    rw [Clock.of?, dif_pos ⟨hhour, hminute, hsecond, hfraction⟩]
    simp only [clock, hmin, if_neg (Nat.ne_of_lt hsecond), Nat.add_zero]
  · rw [Clock.of?, dif_neg (by omega), dif_pos ⟨hhour, hminute, hsecond, hfraction⟩]
    simp only [clock, hsecond, if_pos, Nat.add_comm 1000000000]
    rfl

/-- The fields of a time fit in two digits each. -/
theorem fields_lt : w.hour < tenTo 2 ∧ w.minute < tenTo 2 ∧ w.second < tenTo 2 := by
  have htwo : tenTo 2 = 100 := rfl
  have hhour := w.hour_lt
  have hminute := w.minute_lt
  have hsecond := w.second_le
  omega

theorem text_append (rest : List Char) :
    w.text ++ rest = natPadded 2 w.hour ++ ':' :: (natPadded 2 w.minute ++ ':' ::
      (natPadded 2 w.second ++ (fractionText w.fraction ++ rest))) := by
  simp [text, hourMinuteText]

/-- **Fixed fields read the time that is written**, if an offset follows it. -/
theorem clockWithOffset?_text {separator : Char} (hs : separator = 'T' ∨ separator = ' ')
    {rest : List Char} (hrest : FractionEnds rest) :
    clockWithOffset? (separator :: (w.text ++ rest)) = if isOffset rest then some w.clock else none := by
  obtain ⟨hhour, hminute, hsecond⟩ := w.fields_lt
  have hseparator : (separator == 'T' || separator == 't' || separator == ' ') = true := by
    rcases hs with rfl | rfl <;> rfl
  have hfraction := fraction?_append w.fraction_isDigit hrest
  rw [text_append]
  simp [clockWithOffset?, hseparator, exactChar?, exactDigits?_natPadded (by decide) hhour,
    exactDigits?_natPadded (by decide) hminute, exactDigits?_natPadded (by decide) hsecond, hfraction,
    w.of?_eq_clock]

/-- **Free fields read the time that is written**, if nothing follows it. -/
theorem looseClock?_text : looseClock? w.text = some w.clock := by
  obtain ⟨hhour, hminute, hsecond⟩ := w.fields_lt
  have hfraction := fraction?_append w.fraction_isDigit fractionEnds_nil
  rw [List.append_nil] at hfraction
  simp [looseClock?, text, hourMinuteText, exactChar?, looseDigits?_natPadded (by decide) hhour,
    looseDigits?_natPadded (by decide) hminute, looseDigits?_natPadded (by decide) hsecond, hfraction,
    w.of?_eq_clock]

theorem text_ne_nil : w.text ≠ [] := by simp [text]

theorem not_isBlank_of_mem_fractionText : ∀ c ∈ fractionText w.fraction, isBlank c = false := by
  intro c hc
  unfold fractionText at hc
  split at hc
  · exact absurd hc List.not_mem_nil
  · rcases List.mem_cons.mp hc with rfl | hc
    · rfl
    · exact isBlank_of_isDigit (w.fraction_isDigit c hc)

/-- No character of a written time is a blank. -/
theorem not_isBlank_of_mem_text : ∀ c ∈ w.text, isBlank c = false := by
  intro c hc
  rw [text, List.mem_append, List.mem_cons, List.mem_append] at hc
  rcases hc with hc | rfl | hc | hc
  · exact not_isBlank_of_mem_hourMinuteText c hc
  · rfl
  · exact not_isBlank_of_mem_natPadded c hc
  · exact w.not_isBlank_of_mem_fractionText c hc

end WrittenTime

/-- Without an offset fixed fields fail, and of the free ones those behind the separator read the time. -/
theorem clockBehind_text (w : WrittenTime) {separator : Char}
    (hs : separator = 'T' ∨ separator = ' ') :
    clockBehind (separator :: w.text) = w.clock := by
  have hfixed : clockWithOffset? (separator :: w.text) = none := by
    have hread := w.clockWithOffset?_text hs fractionEnds_nil
    rw [List.append_nil] at hread
    exact hread
  rcases hs with rfl | rfl
  · have hfree : (exactChar? 'T' ('T' :: w.text)).bind looseClock? = some w.clock := w.looseClock?_text
    rw [clockBehind, hfixed, hfree, Option.none_or, Option.some_or, Option.getD_some]
  · have hnoT : exactChar? 'T' (' ' :: w.text) = none := rfl
    have hfree : looseClock? (skipBlanks (' ' :: w.text)) = some w.clock := by
      have hblank : skipBlanks (' ' :: w.text) = skipBlanks w.text := rfl
      rw [hblank, skipBlanks_eq_self w.not_isBlank_of_mem_text, w.looseClock?_text]
    rw [clockBehind, hfixed, hnoT, hfree, Option.bind_none, Option.none_or, Option.none_or, Option.some_or,
      Option.getD_some]

/-! ## Timestamps -/

/-- **A date and a time as they are written**, with a `T` or a space between them. -/
structure Timestamp where
  date : Date
  separator : Char
  time : WrittenTime
  year_bounds : 0 ≤ date.year ∧ date.year ≤ 9999
  separator_eq : separator = 'T' ∨ separator = ' '

namespace Timestamp

variable (t : Timestamp)

/-- The timestamp in all its digits. -/
def text : List Char := t.date.isoText ++ t.separator :: t.time.text

/-- The date and the time of day that are written. -/
def moment : Moment := ⟨t.date, t.time.clock⟩

theorem parseDateLike?_text : parseDateLike? t.text = some t.moment := by
  have hlast : EndsVisibly (t.separator :: t.time.text) :=
    endsVisibly_cons _ t.time.text_ne_nil (endsVisibly_of_forall t.time.not_isBlank_of_mem_text)
  rw [text, parseDateLike?_isoText_append t.year_bounds hlast, clockBehind_text t.time t.separator_eq]
  rfl

/-- A timestamp in the leap second of a summer, on a clock that is behind universal time, with more digits
than nanoseconds have. -/
def leapSecond : Timestamp where
  date := ⟨2015, 6, 30, by decide, by decide⟩
  separator := ' '
  time := ⟨21, 29, 60, Text.natText 1234567895, by decide, by decide, by decide,
    fun _ hc => Text.isDigit_of_mem_natText hc⟩
  year_bounds := by decide
  separator_eq := Or.inr rfl

end Timestamp

end QueryDesk
