import QueryDesk.Proofs.Calendar.Timestamp
import QueryDesk.Result.Display

/-! # Moments rendered and read again

A moment of a year of four digits is rendered by the numeric patterns as a timestamp or a part of one, and is
read back from it up to the fields that the pattern does not ask for (`reading_of_rendered`). What is read is
always of such a year, so that dates shown as `yyyy-MM-dd` stay as they are when they are shown again.
-/

set_option autoImplicit false

namespace QueryDesk

open Text (skipBlanks exactChar?)

/-! ## Times with fields left out -/

namespace Clock

/-- The time without its part of a second. -/
def wholeSeconds (c : Clock) : Clock :=
  { c with nanosecond := 0, nanosecond_lt := midnight.nanosecond_lt }

/-- The time without its part of a minute. -/
def wholeMinutes (c : Clock) : Clock :=
  { c with
    second := 0
    nanosecond := 0
    second_lt := midnight.second_lt
    nanosecond_lt := midnight.nanosecond_lt }

/-- The time as it is written to the second. -/
def written (c : Clock) : WrittenTime where
  hour := c.hour
  minute := c.minute
  second := c.second
  fraction := []
  hour_lt := c.hour_lt
  minute_lt := c.minute_lt
  second_le := Nat.le_of_lt c.second_lt
  fraction_isDigit := fun _ hc => absurd hc List.not_mem_nil

theorem clock_written (c : Clock) : c.written.clock = c.wholeSeconds := by
  have hsecond := c.second_lt
  have hmin : min c.second 59 = c.second := by omega
  have hleap : c.second ≠ 60 := by omega
  have hnone : nanosecondsOf [] = 0 := rfl
  simp [WrittenTime.clock, written, wholeSeconds, hmin, hleap, hnone]

/-- Without seconds only the last of the free forms reads a time. -/
theorem clockBehind_hourMinuteText (c : Clock) :
    clockBehind ('T' :: hourMinuteText c.hour c.minute) = c.wholeMinutes := by
  have hhour : c.hour < tenTo 2 := c.written.fields_lt.1
  have hminute : c.minute < tenTo 2 := c.written.fields_lt.2.1
  have hexact := exactDigits?_natPadded (by decide) hminute []
  have hloose := looseDigits?_natPadded (by decide) hminute []
  rw [List.append_nil] at hexact hloose
  have hclock : of? c.hour c.minute 0 0 = some c.wholeMinutes :=
    dif_pos ⟨c.hour_lt, c.minute_lt, by decide, by decide⟩
  have hT : exactChar? 'T' ('T' :: hourMinuteText c.hour c.minute) =
      some (hourMinuteText c.hour c.minute) := rfl
  -- the first three ways miss the seconds, the third of them already the digits behind the `T`
  have hfixed : clockWithOffset? ('T' :: hourMinuteText c.hour c.minute) = none := by
    simp [clockWithOffset?, hourMinuteText, exactChar?, exactDigits?_natPadded (by decide) hhour, hexact]
  have hfree : looseClock? (hourMinuteText c.hour c.minute) = none := by
    simp [looseClock?, hourMinuteText, exactChar?, looseDigits?_natPadded (by decide) hhour, hloose]
  have hblanks : looseClock? (skipBlanks ('T' :: hourMinuteText c.hour c.minute)) = none := rfl
  have hminutes : looseMinutes? (hourMinuteText c.hour c.minute) = some c.wholeMinutes := by
    simp [looseMinutes?, hourMinuteText, exactChar?, looseDigits?_natPadded (by decide) hhour, hloose, hclock]
  rw [clockBehind, hfixed, hT, Option.bind_some, hfree, hblanks, Option.bind_some, hminutes]
  rfl

end Clock

/-! ## Patterns of digits -/

namespace Moment

variable (m : Moment)

theorem render_isoDate : m.render "yyyy-MM-dd".toList = m.date.isoText := by
  have hsegments : Pattern.segments "yyyy-MM-dd".toList =
      [.token .year4, .literal ['-'], .token .month2, .literal ['-'], .token .day2] := by decide +kernel
  rw [render, hsegments]
  simp [segment, field, Date.isoText]

theorem render_isoMinutes : m.render "yyyy-MM-ddTHH:mm".toList =
    m.date.isoText ++ 'T' :: hourMinuteText m.clock.hour m.clock.minute := by
  have hsegments : Pattern.segments "yyyy-MM-ddTHH:mm".toList =
      [.token .year4, .literal ['-'], .token .month2, .literal ['-'], .token .day2, .literal ['T'],
       .token .hour24Padded, .literal [':'], .token .minute2] := by decide +kernel
  rw [render, hsegments]
  simp [segment, field, Date.isoText, hourMinuteText]

theorem render_isoSeconds {separator : Char} (hs : separator = 'T' ∨ separator = ' ') :
    m.render ("yyyy-MM-dd".toList ++ separator :: "HH:mm:ss".toList) =
      m.date.isoText ++ separator :: m.clock.written.text := by
  have hsegments : Pattern.segments ("yyyy-MM-dd".toList ++ separator :: "HH:mm:ss".toList) =
      [.token .year4, .literal ['-'], .token .month2, .literal ['-'], .token .day2, .literal [separator],
       .token .hour24Padded, .literal [':'], .token .minute2, .literal [':'], .token .second2] := by
    rcases hs with rfl | rfl <;> decide +kernel
  rw [render, hsegments]
  simp [segment, field, Date.isoText, WrittenTime.text, Clock.written, hourMinuteText, fractionText]

/-! ## Reading what was rendered -/

variable {m} (h : 0 ≤ m.date.year ∧ m.date.year ≤ 9999)

include h

theorem parse_render_isoSeconds {separator : Char} (hs : separator = 'T' ∨ separator = ' ') :
    parseDateLike? (m.render ("yyyy-MM-dd".toList ++ separator :: "HH:mm:ss".toList)) =
      some ⟨m.date, m.clock.wholeSeconds⟩ := by
  have hread := Timestamp.parseDateLike?_text ⟨m.date, separator, m.clock.written, h, hs⟩
  rw [Timestamp.text, Timestamp.moment, m.clock.clock_written] at hread
  rw [render_isoSeconds m hs, hread]

theorem parse_render_isoMinutes :
    parseDateLike? (m.render "yyyy-MM-ddTHH:mm".toList) = some ⟨m.date, m.clock.wholeMinutes⟩ := by
  have hlast : EndsVisibly ('T' :: hourMinuteText m.clock.hour m.clock.minute) := by
    refine endsVisibly_of_forall ?_
    rw [List.forall_mem_cons]
    exact ⟨rfl, not_isBlank_of_mem_hourMinuteText⟩
  rw [render_isoMinutes, parseDateLike?_isoText_append h hlast, m.clock.clockBehind_hourMinuteText]

theorem parse_render_isoDate :
    parseDateLike? (m.render "yyyy-MM-dd".toList) = some ⟨m.date, .midnight⟩ := by
  have hlast : EndsVisibly [] := endsVisibly_of_forall (by simp)
  have hread := parseDateLike?_isoText_append h hlast
  rw [List.append_nil] at hread
  rw [render_isoDate, hread]
  rfl

end Moment

/-- What is read is of a year of four digits. -/
theorem year_of_parseDateLike? {text : List Char} {m : Moment} (h : parseDateLike? text = some m) :
    0 ≤ m.date.year ∧ m.date.year ≤ 9999 := by
  rw [parseDateLike?, Option.ite_none_right_eq_some] at h
  obtain ⟨hlooks, hfound⟩ := h
  obtain ⟨read, hmem, hread⟩ := List.exists_of_findSome?_eq_some hfound
  exact (dateAhead_of_mem_readings hmem hlooks hread).year

/-- **A date shown as `yyyy-MM-dd` stays as it is**, and so does text that is no date. -/
theorem shown_shown_isoDate (s : String) :
    (Cell.text ((Cell.text s).shown (some "yyyy-MM-dd"))).shown (some "yyyy-MM-dd") =
      (Cell.text s).shown (some "yyyy-MM-dd") := by
  have hshown : ∀ s : String, (Cell.text s).shown (some "yyyy-MM-dd") =
      ((parseDateLike? s.toList).map fun m => m.format "yyyy-MM-dd").getD s := fun _ => rfl
  cases hread : parseDateLike? s.toList with
  | none =>
      have hsame : (Cell.text s).shown (some "yyyy-MM-dd") = s := by rw [hshown, hread]; rfl
      rw [hsame, hsame]
  | some m =>
      have hdate : (Cell.text s).shown (some "yyyy-MM-dd") = m.format "yyyy-MM-dd" := by
        rw [hshown, hread]
        rfl
      have hagain := Moment.parse_render_isoDate (year_of_parseDateLike? hread)
      have hkept : (Moment.mk m.date .midnight).format "yyyy-MM-dd" = m.format "yyyy-MM-dd" := by
        rw [Moment.format, Moment.format, Moment.render_isoDate, Moment.render_isoDate]
      rw [hdate, hshown, Moment.format, String.toList_ofList, hagain, Option.map_some, Option.getD_some,
        hkept]
      rfl

/-- **What is rendered in digits is read back.** A moment of a year of four digits comes back from its date and
time with only the part of a second lost, from its date and its time to the minute with only the part of a
minute lost, and from its date as the midnight of that date. So text that is shown as `yyyy-MM-dd` is shown in
the same way when what is shown is shown again. -/
theorem reading_of_rendered :
    (∀ m : Moment, 0 ≤ m.date.year ∧ m.date.year ≤ 9999 →
      parseDateLike? (m.format "yyyy-MM-ddTHH:mm:ss").toList = some ⟨m.date, m.clock.wholeSeconds⟩ ∧
      parseDateLike? (m.format "yyyy-MM-dd HH:mm:ss").toList = some ⟨m.date, m.clock.wholeSeconds⟩ ∧
      parseDateLike? (m.format "yyyy-MM-ddTHH:mm").toList = some ⟨m.date, m.clock.wholeMinutes⟩ ∧
      parseDateLike? (m.format "yyyy-MM-dd").toList = some ⟨m.date, .midnight⟩) ∧
    ∀ s : String, (Cell.text ((Cell.text s).shown (some "yyyy-MM-dd"))).shown (some "yyyy-MM-dd") =
      (Cell.text s).shown (some "yyyy-MM-dd") := by
  refine ⟨?_, shown_shown_isoDate⟩
  intro m h
  simp only [Moment.format, String.toList_ofList]
  exact ⟨Moment.parse_render_isoSeconds h (Or.inl rfl), Moment.parse_render_isoSeconds h (Or.inr rfl),
    Moment.parse_render_isoMinutes h, Moment.parse_render_isoDate h⟩

/-- A leap second is rendered as the second before it, and that is read. -/
theorem reading_of_leapMoment :
    ∃ m : Moment, m = Timestamp.leapSecond.moment ∧ (0 ≤ m.date.year ∧ m.date.year ≤ 9999) ∧
      m.format "yyyy-MM-ddTHH:mm:ss" = "2015-06-30T21:29:59" ∧
      parseDateLike? "2015-06-30T21:29:59".toList = some ⟨m.date, m.clock.wholeSeconds⟩ ∧
      (Cell.text "2015-06-30T21:29:60.5").shown (some "yyyy-MM-dd") = "2015-06-30" := by
  have hyear := Timestamp.leapSecond.year_bounds
  have hformat : Timestamp.leapSecond.moment.format "yyyy-MM-ddTHH:mm:ss" = "2015-06-30T21:29:59" := by
    decide +kernel
  have hread := (reading_of_rendered.1 Timestamp.leapSecond.moment hyear).1
  rw [hformat] at hread
  exact ⟨_, rfl, hyear, hformat, hread, by decide +kernel⟩

end QueryDesk
