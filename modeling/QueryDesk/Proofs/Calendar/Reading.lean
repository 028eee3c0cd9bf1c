import QueryDesk.Calendar.Reading
import QueryDesk.Proofs.Text.Decimal
import QueryDesk.Proofs.Text.Scan

/-! # The date of a date-like text

A text is read exactly if it begins with a date as `YYYY-MM-DD`, blanks aside, and what it is read as is of
that date (`date_parseDateLike?`). Every way to read it takes the date from the same ten characters: where
all digits of the date are ASCII, free fields read what fixed fields read; any other digit stops a free field,
and nothing that may follow a date begins with one.
-/

set_option autoImplicit false

namespace QueryDesk

open Text (isAnyDigit isBlank skipBlanks digitsValue natPadded exactChar? exactDigits?
  exactChar?_eq_some_iff exactDigits?_eq_some_iff)

/-! ## Dates and their texts -/

namespace Date

/-- The date as `YYYY-MM-DD`. -/
def isoText (d : Date) : List Char :=
  yearText d.year ++ '-' :: (natPadded 2 d.month ++ '-' :: natPadded 2 d.day)

theorem of?_eq_some_iff {year : Int} {month day : Nat} {d : Date} :
    of? year month day = some d ↔ d.year = year ∧ d.month = month ∧ d.day = day := by
  rw [of?]
  constructor
  · intro h
    split at h
    · obtain rfl := Option.some.inj h
      exact ⟨rfl, rfl, rfl⟩
    · exact absurd h (Option.some_ne_none _).symm
  · rintro ⟨rfl, rfl, rfl⟩
    rw [dif_pos ⟨d.month_bounds, d.day_bounds⟩]

/-- The fields of a date in a year of four digits fit in rows of four, two and two digits. -/
theorem fields_lt {d : Date} (h : 0 ≤ d.year ∧ d.year ≤ 9999) :
    d.year.natAbs < tenTo 4 ∧ d.month < tenTo 2 ∧ d.day < tenTo 2 := by
  have hmonth := d.month_bounds
  have hday := d.day_bounds
  have hlast := daysInMonth_bounds d.year d.month
  have htwo : tenTo 2 = 100 := rfl
  have hfour : tenTo 4 = 10000 := rfl
  omega

theorem of?_fields {d : Date} (h : 0 ≤ d.year) : of? (d.year.natAbs : Int) d.month d.day = some d :=
  of?_eq_some_iff.mpr ⟨by omega, rfl, rfl⟩

end Date

/-- **A text that begins with a date** of a year of four digits, as `YYYY-MM-DD`. -/
structure DateAhead (text : List Char) (d : Date) : Prop where
  year : 0 ≤ d.year ∧ d.year ≤ 9999
  ahead : d.isoText <+: text

theorem Date.isoText_append {d : Date} (h : 0 ≤ d.year) (rest : List Char) :
    d.isoText ++ rest =
      natPadded 4 d.year.natAbs ++ '-' :: (natPadded 2 d.month ++ '-' :: (natPadded 2 d.day ++ rest)) := by
  rw [isoText, yearText, if_neg (by omega)]
  simp

theorem exactDigits?_row {count : Nat} {digits : List Char} (hlength : digits.length = count)
    (h : ∀ c ∈ digits, c.isDigit = true) (rest : List Char) :
    exactDigits? count (digits ++ rest) = some (digitsValue digits, rest) :=
  exactDigits?_eq_some_iff.mpr ⟨digits, rfl, hlength, h, rfl⟩

theorem exactDigits?_natPadded {width n : Nat} (hw : 0 < width) (h : n < tenTo width)
    (rest : List Char) : exactDigits? width (natPadded width n ++ rest) = some (n, rest) := by
  rw [exactDigits?_row (Text.natPadded_length hw h) Text.natPadded_isDigit, Text.digitsValue_natPadded]

/-- **Fixed fields read exactly a date as it is written.** -/
theorem datePrefix?_eq_some_iff {text rest : List Char} {d : Date} :
    datePrefix? text = some (d, rest) ↔
      (0 ≤ d.year ∧ d.year ≤ 9999) ∧ text = d.isoText ++ rest := by
  constructor
  · intro h
    simp only [datePrefix?, Option.bind_eq_bind, Option.bind_eq_some_iff, Prod.exists,
      exactDigits?_eq_some_iff, exactChar?_eq_some_iff, Option.some.injEq, Prod.mk.injEq] at h
    obtain ⟨_, _, ⟨ys, rfl, hys, hyears, rfl⟩, _, rfl, _, _, ⟨ms, rfl, hms, hmonths, rfl⟩, _, rfl, _, _,
      ⟨ds, rfl, hds, hdays, rfl⟩, _, hdate, rfl, rfl⟩ := h
    obtain ⟨hyear, hmonth, hday⟩ := Date.of?_eq_some_iff.mp hdate
    have hbound : digitsValue ys < tenTo ys.length := Text.digitsValue_lt hyears
    have hfour : tenTo ys.length = 10000 := by rw [hys]; rfl
    refine ⟨⟨by omega, by omega⟩, ?_⟩
    rw [Date.isoText_append (by omega), hyear, hmonth, hday, Int.natAbs_natCast,
      Text.natPadded_digitsValue (by decide) hys hyears,
      Text.natPadded_digitsValue (by decide) hms hmonths,
      Text.natPadded_digitsValue (by decide) hds hdays]
  · rintro ⟨hyear, rfl⟩
    obtain ⟨hyears, hmonths, hdays⟩ := Date.fields_lt hyear
    have hdate := Date.of?_fields hyear.1
    rw [Date.isoText_append hyear.1]
    generalize d.year.natAbs = year at hyears hdate
    simp [datePrefix?, exactChar?, hdate, exactDigits?_natPadded (by decide) hyears,
      exactDigits?_natPadded (by decide) hmonths, exactDigits?_natPadded (by decide) hdays]

theorem dateAhead_iff {text : List Char} {d : Date} :
    DateAhead text d ↔ ∃ rest, datePrefix? text = some (d, rest) := by
  simp only [datePrefix?_eq_some_iff]
  constructor
  · rintro ⟨hyear, rest, rfl⟩
    exact ⟨rest, hyear, rfl⟩
  · rintro ⟨rest, hyear, rfl⟩
    exact ⟨hyear, rest, rfl⟩

/-! ## Texts that look like a date -/

/-- A decimal digit that is not an ASCII digit. -/
def ForeignDigit (c : Char) : Prop := isAnyDigit c = true ∧ c.isDigit = false

/-- No decimal digit is a blank. -/
theorem isBlank_of_isAnyDigit {c : Char} (h : isAnyDigit c = true) : isBlank c = false := by
  have hall : ∀ first ∈ Text.scriptZeros, ∀ i < 10, isBlank (Char.ofNat (first + i)) = false := by
    decide +kernel
  obtain ⟨first, hfirst, hc⟩ := List.any_eq_true.mp h
  rw [Bool.and_eq_true, decide_eq_true_eq, decide_eq_true_eq] at hc
  have hplace : first + (c.toNat - first) = c.toNat := by omega
  have := hall first hfirst (c.toNat - first) (by omega)
  rwa [hplace, Char.ofNat_toNat] at this

/-- **A text that begins like a date**: rows of four, two and two decimal digits of any script, with hyphens
between them. -/
def BeginsLikeDate (text : List Char) : Prop :=
  ∃ ys ms ds rest, text = ys ++ '-' :: (ms ++ '-' :: (ds ++ rest)) ∧
    (ys.length = 4 ∧ ms.length = 2 ∧ ds.length = 2) ∧ ∀ c ∈ ys ++ ms ++ ds, isAnyDigit c = true

theorem looksLikeDate_iff {text : List Char} : looksLikeDate text = true ↔ BeginsLikeDate text := by
  constructor
  · intro h
    unfold looksLikeDate at h
    split at h
    · next y1 y2 y3 y4 m1 m2 d1 d2 rest =>
        refine ⟨[y1, y2, y3, y4], [m1, m2], [d1, d2], rest, rfl, ⟨rfl, rfl, rfl⟩, ?_⟩
        exact List.all_eq_true.mp h
    · exact absurd h Bool.false_ne_true
  · rintro ⟨ys, ms, ds, rest, rfl, ⟨hys, hms, hds⟩, hall⟩
    match ys, ms, ds, hys, hms, hds with
    | [_, _, _, _], [_, _], [_, _], _, _, _ => exact List.all_eq_true.mpr hall

/-! ## Free fields -/

theorem skipBlanks_cons {c : Char} {cs : List Char} (h : isBlank c = false) :
    skipBlanks (c :: cs) = c :: cs := by
  simp [skipBlanks, h]

/-- A free field takes blanks and digits. -/
theorem exists_of_looseDigits? {most value : Nat} {cs rest : List Char}
    (h : looseDigits? most cs = some (value, rest)) :
    ∃ taken, cs = taken ++ rest ∧ ∀ c ∈ taken, isBlank c = true ∨ c.isDigit = true := by
  simp only [looseDigits?, Option.ite_none_left_eq_some, Option.some.injEq, Prod.mk.injEq] at h
  obtain ⟨-, -, rfl⟩ := h
  have hahead : ((skipBlanks cs).take most).takeWhile Char.isDigit <+: skipBlanks cs :=
    List.IsPrefix.trans (List.takeWhile_prefix _) (List.take_prefix _ _)
  refine ⟨cs.takeWhile isBlank ++ ((skipBlanks cs).take most).takeWhile Char.isDigit, ?_, ?_⟩
  · rw [List.append_assoc, List.prefix_iff_eq_append.mp hahead]
    exact List.takeWhile_append_dropWhile.symm
  · intro c hc
    rcases List.mem_append.mp hc with hc | hc
    · exact Or.inl (List.all_eq_true.mp List.all_takeWhile c hc)
    · exact Or.inr (List.all_eq_true.mp List.all_takeWhile c hc)

/-- What a free field makes of a row of digits of some script: it takes the ASCII digits at its front. -/
theorem looseDigits?_append {digits after : List Char} (hne : digits ≠ [])
    (hall : ∀ c ∈ digits, isAnyDigit c = true) :
    looseDigits? digits.length (digits ++ after) =
      if (digits.takeWhile Char.isDigit).isEmpty then none
      else some (digitsValue (digits.takeWhile Char.isDigit), digits.dropWhile Char.isDigit ++ after) := by
  obtain ⟨c, cs, rfl⟩ := List.exists_cons_of_ne_nil hne
  have hblank : isBlank c = false := isBlank_of_isAnyDigit (hall c List.mem_cons_self)
  have hskip : skipBlanks (c :: cs ++ after) = c :: cs ++ after := skipBlanks_cons hblank
  have hsplit : c :: cs ++ after =
      (c :: cs).takeWhile Char.isDigit ++ ((c :: cs).dropWhile Char.isDigit ++ after) := by
    rw [← List.append_assoc, List.takeWhile_append_dropWhile]
  have hdrop : (c :: cs ++ after).drop ((c :: cs).takeWhile Char.isDigit).length =
      (c :: cs).dropWhile Char.isDigit ++ after := by
    rw [hsplit, List.drop_left]
  rw [looseDigits?, hskip, List.take_left, hdrop]

/-- A free field over a row of ASCII digits takes all of them; a digit of another script stops it. -/
theorem looseDigits?_row {count value : Nat} {digits after rest : List Char}
    (hlength : digits.length = count) (hne : digits ≠ []) (hall : ∀ c ∈ digits, isAnyDigit c = true)
    (h : looseDigits? count (digits ++ after) = some (value, rest)) :
    ((∀ c ∈ digits, c.isDigit = true) ∧ digitsValue digits = value ∧ rest = after) ∨
      ∃ c cs, rest = c :: cs ∧ ForeignDigit c := by
  subst hlength
  rw [looseDigits?_append hne hall, Option.ite_none_left_eq_some, Option.some.injEq, Prod.mk.injEq] at h
  obtain ⟨-, rfl, rfl⟩ := h
  cases hstop : digits.dropWhile Char.isDigit with
  | nil =>
      have hascii : digits.takeWhile Char.isDigit = digits := by
        have := List.takeWhile_append_dropWhile (p := Char.isDigit) (l := digits)
        rwa [hstop, List.append_nil] at this
      have hdigits : ∀ c ∈ digits, c.isDigit = true :=
        fun c hc => List.all_eq_true.mp List.all_takeWhile c (hascii.symm ▸ hc)
      exact Or.inl ⟨hdigits, by rw [hascii], rfl⟩
  | cons c cs =>
      have hmem : c ∈ digits := (List.dropWhile_sublist _).subset (hstop ▸ List.mem_cons_self)
      have hforeign := List.head?_dropWhile_not Char.isDigit digits
      rw [hstop] at hforeign
      exact Or.inr ⟨c, cs ++ after, rfl, hall c hmem, hforeign⟩

/-- Nor does a hyphen follow a digit of another script at which a free field stops. -/
theorem looseDigits?_row_hyphen {count value : Nat} {digits after rest : List Char}
    (hlength : digits.length = count) (hne : digits ≠ []) (hall : ∀ c ∈ digits, isAnyDigit c = true)
    (h : looseDigits? count (digits ++ after) = some (value, '-' :: rest)) :
    (∀ c ∈ digits, c.isDigit = true) ∧ digitsValue digits = value ∧ '-' :: rest = after := by
  rcases looseDigits?_row hlength hne hall h with hread | ⟨c, cs, heq, hforeign, -⟩
  · exact hread
  · obtain ⟨rfl, -⟩ := List.cons.inj heq
    exact absurd hforeign (by decide)

/-- A free field reads a number that a fixed field reads. -/
theorem looseDigits?_natPadded {width n : Nat} (hw : 0 < width) (h : n < tenTo width) (rest : List Char) :
    looseDigits? width (natPadded width n ++ rest) = some (n, rest) := by
  have hlength := Text.natPadded_length hw h
  have hne : natPadded width n ≠ [] := by
    rintro hnil
    rw [hnil] at hlength
    exact absurd hlength (Nat.ne_of_lt hw)
  have hrow := @looseDigits?_append (natPadded width n) rest hne
    fun c hc => Text.isAnyDigit_of_isDigit (Text.natPadded_isDigit c hc)
  have hascii : (natPadded width n ++ []).takeWhile Char.isDigit = natPadded width n ∧
      (natPadded width n ++ []).dropWhile Char.isDigit = [] :=
    takeWhile_dropWhile_append Text.natPadded_isDigit (by simp)
  rw [List.append_nil] at hascii
  rw [hlength, hascii.1, hascii.2, Text.digitsValue_natPadded, List.isEmpty_eq_false_iff.mpr hne] at hrow
  exact hrow

/-- Free fields read a date that fixed fields read. -/
theorem looseDate?_of_datePrefix? {text rest : List Char} {d : Date}
    (h : datePrefix? text = some (d, rest)) : looseDate? text = some (d, rest) := by
  obtain ⟨hyear, rfl⟩ := datePrefix?_eq_some_iff.mp h
  obtain ⟨hyears, hmonths, hdays⟩ := Date.fields_lt hyear
  have hdate := Date.of?_fields hyear.1
  rw [Date.isoText_append hyear.1]
  generalize d.year.natAbs = year at hyears hdate
  simp [looseDate?, exactChar?, hdate, looseDigits?_natPadded (by decide) hyears,
    looseDigits?_natPadded (by decide) hmonths, looseDigits?_natPadded (by decide) hdays]

/-- **Free fields read no other date** in a text that looks like a date, as long as no digit is left over. -/
theorem datePrefix?_of_looseDate? {text rest : List Char} {d : Date} (hlooks : looksLikeDate text = true)
    (h : looseDate? text = some (d, rest)) (hrest : ∀ c, rest.head? = some c → ¬ForeignDigit c) :
    datePrefix? text = some (d, rest) := by
  obtain ⟨ys, ms, ds, after, rfl, ⟨hys, hms, hds⟩, hall⟩ := looksLikeDate_iff.mp hlooks
  simp only [List.forall_mem_append] at hall
  obtain ⟨⟨hyears, hmonths⟩, hdays⟩ := hall
  simp only [looseDate?, Option.bind_eq_bind, Option.bind_eq_some_iff, Prod.exists,
    exactChar?_eq_some_iff, Option.some.injEq, Prod.mk.injEq] at h
  obtain ⟨year, _, hyear, _, rfl, month, _, hmonth, _, rfl, day, _, hday, _, hdate, rfl, rfl⟩ := h
  obtain ⟨hys', rfl, hafter⟩ :=
    looseDigits?_row_hyphen hys (List.ne_nil_of_length_eq_add_one hys) hyears hyear
  obtain rfl := (List.cons.inj hafter).2
  obtain ⟨hms', rfl, hafter⟩ :=
    looseDigits?_row_hyphen hms (List.ne_nil_of_length_eq_add_one hms) hmonths hmonth
  obtain rfl := (List.cons.inj hafter).2
  rcases looseDigits?_row hds (List.ne_nil_of_length_eq_add_one hds) hdays hday with
    ⟨hds', rfl, rfl⟩ | ⟨c, cs, rfl, hforeign⟩
  · simp [datePrefix?, exactChar?, exactDigits?_row hys hys', exactDigits?_row hms hms',
      exactDigits?_row hds hds', hdate]
  · exact absurd hforeign (hrest c rfl)

/-! ## The ways to read a text -/

/-- What may follow a date does not begin with a digit of another script. -/
theorem looseDigits?_foreign {c : Char} (h : ForeignDigit c) (most : Nat) (cs : List Char) :
    looseDigits? most (c :: cs) = none := by
  have hskip : skipBlanks (c :: cs) = c :: cs := skipBlanks_cons (isBlank_of_isAnyDigit h.1)
  rw [looseDigits?, hskip]
  cases most with
  | zero => rfl
  | succ most => simp [h.2]

theorem looseClock?_foreign {c : Char} (h : ForeignDigit c) (cs : List Char) :
    looseClock? (c :: cs) = none := by
  simp [looseClock?, looseDigits?_foreign h]

theorem exactChar?_foreign {c d : Char} (h : ForeignDigit c) (hd : isAnyDigit d = false) (cs : List Char) :
    exactChar? d (c :: cs) = none := by
  have hne : c ≠ d := fun heq => absurd h.1 (by rw [heq, hd]; exact Bool.false_ne_true)
  simp [exactChar?, hne]

theorem dateAhead_of_looseMoment? {clock? : List Char → Option Clock} {text : List Char} {m : Moment}
    (hclock : ∀ c cs, ForeignDigit c → clock? (c :: cs) = none) (hlooks : looksLikeDate text = true)
    (h : looseMoment? clock? text = some m) : DateAhead text m.date := by
  simp only [looseMoment?, Option.bind_eq_bind, Option.bind_eq_some_iff, Prod.exists,
    Option.some.injEq] at h
  obtain ⟨d, rest, hdate, clock, hread, rfl⟩ := h
  refine dateAhead_iff.mpr ⟨rest, datePrefix?_of_looseDate? hlooks hdate ?_⟩
  intro c hc hforeign
  cases rest with
  | nil => exact absurd hc (Option.some_ne_none _).symm
  | cons c' cs =>
      obtain rfl := Option.some.inj hc
      rw [hclock _ cs hforeign] at hread
      exact absurd hread (Option.some_ne_none _).symm

/-! ## The first ten bytes -/

theorem utf8Size_of_le {c : Char} (h : c.toNat ≤ 127) : c.utf8Size = 1 := by
  have hval : c.val ≤ 127 := UInt32.le_iff_toNat_le.mpr h
  exact if_pos hval

theorem utf8Size_of_isDigit {c : Char} (h : c.isDigit = true) : c.utf8Size = 1 :=
  utf8Size_of_le (by have := Text.isDigit_iff.mp h; omega)

/-- How many bytes a text has in UTF-8. -/
def utf8Length : List Char → Nat
  | [] => 0
  | c :: cs => c.utf8Size + utf8Length cs

/-- The bytes that are taken are those of a beginning of the text. -/
theorem of_takeBytes? {cs taken : List Char} {count : Nat} (h : takeBytes? cs count = some taken) :
    taken <+: cs ∧ utf8Length taken = count := by
  induction cs generalizing count taken with
  | nil =>
      cases count with
      | zero => obtain rfl := Option.some.inj h; exact ⟨List.nil_prefix, rfl⟩
      | succ count => exact absurd h (Option.some_ne_none _).symm
  | cons c cs ih =>
      cases count with
      | zero => obtain rfl := Option.some.inj h; exact ⟨List.nil_prefix, rfl⟩
      | succ count =>
          rw [takeBytes?, Option.ite_none_right_eq_some, Option.map_eq_some_iff] at h
          obtain ⟨hfits, more, hmore, rfl⟩ := h
          obtain ⟨hahead, hlength⟩ := ih hmore
          rw [List.cons_prefix_cons, utf8Length, hlength]
          exact ⟨⟨rfl, hahead⟩, by omega⟩

theorem takeBytes?_append {cs : List Char} (h : ∀ c ∈ cs, c.utf8Size = 1) (rest : List Char) :
    takeBytes? (cs ++ rest) cs.length = some cs := by
  induction cs with
  | nil => cases rest <;> rfl
  | cons c cs ih =>
      rw [List.forall_mem_cons] at h
      rw [List.cons_append, List.length_cons, takeBytes?, h.1, if_pos (by omega), Nat.add_sub_cancel, ih h.2]
      rfl

theorem length_le_utf8Length (cs : List Char) : cs.length ≤ utf8Length cs := by
  induction cs with
  | nil => exact Nat.le_refl 0
  | cons c cs ih =>
      have := c.utf8Size_pos
      rw [List.length_cons, utf8Length]
      omega

theorem utf8Length_eq_length {cs : List Char} (h : ∀ c ∈ cs, c.utf8Size = 1) :
    utf8Length cs = cs.length := by
  induction cs with
  | nil => rfl
  | cons c cs ih =>
      rw [List.forall_mem_cons] at h
      rw [utf8Length, h.1, ih h.2, List.length_cons, Nat.add_comm]

/-- Free fields of a date take blanks, digits and hyphens. -/
theorem exists_of_looseDate? {text rest : List Char} {d : Date}
    (h : looseDate? text = some (d, rest)) :
    ∃ taken, text = taken ++ rest ∧ ∀ c ∈ taken, isBlank c = true ∨ c.isDigit = true ∨ c = '-' := by
  simp only [looseDate?, Option.bind_eq_bind, Option.bind_eq_some_iff, Prod.exists,
    exactChar?_eq_some_iff, Option.some.injEq, Prod.mk.injEq] at h
  obtain ⟨_, _, hyear, _, rfl, _, _, hmonth, _, rfl, _, _, hday, _, -, -, rfl⟩ := h
  obtain ⟨ys, rfl, hys⟩ := exists_of_looseDigits? hyear
  obtain ⟨ms, rfl, hms⟩ := exists_of_looseDigits? hmonth
  obtain ⟨ds, rfl, hds⟩ := exists_of_looseDigits? hday
  refine ⟨ys ++ '-' :: (ms ++ '-' :: ds), by simp, ?_⟩
  intro c hc
  simp only [List.mem_append, List.mem_cons] at hc
  rcases hc with hc | rfl | hc | rfl | hc
  · exact (hys c hc).imp_right Or.inl
  · exact Or.inr (Or.inr rfl)
  · exact (hms c hc).imp_right Or.inl
  · exact Or.inr (Or.inr rfl)
  · exact (hds c hc).imp_right Or.inl

/-- No character of what looks like a date is a blank. -/
theorem not_isBlank_of_mem_rows {ys ms ds : List Char} (h : ∀ c ∈ ys ++ ms ++ ds, isAnyDigit c = true) :
    ∀ c ∈ ys ++ '-' :: (ms ++ '-' :: ds), isBlank c = false := by
  intro c hc
  simp only [List.mem_append, List.mem_cons] at hc h
  rcases hc with hc | rfl | hc | rfl | hc
  · exact isBlank_of_isAnyDigit (h c (Or.inl (Or.inl hc)))
  · rfl
  · exact isBlank_of_isAnyDigit (h c (Or.inl (Or.inr hc)))
  · rfl
  · exact isBlank_of_isAnyDigit (h c (Or.inr hc))

/-- Ten bytes that are a date are ten ASCII characters: with a digit of another script among them they would
be fewer characters, and free fields would not take that one. -/
theorem dateAhead_of_dayAlone? {text : List Char} {m : Moment} (hlooks : looksLikeDate text = true)
    (h : dayAlone? text = some m) : DateAhead text m.date := by
  simp only [dayAlone?, Option.bind_eq_bind, Option.bind_eq_some_iff, Prod.exists,
    Option.ite_none_right_eq_some, Option.some.injEq, List.isEmpty_iff] at h
  obtain ⟨ten, hten, d, _, hdate, rfl, rfl⟩ := h
  obtain ⟨hahead, hbytes⟩ := of_takeBytes? hten
  obtain ⟨ys, ms, ds, after, rfl, hlengths, hall⟩ := looksLikeDate_iff.mp hlooks
  have hshape : (ys ++ '-' :: (ms ++ '-' :: ds)).length = 10 := by
    simp only [List.length_append, List.length_cons]
    omega
  have hlength : ten.length ≤ 10 := hbytes ▸ length_le_utf8Length ten
  have hinside : ten <+: ys ++ '-' :: (ms ++ '-' :: ds) :=
    List.prefix_of_prefix_length_le hahead ⟨after, by simp⟩ (hshape ▸ hlength)
  -- no character of the ten bytes is a blank, so free fields take digits and hyphens only
  have hascii : ∀ c ∈ ten, c.utf8Size = 1 := by
    intro c hc
    obtain ⟨taken, htaken, hkinds⟩ := exists_of_looseDate? hdate
    rw [List.append_nil] at htaken
    rcases hkinds c (htaken ▸ hc) with hblank | hdigit | rfl
    · rw [not_isBlank_of_mem_rows hall c (hinside.subset hc)] at hblank
      exact absurd hblank Bool.false_ne_true
    · exact utf8Size_of_isDigit hdigit
    · rfl
  have hten : ten = ys ++ '-' :: (ms ++ '-' :: ds) := by
    rw [utf8Length_eq_length hascii] at hbytes
    exact hinside.eq_of_length (hbytes.trans hshape.symm)
  have hlooks' : looksLikeDate ten = true :=
    looksLikeDate_iff.mpr ⟨ys, ms, ds, [], by simpa using hten, hlengths, hall⟩
  have hread := datePrefix?_of_looseDate? hlooks' hdate (by simp)
  obtain ⟨hyear, rfl⟩ := datePrefix?_eq_some_iff.mp hread
  rw [List.append_nil] at hahead
  exact ⟨hyear, hahead⟩

/-! ## Dates that are read -/

/-- A written date is ten characters of one byte each. -/
theorem Date.isoText_bytes {d : Date} (h : 0 ≤ d.year ∧ d.year ≤ 9999) :
    d.isoText.length = 10 ∧ ∀ c ∈ d.isoText, c.utf8Size = 1 := by
  obtain ⟨hyears, hmonths, hdays⟩ := Date.fields_lt h
  have htext := Date.isoText_append h.1 []
  rw [List.append_nil, List.append_nil] at htext
  rw [htext]
  constructor
  · rw [List.length_append, List.length_cons, List.length_append, List.length_cons,
      Text.natPadded_length (by decide) hyears, Text.natPadded_length (by decide) hmonths,
      Text.natPadded_length (by decide) hdays]
  · intro c hc
    simp only [List.mem_append, List.mem_cons] at hc
    rcases hc with hc | rfl | hc | rfl | hc
    · exact utf8Size_of_isDigit (Text.natPadded_isDigit c hc)
    · rfl
    · exact utf8Size_of_isDigit (Text.natPadded_isDigit c hc)
    · rfl
    · exact utf8Size_of_isDigit (Text.natPadded_isDigit c hc)

/-- A date at the front of a text is enough. -/
theorem dayAlone?_of_dateAhead {text : List Char} {d : Date} (h : DateAhead text d) :
    dayAlone? text = some ⟨d, .midnight⟩ := by
  obtain ⟨hyear, after, rfl⟩ := h
  obtain ⟨hlength, hbytes⟩ := Date.isoText_bytes hyear
  have htake := takeBytes?_append hbytes after
  have hdate : looseDate? d.isoText = some (d, []) :=
    looseDate?_of_datePrefix? (datePrefix?_eq_some_iff.mpr ⟨hyear, (List.append_nil _).symm⟩)
  rw [hlength] at htake
  simp [dayAlone?, htake, hdate]

theorem looksLikeDate_of_dateAhead {text : List Char} {d : Date} (h : DateAhead text d) :
    looksLikeDate text = true := by
  obtain ⟨hyear, after, rfl⟩ := h
  obtain ⟨hyears, hmonths, hdays⟩ := Date.fields_lt hyear
  refine looksLikeDate_iff.mpr ⟨_, _, _, after, Date.isoText_append hyear.1 after,
    ⟨Text.natPadded_length (by decide) hyears, Text.natPadded_length (by decide) hmonths,
      Text.natPadded_length (by decide) hdays⟩, ?_⟩
  intro c hc
  simp only [List.mem_append] at hc
  rcases hc with (hc | hc) | hc
  all_goals exact Text.isAnyDigit_of_isDigit (Text.natPadded_isDigit c hc)

theorem DateAhead.unique {text : List Char} {d e : Date} (hd : DateAhead text d) (he : DateAhead text e) :
    d = e := by
  obtain ⟨rest, hread⟩ := dateAhead_iff.mp hd
  obtain ⟨rest', hread'⟩ := dateAhead_iff.mp he
  exact (Prod.mk.inj (Option.some.inj (hread.symm.trans hread'))).1

/-- **Every way to read a text takes the date that it begins with.** -/
theorem dateAhead_of_mem_readings {text : List Char} {m : Moment}
    {read : List Char → Option Moment} (hread : read ∈ readings) (hlooks : looksLikeDate text = true)
    (h : read text = some m) : DateAhead text m.date := by
  have hT : ∀ {clock? : List Char → Option Clock} (c : Char) (cs : List Char), ForeignDigit c →
      (exactChar? 'T' (c :: cs)).bind clock? = none := by
    intro clock? c cs hc
    rw [exactChar?_foreign hc (by decide)]
    rfl
  have hblanks : ∀ (c : Char) (cs : List Char), ForeignDigit c →
      looseClock? (skipBlanks (c :: cs)) = none := by
    intro c cs hc
    rw [skipBlanks_cons (isBlank_of_isAnyDigit hc.1), looseClock?_foreign hc]
  simp only [readings, List.mem_cons, List.not_mem_nil, or_false] at hread
  rcases hread with rfl | rfl | rfl | rfl | rfl
  · simp only [momentWithOffset?, Option.bind_eq_bind, Option.bind_eq_some_iff, Prod.exists,
      Option.some.injEq] at h
    obtain ⟨d, rest, hdate, clock, -, rfl⟩ := h
    exact dateAhead_iff.mpr ⟨rest, hdate⟩
  · exact dateAhead_of_looseMoment? hT hlooks h
  · exact dateAhead_of_looseMoment? hblanks hlooks h
  · exact dateAhead_of_looseMoment? hT hlooks h
  · exact dateAhead_of_dayAlone? hlooks h

/-- **The date at the front of a text decides how it is read.** A text is read as a moment of a date exactly
if it begins, blanks aside, with this date as `YYYY-MM-DD` in ASCII digits, whatever follows the ten
characters and whichever way to read it comes first to an end. -/
theorem date_parseDateLike? (text : List Char) (d : Date) :
    (parseDateLike? text).map Moment.date = some d ↔ DateAhead (Text.trim text) d := by
  rw [parseDateLike?]
  constructor
  · intro h
    obtain ⟨m, hm, rfl⟩ := Option.map_eq_some_iff.mp h
    rw [Option.ite_none_right_eq_some] at hm
    obtain ⟨hlooks, hfound⟩ := hm
    obtain ⟨read, hmem, hread⟩ := List.exists_of_findSome?_eq_some hfound
    exact dateAhead_of_mem_readings hmem hlooks hread
  · intro h
    have hlooks := looksLikeDate_of_dateAhead h
    -- the date alone can be read, so the first way that succeeds exists
    have hsome : (readings.findSome? fun read => read (Text.trim text)).isSome :=
      List.findSome?_isSome_iff.mpr
        ⟨dayAlone?, by simp [readings], by rw [dayAlone?_of_dateAhead h]; rfl⟩
    obtain ⟨m, hm⟩ := Option.isSome_iff_exists.mp hsome
    obtain ⟨read, hmem, hread⟩ := List.exists_of_findSome?_eq_some hm
    rw [if_pos hlooks, hm, Option.map_some, (dateAhead_of_mem_readings hmem hlooks hread).unique h]

/-- With an Arabic digit three in the day a text looks like a date and is none. -/
example : looksLikeDate ("2024-02-1".toList ++ [Char.ofNat 0x663]) = true ∧
    parseDateLike? ("2024-02-1".toList ++ [Char.ofNat 0x663]) = none := by decide +kernel

end QueryDesk
