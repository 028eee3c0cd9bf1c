import QueryDesk.Proofs.Calendar.Timestamp

/-! # Offsets

`OffsetText` is the grammar of what may follow a time to say how far it is from universal time, and what is
taken for an offset is one (`isOffset_iff`). A timestamp with an offset behind it is read by fixed fields and
one without by free fields; both read what is written, so that an offset changes nothing
(`reading_ignores_offset`).
-/

set_option autoImplicit false

namespace QueryDesk

open Text (isBlank digitsValue exactChar? exactChar?_eq_some_iff exactDigits?_eq_some_iff)

/-! ## Offsets -/

/-- **An offset from universal time as it is written**: the letter for none, or a sign, which may be the
minus sign of typography, with hours and minutes of less than a day. -/
inductive OffsetText : List Char → Prop
  | zulu : OffsetText ['Z']
  | smallZulu : OffsetText ['z']
  | signed {sign : Char} {hours minutes : Nat} (isSign : sign = '+' ∨ sign = '-' ∨ sign = '\u2212')
      (hours_lt : hours < 24) (minutes_lt : minutes < 60) :
      OffsetText (sign :: hourMinuteText hours minutes)

variable {offset : List Char}

theorem offsetText_of_isOffset (h : isOffset offset = true) : OffsetText offset := by
  unfold isOffset at h
  split at h
  · exact .zulu
  · exact .smallZulu
  · next sign cs _ _ =>
      rw [Bool.and_eq_true] at h
      obtain ⟨hsign, h⟩ := h
      have isSign : sign = '+' ∨ sign = '-' ∨ sign = '\u2212' := by
        simp only [Bool.or_eq_true, beq_iff_eq] at hsign
        rcases hsign with (hplus | hhyphen) | hminus
        · exact Or.inl hplus
        · exact Or.inr (Or.inl hhyphen)
        · exact Or.inr (Or.inr (Char.toNat_inj.mp hminus))
      split at h
      · next hours minutes rest hread =>
          simp only [Option.bind_eq_bind, Option.bind_eq_some_iff, Prod.exists, exactDigits?_eq_some_iff,
            exactChar?_eq_some_iff, Option.some.injEq, Prod.mk.injEq] at hread
          obtain ⟨_, _, ⟨hs, rfl, hhs, hhours, rfl⟩, _, rfl, _, _, ⟨ms, rfl, hms, hminutes, rfl⟩, rfl, rfl,
            rfl⟩ := hread
          simp only [Bool.and_eq_true, decide_eq_true_eq, List.isEmpty_iff] at h
          obtain ⟨⟨hours_lt, minutes_lt⟩, rfl⟩ := h
          have htext : hourMinuteText (digitsValue hs) (digitsValue ms) = hs ++ ':' :: ms := by
            rw [hourMinuteText, Text.natPadded_digitsValue (by decide) hhs hhours,
              Text.natPadded_digitsValue (by decide) hms hminutes]
          rw [List.append_nil, ← htext]
          exact .signed isSign hours_lt minutes_lt
      · exact absurd h Bool.false_ne_true
  · exact absurd h Bool.false_ne_true

theorem isOffset_of_offsetText (h : OffsetText offset) : isOffset offset = true := by
  cases h with
  | zulu => rfl
  | smallZulu => rfl
  | @signed sign hours minutes isSign hours_lt minutes_lt =>
      have htwo : tenTo 2 = 100 := rfl
      have hhours : hours < tenTo 2 := by omega
      have hminutes : minutes < tenTo 2 := by omega
      have hlast := exactDigits?_natPadded (by decide) hminutes []
      rw [List.append_nil] at hlast
      rcases isSign with rfl | rfl | rfl
      all_goals
        simp [isOffset, hourMinuteText, exactChar?, exactDigits?_natPadded (by decide) hhours, hlast, hours_lt,
          minutes_lt]

/-- **What is taken for an offset is one.** -/
theorem isOffset_iff : isOffset offset = true ↔ OffsetText offset :=
  ⟨offsetText_of_isOffset, isOffset_of_offsetText⟩

namespace OffsetText

theorem ne_nil (h : OffsetText offset) : offset ≠ [] := by
  cases h <;> exact List.cons_ne_nil _ _

/-- An offset does not go on with a fraction. -/
theorem fractionEnds (h : OffsetText offset) : FractionEnds offset := by
  intro c hc
  cases h with
  | zulu => obtain rfl := Option.some.inj hc; decide
  | smallZulu => obtain rfl := Option.some.inj hc; decide
  | signed isSign =>
      obtain rfl := Option.some.inj hc
      rcases isSign with rfl | rfl | rfl <;> decide

theorem not_isBlank_of_mem (h : OffsetText offset) : ∀ c ∈ offset, isBlank c = false := by
  intro c hc
  cases h with
  | zulu => obtain rfl := List.mem_singleton.mp hc; rfl
  | smallZulu => obtain rfl := List.mem_singleton.mp hc; rfl
  | signed isSign =>
      rcases List.mem_cons.mp hc with rfl | hc
      · rcases isSign with rfl | rfl | rfl <;> decide
      · exact not_isBlank_of_mem_hourMinuteText c hc

end OffsetText

theorem clockBehind_append_offset (w : WrittenTime) {separator : Char}
    (hs : separator = 'T' ∨ separator = ' ') (h : OffsetText offset) :
    clockBehind (separator :: (w.text ++ offset)) = w.clock := by
  have hread := w.clockWithOffset?_text hs h.fractionEnds
  rw [if_pos (isOffset_iff.mpr h)] at hread
  rw [clockBehind, hread, Option.some_or, Option.getD_some]

/-! ## Timestamps with an offset -/

namespace Timestamp

variable (t : Timestamp)

theorem parseDateLike?_text_append_offset (h : OffsetText offset) :
    parseDateLike? (t.text ++ offset) = some t.moment := by
  have hlast : EndsVisibly (t.separator :: (t.time.text ++ offset)) := by
    refine endsVisibly_cons _ (List.append_ne_nil_of_right_ne_nil _ h.ne_nil) ?_
    exact endsVisibly_append (endsVisibly_of_forall t.time.not_isBlank_of_mem_text)
      (endsVisibly_of_forall h.not_isBlank_of_mem)
  rw [text, List.append_assoc, List.cons_append, parseDateLike?_isoText_append t.year_bounds hlast,
    clockBehind_append_offset t.time t.separator_eq h]
  rfl

/-- **An offset never moves the clock.** A timestamp with an offset behind it is read as the date and the time
of day that are written, as it is without the offset: the second 60 is the second 59 and a second more, and a
fraction is cut to nanoseconds. So every pattern renders both in the same way. -/
theorem reading_ignores_offset (h : OffsetText offset) :
    parseDateLike? (t.text ++ offset) = some t.moment ∧ parseDateLike? t.text = some t.moment ∧
      ∀ pattern, reformatDate? (String.ofList (t.text ++ offset)) pattern =
        reformatDate? (String.ofList t.text) pattern := by
  have hwith := t.parseDateLike?_text_append_offset h
  have hwithout := t.parseDateLike?_text
  refine ⟨hwith, hwithout, ?_⟩
  intro pattern
  rw [reformatDate?, reformatDate?, String.toList_ofList, String.toList_ofList, hwith, hwithout]

/-- The tenth digit of the fraction is cut off, and the offset with the minus sign of typography does not
count. -/
theorem reading_of_leapSecond :
    OffsetText "\u221202:30".toList ∧ leapSecond.text = "2015-06-30 21:29:60.1234567895".toList ∧
      leapSecond.moment.clock.second = 59 ∧ leapSecond.moment.clock.nanosecond = 1123456789 ∧
      parseDateLike? (leapSecond.text ++ "\u221202:30".toList) = some leapSecond.moment ∧
      parseDateLike? leapSecond.text = some leapSecond.moment := by
  have hoffset : OffsetText "\u221202:30".toList := isOffset_iff.mp (by decide)
  obtain ⟨hwith, hwithout, -⟩ := leapSecond.reading_ignores_offset hoffset
  exact ⟨hoffset, by decide +kernel, by decide, by decide +kernel, hwith, hwithout⟩

end Timestamp

end QueryDesk
