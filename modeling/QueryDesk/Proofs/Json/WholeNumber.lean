import QueryDesk.Proofs.Json.FiniteNumbers
import QueryDesk.Proofs.Json.Lexing

/-! # Whole numbers in JSON

The text of a natural number is read as a value, however many digits it has (`parse?_natText`). Only one of 64
bits is read as a natural number, and then as itself (`toNat_of_parse?_natText`): a longer one is a double, or
cannot be held.
-/

set_option autoImplicit false

namespace QueryDesk.Json

/-- Where all digits are kept, what is kept is their value. -/
theorem keepDigits_fst_eq {n : Nat} {cs : List Char} (h : cs.length ≤ (Numeral.keepDigits n cs).2) :
    (Numeral.keepDigits n cs).1 = Text.digitsValueFrom n cs := by
  induction cs generalizing n with
  | nil => rfl
  | cons c cs ih =>
      rw [Numeral.keepDigits] at h ⊢
      split
      · next hfits =>
          rw [if_pos hfits, List.length_cons, Nat.add_le_add_iff_right] at h
          exact ih h
      · next hfits =>
          rw [if_neg hfits] at h
          exact absurd h (Nat.not_succ_le_zero _)

/-- Digits that are read as a natural number spell that number. -/
theorem toNat_of_ofParts?_natural {whole : List Char} {k : UInt64}
    (h : Numeral.ofParts? false whole [] none = some (.natural k)) : k.toNat = Text.digitsValue whole := by
  by_cases hkept : whole.length - (Numeral.keepDigits 0 whole).2 = 0
  · have hvalue := keepDigits_fst_eq (Nat.le_of_sub_eq_zero hkept)
    have hlt : (Numeral.keepDigits 0 whole).1 < UInt64.size := Numeral.keepDigits_lt (by decide) whole
    simp only [Numeral.ofParts?, hkept, List.isEmpty_nil, Option.isNone_none, Bool.and_self, beq_self_eq_true,
      Bool.not_false, if_true, Option.some.injEq, Numeral.natural.injEq] at h
    rw [← h, UInt64.toNat_ofNat_of_lt' hlt, hvalue]
    rfl
  · -- a digit was dropped, so the number is a double
    have hdropped : (whole.length - (Numeral.keepDigits 0 whole).2 == 0) = false := beq_false_of_ne hkept
    simp [Numeral.ofParts?, hdropped] at h

/-- **The text of a natural number is read as a number**, unless that is beyond the doubles. -/
theorem parse?_natText (n : Nat) : parse? (String.ofList (Text.natText n)) =
    some ((Numeral.ofParts? false (Text.natText n) [] none).elim .unheld .number) := by
  have hlex : lex? (Text.natText n) =
      some [.number (Numeral.ofParts? false (Text.natText n) [] none)] := by
    have hscan := scanNumber?_natText false n
    cases htext : Text.natText n with
    | nil => exact absurd htext (Text.natText_ne_nil n)
    | cons c cs =>
        have hc : c.isDigit = true := Text.isDigit_of_mem_natText (htext ▸ List.mem_cons_self)
        have hminus : c ≠ '-' := by
          rintro rfl
          exact absurd hc (by decide)
        rw [htext] at hscan
        refine lex?_of_scan?_nil (isGap_of_inNumeral (inNumeral_of_isDigit hc)) ?_
        rw [scan?_of_inNumeral (inNumeral_of_isDigit hc), if_neg hminus, hscan]
  rw [parse?, String.toList_ofList, hlex, Option.bind_some]
  cases Numeral.ofParts? false (Text.natText n) [] none <;> rfl

/-- **A natural number in a text is read as itself**, where it is read as a natural number at all. -/
theorem toNat_of_parse?_natText {n : Nat} {k : UInt64}
    (h : parse? (String.ofList (Text.natText n)) = some (natural k)) : k.toNat = n := by
  rw [parse?_natText, Option.some.injEq] at h
  cases hparts : Numeral.ofParts? false (Text.natText n) [] none with
  | none =>
      rw [hparts] at h
      simp [natural] at h
  | some m =>
      rw [hparts] at h
      have hm : m = .natural k := Json.number.inj h
      rw [hm] at hparts
      rw [toNat_of_ofParts?_natural hparts, Text.digitsValue_natText]

end QueryDesk.Json
