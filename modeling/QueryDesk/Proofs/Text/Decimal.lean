import QueryDesk.Number.Power
import QueryDesk.Proofs.Lists
import QueryDesk.Text.DecimalDigit

/-! # Decimal numerals

A natural number is read back from its decimal text (`digitsValue_natText`), and that text is a row of
digits without a leading zero. `readUnsigned?_eq_some_iff` says which texts are read as numbers with a
bound, and `readUnsigned?_natText` is the round trip for them; `spanDigits_append` finds the end of a row
of digits in a longer text. Rows of digits of one length correspond to the numbers that they stand for
(`natPadded_digitsValue`), and to cut digits off is to divide by a power of ten (`digitsValue_take`).
-/

set_option autoImplicit false

namespace QueryDesk.Text

/-! ## The digits of a number -/

theorem natText_ne_nil (n : Nat) : natText n ≠ [] := Nat.toDigits_ne_nil

theorem isDigit_of_mem_natText {n : Nat} {c : Char} (hc : c ∈ natText n) : c.isDigit = true :=
  Nat.isDigit_of_mem_toDigits (by decide) (by decide) hc

theorem natText_all_isDigit (n : Nat) : (natText n).all Char.isDigit = true :=
  List.all_eq_true.mpr fun _ hc => isDigit_of_mem_natText hc

theorem natText_of_lt_ten {n : Nat} (h : n < 10) : natText n = [n.digitChar] :=
  Nat.toDigits_of_lt_base h

theorem natText_of_ten_le {n : Nat} (h : 10 ≤ n) :
    natText n = natText (n / 10) ++ [(n % 10).digitChar] :=
  Nat.toDigits_of_base_le (by decide) h

/-- **A number is read back from its text.** -/
theorem digitsValue_natText (n : Nat) : digitsValue (natText n) = n :=
  Nat.ofDigitChars_ten_toDigits

/-- The text of a positive number begins with another digit than zero. -/
theorem head?_natText_ne_zero {n : Nat} (hn : 0 < n) : (natText n).head? ≠ some '0' := by
  induction n using Nat.strongRecOn with
  | ind n ih =>
      by_cases h : n < 10
      · rw [natText_of_lt_ten h]
        have hall : ∀ d < 10, 0 < d → [Nat.digitChar d].head? ≠ some '0' := by decide
        exact hall n h hn
      · have hle : 10 ≤ n := Nat.le_of_not_lt h
        obtain ⟨c, hc⟩ := Option.isSome_iff_exists.mp (List.isSome_head?.mpr (natText_ne_nil (n / 10)))
        rw [natText_of_ten_le hle, List.head?_append, hc, Option.some_or, ← hc]
        exact ih (n / 10) (Nat.div_lt_self hn (by decide)) (Nat.div_pos hle (by decide))

/-- Only zero itself is written with a zero in front. -/
theorem natText_length_of_head?_zero {n : Nat} (h : (natText n).head? = some '0') :
    (natText n).length = 1 := by
  rcases Nat.eq_zero_or_pos n with rfl | hn
  · rfl
  · exact absurd h (head?_natText_ne_zero hn)

/-! ## How many digits a number has -/

theorem lt_tenTo_digitCount (n : Nat) : n < tenTo (digitCount n) := by
  have hpos : 0 < digitCount n := List.length_pos_iff.mpr (natText_ne_nil n)
  exact (Nat.length_toDigits_le_iff (by decide) hpos).mp (Nat.le_refl _)

theorem tenTo_le_of_lt_digitCount {n k : Nat} (hn : 0 < n) (h : k < digitCount n) : tenTo k ≤ n := by
  rcases Nat.eq_zero_or_pos k with rfl | hk
  · exact hn
  · exact Nat.le_of_not_lt fun hlt => Nat.not_le_of_lt h ((Nat.length_toDigits_le_iff (by decide) hk).mpr hlt)

/-! ## Rows of digits in a text -/

/-- A text that does not go on with a digit. -/
def NoDigitAhead (cs : List Char) : Prop := ∀ c, cs.head? = some c → c.isDigit = false

theorem spanDigits_append {digits rest : List Char} (hd : digits.all Char.isDigit = true)
    (hr : NoDigitAhead rest) : spanDigits (digits ++ rest) = (digits, rest) := by
  obtain ⟨htake, hdrop⟩ := takeWhile_dropWhile_append (List.all_eq_true.mp hd) hr
  rw [spanDigits, htake, hdrop]

theorem spanDigits_eq_self {digits : List Char} (h : digits.all Char.isDigit = true) :
    spanDigits digits = (digits, []) := by
  have hspan := @spanDigits_append digits [] h (fun _ hc => absurd hc (by simp))
  rwa [List.append_nil] at hspan

/-- The digits read so far never count for more than all of them. -/
theorem le_digitsValueFrom (n : Nat) (cs : List Char) : n ≤ digitsValueFrom n cs := by
  induction cs generalizing n with
  | nil => exact Nat.le_refl n
  | cons c cs ih =>
      have h := ih (10 * n + digitValue c)
      show n ≤ digitsValueFrom (10 * n + digitValue c) cs
      omega

/-! ## Numbers with a bound -/

/-- **A numeral**: one or more digits that stand for a number. -/
structure IsNumeral (digits : List Char) (n : Nat) : Prop where
  ne_nil : digits ≠ []
  isDigit : ∀ c ∈ digits, c.isDigit = true
  value : digitsValue digits = n

theorem isNumeral_natText (n : Nat) : IsNumeral (natText n) n where
  ne_nil := natText_ne_nil n
  isDigit _ := isDigit_of_mem_natText
  value := digitsValue_natText n

/-- **What is read as a number below a bound**: a numeral, with or without a plus sign in front. -/
def IsUnsigned (bound : Nat) (cs : List Char) (n : Nat) : Prop :=
  n < bound ∧ ∃ digits, (cs = digits ∨ cs = '+' :: digits) ∧ IsNumeral digits n

theorem not_isNumeral_plus {digits : List Char} {n : Nat} : ¬IsNumeral ('+' :: digits) n :=
  fun h => absurd (h.isDigit '+' List.mem_cons_self) (by decide)

/-- **Just the numerals are read**, and as the numbers that they stand for. -/
theorem readUnsigned?_eq_some_iff {bound n : Nat} {cs : List Char} :
    readUnsigned? bound cs = some n ↔ IsUnsigned bound cs n := by
  -- what is read of the digits, once it is known whether there is a plus sign
  have hdigits : ∀ digits : List Char,
      (if digits.isEmpty || !digits.all Char.isDigit then none
        else if digitsValue digits < bound then some (digitsValue digits) else none) = some n ↔
      n < bound ∧ IsNumeral digits n := by
    intro digits
    simp only [Option.ite_none_left_eq_some, Option.ite_none_right_eq_some, Option.some.injEq, Bool.or_eq_true,
      List.isEmpty_iff, Bool.not_eq_true', not_or, Bool.not_eq_false, List.all_eq_true]
    constructor
    · rintro ⟨⟨hne, hall⟩, hlt, rfl⟩
      exact ⟨hlt, hne, hall, rfl⟩
    · rintro ⟨hlt, hne, hall, rfl⟩
      exact ⟨⟨hne, hall⟩, hlt, rfl⟩
  unfold readUnsigned?
  split
  next rest =>
      rw [hdigits]
      refine and_congr_right fun _ => ⟨fun h => ⟨rest, Or.inr rfl, h⟩, ?_⟩
      rintro ⟨digits, rfl | heq, h⟩
      · exact absurd h not_isNumeral_plus
      · exact (List.cons.inj heq).2 ▸ h
  next hplus =>
      rw [hdigits]
      refine and_congr_right fun _ => ⟨fun h => ⟨cs, Or.inl rfl, h⟩, ?_⟩
      rintro ⟨digits, rfl | heq, h⟩
      · exact h
      · exact absurd heq (hplus digits)

/-- **A number below the bound is read back from its text.** -/
theorem readUnsigned?_natText {bound n : Nat} (h : n < bound) : readUnsigned? bound (natText n) = some n :=
  readUnsigned?_eq_some_iff.mpr ⟨h, natText n, Or.inl rfl, isNumeral_natText n⟩

theorem readUnsigned?_lt {bound n : Nat} {cs : List Char} (h : readUnsigned? bound cs = some n) : n < bound :=
  (readUnsigned?_eq_some_iff.mp h).1

/-! ## Rows of digits of one length -/

theorem isDigit_iff {c : Char} : c.isDigit = true ↔ 48 ≤ c.toNat ∧ c.toNat ≤ 57 := by
  simp only [Char.isDigit, Bool.and_eq_true, decide_eq_true_eq, ge_iff_le, UInt32.le_iff_toNat_le]
  rfl

theorem digitValue_lt {c : Char} (h : c.isDigit = true) : digitValue c < 10 := by
  have := isDigit_iff.mp h
  rw [digitValue]
  omega

theorem digitsValueFrom_lt (n : Nat) {cs : List Char} (h : ∀ c ∈ cs, c.isDigit = true) :
    digitsValueFrom n cs < (n + 1) * tenTo cs.length := by
  induction cs generalizing n with
  | nil =>
      show n < (n + 1) * 1
      omega
  | cons c cs ih =>
      rw [List.forall_mem_cons] at h
      have hvalue := digitValue_lt h.1
      calc digitsValueFrom (10 * n + digitValue c) cs
          < (10 * n + digitValue c + 1) * tenTo cs.length := ih _ h.2
        _ ≤ ((n + 1) * 10) * tenTo cs.length := Nat.mul_le_mul_right _ (by omega)
        _ = (n + 1) * tenTo (c :: cs).length := by
            rw [Nat.mul_assoc, Nat.mul_comm 10]
            rfl

theorem digitsValue_lt {cs : List Char} (h : ∀ c ∈ cs, c.isDigit = true) :
    digitsValue cs < tenTo cs.length := by
  have := digitsValueFrom_lt 0 h
  rwa [Nat.zero_add, Nat.one_mul] at this

/-- Rows of digits of one length that are worth the same are the same, whatever stands before them. -/
theorem digitsValueFrom_injective {n m : Nat} {cs ds : List Char} (hlength : cs.length = ds.length)
    (hcs : ∀ c ∈ cs, c.isDigit = true) (hds : ∀ d ∈ ds, d.isDigit = true)
    (h : digitsValueFrom n cs = digitsValueFrom m ds) : n = m ∧ cs = ds := by
  induction cs generalizing n m ds with
  | nil =>
      obtain rfl := List.eq_nil_of_length_eq_zero hlength.symm
      exact ⟨h, rfl⟩
  | cons c cs ih =>
      obtain ⟨d, ds, rfl⟩ := List.exists_cons_of_length_eq_add_one hlength.symm
      rw [List.forall_mem_cons] at hcs hds
      obtain ⟨hstart, rfl⟩ := ih (Nat.succ.inj hlength) hcs.2 hds.2 h
      have hc := isDigit_iff.mp hcs.1
      have hd := isDigit_iff.mp hds.1
      simp only [digitValue] at hstart
      have hchar : c = d := Char.toNat_inj.mp (by omega)
      exact ⟨by omega, by rw [hchar]⟩

/-- Digits read before a row count for their number with the row's length of zeros behind. -/
theorem digitsValueFrom_eq (n : Nat) (cs : List Char) :
    digitsValueFrom n cs = n * tenTo cs.length + digitsValue cs := by
  induction cs generalizing n with
  | nil => exact (Nat.mul_one n).symm
  | cons c cs ih =>
      have hten : tenTo (c :: cs).length = 10 * tenTo cs.length := Nat.mul_comm _ _
      have hfirst : digitsValue (c :: cs) = digitValue c * tenTo cs.length + digitsValue cs := by
        show digitsValueFrom (10 * 0 + digitValue c) cs = _
        rw [Nat.mul_zero, Nat.zero_add, ih]
      calc digitsValueFrom n (c :: cs)
          = (10 * n + digitValue c) * tenTo cs.length + digitsValue cs := ih _
        _ = n * (10 * tenTo cs.length) + (digitValue c * tenTo cs.length + digitsValue cs) := by
            rw [Nat.add_mul, Nat.add_assoc, Nat.mul_comm 10 n, Nat.mul_assoc]
        _ = n * tenTo (c :: cs).length + digitsValue (c :: cs) := by rw [hten, hfirst]

/-- A row of digits behind another one adds its length of zeros to it, and its value. -/
theorem digitsValue_append (cs ds : List Char) :
    digitsValue (cs ++ ds) = digitsValue cs * tenTo ds.length + digitsValue ds := by
  have hsplit : digitsValue (cs ++ ds) = digitsValueFrom (digitsValue cs) ds := List.foldl_append
  rw [hsplit, digitsValueFrom_eq]

/-- **Cutting digits off divides**: the first digits of a row are the quotient by the power of ten for the
others. -/
theorem digitsValue_take {cs : List Char} (h : ∀ c ∈ cs, c.isDigit = true) (count : Nat) :
    digitsValue (cs.take count) = digitsValue cs / tenTo (cs.length - count) := by
  have hcut : digitsValue (cs.drop count) < tenTo (cs.length - count) := by
    rw [← List.length_drop]
    exact digitsValue_lt fun c hc => h c (List.mem_of_mem_drop hc)
  have hsplit : digitsValue cs =
      tenTo (cs.length - count) * digitsValue (cs.take count) + digitsValue (cs.drop count) := by
    calc digitsValue cs
        = digitsValue (cs.take count ++ cs.drop count) := by rw [List.take_append_drop]
      _ = tenTo (cs.length - count) * digitsValue (cs.take count) + digitsValue (cs.drop count) := by
          rw [digitsValue_append, List.length_drop, Nat.mul_comm]
  rw [hsplit, Nat.mul_add_div (tenTo_pos _), Nat.div_eq_of_lt hcut, Nat.add_zero]

theorem natPadded_isDigit {width n : Nat} : ∀ c ∈ natPadded width n, c.isDigit = true := by
  intro c hc
  rw [natPadded, List.leftpad, List.mem_append] at hc
  rcases hc with hc | hc
  · rw [(List.mem_replicate.mp hc).2]
    rfl
  · exact isDigit_of_mem_natText hc

theorem natPadded_length {width n : Nat} (hw : 0 < width) (h : n < tenTo width) :
    (natPadded width n).length = width := by
  have hle : (natText n).length ≤ width := (Nat.length_toDigits_le_iff (by decide) hw).mpr h
  rw [natPadded, List.length_leftpad]
  omega

theorem digitsValueFrom_zeros (count : Nat) (cs : List Char) :
    digitsValueFrom 0 (List.replicate count '0' ++ cs) = digitsValueFrom 0 cs := by
  induction count with
  | zero => rfl
  | succ count ih => exact ih

/-- **Zeros in front do not change what a number is read as.** -/
theorem digitsValue_natPadded (width n : Nat) : digitsValue (natPadded width n) = n := by
  rw [natPadded, List.leftpad, digitsValue, digitsValueFrom_zeros]
  exact digitsValue_natText n

/-- **A row of digits is the number that it stands for, with zeros in front.** -/
theorem natPadded_digitsValue {width : Nat} {cs : List Char} (hw : 0 < width)
    (hlength : cs.length = width) (h : ∀ c ∈ cs, c.isDigit = true) :
    natPadded width (digitsValue cs) = cs := by
  have hpadded := natPadded_length hw (hlength ▸ digitsValue_lt h)
  have hvalue := digitsValue_natPadded width (digitsValue cs)
  exact (digitsValueFrom_injective (hpadded.trans hlength.symm) natPadded_isDigit h hvalue).2

end QueryDesk.Text
