import QueryDesk.Number.NumberText
import QueryDesk.Number.Reading
import QueryDesk.Proofs.Number.Shortest

/-! # Numbers are read back from plain notation

In a style that writes neither an exponent nor a point behind a whole number, the text of a finite double is read as
that double again (`Double.read?_text`), so different doubles have different texts.
-/

set_option autoImplicit false

namespace QueryDesk

open Text

/-! ## Reading digits -/

/-- The sign in front of a number. -/
def signText (negative : Bool) : List Char := if negative then ['-'] else []

theorem takeSign_signText (negative : Bool) {c : Char} (hc : c.isDigit = true) (rest : List Char) :
    takeSign (signText negative ++ c :: rest) = (negative, c :: rest) := by
  cases negative with
  | true => rfl
  | false =>
      show takeSign (c :: rest) = (false, c :: rest)
      unfold takeSign
      split
      · next heq =>
          rw [(List.cons.inj heq).1] at hc
          exact absurd hc (by decide)
      · next heq =>
          rw [(List.cons.inj heq).1] at hc
          exact absurd hc (by decide)
      · rfl

theorem toLower_of_isDigit {c : Char} (hc : c.isDigit = true) : c.toLower = c := by
  have hle := (isDigit_iff.mp hc).2
  unfold Char.toLower
  refine dif_neg fun hupper => ?_
  have hge : 65 ≤ c.toNat := hupper.1
  omega

/-- What begins with a digit is no word. -/
theorem map_toLower_beq {c : Char} (hc : c.isDigit = true) (rest : List Char) {first : Char} (word : List Char)
    (hfirst : first.isDigit = false) : ((c :: rest).map Char.toLower == first :: word) = false := by
  rw [beq_eq_false_iff_ne]
  intro heq
  rw [List.map_cons, toLower_of_isDigit hc] at heq
  rw [(List.cons.inj heq).1, hfirst] at hc
  exact Bool.false_ne_true hc

namespace Double

/-- **A number is read by its digits** before and behind the point, if there is one. -/
theorem read?_digits (negative : Bool) {whole rest fraction : List Char} (hne : whole ≠ [])
    (hwhole : ∀ c ∈ whole, c.isDigit = true) (hfraction : ∀ c ∈ fraction, c.isDigit = true)
    (hrest : rest = [] ∧ fraction = [] ∨ rest = '.' :: fraction) :
    read? (signText negative ++ (whole ++ rest)) =
      some (.ofDecimal negative (digitsValue (whole ++ fraction)) (-(fraction.length : Int))) := by
  have hahead : NoDigitAhead rest := by
    rcases hrest with ⟨rfl, -⟩ | rfl
    · simp [NoDigitAhead]
    · simp [NoDigitAhead]
  have hspan := spanDigits_append (List.all_eq_true.mpr hwhole) hahead
  have hspan' := spanDigits_eq_self (List.all_eq_true.mpr hfraction)
  obtain ⟨c, more, rfl⟩ := List.exists_cons_of_ne_nil hne
  have hc : c.isDigit = true := hwhole c List.mem_cons_self
  rw [List.cons_append] at hspan ⊢
  unfold read?
  rw [takeSign_signText negative hc]
  dsimp only
  rw [map_toLower_beq hc _ _ (by decide), map_toLower_beq hc _ _ (by decide), map_toLower_beq hc _ _ (by decide),
    hspan]
  rcases hrest with ⟨rfl, rfl⟩ | rfl
  · simp [readExponent?]
  · simp [readExponent?, hspan']

/-- A whole number. -/
theorem read?_whole (negative : Bool) {digits : List Char} (hne : digits ≠ [])
    (h : ∀ c ∈ digits, c.isDigit = true) :
    read? (signText negative ++ digits) = some (.ofDecimal negative (digitsValue digits) 0) := by
  have hread := read?_digits negative hne h (List.forall_mem_nil _) (.inl ⟨rfl, rfl⟩)
  rwa [List.append_nil] at hread

end Double

/-! ## Plain notation -/

theorem digitsValue_zeros_behind (digits : List Char) (count : Nat) :
    digitsValue (digits ++ List.replicate count '0') = digitsValue digits * tenTo count := by
  have hzeros : digitsValue (List.replicate count '0') = 0 := by
    have h := digitsValueFrom_zeros count []
    rwa [List.append_nil] at h
  rw [digitsValue_append, hzeros, List.length_replicate, Nat.add_zero]

namespace Decimal

variable {d : Decimal}

/-- A whole number has its zeros behind the digits. -/
theorem plain_of_whole (h : 0 ≤ d.exponent) :
    d.plain = natText d.digits ++ List.replicate d.exponent.toNat '0' := by
  unfold plain
  rw [if_pos h]

/-- Any other number has a point, with the digits before and behind it in their row. -/
theorem plain_of_fraction (h : d.exponent < 0) :
    ∃ whole fraction, d.plain = whole ++ '.' :: fraction ∧ whole ≠ [] ∧
      whole ++ fraction = natPadded ((-d.exponent).toNat + 1) d.digits ∧ -(fraction.length : Int) = d.exponent := by
  have hlength : (-d.exponent).toNat + 1 ≤ (natPadded ((-d.exponent).toNat + 1) d.digits).length := by
    rw [natPadded, List.length_leftpad]
    exact Nat.le_max_left _ _
  unfold plain
  rw [if_neg (by omega)]
  refine ⟨_, _, rfl, List.ne_nil_of_length_pos ?_, List.take_append_drop _ _, ?_⟩
  · rw [List.length_take]
    simp only [natPadded] at hlength
    omega
  · rw [List.length_drop]
    simp only [natPadded] at hlength
    omega

end Decimal

namespace Double

/-- **A decimal in plain notation is read as the magnitude in whose interval it lies.** -/
theorem read?_plain (negative : Bool) {m : Magnitude} {d : Decimal} (hm : m.significand ≠ 0)
    (h : m.Nearest d.num d.den) : read? (signText negative ++ d.plain) = some (.finite negative m) := by
  by_cases hexponent : 0 ≤ d.exponent
  · have hall : ∀ c ∈ natText d.digits ++ List.replicate d.exponent.toNat '0', c.isDigit = true := by
      intro c hc
      rcases List.mem_append.mp hc with hc | hc
      · exact isDigit_of_mem_natText hc
      · rw [(List.mem_replicate.mp hc).2]
        rfl
    have hvalue : digitsValue (natText d.digits ++ List.replicate d.exponent.toNat '0') = d.num := by
      rw [digitsValue_zeros_behind, digitsValue_natText, Decimal.num]
    -- the digits and the zeros are one whole number, with no exponent left
    have hwhole : m.Nearest (Decimal.mk d.num 0).num (Decimal.mk d.num 0).den := by
      have hnum : (Decimal.mk d.num 0).num = d.num := Nat.mul_one _
      have hden : (Decimal.mk d.num 0).den = d.den := by
        rw [Decimal.den, Decimal.den, Int.toNat_of_nonpos (Int.neg_nonpos_of_nonneg hexponent)]
        rfl
      rwa [hnum, hden]
    have hread := read?_whole negative (List.append_ne_nil_of_left_ne_nil (natText_ne_nil _) _) hall
    rw [Decimal.plain_of_whole hexponent, hread, hvalue, ofDecimal_of_nearest negative hm hwhole]
  · obtain ⟨whole, fraction, hplain, hne, hdigits, hlength⟩ := Decimal.plain_of_fraction (Int.not_le.mp hexponent)
    have hall : ∀ c ∈ whole ++ fraction, c.isDigit = true := hdigits ▸ natPadded_isDigit
    have hread := read?_digits negative hne (fun c hc => hall c (List.mem_append_left _ hc))
      (fun c hc => hall c (List.mem_append_right _ hc)) (.inr rfl)
    rw [hplain, hread, hdigits, digitsValue_natPadded, hlength, ofDecimal_of_nearest negative hm h]

end Double

/-! ## Styles -/

/-- **A style in which every number is written plainly**, and whole numbers without a point. -/
structure NumberStyle.IsPlain (style : NumberStyle) : Prop where
  plainFrom_le : style.plainFrom ≤ -331
  le_plainBelow : 310 ≤ style.plainBelow
  wholePoint : style.wholePoint = false

theorem Decimal.text_eq_plain {style : NumberStyle} (hstyle : style.IsPlain) {d : Decimal} (hlow : -330 ≤ d.place)
    (hhigh : d.place ≤ 310) : d.text style = d.plain := by
  have hfrom := hstyle.plainFrom_le
  have hbelow := hstyle.le_plainBelow
  unfold Decimal.place at hlow hhigh
  unfold Decimal.text
  dsimp only
  have hrange : (decide (style.plainFrom ≤ (digitCount d.digits : Int) - 1 + d.exponent) &&
      decide ((digitCount d.digits : Int) - 1 + d.exponent < style.plainBelow)) = true := by
    rw [Bool.and_eq_true, decide_eq_true_iff, decide_eq_true_iff]
    omega
  rw [if_pos hrange, hstyle.wholePoint, Bool.and_false]
  rfl

/-- The only magnitude without digits is zero. -/
theorem Magnitude.eq_zero_of_significand {m : Magnitude} (h : m.significand = 0) : m = .zero := by
  have hscale : m.scale = 0 := by
    refine m.normal.resolve_right ?_
    rw [h]
    exact Nat.not_le_of_lt (twoTo_pos 52)
  cases m
  simp_all [zero]

/-- **A finite double is read back from its text** in a plain style, with the sign of a zero. -/
theorem Double.read?_text {style : NumberStyle} (hstyle : style.IsPlain) {x : Double} (hx : x.isFinite = true) :
    read? (x.text style) = some x := by
  cases x with
  | nan => exact absurd hx Bool.false_ne_true
  | infinite negative => exact absurd hx Bool.false_ne_true
  | finite negative m =>
      show read? (signText negative ++ m.text style) = some (finite negative m)
      unfold Magnitude.text
      by_cases hm : m.significand = 0
      · have hzero : Decimal.text style ⟨0, 0⟩ = ['0'] :=
          Decimal.text_eq_plain hstyle (by decide) (by decide)
        have hdigit : ∀ c ∈ ['0'], c.isDigit = true := List.forall_mem_singleton.mpr rfl
        rw [if_pos (beq_iff_eq.mpr hm), hzero, read?_whole negative (List.cons_ne_nil _ _) hdigit,
          Magnitude.eq_zero_of_significand hm]
        rfl
      · have hnearest := Magnitude.nearest_shortest style.tie hm
        rw [if_neg (by simpa using hm),
          Decimal.text_eq_plain hstyle (hnearest.le_place hm) (hnearest.place_le hm)]
        exact read?_plain negative hm hnearest

end QueryDesk
