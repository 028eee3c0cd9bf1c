import Mathlib.Data.List.TakeWhile
import QueryDesk.Json.Token
import QueryDesk.Json.Written
import QueryDesk.Proofs.Number.NumberText

/-! # Numbers in JSON

A number is scanned the same way whatever follows it, as long as that does not go on with the number
(`scan?_append`). So a natural number of 64 bits is read back from its text in front of a comma, a bracket
or a gap (`scan?_natural`), and any other number wherever it is read back by itself.
-/

set_option autoImplicit false

namespace QueryDesk.Json

/-! ## What may follow a number -/

/-- A text that does not go on with a number. -/
def NumeralEnds (cs : List Char) : Prop :=
  ∀ c, cs.head? = some c → c ∉ ['.', 'e', 'E'] ∧ c.isDigit = false

theorem numeralEnds_nil : NumeralEnds [] := by
  intro c hc
  simp at hc

theorem numeralEnds_cons {c : Char} (h : c ∉ ['.', 'e', 'E'] ∧ c.isDigit = false) (cs : List Char) :
    NumeralEnds (c :: cs) := by
  intro d hd
  rw [List.head?_cons, Option.some.injEq] at hd
  exact hd ▸ h

theorem NumeralEnds.noDigitAhead {cs : List Char} (h : NumeralEnds cs) : Text.NoDigitAhead cs :=
  fun c hc => (h c hc).2

theorem spanDigits_append_ends {cs rest : List Char} (h : NumeralEnds rest) :
    Text.spanDigits (cs ++ rest) = ((Text.spanDigits cs).1, (Text.spanDigits cs).2 ++ rest) := by
  have hahead : Text.NoDigitAhead (cs.dropWhile Char.isDigit ++ rest) := by
    intro c hc
    cases hdrop : cs.dropWhile Char.isDigit with
    | nil =>
        rw [hdrop, List.nil_append] at hc
        exact h.noDigitAhead c hc
    | cons d ds =>
        rw [hdrop, List.cons_append, List.head?_cons, Option.some.injEq] at hc
        have hstop := List.head?_dropWhile_not Char.isDigit cs
        rw [hdrop] at hstop
        exact hc ▸ hstop
  have hdigits : (cs.takeWhile Char.isDigit).all Char.isDigit = true := List.all_takeWhile
  have hspan := Text.spanDigits_append hdigits hahead
  rw [← List.append_assoc, List.takeWhile_append_dropWhile] at hspan
  exact hspan

theorem takeSign_append {cs rest : List Char} (hne : cs ≠ []) :
    takeSign (cs ++ rest) = ((takeSign cs).1, (takeSign cs).2 ++ rest) := by
  cases cs with
  | nil => exact absurd rfl hne
  | cons c cs =>
      unfold takeSign
      split <;> simp_all

theorem scanFraction?_append {cs rest digits left : List Char} (hends : NumeralEnds rest)
    (h : scanFraction? cs = some (digits, left)) :
    scanFraction? (cs ++ rest) = some (digits, left ++ rest) := by
  unfold scanFraction? at h
  split at h
  · next more =>
      rw [Option.ite_none_left_eq_some, Option.some.injEq] at h
      rw [List.cons_append, scanFraction?, spanDigits_append_ends hends, if_neg h.1, h.2]
  · next hpoint =>
      simp only [Option.some.injEq, Prod.mk.injEq] at h
      obtain ⟨rfl, rfl⟩ := h
      -- neither the number nor what follows it begins with a point here
      have hne : ∀ more, cs ++ rest ≠ '.' :: more := by
        intro more heq
        cases cs with
        | nil => exact (hends '.' (by rw [← List.nil_append rest, heq]; rfl)).1 (by decide)
        | cons c cs =>
            rw [List.cons_append] at heq
            exact hpoint cs (by rw [(List.cons.inj heq).1])
      unfold scanFraction?
      split
      · next heq => exact absurd heq (hne _)
      · rfl

theorem scanExponent?_append {cs rest left : List Char} {exponent : Option Int}
    (hends : NumeralEnds rest) (h : scanExponent? cs = some (exponent, left)) :
    scanExponent? (cs ++ rest) = some (exponent, left ++ rest) := by
  cases cs with
  | nil =>
      simp only [scanExponent?, Option.some.injEq, Prod.mk.injEq] at h
      obtain ⟨rfl, rfl⟩ := h
      cases rest with
      | nil => rfl
      | cons c rest =>
          -- what follows does not begin with the letter of an exponent
          have hc := (hends c rfl).1
          have hletter : ¬(c == 'e' || c == 'E') = true := by
            intro he
            apply hc
            rcases Bool.or_eq_true_iff.mp he with he | he <;> simp [eq_of_beq he]
          rw [List.nil_append, scanExponent?, if_neg hletter]
  | cons c cs =>
      by_cases hletter : (c == 'e' || c == 'E') = true
      · -- a sign is looked for in what follows only if nothing comes after the letter, which is refused
        simp only [scanExponent?, hletter, if_true, Option.ite_none_left_eq_some, Option.some.injEq,
          Prod.mk.injEq] at h
        obtain ⟨hsome, rfl, rfl⟩ := h
        have hne : cs ≠ [] := by
          rintro rfl
          exact hsome rfl
        simp only [List.cons_append, scanExponent?, hletter, if_true, takeSign_append hne,
          spanDigits_append_ends hends, if_neg hsome]
      · simp only [scanExponent?, hletter, Bool.false_eq_true, if_false, Option.some.injEq,
          Prod.mk.injEq] at h
        obtain ⟨rfl, rfl⟩ := h
        rw [List.cons_append, scanExponent?, if_neg hletter]

theorem scanNumber?_append {negative : Bool} {cs rest left : List Char} {t : Token}
    (hends : NumeralEnds rest) (h : scanNumber? negative cs = some (t, left)) :
    scanNumber? negative (cs ++ rest) = some (t, left ++ rest) := by
  simp only [scanNumber?, Option.ite_none_left_eq_some, Option.bind_eq_bind, Option.bind_eq_some_iff,
    Option.some.injEq, Prod.exists, Prod.mk.injEq] at h
  obtain ⟨hwhole, fraction, left₁, hfraction, exponent, left₂, hexponent, rfl, rfl⟩ := h
  simp only [scanNumber?, spanDigits_append_ends hends, if_neg hwhole,
    scanFraction?_append hends hfraction, scanExponent?_append hends hexponent, Option.bind_eq_bind,
    Option.bind_some]

/-! ## Tokens that are numbers -/

/-- A text that begins like a number is scanned as one. -/
theorem scan?_of_inNumeral {c : Char} (hc : inNumeral c = true) (cs : List Char) :
    Token.scan? (c :: cs) = if c = '-' then scanNumber? true cs else scanNumber? false (c :: cs) := by
  unfold Token.scan?
  split <;> try (next heq => obtain ⟨rfl, -⟩ := List.cons.inj heq; exact absurd hc (by decide))
  · next heq => exact absurd heq (List.cons_ne_nil c cs)
  · next heq =>
      obtain ⟨rfl, rfl⟩ := List.cons.inj heq
      rw [if_pos rfl]
  · next hminus =>
      rw [if_neg]
      rintro rfl
      exact hminus cs rfl

/-- **A number is scanned the same way whatever follows it.** -/
theorem scan?_append {c : Char} {cs rest left : List Char} {t : Token} (hc : inNumeral c = true)
    (hends : NumeralEnds rest) (h : Token.scan? (c :: cs) = some (t, left)) :
    Token.scan? (c :: cs ++ rest) = some (t, left ++ rest) := by
  rw [scan?_of_inNumeral hc] at h
  rw [List.cons_append, scan?_of_inNumeral hc]
  split at h
  · next hminus =>
      rw [if_pos hminus]
      exact scanNumber?_append hends h
  · next hminus =>
      rw [if_neg hminus, ← List.cons_append]
      exact scanNumber?_append hends h

/-! ## Whole numbers -/

theorem keepDigits_of_fits {n : Nat} {cs : List Char}
    (h : Numeral.fits (Text.digitsValueFrom n cs) = true) :
    Numeral.keepDigits n cs = (Text.digitsValueFrom n cs, cs.length) := by
  induction cs generalizing n with
  | nil => rfl
  | cons c cs ih =>
      -- the digits so far count for no more than all of them, which fit
      have hle := Text.le_digitsValueFrom (10 * n + Text.digitValue c) cs
      have hlt : Text.digitsValueFrom (10 * n + Text.digitValue c) cs < UInt64.size :=
        of_decide_eq_true h
      have hfits : Numeral.fits (10 * n + Text.digitValue c) = true :=
        decide_eq_true (Nat.lt_of_le_of_lt hle hlt)
      rw [Numeral.keepDigits, if_pos hfits, ih h]
      rfl

theorem keepDigits_natText (n : UInt64) :
    Numeral.keepDigits 0 (Text.natText n.toNat) = (n.toNat, (Text.natText n.toNat).length) := by
  have hvalue : Text.digitsValueFrom 0 (Text.natText n.toNat) = n.toNat :=
    Text.digitsValue_natText n.toNat
  rw [keepDigits_of_fits, hvalue]
  rw [hvalue]
  exact decide_eq_true n.toNat_lt

theorem scanNumber?_natText (negative : Bool) (n : Nat) :
    scanNumber? negative (Text.natText n) =
      some (.number (Numeral.ofParts? negative (Text.natText n) [] none), []) := by
  have hspan : Text.spanDigits (Text.natText n) = (Text.natText n, []) := by
    have h := Text.spanDigits_append (Text.natText_all_isDigit n) numeralEnds_nil.noDigitAhead
    rwa [List.append_nil] at h
  have hwhole : ¬((Text.natText n).isEmpty ||
      ((Text.natText n).head? == some '0' && (Text.natText n).length != 1)) = true := by
    simp only [Bool.or_eq_true, Bool.and_eq_true, List.isEmpty_iff, Text.natText_ne_nil, false_or,
      bne_iff_ne, beq_iff_eq, not_and, ne_eq, Decidable.not_not]
    exact Text.natText_length_of_head?_zero
  simp only [scanNumber?, hspan, if_neg hwhole, scanFraction?, scanExponent?, Option.bind_eq_bind,
    Option.bind_some]

/-- **A natural number of 64 bits is read back from its digits.** -/
theorem scan?_natural (n : UInt64) :
    Token.scan? (Text.natText n.toNat) = some (.number (some (.natural n)), []) := by
  have hparts : Numeral.ofParts? false (Text.natText n.toNat) [] none = some (.natural n) := by
    simp [Numeral.ofParts?, keepDigits_natText]
  cases htext : Text.natText n.toNat with
  | nil => exact absurd htext (Text.natText_ne_nil _)
  | cons c cs =>
      have hc : c.isDigit = true :=
        Text.isDigit_of_mem_natText (htext ▸ List.mem_cons_self)
      have hminus : c ≠ '-' := by
        rintro rfl
        exact absurd hc (by decide)
      rw [scan?_of_inNumeral (inNumeral_of_isDigit hc), if_neg hminus, ← htext, scanNumber?_natText,
        hparts]

/-! ## Numbers with a point or an exponent -/

theorem scanFraction?_eq_nil {cs left : List Char} (h : scanFraction? cs = some ([], left)) :
    left = cs := by
  unfold scanFraction? at h
  split at h
  · simp only [Option.ite_none_left_eq_some, Option.some.injEq] at h
    obtain ⟨hsome, hspan⟩ := h
    rw [hspan] at hsome
    exact absurd rfl hsome
  · simp only [Option.some.injEq, Prod.mk.injEq] at h
    exact h.2.symm

theorem scanExponent?_eq_none {cs left : List Char} (h : scanExponent? cs = some (none, left)) :
    left = cs := by
  unfold scanExponent? at h
  split at h
  · simp only [Option.some.injEq, Prod.mk.injEq] at h
    exact h.2.symm
  · split at h
    · simp at h
    · simp only [Option.some.injEq, Prod.mk.injEq] at h
      exact h.2.symm

theorem ofParts?_eq_double {negative : Bool} {whole fraction : List Char} {exponent : Option Int}
    {n : Numeral} (hparts : fraction ≠ [] ∨ exponent ≠ none)
    (h : Numeral.ofParts? negative whole fraction exponent = some n) : ∃ x, n = .double x := by
  have hnot : (fraction.isEmpty && exponent.isNone) = false := by
    rw [Bool.and_eq_false_iff, List.isEmpty_eq_false_iff, Option.isNone_eq_false_iff,
      Option.isSome_iff_ne_none]
    exact hparts
  simp only [Numeral.ofParts?, hnot, Bool.false_and, Bool.false_eq_true, if_false,
    Option.map_eq_some_iff] at h
  obtain ⟨x, -, rfl⟩ := h
  exact ⟨x, rfl⟩

/-- A number that takes a point or an exponent with it is a double. -/
theorem scanNumber?_eq_double {negative : Bool} {cs : List Char} {n : Numeral}
    (hcs : '.' ∈ cs ∨ 'e' ∈ cs) (h : scanNumber? negative cs = some (.number (some n), [])) :
    ∃ x, n = .double x := by
  simp only [scanNumber?, Option.ite_none_left_eq_some, Option.bind_eq_bind, Option.bind_eq_some_iff,
    Option.some.injEq, Prod.exists, Prod.mk.injEq, Token.number.injEq] at h
  obtain ⟨-, fraction, left, hfraction, exponent, _, hexponent, hparts, rfl⟩ := h
  refine ofParts?_eq_double ?_ hparts
  by_contra hnone
  simp only [not_or, ne_eq, Decidable.not_not] at hnone
  obtain ⟨rfl, rfl⟩ := hnone
  -- then the digits of the whole part are the whole text
  have hleft : (Text.spanDigits cs).2 = [] := by
    rw [← scanFraction?_eq_nil hfraction, ← scanExponent?_eq_none hexponent]
  have hdigits : ∀ c ∈ cs, c.isDigit = true := List.dropWhile_eq_nil_iff.mp hleft
  rcases hcs with hcs | hcs <;> exact absurd (hdigits _ hcs) (by decide)

theorem scan?_eq_double {c : Char} {cs : List Char} {n : Numeral} (hc : inNumeral c = true)
    (hmark : '.' ∈ c :: cs ∨ 'e' ∈ c :: cs) (h : Token.scan? (c :: cs) = some (.number (some n), [])) :
    ∃ x, n = .double x := by
  rw [scan?_of_inNumeral hc] at h
  split at h
  · next hminus =>
      refine scanNumber?_eq_double ?_ h
      have hpoint : ('.' : Char) ≠ c := hminus ▸ by decide
      have hletter : 'e' ≠ c := hminus ▸ by decide
      exact hmark.imp (List.mem_of_ne_of_mem hpoint) (List.mem_of_ne_of_mem hletter)
  · exact scanNumber?_eq_double hmark h

/-! ## What is left is the end of the text -/

theorem takeSign_suffix (cs : List Char) : (takeSign cs).2 <:+ cs := by
  unfold takeSign
  split
  · exact List.suffix_cons _ _
  · exact List.suffix_cons _ _
  · exact List.suffix_refl _

theorem scanFraction?_suffix {cs digits left : List Char} (h : scanFraction? cs = some (digits, left)) :
    left <:+ cs := by
  unfold scanFraction? at h
  split at h
  · next more =>
      simp only [Option.ite_none_left_eq_some, Option.some.injEq] at h
      have hleft : (Text.spanDigits more).2 = left := congrArg Prod.snd h.2
      rw [← hleft]
      exact (List.dropWhile_suffix _).trans (List.suffix_cons _ _)
  · simp only [Option.some.injEq, Prod.mk.injEq] at h
    exact h.2 ▸ List.suffix_refl _

theorem scanExponent?_suffix {cs left : List Char} {exponent : Option Int}
    (h : scanExponent? cs = some (exponent, left)) : left <:+ cs := by
  unfold scanExponent? at h
  split at h
  · simp only [Option.some.injEq, Prod.mk.injEq] at h
    exact h.2 ▸ List.suffix_refl _
  · next c more =>
      split at h
      · simp only [Option.ite_none_left_eq_some, Option.some.injEq, Prod.mk.injEq] at h
        rw [← h.2.2]
        exact ((List.dropWhile_suffix _).trans (takeSign_suffix more)).trans (List.suffix_cons _ _)
      · simp only [Option.some.injEq, Prod.mk.injEq] at h
        exact h.2 ▸ List.suffix_refl _

theorem scanNumber?_suffix {negative : Bool} {cs left : List Char} {t : Token}
    (h : scanNumber? negative cs = some (t, left)) : left <:+ cs := by
  simp only [scanNumber?, Option.ite_none_left_eq_some, Option.bind_eq_bind, Option.bind_eq_some_iff,
    Option.some.injEq, Prod.exists, Prod.mk.injEq] at h
  obtain ⟨-, _, _, hfraction, _, _, hexponent, -, rfl⟩ := h
  exact ((scanExponent?_suffix hexponent).trans (scanFraction?_suffix hfraction)).trans
    (List.dropWhile_suffix _)

/-- A text that begins like a number is a number token and an end of the text, or no token at all. -/
theorem scan?_eq_some {c : Char} {cs left : List Char} {t : Token} (hc : inNumeral c = true)
    (h : Token.scan? (c :: cs) = some (t, left)) : (∃ n?, t = .number n?) ∧ left <:+ c :: cs := by
  have hnumber : ∀ {negative : Bool} {cs : List Char}, scanNumber? negative cs = some (t, left) →
      ∃ n?, t = .number n? := by
    intro negative cs h
    simp only [scanNumber?, Option.ite_none_left_eq_some, Option.bind_eq_bind,
      Option.bind_eq_some_iff, Option.some.injEq, Prod.exists, Prod.mk.injEq] at h
    obtain ⟨-, _, _, -, _, _, -, ht, -⟩ := h
    exact ⟨_, ht.symm⟩
  rw [scan?_of_inNumeral hc] at h
  split at h
  · exact ⟨hnumber h, (scanNumber?_suffix h).trans (List.suffix_cons _ _)⟩
  · exact ⟨hnumber h, scanNumber?_suffix h⟩

end QueryDesk.Json
