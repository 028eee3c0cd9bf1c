import QueryDesk.Json.Reading
import QueryDesk.Json.Record
import QueryDesk.Proofs.Json.Leaves
import QueryDesk.Proofs.Json.Numeral
import QueryDesk.Proofs.Json.Quoted

/-! # Scanning a text token by token

`lex?_cons` takes the first token off a text. A number that is scanned back from its own text is scanned
back whatever follows it (`Numeral.ScansBack.scan?`), and for a double that is the same as being read back
when it is all there is (`Double.readsBack_iff_scansBack`).
-/

set_option autoImplicit false

namespace QueryDesk.Json

/-! ## One token at a time -/

theorem lex?_nil : lex? [] = some [] := by
  rw [lex?]
  rfl

/-- A gap in front of a text does not count. -/
theorem lex?_gap {c : Char} (hc : isGap c = true) (cs : List Char) : lex? (c :: cs) = lex? cs := by
  rw [lex?.eq_def (c :: cs), lex?.eq_def cs, List.dropWhile_cons_of_pos hc]

/-- The first token of a text, and then those of the rest. -/
theorem lex?_cons {c : Char} (hc : isGap c = false) (cs : List Char) :
    lex? (c :: cs) =
      (Token.scan? (c :: cs)).bind fun scanned => (lex? scanned.2).map (scanned.1 :: ·) := by
  have hgap : (c :: cs).dropWhile isGap = c :: cs := by
    rw [List.dropWhile_cons_of_neg]
    simp [hc]
  rw [lex?.eq_def]
  split
  · next heq => exact absurd (hgap.symm.trans heq) (List.cons_ne_nil c cs)
  · next d more heq =>
      rw [hgap] at heq
      obtain ⟨rfl, rfl⟩ := List.cons.inj heq
      split
      · next hnone => rw [hnone, Option.bind_none]
      · next t rest hsome => rw [hsome, Option.bind_some]

theorem lex?_of_scan? {c : Char} {cs rest : List Char} {t : Token} (hc : isGap c = false)
    (h : Token.scan? (c :: cs) = some (t, rest)) :
    lex? (c :: cs) = (lex? rest).map (t :: ·) := by
  rw [lex?_cons hc, h, Option.bind_some]

/-- A text of nothing but one token. -/
theorem lex?_of_scan?_nil {c : Char} {cs : List Char} {t : Token} (hc : isGap c = false)
    (h : Token.scan? (c :: cs) = some (t, [])) : lex? (c :: cs) = some [t] := by
  rw [lex?_of_scan? hc h, lex?_nil]
  rfl

/-- Of a text of gaps alone there are no tokens, and of no other text. -/
theorem forall_isGap_of_lex?_nil {cs : List Char} (h : lex? cs = some []) :
    ∀ c ∈ cs, isGap c = true := by
  rw [lex?.eq_def] at h
  split at h
  · next hgap => exact List.dropWhile_eq_nil_iff.mp hgap
  · split at h
    · simp at h
    · rw [Option.map_eq_some_iff] at h
      obtain ⟨ts, -, hts⟩ := h
      exact absurd hts (List.cons_ne_nil _ _)

theorem isGap_of_inNumeral {c : Char} (h : inNumeral c = true) : isGap c = false := by
  rw [Bool.eq_false_iff]
  intro hgap
  simp only [isGap, Bool.or_eq_true, beq_iff_eq] at hgap
  rcases hgap with ((rfl | rfl) | rfl) | rfl <;> exact absurd h (by decide)

/-- There are no gaps in the text of a number. -/
theorem eq_nil_of_suffix {cs rest : List Char} (hall : ∀ c ∈ cs, inNumeral c = true)
    (hsuffix : rest <:+ cs) (hgap : ∀ c ∈ rest, isGap c = true) : rest = [] := by
  rw [List.eq_nil_iff_forall_not_mem]
  intro c hc
  have hnumeral := isGap_of_inNumeral (hall c (hsuffix.subset hc))
  rw [hgap c hc] at hnumeral
  exact absurd hnumeral (by decide)

/-- The only tokens of a number are one number. -/
theorem eq_nil_of_ofTokens?_number {n? : Option Numeral} {ts : List Token} {v : Json}
    (h : ofTokens? (.number n? :: ts) = some v) : ts = [] ∧ v = n?.elim .unheld .number := by
  have hstart : Reading.step (.value []) (.number n?) = some (.complete (n?.elim .unheld .number)) := by
    cases n? <;> rfl
  rw [ofTokens?, Reading.run, hstart, Option.bind_some] at h
  cases ts with
  | nil =>
      simp only [Reading.run, Option.some.injEq] at h
      exact ⟨rfl, h.symm⟩
  | cons t ts => simp [Reading.run, Reading.step] at h

end QueryDesk.Json

namespace QueryDesk

open Json

/-! ## Numbers that are read back -/

/-- **Whether a double is read back from the text it is written as.** -/
def Double.ReadsBack (x : Double) : Prop :=
  (parse? (Json.double x).toCompact).bind asDouble? = some x

/-- Whether a number is scanned back from the text it is written as. -/
def Numeral.ScansBack (n : Numeral) : Prop :=
  Token.scan? (numeralText n) = some (.number (some n), [])

instance (n : Numeral) : Decidable n.ScansBack := inferInstanceAs (Decidable (_ = _))

namespace Numeral

theorem scansBack_natural (n : UInt64) : ScansBack (.natural n) := scan?_natural n

theorem numeralText_double {x : Double} (hx : x.isFinite = true) :
    numeralText (.double x) = x.text numberStyle :=
  if_pos hx

/-- The text of a number that is scanned back begins like a number. -/
theorem ScansBack.text_eq_cons {n : Numeral} (h : n.ScansBack) :
    ∃ c cs, numeralText n = c :: cs ∧ inNumeral c = true := by
  cases n with
  | natural n =>
      cases htext : Text.natText n.toNat with
      | nil => exact absurd htext (Text.natText_ne_nil _)
      | cons c cs =>
          have hc : c.isDigit = true := Text.isDigit_of_mem_natText (htext ▸ List.mem_cons_self)
          exact ⟨c, cs, htext, inNumeral_of_isDigit hc⟩
  | negative n => exact ⟨'-', Text.natText n.toNat, rfl, by decide⟩
  | double x =>
      by_cases hx : x.isFinite = true
      · rw [numeralText_double hx]
        cases htext : x.text numberStyle with
        | nil =>
            have hmark : '.' ∈ x.text numberStyle ∨ 'e' ∈ x.text numberStyle :=
              Double.text_point_or_exponent rfl hx
            rw [htext] at hmark
            simp at hmark
        | cons c cs => exact ⟨c, cs, rfl, Double.text_all_inNumeral hx c (htext ▸ List.mem_cons_self)⟩
      · -- null is no number
        rw [ScansBack, numeralText, if_neg hx] at h
        exact absurd h (by simp [Token.scan?])

/-- **A number is scanned back whatever follows it.** -/
theorem ScansBack.scan? {n : Numeral} (h : n.ScansBack) {rest : List Char} (hends : NumeralEnds rest) :
    Token.scan? (numeralText n ++ rest) = some (.number (some n), rest) := by
  obtain ⟨c, cs, htext, hc⟩ := h.text_eq_cons
  rw [ScansBack, htext] at h
  rw [htext, scan?_append hc hends h, List.nil_append]

end Numeral

namespace Double

/-- The text of a number that is all there is. -/
theorem toList_toCompact (x : Double) : (Json.double x).toCompact.toList = numeralText (.double x) := by
  rw [toCompact, String.toList_ofList]
  rfl

/-- What is no number or infinite is written as null. -/
theorem ReadsBack.isFinite {x : Double} (h : x.ReadsBack) : x.isFinite = true := by
  by_contra hx
  have hnull : lex? (numeralText (.double x)) = some [.null] := by
    rw [numeralText, if_neg hx]
    exact lex?_of_scan?_nil rfl rfl
  rw [ReadsBack, parse?, toList_toCompact, hnull] at h
  exact absurd h (by simp [ofTokens?, Reading.run, Reading.step, Reading.startValue, Reading.deliver,
    asDouble?])

theorem ReadsBack.scansBack {x : Double} (h : x.ReadsBack) : (Numeral.double x).ScansBack := by
  have hx := h.isFinite
  have hall : ∀ c ∈ x.text numberStyle, inNumeral c = true := text_all_inNumeral hx
  have hmark : '.' ∈ x.text numberStyle ∨ 'e' ∈ x.text numberStyle := text_point_or_exponent rfl hx
  rw [ReadsBack, parse?, toList_toCompact, Numeral.numeralText_double hx] at h
  rw [Numeral.ScansBack, Numeral.numeralText_double hx]
  cases htext : x.text numberStyle with
  | nil =>
      rw [htext] at hmark
      simp at hmark
  | cons c cs =>
      rw [htext] at hall hmark
      have hc : inNumeral c = true := hall c List.mem_cons_self
      rw [htext, lex?_cons (isGap_of_inNumeral hc)] at h
      simp only [Option.bind_eq_some_iff, Option.map_eq_some_iff, Prod.exists] at h
      obtain ⟨v, ⟨_, ⟨t, rest, hscan, ts, hlex, rfl⟩, htokens⟩, hv⟩ := h
      obtain ⟨⟨n?, rfl⟩, hsuffix⟩ := scan?_eq_some hc hscan
      obtain ⟨rfl, rfl⟩ := eq_nil_of_ofTokens?_number htokens
      -- only gaps are left, and there are none in the text of a number
      have hrest := eq_nil_of_suffix hall hsuffix (forall_isGap_of_lex?_nil hlex)
      rw [hrest] at hscan
      cases n? with
      | none => exact absurd hv (by simp [asDouble?])
      | some n =>
          -- a whole number of 64 bits would have been written without a point
          obtain ⟨y, rfl⟩ := scan?_eq_double hc hmark hscan
          have hy : y = x := Option.some.inj hv
          rw [hscan, hy]

theorem readsBack_of_scansBack {x : Double} (h : (Numeral.double x).ScansBack) : x.ReadsBack := by
  obtain ⟨c, cs, htext, hc⟩ := h.text_eq_cons
  rw [Numeral.ScansBack, htext] at h
  rw [ReadsBack, parse?, toList_toCompact, htext, lex?_of_scan?_nil (isGap_of_inNumeral hc) h]
  rfl

/-- **A double is read back exactly when it is scanned back.** -/
theorem readsBack_iff_scansBack {x : Double} : x.ReadsBack ↔ (Numeral.double x).ScansBack :=
  ⟨ReadsBack.scansBack, readsBack_of_scansBack⟩

end Double

end QueryDesk
