import QueryDesk.Result.Cell
import QueryDesk.Proofs.Number.Order
import QueryDesk.Proofs.Number.ReadBack

/-! # The keys of numbers

A number is read back from its key but for the sign of a zero (`Double.read?_keyText`), so numbers have the same key
where they are equal. A key has two forms: short whole numbers are written in their digits, and every other number in
the style of keys. Each form is read back, so the two never meet in one key.
-/

set_option autoImplicit false

namespace QueryDesk

open Text

theorem keyStyle_isPlain : keyStyle.IsPlain where
  plainFrom_le := by decide
  le_plainBelow := by decide
  wholePoint := rfl

namespace Magnitude

variable {m : Magnitude}

theorem units_of_isWhole (h : m.isWhole = true) : m.units = m.floor * twoTo 1074 :=
  (Nat.div_mul_cancel (Nat.dvd_of_mod_eq_zero (beq_iff_eq.mp h))).symm

/-- A whole magnitude is what its whole part reads as. -/
theorem nearest_floor (h : m.isWhole = true) :
    m.Nearest (Decimal.mk m.floor 0).num (Decimal.mk m.floor 0).den := by
  refine nearest_of_eq (Decimal.mk m.floor 0).den_pos ?_
  have hnum : (Decimal.mk m.floor 0).num = m.floor := Nat.mul_one _
  have hden : (Decimal.mk m.floor 0).den = 1 := rfl
  rw [hnum, hden, Nat.mul_one, units_of_isWhole h, quarter_units, Nat.mul_left_comm]

end Magnitude

namespace Double

/-- Only a zero has a sign to forget. -/
theorem plainZero_of_ne {negative : Bool} {m : Magnitude} (hm : m.significand ≠ 0) :
    (finite negative m).plainZero = finite negative m := by
  rw [plainZero, bne_iff_ne.mpr hm, Bool.and_true]

theorem keyText_zero (negative : Bool) : (zero negative).keyText = ['0'] := by
  cases negative <;> decide +kernel

/-- The key of a number other than zero is its digits behind its sign. -/
theorem keyText_of_short {negative : Bool} {m : Magnitude} (hm : m.significand ≠ 0)
    (hshort : (m.isWhole && m.floor < tenTo 15) = true) :
    (finite negative m).keyText = signText negative ++ natText m.floor := by
  have hfloor : (m.floor != 0) = true := by
    rw [bne_iff_ne]
    intro hzero
    have hunits := Magnitude.units_of_isWhole (Bool.and_eq_true_iff.mp hshort).1
    rw [hzero, Nat.zero_mul] at hunits
    exact hm (Magnitude.units_eq_zero_iff.mp hunits)
  unfold keyText
  dsimp only
  rw [if_pos hshort, hfloor, Bool.and_true]
  rfl

/-- **A number is read back from its key**, with the sign of a zero forgotten. -/
theorem read?_keyText {x : Double} (hx : x.isFinite = true) : read? x.keyText = some x.plainZero := by
  cases x with
  | nan | infinite _ => exact absurd hx Bool.false_ne_true
  | finite negative m =>
      by_cases hm : m.significand = 0
      · obtain rfl := Magnitude.eq_zero_of_significand hm
        cases negative <;> decide +kernel
      · rw [plainZero_of_ne hm]
        -- either form of a key is read as the same magnitude, behind the same sign
        by_cases hshort : (m.isWhole && m.floor < tenTo 15) = true
        · have hnearest := Magnitude.nearest_floor (Bool.and_eq_true_iff.mp hshort).1
          rw [keyText_of_short hm hshort,
            read?_whole negative (natText_ne_nil _) fun _ hc => isDigit_of_mem_natText hc, digitsValue_natText,
            ofDecimal_of_nearest negative hm hnearest]
        · have hlong : (finite negative m).keyText = (finite negative m).text keyStyle := by
            unfold keyText
            dsimp only
            rw [if_neg hshort]
          rw [hlong, read?_text keyStyle_isPlain hx]

/-- Both zeros have one key. -/
theorem keyText_plainZero (x : Double) : x.plainZero.keyText = x.keyText := by
  cases x with
  | nan | infinite _ => rfl
  | finite negative m =>
      by_cases hm : m.significand = 0
      · obtain rfl := Magnitude.eq_zero_of_significand hm
        exact (keyText_zero _).trans (keyText_zero negative).symm
      · rw [plainZero_of_ne hm]

/-- **Finite numbers have the same key where they are the same** but for the sign of a zero. -/
theorem keyText_eq_iff {x y : Double} (hx : x.isFinite = true) (hy : y.isFinite = true) :
    x.keyText = y.keyText ↔ x.plainZero = y.plainZero := by
  constructor
  · intro h
    -- one text is read as one number
    have hread := read?_keyText hx
    rw [h, read?_keyText hy] at hread
    exact (Option.some.inj hread).symm
  · intro h
    rw [← keyText_plainZero x, h, keyText_plainZero]

end Double

/-! ## Cells -/

namespace Cell

/-- A number or null, as the cells of a column of numbers are. -/
def isNumeric : Cell → Bool
  | .null => true
  | .number x => x.isFinite
  | _ => false

/-- A key does not tell the zeros apart. -/
theorem key_plainZero (c : Cell) : c.plainZero.key = c.key := by
  cases c with
  | number x => exact congrArg String.ofList x.keyText_plainZero
  | null | bool _ | text _ => rfl

/-- The key of null is no number's. -/
theorem key_number_ne_null {x : Double} (hx : x.isFinite = true) : (number x).key ≠ null.key := by
  intro h
  -- a number would be read back from its key, but a word is no number
  have htext : x.keyText = ['n', 'u', 'l', 'l'] := String.ofList_inj.mp h
  have hread := Double.read?_keyText hx
  have hnone : Double.read? ['n', 'u', 'l', 'l'] = none := by decide
  rw [htext, hnone] at hread
  exact Option.some_ne_none _ hread.symm

/-- **Among numbers and nulls keys are the same where the cells are**, but for the sign of a zero. -/
theorem key_eq_iff {c d : Cell} (hc : c.isNumeric = true) (hd : d.isNumeric = true) :
    c.key = d.key ↔ c.plainZero = d.plainZero := by
  constructor
  · intro h
    cases c with
    | bool _ | text _ => exact absurd hc Bool.false_ne_true
    | null =>
        cases d with
        | bool _ | text _ => exact absurd hd Bool.false_ne_true
        | null => rfl
        | number y => exact absurd h.symm (key_number_ne_null hd)
    | number x =>
        cases d with
        | bool _ | text _ => exact absurd hd Bool.false_ne_true
        | null => exact absurd h (key_number_ne_null hc)
        | number y => exact congrArg number ((Double.keyText_eq_iff hc hd).mp (String.ofList_inj.mp h))
  · intro h
    rw [← key_plainZero c, h, key_plainZero]

end Cell

end QueryDesk
