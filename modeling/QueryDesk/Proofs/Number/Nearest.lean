import QueryDesk.Number.Shortest
import QueryDesk.Proofs.Number.Rounding
import QueryDesk.Proofs.Text.Decimal

/-! # Quotients that round to a double

A quotient rounds to the double in whose interval it lies (`Double.ofRatio_of_nearest`). The interval is given in
quarters of `2 ^ -1074`, as the digits of a number are searched for with it: half a unit of the scale to both sides,
where the ends belong to an even significand. Only below a power of two, where the next lower double is nearer, it is
half as long.
-/

set_option autoImplicit false

namespace QueryDesk

/-! ## The nearest natural number -/

/-- A quotient less than a half away from a natural number is rounded to it, from an even one also a quotient that is
a half away. -/
theorem roundEven_eq {num den n : Nat} (hden : 0 < den) (hlow : 2 * (n * den) ≤ 2 * num + den)
    (hhigh : 2 * num ≤ 2 * (n * den) + den)
    (hodd : n % 2 = 1 → 2 * (n * den) < 2 * num + den ∧ 2 * num < 2 * (n * den) + den) :
    roundEven num den = n := by
  have hsplit : num / den * den + num % den = num := Nat.div_add_mod' num den
  have hmod : num % den < den := Nat.mod_lt num hden
  -- the number is the whole part of the quotient or the next one
  have hle : num / den ≤ n := by
    have hmul : num / den * den < (n + 1) * den := by
      rw [Nat.add_mul]
      omega
    exact Nat.le_of_lt_succ (Nat.lt_of_mul_lt_mul_right hmul)
  have hge : n ≤ num / den + 1 := by
    have hmul : n * den < (num / den + 2) * den := by
      rw [Nat.add_mul]
      omega
    exact Nat.le_of_lt_succ (Nat.lt_of_mul_lt_mul_right hmul)
  unfold roundEven
  dsimp only
  rcases Nat.lt_or_ge (num / den) n with hlt | hge'
  · obtain rfl : n = num / den + 1 := Nat.le_antisymm hge hlt
    rw [Nat.add_mul] at hlow hodd
    rw [if_neg (by omega)]
    split
    · rfl
    · omega
  · obtain rfl : n = num / den := Nat.le_antisymm hge' hle
    split
    · rfl
    · rw [if_neg (by omega)]
      omega

/-! ## The interval of a magnitude -/

namespace Magnitude

variable {m : Magnitude} {num den : Nat}

/-- **The quotient `num / den` lies in the interval of the magnitude**, in quarters of `2 ^ -1074`. -/
def Nearest (m : Magnitude) (num den : Nat) : Prop :=
  m.reaches (4 * m.units * den - num * twoTo 1076) (m.reachDown * den) = true ∧
    m.reaches (num * twoTo 1076 - 4 * m.units * den) (m.reachUp * den) = true

theorem reaches_iff {distance reach : Nat} :
    m.reaches distance reach = true ↔ distance ≤ reach ∧ (m.significand % 2 = 1 → distance < reach) := by
  unfold reaches
  split
  · next heven => simp [heven]
  · next hodd =>
      have hone : m.significand % 2 = 1 := by omega
      simp only [decide_eq_true_eq, hone, forall_const]
      omega

theorem reachDown_pos (m : Magnitude) : 0 < m.reachDown := by
  have hscale := twoTo_pos m.scale
  unfold reachDown
  split <;> omega

theorem reachUp_pos (m : Magnitude) : 0 < m.reachUp := Nat.mul_pos (by decide) (twoTo_pos m.scale)

/-- The interval without differences. -/
theorem nearest_iff (hden : 0 < den) :
    m.Nearest num den ↔
      (4 * m.units * den ≤ num * twoTo 1076 + m.reachDown * den ∧
        num * twoTo 1076 ≤ 4 * m.units * den + m.reachUp * den) ∧
      (m.significand % 2 = 1 → 4 * m.units * den < num * twoTo 1076 + m.reachDown * den ∧
        num * twoTo 1076 < 4 * m.units * den + m.reachUp * den) := by
  have hdown : 0 < m.reachDown * den := Nat.mul_pos m.reachDown_pos hden
  have hup : 0 < m.reachUp * den := Nat.mul_pos m.reachUp_pos hden
  rw [Nearest, reaches_iff, reaches_iff]
  omega

/-- The magnitude itself lies in its interval. -/
theorem nearest_of_eq (hden : 0 < den) (h : num * twoTo 1076 = 4 * m.units * den) : m.Nearest num den := by
  have hdown : 0 < m.reachDown * den := Nat.mul_pos m.reachDown_pos hden
  have hup : 0 < m.reachUp * den := Nat.mul_pos m.reachUp_pos hden
  rw [nearest_iff hden]
  omega

/-- It does not matter how the quotient is written. -/
theorem nearest_mul_iff {k : Nat} (hk : 0 < k) : m.Nearest (k * num) (k * den) ↔ m.Nearest num den := by
  have hreaches : ∀ distance reach, m.reaches (k * distance) (k * reach) = m.reaches distance reach := by
    intro distance reach
    rw [Bool.eq_iff_iff, reaches_iff, reaches_iff, Nat.mul_le_mul_left_iff hk, Nat.mul_lt_mul_left hk]
  have hunits : 4 * m.units * (k * den) = k * (4 * m.units * den) := Nat.mul_left_comm _ _ _
  have hreach : ∀ reach, reach * (k * den) = k * (reach * den) := fun reach => Nat.mul_left_comm _ _ _
  rw [Nearest, Nearest, hunits, Nat.mul_assoc k num, ← Nat.mul_sub, ← Nat.mul_sub, hreach, hreach, hreaches,
    hreaches]

/-! ## The interval in steps of the scale -/

theorem reachDown_le (m : Magnitude) : m.reachDown ≤ 2 * twoTo m.scale := by
  unfold reachDown
  split <;> omega

theorem quarter_units : twoTo 1076 = 4 * twoTo 1074 := by
  have hhalf : twoTo 1076 = 2 * twoTo 1075 := twoTo_succ 1075
  have hquarter : twoTo 1075 = 2 * twoTo 1074 := twoTo_succ 1074
  omega

/-- The value and the quotient in quarters, by steps of a scale and by units. -/
theorem quarters_eq (m : Magnitude) (num den : Nat) :
    4 * m.units * den = 4 * (m.significand * (den * twoTo m.scale)) ∧
      num * twoTo 1076 = 4 * (num * twoTo 1074) := by
  constructor
  · rw [units, Nat.mul_assoc, Nat.mul_assoc, Nat.mul_comm den]
  · rw [quarter_units, Nat.mul_left_comm]

/-- A quotient in the interval is no more than half a step away from the significand. -/
theorem Nearest.in_steps (h : m.Nearest num den) (hden : 0 < den) {step quotient : Nat}
    (hstep : den * twoTo m.scale = step) (hquotient : num * twoTo 1074 = quotient) :
    (2 * (m.significand * step) ≤ 2 * quotient + step ∧ 2 * quotient ≤ 2 * (m.significand * step) + step) ∧
      (m.significand % 2 = 1 → 2 * (m.significand * step) < 2 * quotient + step ∧
        2 * quotient < 2 * (m.significand * step) + step) := by
  obtain ⟨hvalue, hnum⟩ := m.quarters_eq num den
  have hup : m.reachUp * den = 2 * step := by
    rw [reachUp, ← hstep, Nat.mul_assoc, Nat.mul_comm den]
  have hdown : m.reachDown * den ≤ 2 * step := by
    calc m.reachDown * den ≤ 2 * twoTo m.scale * den := Nat.mul_le_mul_right _ m.reachDown_le
      _ = 2 * step := by rw [← hstep, Nat.mul_assoc, Nat.mul_comm den]
  rw [nearest_iff hden, hvalue, hnum, hstep, hquotient, hup] at h
  omega

/-- Just above a power of two it is no more than half a step of the scale below from that power. -/
theorem Nearest.in_lower_steps (h : m.Nearest num den) (hden : 0 < den) {scale step quotient : Nat}
    (hleast : m.significand = twoTo 52) (hscale : m.scale = scale + 1) (hstep : den * twoTo scale = step)
    (hquotient : num * twoTo 1074 = quotient) : 2 * (twoTo 53 * step) ≤ 2 * quotient + step := by
  obtain ⟨hvalue, hnum⟩ := m.quarters_eq num den
  have htwice : den * twoTo m.scale = 2 * step := by
    rw [hscale, twoTo_succ, Nat.mul_left_comm, hstep]
  have hdown : m.reachDown * den = 2 * step := by
    rw [reachDown, if_pos ⟨hleast, by omega⟩, Nat.mul_comm, htwice]
  have hcarried : m.significand * (2 * step) = twoTo 53 * step := by
    rw [hleast, ← Nat.mul_assoc, Nat.mul_comm _ 2, ← twoTo_succ]
  have hlow := ((nearest_iff hden).mp h).1.1
  rw [hvalue, hnum, htwice, hcarried, hquotient, hdown] at hlow
  omega

end Magnitude

/-! ## Rounding -/

/-- The scale of a quotient between powers of two. -/
theorem scaleOf_eq {units den scale : Nat} (hden : 0 < den) (hhigh : units < twoTo 53 * (den * twoTo scale))
    (hlow : scale = 0 ∨ twoTo 52 * (den * twoTo scale) ≤ units) : scaleOf (units / den) = scale := by
  have hfactor : ∀ bits, twoTo bits * (den * twoTo scale) = twoTo (bits + scale) * den := by
    intro bits
    rw [twoTo_add, Nat.mul_comm den, Nat.mul_assoc]
  have hlog : (units / den).log2 < 53 + scale := by
    refine log2_lt_of_lt_twoTo (by omega) ?_
    rwa [Nat.div_lt_iff_lt_mul hden, ← hfactor]
  unfold scaleOf
  rcases hlow with rfl | hlow
  · omega
  · have hlog' : 52 + scale ≤ (units / den).log2 := by
      refine le_log2_of_twoTo_le ?_
      rwa [Nat.le_div_iff_mul_le hden, ← hfactor]
    omega

namespace Double

theorem ofScaled_self (negative : Bool) (m : Magnitude) :
    ofScaled negative m.significand m.scale = .finite negative m := by
  unfold ofScaled
  rw [if_pos m.significand_lt, Magnitude.of?, dif_pos ⟨m.significand_lt, m.scale_le, m.normal⟩]

/-- A significand carried to the next power of two. -/
theorem ofScaled_carried (negative : Bool) {m : Magnitude} {scale : Nat} (hleast : m.significand = twoTo 52)
    (hscale : m.scale = scale + 1) : ofScaled negative (twoTo 53) scale = .finite negative m := by
  have hhalf : twoTo 53 / 2 = m.significand := hleast ▸ by decide
  unfold ofScaled
  rw [if_neg (Nat.lt_irrefl _), hhalf, ← hscale, Magnitude.of?,
    dif_pos ⟨m.significand_lt, m.scale_le, m.normal⟩]

/-- **A quotient rounds to the magnitude in whose interval it lies.** -/
theorem ofRatio_of_nearest (negative : Bool) {m : Magnitude} {num den : Nat} (hden : 0 < den)
    (h : m.Nearest num den) : ofRatio negative num den = .finite negative m := by
  obtain ⟨quotient, hquotient⟩ : ∃ quotient, num * twoTo 1074 = quotient := ⟨_, rfl⟩
  obtain ⟨step, hstep⟩ : ∃ step, den * twoTo m.scale = step := ⟨_, rfl⟩
  obtain ⟨⟨hlow, hhigh⟩, hodd⟩ := h.in_steps hden hstep hquotient
  have hpos : 0 < step := hstep ▸ Nat.mul_pos hden (twoTo_pos _)
  rw [ofRatio_eq, significandOf, hquotient]
  by_cases hsame : m.scale = 0 ∨ twoTo 52 * step ≤ quotient
  · have hlt : quotient < twoTo 53 * step := by
      have hmul : (m.significand + 1) * step ≤ twoTo 53 * step := Nat.mul_le_mul_right _ m.significand_lt
      rw [Nat.add_mul] at hmul
      omega
    have hscale : scaleOf (quotient / den) = m.scale :=
      scaleOf_eq hden (by rwa [hstep]) (by rwa [hstep])
    rw [hscale, hstep, roundEven_eq hpos hlow hhigh hodd, ofScaled_self]
  · -- below a power of two the quotient has the next lower scale, and its significand is carried
    rw [not_or, Nat.not_le] at hsame
    have hleast : m.significand = twoTo 52 := by
      refine Nat.le_antisymm ?_ (m.normal.resolve_left hsame.1)
      refine Nat.le_of_lt_succ (Nat.lt_of_mul_lt_mul_right (a := step) ?_)
      rw [Nat.succ_mul]
      omega
    obtain ⟨scale, hscale⟩ := Nat.exists_eq_add_one_of_ne_zero hsame.1
    obtain ⟨half, hhalf⟩ : ∃ half, den * twoTo scale = half := ⟨_, rfl⟩
    have htwice : step = 2 * half := by
      rw [← hstep, hscale, twoTo_succ, Nat.mul_left_comm, hhalf]
    have hcarried : twoTo 52 * step = twoTo 53 * half := by
      rw [htwice, ← Nat.mul_assoc, Nat.mul_comm _ 2, ← twoTo_succ]
    have hlower := h.in_lower_steps hden hleast hscale hhalf hquotient
    have hlt : quotient < twoTo 53 * half := by omega
    have hge : twoTo 52 * half ≤ quotient := by
      have hsum : twoTo 53 * half = twoTo 52 * half + twoTo 52 * half := by
        rw [← hcarried, htwice, Nat.mul_left_comm, Nat.two_mul]
      have hle : half ≤ twoTo 52 * half := Nat.le_mul_of_pos_left _ (twoTo_pos 52)
      omega
    have hlowerScale : scaleOf (quotient / den) = scale :=
      scaleOf_eq hden (by rwa [hhalf]) (.inr (by rwa [hhalf]))
    have heven : ¬twoTo 53 % 2 = 1 := by decide
    rw [hlowerScale, hhalf, roundEven_eq (by omega) hlower (by omega) (fun h => absurd h heven),
      ofScaled_carried negative hleast hscale]

end Double

/-! ## Decimals -/

namespace Decimal

/-- The number as a quotient of `num` and `den`. -/
def num (d : Decimal) : Nat := d.digits * tenTo d.exponent.toNat

def den (d : Decimal) : Nat := tenTo (-d.exponent).toNat

/-- How many digits there are before the point; less than zero where zeros follow the point. -/
def place (d : Decimal) : Int := Text.digitCount d.digits + d.exponent

theorem den_pos (d : Decimal) : 0 < d.den := tenTo_pos _

end Decimal

namespace Magnitude

variable {m : Magnitude} {num den : Nat}

/-- A quotient in the interval is less than twice the greatest magnitude. -/
theorem Nearest.lt (h : m.Nearest num den) (hden : 0 < den) : num * twoTo 1076 < twoTo 2101 * den := by
  have hunits : m.units < twoTo 2098 := Double.units_lt m
  have hreach : m.reachUp ≤ twoTo 2046 := by
    rw [reachUp, ← twoTo_succ]
    exact twoTo_le (Nat.succ_le_succ m.scale_le)
  have hsum : 4 * m.units + m.reachUp < twoTo 2101 := by
    have h2046 : twoTo 2046 ≤ twoTo 2098 := twoTo_le (by decide)
    have h2099 : twoTo 2099 = 2 * twoTo 2098 := twoTo_succ 2098
    have h2100 : twoTo 2100 = 2 * twoTo 2099 := twoTo_succ 2099
    have h2101 : twoTo 2101 = 2 * twoTo 2100 := twoTo_succ 2100
    omega
  calc num * twoTo 1076 ≤ 4 * m.units * den + m.reachUp * den := ((nearest_iff hden).mp h).1.2
    _ = (4 * m.units + m.reachUp) * den := (Nat.add_mul _ _ _).symm
    _ < twoTo 2101 * den := Nat.mul_lt_mul_of_pos_right hsum hden

/-- And, for a magnitude other than zero, at least half the least one. -/
theorem Nearest.le (h : m.Nearest num den) (hden : 0 < den) (hm : m.significand ≠ 0) :
    2 * den ≤ num * twoTo 1076 := by
  have hscale : twoTo m.scale ≤ m.units := Nat.le_mul_of_pos_left _ (Nat.pos_of_ne_zero hm)
  have hpos : 0 < twoTo m.scale := twoTo_pos _
  have hdown : m.reachDown + 2 ≤ 4 * m.units := by
    have := m.reachDown_le
    omega
  have hmul : (m.reachDown + 2) * den ≤ 4 * m.units * den := Nat.mul_le_mul_right _ hdown
  have hlow := ((nearest_iff hden).mp h).1.1
  rw [Nat.add_mul] at hmul
  omega

variable {d : Decimal}

theorem Nearest.digits_pos (h : m.Nearest d.num d.den) (hm : m.significand ≠ 0) : 0 < d.digits := by
  have hle := h.le d.den_pos hm
  have hden := d.den_pos
  refine Nat.pos_of_ne_zero fun hzero => ?_
  have hnum : d.num = 0 := by rw [Decimal.num, hzero, Nat.zero_mul]
  rw [hnum, Nat.zero_mul] at hle
  omega

/-- A decimal of a lower place would be below every magnitude but zero. -/
theorem Nearest.le_place (h : m.Nearest d.num d.den) (hm : m.significand ≠ 0) : -330 ≤ d.place := by
  have hle := h.le d.den_pos hm
  refine Int.not_lt.mp fun hplace => ?_
  have hcount : Text.digitCount d.digits + d.exponent.toNat + 330 ≤ (-d.exponent).toNat := by
    unfold Decimal.place at hplace
    omega
  have hsmall : d.num * tenTo 330 ≤ d.den := by
    calc d.num * tenTo 330
        ≤ tenTo (Text.digitCount d.digits) * tenTo d.exponent.toNat * tenTo 330 :=
          Nat.mul_le_mul_right _ (Nat.mul_le_mul_right _ (Nat.le_of_lt (Text.lt_tenTo_digitCount _)))
      _ = tenTo (Text.digitCount d.digits + d.exponent.toNat + 330) := by rw [tenTo_add, tenTo_add]
      _ ≤ d.den := tenTo_le hcount
  have hpowers : twoTo 1076 ≤ tenTo 330 := by decide +kernel
  have hmul := Nat.mul_le_mul_left d.num hpowers
  have hden := d.den_pos
  omega

/-- A decimal of a higher place would be above every magnitude. -/
theorem Nearest.place_le (h : m.Nearest d.num d.den) (hm : m.significand ≠ 0) : d.place ≤ 310 := by
  have hdigits := h.digits_pos hm
  refine Int.not_lt.mp fun hplace => ?_
  have hcount : 310 + (-d.exponent).toNat ≤ Text.digitCount d.digits - 1 + d.exponent.toNat := by
    unfold Decimal.place at hplace
    omega
  have hfirst : tenTo (Text.digitCount d.digits - 1) ≤ d.digits := by
    refine Text.tenTo_le_of_lt_digitCount hdigits (Nat.sub_one_lt ?_)
    exact fun hzero => Text.natText_ne_nil _ (List.eq_nil_of_length_eq_zero hzero)
  have hbig : tenTo 310 * d.den ≤ d.num := by
    calc tenTo 310 * d.den = tenTo (310 + (-d.exponent).toNat) := (tenTo_add _ _).symm
      _ ≤ tenTo (Text.digitCount d.digits - 1 + d.exponent.toNat) := tenTo_le hcount
      _ = tenTo (Text.digitCount d.digits - 1) * tenTo d.exponent.toNat := tenTo_add _ _
      _ ≤ d.num := Nat.mul_le_mul_right _ hfirst
  have hpowers : twoTo 2101 ≤ tenTo 310 * twoTo 1076 := by decide +kernel
  refine Nat.lt_irrefl (tenTo 310 * d.den * twoTo 1076) ?_
  calc tenTo 310 * d.den * twoTo 1076 ≤ d.num * twoTo 1076 := Nat.mul_le_mul_right _ hbig
    _ < twoTo 2101 * d.den := h.lt d.den_pos
    _ ≤ tenTo 310 * twoTo 1076 * d.den := Nat.mul_le_mul_right _ hpowers
    _ = tenTo 310 * d.den * twoTo 1076 := Nat.mul_right_comm _ _ _

end Magnitude

/-- **A decimal rounds to the magnitude in whose interval it lies.** -/
theorem Double.ofDecimal_of_nearest (negative : Bool) {m : Magnitude} {d : Decimal} (hm : m.significand ≠ 0)
    (h : m.Nearest d.num d.den) : Double.ofDecimal negative d.digits d.exponent = .finite negative m := by
  have hdigits := h.digits_pos hm
  have hlow := h.le_place hm
  have hhigh := h.place_le hm
  unfold Decimal.place at hlow hhigh
  have hratio := Double.ofRatio_of_nearest negative d.den_pos h
  have hnonzero : ¬(d.digits == 0) = true := by
    rw [beq_iff_eq]
    omega
  unfold Double.ofDecimal
  dsimp only
  rw [if_neg hnonzero, if_neg (by omega), if_neg (by omega)]
  split
  · next hexponent =>
      have hone : d.den = 1 := by
        rw [Decimal.den, Int.toNat_of_nonpos (by omega)]
        rfl
      rwa [hone] at hratio
  · next hexponent =>
      have hnum : d.num = d.digits := by
        rw [Decimal.num, Int.toNat_of_nonpos (by omega)]
        exact Nat.mul_one _
      rwa [hnum] at hratio

end QueryDesk
