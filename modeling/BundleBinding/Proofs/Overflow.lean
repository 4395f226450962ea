import BundleBinding.Proofs.Widening
import Mathlib.Algebra.Order.Field.Power
import Mathlib.Data.Rat.Cast.Order
import Mathlib.Tactic.Linarith

/-!
# Numbers beyond a format

Rounding gives infinity from the midpoint between the greatest number of a format and the next power of two
on; the midpoint itself is a tie that goes to the even neighbour, which is that power. So a number keeps
finite in the narrower format exactly below that threshold.
-/

namespace BundleBinding

namespace BinaryFormat

/-! ### Quotients -/

theorem roundQuotient_le {numerator denominator bound : Nat}
    (hlt : numerator < bound * denominator) : roundQuotient numerator denominator ≤ bound := by
  have hquotient : numerator / denominator < bound := Nat.div_lt_of_lt_mul (by rwa [mul_comm])
  rw [roundQuotient]
  split_ifs <;> omega

theorem le_roundQuotient {numerator denominator bound : Nat} (hpos : 0 < denominator)
    (hle : bound * denominator ≤ numerator) : bound ≤ roundQuotient numerator denominator := by
  have hquotient : bound ≤ numerator / denominator := (Nat.le_div_iff_mul_le hpos).mpr hle
  rw [roundQuotient]
  split_ifs <;> omega

/-- What is half a unit below an even number is a tie, and goes to it. -/
theorem roundQuotient_lt_iff {numerator denominator bound : Nat} (hpos : 0 < denominator)
    (heven : bound % 2 = 0) :
    roundQuotient numerator denominator < bound ↔ 2 * numerator < (2 * bound - 1) * denominator := by
  have hsplit := Nat.div_add_mod numerator denominator
  have hrest := Nat.mod_lt numerator hpos
  rw [roundQuotient]
  generalize numerator / denominator = quotient at hsplit ⊢
  generalize numerator % denominator = rest at hsplit hrest ⊢
  rcases lt_trichotomy (quotient + 1) bound with hbelow | rfl | habove
  · have hle : (2 * quotient + 3) * denominator ≤ (2 * bound - 1) * denominator :=
      Nat.mul_le_mul_right _ (by omega)
    have hexpand : (2 * quotient + 3) * denominator = 2 * (denominator * quotient) + 3 * denominator := by
      ring
    apply iff_of_true
    · split_ifs <;> omega
    · omega
  · have hodd : quotient % 2 ≠ 0 := by omega
    have hexpand : (2 * (quotient + 1) - 1) * denominator =
        2 * (denominator * quotient) + denominator := by
      rw [show 2 * (quotient + 1) - 1 = 2 * quotient + 1 by omega]
      ring
    rw [hexpand, if_neg hodd]
    split_ifs <;> omega
  · have hle : (2 * bound - 1) * denominator ≤ 2 * quotient * denominator :=
      Nat.mul_le_mul_right _ (by omega)
    have hexpand : 2 * quotient * denominator = 2 * (denominator * quotient) := by ring
    apply iff_of_false
    · split_ifs <;> omega
    · omega

/-! ### The threshold -/

variable {format : BinaryFormat}

/-- The exponent of the greatest power of two that a format has. -/
def greatestExponent (format : BinaryFormat) : Int :=
  (2 ^ (format.exponentWidth - 1) : Nat) - 1

/-- The midpoint between the greatest number of a format and the next power of two. -/
def overflowThreshold (format : BinaryFormat) : ℚ :=
  (2 ^ (format.precision + 1) - 1) * 2 ^ (format.greatestExponent - format.precision)

/-- Numbers of units are compared as whole numbers, whichever way the units have to be scaled. -/
theorem scaled_lt_iff (significand bound : Nat) (exponent unit : Int) :
    significand * 2 ^ (exponent - unit).toNat < bound * 2 ^ (unit - exponent).toNat ↔
      (significand : ℚ) * 2 ^ exponent < bound * 2 ^ unit := by
  rcases le_total exponent unit with hle | hle
  · obtain ⟨scale, rfl⟩ := Int.le.dest hle
    have hpos : (0 : ℚ) < 2 ^ exponent := by positivity
    rw [show (exponent - (exponent + scale)).toNat = 0 by omega,
      show (exponent + scale - exponent).toNat = scale by omega, zpow_add₀ two_ne_zero, zpow_natCast,
      mul_comm ((2 : ℚ) ^ exponent), ← mul_assoc, mul_lt_mul_iff_left₀ hpos, pow_zero, mul_one]
    norm_cast
  · obtain ⟨scale, rfl⟩ := Int.le.dest hle
    have hpos : (0 : ℚ) < 2 ^ unit := by positivity
    rw [show (unit + scale - unit).toNat = scale by omega,
      show (unit - (unit + scale)).toNat = 0 by omega, zpow_add₀ two_ne_zero, zpow_natCast,
      mul_comm ((2 : ℚ) ^ unit), ← mul_assoc, mul_lt_mul_iff_left₀ hpos, pow_zero, mul_one]
    norm_cast

/-- What rounding makes of a significand, in units of the last digit that it keeps. -/
def rounded (format : BinaryFormat) (significand : Nat) (exponent : Int) : Nat :=
  roundQuotient (significand * 2 ^ (exponent - format.unit significand exponent).toNat)
    (2 ^ (format.unit significand exponent - exponent).toNat)

theorem round_eq {significand : Nat} (hne : significand ≠ 0) (exponent : Int) :
    format.round significand 1 exponent =
      min format.infinity
        ((format.unit significand exponent - format.leastExponent).toNat * 2 ^ (format.precision - 1) +
          format.rounded significand exponent) := by
  rw [round, if_neg hne, leadingExponent_one hne]
  simp only [Nat.pow_eq, one_mul]
  rw [rounded, unit]

theorem two_pow_le_scaled {significand : Nat} (hne : significand ≠ 0) (exponent : Int) :
    (2 : ℚ) ^ (significand.log2 + exponent) ≤ significand * 2 ^ exponent ∧
      significand * (2 : ℚ) ^ exponent < 2 ^ (significand.log2 + exponent + 1) := by
  have hpos : (0 : ℚ) < 2 ^ exponent := by positivity
  have hlow : ((2 ^ significand.log2 : Nat) : ℚ) ≤ significand := by
    exact_mod_cast Nat.log2_self_le hne
  have hhigh : (significand : ℚ) < (2 ^ (significand.log2 + 1) : Nat) := by
    exact_mod_cast Nat.lt_log2_self
  constructor
  · rw [zpow_add₀ two_ne_zero, zpow_natCast]
    exact mul_le_mul_of_nonneg_right (by exact_mod_cast hlow) hpos.le
  · rw [add_right_comm, zpow_add₀ two_ne_zero]
    exact mul_lt_mul_of_pos_right (by exact_mod_cast hhigh) hpos

theorem overflowThreshold_bounds (hprecision : 0 < format.precision) :
    (2 : ℚ) ^ format.greatestExponent < format.overflowThreshold ∧
      format.overflowThreshold < 2 ^ (format.greatestExponent + 1) := by
  have hpos : (0 : ℚ) < 2 ^ (format.greatestExponent - format.precision) := by positivity
  have htwo : (1 : ℚ) < 2 ^ format.precision := one_lt_pow₀ one_lt_two hprecision.ne'
  have hlow : (2 : ℚ) ^ format.greatestExponent =
      2 ^ format.precision * 2 ^ (format.greatestExponent - format.precision) := by
    rw [← zpow_natCast, ← zpow_add₀ two_ne_zero, add_sub_cancel]
  have hhigh : (2 : ℚ) ^ (format.greatestExponent + 1) =
      2 ^ (format.precision + 1) * 2 ^ (format.greatestExponent - format.precision) := by
    rw [zpow_add_one₀ two_ne_zero, hlow, pow_succ]
    ring
  rw [hlow, hhigh, overflowThreshold]
  constructor
  · apply mul_lt_mul_of_pos_right _ hpos
    rw [pow_succ]
    linarith
  · apply mul_lt_mul_of_pos_right _ hpos
    exact sub_one_lt _

/-- The weight of the last digit of the numbers with the greatest exponent. -/
def greatestUnit (format : BinaryFormat) : Int :=
  format.greatestExponent - format.precision + 1

theorem leastExponent_lt_greatestUnit (hwidth : 1 < format.exponentWidth) :
    format.leastExponent < format.greatestUnit := by
  have hwide : 2 ≤ 2 ^ (format.exponentWidth - 1) :=
    Nat.le_self_pow (Nat.sub_pos_of_lt hwidth).ne' 2
  rw [leastExponent, greatestUnit, greatestExponent, Nat.pow_eq]
  omega

theorem infinity_eq (hwidth : 1 < format.exponentWidth) :
    format.infinity =
      ((format.greatestUnit - format.leastExponent).toNat + 2) * 2 ^ (format.precision - 1) := by
  have hwide : 2 ≤ 2 ^ (format.exponentWidth - 1) :=
    Nat.le_self_pow (Nat.sub_pos_of_lt hwidth).ne' 2
  have hdouble : 2 ^ format.exponentWidth = 2 * 2 ^ (format.exponentWidth - 1) := by
    rw [← pow_succ', Nat.sub_add_cancel (Nat.zero_lt_of_lt hwidth)]
  have hcount : (format.greatestUnit - format.leastExponent).toNat + 2 = 2 ^ format.exponentWidth - 1 := by
    rw [leastExponent, greatestUnit, greatestExponent, Nat.pow_eq, hdouble]
    omega
  rw [hcount]
  rfl

theorem rounded_le {significand : Nat} (hne : significand ≠ 0) (exponent : Int) :
    format.rounded significand exponent ≤ 2 ^ format.precision := by
  have hunit : significand.log2 + exponent - format.precision + 1 ≤ format.unit significand exponent :=
    le_max_left _ _
  apply roundQuotient_le
  rw [scaled_lt_iff]
  apply (two_pow_le_scaled hne exponent).2.trans_le
  push_cast
  rw [← zpow_natCast, ← zpow_add₀ two_ne_zero]
  exact zpow_le_zpow_right₀ one_le_two (by omega)

/-- Above the least exponent the significand is full. -/
theorem le_rounded {significand : Nat} {exponent : Int} (hprecision : 0 < format.precision)
    (hne : significand ≠ 0)
    (hunit : format.unit significand exponent = significand.log2 + exponent - format.precision + 1) :
    2 ^ (format.precision - 1) ≤ format.rounded significand exponent := by
  apply le_roundQuotient (by positivity)
  rw [← not_lt, scaled_lt_iff, not_lt]
  apply le_trans _ (two_pow_le_scaled hne exponent).1
  push_cast
  rw [← zpow_natCast, ← zpow_add₀ two_ne_zero]
  exact zpow_le_zpow_right₀ one_le_two (by omega)

theorem rounded_lt_iff {significand : Nat} {exponent : Int} (hprecision : 0 < format.precision)
    (hunit : format.unit significand exponent = format.greatestUnit) :
    format.rounded significand exponent < 2 ^ format.precision ↔
      (significand : ℚ) * 2 ^ exponent < format.overflowThreshold := by
  have heven : 2 ^ format.precision % 2 = 0 := by
    rw [two_pow_precision hprecision]
    exact Nat.mul_mod_right 2 _
  have hbound : ((2 * 2 ^ format.precision - 1 : Nat) : ℚ) * 2 ^ format.greatestUnit =
      2 * format.overflowThreshold := by
    rw [← pow_succ', Nat.cast_sub Nat.one_le_two_pow, greatestUnit, zpow_add_one₀ two_ne_zero,
      overflowThreshold]
    push_cast
    ring
  rw [rounded, hunit, roundQuotient_lt_iff (by positivity) heven, ← mul_assoc, scaled_lt_iff, hbound,
    Nat.cast_mul, Nat.cast_two, mul_assoc, mul_lt_mul_iff_right₀ two_pos]

/-- **Overflow.** Rounding gives a number of the format exactly below the threshold. -/
theorem round_lt_infinity_iff (hprecision : 0 < format.precision) (hwidth : 1 < format.exponentWidth)
    (significand : Nat) (exponent : Int) :
    format.round significand 1 exponent < format.infinity ↔
      (significand : ℚ) * 2 ^ exponent < format.overflowThreshold := by
  obtain ⟨hthresholdLow, hthresholdHigh⟩ := overflowThreshold_bounds hprecision
  have hpos : 0 < 2 ^ (format.precision - 1) := by positivity
  by_cases hzero : significand = 0
  · subst hzero
    apply iff_of_true
    · rw [round, if_pos rfl, infinity_eq hwidth]
      positivity
    · rw [Nat.cast_zero, zero_mul]
      exact lt_trans (by positivity) hthresholdLow
  have hleast := leastExponent_lt_greatestUnit hwidth
  have hgreatest : format.greatestUnit = format.greatestExponent - format.precision + 1 := rfl
  have hunit : format.unit significand exponent =
      max (significand.log2 + exponent - format.precision + 1) format.leastExponent := rfl
  have hfull := two_pow_precision hprecision
  obtain ⟨hlow, hhigh⟩ := two_pow_le_scaled hzero exponent
  rw [round_eq hzero, min_lt_iff, or_iff_right (lt_irrefl _), infinity_eq hwidth]
  generalize hcount : (format.unit significand exponent - format.leastExponent).toNat = count
  generalize hmost : (format.greatestUnit - format.leastExponent).toNat = most
  rcases lt_trichotomy (significand.log2 + exponent) format.greatestExponent with hbelow | heq | habove
  · -- Even a unit below the greatest, rounding up to the next power of two stays in the format.
    have hrounded := format.rounded_le hzero exponent
    apply iff_of_true
    · have hle : (count + 3) * 2 ^ (format.precision - 1) ≤ (most + 2) * 2 ^ (format.precision - 1) :=
        Nat.mul_le_mul_right _ (by omega)
      rw [add_mul] at hle
      omega
    · calc (significand : ℚ) * 2 ^ exponent
          < 2 ^ (significand.log2 + exponent + 1) := hhigh
        _ ≤ 2 ^ format.greatestExponent := zpow_le_zpow_right₀ one_le_two hbelow
        _ < format.overflowThreshold := hthresholdLow
  · -- With the greatest unit it depends on the significand, and there the threshold is a tie.
    have hsame : format.unit significand exponent = format.greatestUnit := by omega
    obtain rfl : count = most := by omega
    rw [← rounded_lt_iff hprecision hsame, add_mul, Nat.add_lt_add_iff_left, hfull]
  · have hrounded : 2 ^ (format.precision - 1) ≤ format.rounded significand exponent :=
      le_rounded hprecision hzero (by omega)
    apply iff_of_false
    · have hle : (most + 2) * 2 ^ (format.precision - 1) ≤ (count + 1) * 2 ^ (format.precision - 1) :=
        Nat.mul_le_mul_right _ (by omega)
      rw [add_one_mul] at hle
      omega
    · apply not_lt_of_ge
      calc format.overflowThreshold
          ≤ 2 ^ (format.greatestExponent + 1) := hthresholdHigh.le
        _ ≤ 2 ^ (significand.log2 + exponent) := zpow_le_zpow_right₀ one_le_two habove
        _ ≤ (significand : ℚ) * 2 ^ exponent := hlow

theorem round_le_infinity (significand : Nat) (exponent : Int) :
    format.round significand 1 exponent ≤ format.infinity := by
  rw [round]
  split
  · exact Nat.zero_le _
  · exact min_le_left _ _

end BinaryFormat

namespace Single

open BinaryFormat (single double)

theorem isFinite_ofMagnitude {negative : Bool} {magnitude : Nat}
    (hmagnitude : magnitude ≤ single.infinity) :
    (ofMagnitude negative magnitude).isFinite = true ↔ magnitude < single.infinity := by
  have hinfinity : single.infinity < single.signWeight := by decide
  have hwidth : 2 * single.signWeight = 2 ^ 32 := by decide
  have hbits : (ofMagnitude negative magnitude).bits.toNat =
      magnitude + if negative then single.signWeight else 0 := by
    rw [ofMagnitude, UInt32.toNat_ofNat', Nat.mod_eq_of_lt]
    split <;> omega
  have hsame : (ofMagnitude negative magnitude).magnitude = magnitude := by
    rw [Single.magnitude, hbits]
    split
    · rw [Nat.add_mod_right, Nat.mod_eq_of_lt (by omega)]
    · rw [add_zero, Nat.mod_eq_of_lt (by omega)]
  rw [isFinite, hsame, decide_eq_true_eq]

theorem isFinite_widen (number : Single) : number.widen.isFinite = number.isFinite := by
  by_cases hfinite : number.isFinite = true
  · rw [hfinite, (exists_significand_widen hfinite).1]
  · rw [widen, if_neg hfinite, Double.isFinite, Double.magnitude_ofMagnitude le_rfl,
      Bool.eq_false_of_not_eq_true hfinite, decide_eq_false (lt_irrefl _)]

end Single

namespace Double

open BinaryFormat (single double)

/-- The value of a finite number without its sign. -/
def size (number : Double) : ℚ :=
  (double.significand number.magnitude).1 * 2 ^ (double.significand number.magnitude).2

/-- **Narrowing.** A number keeps finite in the narrower format exactly if it is finite and below the
threshold. -/
theorem isFinite_narrow_iff (number : Double) :
    number.narrow.isFinite = true ↔
      number.isFinite = true ∧ number.size < single.overflowThreshold := by
  by_cases hfinite : number.isFinite = true
  · rw [narrow, if_pos hfinite, Single.isFinite_ofMagnitude (BinaryFormat.round_le_infinity _ _),
      BinaryFormat.round_lt_infinity_iff (by decide) (by decide), and_iff_right hfinite, size]
  · rw [narrow, if_neg hfinite, Single.isFinite_ofMagnitude le_rfl]
    exact iff_of_false (lt_irrefl _) fun hboth => hfinite hboth.1

end Double

end BundleBinding
