import BundleBinding.Number.Binary
import Mathlib.Tactic.Positivity
import Mathlib.Tactic.Ring

/-!
# Widening numbers

A finite number is a significand times a power of two. Rounding does not change a product that the format
has, at whatever scale it is written, and a wider format only shifts the significand. So a number that is
widened and narrowed is the number it was.
-/

namespace BundleBinding

namespace BinaryFormat

variable {format : BinaryFormat}

theorem roundQuotient_mul_self (quotient : Nat) {denominator : Nat} (hpos : 0 < denominator) :
    roundQuotient (quotient * denominator) denominator = quotient := by
  have hrest : 2 * (quotient * denominator % denominator) < denominator := by
    rw [Nat.mul_mod_left]
    exact hpos
  rw [roundQuotient, if_pos hrest, Nat.mul_div_cancel quotient hpos]

theorem leadingExponent_one {numerator : Nat} (hne : numerator ≠ 0) (exponent : Int) :
    leadingExponent numerator 1 exponent = numerator.log2 + exponent := by
  have hlog : (1 : Nat).log2 = 0 := by decide
  have hle : 2 ^ numerator.log2 ≤ numerator := Nat.log2_self_le hne
  have hnot : ¬ numerator * 2 ^ (-((numerator.log2 : Int) - (0 : Nat))).toNat <
      1 * 2 ^ ((numerator.log2 : Int) - (0 : Nat)).toNat := by
    have hup : ((numerator.log2 : Int) - (0 : Nat)).toNat = numerator.log2 := by omega
    have hdown : (-((numerator.log2 : Int) - (0 : Nat))).toNat = 0 := by omega
    rw [hup, hdown]
    omega
  rw [leadingExponent, hlog]
  simp only [Nat.pow_eq]
  rw [if_neg hnot]
  omega

theorem log2_mul_two_pow {number : Nat} (hne : number ≠ 0) (scale : Nat) :
    (number * 2 ^ scale).log2 = number.log2 + scale := by
  have hscaled : number * 2 ^ scale ≠ 0 := by positivity
  rw [Nat.log2_eq_iff hscaled]
  constructor
  · rw [pow_add]
    exact Nat.mul_le_mul_right _ (Nat.log2_self_le hne)
  · rw [add_right_comm, pow_add]
    exact Nat.mul_lt_mul_of_pos_right Nat.lt_log2_self (by positivity)

/-- The weight of the last digit that rounding keeps of `numerator * 2 ^ exponent`. -/
def unit (format : BinaryFormat) (numerator : Nat) (exponent : Int) : Int :=
  max (numerator.log2 + exponent - format.precision + 1) format.leastExponent

/-- A product without digits below the unit is not changed by rounding, at whatever scale it is
written. -/
theorem round_scaled {significand : Nat} {exponent : Int} (hne : significand ≠ 0)
    (hunit : format.unit significand exponent ≤ exponent) (scale : Nat) :
    format.round (significand * 2 ^ scale) 1 (exponent - scale) =
      min format.infinity
        ((format.unit significand exponent - format.leastExponent).toNat *
            2 ^ (format.precision - 1) +
          significand * 2 ^ (exponent - format.unit significand exponent).toNat) := by
  have hscaled : significand * 2 ^ scale ≠ 0 := by positivity
  have hleading : leadingExponent (significand * 2 ^ scale) 1 (exponent - scale) =
      significand.log2 + exponent := by
    rw [leadingExponent_one hscaled, log2_mul_two_pow hne]
    push_cast
    omega
  have hquotient : ∀ unit : Int, unit ≤ exponent →
      roundQuotient (significand * 2 ^ scale * 2 ^ (exponent - scale - unit).toNat)
          (1 * 2 ^ (unit - (exponent - scale)).toNat) =
        significand * 2 ^ (exponent - unit).toNat := by
    intro unit hle
    have hexponents : scale + (exponent - scale - unit).toNat =
        (exponent - unit).toNat + (unit - (exponent - scale)).toNat := by omega
    have hnumerator : significand * 2 ^ scale * 2 ^ (exponent - scale - unit).toNat =
        significand * 2 ^ (exponent - unit).toNat *
          (1 * 2 ^ (unit - (exponent - scale)).toNat) := by
      rw [one_mul, mul_assoc, mul_assoc, ← pow_add, ← pow_add, hexponents]
    rw [hnumerator]
    exact roundQuotient_mul_self _ (by positivity)
  rw [round, if_neg hscaled, hleading]
  simp only [Nat.pow_eq]
  rw [← unit, hquotient _ hunit]

theorem two_pow_precision (hprecision : 0 < format.precision) :
    2 ^ format.precision = 2 * 2 ^ (format.precision - 1) := by
  rw [← pow_succ', Nat.sub_add_cancel hprecision]

/-- **A format has its numbers.** Rounding the significand of a finite number gives the number back, at
whatever scale it is written. -/
theorem round_significand (hprecision : 0 < format.precision) {magnitude : Nat}
    (hfinite : magnitude < format.infinity) (scale : Nat) :
    format.round ((format.significand magnitude).1 * 2 ^ scale) 1
        ((format.significand magnitude).2 - scale) = magnitude := by
  have hpos : 0 < 2 ^ (format.precision - 1) := by positivity
  have hsplit := Nat.div_add_mod magnitude (2 ^ (format.precision - 1))
  have hfraction := Nat.mod_lt magnitude hpos
  rw [significand]
  simp only [Nat.pow_eq]
  by_cases hfield : magnitude / 2 ^ (format.precision - 1) = 0
  · -- A subnormal number has the least exponent and no digits below it.
    rw [if_pos hfield]
    simp only
    rw [hfield, mul_zero, zero_add] at hsplit
    rw [hsplit] at hfraction ⊢
    by_cases hzero : magnitude = 0
    · rw [hzero, zero_mul, round, if_pos rfl]
    · have hlog := (Nat.log2_lt hzero).mpr hfraction
      have hunit : format.unit magnitude format.leastExponent = format.leastExponent := by
        rw [unit]
        omega
      rw [round_scaled hzero hunit.le, hunit, sub_self, Int.toNat_zero, zero_mul, zero_add,
        pow_zero, mul_one, min_eq_right hfinite.le]
  · rw [if_neg hfield]
    simp only
    generalize hfieldEq : magnitude / 2 ^ (format.precision - 1) = field at hsplit hfield ⊢
    generalize hfractionEq : magnitude % 2 ^ (format.precision - 1) = fraction at hsplit hfraction ⊢
    have hne : fraction + 2 ^ (format.precision - 1) ≠ 0 := by omega
    have hlog : (fraction + 2 ^ (format.precision - 1)).log2 = format.precision - 1 := by
      rw [Nat.log2_eq_iff hne, Nat.sub_add_cancel hprecision, two_pow_precision hprecision]
      omega
    have hunit : format.unit (fraction + 2 ^ (format.precision - 1))
        (format.leastExponent + field - 1) = format.leastExponent + field - 1 := by
      rw [unit, hlog]
      omega
    have hvalue : (format.leastExponent + field - 1 - format.leastExponent).toNat *
        2 ^ (format.precision - 1) + (fraction + 2 ^ (format.precision - 1)) = magnitude := by
      obtain ⟨below, rfl⟩ := Nat.exists_eq_add_one_of_ne_zero hfield
      have hbelow : (format.leastExponent + ((below + 1 : Nat) : Int) - 1 -
          format.leastExponent).toNat = below := by omega
      rw [hbelow, ← hsplit]
      ring
    rw [round_scaled hne hunit.le, hunit, sub_self, Int.toNat_zero, pow_zero, mul_one, hvalue,
      min_eq_right hfinite.le]

/-- A significand that fills the format is read off together with its exponent. -/
theorem significand_of_full (hprecision : 0 < format.precision) {full : Nat} {exponent : Int}
    (hlow : 2 ^ (format.precision - 1) ≤ full) (hhigh : full < 2 ^ format.precision)
    (hexponent : format.leastExponent ≤ exponent) :
    format.significand
        ((exponent - format.leastExponent).toNat * 2 ^ (format.precision - 1) + full) =
      (full, exponent) := by
  have hpos : 0 < 2 ^ (format.precision - 1) := by positivity
  rw [two_pow_precision hprecision] at hhigh
  obtain ⟨fraction, rfl⟩ := Nat.exists_eq_add_of_le hlow
  generalize hfield : (exponent - format.leastExponent).toNat = field
  have hsum : field * 2 ^ (format.precision - 1) + (2 ^ (format.precision - 1) + fraction) =
      fraction + 2 ^ (format.precision - 1) * (field + 1) := by ring
  have hdiv : (fraction + 2 ^ (format.precision - 1) * (field + 1)) /
      2 ^ (format.precision - 1) = field + 1 := by
    rw [Nat.add_mul_div_left _ _ hpos, Nat.div_eq_of_lt (by omega), zero_add]
  have hmod : (fraction + 2 ^ (format.precision - 1) * (field + 1)) %
      2 ^ (format.precision - 1) = fraction := by
    rw [Nat.add_mul_mod_self_left, Nat.mod_eq_of_lt (by omega)]
  rw [significand]
  simp only [Nat.pow_eq]
  rw [hsum, hdiv, hmod, if_neg (Nat.succ_ne_zero field), Nat.add_comm fraction]
  congr 1
  push_cast
  omega

theorem significand_lt (hprecision : 0 < format.precision) (magnitude : Nat) :
    (format.significand magnitude).1 < 2 ^ format.precision := by
  have hpos : 0 < 2 ^ (format.precision - 1) := by positivity
  have hfraction := Nat.mod_lt magnitude hpos
  rw [significand, two_pow_precision hprecision]
  simp only [Nat.pow_eq]
  split
  · omega
  · simp only
    omega

theorem leastExponent_le_significand (format : BinaryFormat) (magnitude : Nat) :
    format.leastExponent ≤ (format.significand magnitude).2 := by
  rw [significand]
  simp only [Nat.pow_eq]
  generalize magnitude / 2 ^ (format.precision - 1) = field
  split
  · exact le_refl _
  · simp only
    omega

theorem significand_lt_of_lt_infinity {magnitude : Nat} (hfinite : magnitude < format.infinity) :
    (format.significand magnitude).2 <
      format.leastExponent + (2 ^ format.exponentWidth : Nat) := by
  have hwidth : 0 < 2 ^ format.exponentWidth := by positivity
  have hfield : magnitude / 2 ^ (format.precision - 1) < 2 ^ format.exponentWidth - 1 := by
    apply Nat.div_lt_of_lt_mul
    rw [mul_comm]
    exact hfinite
  rw [significand]
  simp only [Nat.pow_eq]
  generalize magnitude / 2 ^ (format.precision - 1) = field at hfield ⊢
  split
  · simp only
    omega
  · simp only
    omega

/-- A format that is wide enough only shifts a significand until it fills the format. -/
theorem significand_round (hprecision : 0 < format.precision) {significand : Nat} {exponent : Int}
    (hne : significand ≠ 0) (hwidth : significand < 2 ^ format.precision)
    (hlow : format.leastExponent + format.precision ≤ exponent)
    (hhigh : exponent + 3 ≤ format.leastExponent + (2 ^ format.exponentWidth : Nat)) :
    format.round significand 1 exponent < format.infinity ∧
      ∃ scale : Nat, format.significand (format.round significand 1 exponent) =
        (significand * 2 ^ scale, exponent - scale) := by
  have hlog : significand.log2 < format.precision := (Nat.log2_lt hne).mpr hwidth
  obtain ⟨scale, hscale⟩ : ∃ scale, significand.log2 + scale = format.precision - 1 :=
    ⟨format.precision - 1 - significand.log2, by omega⟩
  have hunit : format.unit significand exponent = exponent - scale := by
    rw [unit]
    omega
  have hshift : (exponent - format.unit significand exponent).toNat = scale := by
    rw [hunit]
    omega
  have hfull : 2 ^ (format.precision - 1) ≤ significand * 2 ^ scale := by
    rw [← hscale, pow_add]
    exact Nat.mul_le_mul_right _ (Nat.log2_self_le hne)
  have hfits : significand * 2 ^ scale < 2 ^ format.precision := by
    calc significand * 2 ^ scale
        < 2 ^ (significand.log2 + 1) * 2 ^ scale :=
          Nat.mul_lt_mul_of_pos_right Nat.lt_log2_self (by positivity)
      _ = 2 ^ format.precision := by
          rw [← pow_add]
          congr 1
          omega
  have hvalue : (format.unit significand exponent - format.leastExponent).toNat *
      2 ^ (format.precision - 1) + significand * 2 ^ scale < format.infinity := by
    have hfield : (format.unit significand exponent - format.leastExponent).toNat + 2 ≤
        2 ^ format.exponentWidth - 1 := by
      rw [hunit]
      omega
    calc (format.unit significand exponent - format.leastExponent).toNat *
          2 ^ (format.precision - 1) + significand * 2 ^ scale
        < (format.unit significand exponent - format.leastExponent).toNat *
            2 ^ (format.precision - 1) + 2 * 2 ^ (format.precision - 1) := by
          rw [← two_pow_precision hprecision]
          exact Nat.add_lt_add_left hfits _
      _ = ((format.unit significand exponent - format.leastExponent).toNat + 2) *
            2 ^ (format.precision - 1) := by ring
      _ ≤ (2 ^ format.exponentWidth - 1) * 2 ^ (format.precision - 1) :=
          Nat.mul_le_mul_right _ hfield
  have hround := round_scaled hne (hunit.trans_le (by omega)) 0
  rw [pow_zero, mul_one, Nat.cast_zero, sub_zero, hshift, min_eq_right hvalue.le] at hround
  refine ⟨hround ▸ hvalue, scale, ?_⟩
  rw [hround, ← hunit]
  exact significand_of_full hprecision hfull hfits (by rw [hunit]; omega)

end BinaryFormat

namespace Double

open BinaryFormat (double)

variable {negative : Bool} {magnitude : Nat}

theorem toNat_bits_ofMagnitude (hmagnitude : magnitude ≤ double.infinity) :
    (ofMagnitude negative magnitude).bits.toNat =
      magnitude + if negative then double.signWeight else 0 := by
  have hinfinity : double.infinity + double.signWeight < 2 ^ 64 := by decide
  rw [ofMagnitude, UInt64.toNat_ofNat', Nat.mod_eq_of_lt]
  split <;> omega

theorem magnitude_ofMagnitude (hmagnitude : magnitude ≤ double.infinity) :
    (ofMagnitude negative magnitude).magnitude = magnitude := by
  have hinfinity : double.infinity < double.signWeight := by decide
  rw [Double.magnitude, toNat_bits_ofMagnitude hmagnitude]
  split
  · rw [Nat.add_mod_right, Nat.mod_eq_of_lt (by omega)]
  · rw [add_zero, Nat.mod_eq_of_lt (by omega)]

theorem isNegative_ofMagnitude (hmagnitude : magnitude ≤ double.infinity) :
    (ofMagnitude negative magnitude).isNegative = negative := by
  have hinfinity : double.infinity < double.signWeight := by decide
  rw [isNegative, toNat_bits_ofMagnitude hmagnitude]
  cases negative with
  | false =>
      apply decide_eq_false
      simp only [Bool.false_eq_true, if_false, add_zero]
      omega
  | true =>
      apply decide_eq_true
      simp only [if_true, Nat.le_add_left]

end Double

namespace Single

open BinaryFormat (single double)

theorem ofMagnitude_magnitude (number : Single) :
    ofMagnitude number.isNegative number.magnitude = number := by
  have hbits : number.magnitude + (if number.isNegative then single.signWeight else 0) =
      number.bits.toNat := by
    have hlt : number.bits.toNat < 2 * single.signWeight := number.bits.toNat_lt
    rw [magnitude]
    by_cases hnegative : single.signWeight ≤ number.bits.toNat
    · rw [isNegative, decide_eq_true hnegative, if_pos rfl, Nat.mod_eq_sub_mod hnegative,
        Nat.mod_eq_of_lt (by omega), Nat.sub_add_cancel hnegative]
    · rw [isNegative, decide_eq_false hnegative, if_neg Bool.false_ne_true, add_zero,
        Nat.mod_eq_of_lt (by omega)]
  rw [ofMagnitude, hbits, UInt32.ofNat_toNat]

/-- The wide format has the narrow one's finite numbers, with their significands shifted. -/
theorem significand_round_double {magnitude : Nat} (hmagnitude : magnitude < single.infinity) :
    double.round (single.significand magnitude).1 1 (single.significand magnitude).2 <
        double.infinity ∧
      ∃ scale : Nat,
        double.significand
            (double.round (single.significand magnitude).1 1 (single.significand magnitude).2) =
          ((single.significand magnitude).1 * 2 ^ scale,
            (single.significand magnitude).2 - scale) := by
  have hwidth := @BinaryFormat.significand_lt single (by decide) magnitude
  have hlow := single.leastExponent_le_significand magnitude
  have hhigh := BinaryFormat.significand_lt_of_lt_infinity hmagnitude
  by_cases hzero : (single.significand magnitude).1 = 0
  · have hround : double.round 0 1 (single.significand magnitude).2 = 0 := if_pos rfl
    refine ⟨?_, ((single.significand magnitude).2 - double.leastExponent).toNat, ?_⟩
    · rw [hzero, hround]
      decide
    · have hleast : double.leastExponent ≤ single.leastExponent := by decide
      have hsignificand : double.significand 0 = (0, double.leastExponent) := by decide
      rw [hzero, hround, hsignificand, zero_mul]
      congr 1
      omega
  · have hprecision : single.precision ≤ double.precision := by decide
    apply BinaryFormat.significand_round (by decide) hzero
      (hwidth.trans_le (Nat.pow_le_pow_right Nat.two_pos hprecision))
    · exact le_trans (by decide) hlow
    · have hrange : single.leastExponent + (2 ^ single.exponentWidth : Nat) + 3 ≤
          double.leastExponent + (2 ^ double.exponentWidth : Nat) := by decide
      omega

theorem exists_significand_widen {number : Single} (hfinite : number.isFinite = true) :
    number.widen.isFinite = true ∧ number.widen.isNegative = number.isNegative ∧
      ∃ scale : Nat, double.significand number.widen.magnitude =
        ((single.significand number.magnitude).1 * 2 ^ scale,
          (single.significand number.magnitude).2 - scale) := by
  have hmagnitude : number.magnitude < single.infinity := of_decide_eq_true hfinite
  have hwiden : number.widen = Double.ofMagnitude number.isNegative
      (double.round (single.significand number.magnitude).1 1
        (single.significand number.magnitude).2) := by
    rw [widen, if_pos hfinite]
  obtain ⟨hwide, hsignificand⟩ := significand_round_double hmagnitude
  rw [hwiden, Double.isFinite, Double.magnitude_ofMagnitude hwide.le,
    Double.isNegative_ofMagnitude hwide.le]
  exact ⟨decide_eq_true hwide, rfl, hsignificand⟩

/-- **Widening loses nothing.** Narrowing a finite number that has been widened gives it back. -/
theorem narrow_widen {number : Single} (hfinite : number.isFinite = true) :
    number.widen.narrow = number := by
  obtain ⟨hwide, hnegative, scale, hsignificand⟩ := exists_significand_widen hfinite
  have hmagnitude : number.magnitude < single.infinity := of_decide_eq_true hfinite
  rw [Double.narrow, if_pos hwide, hsignificand, hnegative]
  simp only
  rw [BinaryFormat.round_significand (by decide) hmagnitude scale, ofMagnitude_magnitude]

end Single

end BundleBinding
