import SkyRegion.Proofs.WholeText

/-! Numbers written again after they were read. A number is read as the nearest one to the count of places in its
text, so it lies no further from that count than the number that was written, and is written with the same count. -/

namespace SkyRegion

open Text

namespace Rounding

theorem abs_sub_nearestEven_le (value : Rat) : |value - nearestEven value| ≤ 1 / 2 := by
  rw [abs_le]
  constructor
  · by_contra! far
    have := @nearestEven_le value (nearestEven value - 1) (by push_cast; linarith)
    omega
  · by_contra! far
    have := @le_nearestEven value (nearestEven value + 1) (by push_cast; linarith)
    omega

theorem one_le_of_ne (value : Rat) {m n : Int} (other : m ≠ n) : 1 ≤ |value - m| + |value - n| := by
  have apart : (1 : Rat) ≤ |(m : Rat) - n| := by
    rw [← Int.cast_sub, ← Int.cast_abs]
    exact_mod_cast Int.one_le_abs (sub_ne_zero.mpr other)
  rw [abs_sub_comm value m]
  exact apart.trans (abs_sub_le _ value _)

/-- No integer is closer. -/
theorem abs_sub_nearestEven_le_abs_sub (value : Rat) (n : Int) : |value - nearestEven value| ≤ |value - n| := by
  rcases eq_or_ne (nearestEven value) n with same | other
  · rw [same]
  · have near := abs_sub_nearestEven_le value
    have apart := one_le_of_ne value other
    linarith

theorem even_nearestEven_of_half {value : Rat} (half : |value - nearestEven value| = 1 / 2) :
    nearestEven value % 2 = 0 := by
  by_contra odd
  have odd : nearestEven value % 2 = 1 := by omega
  rcases abs_choice (value - nearestEven value) with above | below
  · have := @lt_nearestEven_of_odd value _ odd (by linarith)
    omega
  · -- Half a unit below the odd number lies the even one, which is at the floor.
    have floor : value.floor = nearestEven value - 1 := by
      change ⌊value⌋ = _
      refine Int.floor_eq_iff.mpr ⟨?_, ?_⟩ <;> push_cast <;> linarith
    have excess : value - value.floor = 1 / 2 := by
      rw [floor]
      push_cast
      linarith
    have rounded : nearestEven value = if value.floor % 2 = 0 then value.floor else value.floor + 1 := by
      simp only [nearestEven, excess, lt_irrefl, if_false]
    rw [floor] at rounded
    split at rounded <;> omega

theorem nearestEven_eq_of_close {value : Rat} {n : Int} (close : |value - n| ≤ 1 / 2)
    (even : |value - n| = 1 / 2 → n % 2 = 0) : nearestEven value = n := by
  -- Two integers that are both half a unit away are neighbours, and only one of them is even.
  by_contra other
  have near := abs_sub_nearestEven_le value
  have apart := one_le_of_ne value other
  have next : |(nearestEven value : Rat) - n| ≤ 1 := by
    have way := abs_sub_le (nearestEven value : Rat) value n
    rw [abs_sub_comm (nearestEven value : Rat) value] at way
    linarith
  have next : |nearestEven value - n| ≤ 1 := by exact_mod_cast next
  have := even (by linarith)
  have := @even_nearestEven_of_half value (by linarith)
  rw [abs_le] at next
  omega

/-- What is no further from a count than the value it was rounded from is rounded to the same count. -/
theorem nearestEven_eq_of_closer {value value' : Rat}
    (closer : |value' - nearestEven value| ≤ |value - nearestEven value|) : nearestEven value' = nearestEven value := by
  have near := abs_sub_nearestEven_le value
  refine nearestEven_eq_of_close (closer.trans near) fun half => ?_
  exact even_nearestEven_of_half (le_antisymm near (half ▸ closer))

theorem nearestEven_nonneg {value : Rat} (nonneg : 0 ≤ value) : 0 ≤ nearestEven value :=
  le_nearestEven (by push_cast; linarith)

end Rounding

namespace BinaryFormat

variable {format : BinaryFormat} {magnitude : Rat}

theorem natCast_units (nonneg : 0 ≤ magnitude) :
    (format.units magnitude : Rat) = Rounding.nearestEven (magnitude / 2 ^ format.spacing magnitude) := by
  have count := Rounding.nearestEven_nonneg (div_nonneg nonneg (by positivity : (0 : Rat) ≤ 2 ^ format.spacing magnitude))
  rw [units, ← Int.cast_natCast, Int.toNat_of_nonneg count]

/-- No count of the spacing is closer. -/
theorem abs_sub_units_le (nonneg : 0 ≤ magnitude) (n : Int) :
    |magnitude - format.units magnitude * 2 ^ format.spacing magnitude| ≤
      |magnitude - n * 2 ^ format.spacing magnitude| := by
  have positive : (0 : Rat) < 2 ^ format.spacing magnitude := by positivity
  have scale (count : Rat) : |magnitude - count * 2 ^ format.spacing magnitude| =
      |magnitude / 2 ^ format.spacing magnitude - count| * 2 ^ format.spacing magnitude := by
    rw [← abs_of_pos positive, ← abs_mul, abs_of_pos positive, sub_mul, div_mul_cancel₀ _ positive.ne']
  rw [scale, scale, natCast_units nonneg]
  exact mul_le_mul_of_nonneg_right (Rounding.abs_sub_nearestEven_le_abs_sub _ n) positive.le

end BinaryFormat

namespace Floating

open BinaryFormat

variable {format : BinaryFormat} {magnitude : Rat} {negative : Bool}

/-- No number is closer to a magnitude than the one it is rounded to. -/
theorem abs_sub_ofMagnitude_le (proper : format.IsProper) (positive : 0 < magnitude)
    (finite : (ofMagnitude negative magnitude : Floating format).isFinite = true) (x : Floating format) :
    |magnitude - (ofMagnitude negative magnitude : Floating format).magnitude| ≤ |magnitude - x.magnitude| := by
  rw [magnitude_ofMagnitude proper positive finite]
  have grid := @abs_sub_units_le format _ positive.le
  cases x with
  | finite sign significand exponent canonical =>
    obtain ⟨small, least, _⟩ := canonical_iff.mp canonical
    change _ ≤ |magnitude - significand * 2 ^ exponent|
    rcases le_or_gt (format.spacing magnitude) exponent with coarser | finer
    · -- A number on a coarser grid is on the grid of the spacing too.
      obtain ⟨shift, rfl⟩ := Int.le.dest coarser
      have count := grid (significand * 2 ^ shift : Nat)
      rw [zpow_add₀ two_ne_zero, zpow_natCast, mul_comm (2 ^ format.spacing magnitude : Rat), ← mul_assoc]
      push_cast at count
      exact count
    · -- A number on a finer grid lies below the whole binade, and so further away than its lower end.
      have edge := grid (2 ^ (format.precision - 1) : Nat)
      push_cast at edge
      have low := two_zpow_le_of_least_lt positive (least.trans_lt finer)
      rw [zpow_add₀ two_ne_zero, ← Nat.cast_one, ← Nat.cast_sub proper.precision_pos, zpow_natCast] at low
      have below : (significand : Rat) * 2 ^ exponent ≤ 2 ^ (format.precision - 1) * 2 ^ format.spacing magnitude := by
        have doubled : (2 : Rat) ^ format.precision = 2 ^ (format.precision - 1) * 2 := by
          exact_mod_cast (two_pow_precision proper).trans (mul_comm _ _)
        have step : (2 : Rat) ^ (exponent + 1) ≤ 2 ^ format.spacing magnitude :=
          zpow_le_zpow_right₀ (by norm_num) finer
        calc (significand : Rat) * 2 ^ exponent
            ≤ 2 ^ format.precision * 2 ^ exponent := by
              gcongr
              exact_mod_cast small.le
          _ = 2 ^ (format.precision - 1) * 2 ^ (exponent + 1) := by
              rw [doubled, zpow_add_one₀ two_ne_zero]
              ring
          _ ≤ 2 ^ (format.precision - 1) * 2 ^ format.spacing magnitude := by gcongr
      rw [abs_of_nonneg (sub_nonneg.mpr low)] at edge
      rw [abs_of_nonneg (sub_nonneg.mpr (below.trans low))]
      linarith
  | nan | infinite =>
    have zero := grid 0
    rwa [Int.cast_zero, zero_mul] at zero

end Floating

open Floating BinaryFormat

namespace Number

variable {x : Number}

/-- A count of places of a finite number is not too large to be a number again. -/
theorem lt_limit_of_close (finite : x.isFinite = true) {value : Rat} (near : value ≤ x.magnitude + 1) :
    value < limit double := by
  cases x with
  | finite negative significand exponent canonical =>
    obtain ⟨small, _, greatest, _⟩ := canonical_iff.mp canonical
    change value ≤ significand * 2 ^ exponent + 1 at near
    have top : (significand : Rat) * 2 ^ exponent ≤ (2 ^ double.precision - 1) * 2 ^ double.greatest := by
      have count : (significand : Rat) ≤ 2 ^ double.precision - 1 := by
        have : (significand : Rat) + 1 ≤ 2 ^ double.precision := by exact_mod_cast small
        linarith
      have rise : (2 : Rat) ^ exponent ≤ 2 ^ double.greatest := zpow_le_zpow_right₀ (by norm_num) greatest
      have room : (0 : Rat) ≤ 2 ^ double.precision - 1 := (Nat.cast_nonneg significand).trans count
      exact mul_le_mul count rise (by positivity) room
    have gap : (2 : Rat) ^ (2 : Int) ≤ 2 ^ double.greatest := zpow_le_zpow_right₀ (by norm_num) (by decide)
    norm_num at gap
    rw [limit]
    linarith
  | _ => cases finite

theorem ofDecimal_neg_natCast (negative : Bool) (count : Nat) {places : Nat} (few : places < 400) :
    ofDecimal negative count (-places) = ofMagnitude negative (count / 10 ^ places) := by
  rw [ofDecimal]
  split
  · rename_i zero
    rw [zero, Nat.cast_zero, zero_div, ofMagnitude_zero]
  · rw [if_neg (by omega), if_neg (by omega), zpow_neg, zpow_natCast, ← div_eq_mul_inv]

/-- The number that is nearest to a rounded count of places is rounded to the same count. -/
theorem nearestEven_ofMagnitude (negative : Bool) (finite : x.isFinite = true) {scale : Rat} (one_le : 1 ≤ scale) :
    (ofMagnitude negative (Rounding.nearestEven (x.magnitude * scale) / scale) : Number).isFinite = true ∧
      Rounding.nearestEven
          ((ofMagnitude negative (Rounding.nearestEven (x.magnitude * scale) / scale) : Number).magnitude * scale) =
        Rounding.nearestEven (x.magnitude * scale) := by
  have positive : 0 < scale := one_pos.trans_le one_le
  set count : Int := Rounding.nearestEven (x.magnitude * scale) with rounded
  have nonneg : (0 : Rat) ≤ count :=
    Int.cast_nonneg (Rounding.nearestEven_nonneg (mul_nonneg x.magnitude_nonneg positive.le))
  have measured (value : Rat) : |value * scale - count| = |count / scale - value| * scale := by
    rw [← abs_of_pos positive, ← abs_mul, abs_of_pos positive, sub_mul, div_mul_cancel₀ _ positive.ne', abs_sub_comm]
  have near : count / scale ≤ x.magnitude + 1 := by
    have half := (abs_le.mp (rounded ▸ Rounding.abs_sub_nearestEven_le (x.magnitude * scale))).1
    rw [div_le_iff₀ positive, add_mul, one_mul]
    linarith
  have returns := (@isFinite_ofMagnitude_iff _ _ negative double_isProper (div_nonneg nonneg positive.le)).mpr
    (lt_limit_of_close finite near)
  refine ⟨returns, ?_⟩
  rcases nonneg.eq_or_lt with zero | present
  · rw [← zero, zero_div, ofMagnitude_zero, magnitude_zero, zero_mul]
    have none : Rounding.nearestEven 0 = 0 := by decide +kernel
    exact none.trans (by exact_mod_cast zero)
  · have closest := abs_sub_ofMagnitude_le double_isProper (div_pos present positive) returns x
    rw [rounded] at measured ⊢
    apply Rounding.nearestEven_eq_of_closer
    rw [measured, measured]
    exact mul_le_mul_of_nonneg_right closest positive.le

/-- A number that was read from a text with a count of places is written as that text. -/
theorem fixed_number_fixed (finite : x.isFinite = true) {places : Nat} (few : places < 399) :
    (x.fixed (places + 1)).number.isFinite = true ∧
      (x.fixed (places + 1)).number.fixed (places + 1) = x.fixed (places + 1) := by
  have one_le : (1 : Rat) ≤ 10 ^ (places + 1) := one_le_pow₀ (by norm_num)
  have count := Rounding.nearestEven_nonneg (mul_nonneg x.magnitude_nonneg (one_pos.trans_le one_le).le)
  have whole : ((Rounding.nearestEven (x.magnitude * 10 ^ (places + 1))).toNat : Rat) =
      Rounding.nearestEven (x.magnitude * 10 ^ (places + 1)) := by
    rw [← Int.cast_natCast, Int.toNat_of_nonneg count]
  obtain ⟨returns, same⟩ := nearestEven_ofMagnitude x.isNegative finite one_le
  rw [number_fixed finite, ofDecimal_neg_natCast _ _ (by omega), whole]
  refine ⟨returns, ?_⟩
  rw [fixed_of_isFinite returns, fixed_of_isFinite finite, isNegative_ofMagnitude, same]

theorem isNegative_ofDecimal (negative : Bool) (digits : Nat) (scale : Int) :
    (ofDecimal negative digits scale).isNegative = negative := by
  rw [ofDecimal]
  split
  · exact isNegative_ofParts ..
  · split
    · rfl
    · split
      · exact isNegative_ofParts ..
      · exact isNegative_ofMagnitude ..

variable {angle angle' : Number} {degrees : Nat}

/-- Whole degrees that were read are written with the same digits, also if they are a negative zero. -/
theorem angleText_number_angleText (whole : IsInt angle degrees) (small : degrees < 2 ^ 23) :
    angle.angleText.number.angleText = angle.angleText := by
  have read := number_angleText whole (Int.natCast_nonneg _) (by exact_mod_cast small)
  have sign : angle.angleText.number.isNegative = angle.isNegative := by
    rw [number, angleText_of_isInt whole small, ofText?_ofNat, Option.getD_some, isNegative_ofDecimal]
  rw [angleText_of_isInt read small, sign, angleText_of_isInt whole small]

/-- A positive whole number has one text, however it came about. -/
theorem angleText_eq_of_isInt (whole : IsInt angle degrees) (whole' : IsInt angle' degrees) (positive : 0 < degrees)
    (small : degrees < 2 ^ 23) : angle'.angleText = angle.angleText := by
  have above {x : Number} (whole : IsInt x degrees) : x.isNegative = false := by
    have value := whole.value
    have positive : (0 : Rat) < degrees := by exact_mod_cast positive
    rw [toRat, Int.cast_natCast] at value
    cases sign : x.isNegative with
    | false => rfl
    | true =>
      rw [sign, if_pos rfl] at value
      have := x.magnitude_nonneg
      linarith
  rw [angleText_of_isInt whole small, angleText_of_isInt whole' small, above whole, above whole']

end Number
end SkyRegion
