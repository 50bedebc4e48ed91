import Mathlib.Algebra.Order.Field.Power
import Mathlib.Data.Rat.Floor
import Mathlib.Tactic.FieldSimp
import Mathlib.Tactic.Linarith
import Mathlib.Tactic.Ring
import SkyRegion.Number.Floating

/-! How far rounding can move a magnitude. A magnitude is counted in units of the spacing of the numbers around
it; the count is rounded, and the number is too large exactly when it lies half a unit or more beyond the
greatest one. -/

namespace SkyRegion

namespace Rounding

private theorem floor_le (value : Rat) : (value.floor : Rat) ≤ value := Int.floor_le value

private theorem lt_floor_add_one (value : Rat) : value < value.floor + 1 := Int.lt_floor_add_one value

theorem nearestEven_le {value : Rat} {n : Int} (close : value < n + 1 / 2) : nearestEven value ≤ n := by
  have below := floor_le value
  unfold nearestEven
  have first : value.floor < n + 1 := by
    have : (value.floor : Rat) < ((n + 1 : Int) : Rat) := by push_cast; linarith
    exact_mod_cast this
  have second (far : ¬value - value.floor < 1 / 2) : value.floor < n := by
    have : (value.floor : Rat) < n := by linarith
    exact_mod_cast this
  simp only
  split
  · omega
  · rename_i far
    have := second far
    split
    · omega
    · split <;> omega

theorem le_nearestEven {value : Rat} {n : Int} (close : n - 1 / 2 < value) : n ≤ nearestEven value := by
  have above := lt_floor_add_one value
  unfold nearestEven
  have first : n < value.floor + 2 := by
    have : (n : Rat) < ((value.floor + 2 : Int) : Rat) := by push_cast; linarith
    exact_mod_cast this
  have second (near : ¬1 / 2 < value - value.floor) : n ≤ value.floor := by
    have : (n : Rat) < ((value.floor + 1 : Int) : Rat) := by push_cast; linarith
    exact Int.lt_add_one_iff.mp (by exact_mod_cast this)
  simp only
  split
  · rename_i near
    exact second (by linarith)
  · split
    · omega
    · rename_i near
      have := second near
      split <;> omega

theorem lt_nearestEven_of_odd {value : Rat} {n : Int} (odd : n % 2 = 1) (far : n + 1 / 2 ≤ value) :
    n < nearestEven value := by
  rcases far.lt_or_eq with far | rfl
  · exact le_nearestEven (by push_cast; linarith)
  · have floor : (n + 1 / 2 : Rat).floor = n := by
      change ⌊(n + 1 / 2 : Rat)⌋ = n
      exact Int.floor_eq_iff.mpr ⟨by norm_num, by norm_num⟩
    have excess : (n + 1 / 2 : Rat) - n = 1 / 2 := by ring
    simp only [nearestEven, floor, excess, lt_irrefl, if_false, odd]
    omega

/-- The two powers of two around a positive value. -/
theorem binade_spec {value : Rat} (positive : 0 < value) :
    (2 : Rat) ^ binade value ≤ value ∧ value < 2 ^ (binade value + 1) := by
  set n := value.num.natAbs with numerator
  set d := value.den with denominator
  have n_pos : n ≠ 0 := Int.natAbs_ne_zero.mpr (Rat.num_pos.mpr positive).ne'
  have quotient : value * d = n := by
    rw [numerator, Nat.cast_natAbs, abs_of_pos (Rat.num_pos.mpr positive), denominator, Rat.mul_den_eq_num]
  have n_low : (2 : Rat) ^ (n.log2 : Int) ≤ n := by exact_mod_cast Nat.log2_self_le n_pos
  have n_high : (n : Rat) < 2 ^ (n.log2 + 1 : Int) := by exact_mod_cast Nat.lt_log2_self
  have d_low : (2 : Rat) ^ (d.log2 : Int) ≤ d := by exact_mod_cast Nat.log2_self_le value.den_nz
  have d_high : (d : Rat) < 2 ^ (d.log2 + 1 : Int) := by exact_mod_cast Nat.lt_log2_self
  have above : value < 2 ^ ((n.log2 : Int) - d.log2 + 1) := by
    have split : (2 : Rat) ^ (n.log2 + 1 : Int) = 2 ^ ((n.log2 : Int) - d.log2 + 1) * 2 ^ (d.log2 : Int) := by
      rw [← zpow_add₀ two_ne_zero]
      ring_nf
    by_contra! large
    have := mul_le_mul large d_low (by positivity) positive.le
    linarith
  have below : (2 : Rat) ^ ((n.log2 : Int) - d.log2 - 1) < value := by
    have split : (2 : Rat) ^ (n.log2 : Int) = 2 ^ ((n.log2 : Int) - d.log2 - 1) * 2 ^ (d.log2 + 1 : Int) := by
      rw [← zpow_add₀ two_ne_zero]
      ring_nf
    by_contra! small
    have := mul_lt_mul' small d_high (by positivity) (by positivity)
    linarith
  rw [binade]
  simp only [← numerator, ← denominator]
  split
  · exact ⟨‹_›, above⟩
  · rename_i beyond
    rw [Int.sub_add_cancel]
    exact ⟨below.le, not_le.mp beyond⟩

end Rounding

namespace BinaryFormat

/-- Formats with at least one bit, and with a place for the next exponent. -/
structure IsProper (format : BinaryFormat) : Prop where
  precision_pos : 0 < format.precision
  ordered : format.least < format.greatest

theorem double_isProper : double.IsProper := ⟨by decide, by decide⟩

theorem single_isProper : single.IsProper := ⟨by decide, by decide⟩

variable (format : BinaryFormat)

/-- The exponent of the numbers around a magnitude. -/
def spacing (magnitude : Rat) : Int := max format.least (Rounding.binade magnitude - (format.precision - 1))

/-- The significand that a magnitude is rounded to, before it is seen whether it fits. -/
def units (magnitude : Rat) : Nat := (Rounding.nearestEven (magnitude / 2 ^ format.spacing magnitude)).toNat

/-- Half a unit above the greatest number. -/
def limit : Rat := (2 ^ format.precision - 1 / 2) * 2 ^ format.greatest

variable {format} {magnitude : Rat}

theorem canonical_iff {significand : Nat} {exponent : Int} : format.Canonical significand exponent ↔
    significand < 2 ^ format.precision ∧ format.least ≤ exponent ∧ exponent ≤ format.greatest ∧
      (2 ^ (format.precision - 1) ≤ significand ∨ exponent = format.least) := Iff.rfl

theorem spacing_le {exponent : Int} (positive : 0 < magnitude) (least : format.least ≤ exponent)
    (small : magnitude < 2 ^ (format.precision + exponent)) : format.spacing magnitude ≤ exponent := by
  refine max_le least ?_
  have below := (Rounding.binade_spec positive).1.trans_lt small
  have := (zpow_lt_zpow_iff_right₀ (by norm_num : (1 : Rat) < 2)).mp below
  omega

theorem le_spacing {exponent : Int} (positive : 0 < magnitude)
    (large : (2 : Rat) ^ (format.precision - 1 + exponent) ≤ magnitude) : exponent ≤ format.spacing magnitude := by
  refine le_max_of_le_right ?_
  have above := large.trans_lt (Rounding.binade_spec positive).2
  have := (zpow_lt_zpow_iff_right₀ (by norm_num : (1 : Rat) < 2)).mp above
  omega

theorem lt_two_zpow_spacing (positive : 0 < magnitude) :
    magnitude < 2 ^ (format.precision + format.spacing magnitude) := by
  refine (Rounding.binade_spec positive).2.trans_le (zpow_le_zpow_right₀ (by norm_num) ?_)
  have := le_max_right format.least (Rounding.binade magnitude - (format.precision - 1))
  rw [spacing]
  omega

theorem two_zpow_le_of_least_lt (positive : 0 < magnitude) (coarse : format.least < format.spacing magnitude) :
    (2 : Rat) ^ (format.precision - 1 + format.spacing magnitude) ≤ magnitude := by
  refine le_trans (zpow_le_zpow_right₀ (by norm_num) ?_) (Rounding.binade_spec positive).1
  rw [spacing] at coarse ⊢
  omega

theorem units_le {bound : Nat} (close : magnitude / 2 ^ format.spacing magnitude < bound + 1 / 2) :
    format.units magnitude ≤ bound :=
  Int.toNat_le.mpr (Rounding.nearestEven_le (by exact_mod_cast close))

theorem le_units {bound : Nat} (close : bound - 1 / 2 < magnitude / 2 ^ format.spacing magnitude) :
    bound ≤ format.units magnitude := by
  have := @Rounding.le_nearestEven _ bound (by exact_mod_cast close)
  rw [units]
  omega

theorem div_two_zpow_spacing_lt (positive : 0 < magnitude) :
    magnitude / 2 ^ format.spacing magnitude < 2 ^ format.precision := by
  rw [div_lt_iff₀ (by positivity), ← zpow_natCast, ← zpow_add₀ two_ne_zero]
  exact lt_two_zpow_spacing positive

theorem units_le_two_pow (positive : 0 < magnitude) : format.units magnitude ≤ 2 ^ format.precision := by
  apply units_le
  have := @div_two_zpow_spacing_lt format _ positive
  push_cast
  linarith

theorem two_pow_le_units (proper : format.IsProper) (positive : 0 < magnitude)
    (coarse : format.least < format.spacing magnitude) : 2 ^ (format.precision - 1) ≤ format.units magnitude := by
  apply le_units
  have large : (2 : Rat) ^ (format.precision - 1) ≤ magnitude / 2 ^ format.spacing magnitude := by
    rw [le_div_iff₀ (by positivity), ← zpow_natCast, ← zpow_add₀ two_ne_zero, Nat.cast_sub proper.precision_pos]
    exact two_zpow_le_of_least_lt positive coarse
  push_cast
  linarith

theorem two_pow_precision (proper : format.IsProper) : 2 ^ format.precision = 2 * 2 ^ (format.precision - 1) := by
  rw [← pow_succ', Nat.sub_add_cancel proper.precision_pos]

theorem limit_pos : 0 < format.limit := by
  have : (1 : Rat) ≤ 2 ^ format.precision := one_le_pow₀ (by norm_num)
  exact mul_pos (by linarith) (by positivity)

theorem greatest_le_spacing_of_limit_le (proper : format.IsProper) (positive : 0 < magnitude)
    (large : format.limit ≤ magnitude) : format.greatest ≤ format.spacing magnitude := by
  apply le_spacing positive
  refine le_trans ?_ large
  have doubled : (2 : Rat) ^ format.precision = 2 * 2 ^ (format.precision - 1) := by
    exact_mod_cast two_pow_precision proper
  have one_le : (1 : Rat) ≤ 2 ^ (format.precision - 1) := one_le_pow₀ (by norm_num)
  rw [zpow_add₀ two_ne_zero, ← Nat.cast_one, ← Nat.cast_sub proper.precision_pos, zpow_natCast, limit]
  gcongr
  linarith

theorem units_of_limit_le (proper : format.IsProper) (positive : 0 < magnitude) (large : format.limit ≤ magnitude)
    (equal : format.spacing magnitude = format.greatest) : format.units magnitude = 2 ^ format.precision := by
  refine le_antisymm (units_le_two_pow positive) ?_
  have odd : ((2 ^ format.precision - 1 : Nat) : Int) % 2 = 1 := by
    have := two_pow_precision proper
    have := Nat.two_pow_pos (format.precision - 1)
    omega
  have far : ((2 ^ format.precision - 1 : Nat) : Int) + 1 / 2 ≤ magnitude / 2 ^ format.spacing magnitude := by
    rw [equal, le_div_iff₀ (by positivity)]
    refine le_trans (le_of_eq ?_) large
    rw [limit, Int.cast_natCast, Nat.cast_sub Nat.one_le_two_pow]
    push_cast
    ring
  have := Rounding.lt_nearestEven_of_odd odd far
  rw [units]
  omega

theorem spacing_le_of_lt_limit (proper : format.IsProper) (positive : 0 < magnitude) (small : magnitude < format.limit) :
    format.spacing magnitude ≤ format.greatest := by
  refine spacing_le positive proper.ordered.le (small.trans ?_)
  rw [zpow_add₀ two_ne_zero, zpow_natCast, limit]
  gcongr
  linarith

theorem units_lt_of_lt_limit (small : magnitude < format.limit) (equal : format.spacing magnitude = format.greatest) :
    format.units magnitude < 2 ^ format.precision := by
  refine (units_le ?_).trans_lt (Nat.sub_one_lt (Nat.two_pow_pos _).ne')
  rw [equal, div_lt_iff₀ (by positivity)]
  refine small.trans_le (le_of_eq ?_)
  rw [limit, Nat.cast_sub Nat.one_le_two_pow]
  push_cast
  ring

end BinaryFormat

namespace Floating

open BinaryFormat

variable {format : BinaryFormat} {magnitude : Rat} {negative : Bool}

theorem ofMagnitude_zero : (ofMagnitude negative 0 : Floating format) = zero negative := if_pos rfl

theorem ofMagnitude_of_pos (positive : 0 < magnitude) : (ofMagnitude negative magnitude : Floating format) =
    if format.units magnitude = 2 ^ format.precision then
      ofParts negative (2 ^ (format.precision - 1)) (format.spacing magnitude + 1)
    else ofParts negative (format.units magnitude) (format.spacing magnitude) :=
  if_neg positive.ne'

theorem isFinite_ofParts {significand : Nat} {exponent : Int} :
    (ofParts negative significand exponent : Floating format).isFinite = true ↔ format.Canonical significand exponent := by
  rw [ofParts]
  split <;> simp_all [isFinite]

theorem magnitude_ofParts {significand : Nat} {exponent : Int} (canonical : format.Canonical significand exponent) :
    (ofParts negative significand exponent : Floating format).magnitude = significand * 2 ^ exponent := by
  rw [ofParts, dif_pos canonical]
  rfl

theorem magnitude_zero : (zero negative : Floating format).magnitude = 0 := by
  rw [zero, ofParts]
  split
  · exact (congrArg (· * _) Nat.cast_zero).trans (zero_mul _)
  · rfl

/-- A finite result is the count of units, also where the count has one bit too many. -/
theorem magnitude_ofMagnitude (proper : format.IsProper) (positive : 0 < magnitude)
    (finite : (ofMagnitude negative magnitude : Floating format).isFinite = true) :
    (ofMagnitude negative magnitude : Floating format).magnitude =
      format.units magnitude * 2 ^ format.spacing magnitude := by
  rw [ofMagnitude_of_pos positive] at finite ⊢
  split at finite
  · rename_i full
    rw [if_pos full, magnitude_ofParts (isFinite_ofParts.mp finite), full, two_pow_precision proper,
      zpow_add_one₀ two_ne_zero]
    push_cast
    ring
  · rename_i short
    rw [if_neg short, magnitude_ofParts (isFinite_ofParts.mp finite)]

theorem magnitude_ofMagnitude_le_units (proper : format.IsProper) (positive : 0 < magnitude) :
    (ofMagnitude negative magnitude : Floating format).magnitude ≤
      format.units magnitude * 2 ^ format.spacing magnitude := by
  cases result : (ofMagnitude negative magnitude : Floating format) with
  | finite => exact result ▸ (magnitude_ofMagnitude proper positive (result ▸ rfl)).le
  | nan | infinite =>
    change (0 : Rat) ≤ _
    positivity

/-- Only what lies half a unit beyond the greatest number is too large. -/
theorem isFinite_ofMagnitude_iff (proper : format.IsProper) (nonnegative : 0 ≤ magnitude) :
    (ofMagnitude negative magnitude : Floating format).isFinite = true ↔ magnitude < format.limit := by
  have ordered := proper.ordered
  have two_pow_pos := Nat.two_pow_pos (format.precision - 1)
  have doubled := two_pow_precision proper
  rcases nonnegative.eq_or_lt with rfl | positive
  · have finite : format.Canonical 0 format.least :=
      canonical_iff.mpr ⟨by positivity, le_rfl, ordered.le, .inr rfl⟩
    simp [ofMagnitude_zero, zero, isFinite_ofParts, finite, limit_pos]
  have count := @units_le_two_pow format _ positive
  have least : format.least ≤ format.spacing magnitude := le_max_left ..
  rw [ofMagnitude_of_pos positive]
  constructor
  · contrapose
    intro large
    have large := not_lt.mp large
    have coarse := greatest_le_spacing_of_limit_le proper positive large
    split
    · rw [isFinite_ofParts, canonical_iff]
      omega
    · rename_i open_
      have : format.spacing magnitude ≠ format.greatest :=
        fun equal => open_ (units_of_limit_le proper positive large equal)
      rw [isFinite_ofParts, canonical_iff]
      omega
  · intro small
    have fine := spacing_le_of_lt_limit proper positive small
    have spare := @units_lt_of_lt_limit format magnitude small
    split
    · rw [isFinite_ofParts, canonical_iff]
      omega
    · have normal := @two_pow_le_units format magnitude proper positive
      rw [isFinite_ofParts, canonical_iff]
      omega

/-- Rounding passes no number from which the magnitude is less than half a unit away. -/
theorem magnitude_ofMagnitude_le {significand : Nat} {exponent : Int} (proper : format.IsProper)
    (nonnegative : 0 ≤ magnitude) (normal : 2 ^ (format.precision - 1) ≤ significand)
    (fits : significand < 2 ^ format.precision) (least : format.least ≤ exponent)
    (close : magnitude < (significand + 1 / 2) * 2 ^ exponent) :
    (ofMagnitude negative magnitude : Floating format).magnitude ≤ significand * 2 ^ exponent := by
  rcases nonnegative.eq_or_lt with rfl | positive
  · rw [ofMagnitude_zero, magnitude_zero]
    positivity
  refine (magnitude_ofMagnitude_le_units proper positive).trans ?_
  have normal' : (2 : Rat) ^ (format.precision - 1 : Int) ≤ significand := by
    rw [← Nat.cast_one, ← Nat.cast_sub proper.precision_pos, zpow_natCast]
    exact_mod_cast normal
  -- On a finer grid even the fullest count stays below; on a coarser one the magnitude is already too large.
  rcases lt_trichotomy (format.spacing magnitude) exponent with finer | equal | coarser
  · have count : (format.units magnitude : Rat) ≤ 2 ^ (format.precision : Int) := by
      exact_mod_cast units_le_two_pow positive
    calc (format.units magnitude : Rat) * 2 ^ format.spacing magnitude
        ≤ 2 ^ (format.precision : Int) * 2 ^ (exponent - 1) := by
          gcongr
          · norm_num
          · omega
      _ = 2 ^ (format.precision - 1 : Int) * 2 ^ exponent := by
          rw [← zpow_add₀ two_ne_zero, ← zpow_add₀ two_ne_zero]
          ring_nf
      _ ≤ significand * 2 ^ exponent := by gcongr
  · rw [equal]
    gcongr
    apply units_le
    rw [equal, div_lt_iff₀ (by positivity)]
    exact close
  · have large := two_zpow_le_of_least_lt positive (least.trans_lt coarser)
    have step : (2 : Rat) ^ (format.precision - 1 + (exponent + 1) : Int) ≤ magnitude :=
      (zpow_le_zpow_right₀ (by norm_num) (by omega)).trans large
    have fits' : (significand : Rat) + 1 ≤ 2 ^ (format.precision : Int) := by exact_mod_cast fits
    refine absurd (step.trans_lt close) (not_lt.mpr ?_)
    rw [show (format.precision - 1 + (exponent + 1) : Int) = format.precision + exponent by ring, zpow_add₀ two_ne_zero]
    gcongr
    linarith

theorem limit_double : limit double = 2 ^ 1024 - 2 ^ 970 := by
  have whole : (2 : Rat) ^ 1024 = 2 ^ 53 * 2 * 2 ^ 970 := by rw [← pow_succ, ← pow_add]
  have half : (2 : Rat) ^ (971 : Int) = 2 * 2 ^ 970 := by rw [← pow_succ', zpow_ofNat]
  change (2 ^ 53 - 1 / 2) * (2 : Rat) ^ (971 : Int) = _
  rewrite [half, whole]
  generalize (2 : Rat) ^ 970 = unit
  ring

theorem ofInt_eq (value : Int) : (ofInt value : Number) = ofMagnitude (decide (value < 0)) value.natAbs := by
  rw [ofInt, ofRat, Nat.cast_natAbs]
  rcases lt_or_ge value 0 with below | above
  · rw [if_pos (Int.cast_lt_zero.mpr below), decide_eq_true below, abs_of_neg below, Int.cast_neg]
  · rw [if_neg (not_lt.mpr (Int.cast_nonneg above)), decide_eq_false (Int.not_lt.mpr above), abs_of_nonneg above]

/-- The sign of an integer has no part in whether a double is near enough to it. -/
theorem ofInt?_eq_none_iff_natAbs (value : Int) :
    (ofInt? value : Option Number) = none ↔ 2 ^ 1024 - 2 ^ 970 ≤ value.natAbs := by
  have finite := @isFinite_ofMagnitude_iff double value.natAbs (decide (value < 0)) double_isProper (Nat.cast_nonneg _)
  have threshold : (value.natAbs : Rat) < limit double ↔ value.natAbs < 2 ^ 1024 - 2 ^ 970 := by
    rw [limit_double, lt_sub_iff_add_lt, Nat.lt_sub_iff_add_lt]
    norm_cast
  rw [threshold, ← ofInt_eq] at finite
  simp only [ofInt?, ite_eq_right_iff, reduceCtorEq, imp_false, finite, not_lt]

theorem ofInt?_eq_none_iff (n : Nat) : (ofInt? n : Option Number) = none ↔ 2 ^ 1024 - 2 ^ 970 ≤ n :=
  ofInt?_eq_none_iff_natAbs n

end Floating
end SkyRegion
