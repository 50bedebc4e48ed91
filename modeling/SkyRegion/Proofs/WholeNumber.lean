import SkyRegion.Proofs.Equality
import SkyRegion.Proofs.Rounding
import SkyRegion.Shape.Reading
import SkyRegion.Writer.Format

/-! Numbers that are integers. As long as an integer fits the significand it is not rounded, so sums, differences
and comparisons of such numbers are those of the integers. -/

namespace SkyRegion

namespace Rounding

theorem nearestEven_natCast (n : Nat) : nearestEven (n : Rat) = n := by
  apply le_antisymm
  · exact nearestEven_le (by push_cast; linarith)
  · exact le_nearestEven (by push_cast; linarith)

end Rounding

namespace Floating

open BinaryFormat

variable {format : BinaryFormat}

theorem isNegative_ofParts (negative : Bool) (significand : Nat) (exponent : Int) :
    (ofParts negative significand exponent : Floating format).isNegative = negative := by
  rw [ofParts]
  split <;> rfl

theorem isNegative_ofMagnitude (negative : Bool) (magnitude : Rat) :
    (ofMagnitude negative magnitude : Floating format).isNegative = negative := by
  rw [ofMagnitude]
  split
  · exact isNegative_ofParts ..
  · simp only
    split <;> exact isNegative_ofParts ..

/-- The integers up to the significand are numbers of a format that has a unit. -/
structure HoldsIntegers (format : BinaryFormat) : Prop extends format.IsProper where
  least_le : format.least ≤ 0
  le_greatest : 0 ≤ format.greatest

theorem double_holdsIntegers : HoldsIntegers double := ⟨double_isProper, by decide, by decide⟩

theorem single_holdsIntegers : HoldsIntegers single := ⟨single_isProper, by decide, by decide⟩

/-- What the significand can count at an exponent is counted at the spacing without a remainder. -/
theorem units_of_lt {significand : Nat} {exponent : Int} (positive : 0 < significand)
    (small : significand < 2 ^ format.precision) (least : format.least ≤ exponent) :
    (format.units (significand * 2 ^ exponent) : Rat) * 2 ^ format.spacing (significand * 2 ^ exponent) =
      significand * 2 ^ exponent := by
  have positive' : (0 : Rat) < significand := by exact_mod_cast positive
  have fine : format.spacing (significand * 2 ^ exponent) ≤ exponent := by
    refine spacing_le (by positivity) least ?_
    rw [zpow_add₀ two_ne_zero, zpow_natCast]
    gcongr
    exact_mod_cast small
  obtain ⟨shift, equal⟩ := Int.eq_ofNat_of_zero_le (sub_nonneg.mpr fine)
  have scale : (2 : Rat) ^ exponent = 2 ^ shift * 2 ^ format.spacing (significand * 2 ^ exponent) := by
    rw [← zpow_natCast, ← zpow_add₀ two_ne_zero]
    congr 1
    omega
  have count : (significand * 2 ^ exponent : Rat) / 2 ^ format.spacing (significand * 2 ^ exponent) =
      ((significand * 2 ^ shift : Nat) : Rat) := by
    rw [div_eq_iff (by positivity)]
    push_cast
    rw [mul_assoc, ← scale]
  rw [units, count, Rounding.nearestEven_natCast, Int.toNat_natCast]
  push_cast
  rw [mul_assoc, ← scale]

/-- What the significand can count at an exponent of the format is not rounded. -/
theorem magnitude_ofMagnitude_of_lt (proper : format.IsProper) (negative : Bool) {significand : Nat} {exponent : Int}
    (small : significand < 2 ^ format.precision) (least : format.least ≤ exponent) (greatest : exponent ≤ format.greatest) :
    (ofMagnitude negative (significand * 2 ^ exponent) : Floating format).isFinite = true ∧
      (ofMagnitude negative (significand * 2 ^ exponent) : Floating format).magnitude = significand * 2 ^ exponent := by
  have bounded : (significand * 2 ^ exponent : Rat) < format.limit := by
    have below : (significand : Rat) < 2 ^ format.precision - 1 / 2 := by
      have : (significand : Rat) + 1 ≤ 2 ^ format.precision := by exact_mod_cast small
      linarith
    have rise : (2 : Rat) ^ exponent ≤ 2 ^ format.greatest := zpow_le_zpow_right₀ (by norm_num) greatest
    have nonneg : (0 : Rat) ≤ significand := by positivity
    rw [limit]
    exact mul_lt_mul below rise (by positivity) (nonneg.trans below.le)
  have finite := (@isFinite_ofMagnitude_iff format _ negative proper (by positivity)).mpr bounded
  refine ⟨finite, ?_⟩
  rcases Nat.eq_zero_or_pos significand with rfl | positive
  · rw [Nat.cast_zero, zero_mul, ofMagnitude_zero, magnitude_zero]
  · rw [magnitude_ofMagnitude proper (by positivity) finite, units_of_lt positive small least]

theorem magnitude_ofMagnitude_natCast (holds : HoldsIntegers format) (negative : Bool) {n : Nat}
    (small : n < 2 ^ format.precision) : (ofMagnitude negative n : Floating format).isFinite = true ∧
      (ofMagnitude negative n : Floating format).magnitude = n := by
  have exact := magnitude_ofMagnitude_of_lt holds.toIsProper negative small holds.least_le holds.le_greatest
  rwa [zpow_zero, mul_one] at exact

/-- The magnitude of a finite number is not rounded again. -/
theorem magnitude_ofMagnitude_magnitude (proper : format.IsProper) (negative : Bool) {x : Floating format}
    (finite : x.isFinite = true) : (ofMagnitude negative x.magnitude : Floating format).isFinite = true ∧
      (ofMagnitude negative x.magnitude : Floating format).magnitude = x.magnitude := by
  cases x with
  | finite sign significand exponent canonical =>
    obtain ⟨small, least, greatest, _⟩ := canonical_iff.mp canonical
    exact magnitude_ofMagnitude_of_lt proper negative small least greatest
  | _ => cases finite

theorem abs_toRat (x : Floating format) : |x.toRat| = x.magnitude := by
  rw [toRat]
  split
  · rw [abs_neg, abs_of_nonneg x.magnitude_nonneg]
  · exact abs_of_nonneg x.magnitude_nonneg

theorem ofRat_eq_ofMagnitude (value : Rat) : (ofRat value : Floating format) = ofMagnitude (value < 0) |value| := by
  rw [ofRat]
  split
  · rw [decide_eq_true ‹_›, abs_of_neg ‹_›]
  · rw [decide_eq_false ‹_›, abs_of_nonneg (not_lt.mp ‹_›)]

/-- The value of a finite number is not rounded again. -/
theorem toRat_ofRat (proper : format.IsProper) {x : Floating format} (finite : x.isFinite = true) :
    (ofRat x.toRat : Floating format).isFinite = true ∧ (ofRat x.toRat : Floating format).toRat = x.toRat := by
  obtain ⟨finite', magnitude⟩ := magnitude_ofMagnitude_magnitude proper (decide (x.toRat < 0)) finite
  rw [ofRat_eq_ofMagnitude, abs_toRat]
  refine ⟨finite', ?_⟩
  rw [toRat, isNegative_ofMagnitude, magnitude, ← abs_toRat]
  rcases lt_or_ge x.toRat 0 with below | above
  · rw [decide_eq_true below, if_pos rfl, abs_of_neg below, neg_neg]
  · rw [decide_eq_false (not_lt.mpr above), if_neg Bool.false_ne_true, abs_of_nonneg above]

/-- A finite number whose value is an integer. -/
structure IsInt (x : Floating format) (n : Int) : Prop where
  finite : x.isFinite = true
  value : x.toRat = n

instance (x : Floating format) (n : Int) : Decidable (IsInt x n) :=
  decidable_of_iff (x.isFinite = true ∧ x.toRat = n)
    ⟨fun whole => ⟨whole.1, whole.2⟩, fun whole => ⟨whole.finite, whole.value⟩⟩

theorem isInt_ofMagnitude (holds : HoldsIntegers format) (negative : Bool) {n : Nat} (small : n < 2 ^ format.precision) :
    IsInt (ofMagnitude negative n : Floating format) (if negative then -n else n) := by
  obtain ⟨finite, magnitude⟩ := magnitude_ofMagnitude_natCast holds negative small
  refine ⟨finite, ?_⟩
  rw [toRat, isNegative_ofMagnitude, magnitude]
  cases negative <;> simp

theorem isInt_ofInt (holds : HoldsIntegers format) {n : Int} (small : n.natAbs < 2 ^ format.precision) :
    IsInt (ofInt n : Floating format) n := by
  have magnitude : |(n : Rat)| = (n.natAbs : Rat) := by rw [Nat.cast_natAbs, Int.cast_abs]
  have whole := isInt_ofMagnitude holds (decide ((n : Rat) < 0)) small
  rw [ofInt, ofRat_eq_ofMagnitude, magnitude]
  convert whole using 1
  rcases lt_or_ge n 0 with below | above
  · simp [below, abs_of_neg below]
  · simp [not_lt.mpr above, abs_of_nonneg above]

/-- The value of a sum is the sum of the values, rounded once. -/
theorem add_of_isFinite {x y : Floating format} (finite : x.isFinite = true) (finite' : y.isFinite = true) :
    x + y = if x.toRat + y.toRat = 0 then zero (x.isNegative && y.isNegative) else ofRat (x.toRat + y.toRat) := by
  cases x with
  | finite => cases y with
    | finite => rfl
    | _ => cases finite'
  | _ => cases finite

theorem below_iff {x y : Floating format} (finite : x.isFinite = true) (finite' : y.isFinite = true) :
    x.below y = true ↔ x.toRat < y.toRat := by
  cases x with
  | finite => cases y with
    | finite => exact decide_eq_true_iff
    | _ => cases finite'
  | _ => cases finite

theorem convert_of_isFinite {target : BinaryFormat} {x : Floating format} (finite : x.isFinite = true) :
    (x.convert : Floating target) = ofMagnitude x.isNegative x.magnitude := by
  cases x <;> first | rfl | cases finite

theorem isFinite_neg (x : Floating format) : (-x).isFinite = x.isFinite := by
  cases x <;> rfl

theorem toRat_neg (x : Floating format) : (-x).toRat = -x.toRat := by
  cases x with
  | finite negative significand exponent canonical =>
    change (if !negative then _ else _) = -(if negative then _ else _)
    cases negative
    · rfl
    · exact (neg_neg _).symm
  | infinite negative => cases negative <;> exact neg_zero.symm
  | nan => exact neg_zero.symm

namespace IsInt

variable {x y : Floating format} {m n : Int}

theorem magnitude (whole : IsInt x n) : x.magnitude = n.natAbs := by
  rw [← abs_toRat, whole.value, Nat.cast_natAbs, Int.cast_abs]

/-- A small integer is one in single precision too. -/
theorem isFinite_convert (whole : IsInt x n) (small : n.natAbs < 2 ^ 24) :
    (x.convert : Floating .single).isFinite = true := by
  rw [convert_of_isFinite whole.finite, whole.magnitude]
  exact (isInt_ofMagnitude single_holdsIntegers _ small).finite

theorem add (holds : HoldsIntegers format) (first : IsInt x m) (second : IsInt y n)
    (small : (m + n).natAbs < 2 ^ format.precision) : IsInt (x + y) (m + n) := by
  have sum : x.toRat + y.toRat = ((m + n : Int) : Rat) := by
    rw [first.value, second.value, Int.cast_add]
  rw [add_of_isFinite first.finite second.finite, sum]
  split
  · rename_i cancelled
    have cancelled : m + n = 0 := by exact_mod_cast cancelled
    have whole := @isInt_ofMagnitude _ holds (x.isNegative && y.isNegative) 0 (Nat.two_pow_pos _)
    rw [Nat.cast_zero, ofMagnitude_zero] at whole
    rw [cancelled]
    simpa using whole
  · exact isInt_ofInt holds small

theorem neg (whole : IsInt x n) : IsInt (-x) (-n) :=
  ⟨(isFinite_neg x).trans whole.finite, by rw [toRat_neg, whole.value, Int.cast_neg]⟩

theorem sub (holds : HoldsIntegers format) (first : IsInt x m) (second : IsInt y n)
    (small : (m - n).natAbs < 2 ^ format.precision) : IsInt (x - y) (m - n) := by
  rw [Int.sub_eq_add_neg] at small ⊢
  exact first.add holds second.neg small

theorem below_iff (first : IsInt x m) (second : IsInt y n) : x.below y = true ↔ m < n := by
  rw [Floating.below_iff first.finite second.finite, first.value, second.value, Int.cast_lt]

theorem same (first : IsInt x n) (second : IsInt y n) : x.same y = true :=
  (same_iff first.finite second.finite).mpr (first.value.trans second.value.symm)

end IsInt

end Floating

open Floating

theorem Number.isInt_ofNat (n : Nat) (small : n < 2 ^ 53) : IsInt (OfNat.ofNat n : Number) n :=
  isInt_ofInt double_holdsIntegers small

/-- Whole degrees measured from the other axis, either way. -/
def degreesToHorizontal (degrees : Int) : Int := if 270 < degrees then degrees - 270 else degrees + 90

def degreesFromVertical (degrees : Int) : Int := if degrees < 90 then degrees + 270 else degrees - 90

theorem toHorizontal_isInt {rotation : Number} {degrees : Int} (whole : IsInt rotation degrees)
    (small : degrees.natAbs < 2 ^ 52) : IsInt (toHorizontal rotation) (degreesToHorizontal degrees) := by
  have quarter := whole.add double_holdsIntegers (Number.isInt_ofNat 90 (by decide)) (by change _ < 2 ^ 53; omega)
  have full := Number.isInt_ofNat 360 (by decide)
  have beyond := full.below_iff quarter
  unfold toHorizontal degreesToHorizontal
  dsimp only
  split
  · rename_i more
    have more := beyond.mp more
    rw [if_pos (by omega)]
    convert quarter.sub double_holdsIntegers full (by change _ < 2 ^ 53; omega) using 1
    omega
  · rename_i within
    have within := mt beyond.mpr within
    rw [if_neg (by omega)]
    exact quarter

theorem fromVertical_isInt {angle : Number} {degrees : Int} (whole : IsInt angle degrees)
    (small : degrees.natAbs < 2 ^ 52) : IsInt (Shape.fromVertical angle) (degreesFromVertical degrees) := by
  have back := whole.sub double_holdsIntegers (Number.isInt_ofNat 90 (by decide)) (by change _ < 2 ^ 53; omega)
  have under := back.below_iff (Number.isInt_ofNat 0 (by decide))
  unfold Shape.fromVertical degreesFromVertical
  dsimp only
  split
  · rename_i more
    have more := under.mp more
    rw [if_pos (by omega)]
    convert back.add double_holdsIntegers (Number.isInt_ofNat 360 (by decide)) (by change _ < 2 ^ 53; omega) using 1
    omega
  · rename_i within
    have within := mt under.mpr within
    rw [if_neg (by omega)]
    exact back

end SkyRegion
