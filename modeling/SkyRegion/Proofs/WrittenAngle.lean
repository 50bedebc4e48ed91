import SkyRegion.Proofs.WholeNumber
import SkyRegion.Proofs.WrittenRegion

/-! The angles of regions as they are written. A rotation that fits a single-precision number still does when it is
measured from the other axis: the largest of them lies so far below the limit that a turn more is rounded away. -/

namespace SkyRegion

open Text

namespace Floating

open BinaryFormat

variable {format : BinaryFormat}

/-- Between a number and the next there is none. -/
theorem magnitude_le_of_lt {x : Floating format} {significand : Nat} {exponent : Int} (proper : format.IsProper)
    (normal : 2 ^ (format.precision - 1) ≤ significand) (below : x.magnitude < (significand + 1) * 2 ^ exponent) :
    x.magnitude ≤ significand * 2 ^ exponent := by
  cases x with
  | finite negative count spacing canonical =>
    change (count : Rat) * 2 ^ spacing < _ at below
    change (count : Rat) * 2 ^ spacing ≤ _
    -- A finer number has too few bits to come between, and a coarser one is a whole count of the units.
    rcases lt_or_ge spacing exponent with finer | coarser
    · have doubled := two_pow_precision proper
      have bound : (count : Rat) ≤ 2 * significand := by
        have := (canonical_iff.mp canonical).1
        exact_mod_cast (by omega : count ≤ 2 * significand)
      calc (count : Rat) * 2 ^ spacing
          ≤ 2 * significand * 2 ^ (exponent - 1) := by
            gcongr
            · norm_num
            · omega
        _ = significand * 2 ^ exponent := by
            rw [zpow_sub_one₀ two_ne_zero]
            ring
    · obtain ⟨shift, rfl⟩ := Int.le.dest coarser
      rw [zpow_add₀ two_ne_zero, zpow_natCast, mul_comm (2 ^ exponent : Rat), ← mul_assoc] at below ⊢
      have smaller := lt_of_mul_lt_mul_right below (by positivity)
      gcongr
      have : count * 2 ^ shift < significand + 1 := by exact_mod_cast smaller
      exact_mod_cast Nat.le_of_lt_succ this
  | nan | infinite =>
    change (0 : Rat) ≤ _
    positivity

end Floating

open Floating BinaryFormat

namespace Number

/-- The significand of the last double before the limit of the single-precision numbers. -/
def singleSignificand : Nat := 2 ^ 53 - 2 ^ 28 - 1

def greatestSingle : Rat := singleSignificand * 2 ^ (75 : Int)

theorem limit_single : limit single = (singleSignificand + 1) * 2 ^ (75 : Int) := by
  have coarse : (2 : Rat) ^ (104 : Int) = 2 ^ 29 * 2 ^ (75 : Int) := by
    rw [← zpow_natCast, ← zpow_add₀ two_ne_zero]
    rfl
  change (2 ^ 24 - 1 / 2 : Rat) * 2 ^ (104 : Int) = _
  rw [coarse, singleSignificand]
  norm_num

/-- A finite number that is no infinite single-precision number. -/
structure FitsSingle (x : Number) : Prop where
  finite : x.isFinite = true
  bound : x.magnitude ≤ greatestSingle

theorem isFinite_convert_iff (x : Number) : (x.convert : Floating .single).isFinite = true ↔ x.FitsSingle := by
  have step : greatestSingle < limit single := by
    rw [limit_single, greatestSingle]
    gcongr
    exact lt_add_one _
  constructor
  · intro converted
    have finite : x.isFinite = true := by
      cases x <;> first | rfl | cases converted
    rw [convert_of_isFinite finite, isFinite_ofMagnitude_iff single_isProper x.magnitude_nonneg, limit_single] at converted
    exact ⟨finite, magnitude_le_of_lt double_isProper (by decide) converted⟩
  · rintro ⟨finite, bound⟩
    rw [convert_of_isFinite finite, isFinite_ofMagnitude_iff single_isProper x.magnitude_nonneg]
    exact bound.trans_lt step

/-- Less than a turn beyond the bound is rounded away. -/
theorem FitsSingle.of_sum {x y : Number} (finite : x.isFinite = true) (finite' : y.isFinite = true)
    (near : |x.toRat + y.toRat| ≤ greatestSingle + 360) : (x + y).FitsSingle := by
  have room : greatestSingle + 360 < (singleSignificand + 1 / 2) * 2 ^ (75 : Int) := by
    rw [greatestSingle, add_mul]
    norm_num
  have limit : (singleSignificand + 1 / 2) * 2 ^ (75 : Int) ≤ limit double := by
    change _ ≤ (2 ^ 53 - 1 / 2 : Rat) * 2 ^ (971 : Int)
    gcongr
    · norm_num [singleSignificand]
    · norm_num
    · decide
  have close := near.trans_lt room
  rw [add_of_isFinite finite finite']
  split
  · have zero := @isInt_ofMagnitude _ double_holdsIntegers (x.isNegative && y.isNegative) 0 (by decide)
    rw [Nat.cast_zero, ofMagnitude_zero] at zero
    exact ⟨zero.finite, magnitude_zero.trans_le (by rw [greatestSingle]; positivity)⟩
  · rw [ofRat_eq_ofMagnitude]
    exact ⟨(isFinite_ofMagnitude_iff double_isProper (abs_nonneg _)).mpr (close.trans_le limit),
      magnitude_ofMagnitude_le double_isProper (abs_nonneg _) (by decide) (by decide) (by decide) close⟩

theorem FitsSingle.toHorizontal {rotation : Number} (fits : rotation.FitsSingle) : (toHorizontal rotation).FitsSingle := by
  have quarter := isInt_ofNat 90 (by decide)
  have full := isInt_ofNat 360 (by decide)
  have bound : |rotation.toRat| ≤ greatestSingle := (abs_toRat rotation).trans_le fits.bound
  have turned : (rotation + 90).FitsSingle := by
    refine .of_sum fits.finite quarter.finite ((abs_add_le _ _).trans ?_)
    rw [quarter.value]
    norm_num
    linarith
  unfold SkyRegion.toHorizontal
  dsimp only
  split
  · have bound : |(rotation + 90).toRat| ≤ greatestSingle := (abs_toRat _).trans_le turned.bound
    refine .of_sum turned.finite full.neg.finite ((abs_add_le _ _).trans ?_)
    change _ + |(-(360 : Number)).toRat| ≤ _
    rw [full.neg.value]
    norm_num
    linarith
  · exact turned

end Number

/-- Words for what is no number. -/
def notNumbers : List Text := ["nan", "inf", "-inf"].map (·.toList)

theorem Number.angleText_cases (angle : Number) : IsNumberText angle.angleText ∨
    (angle.convert : Floating .single).isFinite = false ∧ angle.angleText ∈ notNumbers := by
  rw [Number.angleText]
  cases converted : (angle.convert : Floating .single) with
  | finite negative count spacing canonical => exact .inl (positional_isNumberText rfl)
  | infinite negative =>
    cases negative
    · exact .inr ⟨rfl, List.mem_of_getElem (show notNumbers[1] = _ from rfl)⟩
    · exact .inr ⟨rfl, List.mem_of_getElem (show notNumbers[2] = _ from rfl)⟩
  | nan => exact .inr ⟨rfl, List.mem_cons_self⟩

namespace Region

variable {region : Region} {keyword : ShapeKeyword} {arguments : List Text}

/-- An angle as it may be written: the rotation, or the rotation from the other axis. -/
def IsAngle (region : Region) (angle : Number) : Prop := angle = region.rotation ∨ angle = toHorizontal region.rotation

/-- A definition whose last argument is an angle that is no number. -/
structure IsUnread (region : Region) (keyword : ShapeKeyword) (arguments : List Text) (angle : Number) : Prop where
  shaped : keyword = .box ∨ keyword = .ellipse
  turned : region.IsAngle angle
  unlimited : (angle.convert : Floating .single).isFinite = false
  refused : angle.angleText ∈ notNumbers
  form : ∃ x y width height, arguments = [x, y, width, height, angle.angleText] ∧
    ∀ argument ∈ [x, y, width, height], IsNumberText argument

/-- The numbers of a region are written as such, unless it has an angle that is none. -/
theorem WrittenAs.plain_or (written : region.WrittenAs keyword arguments) (drawable : region.IsDrawable) :
    (∀ argument ∈ arguments, IsNumberText argument) ∨ ∃ angle, region.IsUnread keyword arguments angle := by
  have point {point : Point} (listed : point ∈ region.points) : ∀ text ∈ pointTexts point, IsNumberText text := by
    simp only [pointTexts, List.forall_mem_cons]
    have x := fixed_isNumberText (drawable.x point listed) 1
    have y := fixed_isNumberText (drawable.y point listed) 1
    exact ⟨x, y, List.forall_mem_nil _⟩
  cases written with
  | point kind points => exact .inl (point (by simp [points]))
  | @box center size kind points =>
    have front := List.forall_mem_append.mpr ⟨point (show center ∈ _ by simp [points]), point (show size ∈ _ by simp [points])⟩
    rcases region.rotation.angleText_cases with plain | ⟨unlimited, refused⟩
    · exact .inl (List.forall_mem_append.mpr ⟨front, List.forall_mem_singleton.mpr plain⟩)
    · exact .inr ⟨_, .inl rfl, .inl rfl, unlimited, refused, _, _, _, _, rfl, front⟩
  | @circle center size kind points equal =>
    simp only [List.forall_mem_append, List.forall_mem_singleton]
    exact .inl ⟨point (by simp [points]), fixed_isNumberText (drawable.x size (by simp [points])) 1⟩
  | @ellipse center size kind points unequal =>
    have front := List.forall_mem_append.mpr ⟨point (show center ∈ _ by simp [points]), point (show size ∈ _ by simp [points])⟩
    rw [angleTexts]
    split
    · rcases (toHorizontal region.rotation).angleText_cases with plain | ⟨unlimited, refused⟩
      · exact .inl (List.forall_mem_append.mpr ⟨front, List.forall_mem_singleton.mpr plain⟩)
      · exact .inr ⟨_, .inr rfl, .inr rfl, unlimited, refused, _, _, _, _, rfl, front⟩
    · exact .inl (List.forall_mem_append.mpr ⟨front, List.forall_mem_nil _⟩)
  | polygon kind enough =>
    refine .inl fun argument listed => ?_
    obtain ⟨vertex, listed, member⟩ := List.mem_flatMap.mp listed
    exact point listed argument member

theorem WrittenAs.plain (written : region.WrittenAs keyword arguments) (writable : region.IsWritable) :
    ∀ argument ∈ arguments, IsNumberText argument := by
  rcases written.plain_or writable.isDrawable with plain | ⟨angle, unread⟩
  · exact plain
  · have rotation := (Number.isFinite_convert_iff region.rotation).mp writable.rotation
    have limited : (angle.convert : Floating .single).isFinite = true := by
      rcases unread.turned with rfl | rfl
      · exact writable.rotation
      · exact (Number.isFinite_convert_iff _).mpr rotation.toHorizontal
    rw [unread.unlimited] at limited
    cases limited

end Region
end SkyRegion
