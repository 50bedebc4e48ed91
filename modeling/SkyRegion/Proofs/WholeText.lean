import SkyRegion.Proofs.NumberText
import SkyRegion.Proofs.WholeNumber

/-! Texts of whole numbers. The shortest digits of a whole number are its own without the zeros at the end, and the
layout puts those back; so an angle of whole degrees is written with its decimal digits, and they are read as it. -/

namespace SkyRegion

open Text

theorem Text.ofNat_mul_ten_pow {n : Nat} (positive : 0 < n) (zeros : Nat) :
    Text.ofNat (n * 10 ^ zeros) = Text.ofNat n ++ List.replicate zeros '0' := by
  induction zeros with
  | zero => simp
  | succ zeros ih =>
    have digits := @Nat.toDigits_append_toDigits 10 (n * 10 ^ zeros) 0 (by decide) (by positivity) (by decide)
    rw [List.replicate_succ', ← List.append_assoc, ← ih, pow_succ', Nat.mul_left_comm]
    exact digits.symm

namespace PlacedDigits

/-- Taking off the zeros at the end and putting them back. -/
theorem split_ofScaled (digits scale : Nat) :
    (ofScaled ⟨digits, scale⟩).split = (Text.ofNat digits ++ List.replicate scale '0', []) := by
  set written := Text.ofNat digits with text
  set stripped := (written.reverse.dropWhile (· = '0')).reverse with significant
  have present : 0 < written.length := Nat.length_toDigits_pos
  obtain ⟨zeros, restored⟩ : ∃ zeros, written = stripped ++ List.replicate zeros '0' := by
    refine ⟨(written.reverse.takeWhile (· = '0')).reverse.length, ?_⟩
    have parts := congrArg List.reverse (@List.takeWhile_append_dropWhile _ (· = '0') written.reverse)
    rw [List.reverse_append, List.reverse_reverse, ← significant] at parts
    refine parts.symm.trans (congrArg (stripped ++ ·) (List.eq_replicate_of_mem fun c member => ?_))
    simpa using List.mem_takeWhile_imp (List.mem_reverse.mp member)
  have count : written.length = stripped.length + zeros := by
    simpa using congrArg List.length restored
  have placed : ofScaled ⟨digits, scale⟩ = ⟨stripped, written.length + scale⟩ := rfl
  have before : ((written.length : Int) + scale).toNat = stripped.length + (zeros + scale) := by omega
  rw [placed, split, if_neg (by dsimp only; omega)]
  dsimp only
  rw [before, List.take_of_length_le (by omega), List.drop_of_length_le (by omega), Nat.add_sub_cancel_left,
    List.replicate_add, ← List.append_assoc, ← restored]

end PlacedDigits

namespace Floating

variable {format : BinaryFormat} {negative : Bool} {n : Nat}

theorem readsBack_natCast (holds : HoldsIntegers format) {digits scale : Nat} (small : n < 2 ^ format.precision)
    (small' : digits * 10 ^ scale < 2 ^ format.precision) :
    (ofMagnitude negative n : Floating format).readsBack ⟨digits, scale⟩ = decide (digits * 10 ^ scale = n) := by
  have written : (⟨digits, scale⟩ : ScaledDigits).toRat = (digits * 10 ^ scale : Nat) := by
    rw [ScaledDigits.toRat, zpow_natCast]
    push_cast
    rfl
  rw [readsBack, isNegative_ofMagnitude, written, decide_eq_decide]
  constructor
  · intro same
    have magnitudes := congrArg magnitude same
    rw [(magnitude_ofMagnitude_natCast holds negative small).2,
      (magnitude_ofMagnitude_natCast holds negative small').2] at magnitudes
    exact_mod_cast magnitudes
  · rintro rfl
    rfl

/-- On the grid of a power of ten a whole number is met exactly or not at all. -/
theorem onGrid?_natCast (holds : HoldsIntegers format) {scale : Nat} (small : 2 * n < 2 ^ format.precision)
    (within : 10 ^ scale ≤ n) : (ofMagnitude negative n : Floating format).onGrid? scale =
      if 10 ^ scale ∣ n then some ⟨n / 10 ^ scale, scale⟩ else none := by
  have spaced : 0 < 10 ^ scale := by positivity
  have position : ((ofMagnitude negative n : Floating format).magnitude / 10 ^ (scale : Int)).floor.toNat =
      n / 10 ^ scale := by
    have floor := Rat.floor_natCast_div_natCast n (10 ^ scale)
    rw [(magnitude_ofMagnitude_natCast holds negative (by omega)).2, zpow_natCast]
    push_cast at floor
    change ⌊(n / 10 ^ scale : Rat)⌋.toNat = _
    rw [floor]
    exact_mod_cast Int.toNat_natCast _
  have lower := Nat.div_mul_le_self n (10 ^ scale)
  have upper := Nat.lt_mul_div_succ n spaced
  have next : (n / 10 ^ scale + 1) * 10 ^ scale = n / 10 ^ scale * 10 ^ scale + 10 ^ scale := Nat.succ_mul ..
  rw [Nat.mul_comm] at upper
  simp only [onGrid?, position]
  rw [readsBack_natCast holds (by omega) (by omega), readsBack_natCast holds (by omega) (by omega),
    decide_eq_false upper.ne']
  by_cases divides : 10 ^ scale ∣ n
  · rw [if_pos divides, decide_eq_true (Nat.div_mul_cancel divides)]
  · rw [if_neg divides, decide_eq_false (mt (Nat.dvd_iff_div_mul_eq ..).mpr divides)]

theorem shortestFrom_natCast (holds : HoldsIntegers format) (small : 2 * n < 2 ^ format.precision) {attempts scale : Nat}
    (within : 10 ^ scale ≤ n) (enough : scale < attempts) : ∃ zeros : Nat, 10 ^ zeros ∣ n ∧
      (ofMagnitude negative n : Floating format).shortestFrom attempts scale = ⟨n / 10 ^ zeros, zeros⟩ := by
  -- One divides every number, so the search ends at the grid of ones if not before.
  induction attempts generalizing scale with
  | zero => exact absurd enough (Nat.not_lt_zero _)
  | succ attempts ih =>
    rw [shortestFrom, onGrid?_natCast holds small within]
    by_cases divides : 10 ^ scale ∣ n
    · exact ⟨scale, divides, by rw [if_pos divides]; rfl⟩
    · obtain ⟨finer, rfl⟩ : ∃ finer, scale = finer + 1 :=
        Nat.exists_eq_succ_of_ne_zero fun unit => divides (unit ▸ one_dvd n)
      have closer : 10 ^ finer ≤ n := (Nat.pow_le_pow_right (by decide) (Nat.le_succ _)).trans within
      obtain ⟨zeros, whole, found⟩ := ih closer (by omega)
      refine ⟨zeros, whole, ?_⟩
      rw [if_neg divides, Option.getD_none, ← found]
      congr 1
      omega

theorem decade_natCast (positive : 0 < n) :
    Rounding.decade n = ((Nat.toDigits 10 n).length - 1 : Nat) := by
  have one_le : (1 : Rat) ≤ n := by exact_mod_cast positive
  have floor : (n : Rat).floor.toNat = n := by
    change ⌊(n : Rat)⌋.toNat = n
    rw [Int.floor_natCast, Int.toNat_natCast]
  have present := @Nat.length_toDigits_pos 10 n
  rw [Rounding.decade, if_pos one_le, floor]
  omega

theorem shortest_natCast (holds : HoldsIntegers format) (small : 2 * n < 2 ^ format.precision) (short : n < 10 ^ 17) :
    ∃ digits zeros : Nat, (ofMagnitude negative n : Floating format).shortest = ⟨digits, zeros⟩ ∧
      Text.ofNat digits ++ List.replicate zeros '0' = Text.ofNat n := by
  have magnitude := (@magnitude_ofMagnitude_natCast format holds negative n (by omega)).2
  rw [shortest, magnitude]
  rcases Nat.eq_zero_or_pos n with rfl | positive
  · exact ⟨0, 0, rfl, List.append_nil _⟩
  have length := @Nat.length_toDigits_le_iff 10 n
  have within : 10 ^ ((Nat.toDigits 10 n).length - 1) ≤ n := by
    rcases Nat.eq_zero_or_pos ((Nat.toDigits 10 n).length - 1) with single | several
    · rw [single]
      exact positive
    · have reaches := mt (length (by decide) several).mpr
      omega
  have enough := (length (by decide) (by decide)).mpr short
  obtain ⟨zeros, ⟨digits, rfl⟩, found⟩ := @shortestFrom_natCast _ negative _ holds small 17 _ within (by omega)
  refine ⟨digits, zeros, ?_, ?_⟩
  · rw [if_neg (by exact_mod_cast positive.ne'), decade_natCast positive, found, Nat.mul_div_cancel_left _ (by positivity)]
  · rw [Nat.mul_comm, Text.ofNat_mul_ten_pow (Nat.pos_of_mul_pos_left positive)]

theorem positional_natCast (holds : HoldsIntegers format) (small : 2 * n < 2 ^ format.precision) (short : n < 10 ^ 17) :
    (ofMagnitude negative n : Floating format).positional = (if negative then ['-'] else []) ++ Text.ofNat n := by
  obtain ⟨digits, zeros, shortest, restored⟩ := @shortest_natCast format negative n holds small short
  rw [positional_of_isFinite (magnitude_ofMagnitude_natCast holds negative (by omega)).1, shortest,
    PlacedDigits.split_ofScaled, isNegative_ofMagnitude, restored]
  simp [Decimal.text]

end Floating

open Floating

theorem Number.ofText?_ofNat (negative : Bool) (n : Nat) :
    ofText? ((if negative then ['-'] else []) ++ Text.ofNat n) = some (ofDecimal negative n 0) := by
  obtain ⟨numeral, wellFormed, text, sign, same, plain⟩ := @numeral_of_parts negative ⟨Text.ofNat n, none⟩
    Nat.toDigits_ne_nil (fun _ => isDigit_of_mem_ofNat) (List.forall_mem_nil _)
  have read := wellFormed.ofText?_text
  rw [text, Numeral.toNumber, sign, same, plain] at read
  simpa [Decimal.text, Decimal.digits, Decimal.places, digitsValue_ofNat] using read

theorem Number.isInt_ofDecimal (negative : Bool) {n : Nat} (small : n < 2 ^ 53) :
    IsInt (ofDecimal negative n 0) (if negative then -n else n) := by
  have whole := isInt_ofMagnitude double_holdsIntegers negative small
  rw [ofDecimal]
  split
  · rename_i zero
    subst zero
    rwa [Nat.cast_zero, ofMagnitude_zero] at whole
  · rw [if_neg (by decide), if_neg (by omega), zpow_zero, mul_one]
    exact whole

theorem Number.angleText_of_isInt {angle : Number} {n : Nat} (whole : IsInt angle n) (small : n < 2 ^ 23) :
    angle.angleText = (if angle.isNegative then ['-'] else []) ++ Text.ofNat n := by
  rw [angleText, convert_of_isFinite whole.finite, whole.magnitude, Int.natAbs_natCast]
  exact positional_natCast single_holdsIntegers (by change _ < 2 ^ 24; omega) (by omega)

/-- An angle of whole degrees is read as it was written. -/
theorem Number.number_angleText {angle : Number} {degrees : Int} (whole : IsInt angle degrees) (nonneg : 0 ≤ degrees)
    (small : degrees < 2 ^ 23) : IsInt angle.angleText.number degrees := by
  obtain ⟨n, rfl⟩ := Int.eq_ofNat_of_zero_le nonneg
  have small : n < 2 ^ 23 := by exact_mod_cast small
  have read := @isInt_ofDecimal angle.isNegative n (by omega)
  rw [Text.number, angleText_of_isInt whole small, ofText?_ofNat, Option.getD_some]
  have value := whole.value
  rw [toRat, whole.magnitude, Int.natAbs_natCast, Int.cast_natCast] at value
  have signed : (if angle.isNegative then -(n : Int) else n) = n := by
    split at value
    · rw [if_pos ‹_›]
      exact_mod_cast value
    · rw [if_neg ‹_›]
  rwa [signed] at read

namespace Floating.IsInt

variable {x : Number} {n : Int}

/-- However many places a whole number is written with, one number is read from its text. -/
theorem number_fixed_eq (whole : IsInt x n) {places : Nat} (few : places < 399) :
    (x.fixed (places + 1)).number = ofMagnitude x.isNegative x.magnitude := by
  have count : x.magnitude * 10 ^ (places + 1) = ((n.natAbs * 10 ^ (places + 1) : Nat) : Rat) := by
    rw [whole.magnitude]
    push_cast
    rfl
  rw [Floating.number_fixed whole.finite, count, Rounding.nearestEven_natCast, Int.toNat_natCast, Number.ofDecimal]
  split
  · rename_i zero
    have zero : n.natAbs = 0 := by simpa using zero
    rw [whole.magnitude, zero, Nat.cast_zero, ofMagnitude_zero]
  · rw [if_neg (by omega), if_neg (by omega), ← count, zpow_neg, zpow_natCast, mul_inv_cancel_right₀ (by positivity)]

/-- A whole number, however great, is read as it was written with a count of places. -/
theorem number_fixed (whole : IsInt x n) {places : Nat} (few : places < 399) : IsInt (x.fixed (places + 1)).number n := by
  obtain ⟨finite, magnitude⟩ := magnitude_ofMagnitude_magnitude BinaryFormat.double_isProper x.isNegative whole.finite
  rw [whole.number_fixed_eq few]
  refine ⟨finite, ?_⟩
  rw [toRat, isNegative_ofMagnitude, magnitude, ← toRat, whole.value]

end Floating.IsInt

end SkyRegion
