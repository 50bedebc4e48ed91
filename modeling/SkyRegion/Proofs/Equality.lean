import Mathlib.Algebra.Order.Field.Power
import Mathlib.Data.Rat.Floor
import Mathlib.Tactic.Linarith
import Mathlib.Tactic.Positivity
import SkyRegion.Number.Floating

/-! When numbers are equal. Finite numbers are, if their exact values are; so the sign of a zero does not count,
and everything but not-a-number equals itself. -/

namespace SkyRegion

namespace Floating

variable {format : BinaryFormat} {x y : Floating format}

theorem same_self (number : x.isNan = false) : x.same x = true := by
  cases x with
  | nan => cases number
  | infinite negative => exact beq_self_eq_true negative
  | finite negative significand exponent canonical => exact beq_self_eq_true _

theorem same_iff (finite : x.isFinite = true) (finite' : y.isFinite = true) : x.same y = true ↔ x.toRat = y.toRat := by
  cases x with
  | finite => cases y with
    | finite => exact beq_iff_eq
    | _ => cases finite'
  | _ => cases finite

theorem magnitude_nonneg (x : Floating format) : 0 ≤ x.magnitude := by
  cases x with
  | finite negative significand exponent canonical =>
    rw [magnitude]
    positivity
  | _ => exact le_rfl

/-- Equal values have equal magnitudes, and their signs differ only in a zero. -/
theorem magnitude_eq_of_toRat_eq (equal : x.toRat = y.toRat) :
    x.magnitude = y.magnitude ∧ (x.isNegative = y.isNegative ∨ y.magnitude = 0) := by
  have low := x.magnitude_nonneg
  have low' := y.magnitude_nonneg
  rw [toRat, toRat] at equal
  cases sign : x.isNegative <;> cases sign' : y.isNegative <;>
    simp only [sign, sign', Bool.false_eq_true, if_false, if_true] at equal
  · exact ⟨equal, .inl rfl⟩
  · exact ⟨by linarith, .inr (by linarith)⟩
  · exact ⟨by linarith, .inr (by linarith)⟩
  · exact ⟨by linarith, .inl rfl⟩

theorem isNan_ofParts (negative : Bool) (significand : Nat) (exponent : Int) :
    (ofParts negative significand exponent : Floating format).isNan = false := by
  rw [ofParts]
  split <;> rfl

theorem isNan_ofMagnitude (negative : Bool) (magnitude : Rat) :
    (ofMagnitude negative magnitude : Floating format).isNan = false := by
  rw [ofMagnitude]
  split
  · exact isNan_ofParts ..
  · simp only
    split <;> exact isNan_ofParts ..

theorem isFinite_of_same (finite : x.isFinite = true) (equal : x.same y = true) : y.isFinite = true := by
  cases x with
  | finite => cases y with
    | finite => rfl
    | _ => cases equal
  | _ => cases finite

theorem isNan_of_isFinite (finite : x.isFinite = true) : x.isNan = false := by
  cases x with
  | nan => cases finite
  | _ => rfl

/-- The product of a finite number is a matter of its magnitude and its sign. -/
theorem mul_congr {factor : Floating format} (finite : x.isFinite = true) (finite' : y.isFinite = true)
    (magnitudes : x.magnitude = y.magnitude) (signs : x.isNegative = y.isNegative) : x * factor = y * factor := by
  cases x with
  | finite sign => cases y with
    | finite sign' =>
      change sign = sign' at signs
      change mul _ factor = mul _ factor
      subst signs
      cases factor <;> simp only [mul, magnitudes]
    | _ => cases finite'
  | _ => cases finite

/-- Only with a finite number does a zero make a number. -/
theorem isFinite_of_isNan_mul {factor : Floating format} (finite : x.isFinite = true) (nothing : x.magnitude = 0)
    (number : (x * factor).isNan = false) : factor.isFinite = true := by
  cases x with
  | finite =>
    change (mul _ factor).isNan = false at number
    cases factor with
    | finite => rfl
    | infinite => simp [mul, nothing, isNan] at number
    | nan => cases number
  | _ => cases finite

theorem mul_of_isFinite (finite : x.isFinite = true) (finite' : y.isFinite = true) :
    x * y = ofMagnitude (x.isNegative != y.isNegative) (x.magnitude * y.magnitude) := by
  cases x with
  | finite => cases y with
    | finite => rfl
    | _ => cases finite'
  | _ => cases finite

end Floating

namespace Number

theorem zero_same : ∀ negative negative' : Bool, (Floating.zero negative : Number).same (.zero negative') = true := by
  decide +kernel

/-- Equal numbers stay equal when both are multiplied by one number, unless that makes no number of them. -/
theorem mul_same {x y factor : Number} (equal : x.same y = true) (number : (x * factor).isNan = false) :
    (x * factor).same (y * factor) = true := by
  cases finite : x.isFinite with
  | false =>
    have identical : x = y := by
      cases x <;> cases y <;> simp_all [Floating.same, Floating.isFinite]
    rw [← identical]
    exact Floating.same_self number
  | true =>
    have finite' := Floating.isFinite_of_same finite equal
    obtain ⟨magnitudes, signs | nothing⟩ := Floating.magnitude_eq_of_toRat_eq ((Floating.same_iff finite finite').mp equal)
    · rw [Floating.mul_congr finite finite' magnitudes signs] at number ⊢
      exact Floating.same_self number
    · have proper := Floating.isFinite_of_isNan_mul finite (magnitudes.trans nothing) number
      rw [Floating.mul_of_isFinite finite proper, Floating.mul_of_isFinite finite' proper, magnitudes, nothing, zero_mul,
        Floating.ofMagnitude, Floating.ofMagnitude, if_pos rfl, if_pos rfl]
      exact zero_same _ _

theorem isNan_ofDecimal (negative : Bool) (digits : Nat) (scale : Int) :
    (ofDecimal negative digits scale).isNan = false := by
  rw [ofDecimal]
  split
  · exact Floating.isNan_ofParts ..
  · split
    · rfl
    · split
      · exact Floating.isNan_ofParts ..
      · exact Floating.isNan_ofMagnitude ..

end Number
end SkyRegion
