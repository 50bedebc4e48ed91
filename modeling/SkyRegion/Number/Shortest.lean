import SkyRegion.Number.Floating
import SkyRegion.Text.Basic

/-! The fewest decimal digits that read back as a given number. On the grid of each length the number has
two neighbours; the first grid on which one of them reads back is taken, and of two that do the nearer. -/

namespace SkyRegion

/-- `digits · 10 ^ scale`. -/
structure ScaledDigits where
  digits : Nat
  scale : Int
  deriving DecidableEq

namespace ScaledDigits

def toRat (written : ScaledDigits) : Rat := written.digits * 10 ^ written.scale

end ScaledDigits

namespace Rounding

/-- The `k` with `10 ^ k ≤ value < 10 ^ (k + 1)`, for a positive value. -/
def decade (value : Rat) : Int :=
  if 1 ≤ value then (Nat.toDigits 10 value.floor.toNat).length - 1
  else -(Nat.toDigits 10 ((1 / value).ceil - 1).toNat).length

end Rounding

namespace Floating

variable {format : BinaryFormat}

def readsBack (x : Floating format) (written : ScaledDigits) : Bool :=
  ofMagnitude x.isNegative written.toRat = x

/-- The neighbour on one grid that reads back, the nearer one if both do; of two equally near the even. -/
def onGrid? (x : Floating format) (scale : Int) : Option ScaledDigits :=
  let position := x.magnitude / 10 ^ scale
  let lower : ScaledDigits := ⟨position.floor.toNat, scale⟩
  let upper : ScaledDigits := ⟨position.floor.toNat + 1, scale⟩
  match x.readsBack lower, x.readsBack upper with
  | true, true => some ⟨(Rounding.nearestEven position).toNat, scale⟩
  | true, false => some lower
  | false, true => some upper
  | false, false => none

/-- Tries grids of growing length from the given scale downward. -/
def shortestFrom (x : Floating format) : Nat → Int → ScaledDigits
  | 0, scale => ⟨(Rounding.nearestEven (x.magnitude / 10 ^ scale)).toNat, scale⟩
  | attempts + 1, scale => (x.onGrid? scale).getD (shortestFrom x attempts (scale - 1))

/-- Seventeen digits separate any two doubles, and nine any two single-precision numbers. -/
def shortest (x : Floating format) : ScaledDigits :=
  if x.magnitude = 0 then ⟨0, 0⟩ else shortestFrom x 17 (Rounding.decade x.magnitude)

end Floating
end SkyRegion
