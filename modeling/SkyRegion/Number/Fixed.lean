import SkyRegion.Number.Floating
import SkyRegion.Text.Basic

/-! Numbers written with a fixed count of places, rounded from the exact value with ties to even. The sign
is that of the number, so a small negative number is written as a negative zero. -/

namespace SkyRegion

open Text

/-- Decimal text of `value / 10 ^ places`. -/
def Text.ofScaled (places value : Nat) : Text :=
  let digits := Text.ofNat value
  let padded := List.replicate (places + 1 - digits.length) '0' ++ digits
  let split := padded.length - places
  if places = 0 then padded else padded.take split ++ '.' :: padded.drop split

namespace Floating

def fixed {format : BinaryFormat} (places : Nat) : Floating format → Text
  | .nan => "nan".toList
  | .infinite negative => (if negative then "-inf" else "inf").toList
  | x@(.finite negative ..) =>
    (if negative then ['-'] else []) ++
      .ofScaled places (Rounding.nearestEven (x.magnitude * 10 ^ places)).toNat

end Floating
end SkyRegion
