import SkyRegion.Number.Floating

/-! Whole multiples of one number in another. The remainder is exact; the quotient is rounded like any other
number and then taken to the whole number it must be near. -/

namespace SkyRegion.Floating

variable {format : BinaryFormat}

/-- What is left of a number when another is taken away as often as it fits, with the sign of the first. -/
def remainder : Floating format → Floating format → Floating format
  | .nan, _ => .nan
  | _, .nan => .nan
  | .infinite _, _ => .nan
  | x@(.finite ..), .infinite _ => x
  | x@(.finite negative ..), y@(.finite ..) =>
    if y.magnitude = 0 then .nan
    else ofMagnitude negative (x.magnitude - (x.magnitude / y.magnitude).floor * y.magnitude)

/-- The greatest whole number that is not above a finite number. -/
def floor (x : Floating format) : Floating format := if x.isFinite then ofInt x.toRat.floor else x

/-- The whole number nearest to a quotient that is whole but for rounding. -/
def snap (quotient : Floating format) : Floating format :=
  let below := quotient.floor
  if (ofRat (1 / 2)).below (quotient - below) then below + 1 else below

/-- How often a number fits into another, counted toward minus infinity. -/
def floorQuotient (x y : Floating format) : Floating format :=
  let rest := x.remainder y
  let quotient := (x - rest) / y
  snap (if !rest.same 0 && rest.below 0 != y.below 0 then quotient - 1 else quotient)

end SkyRegion.Floating
