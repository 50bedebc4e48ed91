/-! Rounding of exact rationals. Every inexact step of the library passes through these two functions. -/

namespace SkyRegion.Rounding

/-- The nearest integer; a half goes to the even neighbour. -/
def nearestEven (value : Rat) : Int :=
  let below := value.floor
  let excess := value - below
  if excess < 1 / 2 then below
  else if 1 / 2 < excess then below + 1
  else if below % 2 = 0 then below
  else below + 1

/-- The `k` with `2 ^ k ≤ value < 2 ^ (k + 1)`, for a positive value. The bit lengths of numerator and
denominator leave two candidates. -/
def binade (value : Rat) : Int :=
  let upper := (value.num.natAbs.log2 : Int) - value.den.log2
  if (2 : Rat) ^ upper ≤ value then upper else upper - 1

end SkyRegion.Rounding
